import Skyline.PortForwardingLimit
import Skyline.Quotas

/-!
The limit of port forwardings, for requests that overlap. `add_port_forwarding` counts the
rules on the project's floating IPs one floating IP after the other, and makes its rule some
calls later, so a request may make a rule that another one has made room for itself with.
The limit is passed by the requests that are under way at a time, less one, and no further.
-/
namespace Skyline.PortForwardingRace
open Skyline.Effects Skyline.Programs Skyline.Python Skyline.Runs Skyline.Services Skyline.Tables Skyline.Threads
open Skyline.Neutron (PortForwarding FloatingIp Store)
open Skyline.PortForwarding (addPortForwarding namedFloatingIp)
open Skyline.PortForwardingLimit (Request)
open Skyline.Cloud (ownSession)
open Skyline.Quotas (Quota AtMost underWay)

/-! ## What is counted -/

def rulesOn (store : Store) (fip : FloatingIp) : List PortForwarding :=
  store.portForwardings.select fun pf => pf.floatingIpId == fip.id

/-- The rules on the floating IPs, counted one floating IP after the other. -/
def total (store : Store) (fips : List FloatingIp) : Nat := (fips.flatMap (rulesOn store)).length

def ownFips (store : Store) (project : String) : List FloatingIp :=
  store.floatingIps.select fun fip => fip.projectId == project

/-- The rules on the floating IPs of a project. -/
def used (project : String) (w : Cloud.World) : Nat := total w.cloud.neutron (ownFips w.cloud.neutron project)

/-! ## The phases of a request -/

inductive Phase
  | asking
  /-- The rules of some floating IPs have been counted, those of the others are still to be. -/
  | counting (seen : Nat) (left : List FloatingIp)
  /-- Neutron has been asked for the rule. -/
  | ended
  deriving DecidableEq

/-- The calls of `add_port_forwarding`. -/
def adding (limit : Int) (project : String) : Protocol Cloud.Answer Exn Phase where
  may
    | .asking, c => (∃ keystoneToken projectId, c = .generateSession keystoneToken projectId) ∨
        ∃ r : Request project, c = .neutron (ownSession r.profile) (.listFloatingips (some project))
    | .counting _ (fip :: _), c => ∃ session, c = .neutron session (.listPortForwardings fip.id)
    | .counting seen [], c => c.Reads ∨
        seen < limit ∧ ∃ session floatingIp body, c = .neutron session (.createPortForwarding floatingIp body)
    | .ended, _ => False
  next
    | .asking, .neutron _ (.listFloatingips _), .ok fips => .counting 0 fips
    | .counting seen (_ :: left), .neutron _ (.listPortForwardings _), .ok rules => .counting (seen + rules.length) left
    | .counting _ [], .neutron _ (.createPortForwarding _ _), _ => .ended
    | q, _, _ => q

section
variable {limit : Int} {project : String} {env : Cloud.Env}

theorem reads_next {c : Cloud.Call} (reads : c.Reads) (seen : Nat) (r : Except Exn (Cloud.Answer c)) :
    (adding limit project).next (.counting seen []) c r = .counting seen [] := by
  cases c with
  | neutron session request => cases request <;> first | rfl | exact reads.elim
  | _ => rfl

theorem reads_follows {α : Type} {m : Cloud.Remote α} (reads : m.Uses Cloud.Call.Reads) (seen : Nat) :
    Follows (adding limit project) (fun _ q => q = .counting seen []) m (.counting seen []) :=
  .of_uses (fun _ reads => Or.inl reads) (fun _ r reads => reads_next reads seen r) reads fun _ => rfl

theorem counting_follows (session : Cloud.KeystoneSession) (fips : List FloatingIp) (seen : Nat) :
    Follows (adding limit project) (fun r q => ∀ rules, r = .ok rules → q = .counting (seen + rules.length) [])
      (Program.gather fips fun fip => Clients.getPortForwardingRules session fip.id) (.counting seen fips) := by
  induction fips generalizing seen with
  | nil => exact .pure fun rules same => by cases same; rfl
  | cons fip fips ih =>
    refine .bind (.remote ⟨session, rfl⟩ fun r => ?_)
    cases r with
    | error e => exact nofun
    | ok first =>
      refine .bind ((ih (seen + first.length)).weaken fun r q after => ?_)
      cases r with
      | error e => exact nofun
      | ok rest =>
        refine .pure fun rules same => ?_
        cases same
        rw [after rest rfl, List.length_append, Nat.add_assoc]

theorem createPortForwardingRule_follows (floatingipId internalIpAddress protocol : String) (internalPort : Nat)
    (externalPort : Option Nat) {seen : Nat} (room : (seen : Int) < limit) :
    Follows (adding limit project) (fun _ _ => True)
      (Clients.createPortForwardingRule .system floatingipId internalIpAddress internalPort externalPort protocol)
      (.counting seen []) := by
  refine .bind ((reads_follows ?choosing seen).weaken fun r q stays => ?_)
  case choosing =>
    cases externalPort with
    | some port => exact .pure port
    | none => exact Clients.findRandomAvailablePort_reads _ floatingipId 10 1000
  cases r with
  | error e => trivial
  | ok port =>
    obtain rfl := stays
    refine .bind ((reads_follows (Clients.findPortByInternalIp_reads _ internalIpAddress) seen).weaken fun r q stays => ?_)
    cases r with
    | error e => trivial
    | ok internalPortId =>
      obtain rfl := stays
      exact .remote (.inr ⟨room, _, _, _, rfl⟩) fun _ => trivial

/-- What ends with an exception, whatever it is, has no more to keep to. -/
theorem raising_follows {α : Type} {m : Cloud.Remote α} {q : Phase} (body : Follows (adding limit project) (fun _ _ => True) m q)
    (f : Exn → Exn) : Follows (adding limit project) (fun _ _ => True) (Program.attempt m fun e => .raise (f e)) q := by
  refine .attempt (body.weaken fun r q _ => ?_)
  cases r with
  | ok a => trivial
  | error e => trivial

theorem addPortForwarding_follows (r : Request project) :
    Follows (adding limit project) (fun _ _ => True) (addPortForwarding limit r.body r.profile) .asking := by
  refine .bind (.bind (.remote (.inl ⟨_, _, rfl⟩) fun opened => ?_))
  cases opened with
  | error e => trivial
  | ok _ =>
    have own : Cloud.Call.neutron (ownSession r.profile) (.listFloatingips (some r.profile.project.id)) =
        .neutron (ownSession r.profile) (.listFloatingips (some project)) := by rw [r.member]
    refine raising_follows ?_ _
    refine .bind (.attempt (.remote (.inr ⟨r, own⟩) fun listed => ?_))
    cases listed with
    | error e => exact .raise trivial
    | ok fips =>
      refine .bind ((counting_follows _ fips 0).weaken fun counted q after => ?_)
      cases counted with
      | error e => trivial
      | ok rules =>
        obtain rfl := after rules rfl
        rw [Nat.zero_add]
        refine .ite (fun _ => .raise trivial) fun room => .ite (fun named => ?_) fun _ => .raise trivial
        refine .bind ((reads_follows (PortForwarding.namedFloatingIp_reads _ _) _).weaken fun r q stays => ?_)
        cases r with
        | error e => trivial
        | ok fip =>
          obtain rfl := stays
          refine .bind ((createPortForwardingRule_follows _ _ _ _ _ (Int.not_le.mp room)).weaken fun r q _ => ?_)
          cases r with
          | error e => trivial
          | ok pf => exact .pure trivial

/-! ## What a call does to the count -/

/-- The thread may still add a rule. -/
def hopeful (limit : Int) (project : String) (w : Cloud.World) : Phase → Bool
  | .asking => used project w < limit
  | .counting seen left => seen + total w.cloud.neutron left < limit
  | .ended => false

/-- The store has one rule more at most, and the same floating IPs. -/
structure Grows (store after : Store) : Prop where
  floatingIps : after.floatingIps = store.floatingIps
  rules : after.portForwardings.rows = store.portForwardings.rows ∨
    ∃ pf, after.portForwardings.rows = store.portForwardings.rows ++ [pf]

theorem createPortForwarding_grows (service : Cloud.NeutronService) (sees : String → Bool) (newId : String) (store : Store)
    (floatingIp : String) (body : Neutron.PortForwardingBody) :
    Grows store (service.perform sees newId store (.createPortForwarding floatingIp body)).2 := by
  rcases created : service.perform sees newId store (.createPortForwarding floatingIp body) with ⟨r, after⟩
  cases r with
  | ok pf =>
    obtain ⟨_, _, added⟩ := service.creates created
    exact ⟨added.floatingIps, .inr ⟨pf, added.rows⟩⟩
  | error e =>
    rw [service.createsNone created]
    exact ⟨rfl, .inl rfl⟩

section
variable {store after : Store}

theorem rulesOn_grows (grows : Grows store after) : (∀ fip, rulesOn after fip = rulesOn store fip) ∨
    ∃ id, ∀ fip, (rulesOn after fip).length = (rulesOn store fip).length + if id = fip.id then 1 else 0 := by
  rcases grows.rules with same | ⟨pf, added⟩
  · refine .inl fun fip => ?_
    rw [rulesOn, rulesOn, Table.select, Table.select, same]
  · refine .inr ⟨pf.floatingIpId, fun fip => ?_⟩
    rw [rulesOn, rulesOn, Table.select, Table.select, added, List.filter_append, List.length_append]
    by_cases on : pf.floatingIpId = fip.id
    · rw [List.filter_cons_of_pos (by simpa using on), if_pos on]
      rfl
    · rw [List.filter_cons_of_neg (by simpa using on), if_neg on]
      rfl

theorem total_mono (grows : Grows store after) (fips : List FloatingIp) : total store fips ≤ total after fips := by
  have each (fip : FloatingIp) : (rulesOn store fip).length ≤ (rulesOn after fip).length := by
    rcases rulesOn_grows grows with same | ⟨id, added⟩
    · rw [same]
    · rw [added]
      exact Nat.le_add_right _ _
  induction fips with
  | nil => exact Nat.le_refl _
  | cons fip fips ih =>
    simp only [total, List.flatMap_cons, List.length_append] at ih ⊢
    exact Nat.add_le_add (each fip) ih

/-- A rule is on one floating IP. -/
theorem total_grows (grows : Grows store after) {fips : List FloatingIp} (distinct : (fips.map FloatingIp.id).Nodup) :
    total after fips = total store fips ∨ total after fips = total store fips + 1 := by
  rcases rulesOn_grows grows with same | ⟨id, added⟩
  · exact .inl (by rw [total, total, funext same])
  · have counted : total after fips = total store fips + (fips.map FloatingIp.id).count id := by
      clear distinct
      induction fips with
      | nil => rfl
      | cons fip fips ih =>
        simp only [total, List.flatMap_cons, List.length_append, added] at ih ⊢
        rw [ih]
        by_cases on : id = fip.id
        · simp [on]; omega
        · simp [on, Ne.symm on]; omega
    rw [counted]
    have once := List.nodup_iff_count_le_one.mp distinct id
    omega

end

theorem used_grows {w w' : Cloud.World} (grows : Grows w.cloud.neutron w'.cloud.neutron) :
    used project w' = used project w ∨ used project w' = used project w + 1 := by
  have same : ownFips w'.cloud.neutron project = ownFips w.cloud.neutron project := by
    rw [ownFips, ownFips, grows.floatingIps]
  rw [used, same]
  exact total_grows grows ((List.filter_sublist.map FloatingIp.id).nodup w.cloud.neutron.floatingIps.unique)

theorem used_mono {w w' : Cloud.World} (grows : Grows w.cloud.neutron w'.cloud.neutron) :
    used project w ≤ used project w' := by
  rcases used_grows grows with same | more
  · exact Nat.le_of_eq same.symm
  · exact Nat.le_of_lt (more ▸ Nat.lt_succ_self _)

theorem hopeful_grows {w w' : Cloud.World} (grows : Grows w.cloud.neutron w'.cloud.neutron) (q : Phase)
    (still : hopeful limit project w' q) : hopeful limit project w q := by
  cases q with
  | asking =>
    have before : used project w ≤ used project w' := used_mono grows
    simp only [hopeful, decide_eq_true_eq] at still ⊢
    omega
  | counting seen left =>
    have before := total_mono grows left
    simp only [hopeful, decide_eq_true_eq] at still ⊢
    omega
  | ended => exact still

/-- What `add_port_forwarding` calls changes nothing, or asks for a rule. -/
theorem may_cases {q : Phase} {c : Cloud.Call} (may : (adding limit project).may q c) : c.Reads ∨
    ∃ seen : Nat, q = .counting seen [] ∧ seen < limit ∧
      ∃ session floatingIp body, c = .neutron session (.createPortForwarding floatingIp body) := by
  cases q with
  | asking =>
    rcases may with ⟨_, _, rfl⟩ | ⟨_, rfl⟩
    · exact .inl trivial
    · exact .inl trivial
  | counting seen left =>
    cases left with
    | cons fip left =>
      obtain ⟨_, rfl⟩ := may
      exact .inl trivial
    | nil =>
      rcases may with reads | ⟨room, asked⟩
      · exact .inl reads
      · exact .inr ⟨seen, rfl, room, asked⟩
  | ended => exact may.elim

theorem serve_grows {q : Phase} {c : Cloud.Call} (may : (adding limit project).may q c) (w : Cloud.World) :
    Grows w.cloud.neutron (Cloud.serve env c w).2.cloud.neutron := by
  have stays : Grows w.cloud.neutron w.cloud.neutron := ⟨rfl, .inl rfl⟩
  rcases Cloud.serve_cloud env (c := c) (w := w) with same | performed
  · rw [same]
    exact stays
  · rw [performed]
    rcases may_cases may with reads | ⟨_, _, _, session, floatingIp, body, rfl⟩
    · rw [Cloud.perform_reads env reads]
      exact stays
    · exact createPortForwarding_grows env.neutronService _ _ _ _ _

theorem serve_reads {c : Cloud.Call} (reads : c.Reads) (w : Cloud.World) : (Cloud.serve env c w).2.cloud = w.cloud := by
  rcases Cloud.serve_cloud env (c := c) (w := w) with same | performed
  · exact same
  · exact performed.trans (Cloud.perform_reads env reads)

theorem listFloatingips_own {session : Cloud.KeystoneSession} (sees : env.sees session project = true) (store : Store) :
    Neutron.listFloatingips (env.sees session) store (some project) = ownFips store project := by
  refine List.filter_congr fun fip _ => ?_
  rw [Bool.eq_iff_iff, Bool.and_eq_true_iff, Option.all_some, beq_iff_eq, beq_iff_eq]
  exact ⟨fun both => both.2.symm, fun own => ⟨own ▸ sees, own.symm⟩⟩

/-- A call that reads makes a thread no more hopeful than it was. -/
theorem reads_hopeful (sees : ∀ r : Request project, env.sees (ownSession r.profile) project = true) {w : Cloud.World}
    {q : Phase} {c : Cloud.Call} (may : (adding limit project).may q c) (reads : c.Reads)
    (still : hopeful limit project (Cloud.serve env c w).2 ((adding limit project).next q c (Cloud.serve env c w).1)) :
    hopeful limit project w q := by
  have stays : Grows w.cloud.neutron (Cloud.serve env c w).2.cloud.neutron := serve_grows may w
  have same : (Cloud.serve env c w).2.cloud = w.cloud := serve_reads reads w
  rcases served : Cloud.serve env c w with ⟨r, w'⟩
  rw [served] at still stays same
  replace same : w'.cloud = w.cloud := same
  cases q with
  | asking =>
    rcases may with ⟨_, _, rfl⟩ | ⟨request, rfl⟩
    · exact hopeful_grows stays .asking still
    · cases r with
      | error e => exact hopeful_grows stays .asking still
      | ok fips =>
        have listed := congrArg Prod.fst (Cloud.serve_ok env served)
        obtain rfl : fips = ownFips w.cloud.neutron project :=
          (Except.ok.inj ((env.neutronService.listFloatingips (some project)).symm.trans listed)).symm.trans
            (listFloatingips_own (sees request) _)
        have within : hopeful limit project w' (.counting 0 (ownFips w.cloud.neutron project)) = true := still
        rw [hopeful, same, decide_eq_true_eq] at within
        have fewer : (used project w : Int) < limit := by
          unfold used
          omega
        exact decide_eq_true fewer
  | counting seen left =>
    cases left with
    | nil =>
      rw [reads_next reads] at still
      exact hopeful_grows stays _ still
    | cons fip left =>
      obtain ⟨session, rfl⟩ := may
      cases r with
      | error e => exact hopeful_grows stays (.counting seen (fip :: left)) still
      | ok rules =>
        have listed := congrArg Prod.fst (Cloud.serve_ok env served)
        obtain rfl : rules = rulesOn w.cloud.neutron fip := (env.neutronService.listPortForwardings.mp listed).2
        have within : hopeful limit project w' (.counting (seen + (rulesOn w.cloud.neutron fip).length) left) = true := still
        rw [hopeful, same] at within
        simpa [hopeful, total, Int.add_assoc] using within
  | ended => exact may.elim

variable (env) in
/-- The limit of a project, for the requests of its members. -/
def race (limit : Int) (project : String) (sees : ∀ r : Request project, env.sees (ownSession r.profile) project = true) :
    Quota (adding limit project) (Cloud.serve env) fun _ : Request project => Phase.asking where
  limit := limit
  count := used project
  hopeful := hopeful limit project
  spends w q c may := by
    rcases may_cases may with reads | ⟨seen, rfl, room, session, floatingIp, body, rfl⟩
    · have same : used project (Cloud.serve env c w).2 = used project w := by
        rw [used, used, serve_reads reads]
      exact .inl ⟨same, fun _ => reads_hopeful sees may reads⟩
    · have before : hopeful limit project w (.counting seen []) = true := by simpa [hopeful, total] using room
      rcases used_grows (serve_grows may w) with same | more
      · exact .inl ⟨same, fun _ _ => before⟩
      · exact .inr ⟨more, before, Bool.false_ne_true⟩
  others w q c may _ q' still := hopeful_grows (serve_grows may w) q' still
  late w _ reached still := by
    simp only [hopeful, decide_eq_true_eq] at still
    omega

end

/-! ## Overlapping requests -/

abbrev Requests (project : String) : Type := Pool Cloud.World (Request project) Cloud.Answer Exn PortForwarding.Added

/-- All the ways in which the calls of the requests interleave. -/
def requests (env : Cloud.Env) (limit : Int) (project : String) (w : Cloud.World) :
    System (Requests project) (Label (Request project)) (Label (Request project)) :=
  pool (Cloud.serve env) (fun r : Request project => addPortForwarding limit r.body r.profile) w

/-- However requests of a project's members overlap, where at most `k` of them are under way at
    a time the rules on the project's floating IPs pass the limit by less than `k`. -/
theorem overlapping_limit (env : Cloud.Env) (limit : Int) (project : String) (w : Cloud.World) (k : Nat)
    (sees : ∀ r : Request project, env.sees (ownSession r.profile) project = true) (some : 0 < k)
    (initial : used project w ≤ limit) (past : List (Label (Request project))) (p : Requests project)
    (run : (requests env limit project w).Run (AtMost k) past p) : used project p.state < limit + k :=
  (race env limit project sees).overshoot addPortForwarding_follows some initial run

/-- A request for another port of the floating IP. -/
def otherRequest : Request "project" :=
  { PortForwardingLimit.ownRequest with
    body := { PortForwardingLimit.ownRequest.body with externalPort := some ⟨10025, by decide⟩ } }

/-- Neutron gives each of the two rules an id of its own. -/
def naming : Cloud.Env :=
  { Cloud.obliging with
    newId := fun
      | .createPortForwarding _ body, _ => if body.externalPort = 10024 then "rule-1" else "rule-2"
      | _, _ => "" }

/-- Two requests count no rule and make one each, where the limit is one rule. -/
theorem both_count_first : ∃ past p,
    (requests naming 1 "project" ⟨PortForwardingLimit.spread, []⟩).Run (AtMost 2) past p ∧
      used "project" p.state = 2 ∧ (used "project" p.state : Int) < 1 + (2 : Nat) := by
  obtain ⟨past, p, run, reached⟩ := (requests naming 1 "project" ⟨PortForwardingLimit.spread, []⟩).exec_reaches
    (AtMost 2) (P := fun p => used "project" p.state = 2)
    [.start PortForwardingLimit.ownRequest, .start otherRequest, .advance 0, .advance 0, .advance 0, .advance 1, .advance 1,
      .advance 1, .advance 0, .advance 0, .advance 0, .advance 1, .advance 1, .advance 1] (by decide)
  have sees (r : Request "project") : naming.sees (ownSession r.profile) "project" = true := beq_iff_eq.mpr r.member
  exact ⟨past, p, run, reached, overlapping_limit naming 1 "project" _ 2 sees (by decide) (by decide) past p run⟩

end Skyline.PortForwardingRace
