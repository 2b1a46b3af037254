import Skyline.InstanceDeletion
import Skyline.Retries

/-!
Deletions that go wrong half way. `delete_instance` cleans up the rules of the instance
before it asks Nova for anything that Nova may refuse, and records the activity between
Nova's deletion and the steps that follow it. So a deletion that Nova refuses may have
taken rules away, and one that Nova carries out may leave the volumes and the lifecycle
row behind. Here it is said exactly which failures of which calls do so.
-/
namespace Skyline.DeletionFailure
open Skyline.Python Skyline.Tables Skyline.Effects Skyline.Programs Skyline.Retries Skyline.Neutron Skyline.Cloud
  Skyline.Clients Skyline.InstanceDeletion
open Skyline.Services (Backend Delivery)
open Skyline.Session (Profile)

/-! ## All or nothing -/

/-- Nova had the instance, and has it no longer. -/
def Accepted (instanceId : String) (before after : State) : Prop :=
  (∃ server ∈ before.servers, server.id = instanceId) ∧ ∀ server ∈ after.servers, server.id ≠ instanceId

/-- The rules and the lifecycle row of the instance are as they were. -/
structure Untouched (instanceId : String) (before after : State) : Prop where
  proxy : ∀ r : Proxy.Rule, r.userVmId = instanceId → (r ∈ after.proxy ↔ r ∈ before.proxy)
  neutron : ∀ pf, AttachedTo before instanceId pf →
    (pf ∈ after.neutron.portForwardings ↔ pf ∈ before.neutron.portForwardings)
  lifecycle : after.lifecycle.find instanceId = before.lifecycle.find instanceId

/-- The volumes of the instance are to be deleted, and the removal of its lifecycle row
    was attempted. -/
structure FollowedUp (instanceId : String) (before after : World) (result : Except Exn (List VolumeTask)) : Prop where
  volumes : ∀ server ∈ before.cloud.servers, server.id = instanceId → server.volumes ≠ [] →
    ∃ tasks, result = .ok tasks ∧ ∃ task ∈ tasks, task.instanceId = instanceId ∧ task.volumeIds = server.volumes
  lifecycle : before.calls.count (.database (.deleteInstanceLifecycle instanceId)) <
    after.calls.count (.database (.deleteInstanceLifecycle instanceId))

structure AllOrNothing (instanceId : String) (before after : World) (result : Except Exn (List VolumeTask)) : Prop where
  nothing : ¬ Accepted instanceId before.cloud after.cloud → Untouched instanceId before.cloud after.cloud
  all : Accepted instanceId before.cloud after.cloud → FollowedUp instanceId before after result

theorem Untouched.refl (instanceId : String) (cloud : State) : Untouched instanceId cloud cloud :=
  ⟨fun _ _ => Iff.rfl, fun _ _ => Iff.rfl, rfl⟩

theorem not_accepted {instanceId : String} {before after : State} (same : after.servers = before.servers) :
    ¬ Accepted instanceId before after := by
  rintro ⟨⟨server, there, named⟩, gone⟩
  exact gone server (same ▸ there) named

/-! ## Which calls do what -/

/-- What becomes of the next call of a kind. -/
def upcoming (env : Env) (w : World) (c : Call) : Delivery Exn := env.delivery c (w.calls.count c)

/-- What comes of asking the Proxy for the rules of a VM, for the `k`-th time. -/
def listing (env : Env) (w : World) (vmId : String) (k : Nat) : Except Exn (List Proxy.Rule) :=
  match env.delivery (.proxy (.byVm vmId)) k with
  | .refused e | .lost e => .error e
  | .answered => handleResponse (env.proxyService.perform (env.proxyRefuses (.byVm vmId) k)
      (env.proxyChoice (.byVm vmId) k) w.cloud.proxy (.byVm vmId)).1

/-- The rules that the clean-up gets from the Proxy. -/
def listed (env : Env) (w : World) (vmId : String) : Except Exn (List Proxy.Rule) :=
  tried (· == .networkError) .retryError (listing env w vmId) 3 (w.calls.count (.proxy (.byVm vmId)))

/-- Whether the Proxy deletes the rule of an id when it is asked for the `k`-th time. -/
def deletes (env : Env) (ruleId : String) (k : Nat) : Bool :=
  (env.delivery (.proxy (.delete ruleId)) k).arrives && (env.proxyRefuses (.delete ruleId) k).isNone

/-- How often the clean-up asks the Proxy to delete the rule of an id: up to three times
    for each rule listed that it takes this for the id of. -/
def deletions (env : Env) (w : World) (rules : List Proxy.Rule) (ruleId : String) : Nat :=
  repeated (sends (networkFails (env.delivery (.proxy (.delete ruleId)))) 3)
    (rules.countP fun r => truthy (idOrRuleId r) && idOrRuleId r == ruleId) (w.calls.count (.proxy (.delete ruleId)))

/-- The clean-up takes the rule from the Proxy. -/
def ProxyCleans (env : Env) (instanceId : String) (w : World) (r : Proxy.Rule) : Prop :=
  ∃ rules, listed env w instanceId = .ok rules ∧ ∃ j < deletions env w rules r.ruleId,
    deletes env r.ruleId (w.calls.count (.proxy (.delete r.ruleId)) + j) = true

/-- The clean-up takes the rule from Neutron. -/
def NeutronCleans (env : Env) (session : KeystoneSession) (instanceId : String) (w : World) (pf : PortForwarding) :
    Prop :=
  clearedIp env session w instanceId = some pf.internalIpAddress ∧
    upcoming env w (.neutron .system (.listFloatingips none)) = .answered ∧
    upcoming env w (.neutron .system (.listPortForwardings pf.floatingIpId)) = .answered ∧
    (upcoming env w (.neutron .system (.deletePortForwarding pf.floatingIpId pf.id))).arrives = true

/-- What is recorded of a deletion. -/
def activity (profile : Profile) (instanceId : String) (volumeIds : List String) : ActivityRecord where
  userId := profile.user.id
  projectId := profile.project.id
  category := "인스턴스 삭제"
  message := "인스턴스 '" ++ instanceId ++ "' 삭제 (볼륨: " ++ strIds volumeIds ++ ")"
  status := "success"
  token := ""

/-- The user's session can be opened. -/
def Opens (env : Env) (profile : Profile) (w : World) : Prop :=
  upcoming env w (.generateSession profile.keystoneToken profile.project.id) = .answered

/-- Nova gets to the deletion of a server and carries it out: the session sees the server,
    and its volumes can be listed. -/
structure Accepts (env : Env) (session : KeystoneSession) (instanceId : String) (w : World) (server : Server) :
    Prop where
  visible : findServer (env.sees session) w.cloud.servers instanceId = .ok server
  volumes : upcoming env w (.nova session (.getServerVolumes instanceId)) = .answered
  arrives : (upcoming env w (.nova session (.deleteServer instanceId))).arrives = true

/-- Nova's answer to the deletion comes back, and the activity is recorded. -/
structure Completes (env : Env) (profile : Profile) (session : KeystoneSession) (instanceId : String) (w : World)
    (server : Server) : Prop where
  deleted : upcoming env w (.nova session (.deleteServer instanceId)) = .answered
  recorded : upcoming env w (.database (.createActivityRecord (activity profile instanceId server.volumes))) = .answered

/-! ## The Proxy's rules -/

section
variable {env : Env} {c : Call} {w s : World} {session : KeystoneSession} {instanceId : String}

theorem mem_delete_served (r : Proxy.Rule) (s : World) :
    r ∈ (serve env (.proxy (.delete r.ruleId)) s).2.cloud.proxy ↔
      r ∈ s.cloud.proxy ∧ ¬ deletes env r.ruleId (s.calls.count (.proxy (.delete r.ruleId))) = true := by
  have performed : ∀ n, r ∈ ((Call.proxy (.delete r.ruleId)).perform env n s.cloud).2.proxy ↔
      r ∈ s.cloud.proxy ∧ ¬ (env.proxyRefuses (.delete r.ruleId) n).isNone = true := by
    intro n
    dsimp only [Call.perform]
    cases env.proxyRefuses (.delete r.ruleId) n with
    | some refusal => simp [env.proxyService.refused]
    | none =>
      rw [env.proxyService.mem_deleted]
      simp
  unfold deletes
  cases delivered : env.delivery (.proxy (.delete r.ruleId)) (s.calls.count (.proxy (.delete r.ruleId))) with
  | refused e => simp [serve_refused env delivered, Delivery.arrives]
  | lost e =>
    simp only [serve_lost env delivered, Delivery.arrives, Bool.true_and]
    exact performed _
  | answered =>
    simp only [serve_answered env delivered, Delivery.arrives, Bool.true_and]
    exact performed _

/-- Deleting the rule of another id leaves a rule. -/
theorem mem_other_served {ruleId : String} (r : Proxy.Rule) (other : ruleId ≠ r.ruleId) (s : World) :
    r ∈ (serve env (.proxy (.delete ruleId)) s).2.cloud.proxy ↔ r ∈ s.cloud.proxy := by
  refine iff_of_eq (serve_keeps env (c := .proxy (.delete ruleId)) (I := fun cloud =>
    (r ∈ cloud.proxy) = (r ∈ s.cloud.proxy)) ?_ s rfl)
  intro n cloud same
  rw [← same]
  dsimp only [Call.perform]
  rcases env.proxyService.deletion (env.proxyRefuses (.delete ruleId) n) (env.proxyChoice (.delete ruleId) n)
    cloud.proxy ruleId with ⟨removed, _⟩ | ⟨_, _, none⟩
  · rw [removed, Table.mem_delete, and_iff_left other.symm]
  · rw [none]

/-- What the sendings of a request to delete a rule make of whether it is there. -/
abbrev staying (env : Env) (r : Proxy.Rule) (k : Nat) (there : Prop) : Prop := there ∧ ¬ deletes env r.ruleId k = true

/-- A deletion sends its request up to three times. -/
theorem deletePortforwarding_sends (r : Proxy.Rule) :
    Sends (fun _ => True) (fun s => s.calls.count (.proxy (.delete r.ruleId))) (fun s => r ∈ s.cloud.proxy) (staying env r)
      (sends (networkFails (env.delivery (.proxy (.delete r.ruleId)))) 3)
      ((Portforward.deletePortforwarding r.ruleId).run (serve env)) := by
  rw [Portforward.deletePortforwarding, exchange, retryOnNetworkError, Program.run_retry]
  refine Sends.retry (fun s _ => ?_) (fun s => (attempt_fails (proxy_fails (.delete r.ruleId) s)).symm) 3
  rw [attempt_state, proxy, Program.run_remote, Backend.count_served]
  exact ⟨trivial, rfl, propext (mem_delete_served r s)⟩

/-- What sends no request to delete the rule leaves it. -/
theorem other_sends {α : Type} {m : Remote α} (r : Proxy.Rule)
    (uses : m.Uses fun c => ∃ ruleId, c = .proxy (.delete ruleId) ∧ ruleId ≠ r.ruleId) :
    Sends (fun _ => True) (fun s => s.calls.count (.proxy (.delete r.ruleId))) (fun s => r ∈ s.cloud.proxy) (staying env r)
      (fun _ => 0) (m.run (serve env)) := by
  intro s _
  refine ⟨trivial, Program.run_keeps (I := fun t => t.calls.count (.proxy (.delete r.ruleId)) =
    s.calls.count (.proxy (.delete r.ruleId)) + 0 ∧ (r ∈ t.cloud.proxy) = (r ∈ s.cloud.proxy)) ?_ uses s ⟨rfl, rfl⟩⟩
  rintro _ ⟨ruleId, rfl, other⟩ t ⟨counted, same⟩
  refine ⟨?_, ?_⟩
  · rw [Backend.count_other (by simpa using other), counted]
  · rw [mem_other_served r other, same]

/-- The pass of the clean-up's loop over one rule that was listed. -/
def cleanOne (extPf : Proxy.Rule) : Remote Unit := .ignoring <|
  if truthy (idOrRuleId extPf) then Portforward.deletePortforwarding (idOrRuleId extPf) else pure ()

theorem ignoring_neverRaises (m : Remote Unit) : NeverRaises ((Program.ignoring m).run (serve env)) := by
  intro s
  rw [Program.run_ignoring]

theorem ignoring_sends {count : World → Nat} {V : Type} {view : World → V} {effect : Nat → V → V} {times : Nat → Nat}
    {m : Remote Unit} (sending : Sends (fun _ => True) count view effect times (m.run (serve env))) :
    Sends (fun _ => True) count view effect times ((Program.ignoring m).run (serve env)) := by
  intro s
  rw [Program.run_ignoring]
  exact sending s

variable (env) in
/-- The loop sends the request to delete a rule for each rule listed that it takes this for
    the id of. -/
theorem cleanAll_sends (r : Proxy.Rule) (rules : List Proxy.Rule) :
    Sends (fun _ => True) (fun s => s.calls.count (.proxy (.delete r.ruleId))) (fun s => r ∈ s.cloud.proxy) (staying env r)
      (repeated (sends (networkFails (env.delivery (.proxy (.delete r.ruleId)))) 3)
        (rules.countP fun x => truthy (idOrRuleId x) && idOrRuleId x == r.ruleId))
      ((Program.forEach rules cleanOne).run (serve env)) := by
  rw [Program.run_forEach]
  refine Sends.forEach (fun x => ignoring_neverRaises _) (fun x _ own => ?_) fun x _ own => ?_
  · obtain ⟨long, same⟩ := Bool.and_eq_true_iff.mp own
    rw [cleanOne, if_pos long, beq_iff_eq.mp same]
    exact ignoring_sends (deletePortforwarding_sends r)
  · refine ignoring_sends (other_sends r ?_)
    by_cases long : truthy (idOrRuleId x) = true
    · rw [if_pos long]
      exact exchange_uses (.remote ⟨_, rfl, by simpa [long] using own⟩)
    · rw [if_neg long]
      exact .pure ()

variable (env) in
theorem getPortforwardingsByVm_result (vmId : String) (w : World) :
    ((Portforward.getPortforwardingsByVm vmId).run (serve env) w).1 = listed env w vmId := by
  rw [Portforward.getPortforwardingsByVm, exchange, retryOnNetworkError, Program.run_retry]
  have kept : Eff.Keeps (fun s => s.cloud = w.cloud) (serve env (.proxy (.byVm vmId))) := by
    apply serve_keeps env (I := fun cloud => cloud = w.cloud)
    intro n cloud same
    rw [perform_reads env (c := .proxy (.byVm vmId)) trivial, same]
  refine retry_result (fun s : World => s.calls.count (.proxy (.byVm vmId))) (I := fun s => s.cloud = w.cloud)
    (fun s inv => ?_) (fun s => ?_) (fun s inv => ?_) 3 rfl
  · rw [attempt_state]
    exact kept s inv
  · rw [attempt_state, proxy, Program.run_remote, Backend.count_served]
  · rw [Program.run_bind, Eff.bind_run, proxy, Program.run_remote, listing]
    cases delivered : env.delivery (.proxy (.byVm vmId)) (s.calls.count (.proxy (.byVm vmId))) with
    | refused e => simp [serve_refused env delivered]
    | lost e => simp [serve_lost env delivered]
    | answered =>
      rw [serve_answered env delivered, inv]
      rfl

variable (env) in
theorem cleanProxy_mem (instanceId : String) (w : World) (r : Proxy.Rule) :
    r ∈ ((cleanProxy instanceId).run (serve env) w).2.cloud.proxy ↔
      r ∈ w.cloud.proxy ∧ ¬ ProxyCleans env instanceId w r := by
  rw [cleanProxy, Program.run_ignoring, Program.run_bind]
  have heard := getPortforwardingsByVm_result env instanceId w
  rcases asked : (Portforward.getPortforwardingsByVm instanceId).run (serve env) w with ⟨result, w₁⟩
  rw [asked] at heard
  have kept : w₁.cloud = w.cloud := reads_keep env (exchange_uses (.remote trivial)) asked
  have asks : (Portforward.getPortforwardingsByVm instanceId).Uses (· = .proxy (.byVm instanceId)) :=
    exchange_uses (.remote rfl)
  have count : w₁.calls.count (.proxy (.delete r.ruleId)) = w.calls.count (.proxy (.delete r.ruleId)) :=
    Backend.uses_count asks asked (by simp)
  cases result with
  | error e =>
    have unheard : ¬ ProxyCleans env instanceId w r := by
      rintro ⟨rules, same, _⟩
      rw [← heard] at same
      cases same
    rw [Eff.bind_error asked, kept, and_iff_left unheard]
  | ok rules =>
    have cleaned := (cleanAll_sends env r rules w₁ trivial).2.2
    rw [effects_stays] at cleaned
    dsimp only at cleaned
    rw [count, kept] at cleaned
    rw [Eff.bind_ok asked]
    refine (iff_of_eq cleaned).trans (and_congr_right fun _ => not_congr ⟨?_, ?_⟩)
    · intro taken
      exact ⟨rules, heard.symm, taken⟩
    · rintro ⟨others, same, taken⟩
      obtain rfl : rules = others := Except.ok.inj (heard.trans same)
      exact taken

/-! ## Neutron's rules -/

/-- Whether what was found is a rule. -/
def isRule (pf : PortForwarding) (found : Found) : Bool := found.id == pf.id && found.floatingIpId == pf.floatingIpId

/-- Among the rules found on a floating IP, a rule is there once, if it is on that one. -/
theorem countP_foundOn {store : Store} {pf : PortForwarding} (there : pf ∈ store.portForwardings) (ip : String)
    (fip : FloatingIp) : (foundOn store ip fip).countP (isRule pf) =
      if fip.id = pf.floatingIpId ∧ pf.internalIpAddress = ip then 1 else 0 := by
  have once : store.portForwardings.rows.count pf = 1 :=
    List.count_eq_one_of_mem (List.Nodup.of_map _ store.portForwardings.unique) there
  have pick : ∀ x ∈ store.portForwardings.rows,
      (((isRule pf ∘ Found.of fip) x && (x.internalIpAddress == ip && x.floatingIpId == fip.id)) = true ↔
        (x == pf && decide (fip.id = pf.floatingIpId ∧ pf.internalIpAddress = ip)) = true) := by
    intro x member
    simp only [Function.comp_apply, isRule, Found.of, Bool.and_eq_true, beq_iff_eq, decide_eq_true_iff]
    constructor
    · rintro ⟨⟨same, named⟩, address, _⟩
      obtain rfl := Table.eq_of_key member there same
      exact ⟨rfl, named, address⟩
    · rintro ⟨rfl, named, address⟩
      exact ⟨⟨rfl, named⟩, address, named.symm⟩
  rw [foundOn, List.countP_map, Table.select, List.countP_filter, List.countP_filter]
  simp only [Bool.and_assoc]
  rw [List.countP_congr pick]
  by_cases here : fip.id = pf.floatingIpId ∧ pf.internalIpAddress = ip
  · rw [List.count_eq_countP] at once
    simpa [here] using once
  · simp [here]

variable (env) in
theorem searchFloatingIp_result (ip : String) {fip : FloatingIp} (w : World)
    (member : fip ∈ w.cloud.neutron.floatingIps) :
    ∃ found t, (searchFloatingIp ip fip).run (serve env) w = (.ok found, t) ∧
      found = if upcoming env w (.neutron .system (.listPortForwardings fip.id)) = .answered then
        foundOn w.cloud.neutron ip fip else [] := by
  rw [searchFloatingIp, Program.run_attempt, Eff.attempt_run, Program.run_bind, Eff.bind_run, neutron,
    Program.run_remote, upcoming]
  cases delivered : env.delivery (.neutron .system (.listPortForwardings fip.id))
      (w.calls.count (.neutron .system (.listPortForwardings fip.id))) with
  | refused e => simp [serve_refused env delivered, Program.run_pure]
  | lost e => simp [serve_lost env delivered, Program.run_pure]
  | answered =>
    rw [serve_answered env delivered]
    simp only [Call.perform, sees_system, env.neutronService.lists_all member, Program.run_pure, if_true]
    exact ⟨_, _, rfl, rfl⟩

theorem searchFloatingIp_reads (ip : String) (fip : FloatingIp) : (searchFloatingIp ip fip).Uses Call.Reads := by
  refine .attempt (.bind ?_ fun _ => .pure _) fun _ => .pure _
  exact .remote (c := Call.neutron .system (.listPortForwardings fip.id)) trivial

theorem searchFloatingIp_lists (ip : String) (fip : FloatingIp) :
    (searchFloatingIp ip fip).Uses (· = .neutron .system (.listPortForwardings fip.id)) :=
  .attempt (.bind (.remote rfl) fun _ => .pure _) fun _ => .pure _

/-- The search finds a rule once, if it has the address and the rules of its floating IP
    could be listed. -/
theorem gather_countP {pf : PortForwarding} (ip : String) {fips : List FloatingIp} {w : World}
    (there : pf ∈ w.cloud.neutron.portForwardings) (distinct : (fips.map FloatingIp.id).Nodup)
    (known : ∀ fip ∈ fips, fip ∈ w.cloud.neutron.floatingIps) :
    ∃ pfs t, (Program.gather fips (searchFloatingIp ip)).run (serve env) w = (.ok pfs, t) ∧
      pfs.countP (isRule pf) = if pf.floatingIpId ∈ fips.map FloatingIp.id ∧ pf.internalIpAddress = ip ∧
        upcoming env w (.neutron .system (.listPortForwardings pf.floatingIpId)) = .answered then 1 else 0 := by
  induction fips generalizing w with
  | nil => exact ⟨[], w, rfl, rfl⟩
  | cons fip fips ih =>
    obtain ⟨found, t, ran, which⟩ := searchFloatingIp_result env ip w (known fip List.mem_cons_self)
    have kept : t.cloud = w.cloud := reads_keep env (searchFloatingIp_reads ip fip) ran
    obtain ⟨fresh, others⟩ := List.nodup_cons.mp distinct
    rw [← kept] at there known
    obtain ⟨pfs, u, rest, count⟩ := ih there others fun fip member => known fip (List.mem_cons_of_mem _ member)
    refine ⟨found ++ pfs, u, ?_, ?_⟩
    · rw [Program.gather, Program.run_bind, Eff.bind_ok ran, Program.run_bind, Eff.bind_ok rest]
      rfl
    · rw [List.countP_append, count, which]
      by_cases here : fip.id = pf.floatingIpId
      · rw [here] at fresh ⊢
        rw [kept] at there
        by_cases answered : upcoming env w (.neutron .system (.listPortForwardings pf.floatingIpId)) = .answered
        · simp [answered, countP_foundOn there, here, fresh]
        · simp [answered, fresh]
      · have same : upcoming env t (.neutron .system (.listPortForwardings pf.floatingIpId)) =
            upcoming env w (.neutron .system (.listPortForwardings pf.floatingIpId)) := by
          rw [upcoming, upcoming, Backend.uses_count (searchFloatingIp_lists ip fip) ran (by simpa using Ne.symm here)]
        rw [kept] at there
        rw [same]
        split
        · simp [countP_foundOn there, here, Ne.symm here]
        · simp [Ne.symm here]

/-- The request to delete a rule. -/
abbrev deletion (pf : PortForwarding) : Call := .neutron .system (.deletePortForwarding pf.floatingIpId pf.id)

/-- What the requests to delete a rule make of whether it is there. -/
abbrev surviving (env : Env) (pf : PortForwarding) (k : Nat) (there : Prop) : Prop :=
  there ∧ ¬ (env.delivery (deletion pf) k).arrives = true

variable (env) in
theorem mem_deletion_served (pf : PortForwarding) (s : World) :
    pf ∈ (serve env (deletion pf) s).2.cloud.neutron.portForwardings ↔
      pf ∈ s.cloud.neutron.portForwardings ∧ ¬ (env.delivery (deletion pf) (s.calls.count (deletion pf))).arrives = true := by
  cases delivered : env.delivery (deletion pf) (s.calls.count (deletion pf)) with
  | refused e => simp [serve_refused env delivered, Delivery.arrives]
  | lost e => simp [serve_lost env delivered, Delivery.arrives, Call.perform, env.neutronService.mem_deleted]
  | answered => simp [serve_answered env delivered, Delivery.arrives, Call.perform, env.neutronService.mem_deleted]

theorem mem_other_deletion {pf : PortForwarding} {floatingIp pfId : String}
    (other : ¬ (pfId = pf.id ∧ floatingIp = pf.floatingIpId)) (s : World) :
    pf ∈ (serve env (.neutron .system (.deletePortForwarding floatingIp pfId)) s).2.cloud.neutron.portForwardings ↔
      pf ∈ s.cloud.neutron.portForwardings := by
  refine iff_of_eq (serve_keeps env (c := .neutron .system (.deletePortForwarding floatingIp pfId)) (I := fun cloud =>
    (pf ∈ cloud.neutron.portForwardings) = (pf ∈ s.cloud.neutron.portForwardings)) ?_ s rfl)
  intro n cloud same
  have apart : ¬ (pf.id = pfId ∧ pf.floatingIpId = floatingIp) := fun is => other ⟨is.1.symm, is.2.symm⟩
  rw [← same]
  simp [Call.perform, env.neutronService.mem_deleted, apart]

variable (env) in
/-- The loop asks Neutron to delete a rule as often as it was found. -/
theorem deleteRules_sends (pf : PortForwarding) (pfs : List Found) :
    Sends (fun _ => True) (fun s => s.calls.count (deletion pf)) (fun s => pf ∈ s.cloud.neutron.portForwardings) (surviving env pf)
      (repeated (fun _ => 1) (pfs.countP (isRule pf))) ((deleteRules pfs).run (serve env)) := by
  rw [deleteRules, Program.run_forEach]
  refine Sends.forEach (fun x => ignoring_neverRaises _) (fun x _ own => ignoring_sends fun s _ => ?_)
    fun x _ own => ignoring_sends fun s _ => ?_
  · obtain ⟨same, on⟩ := Bool.and_eq_true_iff.mp own
    rw [beq_iff_eq.mp same, beq_iff_eq.mp on, deletePortForwardingRule, neutron, Program.run_remote, Backend.count_served]
    exact ⟨trivial, rfl, propext (mem_deletion_served env pf s)⟩
  · have other : ¬ (x.id = pf.id ∧ x.floatingIpId = pf.floatingIpId) := by simpa [isRule] using own
    rw [deletePortForwardingRule, neutron, Program.run_remote]
    refine ⟨trivial, Backend.count_other (fun same => other ?_) s, propext (mem_other_deletion other s)⟩
    simpa [and_comm] using same

theorem getServerInternalIp_asks (session : KeystoneSession) (instanceId : String) :
    (getServerInternalIp session instanceId).Uses (· = .nova session (.getServer instanceId)) := by
  unfold getServerInternalIp
  generalize 10 = attempts
  induction attempts with
  | zero => exact .raise _
  | succ attempts ih =>
    refine .bind (.remote rfl) fun server => ?_
    cases firstFixedIp server.addresses with
    | some ip => exact .pure ip
    | none => exact ih

/-- Calls to Neutron that make no rule. -/
def MakesNone : Call → Prop
  | .neutron _ (.createPortForwarding _ _) => False
  | .neutron _ _ => True
  | _ => False

/-- A rule that is not there is not made. -/
theorem makesNone_keep {α : Type} {m : Remote α} {pf : PortForwarding} (uses : m.Uses MakesNone)
    (absent : pf ∉ w.cloud.neutron.portForwardings) :
    pf ∉ (m.run (serve env) w).2.cloud.neutron.portForwardings := by
  refine Program.run_keeps (I := fun s => pf ∉ s.cloud.neutron.portForwardings) ?_ uses w absent
  intro c makes
  apply serve_keeps env (I := fun cloud => pf ∉ cloud.neutron.portForwardings)
  intro n cloud gone
  cases c with
  | neutron session request =>
    cases request with
    | createPortForwarding _ _ => exact makes.elim
    | deletePortForwarding floatingIp pfId =>
      dsimp only [Call.perform]
      rcases env.neutronService.deleted_store (env.sees session) with same | removed
      · rw [same]
        exact gone
      · rw [removed]
        exact fun there => gone (mem_withoutRule.mp there).1
    | _ =>
      rw [perform_reads env (by trivial)]
      exact gone
  | _ => exact makes.elim

variable (env) in
theorem listFloatingips_result (s : World) : ((neutron .system (.listFloatingips none)).run (serve env) s).1 =
    match upcoming env s (.neutron .system (.listFloatingips none)) with
    | .refused e | .lost e => .error e
    | .answered => .ok (Neutron.listFloatingips (fun _ => true) s.cloud.neutron none) := by
  rw [neutron, Program.run_remote, upcoming]
  cases delivered : env.delivery (.neutron .system (.listFloatingips none))
      (s.calls.count (.neutron .system (.listFloatingips none))) with
  | refused e => simp [serve_refused env delivered]
  | lost e => simp [serve_lost env delivered]
  | answered =>
    rw [serve_answered env delivered]
    exact env.neutronService.listFloatingips none

theorem deleteRules_makesNone (pfs : List Found) : (deleteRules pfs).Uses MakesNone :=
  .forEach fun pf => .attempt (.remote (c := Call.neutron .system (.deletePortForwarding pf.floatingIpId pf.id)) trivial)
    fun _ => .pure ()

theorem getPortForwardingsByInternalIp_makesNone (session : KeystoneSession) (ip : String) :
    (getPortForwardingsByInternalIp session ip).Uses MakesNone := by
  refine .bind (.remote (c := Call.neutron .system (.listFloatingips none)) trivial) fun fips => .gather fun fip => ?_
  refine .attempt (.bind ?_ fun _ => .pure _) fun _ => .pure _
  exact .remote (c := Call.neutron .system (.listPortForwardings fip.id)) trivial

section
variable {s : World}

variable (session : KeystoneSession) (ip : String)

/-- Where Neutron does not list the floating IPs, the search fails. -/
theorem search_refused (refused : upcoming env s (.neutron .system (.listFloatingips none)) ≠ .answered) :
    ∃ e t, (getPortForwardingsByInternalIp session ip).run (serve env) s = (.error e, t) ∧ t.cloud = s.cloud := by
  have heard := listFloatingips_result env s
  rcases listed : (neutron .system (.listFloatingips none)).run (serve env) s with ⟨result, t⟩
  have kept : t.cloud = s.cloud := reads_keep env (m := neutron .system (.listFloatingips none)) (.remote trivial) listed
  rw [listed] at heard
  cases delivered : upcoming env s (.neutron .system (.listFloatingips none)) with
  | answered => exact absurd delivered refused
  | refused e | lost e =>
    rw [delivered] at heard
    obtain rfl : result = .error e := heard
    exact ⟨e, t, by rw [getPortForwardingsByInternalIp, Program.run_bind, Eff.bind_error listed], kept⟩

/-- Where it does, the search finds a rule once, if the rule has the address and the rules of
    its floating IP are listed, too. -/
theorem search_answered {pf : PortForwarding} (there : pf ∈ s.cloud.neutron.portForwardings)
    (answered : upcoming env s (.neutron .system (.listFloatingips none)) = .answered) :
    ∃ pfs t, (getPortForwardingsByInternalIp session ip).run (serve env) s = (.ok pfs, t) ∧ t.cloud = s.cloud ∧
      upcoming env t (deletion pf) = upcoming env s (deletion pf) ∧
      pfs.countP (isRule pf) = if pf.internalIpAddress = ip ∧
        upcoming env s (.neutron .system (.listPortForwardings pf.floatingIpId)) = .answered then 1 else 0 := by
  have heard := listFloatingips_result env s
  rcases listed : (neutron .system (.listFloatingips none)).run (serve env) s with ⟨result, s₁⟩
  have kept₁ : s₁.cloud = s.cloud := reads_keep env (m := neutron .system (.listFloatingips none)) (.remote trivial) listed
  have counts₁ : ∀ request, request ≠ .listFloatingips none →
      upcoming env s₁ (.neutron .system request) = upcoming env s (.neutron .system request) := by
    intro request other
    have asks : (neutron .system (.listFloatingips none)).Uses (· = .neutron .system (.listFloatingips none)) :=
      .remote rfl
    rw [upcoming, upcoming, Backend.uses_count asks listed (by simpa using other)]
  rw [listed, answered] at heard
  obtain rfl : result = .ok _ := heard
  have known : ∀ fip ∈ Neutron.listFloatingips (fun _ => true) s.cloud.neutron none,
      fip ∈ s₁.cloud.neutron.floatingIps := by
    intro fip member
    rw [kept₁]
    exact (Table.mem_select.mp member).1
  have distinct : ((Neutron.listFloatingips (fun _ => true) s.cloud.neutron none).map FloatingIp.id).Nodup :=
    (List.filter_sublist.map _).nodup s.cloud.neutron.floatingIps.unique
  obtain ⟨fip, on, named⟩ := s.cloud.neutron.onFloatingIp pf there
  have present : pf.floatingIpId ∈ (Neutron.listFloatingips (fun _ => true) s.cloud.neutron none).map FloatingIp.id :=
    List.mem_map.mpr ⟨fip, Table.mem_select.mpr ⟨on, by simp⟩, named⟩
  rw [← kept₁] at there
  obtain ⟨pfs, t, gathered, once⟩ := gather_countP ip there distinct known
  have kept₂ : t.cloud = s₁.cloud := reads_keep env (.gather fun fip => searchFloatingIp_reads ip fip) gathered
  have lists : (Program.gather (Neutron.listFloatingips (fun _ => true) s.cloud.neutron none)
      (searchFloatingIp ip)).Uses fun c => ∃ id, c = .neutron .system (.listPortForwardings id) :=
    .gather fun fip => (searchFloatingIp_lists ip fip).mono fun c is => ⟨fip.id, is⟩
  refine ⟨pfs, t, ?_, kept₂.trans kept₁, ?_, ?_⟩
  · rw [getPortForwardingsByInternalIp, Program.run_bind, Eff.bind_ok listed, gathered]
  · rw [← counts₁ (.deletePortForwarding pf.floatingIpId pf.id) (by rintro ⟨⟩), upcoming, upcoming,
      Backend.uses_count lists gathered (by simp)]
  · rw [once, counts₁ (.listPortForwardings pf.floatingIpId) (by rintro ⟨⟩)]
    simp only [present, true_and]

end

/-- What the search for an address and the deletion of what it finds leave. -/
theorem searched_survives {ip : String} {w₁ : World} (pf : PortForwarding) (kept : w₁.cloud = w.cloud)
    (counts : ∀ request, upcoming env w₁ (.neutron .system request) = upcoming env w (.neutron .system request))
    (cleared : clearedIp env session w instanceId = some ip) :
    pf ∈ ((do
      let pfs ← getPortForwardingsByInternalIp session ip
      deleteRules pfs).run (serve env) w₁).2.cloud.neutron.portForwardings ↔
        pf ∈ w.cloud.neutron.portForwardings ∧ ¬ NeutronCleans env session instanceId w pf := by
  by_cases there : pf ∈ w.cloud.neutron.portForwardings
  · rw [Program.run_bind]
    by_cases answered : upcoming env w₁ (.neutron .system (.listFloatingips none)) = .answered
    · rw [← kept] at there
      obtain ⟨pfs, t, found, state, later, once⟩ := search_answered session ip there answered
      have survives := (deleteRules_sends env pf pfs t trivial).2.2
      rw [effects_stays, repeated_once] at survives
      rw [Eff.bind_ok found]
      refine (iff_of_eq survives).trans ?_
      dsimp only
      rw [state, kept, once, counts]
      refine and_congr_right fun _ => not_congr ⟨?_, ?_⟩
      · rintro ⟨j, less, arrived⟩
        split at less
        · next which =>
          obtain rfl := Nat.lt_one_iff.mp less
          refine ⟨?_, by rw [← counts, answered], which.2, ?_⟩
          · rw [cleared, which.1]
          · rw [← counts, ← later]
            exact arrived
        · cases less
      · rintro ⟨address, _, shown, arrived⟩
        rw [cleared] at address
        refine ⟨0, ?_, ?_⟩
        · rw [if_pos ⟨(Option.some.inj address).symm, shown⟩]
          exact Nat.one_pos
        · rw [← counts, ← later] at arrived
          exact arrived
    · obtain ⟨e, t, failed, state⟩ := search_refused session ip answered
      have spared : ¬ NeutronCleans env session instanceId w pf := by
        intro cleans
        rw [counts] at answered
        exact answered cleans.2.1
      rw [Eff.bind_error failed, state, kept, and_iff_left spared]
  · rw [iff_false_right (fun both => there both.1)]
    rw [← kept] at there
    exact makesNone_keep (.bind (getPortForwardingsByInternalIp_makesNone session ip) fun pfs => deleteRules_makesNone pfs)
      there

variable (env) in
theorem cleanNeutron_survives (session : KeystoneSession) (instanceId : String) (w : World) (pf : PortForwarding) :
    pf ∈ ((cleanNeutron session instanceId).run (serve env) w).2.cloud.neutron.portForwardings ↔
      pf ∈ w.cloud.neutron.portForwardings ∧ ¬ NeutronCleans env session instanceId w pf := by
  rw [cleanNeutron, Program.run_ignoring, Program.run_bind]
  rcases asked : (getServerInternalIp session instanceId).run (serve env) w with ⟨result, w₁⟩
  have kept : w₁.cloud = w.cloud := reads_keep env (awaitInternalIp_reads session instanceId 10) asked
  have counts : ∀ request, upcoming env w₁ (.neutron .system request) = upcoming env w (.neutron .system request) := by
    intro request
    rw [upcoming, upcoming, Backend.uses_count (getServerInternalIp_asks session instanceId) asked (by simp)]
  cases result with
  | error e =>
    have spared : ¬ NeutronCleans env session instanceId w pf := fun cleans => by
      simpa using (answer_of_cleared asked cleans.1).1
    rw [Eff.bind_error asked, kept, and_iff_left spared]
  | ok ip =>
    rw [Eff.bind_ok asked, Program.run_ite]
    by_cases long : truthy ip = true
    · rw [if_pos long]
      exact searched_survives pf kept counts (cleared_of_getServerInternalIp asked long)
    · have spared : ¬ NeutronCleans env session instanceId w pf := by
        intro cleans
        obtain ⟨same, real⟩ := answer_of_cleared asked cleans.1
        exact long (Except.ok.inj same ▸ real)
      rw [if_neg long, Program.run_pure, kept, and_iff_left spared]

/-! ## Nova's deletion and what follows it -/

/-- What `delete_instance` does after the clean-up. -/
def finish (session : KeystoneSession) (instanceId : String) (profile : Profile) : Remote (List VolumeTask) := do
  let volumeIds ← getServerVolumes session instanceId
  deleteServer session instanceId
  database (.createActivityRecord (activity profile instanceId volumeIds))
  .ignoring (database (.deleteInstanceLifecycle instanceId))
  return if volumeIds ≠ [] then [{ session, instanceId, volumeIds }] else []

theorem deleteInstance_eq (instanceId : String) (profile : Profile) : deleteInstance instanceId profile = (do
    let session ← sessionOf profile
    Program.attempt (do
      cleanProxy instanceId
      cleanNeutron session instanceId
      finish session instanceId profile)
      fun _ => .raise (.httpException 500 "Failed to delete instance")) := rfl

/-- The volumes of a server can be listed where Nova answers and the session sees it. -/
theorem getServerVolumes_result (session : KeystoneSession) (instanceId : String) (s : World) (volumeIds : List String) :
    ((getServerVolumes session instanceId).run (serve env) s).1 = .ok volumeIds ↔
      upcoming env s (.nova session (.getServerVolumes instanceId)) = .answered ∧
        ∃ server, findServer (env.sees session) s.cloud.servers instanceId = .ok server ∧ server.volumes = volumeIds := by
  rw [getServerVolumes, Program.run_attempt, Eff.attempt_run, nova, Program.run_remote, upcoming]
  cases delivered : env.delivery (.nova session (.getServerVolumes instanceId))
      (s.calls.count (.nova session (.getServerVolumes instanceId))) with
  | refused e => simp [serve_refused env delivered, Program.raise, Program.run]
  | lost e => simp [serve_lost env delivered, Program.raise, Program.run]
  | answered =>
    rw [serve_answered env delivered]
    dsimp only [Call.perform]
    rw [← env.novaService.getServerVolumes]
    cases (env.novaService.perform (env.sees session) s.cloud.servers (.getServerVolumes instanceId)).1 with
    | ok volumes => simp
    | error e => simp [Program.raise, Program.run]

/-- A deletion that gets to Nova takes the server away, whatever comes back. -/
theorem deleteServer_state {server : Server} (s : World)
    (visible : findServer (env.sees session) s.cloud.servers instanceId = .ok server) :
    ((deleteServer session instanceId).run (serve env) s).2.cloud =
      if (upcoming env s (.nova session (.deleteServer instanceId))).arrives then
        { s.cloud with servers := s.cloud.servers.delete instanceId } else s.cloud := by
  rw [deleteServer, Program.run_attempt, Eff.attempt_run, nova, Program.run_remote, upcoming]
  cases delivered : env.delivery (.nova session (.deleteServer instanceId))
      (s.calls.count (.nova session (.deleteServer instanceId))) with
  | refused e => simp [serve_refused env delivered, Delivery.arrives, Program.raise, Program.run]
  | lost e => simp [serve_lost env delivered, Delivery.arrives, Program.raise, Program.run, Call.perform, env.novaService.deletes visible]
  | answered => simp [serve_answered env delivered, Delivery.arrives, Call.perform, env.novaService.deletes visible]

theorem deleteServer_result {server : Server} (s : World)
    (visible : findServer (env.sees session) s.cloud.servers instanceId = .ok server) :
    ((deleteServer session instanceId).run (serve env) s).1 = .ok () ↔
      upcoming env s (.nova session (.deleteServer instanceId)) = .answered := by
  rw [deleteServer, Program.run_attempt, Eff.attempt_run, nova, Program.run_remote, upcoming]
  cases delivered : env.delivery (.nova session (.deleteServer instanceId))
      (s.calls.count (.nova session (.deleteServer instanceId))) with
  | refused e => simp [serve_refused env delivered, Program.raise, Program.run]
  | lost e => simp [serve_lost env delivered, Program.raise, Program.run]
  | answered => simp [serve_answered env delivered, Call.perform, env.novaService.deletes visible]

variable (env) in
theorem database_result (request : DatabaseCall) (s : World) :
    ((database request).run (serve env) s).1 = .ok () ↔ upcoming env s (.database request) = .answered := by
  rw [database, Program.run_remote, upcoming]
  cases delivered : env.delivery (.database request) (s.calls.count (.database request)) with
  | refused e => simp [serve_refused env delivered]
  | lost e => simp [serve_lost env delivered]
  | answered => simp [serve_answered env delivered, Call.perform]

variable (env) in
theorem database_servers (request : DatabaseCall) (s : World) :
    ((database request).run (serve env) s).2.cloud.servers = s.cloud.servers := by
  rw [database, Program.run_remote]
  rcases serve_cloud env (c := .database request) (w := s) with same | performed
  · rw [same]
  · rw [performed]
    cases request with
    | createActivityRecord _ => rfl
    | deleteInstanceLifecycle _ => rfl

theorem getServerVolumes_asks (session : KeystoneSession) (instanceId : String) :
    (getServerVolumes session instanceId).Uses (· = .nova session (.getServerVolumes instanceId)) :=
  .attempt (.remote rfl) fun _ => .raise _

theorem deleteServer_asks (session : KeystoneSession) (instanceId : String) :
    (deleteServer session instanceId).Uses (· = .nova session (.deleteServer instanceId)) :=
  .attempt (.remote rfl) fun _ => .raise _

theorem database_asks (request : DatabaseCall) : (database request).Uses (· = .database request) := .remote rfl

/-- A call that is still to come finds what it would have found before. -/
theorem upcoming_after {α : Type} {m : Remote α} {d : Call} {r : Except Exn α} {s' : World} (uses : m.Uses (· = d))
    (ran : m.run (serve env) s = (r, s')) (other : c ≠ d) : upcoming env s' c = upcoming env s c := by
  rw [upcoming, upcoming, Backend.uses_count uses ran other]

/-- What Nova does not carry out changes nothing. -/
theorem finish_refused (profile : Profile) (refused : ∀ server, ¬ Accepts env session instanceId s server) :
    ((finish session instanceId profile).run (serve env) s).2.cloud = s.cloud := by
  rw [finish, Program.run_bind]
  rcases listed : (getServerVolumes session instanceId).run (serve env) s with ⟨r, s₁⟩
  have kept : s₁.cloud = s.cloud :=
    reads_keep env (.attempt (.remote (c := Call.nova session (.getServerVolumes instanceId)) trivial) fun _ => .raise _)
      listed
  cases r with
  | error e => rw [Eff.bind_error listed, kept]
  | ok volumeIds =>
    obtain ⟨answered, server, visible, _⟩ :=
      (getServerVolumes_result session instanceId s volumeIds).mp (congrArg Prod.fst listed)
    have stops : ¬ (upcoming env s₁ (.nova session (.deleteServer instanceId))).arrives = true := by
      rw [upcoming_after (getServerVolumes_asks session instanceId) listed (by simp)]
      exact fun there => refused server ⟨visible, answered, there⟩
    rw [← kept] at visible
    have state := deleteServer_state s₁ visible
    rw [if_neg stops] at state
    rw [Eff.bind_ok listed, Program.run_bind]
    rcases asked : (deleteServer session instanceId).run (serve env) s₁ with ⟨r, s₂⟩
    rw [asked] at state
    cases r with
    | error e => rw [Eff.bind_error asked, state, kept]
    | ok =>
      have back := (deleteServer_result s₁ visible).mp (congrArg Prod.fst asked)
      exact absurd (by rw [back]; rfl) stops

variable (env instanceId) in
/-- Once Nova has answered, the removal of the lifecycle row is attempted just where the
    activity is recorded. -/
theorem recorded_run (record : Cloud.ActivityRecord) (tasks : List VolumeTask) (s : World) : ∃ r t,
    (do
      database (.createActivityRecord record)
      .ignoring (database (.deleteInstanceLifecycle instanceId))
      return tasks).run (serve env) s = (r, t) ∧ t.cloud.servers = s.cloud.servers ∧
    ((upcoming env s (.database (.createActivityRecord record)) = .answered ∧ r = .ok tasks ∧
        s.calls.count (.database (.deleteInstanceLifecycle instanceId)) <
          t.calls.count (.database (.deleteInstanceLifecycle instanceId))) ∨
      (upcoming env s (.database (.createActivityRecord record)) ≠ .answered ∧
        t.calls.count (.database (.deleteInstanceLifecycle instanceId)) =
          s.calls.count (.database (.deleteInstanceLifecycle instanceId)))) := by
  have recorded := database_result env (.createActivityRecord record) s
  have servers := database_servers env (.createActivityRecord record) s
  rcases ran : (database (.createActivityRecord record)).run (serve env) s with ⟨r, s₁⟩
  rw [ran] at recorded servers
  have count := Backend.uses_count (database_asks _) ran (c := .database (.deleteInstanceLifecycle instanceId)) (by simp)
  rw [Program.run_bind]
  cases r with
  | error e =>
    have unrecorded := mt recorded.mpr (by simp)
    exact ⟨.error e, s₁, Eff.bind_error ran, servers, .inr ⟨unrecorded, count⟩⟩
  | ok =>
    rw [Eff.bind_ok ran, Program.run_bind, Eff.bind_ok (Program.run_ignoring _ _ _)]
    refine ⟨_, _, rfl, (database_servers env _ s₁).trans servers, .inl ⟨recorded.mp rfl, rfl, ?_⟩⟩
    rw [database, Program.run_remote, Backend.count_served, count]
    exact Nat.lt_succ_self _

/-- What follows a deletion that Nova carries out. -/
theorem finish_accepted (profile : Profile) {server : Server} (accepts : Accepts env session instanceId s server) :
    ∃ r t, (finish session instanceId profile).run (serve env) s = (r, t) ∧
      t.cloud.servers = s.cloud.servers.delete instanceId ∧
      ((Completes env profile session instanceId s server ∧
          r = .ok (if server.volumes ≠ [] then [⟨session, instanceId, server.volumes⟩] else []) ∧
          s.calls.count (.database (.deleteInstanceLifecycle instanceId)) <
            t.calls.count (.database (.deleteInstanceLifecycle instanceId))) ∨
        (¬ Completes env profile session instanceId s server ∧
          t.calls.count (.database (.deleteInstanceLifecycle instanceId)) =
            s.calls.count (.database (.deleteInstanceLifecycle instanceId)))) := by
  obtain ⟨visible, answered, arrived⟩ := accepts
  have listed := (getServerVolumes_result session instanceId s server.volumes).mpr ⟨answered, server, visible, rfl⟩
  rcases ran₁ : (getServerVolumes session instanceId).run (serve env) s with ⟨r₁, s₁⟩
  rw [ran₁] at listed
  obtain rfl : r₁ = .ok server.volumes := listed
  have kept : s₁.cloud = s.cloud :=
    reads_keep env (.attempt (.remote (c := Call.nova session (.getServerVolumes instanceId)) trivial) fun _ => .raise _)
      ran₁
  rw [← upcoming_after (getServerVolumes_asks session instanceId) ran₁ (by simp)] at arrived
  rw [← kept] at visible
  have state := deleteServer_state s₁ visible
  have came := deleteServer_result s₁ visible
  rcases ran₂ : (deleteServer session instanceId).run (serve env) s₁ with ⟨r₂, s₂⟩
  rw [ran₂, if_pos arrived, kept] at state
  rw [ran₂, upcoming_after (getServerVolumes_asks session instanceId) ran₁ (by simp)] at came
  have count₁ : s₁.calls.count (.database (.deleteInstanceLifecycle instanceId)) =
      s.calls.count (.database (.deleteInstanceLifecycle instanceId)) :=
    Backend.uses_count (getServerVolumes_asks session instanceId) ran₁ (by simp)
  have count₂ : s₂.calls.count (.database (.deleteInstanceLifecycle instanceId)) =
      s.calls.count (.database (.deleteInstanceLifecycle instanceId)) := by
    rw [Backend.uses_count (deleteServer_asks session instanceId) ran₂ (by simp), count₁]
  rw [finish, Program.run_bind, Eff.bind_ok ran₁, Program.run_bind]
  cases r₂ with
  | error e =>
    refine ⟨.error e, s₂, Eff.bind_error ran₂, by rw [state], .inr ⟨fun completes => ?_, count₂⟩⟩
    cases came.mpr completes.deleted
  | ok =>
    obtain ⟨r, t, ran₃, servers, alternatives⟩ := recorded_run env instanceId
      (activity profile instanceId server.volumes)
      (if server.volumes ≠ [] then [⟨session, instanceId, server.volumes⟩] else []) s₂
    rw [upcoming_after (deleteServer_asks session instanceId) ran₂ (by simp),
      upcoming_after (getServerVolumes_asks session instanceId) ran₁ (by simp), count₂] at alternatives
    rw [Eff.bind_ok ran₂]
    refine ⟨r, t, ran₃, by rw [servers, state], ?_⟩
    rcases alternatives with ⟨recorded, result, attempted⟩ | ⟨unrecorded, unattempted⟩
    · exact .inl ⟨⟨came.mp rfl, recorded⟩, result, attempted⟩
    · exact .inr ⟨fun completes => unrecorded completes.recorded, unattempted⟩

/-! ## The clean-up as a whole -/

/-- Calls that come before Nova is asked for the volumes. -/
def Preparing : Call → Prop
  | .generateSession _ _ | .neutron _ _ | .proxy _ | .nova _ (.getServer _) => True
  | _ => False

theorem preparing_keep {α : Type} {m : Remote α} {r : Except Exn α} {w' : World} (uses : m.Uses Preparing)
    (ran : m.run (serve env) w = (r, w')) :
    w'.cloud.servers = w.cloud.servers ∧ w'.cloud.lifecycle = w.cloud.lifecycle := by
  have each : ∀ c : Call, Preparing c → Eff.Keeps (fun s => s.cloud.servers = w.cloud.servers ∧
      s.cloud.lifecycle = w.cloud.lifecycle) (serve env c) := by
    intro c prepares
    apply serve_keeps env (I := fun cloud => cloud.servers = w.cloud.servers ∧ cloud.lifecycle = w.cloud.lifecycle)
    intro n cloud same
    cases c with
    | nova session request =>
      cases request with
      | getServer serverId =>
        rw [perform_reads env (c := .nova session (.getServer serverId)) trivial]
        exact same
      | getServerVolumes _ | deleteServer _ => exact prepares.elim
    | generateSession _ _ | neutron _ _ | proxy _ => exact same
    | _ => exact prepares.elim
  have kept := Program.run_keeps each uses w ⟨rfl, rfl⟩
  rw [ran] at kept
  exact kept

theorem cleanProxy_preparing (instanceId : String) : (cleanProxy instanceId).Uses Preparing := by
  refine .attempt (.bind (exchange_uses (.remote trivial)) fun extPfs => .forEach fun extPf => ?_) fun _ => .pure ()
  exact .attempt (.ite (exchange_uses (.remote trivial)) (.pure ())) fun _ => .pure ()

/-- Calls of the clean-up of Neutron's rules. -/
def SearchesNeutron (c : Call) : Prop := MakesNone c ∨ ∃ session serverId, c = .nova session (.getServer serverId)

theorem cleanNeutron_searches (session : KeystoneSession) (instanceId : String) :
    (cleanNeutron session instanceId).Uses SearchesNeutron := by
  refine .attempt (.bind ((getServerInternalIp_asks session instanceId).mono ?_) fun ip => .ite ?_ (.pure ()))
    fun _ => .pure ()
  · rintro _ rfl
    exact .inr ⟨session, instanceId, rfl⟩
  · exact .bind ((getPortForwardingsByInternalIp_makesNone session ip).mono fun _ => .inl) fun pfs =>
      (deleteRules_makesNone pfs).mono fun _ => .inl

theorem SearchesNeutron.preparing {c : Call} (searches : SearchesNeutron c) : Preparing c := by
  rcases searches with makes | ⟨_, _, rfl⟩
  · cases c with
    | neutron _ _ => exact trivial
    | _ => exact makes.elim
  · exact trivial

variable (env) in
theorem searchesNeutron_proxy {α : Type} {m : Remote α} (uses : m.Uses SearchesNeutron) (w : World) :
    (m.run (serve env) w).2.cloud.proxy = w.cloud.proxy := by
  refine Program.run_keeps (I := fun s => s.cloud.proxy = w.cloud.proxy) ?_ uses w rfl
  intro c searches
  apply serve_keeps env (I := fun cloud => cloud.proxy = w.cloud.proxy)
  intro n cloud same
  rcases searches with makes | ⟨_, _, rfl⟩
  · cases c with
    | neutron _ _ => exact same
    | _ => exact makes.elim
  · exact same

variable (env) in
/-- Opening the session changes nothing but the list of calls. -/
theorem sessionOf_run (profile : Profile) (w : World) : ∃ r w₁, (sessionOf profile).run (serve env) w = (r, w₁) ∧
    w₁.cloud = w.cloud ∧ (Opens env profile w → r = .ok (ownSession profile)) ∧ (¬ Opens env profile w → ∃ e, r = .error e) := by
  rcases ran : (sessionOf profile).run (serve env) w with ⟨r, w₁⟩
  refine ⟨r, w₁, rfl, reads_keep env (sessionOf_reads profile) ran, ?_⟩
  rw [sessionOf, generateSession, Program.run_bind, Eff.bind_run, Program.run_remote] at ran
  unfold Opens upcoming
  cases delivered : env.delivery (.generateSession profile.keystoneToken profile.project.id)
      (w.calls.count (.generateSession profile.keystoneToken profile.project.id)) with
  | refused e =>
    simp only [serve_refused env delivered] at ran
    simpa using ⟨e, (congrArg Prod.fst ran).symm⟩
  | lost e =>
    simp only [serve_lost env delivered] at ran
    simpa using ⟨e, (congrArg Prod.fst ran).symm⟩
  | answered =>
    rw [serve_answered env delivered] at ran
    exact ⟨fun _ => (congrArg Prod.fst ran).symm, fun closed => absurd rfl closed⟩

theorem sessionOf_asks (profile : Profile) :
    (sessionOf profile).Uses (· = .generateSession profile.keystoneToken profile.project.id) :=
  .bind (.remote rfl) fun _ => .pure _

theorem proxyCleans_congr {w' : World} (same : w'.cloud.proxy = w.cloud.proxy)
    (counts : ∀ request, w'.calls.count (.proxy request) = w.calls.count (.proxy request)) (r : Proxy.Rule) :
    ProxyCleans env instanceId w' r ↔ ProxyCleans env instanceId w r := by
  have answers : listing env w' instanceId = listing env w instanceId := by
    funext k
    rw [listing, listing, same]
  simp only [ProxyCleans, listed, deletions, answers, counts]

/-- The state in which Nova is asked, where the session could be opened: what the clean-up
    takes away is gone, and all else is as it was. -/
theorem prepared (opens : Opens env profile w) (instanceId : String) : ∃ s,
    (deleteInstance instanceId profile).run (serve env) w = ((Program.attempt (finish (ownSession profile) instanceId profile)
      fun _ => .raise (.httpException 500 "Failed to delete instance")).run (serve env) s) ∧
    s.cloud.servers = w.cloud.servers ∧ s.cloud.lifecycle = w.cloud.lifecycle ∧
    (∀ r, r ∈ s.cloud.proxy ↔ r ∈ w.cloud.proxy ∧ ¬ ProxyCleans env instanceId w r) ∧
    (∀ pf, pf ∈ s.cloud.neutron.portForwardings ↔
      pf ∈ w.cloud.neutron.portForwardings ∧ ¬ NeutronCleans env (ownSession profile) instanceId w pf) ∧
    ∀ c, ¬ Preparing c → s.calls.count c = w.calls.count c := by
  obtain ⟨r, w₁, opened, kept, session, _⟩ := sessionOf_run env profile w
  obtain rfl := session opens
  obtain ⟨neutron₁, cleared₁⟩ := aside_keep (ownSession profile) instanceId (sessionOf_aside profile) opened
  have counts₁ : ∀ c, c ≠ .generateSession profile.keystoneToken profile.project.id →
      w₁.calls.count c = w.calls.count c := fun c other => Backend.uses_count (sessionOf_asks profile) opened other
  obtain ⟨w₂, ran₂⟩ : ∃ t, (cleanProxy instanceId).run (serve env) w₁ = (.ok (), t) := ⟨_, Program.run_ignoring _ _ _⟩
  obtain ⟨neutron₂, cleared₂⟩ := aside_keep (ownSession profile) instanceId (cleanProxy_aside instanceId) ran₂
  have proxy₂ := cleanProxy_mem env instanceId w₁
  obtain ⟨w₃, ran₃⟩ : ∃ t, (cleanNeutron (ownSession profile) instanceId).run (serve env) w₂ = (.ok (), t) := ⟨_, Program.run_ignoring _ _ _⟩
  have proxy₃ := searchesNeutron_proxy env (cleanNeutron_searches (ownSession profile) instanceId) w₂
  have neutron₃ := cleanNeutron_survives env (ownSession profile) instanceId w₂
  have cleanUp : (cleanNeutron (ownSession profile) instanceId).Uses Preparing :=
    (cleanNeutron_searches (ownSession profile) instanceId).mono fun _ => SearchesNeutron.preparing
  obtain ⟨servers₂, lifecycle₂⟩ := preparing_keep (cleanProxy_preparing instanceId) ran₂
  obtain ⟨servers₃, lifecycle₃⟩ := preparing_keep cleanUp ran₃
  rw [ran₂] at proxy₂
  rw [ran₃] at proxy₃ neutron₃
  refine ⟨w₃, ?_, ?_, ?_, fun r => ?_, fun pf => ?_, fun c later => ?_⟩
  · rw [deleteInstance_eq, Program.run_bind, Eff.bind_ok opened, Program.run_attempt, Program.run_attempt,
      Eff.attempt_run, Eff.attempt_run, Program.run_bind, Eff.bind_ok ran₂, Program.run_bind, Eff.bind_ok ran₃]
  · rw [servers₃, servers₂, kept]
  · rw [lifecycle₃, lifecycle₂, kept]
  · rw [proxy₃, proxy₂, kept, proxyCleans_congr (by rw [kept]) fun request => counts₁ _ nofun]
  · have same : ∀ request, upcoming env w₂ (.neutron .system request) = upcoming env w (.neutron .system request) := by
      intro request
      rw [upcoming, upcoming, Backend.uses_count (cleanProxy_aside instanceId) ran₂ (by exact id),
        counts₁ (.neutron .system request) nofun]
    rw [neutron₃, neutron₂, neutron₁, NeutronCleans, cleared₂, cleared₁, same, same, same]
    rfl
  · have notFirst : c ≠ .generateSession profile.keystoneToken profile.project.id := by
      rintro rfl
      exact later trivial
    rw [Backend.uses_count cleanUp ran₃ later, Backend.uses_count (cleanProxy_preparing instanceId) ran₂ later, counts₁ c notFirst]

/-! ## When a deletion is all or nothing -/

theorem accepts_congr {s : World} (servers : s.cloud.servers = w.cloud.servers)
    (counts : ∀ c, ¬ Preparing c → s.calls.count c = w.calls.count c) (server : Server) :
    Accepts env session instanceId s server ↔ Accepts env session instanceId w server := by
  have volumes := counts (.nova session (.getServerVolumes instanceId)) id
  have deletion := counts (.nova session (.deleteServer instanceId)) id
  constructor
  · rintro ⟨visible, answered, arrived⟩
    rw [upcoming, volumes] at answered
    rw [upcoming, deletion] at arrived
    exact ⟨servers ▸ visible, answered, arrived⟩
  · rintro ⟨visible, answered, arrived⟩
    rw [upcoming, ← volumes] at answered
    rw [upcoming, ← deletion] at arrived
    exact ⟨servers ▸ visible, answered, arrived⟩

theorem completes_congr {profile : Profile} {s : World}
    (counts : ∀ c, ¬ Preparing c → s.calls.count c = w.calls.count c) (server : Server) :
    Completes env profile session instanceId s server ↔ Completes env profile session instanceId w server := by
  have deletion := counts (.nova session (.deleteServer instanceId)) id
  have record := counts (.database (.createActivityRecord (activity profile instanceId server.volumes))) id
  constructor
  · rintro ⟨deleted, recorded⟩
    rw [upcoming, deletion] at deleted
    rw [upcoming, record] at recorded
    exact ⟨deleted, recorded⟩
  · rintro ⟨deleted, recorded⟩
    rw [upcoming, ← deletion] at deleted
    rw [upcoming, ← record] at recorded
    exact ⟨deleted, recorded⟩

/-- The handler around what follows the clean-up replaces the exception, and no more. -/
theorem guarded_run {profile : Profile} {s t : World} {r : Except Exn (List VolumeTask)}
    (ran : (finish session instanceId profile).run (serve env) s = (r, t)) :
    ∃ r', (Program.attempt (finish session instanceId profile) fun _ =>
        .raise (.httpException 500 "Failed to delete instance")).run (serve env) s = (r', t) ∧
      ∀ tasks, r' = .ok tasks ↔ r = .ok tasks := by
  rw [Program.run_attempt, Eff.attempt_run, ran]
  cases r with
  | ok tasks => exact ⟨_, rfl, fun _ => Iff.rfl⟩
  | error e => exact ⟨_, rfl, fun _ => ⟨nofun, nofun⟩⟩

/-- Where Nova carries the deletion out, it is all or nothing iff it completes. -/
theorem allOrNothing_of_accepts {profile : Profile} {s : World} {server : Server}
    (same : (deleteInstance instanceId profile).run (serve env) w = ((Program.attempt (finish session instanceId profile)
      fun _ => .raise (.httpException 500 "Failed to delete instance")).run (serve env) s))
    (servers : s.cloud.servers = w.cloud.servers) (counts : ∀ c, ¬ Preparing c → s.calls.count c = w.calls.count c)
    (accepts : Accepts env session instanceId w server) :
    AllOrNothing instanceId w ((deleteInstance instanceId profile).run (serve env) w).2
        ((deleteInstance instanceId profile).run (serve env) w).1 ↔
      Completes env profile session instanceId w server := by
  obtain ⟨r, t, ran, gone, alternatives⟩ := finish_accepted profile ((accepts_congr servers counts server).mpr accepts)
  obtain ⟨r', guarded, results⟩ := guarded_run ran
  obtain ⟨there, named⟩ := findServer_ok accepts.visible
  have accepted : Accepted instanceId w.cloud t.cloud := by
    refine ⟨⟨server, there, named⟩, fun other member => ?_⟩
    rw [gone] at member
    exact (Table.mem_delete.mp member).2
  rw [completes_congr counts, counts (.database (.deleteInstanceLifecycle instanceId)) id] at alternatives
  rw [same, guarded]
  constructor
  · intro allOrNothing
    rcases alternatives with ⟨completes, _⟩ | ⟨_, unattempted⟩
    · exact completes
    · exact absurd unattempted (Nat.ne_of_gt (allOrNothing.all accepted).lifecycle)
  · intro completes
    rcases alternatives with ⟨_, tasks, attempted⟩ | ⟨stops, _⟩
    · refine ⟨fun notAccepted => absurd accepted notAccepted, fun _ => ⟨fun other member same some => ?_, attempted⟩⟩
      obtain rfl := Table.eq_of_key member there (same.trans named.symm)
      rw [if_pos some] at tasks
      exact ⟨_, (results _).mpr tasks, _, List.mem_singleton_self _, rfl, rfl⟩
    · exact absurd completes stops

/-- Where Nova does not, it is iff the clean-up takes none of the instance's rules away. -/
theorem allOrNothing_of_refused {profile : Profile} {s : World}
    (same : (deleteInstance instanceId profile).run (serve env) w = ((Program.attempt (finish session instanceId profile)
      fun _ => .raise (.httpException 500 "Failed to delete instance")).run (serve env) s))
    (servers : s.cloud.servers = w.cloud.servers) (lifecycle : s.cloud.lifecycle = w.cloud.lifecycle)
    (proxy : ∀ r, r ∈ s.cloud.proxy ↔ r ∈ w.cloud.proxy ∧ ¬ ProxyCleans env instanceId w r)
    (neutron : ∀ pf, pf ∈ s.cloud.neutron.portForwardings ↔
      pf ∈ w.cloud.neutron.portForwardings ∧ ¬ NeutronCleans env session instanceId w pf)
    (counts : ∀ c, ¬ Preparing c → s.calls.count c = w.calls.count c)
    (refused : ∀ server, ¬ Accepts env session instanceId w server) :
    AllOrNothing instanceId w ((deleteInstance instanceId profile).run (serve env) w).2
        ((deleteInstance instanceId profile).run (serve env) w).1 ↔
      (∀ r ∈ w.cloud.proxy, r.userVmId = instanceId → ¬ ProxyCleans env instanceId w r) ∧
        ∀ pf ∈ w.cloud.neutron.portForwardings, AttachedTo w.cloud instanceId pf →
          ¬ NeutronCleans env session instanceId w pf := by
  have unchanged := finish_refused profile fun server =>
    (refused server).comp (accepts_congr servers counts server).mp
  rcases ran : (finish session instanceId profile).run (serve env) s with ⟨r, t⟩
  obtain ⟨r', guarded, _⟩ := guarded_run ran
  rw [ran] at unchanged
  have kept : t.cloud = s.cloud := unchanged
  have notAccepted : ¬ Accepted instanceId w.cloud t.cloud := not_accepted (by rw [kept, servers])
  rw [same, guarded]
  constructor
  · intro allOrNothing
    have untouched := allOrNothing.nothing notAccepted
    refine ⟨fun r there mine => ?_, fun pf there mine => ?_⟩
    · have stays := (untouched.proxy r mine).mpr there
      rw [kept] at stays
      exact ((proxy r).mp stays).2
    · have stays := (untouched.neutron pf mine).mpr there
      rw [kept] at stays
      exact ((neutron pf).mp stays).2
  · rintro ⟨sparesProxy, sparesNeutron⟩
    refine ⟨fun _ => ⟨fun r mine => ?_, fun pf mine => ?_, ?_⟩, fun accepted => absurd accepted notAccepted⟩
    · rw [kept, proxy r]
      exact and_iff_left_of_imp fun there => sparesProxy r there mine
    · rw [kept, neutron pf]
      exact and_iff_left_of_imp fun there => sparesNeutron pf there mine
    · rw [kept, lifecycle]

/-- A deletion is all or nothing iff, where its session opens: if Nova carries it out,
    Nova's answer comes back and the activity is recorded, and if not, the clean-up takes
    none of the instance's rules away. -/
theorem deletion_allOrNothing_iff (env : Env) (instanceId : String) (profile : Profile) (w : World) :
    AllOrNothing instanceId w ((deleteInstance instanceId profile).run (serve env) w).2
        ((deleteInstance instanceId profile).run (serve env) w).1 ↔
      (Opens env profile w →
        (∀ server, Accepts env (ownSession profile) instanceId w server →
          Completes env profile (ownSession profile) instanceId w server) ∧
        ((∀ server, ¬ Accepts env (ownSession profile) instanceId w server) →
          (∀ r ∈ w.cloud.proxy, r.userVmId = instanceId → ¬ ProxyCleans env instanceId w r) ∧
          ∀ pf ∈ w.cloud.neutron.portForwardings, AttachedTo w.cloud instanceId pf →
            ¬ NeutronCleans env (ownSession profile) instanceId w pf)) := by
  by_cases opens : Opens env profile w
  · obtain ⟨s, same, servers, lifecycle, proxy, neutron, counts⟩ := prepared opens instanceId
    by_cases carriedOut : ∃ server, Accepts env (ownSession profile) instanceId w server
    · obtain ⟨server, accepts⟩ := carriedOut
      rw [allOrNothing_of_accepts same servers counts accepts]
      constructor
      · intro completes _
        refine ⟨fun other too => ?_, fun refused => absurd accepts (refused server)⟩
        obtain rfl : server = other := Except.ok.inj (accepts.visible.symm.trans too.visible)
        exact completes
      · intro condition
        exact (condition opens).1 server accepts
    · have refused : ∀ server, ¬ Accepts env (ownSession profile) instanceId w server := not_exists.mp carriedOut
      rw [allOrNothing_of_refused same servers lifecycle proxy neutron counts refused]
      constructor
      · intro spares _
        exact ⟨fun server accepts => absurd accepts (refused server), fun _ => spares⟩
      · intro condition
        exact (condition opens).2 refused
  · obtain ⟨r, w₁, opened, kept, _, closed⟩ := sessionOf_run env profile w
    obtain ⟨e, rfl⟩ := closed opens
    have ran : (deleteInstance instanceId profile).run (serve env) w = (.error e, w₁) := by
      rw [deleteInstance_eq, Program.run_bind, Eff.bind_error opened]
    rw [ran]
    refine iff_of_true ⟨fun _ => ?_, fun accepted => ?_⟩ fun here => absurd here opens
    · rw [kept]
      exact .refl _ _
    · exact absurd accepted (not_accepted (by rw [kept]))

end

/-! ## A record that fails -/

/-- An environment in which every call goes through, but the activity cannot be recorded. -/
def forgetful : Env :=
  { obliging with
    delivery := fun c _ =>
      match c with
      | .database (.createActivityRecord _) => .refused (.callFailed "INSERT INTO user_activity")
      | _ => .answered }

/-- Where the activity cannot be recorded, Nova has deleted the instance and the removal of
    its lifecycle row is not attempted. -/
theorem deletion_halfDone : ¬ ∀ (env : Env) (instanceId : String) (profile : Profile) (w : World),
    AllOrNothing instanceId w ((deleteInstance instanceId profile).run (serve env) w).2
      ((deleteInstance instanceId profile).run (serve env) w).1 := by
  intro always
  have gone : ((deleteInstance "our-vm" Session.member).run (serve forgetful) quiet).2.cloud.servers =
      twoTenants.servers.delete "our-vm" := rfl
  have accepted : Accepted "our-vm" quiet.cloud
      ((deleteInstance "our-vm" Session.member).run (serve forgetful) quiet).2.cloud := by
    refine ⟨⟨_, List.mem_cons_self, rfl⟩, fun server member => ?_⟩
    rw [gone] at member
    exact (Table.mem_delete.mp member).2
  have attempted := ((always forgetful "our-vm" Session.member quiet).all accepted).lifecycle
  have unattempted : ((deleteInstance "our-vm" Session.member).run (serve forgetful) quiet).2.calls.count
      (.database (.deleteInstanceLifecycle "our-vm")) = 0 := rfl
  rw [unattempted] at attempted
  exact absurd attempted (Nat.not_lt_zero _)

end Skyline.DeletionFailure
