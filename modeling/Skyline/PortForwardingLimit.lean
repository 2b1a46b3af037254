import Mathlib.Data.List.Perm.Subperm
import Skyline.PortForwarding
import Skyline.Provisioning
import Skyline.Runs

/-!
The limit of port forwardings. `get_port_forwarding_stats` counts, over all floating IPs of
the cloud, the rules that lead to an address of the project's servers; what the rules of a
project are is said by where they lead. `add_port_forwarding` counts the rules on the
project's own floating IPs instead, and then makes its rule on any floating IP that the
caller can name. So where the rules of a project are on other floating IPs than its own, it
may go on past the limit; the limit holds along the requests where the two counts agree on
whether it has been reached (`Agreed`).
-/
namespace Skyline.PortForwardingLimit
open Skyline.Effects Skyline.Programs Skyline.Python Skyline.Runs Skyline.Services Skyline.Tables Skyline.Provisioning
open Skyline.Neutron (PortForwarding FloatingIp Store)
open Skyline.Cloud (KeystoneSession ownSession)
open Skyline.PortForwarding (PortForwardingAdd addPortForwarding)
open Skyline.Session (Profile)

/-! ## The two counts -/

/-- The fixed addresses of a project's servers. -/
def internalIps (cloud : Cloud.State) (project : String) : List String :=
  ((cloud.servers.select (fun server => server.projectId == project)).flatMap fun server =>
    server.addresses.flatMap Prod.snd).filterMap fun ip => if ip.type = "fixed" then some ip.addr else none

/-- The rules that lead to the addresses. -/
def leadingTo (store : Store) (ips : List String) : List PortForwarding :=
  store.portForwardings.select fun pf => ips.contains pf.internalIpAddress

/-- The rules that lead to the servers of a project. -/
def targeting (cloud : Cloud.State) (project : String) : List PortForwarding :=
  leadingTo cloud.neutron (internalIps cloud project)

/-- The rules on the floating IPs that Neutron lists to a caller as its project's. -/
def onOwn (env : Cloud.Env) (cloud : Cloud.State) (profile : Profile) : List PortForwarding :=
  (Neutron.listFloatingips (env.sees (ownSession profile)) cloud.neutron (some profile.project.id)).flatMap fun fip =>
    cloud.neutron.portForwardings.select fun pf => pf.floatingIpId == fip.id

/-! ## What a request does -/

section
variable {env : Cloud.Env} {cloud : Cloud.State}

theorem sessionOf_ensures (profile : Profile) :
    (Clients.sessionOf profile).Ensures (Cloud.serve env) (fun w => w.cloud = cloud) (· = ownSession profile) :=
  .bind (Cloud.remote_ensures env (c := .generateSession _ _) trivial) fun _ _ => .pure rfl

theorem listFloatingips_ensures (session : KeystoneSession) (tenantId : Option String) :
    (Clients.listFloatingips session tenantId).Ensures (Cloud.serve env) (fun w => w.cloud = cloud)
      (· = Neutron.listFloatingips (env.sees session) cloud.neutron tenantId) := by
  refine .attempt ((Cloud.remote_ensures env (c := .neutron session (.listFloatingips tenantId)) trivial).weaken
    fun fips listed => ?_) fun _ => .raise
  obtain ⟨_, same⟩ := listed
  exact (Except.ok.inj ((env.neutronService.listFloatingips tenantId).symm.trans same)).symm

theorem listPortForwardings_ensures (session : KeystoneSession) (floatingIp : String) :
    (Cloud.neutron session (.listPortForwardings floatingIp)).Ensures (Cloud.serve env) (fun w => w.cloud = cloud)
      (cloud.neutron.portForwardings.select (fun pf => pf.floatingIpId == floatingIp) = ·) := by
  refine (Cloud.remote_ensures env (c := .neutron session (.listPortForwardings floatingIp)) trivial).weaken
    fun rules listed => ?_
  obtain ⟨_, same⟩ := listed
  exact (env.neutronService.listPortForwardings.mp same).2.symm

/-- `add_port_forwarding` counts the rules on the floating IPs it lists. -/
theorem used_ensures (session : KeystoneSession) (allFips : List FloatingIp) :
    (Program.gather allFips fun fip => Clients.getPortForwardingRules session fip.id).Ensures (Cloud.serve env)
      (fun w => w.cloud = cloud) (· = allFips.flatMap fun fip =>
        cloud.neutron.portForwardings.select fun pf => pf.floatingIpId == fip.id) := by
  refine (Program.Ensures.gather fun (fip : FloatingIp) => listPortForwardings_ensures session fip.id).weaken ?_
  rintro used ⟨lists, rfl, all⟩
  rw [← List.forall₂_map_left_iff, List.forall₂_eq_eq_eq] at all
  rw [← all, List.flatMap_def]

/-- A request adds a rule only where the rules on the caller's own floating IPs have not
    reached the limit. -/
def Adds (env : Cloud.Env) (limit : Int) (request : PortForwardingAdd) (profile : Profile)
    (before after : Cloud.State) : Prop :=
  after = before ∨
    (onOwn env before profile).length < limit ∧ Clients.AddsRule request.internalIp before after

variable (env) in
theorem addPortForwarding_adds (limit : Int) (request : PortForwardingAdd) (profile : Profile) :
    ∀ w : Cloud.World, w.cloud = cloud → Adds env limit request profile cloud
      ((addPortForwarding limit request profile).run (Cloud.serve env) w).2.cloud := by
  let Q := fun w : Cloud.World => Adds env limit request profile cloud w.cloud
  have stays : ∀ w : Cloud.World, w.cloud = cloud → Q w := fun _ => .inl
  refine (sessionOf_ensures profile).leaves (Q := Q) stays ?_
  rintro session rfl w same
  rw [Program.run_attempt_raise]
  revert w
  refine (listFloatingips_ensures (ownSession profile) (some profile.project.id)).leaves stays ?_
  rintro allFips rfl
  refine (used_ensures (ownSession profile) _).leaves stays ?_
  rintro used rfl w same
  rw [Program.run_ite]
  split
  · exact stays w same
  · next room =>
    rw [Program.run_ite]
    split
    · revert w
      refine (Cloud.reads_ensure env (PortForwarding.namedFloatingIp_reads _ _)).leaves stays fun fip _ w same => ?_
      refine .inr ⟨Int.not_le.mp room, ?_⟩
      rw [Program.run_bind_pure]
      exact Clients.createPortForwardingRule_adds _ _ _ _ _ w same
    · exact stays w same

/-! ## What the statistics count -/

/-- The rules of a floating IP that lead to the addresses. -/
def leadingOn (store : Store) (ips : List String) (fip : FloatingIp) : List PortForwarding :=
  (store.portForwardings.select fun pf => pf.floatingIpId == fip.id).filter fun pf => ips.contains pf.internalIpAddress

theorem rulesTo_ensures (ips : List String) (fip : FloatingIp) :
    (rulesTo ips fip).Ensures (Cloud.serve env) (fun w => w.cloud = cloud)
      fun found => found.length ≤ (leadingOn cloud.neutron ips fip).length := by
  refine .attempt ((listPortForwardings_ensures .system fip.id).bind fun pfs listed => .pure ?_) fun _ =>
    .pure (Nat.zero_le _)
  rw [List.length_map, ← listed]
  exact Nat.le_refl _

theorem length_flatten_le {α β γ : Type} {g : α → List γ} {xs : List α} {lists : List (List β)}
    (all : List.Forall₂ (fun x l => l.length ≤ (g x).length) xs lists) :
    lists.flatten.length ≤ (xs.flatMap g).length := by
  induction all with
  | nil => exact Nat.le_refl _
  | cons first _ ih =>
    rw [List.flatten_cons, List.flatMap_cons, List.length_append, List.length_append]
    exact Nat.add_le_add first ih

/-- A rule is on one floating IP only. -/
theorem leadingOn_le (store : Store) (ips : List String) {fips : List FloatingIp} (distinct : (fips.map FloatingIp.id).Nodup) :
    (fips.flatMap (leadingOn store ips)).length ≤ (leadingTo store ips).length := by
  have once : (fips.flatMap (leadingOn store ips)).Nodup := by
    refine List.nodup_flatMap.mpr ⟨fun fip _ => ((List.Nodup.of_map _ store.portForwardings.unique).filter _).filter _, ?_⟩
    refine (List.pairwise_map.mp distinct).imp fun apart pf first second => apart ?_
    have onFirst := (Table.mem_select.mp (List.mem_filter.mp first).1).2
    have onSecond := (Table.mem_select.mp (List.mem_filter.mp second).1).2
    rw [← beq_iff_eq.mp onFirst, beq_iff_eq.mp onSecond]
  have among : fips.flatMap (leadingOn store ips) ⊆ leadingTo store ips := by
    intro pf member
    obtain ⟨fip, _, on⟩ := List.mem_flatMap.mp member
    obtain ⟨there, leads⟩ := List.mem_filter.mp on
    exact Table.mem_select.mpr ⟨(Table.mem_select.mp there).1, leads⟩
  exact (List.Nodup.subperm once among).length_le

theorem stats_ensures (ips : List String) :
    (do
      let allFips ← Cloud.neutron .system (.listFloatingips none)
      Program.gather allFips (rulesTo ips) : Cloud.Remote (List Clients.Found)).Ensures (Cloud.serve env)
        (fun w => w.cloud = cloud) fun found => found.length ≤ (leadingTo cloud.neutron ips).length := by
  refine (Cloud.remote_ensures env (c := .neutron .system (.listFloatingips none)) trivial).bind fun allFips listed => ?_
  obtain ⟨_, same⟩ := listed
  refine (Program.Ensures.gather (rulesTo_ensures ips)).weaken ?_
  rintro found ⟨lists, rfl, all⟩
  refine Nat.le_trans (length_flatten_le all) (leadingOn_le cloud.neutron ips ?_)
  obtain rfl : Neutron.listFloatingips _ cloud.neutron none = allFips :=
    Except.ok.inj ((env.neutronService.listFloatingips none).symm.trans same)
  exact (List.filter_sublist.map FloatingIp.id).nodup cloud.neutron.floatingIps.unique

theorem leadingTo_mono {store : Store} {ips more : List String} (among : ips ⊆ more) :
    (leadingTo store ips).length ≤ (leadingTo store more).length := by
  refine (List.monotone_filter_right store.portForwardings.rows fun pf leads => ?_).length_le
  exact List.contains_iff_mem.mpr (among (List.contains_iff_mem.mp leads))

end

/-- Servers that Nova lists of a project have addresses of the project's servers. -/
theorem fixedIps_listed (env : Env) (s : State) (session : KeystoneSession) (project : String) :
    fixedIps (listServers env s session none project) ⊆ internalIps s.cloud project := by
  intro addr member
  obtain ⟨ip, among, fixed⟩ := List.mem_filterMap.mp member
  obtain ⟨listed, there, has⟩ := List.mem_flatMap.mp among
  obtain ⟨server, selected, rfl⟩ := List.mem_map.mp (env.serverService.lists.mem_iff.mp there)
  obtain ⟨row, shown⟩ := Table.mem_select.mp selected
  refine List.mem_filterMap.mpr ⟨ip, List.mem_flatMap.mpr ⟨server, Table.mem_select.mpr ⟨row, ?_⟩, has⟩, fixed⟩
  simp only [Bool.and_eq_true] at shown
  exact shown.1.2

theorem novaListServers_ensures {env : Env} {cloud : Cloud.State} (session : KeystoneSession) (project : String) :
    (novaListServers session none project).Ensures env.backend.serve (fun w => w.state.cloud = cloud)
      fun servers => fixedIps servers ⊆ internalIps cloud project := by
  refine .attempt (.remote (Backend.serve_keeps (I := fun s : State => s.cloud = cloud) fun _ _ same => same) ?_) fun _ => .raise
  rintro w servers rfl listed
  obtain rfl : listServers env w.state session none project = servers := Except.ok.inj (Backend.serve_result.mp listed).2
  exact fixedIps_listed env w.state session project

/-- The statistics count no rule twice, and no rule that leads elsewhere. -/
theorem getPortForwardingStats_ensures {env : Env} {cloud : Cloud.State} (conf : Conf) (profile : Profile) :
    (getPortForwardingStats conf profile).Ensures env.backend.serve (fun w => w.state.cloud = cloud)
      fun stats => stats.totalCount ≤ (targeting cloud profile.project.id).length := by
  refine .attempt (.bind (ofCloud_ensures (sessionOf_ensures profile)) fun session _ => ?_) fun _ => .raise
  refine .bind (novaListServers_ensures session profile.project.id) fun servers among => ?_
  refine .bind (ofCloud_ensures (stats_ensures (fixedIps servers))) fun found counted => .pure ?_
  exact Nat.le_trans counted (leadingTo_mono among)

/-! ## Requests one at a time -/

/-- A request of a member of the project. -/
structure Request (project : String) where
  profile : Profile
  member : profile.project.id = project
  body : PortForwardingAdd

section
variable {env : Env} {conf : Conf} {project : String}

/-- The world that a request leaves. -/
def after (env : Env) (conf : Conf) (r : Request project) (w : World Call State) : World Call State :=
  ((ofCloud (addPortForwarding conf.portForwardingLimit r.body r.profile)).run env.backend.serve w).2

def requests (env : Env) (conf : Conf) (project : String) (w : World Call State) :
    System (World Call State) (Request project) (Request project) where
  init := w
  step w r := some (r, after env conf r w)

def Within (conf : Conf) (project : String) (cloud : Cloud.State) : Prop :=
  (targeting cloud project).length ≤ conf.portForwardingLimit

/-- Where the rules that lead to the project's servers have reached the limit, a request for an
    address of theirs is made only if the rules on the caller's own floating IPs have, too. -/
def Agreed (env : Env) (conf : Conf) (w : World Call State) (r : Request project) : Prop :=
  conf.portForwardingLimit ≤ (targeting w.state.cloud project).length →
    r.body.internalIp ∈ internalIps w.state.cloud project →
      conf.portForwardingLimit ≤ (onOwn env.cloud w.state.cloud r.profile).length

variable (project) in
/-- A rule more counts where it leads to an address of the project's servers. -/
theorem targeting_addsRule {ip : String} {before after : Cloud.State} (adds : Clients.AddsRule ip before after) :
    (targeting after project).length = (targeting before project).length ∨
      ip ∈ internalIps before project ∧ (targeting after project).length = (targeting before project).length + 1 := by
  rcases adds with rfl | ⟨store, pf, rfl, rows, rfl⟩
  · exact .inl rfl
  · have counted : targeting { before with neutron := store } project = targeting before project ++
        if (internalIps before project).contains pf.internalIpAddress then [pf] else [] := by
      show List.filter _ store.portForwardings.rows = _
      rw [rows, List.filter_append, List.filter_singleton, Bool.cond_eq_ite]
      rfl
    rw [counted]
    by_cases leads : (internalIps before project).contains pf.internalIpAddress = true
    · rw [if_pos leads]
      exact .inr ⟨List.contains_iff_mem.mp leads, List.length_append⟩
    · rw [if_neg leads, List.append_nil]
      exact .inl rfl

theorem after_within {w : World Call State} (r : Request project) (within : Within conf project w.state.cloud)
    (agreed : Agreed env conf w r) : Within conf project (after env conf r w).state.cloud := by
  have adds : Adds env.cloud conf.portForwardingLimit r.body r.profile w.state.cloud (after env conf r w).state.cloud := by
    have there := addPortForwarding_adds env.cloud conf.portForwardingLimit r.body r.profile (cloudOf w) rfl
    rw [run_ofCloud] at there
    exact there
  rcases adds with same | ⟨room, adds⟩
  · rw [same]
    exact within
  · rcases targeting_addsRule project adds with same | ⟨ours, more⟩
    · rw [Within, same]
      exact within
    · rw [Within, more]
      by_cases reached : conf.portForwardingLimit ≤ (targeting w.state.cloud project).length
      · exact absurd (agreed reached ours) (Int.not_le.mpr room)
      · omega

theorem agreed_limit_kept {w : World Call State} (within : Within conf project w.state.cloud)
    {past : List (Request project)} {v : World Call State}
    (run : (requests env conf project w).Run (Agreed env conf) past v) :
    Within conf project v.state.cloud ∧ ∀ profile stats, profile.project.id = project →
      ((getPortForwardingStats conf profile).run env.backend.serve v).1 = .ok stats →
        stats.totalCount ≤ conf.portForwardingLimit := by
  have kept : Within conf project v.state.cloud := by
    refine System.Run.invariant (I := fun _ (w : World Call State) => Within conf project w.state.cloud) ?_ ?_ run
    · exact within
    · intro _ w r _ w' inv agreed stepped
      have left : after env conf r w = w' := congrArg Prod.snd (Option.some.inj stepped)
      rw [← left]
      exact after_within r inv agreed
  refine ⟨kept, ?_⟩
  rintro profile stats rfl shown
  have counted := (getPortForwardingStats_ensures conf profile v rfl).2 stats shown
  exact Int.le_trans (Int.ofNat_le.mpr counted) kept

end

instance (env : Env) (conf : Conf) (project : String) (w : World Call State) :
    ∀ r : Request project, Decidable (Agreed env conf w r) :=
  fun r => inferInstanceAs (Decidable (conf.portForwardingLimit ≤ (targeting w.state.cloud project).length →
    r.body.internalIp ∈ internalIps w.state.cloud project →
      conf.portForwardingLimit ≤ (onOwn env.cloud w.state.cloud r.profile).length))

instance (conf : Conf) (project : String) (cloud : Cloud.State) : Decidable (Within conf project cloud) :=
  inferInstanceAs (Decidable ((targeting cloud project).length ≤ conf.portForwardingLimit))

/-- Two projects, whose rules are on a floating IP of neither, and a floating IP of the first. -/
def spread : Cloud.State where
  __ := Cloud.twoTenants
  neutron := {
    __ := Cloud.twoTenants.neutron
    floatingIps := ⟨[⟨"fip", "203.0.113.7", "service"⟩, ⟨"our-fip", "203.0.113.8", "project"⟩], by decide⟩
    onFloatingIp := by simp [Cloud.twoTenants, Table.mem_rows] }

abbrev spreadWorld : World Call State := ⟨{ settled.state with cloud := spread }, []⟩

abbrev upTo (limit : Int) : Conf := { defaults with portForwardingLimit := limit }

/-- A request of the first project for its own address, on its own floating IP. -/
def ownRequest : Request "project" where
  profile := Session.member
  member := rfl
  body := {
    internalIp := "10.0.0.5"
    internalPort := ⟨5000, by decide⟩
    externalPort := some ⟨10024, by decide⟩
    floatingIp := some "203.0.113.8" }

theorem agreed_limit_kept_own : ∃ past v,
    (requests serving (upTo 3) "project" spreadWorld).Run (Agreed serving (upTo 3)) past v ∧
      (targeting v.state.cloud "project").length = 3 ∧ Within (upTo 3) "project" v.state.cloud := by
  obtain ⟨past, v, run, reached⟩ := (requests serving (upTo 3) "project" spreadWorld).exec_reaches
    (Agreed serving (upTo 3)) (P := fun v => (targeting v.state.cloud "project").length = 3) [ownRequest] (by decide)
  exact ⟨past, v, run, reached, (agreed_limit_kept (by decide) run).1⟩

/-- Two rules lead to the project's address, none of them on its own floating IP: a third one is
    made although the limit is two, and the statistics say so. -/
theorem limit_exceeded : ¬ ∀ (env : Env) (conf : Conf) (project : String) (w : World Call State),
    Within conf project w.state.cloud → ∀ past v, (requests env conf project w).AnyRun past v →
      ∀ profile stats, profile.project.id = project →
        ((getPortForwardingStats conf profile).run env.backend.serve v).1 = .ok stats →
          stats.totalCount ≤ conf.portForwardingLimit := by
  intro kept
  obtain ⟨past, v, run, shown⟩ := (requests serving (upTo 2) "project" spreadWorld).exec_reaches (fun _ _ => True)
    (P := fun v => (((getPortForwardingStats (upTo 2) Session.member).run serving.backend.serve v).1.toOption.map
      Stats.totalCount) = some 3) [ownRequest] (by decide)
  cases returned : ((getPortForwardingStats (upTo 2) Session.member).run serving.backend.serve v).1 with
  | error e =>
    rw [returned] at shown
    cases shown
  | ok stats =>
    rw [returned] at shown
    have within := kept serving (upTo 2) "project" spreadWorld (by decide) past v run Session.member stats rfl returned
    rw [show stats.totalCount = 3 from Option.some.inj shown] at within
    exact absurd within (by decide)

end Skyline.PortForwardingLimit
