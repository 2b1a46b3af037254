import Skyline.Clients

/-!
Deleting an instance (`delete_instance` of `api/v1/instance.py`). Before Nova is asked
to delete the server, the rules that forward to it are cleaned up, first the Proxy's
and then Neutron's; what goes wrong there is ignored. Neutron's rules are found by the
text of one address of the server, the first fixed one, over the whole cloud. So the
rules that go are those with that address, whomever they lead to, and the clean-up is
exact just where that address tells the server's rules from those of others.
-/
namespace Skyline.InstanceDeletion
open Skyline.Python Skyline.Tables Skyline.Effects Skyline.Programs Skyline.Neutron Skyline.Cloud Skyline.Clients
open Skyline.Services (Backend)
open Skyline.Session (Profile)

/-- The arguments of `_delete_volumes_after_instance`, run in the background once the
    request has been answered. -/
structure VolumeTask where
  session : KeystoneSession
  instanceId : String
  volumeIds : List String
  deriving DecidableEq, Repr

/-- What `ext_pf.get("id") or ext_pf.get("rule_id")` gives, as it stands in a URL. -/
def idOrRuleId (r : Proxy.Rule) : String := if r.id ≠ 0 then toString r.id else r.ruleId

def cleanProxy (instanceId : String) : Remote Unit := .ignoring do
  let extPfs ← Portforward.getPortforwardingsByVm instanceId
  Program.forEach extPfs fun extPf => .ignoring <|
    if truthy (idOrRuleId extPf) then Portforward.deletePortforwarding (idOrRuleId extPf) else pure ()

/-- Deletes rules one by one, and goes on where one cannot be deleted. -/
def deleteRules (pfs : List Found) : Remote Unit :=
  Program.forEach pfs fun pf => .ignoring (deletePortForwardingRule .system pf.floatingIpId pf.id)

def cleanNeutron (session : KeystoneSession) (instanceId : String) : Remote Unit := .ignoring do
  let internalIp ← getServerInternalIp session instanceId
  if truthy internalIp then do
    let pfs ← getPortForwardingsByInternalIp session internalIp
    deleteRules pfs
  else pure ()

def strIds (ids : List String) : String := "[" ++ ", ".intercalate (ids.map fun i => "'" ++ i ++ "'") ++ "]"

/-- `delete_instance`, with the tasks that it leaves for the background. -/
def deleteInstance (instanceId : String) (profile : Profile) : Remote (List VolumeTask) := do
  let session ← sessionOf profile
  .attempt (do
    cleanProxy instanceId
    cleanNeutron session instanceId
    let volumeIds ← getServerVolumes session instanceId
    deleteServer session instanceId
    database (.createActivityRecord {
      userId := profile.user.id
      projectId := profile.project.id
      category := "인스턴스 삭제"
      message := "인스턴스 '" ++ instanceId ++ "' 삭제 (볼륨: " ++ strIds volumeIds ++ ")"
      status := "success"
      token := "" })
    .ignoring (database (.deleteInstanceLifecycle instanceId))
    return if volumeIds ≠ [] then [{ session, instanceId, volumeIds }] else [])
    fun _ => .raise (.httpException 500 "Failed to delete instance")

/-! ## What the clean-up leaves -/

/-- The rules on a floating IP that have an address, as the search lists them. -/
def foundOn (store : Store) (ip : String) (fip : FloatingIp) : List Found :=
  ((store.portForwardings.select (fun pf => pf.floatingIpId == fip.id)).filter
    (fun pf => pf.internalIpAddress == ip)).map (Found.of fip)

def NeutronSucceeds (env : Env) : Prop :=
  ∀ session request n, env.delivery (.neutron session request) n = .answered

/-- The address that the clean-up goes by: the first fixed one of the server, where
    Nova answers the first request for it and the text is not empty. -/
def clearedIp (env : Env) (session : KeystoneSession) (w : World) (instanceId : String) : Option String :=
  if env.delivery (.nova session (.getServer instanceId)) (w.calls.count (.nova session (.getServer instanceId))) =
      .answered then
    match findServer (env.sees session) w.cloud.servers instanceId with
    | .ok server => (firstFixedIp server.addresses).filter truthy
    | .error _ => none
  else none

section
variable {env : Env} {w w' : World} {session : KeystoneSession} {instanceId : String}

theorem sessionOf_aside (profile : Profile) : (sessionOf profile).Uses Call.Aside :=
  .bind (.remote trivial) fun _ => .pure _

theorem cleanProxy_aside (instanceId : String) : (cleanProxy instanceId).Uses Call.Aside := by
  refine .attempt (.bind (exchange_uses (.remote trivial)) fun extPfs => .forEach fun extPf => ?_) fun _ => .pure ()
  exact .attempt (.ite (exchange_uses (.remote trivial)) (.pure ())) fun _ => .pure ()

/-- Calls aside change nothing that the clean-up of Neutron's rules depends on. -/
theorem aside_keep (session : KeystoneSession) (instanceId : String) {α : Type} {m : Remote α} {r : Except Exn α}
    (uses : m.Uses Call.Aside) (ran : m.run (serve env) w = (r, w')) :
    w'.cloud.neutron = w.cloud.neutron ∧ clearedIp env session w' instanceId = clearedIp env session w instanceId := by
  have each : ∀ c : Call, c.Aside → Eff.Keeps (fun s => s.cloud.neutron = w.cloud.neutron ∧
      s.cloud.servers = w.cloud.servers ∧ s.calls.count (.nova session (.getServer instanceId)) =
        w.calls.count (.nova session (.getServer instanceId))) (serve env c) := by
    rintro c aside s ⟨neutron, servers, count⟩
    have other : c ≠ .nova session (.getServer instanceId) := by
      rintro rfl
      exact aside
    have counted : (serve env c s).2.calls.count (.nova session (.getServer instanceId)) =
        s.calls.count (.nova session (.getServer instanceId)) := by
      rw [Backend.count_other other]
    rcases serve_cloud env (c := c) (w := s) with same | performed
    · exact ⟨by rw [same, neutron], by rw [same, servers], by rw [counted, count]⟩
    · rw [perform_aside env aside] at performed
      exact ⟨by rw [performed, ← neutron], by rw [performed, ← servers], by rw [counted, count]⟩
  obtain ⟨neutron, servers, count⟩ : w'.cloud.neutron = _ ∧ w'.cloud.servers = _ ∧ w'.calls.count _ = _ := by
    simpa only [ran] using Program.run_keeps each uses w ⟨rfl, rfl, rfl⟩
  exact ⟨neutron, by simp only [clearedIp, servers, count]⟩

/-- Where the clean-up has an address to go by, asking Nova for it gives that one. -/
theorem getServerInternalIp_of_cleared {ip : String} (cleared : clearedIp env session w instanceId = some ip) :
    truthy ip = true ∧ ∃ t, (getServerInternalIp session instanceId).run (serve env) w = (.ok ip, t) := by
  unfold clearedIp at cleared
  split at cleared
  · next answered =>
    split at cleared
    · next server found =>
      obtain ⟨first, long⟩ := Option.filter_eq_some_iff.mp cleared
      obtain ⟨t, got⟩ : ∃ t, (nova session (.getServer instanceId)).run (serve env) w = (.ok server, t) := by
        rw [nova, Program.run_remote, serve_answered env answered]
        exact ⟨_, Prod.ext (env.novaService.getServer.mpr found) rfl⟩
      refine ⟨long, t, ?_⟩
      rw [getServerInternalIp, awaitInternalIp, Program.run_bind, Eff.bind_ok got, first]
      rfl
    · cases cleared
  · cases cleared

/-- Where the clean-up has an address to go by, that is what came of asking Nova. -/
theorem answer_of_cleared {result : Except Exn String} {ip : String}
    (asked : (getServerInternalIp session instanceId).run (serve env) w = (result, w'))
    (cleared : clearedIp env session w instanceId = some ip) : result = .ok ip ∧ truthy ip = true := by
  obtain ⟨long, t, ran⟩ := getServerInternalIp_of_cleared cleared
  rw [asked] at ran
  exact ⟨congrArg Prod.fst ran, long⟩

/-- What Nova gives is the address that the clean-up goes by, unless it is empty. -/
theorem cleared_of_getServerInternalIp {ip : String}
    (ran : (getServerInternalIp session instanceId).run (serve env) w = (.ok ip, w')) (long : truthy ip = true) :
    clearedIp env session w instanceId = some ip := by
  obtain ⟨server, found, first⟩ := awaitInternalIp_ok ran
  rw [getServerInternalIp, awaitInternalIp, Program.run_bind] at ran
  obtain ⟨_, _, got, _⟩ := Eff.of_bind_ok ran
  have answered := delivery_of_ok env (c := .nova session (.getServer instanceId)) got
  simp only [clearedIp, answered, if_true, found, first, Option.filter_some, long]

section
variable (succeeds : NeutronSucceeds env)
include succeeds

theorem neutron_run (session : KeystoneSession) (request : NeutronCall) (w : World) :
    ∃ t, (neutron session request).run (serve env) w =
        ((env.neutronService.perform (env.sees session)
          (env.newId request (w.calls.count (.neutron session request))) w.cloud.neutron request).1, t) ∧
      t.cloud = { w.cloud with
        neutron := (env.neutronService.perform (env.sees session)
          (env.newId request (w.calls.count (.neutron session request))) w.cloud.neutron request).2 } := by
  rw [neutron, Program.run_remote, serve_answered env (succeeds _ _ _)]
  exact ⟨_, rfl, rfl⟩

theorem searchFloatingIp_run {fip : FloatingIp} (ip : String) (w : World)
    (member : fip ∈ w.cloud.neutron.floatingIps) :
    ∃ t, (searchFloatingIp ip fip).run (serve env) w = (.ok (foundOn w.cloud.neutron ip fip), t) ∧ t.cloud = w.cloud := by
  obtain ⟨t, ran, -⟩ := neutron_run succeeds .system (.listPortForwardings fip.id) w
  refine ⟨t, ?_, reads_keep env (m := neutron .system (.listPortForwardings fip.id)) (.remote trivial) ran⟩
  rw [sees_system, env.neutronService.lists_all member] at ran
  rw [searchFloatingIp, Program.run_attempt, Eff.attempt_run, Program.run_bind, Eff.bind_ok ran]
  rfl

/-- What the search of the cloud finds is just the rules that have the address. -/
theorem getPortForwardingsByInternalIp_run (session : KeystoneSession) (ip : String) (w : World) :
    ∃ pfs t, (getPortForwardingsByInternalIp session ip).run (serve env) w = (.ok pfs, t) ∧ t.cloud = w.cloud ∧
      ∀ id floatingIpId, (∃ found ∈ pfs, found.id = id ∧ found.floatingIpId = floatingIpId) ↔
        ∃ pf ∈ w.cloud.neutron.portForwardings, pf.id = id ∧ pf.floatingIpId = floatingIpId ∧
          pf.internalIpAddress = ip := by
  obtain ⟨w₁, listed, -⟩ := neutron_run succeeds .system (.listFloatingips none) w
  have kept : w₁.cloud = w.cloud := reads_keep env (m := neutron .system (.listFloatingips none)) (.remote trivial) listed
  rw [env.neutronService.listFloatingips] at listed
  have each : ∀ fip ∈ Neutron.listFloatingips (fun _ => true) w.cloud.neutron none, ∀ s : World, s.cloud = w.cloud →
      ∃ t, (searchFloatingIp ip fip).run (serve env) s = (.ok (foundOn w.cloud.neutron ip fip), t) ∧
        t.cloud = w.cloud := by
    intro fip member s same
    have there := (Table.mem_select.mp member).1
    rw [← same] at there ⊢
    exact searchFloatingIp_run succeeds ip s there
  obtain ⟨t, gathered, state⟩ := Program.gather_ok each kept
  refine ⟨(Neutron.listFloatingips (fun _ => true) w.cloud.neutron none).flatMap (foundOn w.cloud.neutron ip), t, ?_,
    state, fun id floatingIpId => ?_⟩
  · rw [getPortForwardingsByInternalIp, Program.run_bind, Eff.bind_ok listed]
    exact gathered
  · simp only [List.mem_flatMap, foundOn, List.mem_map, List.mem_filter, Table.mem_select, beq_iff_eq]
    constructor
    · rintro ⟨_, ⟨fip, _, pf, ⟨⟨member, on⟩, address⟩, rfl⟩, rfl, rfl⟩
      exact ⟨pf, member, rfl, on, address⟩
    · rintro ⟨pf, member, rfl, rfl, address⟩
      obtain ⟨fip, there, on⟩ := w.cloud.neutron.onFloatingIp pf member
      exact ⟨_, ⟨fip, Table.mem_select.mpr ⟨there, by simp⟩, pf, ⟨⟨member, on.symm⟩, address⟩, rfl⟩, rfl, on⟩

theorem deleteRules_run (pfs : List Found) (w : World) :
    ∃ t, (deleteRules pfs).run (serve env) w = (.ok (), t) ∧
      ∀ pf, pf ∈ t.cloud.neutron.portForwardings ↔
        pf ∈ w.cloud.neutron.portForwardings ∧ ¬ ∃ found ∈ pfs, found.id = pf.id ∧ found.floatingIpId = pf.floatingIpId := by
  induction pfs generalizing w with
  | nil => exact ⟨w, rfl, by simp⟩
  | cons found pfs ih =>
    obtain ⟨w₁, ran, state⟩ := neutron_run succeeds .system (.deletePortForwarding found.floatingIpId found.id) w
    obtain ⟨t, rest, gone⟩ := ih w₁
    refine ⟨t, ?_, fun pf => ?_⟩
    · rw [deleteRules, Program.forEach, Program.run_bind, Eff.bind_ok (Program.run_ignoring _ _ w), deletePortForwardingRule, ran]
      exact rest
    · rw [gone, state]
      simp only [sees_system, env.neutronService.mem_deleted, List.mem_cons, exists_eq_or_imp, not_or]
      constructor
      · rintro ⟨⟨there, first⟩, others⟩
        exact ⟨there, fun same => first ⟨same.1.symm, same.2.symm⟩, others⟩
      · rintro ⟨there, first, others⟩
        exact ⟨⟨there, fun same => first ⟨same.1.symm, same.2.symm⟩⟩, others⟩

/-- The clean-up takes away the rules with the address it goes by, and no others. -/
theorem cleanNeutron_mem (session : KeystoneSession) (instanceId : String) (w : World) (pf : PortForwarding) :
    pf ∈ ((cleanNeutron session instanceId).run (serve env) w).2.cloud.neutron.portForwardings ↔
      pf ∈ w.cloud.neutron.portForwardings ∧ clearedIp env session w instanceId ≠ some pf.internalIpAddress := by
  rw [cleanNeutron, Program.run_ignoring, Program.run_bind]
  rcases asked : (getServerInternalIp session instanceId).run (serve env) w with ⟨result, w₁⟩
  have kept : w₁.cloud = w.cloud := reads_keep env (awaitInternalIp_reads session instanceId 10) asked
  cases result with
  | error e =>
    rw [Eff.bind_error asked, kept]
    refine ⟨fun there => ⟨there, fun cleared => ?_⟩, And.left⟩
    exact absurd (answer_of_cleared asked cleared).1 (by simp)
  | ok ip =>
    rw [Eff.bind_ok asked, Program.run_ite]
    by_cases long : truthy ip = true
    · obtain ⟨pfs, w₂, found, same, which⟩ := getPortForwardingsByInternalIp_run succeeds session ip w₁
      obtain ⟨t, deleted, gone⟩ := deleteRules_run succeeds pfs w₂
      rw [if_pos long, Program.run_bind, Eff.bind_ok found, deleted, gone, same, which, kept,
        cleared_of_getServerInternalIp asked long]
      refine and_congr_right fun there => not_congr ⟨?_, ?_⟩
      · rintro ⟨other, member, same, _, address⟩
        obtain rfl := Table.eq_of_key member there same
        rw [address]
      · intro address
        exact ⟨pf, there, rfl, rfl, (Option.some.inj address).symm⟩
    · rw [if_neg long, Program.run_pure, kept]
      refine ⟨fun there => ⟨there, fun cleared => ?_⟩, And.left⟩
      obtain ⟨same, real⟩ := answer_of_cleared asked cleared
      exact long (Except.ok.inj same ▸ real)

/-- After an instance has been deleted, Neutron has the rules it had but those with the
    address that the clean-up went by. -/
theorem deleteInstance_mem {profile : Profile} {tasks : List VolumeTask}
    (deleted : (deleteInstance instanceId profile).run (serve env) w = (.ok tasks, w')) (pf : PortForwarding) :
    pf ∈ w'.cloud.neutron.portForwardings ↔ pf ∈ w.cloud.neutron.portForwardings ∧
      clearedIp env (ownSession profile) w instanceId ≠ some pf.internalIpAddress := by
  rw [deleteInstance, Program.run_bind] at deleted
  obtain ⟨session, w₁, opened, rest₁⟩ := Eff.of_bind_ok deleted
  have own : session = ownSession profile := by
    rw [sessionOf, generateSession, Program.run_bind] at opened
    obtain ⟨_, _, _, named⟩ := Eff.of_bind_ok opened
    cases named
    rfl
  subst own
  rw [Program.run_attempt] at rest₁
  rcases Eff.of_attempt_ok rest₁ with body | ⟨_, _, _, raised⟩
  · rw [Program.run_bind] at body
    obtain ⟨_, w₂, proxyCleaned, rest₂⟩ := Eff.of_bind_ok body
    rw [Program.run_bind] at rest₂
    obtain ⟨_, w₃, neutronCleaned, rest₃⟩ := Eff.of_bind_ok rest₂
    have after : w'.cloud.neutron = w₃.cloud.neutron := by
      refine sparesNeutron_keep env ?_ rest₃
      refine .bind (.attempt (.remote trivial) fun _ => .raise _) fun volumeIds => ?_
      refine .bind (.attempt (.remote trivial) fun _ => .raise _) fun _ => ?_
      exact .bind (.remote trivial) fun _ => .bind (.attempt (.remote trivial) fun _ => .pure ()) fun _ => .pure _
    obtain ⟨neutron₁, cleared₁⟩ := aside_keep (ownSession profile) instanceId
      (sessionOf_aside profile) opened
    obtain ⟨neutron₂, cleared₂⟩ := aside_keep (ownSession profile) instanceId
      (cleanProxy_aside instanceId) proxyCleaned
    have cleaned := cleanNeutron_mem succeeds (ownSession profile) instanceId w₂ pf
    rw [neutronCleaned, neutron₂, neutron₁, cleared₂, cleared₁] at cleaned
    rw [after]
    exact cleaned
  · cases raised

end
end

/-! ## Exactness -/

def AttachedTo (cloud : State) (serverId : String) (pf : PortForwarding) : Prop :=
  ∃ port ∈ cloud.neutron.ports, port.id = pf.internalPortId ∧ port.deviceId = serverId

/-- The rule's internal port is attached to a server other than this one. -/
def AttachedElsewhere (cloud : State) (serverId : String) (pf : PortForwarding) : Prop :=
  ∃ server ∈ cloud.servers, server.id ≠ serverId ∧ AttachedTo cloud server.id pf

/-- The rules of the server are gone, and those of other servers are still there. -/
structure Exact (instanceId : String) (before after : State) : Prop where
  removed : ∀ pf ∈ before.neutron.portForwardings, AttachedTo before instanceId pf →
    pf ∉ after.neutron.portForwardings
  kept : ∀ pf ∈ before.neutron.portForwardings, AttachedElsewhere before instanceId pf →
    pf ∈ after.neutron.portForwardings

/-- The address that the clean-up goes by tells the rules of the server from those of
    other servers: each of its rules has the address, and no rule of another server has. -/
def AddressTells (env : Env) (profile : Profile) (instanceId : String) (w : World) : Prop :=
  ∀ pf ∈ w.cloud.neutron.portForwardings,
    (AttachedTo w.cloud instanceId pf →
      clearedIp env (ownSession profile) w instanceId = some pf.internalIpAddress) ∧
    (AttachedElsewhere w.cloud instanceId pf →
      clearedIp env (ownSession profile) w instanceId ≠ some pf.internalIpAddress)

/-- Where Neutron's calls succeed, a deletion removes exactly the rules of the instance
    iff the address that its clean-up goes by tells them from the others. -/
theorem deletion_exact_iff (env : Env) (succeeds : NeutronSucceeds env) (instanceId : String) (profile : Profile)
    (w w' : World) (tasks : List VolumeTask)
    (deleted : (deleteInstance instanceId profile).run (serve env) w = (.ok tasks, w')) :
    Exact instanceId w.cloud w'.cloud ↔ AddressTells env profile instanceId w := by
  constructor
  · intro exactly pf member
    refine ⟨fun own => ?_, fun elsewhere => ?_⟩
    · by_contra other
      exact exactly.removed pf member own ((deleteInstance_mem succeeds deleted pf).mpr ⟨member, other⟩)
    · exact ((deleteInstance_mem succeeds deleted pf).mp (exactly.kept pf member elsewhere)).2
  · intro tells
    refine ⟨fun pf member own there => ?_, fun pf member elsewhere => ?_⟩
    · exact ((deleteInstance_mem succeeds deleted pf).mp there).2 ((tells pf member).1 own)
    · exact (deleteInstance_mem succeeds deleted pf).mpr ⟨member, (tells pf member).2 elsewhere⟩

/-! ## Two tenants -/

theorem our_deletion_exact :
    Exact "our-vm" twoTenants (((deleteInstance "our-vm" Session.member).run (serve obliging) quiet).2.cloud) ↔
      AddressTells obliging Session.member "our-vm" quiet :=
  deletion_exact_iff obliging (fun _ _ _ => rfl) "our-vm" Session.member quiet _ [] rfl

/-- With an address that the neighbour uses too, deleting an instance takes the
    neighbour's rule away. -/
theorem neighbour_rule_cleaned :
    ¬ ∀ (env : Env) (instanceId : String) (profile : Profile) (w w' : World) (tasks : List VolumeTask),
      NeutronSucceeds env → (deleteInstance instanceId profile).run (serve env) w = (.ok tasks, w') →
        Exact instanceId w.cloud w'.cloud := by
  intro always
  have deleted : (deleteInstance "our-vm" Session.member).run (serve obliging) quiet = (.ok [], _) := rfl
  have there : (⟨"their-rule", "fip", "their-port", "10.0.0.5", 22, 10023, "tcp"⟩ : PortForwarding) ∈
      twoTenants.neutron.portForwardings := List.mem_cons_of_mem _ List.mem_cons_self
  have elsewhere : AttachedElsewhere twoTenants "our-vm"
      ⟨"their-rule", "fip", "their-port", "10.0.0.5", 22, 10023, "tcp"⟩ :=
    ⟨_, List.mem_cons_of_mem _ List.mem_cons_self, by decide, _, List.mem_cons_of_mem _ List.mem_cons_self, rfl, rfl⟩
  have left := (always obliging "our-vm" Session.member quiet _ [] (fun _ _ _ => rfl) deleted).kept _ there elsewhere
  exact ((deleteInstance_mem (fun _ _ _ => rfl) deleted _).mp left).2 rfl

end Skyline.InstanceDeletion
