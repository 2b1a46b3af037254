import Skyline.PortChoice
import Skyline.PortForwardingLimit
import Skyline.Reclamation
import Skyline.Traces

/-!
The status of a refusal. `add_port_forwarding` refuses a request inside the `try` block whose handler
makes the same answer of every exception, and `cinder.delete_volume` an attached volume inside its own;
so a request that is refused is answered as one that failed. So is one that the client of Neutron
cannot carry out, since there is no port with the internal address or no external port is found,
although no call fails. The other refusal of a deletion, of a volume that is not there, has a handler
of its own and is kept.
-/
namespace Skyline.Refusals
open Skyline.Python Skyline.Effects Skyline.Programs Skyline.Threads
open Skyline.Services (Backend)
open Skyline.Neutron (FloatingIp PortForwarding)
open Skyline.Cloud (KeystoneSession ownSession)
open Skyline.PortForwarding (PortForwardingAdd Added)
open Skyline.PortForwardingLimit (onOwn)
open Skyline.PortChoice (firstFree firstFree_succ firstFree_none ending)
open Skyline.Session (Profile)

/-! ## What the handler refuses -/

/-- Whether a text is taken for the UUID of a floating IP. -/
abbrev IsUuid (floatingIp : String) : Prop := floatingIp.length = 36 ∧ count floatingIp '-' = 4

def limitReached : Exn := .httpException 400 "Maximum number of port forwardings for the project has been reached."

def floatingIpNotFound (floatingIp : String) : Exn := .httpException 404 ("Floating IP not found: " ++ floatingIp)

def floatingIpRequired : Exn :=
  .httpException 400 "floating_ip is required. Please specify a floating IP address or UUID."

def failed : Exn := .httpException 500 "Failed to create port forwarding"

/-- The floating IP that a request names, as Neutron shows or lists it to the caller. -/
def named (env : Cloud.Env) (cloud : Cloud.State) (profile : Profile) (floatingIp : String) : Option FloatingIp :=
  if IsUuid floatingIp then
    (Neutron.showFloatingip (env.sees (ownSession profile)) cloud.neutron floatingIp).toOption
  else (Neutron.listFloatingips (env.sees (ownSession profile)) cloud.neutron none).find?
    (·.floatingIpAddress == floatingIp)

/-- The refusal of a request, in the state that Neutron is in. -/
def refusal (env : Cloud.Env) (cloud : Cloud.State) (portForwardingLimit : Int) (request : PortForwardingAdd)
    (profile : Profile) : Option Exn :=
  let floatingIp := request.floatingIp.getD ""
  if (onOwn env cloud profile).length ≥ portForwardingLimit then some limitReached
  else if truthy? request.floatingIp then
    if IsUuid floatingIp ∨ (named env cloud profile floatingIp).isSome then none
    else some (floatingIpNotFound floatingIp)
  else some floatingIpRequired

def added (fip : FloatingIp) (pf : PortForwarding) : Added where
  message := "Port forwarding created successfully"
  id := pf.id
  floatingIpAddress := fip.floatingIpAddress
  internalIpAddress := pf.internalIpAddress
  internalPort := pf.internalPort
  externalPort := pf.externalPort
  protocol := pf.protocol

/-! ## What making a rule takes -/

/-- The external ports in use on a floating IP. -/
def usedPorts (cloud : Cloud.State) (floatingipId : String) : List Nat :=
  (cloud.neutron.portForwardings.select fun pf => pf.floatingIpId == floatingipId).map (·.externalPort)

/-- The port that is drawn when `n` were drawn before. -/
def drawn (env : Cloud.Env) (n : Nat) : Nat := 10 + env.draw n % 991

/-- The calls of `random.randint`, and how many of them there were. -/
abbrev draw : Cloud.Call := .randint 10 1000

/-- What `create_port_forwarding_rule` does not raise for: Neutron has a port with the internal
    address, and one of the hundred ports that are drawn, where none is given, is not in use. -/
structure Makeable (env : Cloud.Env) (cloud : Cloud.State) (n : Nat) (floatingipId internalIp : String)
    (externalPort : Option Nat) : Prop where
  port : Neutron.listPorts (env.sees .system) cloud.neutron internalIp ≠ []
  free : externalPort = none → ∃ k < 100, drawn env (n + k) ∉ usedPorts cloud floatingipId

/-- The handler does not refuse the request, and a rule can be made for it. -/
structure Grants (env : Cloud.Env) (cloud : Cloud.State) (n : Nat) (portForwardingLimit : Int)
    (request : PortForwardingAdd) (profile : Profile) : Prop where
  allowed : refusal env cloud portForwardingLimit request profile = none
  makeable : ∀ fip, named env cloud profile (request.floatingIp.getD "") = some fip →
    Makeable env cloud n fip.id request.internalIp (request.externalPort.map Subtype.val)

/-! ## How a request ends -/

section
variable {env : Cloud.Env} {cloud : Cloud.State} {n : Nat} {profile : Profile}

/-- The cloud while a request is handled, and how many ports were drawn. -/
def Meets (cloud : Cloud.State) (n : Nat) (w : Cloud.World) : Prop := w.cloud = cloud ∧ w.calls.count draw = n

/-- What a call that reads returns is what it gives in the cloud as it is. -/
theorem remote_comes {c : Cloud.Call} (reads : c.Reads) (other : c ≠ draw) :
    Comes (Cloud.serve env) (Meets cloud n) (.remote c)
      fun r w => ∃ a, r = .ok a ∧ (∃ k, (c.perform env k cloud).1 = .ok a) ∧ Meets cloud n w := by
  refine .remote fun s a t here served => ?_
  obtain ⟨rfl, rfl⟩ := here
  have performed := Cloud.serve_ok env served
  have kept : (c.perform env (s.calls.count c) s.cloud).2 = s.cloud := Cloud.perform_reads env reads
  refine ⟨a, rfl, ⟨_, congrArg Prod.fst performed⟩, (congrArg Prod.snd performed).symm.trans kept, ?_⟩
  have counted : (Cloud.serve env c s).2.calls.count draw = s.calls.count draw := Backend.count_other other s
  rw [served] at counted
  exact counted

/-- So a call of which it is known what it gives returns that. -/
theorem remote_returns {c : Cloud.Call} (reads : c.Reads) (other : c ≠ draw) {a : Cloud.Answer c}
    (gives : ∀ k b, (c.perform env k cloud).1 = .ok b → b = a) :
    Returns (Cloud.serve env) (Meets cloud n) (.remote c) a := by
  intro s here answered
  obtain ⟨b, returned, ⟨k, given⟩, kept⟩ := remote_comes reads other s here answered
  rw [gives k b given] at returned
  exact ⟨returned, kept⟩

theorem sessionOf_returns : Returns (Cloud.serve env) (Meets cloud n) (Clients.sessionOf profile) (ownSession profile) :=
  .bind (remote_returns (c := .generateSession _ _) (a := ()) trivial nofun fun _ _ _ => rfl)
    (.done fun _ here => ⟨rfl, here⟩)

theorem listFloatingips_returns (session : KeystoneSession) (tenantId : Option String) :
    Returns (Cloud.serve env) (Meets cloud n) (Cloud.neutron session (.listFloatingips tenantId))
      (Neutron.listFloatingips (env.sees session) cloud.neutron tenantId) :=
  remote_returns (c := .neutron session (.listFloatingips tenantId)) trivial nofun
    fun _ _ given => (Except.ok.inj ((env.neutronService.listFloatingips tenantId).symm.trans given)).symm

theorem getPortForwardingRules_returns (session : KeystoneSession) (floatingipId : String) :
    Returns (Cloud.serve env) (Meets cloud n) (Clients.getPortForwardingRules session floatingipId)
      (cloud.neutron.portForwardings.select fun pf => pf.floatingIpId == floatingipId) :=
  remote_returns (c := .neutron session (.listPortForwardings floatingipId)) trivial nofun
    fun _ _ given => (env.neutronService.listPortForwardings.mp given).2

theorem used_returns : Returns (Cloud.serve env) (Meets cloud n)
    (Program.gather (Neutron.listFloatingips (env.sees (ownSession profile)) cloud.neutron (some profile.project.id))
      fun fip => Clients.getPortForwardingRules (ownSession profile) fip.id) (onOwn env cloud profile) :=
  .gather (fun fip : FloatingIp => getPortForwardingRules_returns (ownSession profile) fip.id) _

theorem namedFloatingIp_comes (floatingIp : String) :
    Comes (Cloud.serve env) (Meets cloud n) (PortForwarding.namedFloatingIp (ownSession profile) floatingIp)
      fun r w => ((∃ fip, r = .ok fip ∧ named env cloud profile floatingIp = some fip) ∨
        r = .error (floatingIpNotFound floatingIp) ∧ ¬ IsUuid floatingIp ∧ named env cloud profile floatingIp = none) ∧
          Meets cloud n w := by
  rw [PortForwarding.namedFloatingIp, named]
  by_cases uuid : IsUuid floatingIp
  · rw [if_pos uuid, if_pos uuid]
    intro s here answered
    obtain ⟨fip, returned, ⟨k, shown⟩, kept⟩ :=
      remote_comes (c := .neutron (ownSession profile) (.showFloatingip floatingIp)) trivial nofun s here answered
    have shown : Neutron.showFloatingip (env.sees (ownSession profile)) cloud.neutron floatingIp = .ok fip :=
      Neutron.showFloatingip_ok.mpr (env.neutronService.showFloatingip.mp shown)
    rw [shown]
    exact ⟨.inl ⟨fip, returned, rfl⟩, kept⟩
  · rw [if_neg uuid, if_neg uuid]
    refine (listFloatingips_returns (ownSession profile) none).bind ?_
    cases (Neutron.listFloatingips (env.sees (ownSession profile)) cloud.neutron none).find?
      (fun f => f.floatingIpAddress == floatingIp) with
    | some fip => exact .done fun _ here => ⟨.inl ⟨fip, rfl, rfl⟩, here⟩
    | none => exact .done fun _ here => ⟨.inr ⟨rfl, uuid, rfl⟩, here⟩

theorem drawPort_comes (floatingipId : String) (used : List Nat) (attempts : Nat) :
    Comes (Cloud.serve env) (Meets cloud n) (Clients.drawPort floatingipId used 10 1000 attempts)
      fun r w => r = ending floatingipId (firstFree used (drawn env) n attempts) ∧ w.cloud = cloud := by
  induction attempts generalizing n with
  | zero => exact .done fun _ here => ⟨rfl, here.1⟩
  | succ attempts ih =>
    have drew : Comes (Cloud.serve env) (Meets cloud n) (Cloud.randint 10 1000)
        fun r w => r = .ok (drawn env n) ∧ Meets cloud (n + 1) w := by
      refine .remote fun s a t here served => ?_
      obtain ⟨rfl, rfl⟩ := here
      have performed := Cloud.serve_ok env served
      have counted : (Cloud.serve env draw s).2.calls.count draw = s.calls.count draw + 1 := Backend.count_served s
      rw [served] at counted
      exact ⟨(congrArg Prod.fst performed).symm, (congrArg Prod.snd performed).symm, counted⟩
    rw [firstFree_succ]
    refine .bind drew (fun port => .assuming fun same => ?_) fun _ _ there => nomatch there.1
    obtain rfl := Except.ok.inj same
    by_cases free : drawn env n ∉ used
    · rw [if_pos free, if_pos free]
      exact .done fun _ here => ⟨rfl, here.1⟩
    · rw [if_neg free, if_neg free]
      exact ih

theorem findRandomAvailablePort_comes (floatingipId : String) :
    Comes (Cloud.serve env) (Meets cloud n) (Clients.findRandomAvailablePort .system floatingipId)
      fun r w => r = ending floatingipId (firstFree (usedPorts cloud floatingipId) (drawn env) n 100) ∧ w.cloud = cloud :=
  (getPortForwardingRules_returns .system floatingipId).bind (drawPort_comes floatingipId _ 100)

theorem Meets.uncounted {α : Type} {m : Cloud.Remote α} {post : Except Exn α → Cloud.World → Prop}
    (comes : ∀ n, Comes (Cloud.serve env) (Meets cloud n) m post) :
    Comes (Cloud.serve env) (fun w => w.cloud = cloud) m post := fun w same => comes _ w ⟨same, rfl⟩

theorem findPortByInternalIp_comes (internalIp : String) :
    Comes (Cloud.serve env) (fun w => w.cloud = cloud) (Clients.findPortByInternalIp .system internalIp)
      fun r _ => (∃ id, r = .ok id) ↔ Neutron.listPorts (env.sees .system) cloud.neutron internalIp ≠ [] := by
  refine Meets.uncounted fun n => ?_
  have listed : Returns (Cloud.serve env) (Meets cloud n) (Cloud.neutron .system (.listPorts internalIp))
      (Neutron.listPorts (env.sees .system) cloud.neutron internalIp) :=
    remote_returns (c := .neutron .system (.listPorts internalIp)) trivial nofun
      fun _ _ given => (Except.ok.inj ((env.neutronService.listPorts internalIp).symm.trans given)).symm
  refine .attempt (?_ : Comes _ _ _ fun r _ =>
    (∃ id, r = .ok id) ↔ Neutron.listPorts (env.sees .system) cloud.neutron internalIp ≠ [])
    (fun e => .done fun _ missing => ?_) fun _ _ => id
  · refine listed.bind ?_
    cases Neutron.listPorts (env.sees .system) cloud.neutron internalIp with
    | nil => exact .done fun _ _ => by simp
    | cons port ports => exact .done fun _ _ => by simp
  · rw [← missing]
    simp

/-- The rule is made iff nothing is lacking for it. -/
theorem createPortForwardingRule_comes (floatingipId internalIp : String) (internalPort : Nat) (externalPort : Option Nat)
    (protocol : String) :
    Comes (Cloud.serve env) (Meets cloud n)
      (Clients.createPortForwardingRule .system floatingipId internalIp internalPort externalPort protocol)
      fun r _ => (∃ pf, r = .ok pf) ↔ Makeable env cloud n floatingipId internalIp externalPort := by
  have made (free : externalPort = none → ∃ k < 100, drawn env (n + k) ∉ usedPorts cloud floatingipId) (port : Nat) :
      Comes (Cloud.serve env) (fun w => w.cloud = cloud) (do
        let internalPortId ← Clients.findPortByInternalIp .system internalIp
        Cloud.neutron .system (.createPortForwarding floatingipId
          { protocol, internalIpAddress := internalIp, internalPortId, internalPort, externalPort := port }))
        fun r _ => (∃ pf, r = .ok pf) ↔ Makeable env cloud n floatingipId internalIp externalPort := by
    refine .bind (findPortByInternalIp_comes internalIp) (fun id => .remote fun w pf _ found _ => ?_) fun e w missing => ?_
    · exact iff_of_true ⟨pf, rfl⟩ ⟨found.mp ⟨id, rfl⟩, free⟩
    · refine iff_of_false (by simp) fun makeable => ?_
      obtain ⟨id, found⟩ := missing.mpr makeable.port
      cases found
  cases externalPort with
  | some port => exact fun w here => made nofun port w here.1
  | none =>
    refine .bind (findRandomAvailablePort_comes floatingipId) (fun port => .assuming fun found => made (fun _ => ?_) port)
      fun e w there => ?_
    · by_contra none
      have all : ∀ k < 100, drawn env (n + k) ∈ usedPorts cloud floatingipId := by
        intro k less
        by_contra free
        exact none ⟨k, less, free⟩
      rw [firstFree_none.mpr all] at found
      cases found
    · refine iff_of_false (by simp) fun makeable => ?_
      obtain ⟨k, less, free⟩ := makeable.free rfl
      cases first : firstFree (usedPorts cloud floatingipId) (drawn env) n 100 with
      | some port =>
        rw [first] at there
        cases there.1
      | none => exact free (firstFree_none.mp first k less)

/-- The handler inside its `try` block, where no call fails. -/
theorem addition_comes (portForwardingLimit : Int) (request : PortForwardingAdd) :
    Comes (Cloud.serve env) (Meets cloud n) (do
      let allFips ← Clients.listFloatingips (ownSession profile) (some profile.project.id)
      let used ← Program.gather allFips fun fip => Clients.getPortForwardingRules (ownSession profile) fip.id
      if used.length ≥ portForwardingLimit then .raise limitReached
      else if truthy? request.floatingIp then do
        let fip ← PortForwarding.namedFloatingIp (ownSession profile) (request.floatingIp.getD "")
        let pf ← Clients.createPortForwardingRule .system fip.id request.internalIp request.internalPort
          (request.externalPort.map Subtype.val) request.protocol.value
        return added fip pf
      else .raise floatingIpRequired)
      fun r _ => (∃ a, r = .ok a) ↔ Grants env cloud n portForwardingLimit request profile := by
  refine (listFloatingips_returns (ownSession profile) (some profile.project.id)).attempt.bind ?_
  refine used_returns.bind ?_
  by_cases full : (onOwn env cloud profile).length ≥ portForwardingLimit
  · rw [if_pos full]
    refine .done fun _ _ => iff_of_false (by simp) fun grants => ?_
    have refused := grants.allowed
    rw [refusal, if_pos full] at refused
    cases refused
  rw [if_neg full]
  by_cases given : truthy? request.floatingIp = true
  · rw [if_pos given]
    refine .bind (namedFloatingIp_comes (request.floatingIp.getD "")) (fun fip => .assuming fun known => ?_) fun e w there => ?_
    · have shown : named env cloud profile (request.floatingIp.getD "") = some fip := by
        rcases known with ⟨_, same, shown⟩ | ⟨same, -⟩
        · rw [shown, Except.ok.inj same]
        · cases same
      have grants_iff : Makeable env cloud n fip.id request.internalIp (request.externalPort.map Subtype.val) ↔
          Grants env cloud n portForwardingLimit request profile := by
        refine ⟨fun makeable => ⟨?_, fun other same => ?_⟩, fun grants => grants.makeable fip shown⟩
        · rw [refusal, if_neg full, if_pos given, shown]
          exact if_pos (.inr rfl)
        · rw [Option.some.inj (shown.symm.trans same)] at makeable
          exact makeable
      rw [← grants_iff]
      refine .bind (createPortForwardingRule_comes fip.id request.internalIp request.internalPort
        (request.externalPort.map Subtype.val) request.protocol.value) (fun pf => .done fun _ made => ?_) fun e _ made => ?_
      · exact iff_of_true ⟨_, rfl⟩ (made.mp ⟨pf, rfl⟩)
      · rw [← made]
        simp
    · obtain ⟨⟨_, same, -⟩ | ⟨-, address, unknown⟩, -⟩ := there
      · cases same
      · refine iff_of_false (by simp) fun grants => ?_
        have refused := grants.allowed
        rw [refusal, if_neg full, if_pos given, unknown, if_neg (by simp [address])] at refused
        cases refused
  · rw [if_neg given]
    refine .done fun _ _ => iff_of_false (by simp) fun grants => ?_
    have refused := grants.allowed
    rw [refusal, if_neg full, if_neg given] at refused
    cases refused

/-- Where no call fails a request is granted iff there is nothing against it, and answered as one
    that failed otherwise. -/
theorem addPortForwarding_comes (portForwardingLimit : Int) (request : PortForwardingAdd) :
    Comes (Cloud.serve env) (Meets cloud n) (PortForwarding.addPortForwarding portForwardingLimit request profile)
      fun r _ => ((∃ a, r = .ok a) ∧ Grants env cloud n portForwardingLimit request profile) ∨
        r = .error failed ∧ ¬ Grants env cloud n portForwardingLimit request profile := by
  refine sessionOf_returns.bind (.attempt (addition_comes portForwardingLimit request) (fun e => .done fun _ ended => ?_)
    fun a _ ended => .inl ⟨⟨a, rfl⟩, ended.mp ⟨a, rfl⟩⟩)
  refine .inr ⟨rfl, fun grants => ?_⟩
  obtain ⟨a, same⟩ := ended.mpr grants
  cases same

end

/-! ## Deleting a volume -/

/-- `DELETE /volumes/{volume_id}`, which hands on the exceptions that have a status. -/
def deleteVolume (env : Reclamation.Env) (profile : Profile) (volumeId : String) : Reclamation.OnSite Unit := do
  let currentSession ← Reclamation.onCloud env (Clients.sessionOf profile)
  Eff.attempt (Reclamation.onCinder env (Reclamation.deleteVolume currentSession volumeId)) fun e =>
    match e with
    | .httpException statusCode detail => .raise (.httpException statusCode detail)
    | e => .raise (.httpException 500 ("Failed to delete volume: " ++ e.str))

/-- The status with which `cinder.delete_volume` refuses a volume. -/
def volumeRefusal (env : Reclamation.Env) (profile : Profile) (s : Reclamation.Site) (volumeId : String) : Option Nat :=
  match Reclamation.findVolume (env.cloud.sees (ownSession profile)) s.cinder.state volumeId with
  | .error _ => some 404
  | .ok _ =>
    if env.volumeStatus volumeId (s.cinder.calls.count (.get (ownSession profile) volumeId)) = "in-use" then some 400
    else none

/-- The calls up to the refusal are answered. -/
def Reached (env : Reclamation.Env) (profile : Profile) (s : Reclamation.Site) (volumeId : String) : Prop :=
  env.cloud.delivery (.generateSession profile.keystoneToken profile.project.id)
      (s.world.calls.count (.generateSession profile.keystoneToken profile.project.id)) = .answered ∧
    env.backend.upcoming s.cinder (.get (ownSession profile) volumeId) = .answered

section
variable {env : Reclamation.Env} {profile : Profile} {s : Reclamation.Site} {volumeId : String}

theorem findVolume_error {sees : String → Bool} {volumes : Reclamation.Volumes} {e : Exn}
    (missing : Reclamation.findVolume sees volumes volumeId = .error e) : e = Neutron.notFound := by
  rw [Reclamation.findVolume] at missing
  split at missing
  · split at missing
    · cases missing
    · exact (Except.error.inj missing).symm
  · exact (Except.error.inj missing).symm

/-- An attached volume is answered as a failure; one that is not there, with its status. -/
theorem deleteVolume_run (reached : Reached env profile s volumeId) {statusCode : Nat}
    (refused : volumeRefusal env profile s volumeId = some statusCode) :
    ∃ detail, (deleteVolume env profile volumeId s).1 =
      .error (.httpException (if statusCode = 404 then 404 else 500) detail) := by
  have opened : Reclamation.onCloud env (Clients.sessionOf profile) s = (.ok (ownSession profile),
      { s with world := ((Clients.sessionOf profile).run (Cloud.serve env.cloud) s.world).2 }) := by
    rw [Reclamation.onCloud, Clients.sessionOf, Cloud.generateSession, Program.run_bind, Program.run_remote, Eff.bind_run,
      Cloud.serve_answered _ reached.1]
    rfl
  have read : (env.backend.serve (.get (ownSession profile) volumeId) s.cinder).1 =
      (Reclamation.findVolume (env.cloud.sees (ownSession profile)) s.cinder.state volumeId).map fun _ =>
        env.volumeStatus volumeId (s.cinder.calls.count (.get (ownSession profile) volumeId)) := by
    rw [Backend.serve_answered reached.2]
    exact congrArg Prod.fst env.cinderService.get
  rw [deleteVolume, Eff.bind_ok opened, Eff.attempt_run, Reclamation.onCinder, Reclamation.deleteVolume,
    Program.run_attempt, Eff.attempt_run, Program.run_bind, Program.run_remote, Eff.bind_run]
  rcases served : env.backend.serve (.get (ownSession profile) volumeId) s.cinder with ⟨r, t⟩
  rw [served] at read
  rw [volumeRefusal] at refused
  cases found : Reclamation.findVolume (env.cloud.sees (ownSession profile)) s.cinder.state volumeId with
  | error e =>
    rw [found] at read refused
    obtain rfl := findVolume_error found
    obtain rfl := Option.some.inj refused
    obtain rfl : r = .error Neutron.notFound := read
    exact ⟨_, rfl⟩
  | ok volume =>
    rw [found] at read refused
    obtain rfl : r = .ok _ := read
    by_cases attached : env.volumeStatus volumeId (s.cinder.calls.count (.get (ownSession profile) volumeId)) = "in-use"
    · obtain rfl := Option.some.inj ((if_pos attached).symm.trans refused)
      dsimp only
      rw [if_pos attached]
      exact ⟨_, rfl⟩
    · cases (if_neg attached).symm.trans refused

end

/-! ## Refusals with their status -/

section
variable (env : Reclamation.Env) (portForwardingLimit : Int) (request : PortForwardingAdd) (profile : Profile)

/-- No call to Keystone or Neutron fails while a request is handled. -/
def Undisturbed (w : Cloud.World) : Prop :=
  AllAnswered (Cloud.serve env.cloud) (PortForwarding.addPortForwarding portForwardingLimit request profile) w

/-- A request that the handler refuses is answered with the refusal, and none is answered with 500
    unless a call failed. -/
structure AdditionRefused (w : Cloud.World) : Prop where
  refused : ∀ e, refusal env.cloud w.cloud portForwardingLimit request profile = some e →
    Undisturbed env portForwardingLimit request profile w →
      ((PortForwarding.addPortForwarding portForwardingLimit request profile).run (Cloud.serve env.cloud) w).1 = .error e
  failed : ∀ detail, ((PortForwarding.addPortForwarding portForwardingLimit request profile).run
      (Cloud.serve env.cloud) w).1 = .error (.httpException 500 detail) →
    ¬ Undisturbed env portForwardingLimit request profile w

/-- A volume that `cinder.delete_volume` refuses is answered with its status. -/
def DeletionRefused (s : Reclamation.Site) (volumeId : String) : Prop :=
  ∀ statusCode, volumeRefusal env profile s volumeId = some statusCode → Reached env profile s volumeId →
    ∃ detail, (deleteVolume env profile volumeId s).1 = .error (.httpException statusCode detail)

theorem additionRefused_iff (w : Cloud.World) : AdditionRefused env portForwardingLimit request profile w ↔
    (Undisturbed env portForwardingLimit request profile w →
      Grants env.cloud w.cloud (w.calls.count draw) portForwardingLimit request profile) := by
  have ends := @addPortForwarding_comes env.cloud w.cloud (w.calls.count draw) profile portForwardingLimit request w
    ⟨rfl, rfl⟩
  constructor
  · intro keeps undisturbed
    rcases ends undisturbed with ⟨-, grants⟩ | ⟨became, -⟩
    · exact grants
    · exact absurd undisturbed (keeps.failed _ became)
  · intro grants
    refine ⟨fun e refused undisturbed => ?_, fun detail became undisturbed => ?_⟩
    · rw [(grants undisturbed).allowed] at refused
      cases refused
    · rcases ends undisturbed with ⟨⟨a, returned⟩, -⟩ | ⟨-, against⟩
      · rw [returned] at became
        cases became
      · exact against (grants undisturbed)

theorem deletionRefused_iff (s : Reclamation.Site) (volumeId : String) : DeletionRefused env profile s volumeId ↔
    (Reached env profile s volumeId → volumeRefusal env profile s volumeId ≠ some 400) := by
  constructor
  · intro keeps reached attached
    obtain ⟨detail, kept⟩ := keeps 400 attached reached
    obtain ⟨other, became⟩ := deleteVolume_run reached attached
    cases kept.symm.trans became
  · intro spared statusCode refused reached
    obtain ⟨detail, became⟩ := deleteVolume_run reached refused
    have missing : statusCode = 404 := by
      have either : statusCode = 404 ∨ statusCode = 400 := by
        rw [volumeRefusal] at refused
        split at refused
        · exact .inl (Option.some.inj refused).symm
        · split at refused
          · exact .inr (Option.some.inj refused).symm
          · cases refused
      refine either.resolve_right ?_
      rintro rfl
      exact spared reached refused
    rw [if_pos missing] at became
    exact ⟨detail, by rw [became, missing]⟩

/-- Refusals have their status, and nothing but a failing call is answered as one, iff there is
    nothing to refuse but volumes that are not there, and nothing that the clients raise for
    themselves. -/
theorem refusals_keep_status_iff (w : Cloud.World) (s : Reclamation.Site) (volumeId : String) :
    (AdditionRefused env portForwardingLimit request profile w ↔
      (Undisturbed env portForwardingLimit request profile w →
        Grants env.cloud w.cloud (w.calls.count draw) portForwardingLimit request profile)) ∧
    (DeletionRefused env profile s volumeId ↔
      (Reached env profile s volumeId → volumeRefusal env profile s volumeId ≠ some 400)) :=
  ⟨additionRefused_iff env portForwardingLimit request profile w, deletionRefused_iff env profile s volumeId⟩

end

/-! ### A limit that is reached, and an attached volume -/

/-- All volumes are attached. -/
def attaching : Reclamation.Env := { Reclamation.willing with volumeStatus := fun _ _ => "in-use" }

def withVolume : Reclamation.Site where
  world := Cloud.quiet
  cinder := ⟨⟨[⟨"our-volume", "project"⟩], List.nodup_singleton _⟩, []⟩

/-- A request for a rule on the floating IP of the cloud. -/
def ruleRequest : PortForwardingAdd where
  internalIp := "10.0.0.5"
  internalPort := ⟨8022, by decide⟩
  floatingIp := some "203.0.113.7"

theorem refusals_become_failures :
    (¬ ∀ (env : Reclamation.Env) (portForwardingLimit : Int) (request : PortForwardingAdd) (profile : Profile)
      (w : Cloud.World), AdditionRefused env portForwardingLimit request profile w) ∧
    ¬ ∀ (env : Reclamation.Env) (profile : Profile) (s : Reclamation.Site) (volumeId : String),
      DeletionRefused env profile s volumeId := by
  constructor
  · intro all
    have undisturbed : Undisturbed attaching 0 ruleRequest Session.member Cloud.quiet := by
      rintro e (_ | ⟨_, _ | ⟨_, ⟨⟩⟩⟩)
      · exact ⟨_, rfl⟩
      · exact ⟨_, rfl⟩
    have kept := (all attaching 0 ruleRequest Session.member Cloud.quiet).refused limitReached rfl undisturbed
    cases kept
  · intro all
    obtain ⟨detail, kept⟩ := all attaching Session.member withVolume "our-volume" 400 rfl ⟨rfl, rfl⟩
    cases kept

end Skyline.Refusals
