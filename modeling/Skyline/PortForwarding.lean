import Skyline.Clients

/-!
The port-forwarding endpoints: `/port_forwardings`, which makes and deletes rules in
Neutron (`api/v1/instance.py`), and `/portforward`, which hands requests on to the
external Proxy (`api/v1/portforward.py`). Each handler runs for a caller whose
profile has been read from the request.
-/
namespace Skyline.PortForwarding
open Skyline.Python Skyline.Effects Skyline.Programs Skyline.Neutron Skyline.Cloud Skyline.Clients
open Skyline.Services (Backend)
open Skyline.Session (Profile)
open Skyline.Proxy (PortNumber Protocol PortForwardingCreate PortForwardingUpdate)

/-! ## Rules in Neutron -/

structure PortForwardingAdd where
  internalIp : String
  internalPort : PortNumber
  externalPort : Option PortNumber := none
  protocol : Protocol := .tcp
  /-- The address or the UUID of a floating IP. -/
  floatingIp : Option String := none
  deriving DecidableEq, Repr

structure PortForwardingDelete where
  floatingIpId : String
  pfId : String
  deriving DecidableEq, Repr

/-- The `port_forwarding` of the answer to `add_port_forwarding`, which shows the
    address of the floating IP and not its id. -/
structure Added where
  message : String
  id : String
  floatingIpAddress : String
  internalIpAddress : String
  internalPort : Nat
  externalPort : Nat
  protocol : String
  deriving DecidableEq, Repr

/-- The floating IP that a request names: by its UUID where the text looks like
    one, and otherwise by its address. -/
def namedFloatingIp (session : KeystoneSession) (floatingIp : String) : Remote FloatingIp :=
  if floatingIp.length = 36 ∧ count floatingIp '-' = 4 then
    neutron session (.showFloatingip floatingIp)
  else do
    let allFips ← neutron session (.listFloatingips none)
    match allFips.find? (fun f => f.floatingIpAddress == floatingIp) with
    | some fip => return fip
    | none => .raise (.httpException 404 ("Floating IP not found: " ++ floatingIp))

/-- `add_port_forwarding`. The rule is made for the system, since the floating IP may
    be in another project; every failure becomes the one answer at the end. -/
def addPortForwarding (portForwardingLimit : Int) (request : PortForwardingAdd) (profile : Profile) : Remote Added := do
  let session ← sessionOf profile
  .attempt (do
    let allFips ← listFloatingips session (some profile.project.id)
    let used ← Program.gather allFips fun fip => getPortForwardingRules session fip.id
    if used.length ≥ portForwardingLimit then
      .raise (.httpException 400 "Maximum number of port forwardings for the project has been reached.")
    else if truthy? request.floatingIp then do
      let fip ← namedFloatingIp session (request.floatingIp.getD "")
      let pf ← createPortForwardingRule .system fip.id request.internalIp request.internalPort
        (request.externalPort.map Subtype.val) request.protocol.value
      return {
        message := "Port forwarding created successfully"
        id := pf.id
        floatingIpAddress := fip.floatingIpAddress
        internalIpAddress := pf.internalIpAddress
        internalPort := pf.internalPort
        externalPort := pf.externalPort
        protocol := pf.protocol }
    else
      .raise (.httpException 400 "floating_ip is required. Please specify a floating IP address or UUID."))
    fun _ => .raise (.httpException 500 "Failed to create port forwarding")

def deletePortForwarding (request : PortForwardingDelete) (profile : Profile) : Remote Unit := do
  let session ← sessionOf profile
  .attempt (deletePortForwardingRule session request.floatingIpId request.pfId)
    fun _ => .raise (.httpException 500 "Failed to delete port forwarding")

/-! ## Rules of the Proxy -/

/-- `_handle_client_error`, for the exceptions that the routes catch. -/
def handleClientError {α : Type} : Exn → Remote α
  | .portForwardClientError statusCode detail => .raise (.httpException statusCode detail)
  | e => .raise e

def createPortforwarding (request : PortForwardingCreate) (_profile : Profile) : Remote Proxy.Rule :=
  .attempt (Portforward.createPortforwarding request) handleClientError

def updatePortforwarding (ruleId : String) (request : PortForwardingUpdate) (_profile : Profile) : Remote Proxy.Rule :=
  .attempt (Portforward.updatePortforwarding ruleId request) handleClientError

def deletePortforwarding (ruleId : String) (_profile : Profile) : Remote Unit :=
  .attempt (Portforward.deletePortforwarding ruleId) handleClientError

/-! ## What an accepted request does -/

theorem namedFloatingIp_reads (session : KeystoneSession) (floatingIp : String) :
    (namedFloatingIp session floatingIp).Uses Call.Reads := by
  refine .ite (.remote trivial) (.bind (.remote trivial) fun allFips => ?_)
  cases allFips.find? (fun f => f.floatingIpAddress == floatingIp) with
  | some fip => exact .pure fip
  | none => exact .raise _

section
variable {env : Env} {w w' : World} {profile : Profile}

theorem of_attempt_raise_ok {α : Type} {m : Remote α} {h : Exn → Remote α} {a : α} (raises : ∀ e, ∃ e', h e = .raise e')
    (ran : (Program.attempt m h).run (serve env) w = (.ok a, w')) : m.run (serve env) w = (.ok a, w') := by
  rw [Program.run_attempt] at ran
  rcases Eff.of_attempt_ok ran with done | ⟨e, s, _, raised⟩
  · exact done
  · obtain ⟨e', same⟩ := raises e
    rw [same] at raised
    cases raised

/-- An accepted `delete_port_forwarding` deletes the rule it names, of whatever project. -/
theorem deletePortForwarding_ok {request : PortForwardingDelete}
    (ran : (deletePortForwarding request profile).run (serve env) w = (.ok (), w')) :
    w'.cloud = { w.cloud with neutron := w.cloud.neutron.withoutRule request.pfId } ∧
      ∃ pf ∈ w.cloud.neutron.portForwardings, pf.id = request.pfId ∧ pf.floatingIpId = request.floatingIpId := by
  rw [deletePortForwarding, Program.run_bind] at ran
  obtain ⟨session, w₁, opened, rest⟩ := Eff.of_bind_ok ran
  have body := of_attempt_raise_ok (fun _ => ⟨_, rfl⟩) rest
  have done := deletePortForwardingRule_ok body
  rw [reads_keep env (sessionOf_reads profile) opened] at done
  exact done

/-- `after` is `before` with rules of the Proxy added for a VM. -/
structure AddsFor (vmId : String) (before after : State) : Prop where
  elsewhere : after = { before with proxy := after.proxy }
  kept : ∀ r ∈ before.proxy, r ∈ after.proxy
  added : ∀ r ∈ after.proxy, r ∉ before.proxy → r.userVmId = vmId

theorem AddsFor.refl (vmId : String) (before : State) : AddsFor vmId before before :=
  ⟨rfl, fun _ member => member, fun _ member fresh => absurd member fresh⟩

theorem AddsFor.insert {vmId : String} {before middle : State} {r : Proxy.Rule} {rules : Proxy.Rules}
    (adds : AddsFor vmId before middle) (inserted : middle.proxy.insert r = some rules) (named : r.userVmId = vmId) :
    AddsFor vmId before { middle with proxy := rules } where
  elsewhere := by rw [adds.elsewhere]
  kept := fun s member => (Tables.Table.mem_insert inserted).mpr (.inl (adds.kept s member))
  added := by
    intro s member fresh
    rcases (Tables.Table.mem_insert inserted).mp member with old | rfl
    · exact adds.added s old fresh
    · exact named

/-- The cloud with the fields of an update set in the rule addressed. -/
def patched (cloud : State) (ruleId : String) (request : PortForwardingUpdate) : State :=
  { cloud with proxy := cloud.proxy.update ruleId request.set (Proxy.set_ruleId request) }

end
end Skyline.PortForwarding
