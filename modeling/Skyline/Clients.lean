import Skyline.Cloud
import Skyline.Session

/-!
The clients of Neutron (`client/openstack/neutron.py`) and of the external Proxy
(`client/portforward_client.py`). What runs with the system session may touch the
resources of every project, so a caller of these functions has to know whose
resources it names.
-/
namespace Skyline.Clients
open Skyline.Python Skyline.Effects Skyline.Programs Skyline.Neutron Skyline.Cloud
open Skyline.Services (Backend Delivery)

/-- `utils.generate_session`. -/
def sessionOf (profile : Session.Profile) : Remote KeystoneSession :=
  generateSession profile.keystoneToken profile.project.id

/-! ## Neutron -/

/-- `list_floatingips`, of one project where a `tenant_id` is given. -/
def listFloatingips (session : KeystoneSession) (tenantId : Option String) : Remote (List FloatingIp) :=
  .attempt (neutron session (.listFloatingips tenantId)) fun e => .raise (.httpException 500 e.str)

def getPortForwardingRules (session : KeystoneSession) (floatingipId : String) : Remote (List PortForwarding) :=
  neutron session (.listPortForwardings floatingipId)

/-- Draws a port until one is free, `attempts` times at most. -/
def drawPort (floatingipId : String) (usedPorts : List Nat) (minPort maxPort : Nat) : Nat → Remote Nat
  | 0 => .raise (.exception ("Could not find available port on floating IP " ++ floatingipId))
  | attempts + 1 => do
    let port ← randint minPort maxPort
    if port ∉ usedPorts then return port
    else drawPort floatingipId usedPorts minPort maxPort attempts

def findRandomAvailablePort (session : KeystoneSession) (floatingipId : String) (minPort : Nat := 10)
    (maxPort : Nat := 1000) : Remote Nat := do
  let existingPfs ← getPortForwardingRules session floatingipId
  drawPort floatingipId (existingPfs.map PortForwarding.externalPort) minPort maxPort 100

def findPortByInternalIp (session : KeystoneSession) (internalIp : String) : Remote String :=
  .attempt (do
    let ports ← neutron session (.listPorts internalIp)
    match ports with
    | [] => .raise (.exception ("No port found with internal IP: " ++ internalIp))
    | port :: _ => return port.id)
  fun e => .raise (.exception ("Failed to find port for IP " ++ internalIp ++ ": " ++ e.str))

/-- `create_port_forwarding_rule`, which draws an external port where none is given. -/
def createPortForwardingRule (session : KeystoneSession) (floatingipId internalIpAddress : String) (internalPort : Nat)
    (externalPort : Option Nat) (protocol : String) : Remote PortForwarding := do
  let externalPort ← (match externalPort with
    | some port => pure port
    | none => findRandomAvailablePort session floatingipId)
  let internalPortId ← findPortByInternalIp session internalIpAddress
  neutron session (.createPortForwarding floatingipId
    { protocol, internalIpAddress, internalPortId, internalPort, externalPort })

/-- `delete_port_forwarding_rule`, which acts for the system whatever session it is given. -/
def deletePortForwardingRule (_session : KeystoneSession) (floatingipId pfId : String) : Remote Unit :=
  neutron .system (.deletePortForwarding floatingipId pfId)

structure Found where
  id : String
  floatingIpId : String
  floatingIpAddress : String
  internalIpAddress : String
  internalPort : Nat
  externalPort : Nat
  protocol : String
  deriving DecidableEq, Repr

def Found.of (fip : FloatingIp) (pf : PortForwarding) : Found where
  id := pf.id
  floatingIpId := fip.id
  floatingIpAddress := fip.floatingIpAddress
  internalIpAddress := pf.internalIpAddress
  internalPort := pf.internalPort
  externalPort := pf.externalPort
  protocol := pf.protocol

/-- The rules of one floating IP that have the address; none where they cannot be listed. -/
def searchFloatingIp (internalIp : String) (fip : FloatingIp) : Remote (List Found) :=
  .attempt (do
    let pfs ← neutron .system (.listPortForwardings fip.id)
    return (pfs.filter (fun pf => pf.internalIpAddress == internalIp)).map (Found.of fip))
  fun _ => pure []

/-- `get_port_forwardings_by_internal_ip`, which searches every floating IP of the cloud,
    whatever session it is given. -/
def getPortForwardingsByInternalIp (_session : KeystoneSession) (internalIp : String) : Remote (List Found) := do
  let allFips ← neutron .system (.listFloatingips none)
  Program.gather allFips (searchFloatingIp internalIp)

/-! ## Nova -/

/-- The first address of type `fixed`, over the networks of a server in order. -/
def firstFixedIp (addresses : List (String × List Address)) : Option String :=
  ((addresses.flatMap Prod.snd).find? (fun ip => ip.type == "fixed")).map Address.addr

/-- Looks for the address until the server has one, `attempts` times at most. -/
def awaitInternalIp (session : KeystoneSession) (serverId : String) : Nat → Remote String
  | 0 => .raise (.exception ("No internal IP found for server " ++ serverId))
  | attempts + 1 => do
    let server ← nova session (.getServer serverId)
    match firstFixedIp server.addresses with
    | some ip => return ip
    | none => awaitInternalIp session serverId attempts

def getServerInternalIp (session : KeystoneSession) (serverId : String) : Remote String :=
  awaitInternalIp session serverId 10

def getServerVolumes (session : KeystoneSession) (serverId : String) : Remote (List String) :=
  .attempt (nova session (.getServerVolumes serverId))
    fun e => .raise (.httpException 500 ("Failed to get server volumes: " ++ e.str))

def deleteServer (session : KeystoneSession) (serverId : String) : Remote Unit :=
  .attempt (nova session (.deleteServer serverId))
    fun e => .raise (.httpException 500 ("Failed to delete server: " ++ e.str))

/-! ## The Proxy -/

def handleResponse {α : Type} : Proxy.Response α → Except Exn α
  | .ok body => .ok body
  | .error statusCode detail => .error (.portForwardClientError statusCode detail)

def retryOnNetworkError {α : Type} : Remote α → Remote α := .retry (· == .networkError) .retryError 3

/-- Sends a request to the Proxy, up to three times. -/
def exchange {α : Type} (request : Remote (Proxy.Response α)) : Remote α :=
  retryOnNetworkError do
    let response ← request
    .done (handleResponse response)

namespace Portforward

def createPortforwarding (request : Proxy.PortForwardingCreate) : Remote Proxy.Rule :=
  exchange (proxy (.create request))

def updatePortforwarding (ruleId : String) (request : Proxy.PortForwardingUpdate) : Remote Proxy.Rule :=
  exchange (proxy (.update ruleId request))

def deletePortforwarding (ruleId : String) : Remote Unit := exchange (proxy (.delete ruleId))

def getPortforwardingsByVm (vmId : String) : Remote (List Proxy.Rule) := exchange (proxy (.byVm vmId))

end Portforward

/-- Whether a call that `k` others like it preceded ends with an exception of the network. -/
def networkFails (delivery : Nat → Delivery Exn) (k : Nat) : Bool :=
  delivery k = .refused .networkError || delivery k = .lost .networkError

/-! ## What the clients call and return -/

theorem sessionOf_reads (profile : Session.Profile) : (sessionOf profile).Uses Call.Reads :=
  .bind (.remote trivial) fun _ => .pure _

theorem getPortForwardingRules_reads (session : KeystoneSession) (floatingipId : String) :
    (getPortForwardingRules session floatingipId).Uses Call.Reads := .remote trivial

theorem drawPort_reads (floatingipId : String) (usedPorts : List Nat) (minPort maxPort attempts : Nat) :
    (drawPort floatingipId usedPorts minPort maxPort attempts).Uses Call.Reads := by
  induction attempts with
  | zero => exact .raise _
  | succ attempts ih => exact .bind (.remote trivial) fun port => .ite (.pure port) ih

theorem findRandomAvailablePort_reads (session : KeystoneSession) (floatingipId : String) (minPort maxPort : Nat) :
    (findRandomAvailablePort session floatingipId minPort maxPort).Uses Call.Reads :=
  .bind (getPortForwardingRules_reads session floatingipId) fun _ => drawPort_reads _ _ _ _ _

theorem findPortByInternalIp_reads (session : KeystoneSession) (internalIp : String) :
    (findPortByInternalIp session internalIp).Uses Call.Reads := by
  refine .attempt (.bind (.remote trivial) fun ports => ?_) fun _ => .raise _
  cases ports with
  | nil => exact .raise _
  | cons port _ => exact .pure port.id

theorem awaitInternalIp_reads (session : KeystoneSession) (serverId : String) (attempts : Nat) :
    (awaitInternalIp session serverId attempts).Uses Call.Reads := by
  induction attempts with
  | zero => exact .raise _
  | succ attempts ih =>
    refine .bind (.remote trivial) fun server => ?_
    cases firstFixedIp server.addresses with
    | some ip => exact .pure ip
    | none => exact ih

section
variable {env : Env} {w w' : World} {session : KeystoneSession}

/-- `after` is `before`, or has one more rule in Neutron, for an address. -/
def AddsRule (internalIpAddress : String) (before after : State) : Prop :=
  after = before ∨ ∃ store pf, pf.internalIpAddress = internalIpAddress ∧
    store.portForwardings.rows = before.neutron.portForwardings.rows ++ [pf] ∧ after = { before with neutron := store }

/-- Whatever comes of it, a request for a rule adds one rule for its address at most. -/
theorem createPortForwardingRule_adds (floatingipId internalIpAddress : String) (internalPort : Nat)
    (externalPort : Option Nat) (protocol : String) {cloud : State} : ∀ s : World, s.cloud = cloud →
      AddsRule internalIpAddress cloud ((createPortForwardingRule session floatingipId internalIpAddress internalPort
        externalPort protocol).run (serve env) s).2.cloud := by
  have choosing : ((match externalPort with
      | some port => pure port
      | none => findRandomAvailablePort session floatingipId) : Remote Nat).Uses Call.Reads := by
    cases externalPort with
    | some port => exact .pure port
    | none => exact findRandomAvailablePort_reads session floatingipId 10 1000
  refine (reads_ensure env choosing).leaves (Q := fun s => AddsRule internalIpAddress cloud s.cloud)
    (fun _ => .inl) fun port _ => (reads_ensure env (findPortByInternalIp_reads session internalIpAddress)).leaves
      (Q := fun s => AddsRule internalIpAddress cloud s.cloud) (fun _ => .inl) fun internalPortId _ => ?_
  rintro s rfl
  let body : PortForwardingBody := { protocol, internalIpAddress, internalPortId, internalPort, externalPort := port }
  rcases serve_cloud env (c := .neutron session (.createPortForwarding floatingipId body)) (w := s) with
    same | performed
  · exact .inl same
  · generalize s.calls.count _ = n at performed
    rcases made : env.neutronService.perform (env.sees session) (env.newId (.createPortForwarding floatingipId body) n)
      s.cloud.neutron (.createPortForwarding floatingipId body) with ⟨r, after⟩
    have state : (serve env (.neutron session (.createPortForwarding floatingipId body)) s).2.cloud =
        { s.cloud with neutron := after } := by
      rw [performed]
      dsimp only [Call.perform]
      rw [made]
    cases r with
    | error e => exact .inl (state.trans (by rw [env.neutronService.createsNone made]))
    | ok pf =>
      obtain ⟨rfl, _, added⟩ := env.neutronService.creates made
      exact .inr ⟨_, body.rule _ floatingipId, rfl, added.rows, state⟩

theorem deletePortForwardingRule_ok {floatingipId pfId : String}
    (ran : (deletePortForwardingRule session floatingipId pfId).run (serve env) w = (.ok (), w')) :
    w'.cloud = { w.cloud with neutron := w.cloud.neutron.withoutRule pfId } ∧
      ∃ pf ∈ w.cloud.neutron.portForwardings, pf.id = pfId ∧ pf.floatingIpId = floatingipId := by
  obtain ⟨deleted, state⟩ := neutron_ok env ran
  obtain ⟨same, there⟩ := env.neutronService.deletes deleted
  exact ⟨by rw [state, same], there⟩

/-- An address that was awaited is the first fixed one that Nova has of the server. -/
theorem awaitInternalIp_ok {serverId ip : String} {attempts : Nat}
    (ran : (awaitInternalIp session serverId attempts).run (serve env) w = (.ok ip, w')) :
    ∃ server, findServer (env.sees session) w.cloud.servers serverId = .ok server ∧
      firstFixedIp server.addresses = some ip := by
  induction attempts generalizing w with
  | zero => cases ran
  | succ attempts ih =>
    rw [awaitInternalIp, Program.run_bind] at ran
    obtain ⟨server, w₁, got, rest⟩ := Eff.of_bind_ok ran
    have answer := env.novaService.getServer.mp (congrArg Prod.fst (serve_ok env (c := .nova session (.getServer serverId)) got))
    have kept : w₁.cloud = w.cloud := reads_keep env (m := nova session (.getServer serverId)) (.remote trivial) got
    cases first : firstFixedIp server.addresses with
    | some found =>
      rw [first] at rest
      cases rest
      exact ⟨server, answer, first⟩
    | none =>
      rw [first] at rest
      rw [← kept]
      exact ih rest

/-- An attempt at a request to the Proxy does no more than the request. -/
theorem attempt_state {α : Type} (m : Remote (Proxy.Response α)) (s : World) :
    ((m >>= fun response => Program.done (handleResponse response)).run (serve env) s).2 = (m.run (serve env) s).2 := by
  rw [Program.run_bind, Eff.bind_run]
  rcases m.run (serve env) s with ⟨r, t⟩
  cases r with
  | ok response => rfl
  | error e => rfl

/-- An attempt is made again just where the network fails: an answer of the Proxy, whatever
    it says, is final. -/
theorem attempt_fails {α : Type} {m : Remote (Proxy.Response α)} {s : World} {fails : Prop}
    (failing : (m.run (serve env) s).1 = .error .networkError ↔ fails) :
    (∃ e, ((m >>= fun response => Program.done (handleResponse response)).run (serve env) s).1 = .error e ∧
      (e == Exn.networkError) = true) ↔ fails := by
  rw [← failing, Program.run_bind, Eff.bind_run]
  rcases m.run (serve env) s with ⟨r, t⟩
  cases r with
  | error e => simp
  | ok response => cases response <;> simp [handleResponse, Program.run]

theorem proxy_fails (request : ProxyCall) (s : World) :
    ((proxy request).run (serve env) s).1 = .error .networkError ↔
      networkFails (env.delivery (.proxy request)) (s.calls.count (.proxy request)) = true := by
  rw [proxy, Program.run_remote, networkFails]
  cases delivered : env.delivery (.proxy request) (s.calls.count (.proxy request)) with
  | refused e => simp [serve_refused env delivered]
  | lost e => simp [serve_lost env delivered]
  | answered => simp [serve_answered env delivered, Call.perform]

theorem exchange_uses {α : Type} {request : Remote (Proxy.Response α)} {allowed : Call → Prop}
    (uses : request.Uses allowed) : (exchange request).Uses allowed :=
  .retry (.bind uses fun _ => .done _) 3

end
end Skyline.Clients
