import Skyline.Lifecycle
import Skyline.Neutron
import Skyline.Programs
import Skyline.Proxy
import Skyline.Services
import Skyline.Session

/-!
The services that the instance and port-forwarding endpoints call, with one state.
A call may be refused, may be carried out with its answer lost, or is carried out
and answered; which of these happens to the n-th call of a kind is the
environment's choice. Neutron and Nova let the system session act on all projects.
-/
namespace Skyline.Cloud
open Skyline.Python Skyline.Tables Skyline.Effects Skyline.Programs Skyline.Neutron Skyline.Lifecycle
open Skyline.Services (Backend Delivery)

/-! ## Nova and the database -/

structure Address where
  addr : String
  /-- `OS-EXT-IPS:type`. -/
  type : String
  deriving DecidableEq, Repr

structure Server where
  id : String
  projectId : String
  /-- The addresses of each network. -/
  addresses : List (String × List Address)
  volumes : List String
  deriving DecidableEq, Repr

/-- A row of `user_activity`. -/
structure ActivityRecord where
  userId : String
  projectId : String
  category : String
  message : String
  status : String
  token : String
  deriving DecidableEq, Repr

structure State where
  neutron : Store
  servers : Table Server Server.id
  proxy : Proxy.Rules
  lifecycle : LifecycleTable
  activities : List ActivityRecord

/-! ## Calls and their answers -/

/-- Whom a call to OpenStack acts for. -/
inductive KeystoneSession
  /-- `get_system_session`. -/
  | system
  /-- `generate_session`, with the token and the project of a profile. -/
  | user (keystoneToken projectId : String)
  deriving DecidableEq, Repr

/-- The session that is generated for a profile. -/
abbrev ownSession (profile : Session.Profile) : KeystoneSession := .user profile.keystoneToken profile.project.id

inductive NeutronCall
  | listFloatingips (tenantId : Option String)
  | showFloatingip (floatingIp : String)
  | listPortForwardings (floatingIp : String)
  | listPorts (ipAddress : String)
  | createPortForwarding (floatingIp : String) (body : PortForwardingBody)
  | deletePortForwarding (floatingIp pfId : String)
  deriving DecidableEq, Repr

inductive NovaCall
  | getServer (serverId : String)
  | getServerVolumes (serverId : String)
  | deleteServer (serverId : String)
  deriving DecidableEq, Repr

inductive ProxyCall
  | create (request : Proxy.PortForwardingCreate)
  | update (ruleId : String) (request : Proxy.PortForwardingUpdate)
  | delete (ruleId : String)
  | byVm (vmId : String)
  deriving DecidableEq, Repr

inductive DatabaseCall
  | createActivityRecord (record : ActivityRecord)
  | deleteInstanceLifecycle (instanceId : String)
  deriving DecidableEq, Repr

inductive Call
  | generateSession (keystoneToken projectId : String)
  | neutron (session : KeystoneSession) (request : NeutronCall)
  | nova (session : KeystoneSession) (request : NovaCall)
  | proxy (request : ProxyCall)
  | database (request : DatabaseCall)
  /-- `random.randint`, which takes both bounds in. -/
  | randint (lo hi : Nat)
  deriving DecidableEq, Repr

abbrev NeutronCall.Answer : NeutronCall → Type
  | .listFloatingips _ => List FloatingIp
  | .showFloatingip _ => FloatingIp
  | .listPortForwardings _ => List PortForwarding
  | .listPorts _ => List Port
  | .createPortForwarding _ _ => PortForwarding
  | .deletePortForwarding _ _ => Unit

abbrev NovaCall.Answer : NovaCall → Type
  | .getServer _ => Server
  | .getServerVolumes _ => List String
  | .deleteServer _ => Unit

abbrev ProxyCall.Answer : ProxyCall → Type
  | .create _ => Proxy.Response Proxy.Rule
  | .update _ _ => Proxy.Response Proxy.Rule
  | .delete _ => Proxy.Response Unit
  | .byVm _ => Proxy.Response (List Proxy.Rule)

abbrev Answer : Call → Type
  | .generateSession _ _ => Unit
  | .neutron _ request => request.Answer
  | .nova _ request => request.Answer
  | .proxy request => request.Answer
  | .database _ => Unit
  | .randint _ _ => Nat

/-- A program that calls the services. -/
abbrev Remote (α : Type) := Program Answer Exn α

def generateSession (keystoneToken projectId : String) : Remote KeystoneSession := do
  Program.remote (Call.generateSession keystoneToken projectId)
  return .user keystoneToken projectId

def neutron (session : KeystoneSession) (request : NeutronCall) : Remote request.Answer :=
  .remote (Call.neutron session request)

def nova (session : KeystoneSession) (request : NovaCall) : Remote request.Answer := .remote (Call.nova session request)

def proxy (request : ProxyCall) : Remote request.Answer := .remote (Call.proxy request)

def database (request : DatabaseCall) : Remote Unit := .remote (Call.database request)

def randint (lo hi : Nat) : Remote Nat := .remote (Call.randint lo hi)

/-! ## What the services do

Of a request to Neutron or Nova `sees` says which projects' resources its session may see. -/

/-- Requests that change nothing. -/
def NeutronCall.Reads : NeutronCall → Prop
  | .createPortForwarding _ _ | .deletePortForwarding _ _ => False
  | _ => True

def NovaCall.Reads : NovaCall → Prop
  | .deleteServer _ => False
  | _ => True

/-- What is relied on of Neutron. A rule that it makes gets the id `newId`. -/
structure NeutronService where
  perform (sees : String → Bool) (newId : String) (store : Store) :
    (request : NeutronCall) → Except Exn request.Answer × Store
  reads {sees newId store request} : request.Reads → (perform sees newId store request).2 = store
  listFloatingips {sees newId store} (tenantId) :
    (perform sees newId store (.listFloatingips tenantId)).1 = .ok (Neutron.listFloatingips sees store tenantId)
  showFloatingip {sees newId store floatingIp} {fip : FloatingIp} :
    (perform sees newId store (.showFloatingip floatingIp)).1 = .ok fip ↔
      fip ∈ store.floatingIps ∧ fip.id = floatingIp ∧ sees fip.projectId = true
  listPortForwardings {sees newId store floatingIp} {pfs : List PortForwarding} :
    (perform sees newId store (.listPortForwardings floatingIp)).1 = .ok pfs ↔
      (∃ fip ∈ store.floatingIps, fip.id = floatingIp ∧ sees fip.projectId = true) ∧
        pfs = store.portForwardings.select (fun pf => pf.floatingIpId == floatingIp)
  listPorts {sees newId store} (ipAddress) :
    (perform sees newId store (.listPorts ipAddress)).1 = .ok (Neutron.listPorts sees store ipAddress)
  /-- A rule that is made is as it was asked for, and leads to a port. -/
  creates {sees newId store floatingIp body pf after} :
    perform sees newId store (.createPortForwarding floatingIp body) = (.ok pf, after) →
      pf = body.rule newId floatingIp ∧ Leads store pf ∧ Neutron.Added store pf after
  createsNone {sees newId store floatingIp body e after} :
    perform sees newId store (.createPortForwarding floatingIp body) = (.error e, after) → after = store
  deletes {sees newId store floatingIp pfId after} :
    perform sees newId store (.deletePortForwarding floatingIp pfId) = (.ok (), after) →
      after = store.withoutRule pfId ∧ ∃ pf ∈ store.portForwardings, pf.id = pfId ∧ pf.floatingIpId = floatingIp
  /-- A rule that is there is deleted for whoever sees its floating IP. -/
  deletesNone {sees newId store floatingIp pfId e after} :
    perform sees newId store (.deletePortForwarding floatingIp pfId) = (.error e, after) →
      after = store ∧ ∀ pf ∈ store.portForwardings, pf.id = pfId → pf.floatingIpId = floatingIp →
        ∃ fip ∈ store.floatingIps, fip.id = floatingIp ∧ sees fip.projectId = false

section
variable (service : NeutronService) {newId floatingIp pfId : String} {store : Store}

/-- Whoever sees every project is listed the rules of any floating IP. -/
theorem NeutronService.lists_all {fip : FloatingIp} (member : fip ∈ store.floatingIps) :
    (service.perform (fun _ => true) newId store (.listPortForwardings fip.id)).1 =
      .ok (store.portForwardings.select (fun pf => pf.floatingIpId == fip.id)) :=
  service.listPortForwardings.mpr ⟨⟨fip, member, rfl, rfl⟩, rfl⟩

theorem NeutronService.deleted_store (sees : String → Bool) :
    (service.perform sees newId store (.deletePortForwarding floatingIp pfId)).2 = store ∨
      (service.perform sees newId store (.deletePortForwarding floatingIp pfId)).2 = store.withoutRule pfId := by
  rcases ran : service.perform sees newId store (.deletePortForwarding floatingIp pfId) with ⟨result, after⟩
  cases result with
  | ok => exact .inr (service.deletes ran).1
  | error e => exact .inl (service.deletesNone ran).1

/-- For whoever sees every project, deleting a rule takes away the rule of that id on
    that floating IP, if there is one. -/
theorem NeutronService.mem_deleted {pf : PortForwarding} :
    pf ∈ (service.perform (fun _ => true) newId store (.deletePortForwarding floatingIp pfId)).2.portForwardings ↔
      pf ∈ store.portForwardings ∧ ¬ (pf.id = pfId ∧ pf.floatingIpId = floatingIp) := by
  rcases ran : service.perform (fun _ => true) newId store (.deletePortForwarding floatingIp pfId) with ⟨result, after⟩
  cases result with
  | ok =>
    obtain ⟨rfl, deleted, member, named, on⟩ := service.deletes ran
    rw [mem_withoutRule]
    refine and_congr_right fun there => not_congr ⟨fun same => ?_, And.left⟩
    obtain rfl := Table.eq_of_key there member (same.trans named.symm)
    exact ⟨same, on⟩
  | error e =>
    -- Nothing is deleted only where there is nothing to delete.
    obtain ⟨rfl, hidden⟩ := service.deletesNone ran
    refine ⟨fun there => ⟨there, fun ⟨named, on⟩ => ?_⟩, And.left⟩
    obtain ⟨_, _, _, unseen⟩ := hidden pf there named on
    cases unseen

end

def findServer (sees : String → Bool) (servers : Table Server Server.id) (serverId : String) : Except Exn Server :=
  match servers.find serverId with
  | some server => if sees server.projectId then .ok server else .error notFound
  | none => .error notFound

theorem findServer_ok {sees : String → Bool} {servers : Table Server Server.id} {serverId : String}
    {server : Server} (visible : findServer sees servers serverId = .ok server) : server ∈ servers ∧ server.id = serverId := by
  unfold findServer at visible
  split at visible
  · next other found =>
    split at visible
    · cases visible
      exact Table.find_eq_some.mp found
    · cases visible
  · cases visible

/-- What is relied on of Nova. -/
structure NovaService where
  perform (sees : String → Bool) (servers : Table Server Server.id) :
    (request : NovaCall) → Except Exn request.Answer × Table Server Server.id
  reads {sees servers request} : request.Reads → (perform sees servers request).2 = servers
  getServer {sees servers serverId server} :
    (perform sees servers (.getServer serverId)).1 = .ok server ↔ findServer sees servers serverId = .ok server
  getServerVolumes {sees servers serverId volumes} :
    (perform sees servers (.getServerVolumes serverId)).1 = .ok volumes ↔
      ∃ server, findServer sees servers serverId = .ok server ∧ server.volumes = volumes
  deletes {sees servers serverId server} : findServer sees servers serverId = .ok server →
    perform sees servers (.deleteServer serverId) = (.ok (), servers.delete serverId)
  deletesNone {sees servers serverId e} : findServer sees servers serverId = .error e →
    ∃ e', perform sees servers (.deleteServer serverId) = (.error e', servers)

/-- A deletion takes the server away, or is refused. -/
theorem NovaService.deletion (service : NovaService) (sees : String → Bool) (servers : Table Server Server.id)
    (serverId : String) :
    service.perform sees servers (.deleteServer serverId) = (.ok (), servers.delete serverId) ∨
      ∃ e, service.perform sees servers (.deleteServer serverId) = (.error e, servers) := by
  cases visible : findServer sees servers serverId with
  | ok server => exact .inl (service.deletes visible)
  | error e => exact .inr (service.deletesNone visible)

/-- A refusal in answer to a request. -/
def ProxyCall.refusal (statusCode : Nat) (detail : String) : (request : ProxyCall) → request.Answer
  | .create _ | .update _ _ | .delete _ | .byVm _ => .error statusCode detail

/-- What is relied on of the Proxy. It may refuse a request, with a status and a detail, and
    chooses what a request for a rule leaves open. -/
structure ProxyService where
  perform (refuses : Option (Nat × String)) (choice : Proxy.Choice) (rules : Proxy.Rules) :
    (request : ProxyCall) → request.Answer × Proxy.Rules
  refused {statusCode detail choice rules} (request) :
    perform (some (statusCode, detail)) choice rules request = (request.refusal statusCode detail, rules)
  creates {choice rules request after} : rules.insert (request.rule choice) = some after →
    perform none choice rules (.create request) = (.ok (request.rule choice), after)
  createsNone {choice rules request} : rules.insert (request.rule choice) = none →
    ∃ statusCode detail, perform none choice rules (.create request) = (.error statusCode detail, rules)
  updates {choice rules ruleId request r} : rules.find ruleId = some r →
    perform none choice rules (.update ruleId request) =
      (.ok (request.set r), rules.update ruleId request.set (Proxy.set_ruleId request))
  updatesNone {choice rules ruleId request} : rules.find ruleId = none →
    ∃ statusCode detail, perform none choice rules (.update ruleId request) = (.error statusCode detail, rules)
  deletes {choice rules ruleId r} : rules.find ruleId = some r →
    perform none choice rules (.delete ruleId) = (.ok (), rules.delete ruleId)
  deletesNone {choice rules ruleId} : rules.find ruleId = none →
    ∃ statusCode detail, perform none choice rules (.delete ruleId) = (.error statusCode detail, rules)
  byVm {choice rules} (vmId) : perform none choice rules (.byVm vmId) = (.ok (Proxy.byVm rules vmId), rules)

section
variable (service : ProxyService) (refuses : Option (Nat × String)) (choice : Proxy.Choice) (rules : Proxy.Rules)

/-- A rule is made as it was asked for, or nothing is. -/
theorem ProxyService.creation (request : Proxy.PortForwardingCreate) :
    (∃ after, rules.insert (request.rule choice) = some after ∧
      service.perform refuses choice rules (.create request) = (.ok (request.rule choice), after)) ∨
    ∃ statusCode detail, service.perform refuses choice rules (.create request) = (.error statusCode detail, rules) := by
  cases refuses with
  | some refusal => exact .inr ⟨_, _, service.refused _⟩
  | none =>
    cases inserted : rules.insert (request.rule choice) with
    | some after => exact .inl ⟨after, rfl, service.creates inserted⟩
    | none => exact .inr (service.createsNone inserted)

/-- The rule of the id is deleted, or nothing is. -/
theorem ProxyService.deletion (ruleId : String) :
    (service.perform refuses choice rules (.delete ruleId) = (.ok (), rules.delete ruleId) ∧
      ∃ r ∈ rules, r.ruleId = ruleId) ∨
    ∃ statusCode detail, service.perform refuses choice rules (.delete ruleId) = (.error statusCode detail, rules) := by
  cases refuses with
  | some refusal => exact .inr ⟨_, _, service.refused _⟩
  | none =>
    cases found : rules.find ruleId with
    | some r => exact .inl ⟨service.deletes found, r, Table.find_eq_some.mp found⟩
    | none => exact .inr (service.deletesNone found)

/-- A rule that the Proxy is asked to delete is gone, and no rule is new. -/
theorem ProxyService.mem_deleted {choice : Proxy.Choice} {rules : Proxy.Rules} {ruleId : String} {r : Proxy.Rule} :
    r ∈ (service.perform none choice rules (.delete ruleId)).2 ↔ r ∈ rules ∧ r.ruleId ≠ ruleId := by
  cases found : rules.find ruleId with
  | some old =>
    rw [service.deletes found]
    exact Table.mem_delete
  | none =>
    obtain ⟨statusCode, detail, missed⟩ : ∃ statusCode detail,
      service.perform none choice rules (.delete ruleId) = (.error statusCode detail, rules) := service.deletesNone found
    rw [missed]
    exact ⟨fun member => ⟨member, Table.find_eq_none.mp found r member⟩, And.left⟩

/-- Listing rules changes none, and lists those of the VM or fails. -/
theorem ProxyService.listing (vmId : String) :
    service.perform refuses choice rules (.byVm vmId) = (.ok (Proxy.byVm rules vmId), rules) ∨
    ∃ statusCode detail, service.perform refuses choice rules (.byVm vmId) = (.error statusCode detail, rules) := by
  cases refuses with
  | some refusal => exact .inr ⟨_, _, service.refused _⟩
  | none => exact .inl (service.byVm vmId)

end

structure Env where
  /-- What becomes of a call when it was made `n` times before. -/
  delivery : Call → Nat → Delivery Exn
  /-- Whether a user's token for a project reaches the resources of an owner. -/
  mayUse : String → String → String → Bool
  neutronService : NeutronService
  novaService : NovaService
  proxyService : ProxyService
  /-- The id that Neutron gives a rule. -/
  newId : NeutronCall → Nat → String
  /-- The status and the detail with which the Proxy refuses a request. -/
  proxyRefuses : ProxyCall → Nat → Option (Nat × String)
  proxyChoice : ProxyCall → Nat → Proxy.Choice
  draw : Nat → Nat

/-- Whether a session sees the resources of a project. -/
def Env.sees (env : Env) : KeystoneSession → String → Bool
  | .system, _ => true
  | .user keystoneToken projectId, owner => env.mayUse keystoneToken projectId owner

@[simp] theorem sees_system (env : Env) : env.sees .system = fun _ => true := rfl

def DatabaseCall.perform (cloud : State) : DatabaseCall → State
  | .createActivityRecord record => { cloud with activities := cloud.activities ++ [record] }
  | .deleteInstanceLifecycle instanceId =>
    { cloud with lifecycle := Lifecycle.deleteInstanceLifecycle cloud.lifecycle instanceId }

/-- Carries out a call that was made `n` times before. -/
def Call.perform (env : Env) (n : Nat) (cloud : State) : (c : Call) → Except Exn (Answer c) × State
  | .generateSession _ _ => (.ok (), cloud)
  | .neutron session request =>
    let done := env.neutronService.perform (env.sees session) (env.newId request n) cloud.neutron request
    (done.1, { cloud with neutron := done.2 })
  | .nova session request =>
    let done := env.novaService.perform (env.sees session) cloud.servers request
    (done.1, { cloud with servers := done.2 })
  | .proxy request =>
    let done := env.proxyService.perform (env.proxyRefuses request n) (env.proxyChoice request n) cloud.proxy request
    (.ok done.1, { cloud with proxy := done.2 })
  | .database request => (.ok (), request.perform cloud)
  | .randint lo hi =>
    (if hi < lo then .error (.valueError "empty range") else .ok (lo + env.draw n % (hi + 1 - lo)), cloud)

/-- The services behind the network. -/
def Env.backend (env : Env) : Backend Answer Exn State where
  delivery := env.delivery
  perform n cloud c := c.perform env n cloud

abbrev World : Type := Services.World Call State

abbrev World.cloud (w : World) : State := w.state

@[simp] theorem World.cloud_mk (cloud : State) (calls : List Call) : World.cloud ⟨cloud, calls⟩ = cloud := rfl

abbrev serve (env : Env) (c : Call) : Eff World Exn (Answer c) := env.backend.serve c

/-! ## What calls leave alone -/

/-- Calls that change nothing. -/
def Call.Reads : Call → Prop
  | .neutron _ request => request.Reads
  | .nova _ request => request.Reads
  | .proxy (.create _) | .proxy (.update _ _) | .proxy (.delete _) => False
  | .database _ => False
  | _ => True

/-- Calls that change nothing in Neutron. -/
def Call.SparesNeutron : Call → Prop
  | .neutron _ request => request.Reads
  | _ => True

/-- Calls to neither Neutron, Nova nor the database; they change the Proxy's rules at most. -/
def Call.Aside : Call → Prop
  | .generateSession _ _ | .proxy _ | .randint _ _ => True
  | _ => False

section
variable (env : Env) {c : Call} {w w' : World} {n : Nat} {cloud : State}

theorem perform_reads (reads : c.Reads) : (c.perform env n cloud).2 = cloud := by
  cases c with
  | generateSession _ _ => rfl
  | neutron session request =>
    dsimp only [Call.perform]
    rw [env.neutronService.reads reads]
  | nova session request =>
    dsimp only [Call.perform]
    rw [env.novaService.reads reads]
  | proxy request =>
    cases request with
    | byVm vmId =>
      dsimp only [Call.perform]
      rcases env.proxyService.listing (env.proxyRefuses (.byVm vmId) n) (env.proxyChoice (.byVm vmId) n) cloud.proxy vmId
        with listed | ⟨_, _, refused⟩
      · rw [listed]
      · rw [refused]
    | _ => exact reads.elim
  | database request => exact reads.elim
  | randint lo hi => rfl

theorem perform_sparesNeutron (spares : c.SparesNeutron) : (c.perform env n cloud).2.neutron = cloud.neutron := by
  cases c with
  | neutron session request => exact env.neutronService.reads spares
  | database request => cases request <;> rfl
  | _ => rfl

theorem perform_aside (aside : c.Aside) : (c.perform env n cloud).2 = { cloud with
    proxy := (c.perform env n cloud).2.proxy } := by
  cases c with
  | generateSession _ _ | proxy _ | randint _ _ => rfl
  | _ => exact aside.elim

theorem serve_cloud : (serve env c w).2.cloud = w.cloud ∨
    (serve env c w).2.cloud = (c.perform env (w.calls.count c) w.cloud).2 := Backend.serve_state_or

theorem serve_ok {a : Answer c} (answered : serve env c w = (.ok a, w')) :
    c.perform env (w.calls.count c) w.cloud = (.ok a, w'.cloud) := (Backend.of_serve_ok answered).2

theorem serve_refused {e : Exn} (refused : env.delivery c (w.calls.count c) = .refused e) :
    serve env c w = (.error e, ⟨w.cloud, w.calls ++ [c]⟩) := Backend.serve_refused refused

theorem serve_lost {e : Exn} (lost : env.delivery c (w.calls.count c) = .lost e) :
    serve env c w = (.error e, ⟨(c.perform env (w.calls.count c) w.cloud).2, w.calls ++ [c]⟩) := Backend.serve_lost lost

theorem serve_answered (answered : env.delivery c (w.calls.count c) = .answered) :
    serve env c w = ((c.perform env (w.calls.count c) w.cloud).1,
      ⟨(c.perform env (w.calls.count c) w.cloud).2, w.calls ++ [c]⟩) := Backend.serve_answered answered

theorem delivery_of_ok {a : Answer c} (answered : serve env c w = (.ok a, w')) :
    env.delivery c (w.calls.count c) = .answered := (Backend.of_serve_ok answered).1

/-- What carrying out a call keeps, the call keeps whatever becomes of it. -/
theorem serve_keeps {I : State → Prop} (kept : ∀ n cloud, I cloud → I (c.perform env n cloud).2) :
    Eff.Keeps (fun w : World => I w.cloud) (serve env c) := Backend.serve_keeps kept

theorem neutron_ok {session : KeystoneSession} {request : NeutronCall} {a : request.Answer}
    (answered : (neutron session request).run (serve env) w = (.ok a, w')) :
    env.neutronService.perform (env.sees session) (env.newId request (w.calls.count (.neutron session request)))
        w.cloud.neutron request = (.ok a, w'.cloud.neutron) ∧
      w'.cloud = { w.cloud with neutron := w'.cloud.neutron } := by
  have performed := serve_ok env (c := .neutron session request) answered
  generalize w.calls.count (.neutron session request) = n at performed ⊢
  have result : (env.neutronService.perform (env.sees session) (env.newId request n) w.cloud.neutron request).1 = .ok a :=
    congrArg Prod.fst performed
  have state : { w.cloud with neutron :=
      (env.neutronService.perform (env.sees session) (env.newId request n) w.cloud.neutron request).2 } = w'.cloud :=
    congrArg Prod.snd performed
  rw [← state]
  exact ⟨Prod.ext result rfl, rfl⟩

/-- A program that only reads leaves the cloud as it is. -/
theorem reads_keep {α : Type} {m : Remote α} {r : Except Exn α} (uses : m.Uses Call.Reads)
    (ran : m.run (serve env) w = (r, w')) : w'.cloud = w.cloud :=
  Backend.reads_keep uses (fun _ reads _ => perform_reads env reads) ran

/-- What a call that only reads returns is what it gives in the cloud as it is. -/
theorem remote_ensures {cloud : State} {c : Call} (reads : c.Reads) :
    (Program.remote c : Remote (Answer c)).Ensures (serve env) (fun w => w.cloud = cloud)
      fun a => ∃ n, (c.perform env n cloud).1 = .ok a := Backend.remote_ensures fun _ => perform_reads env reads

theorem reads_ensure {α : Type} {cloud : State} {m : Remote α} (uses : m.Uses Call.Reads) :
    m.Ensures (serve env) (fun w => w.cloud = cloud) fun _ => True :=
  Backend.reads_ensure uses fun _ reads _ => perform_reads env reads

theorem sparesNeutron_keep {α : Type} {m : Remote α} {r : Except Exn α} (uses : m.Uses Call.SparesNeutron)
    (ran : m.run (serve env) w = (r, w')) : w'.cloud.neutron = w.cloud.neutron :=
  Backend.uses_keep (I := fun cloud : State => cloud.neutron = w.cloud.neutron) uses
    (fun _ spares _ _ same => (perform_sparesNeutron env spares).trans same) rfl ran

end

/-! ## The services as they are documented -/

def NeutronCall.perform (sees : String → Bool) (newId : String) (store : Store) :
    (request : NeutronCall) → Except Exn request.Answer × Store
  | .listFloatingips tenantId => (.ok (Neutron.listFloatingips sees store tenantId), store)
  | .showFloatingip floatingIp => (Neutron.showFloatingip sees store floatingIp, store)
  | .listPortForwardings floatingIp => (Neutron.listPortForwardings sees store floatingIp, store)
  | .listPorts ipAddress => (.ok (Neutron.listPorts sees store ipAddress), store)
  | .createPortForwarding floatingIp body => Neutron.createPortForwarding sees store floatingIp body newId
  | .deletePortForwarding floatingIp pfId => Neutron.deletePortForwarding sees store floatingIp pfId

def documentedNeutron : NeutronService where
  perform := NeutronCall.perform
  reads {_ _ _ request} reads := by cases request <;> first | rfl | exact reads.elim
  listFloatingips _ := rfl
  showFloatingip := showFloatingip_ok
  listPortForwardings := listPortForwardings_ok
  listPorts _ := rfl
  creates := createPortForwarding_ok
  createsNone := createPortForwarding_error
  deletes := deletePortForwarding_ok
  deletesNone := deletePortForwarding_error

def NovaCall.perform (sees : String → Bool) (servers : Table Server Server.id) :
    (request : NovaCall) → Except Exn request.Answer × Table Server Server.id
  | .getServer serverId => (findServer sees servers serverId, servers)
  | .getServerVolumes serverId => ((findServer sees servers serverId).map Server.volumes, servers)
  | .deleteServer serverId =>
    match findServer sees servers serverId with
    | .ok _ => (.ok (), servers.delete serverId)
    | .error e => (.error e, servers)

def documentedNova : NovaService where
  perform := NovaCall.perform
  reads {_ _ request} reads := by cases request <;> first | rfl | exact reads.elim
  getServer := .rfl
  getServerVolumes {sees servers serverId _} := by
    simp only [NovaCall.perform]
    cases findServer sees servers serverId <;> simp [Except.map]
  deletes visible := by simp only [NovaCall.perform, visible]
  deletesNone {_ _ _ e} hidden := ⟨e, by simp only [NovaCall.perform, hidden]⟩

/-- A request that the Proxy refuses leaves its rules as they are. -/
def ProxyCall.perform (refuses : Option (Nat × String)) (choice : Proxy.Choice) (rules : Proxy.Rules) :
    (request : ProxyCall) → request.Answer × Proxy.Rules
  | .create request => match refuses with
    | some (statusCode, detail) => (.error statusCode detail, rules)
    | none => Proxy.create rules request choice
  | .update ruleId request => match refuses with
    | some (statusCode, detail) => (.error statusCode detail, rules)
    | none => Proxy.update rules ruleId request
  | .delete ruleId => match refuses with
    | some (statusCode, detail) => (.error statusCode detail, rules)
    | none => Proxy.delete rules ruleId
  | .byVm vmId => match refuses with
    | some (statusCode, detail) => (.error statusCode detail, rules)
    | none => (.ok (Proxy.byVm rules vmId), rules)

def documentedProxy : ProxyService where
  perform := ProxyCall.perform
  refused request := by cases request <;> rfl
  creates inserted := by simp only [ProxyCall.perform, Proxy.create, inserted]
  createsNone conflict := ⟨409, "Conflict", by simp only [ProxyCall.perform, Proxy.create, conflict]⟩
  updates found := by simp only [ProxyCall.perform, Proxy.update, found]
  updatesNone missing := ⟨404, "Not Found", by simp only [ProxyCall.perform, Proxy.update, missing, Proxy.missing]⟩
  deletes found := by simp only [ProxyCall.perform, Proxy.delete, found]
  deletesNone missing := ⟨404, "Not Found", by simp only [ProxyCall.perform, Proxy.delete, missing, Proxy.missing]⟩
  byVm _ := rfl

/-! ## Two tenants -/

/-- An environment in which every call goes through, and a user's session sees the
    resources of its own project. -/
def obliging : Env where
  delivery _ _ := .answered
  mayUse _ projectId owner := projectId == owner
  neutronService := documentedNeutron
  novaService := documentedNova
  proxyService := documentedProxy
  newId _ n := "rule-" ++ toString n
  proxyRefuses _ _ := none
  proxyChoice _ n := ⟨n, "proxy-rule-" ++ toString n, "203.0.113.9", 20000 + n, "active", true, none⟩
  draw n := n

def sshRule (id : Nat) (ruleId vmId : String) : Proxy.Rule where
  id := id
  ruleId := ruleId
  ruleName := "ssh"
  userVmId := vmId
  userVmName := vmId
  userVmInternalIp := "10.0.0.5"
  userVmInternalPort := 22
  proxyExternalIp := "203.0.113.9"
  proxyExternalPort := 10000 + id
  protocol := "tcp"
  serviceType := "ssh"
  status := "active"
  isPersistent := true
  createdBy := none
  description := none

/-- A project and its neighbour, each with one server at the same fixed IP, one rule in
    Neutron and one rule of the Proxy. -/
def twoTenants : State where
  neutron := {
    floatingIps := ⟨[⟨"fip", "203.0.113.7", "service"⟩], by decide⟩
    ports := ⟨[⟨"our-port", "project", "our-vm", ["10.0.0.5"]⟩,
      ⟨"their-port", "neighbour", "their-vm", ["10.0.0.5"]⟩], by decide⟩
    portForwardings := ⟨[⟨"our-rule", "fip", "our-port", "10.0.0.5", 22, 10022, "tcp"⟩,
      ⟨"their-rule", "fip", "their-port", "10.0.0.5", 22, 10023, "tcp"⟩], by decide⟩
    onFloatingIp := by simp [Table.mem_rows]
    onPort := by simp [Table.mem_rows] }
  servers := ⟨[⟨"our-vm", "project", [("net", [⟨"10.0.0.5", "fixed"⟩])], []⟩,
    ⟨"their-vm", "neighbour", [("net", [⟨"10.0.0.5", "fixed"⟩])], []⟩], by decide⟩
  proxy := ⟨[sshRule 1 "our-proxy-rule" "our-vm", sshRule 2 "their-proxy-rule" "their-vm"], by decide⟩
  lifecycle := Table.empty
  activities := []

def quiet : World := ⟨twoTenants, []⟩

end Skyline.Cloud
