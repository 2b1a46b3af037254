import Mathlib.Data.List.Infix
import Skyline.Clients
import Skyline.Services
import Skyline.Threads

/-!
Provisioning an instance (`create_instance`, `_provision_instance` and
`setup_instance_networking` of `api/v1/instance.py`) and the statistics of port
forwardings. The request checks that the name is free and is answered; the work is done
in the background, over many minutes: the volume is made and awaited, the server is
created and awaited, the Proxy is asked for its rules, and the lifecycle row is inserted.

Beside the services of the other endpoints there are Cinder, the names of Nova's servers
and what Nova and Cinder make of a server or a volume in the course of time, which is the
environment's choice.
-/
namespace Skyline.Provisioning
open Skyline.Effects Skyline.Programs Skyline.Python Skyline.Tables Skyline.Services
open Skyline.Session (Profile)
open Skyline.Cloud (KeystoneSession Address ActivityRecord)
open Skyline.Config (Value)

/-! ## Requests -/

structure PortForwardingRule where
  internalPort : Proxy.PortNumber
  externalPort : Proxy.PortNumber
  protocol : Proxy.Protocol := .tcp
  deriving DecidableEq, Repr

structure InstanceCreate where
  name : String
  imageId : Option String := none
  flavorId : String
  keyName : Option String := none
  networkId : String
  volumeSize : Option Int := none
  additionalPorts : Option (List PortForwardingRule) := none
  osName : Option String := none
  deriving DecidableEq, Repr

/-- The JSON body of a POST to the Proxy. -/
structure ForwardPayload where
  ruleName : String
  userVmId : String
  userVmName : String
  userVmInternalIp : String
  userVmInternalPort : Nat
  proxyExternalPort : Option Nat := none
  serviceType : String
  protocol : String
  deriving DecidableEq, Repr

/-- The arguments of `servers.create`. -/
structure ServerCreate where
  name : String
  image : String
  flavor : String
  netId : String
  keyName : Option String
  /-- The volume of `block_device_mapping`, which maps `vda` to it as `{volume_id}:::0`. -/
  vda : Option String := none
  securityGroups : List String
  metadata : List (String × String)
  userdata : String
  deriving DecidableEq, Repr

/-- The arguments of `create_instance_lifecycle`. -/
structure LifecycleRecord where
  instanceId : String
  instanceName : String
  userId : String
  projectId : String
  userEmail : String
  createdAt : Int
  expiresAt : Int
  deriving DecidableEq, Repr

structure Conf where
  novaDefaultImageForVolumeBoot : String
  systemProject : String
  instanceLifecycleEnabled : Bool
  instanceLifetimeDays : Int
  portForwardingLimit : Int

/-- What the code asks Python's own functions. -/
structure Lib where
  /-- `str.lower`. -/
  lower : String → String
  /-- The truth value of a setting. -/
  truth : Value → Bool
  /-- `int(value)`. -/
  int : Value → Except Exn Int

/-! ## Calls and their answers -/

inductive Call
  | cloud (c : Cloud.Call)
  /-- With `name`, those whose name Nova matches against it. -/
  | listServers (session : KeystoneSession) (name : Option String) (projectId : String)
  | createServer (session : KeystoneSession) (request : ServerCreate)
  | getServerStatus (session : KeystoneSession) (serverId : String)
  | createVolume (session : KeystoneSession) (name : String) (size : Int) (imageRef : String)
  | getVolumeStatus (session : KeystoneSession) (volumeId : String)
  /-- `POST /portforward`. -/
  | post (payload : ForwardPayload)
  | getSetting (key : String)
  | createInstanceLifecycle (record : LifecycleRecord)
  | uuid4
  /-- `secrets.token_urlsafe(12)`. -/
  | tokenUrlsafe
  | time
  deriving DecidableEq, Repr

/-- A server as Nova lists it. -/
structure Listed where
  id : String
  name : String
  addresses : List (String × List Address)
  deriving DecidableEq, Repr

abbrev Answer : Call → Type
  | .cloud c => Cloud.Answer c
  | .listServers _ _ _ => List Listed
  | .createServer _ _ => String
  | .getServerStatus _ _ => String
  | .createVolume _ _ _ _ => String
  | .getVolumeStatus _ _ => String
  | .post _ => Proxy.Response Proxy.Rule
  | .getSetting _ => Option Value
  | .createInstanceLifecycle _ => Unit
  | .uuid4 => String
  | .tokenUrlsafe => String
  | .time => Int

abbrev Remote : Type → Type := Program Answer Exn

/-- What the other endpoints do, here. -/
abbrev ofCloud {α : Type} (m : Cloud.Remote α) : Remote α := m.lift Call.cloud fun _ => id

/-! ## What the services do -/

structure Volume where
  id : String
  projectId : String
  name : String
  size : Int
  imageRef : String
  deriving DecidableEq, Repr

structure State where
  cloud : Cloud.State
  /-- The names that servers were created with. -/
  names : String → String
  volumes : Table Volume Volume.id
  settings : String → Option Value

/-- What is relied on of Nova where servers are made and listed. -/
structure ServerService where
  listServers (s : State) (shown : Cloud.Server → Bool) : List Listed
  createServer (s : State) (server : Cloud.Server) (name : String) : Except Exn String × State
  /-- The status of a server that has the status `now`. -/
  status (sees : String → Bool) (servers : Table Cloud.Server Cloud.Server.id) (serverId now : String) : Except Exn String
  lists {s shown} : (listServers s shown).Perm
    ((s.cloud.servers.select shown).map fun server => ⟨server.id, s.names server.id, server.addresses⟩)
  creates {s server name servers} : s.cloud.servers.insert server = some servers →
    createServer s server name = (.ok server.id, { s with
      cloud := { s.cloud with servers }
      names := Function.update s.names server.id name })
  createsNone {s server name} : s.cloud.servers.insert server = none → ∃ e, createServer s server name = (.error e, s)
  statusOf {sees servers serverId now current} : status sees servers serverId now = .ok current ↔
    (∃ server, Cloud.findServer sees servers serverId = .ok server) ∧ now = current

/-- What is relied on of Cinder where volumes are made. -/
structure VolumeService where
  createVolume (volumes : Table Volume Volume.id) (volume : Volume) : Except Exn String × Table Volume Volume.id
  /-- The status of a volume that has the status `now`. -/
  status (sees : String → Bool) (volumes : Table Volume Volume.id) (volumeId now : String) : Except Exn String
  creates {volumes volume after} : volumes.insert volume = some after → createVolume volumes volume = (.ok volume.id, after)
  createsNone {volumes volume} : volumes.insert volume = none → ∃ e, createVolume volumes volume = (.error e, volumes)
  statusOf {sees volumes volumeId now current} : status sees volumes volumeId now = .ok current ↔
    (∃ volume, volumes.find volumeId = some volume ∧ sees volume.projectId = true) ∧ now = current

/-- A server is made, or nothing is. -/
theorem ServerService.creation (service : ServerService) (s : State) (server : Cloud.Server) (name : String) :
    (∃ servers, s.cloud.servers.insert server = some servers ∧ service.createServer s server name =
      (.ok server.id, { s with cloud := { s.cloud with servers }, names := Function.update s.names server.id name })) ∨
    ∃ e, service.createServer s server name = (.error e, s) := by
  cases inserted : s.cloud.servers.insert server with
  | some servers => exact .inl ⟨servers, rfl, service.creates inserted⟩
  | none => exact .inr (service.createsNone inserted)

theorem VolumeService.creation (service : VolumeService) (volumes : Table Volume Volume.id) (volume : Volume) :
    (∃ after, volumes.insert volume = some after ∧ service.createVolume volumes volume = (.ok volume.id, after)) ∨
    ∃ e, service.createVolume volumes volume = (.error e, volumes) := by
  cases inserted : volumes.insert volume with
  | some after => exact .inl ⟨after, rfl, service.creates inserted⟩
  | none => exact .inr (service.createsNone inserted)

structure Env where
  /-- What becomes of a call when it was made `n` times before. -/
  delivery : Call → Nat → Delivery Exn
  /-- Whether a user's token for a project reaches the resources of an owner. -/
  mayUse : String → String → String → Bool
  neutronService : Cloud.NeutronService
  novaService : Cloud.NovaService
  proxyService : Cloud.ProxyService
  serverService : ServerService
  volumeService : VolumeService
  newPortForwardingId : Cloud.NeutronCall → Nat → String
  proxyRefuses : Cloud.ProxyCall → Nat → Option (Nat × String)
  proxyChoice : Cloud.ProxyCall → Nat → Proxy.Choice
  draw : Nat → Nat
  /-- Nova's test of a name against a regular expression. -/
  nameMatches : String → String → Bool
  systemProjectId : String
  newServerId : Call → Nat → String
  /-- The addresses that a server gets. -/
  addresses : Call → Nat → List (String × List Address)
  /-- The status that a server has when it is asked for the `n`-th time. -/
  serverStatus : String → Nat → String
  newVolumeId : Call → Nat → String
  volumeStatus : String → Nat → String
  /-- What the Proxy chooses for a rule: an id that no rule has. -/
  choose : (rules : Proxy.Rules) → ForwardPayload → Nat →
    { choice : Proxy.Choice // ∀ r ∈ rules, r.ruleId ≠ choice.ruleId }
  uuid4 : Nat → String
  tokenUrlsafe : Nat → String
  time : Nat → Int

/-- The environment of the other endpoints. -/
def Env.cloud (env : Env) : Cloud.Env where
  delivery c := env.delivery (.cloud c)
  mayUse := env.mayUse
  neutronService := env.neutronService
  novaService := env.novaService
  proxyService := env.proxyService
  newId := env.newPortForwardingId
  proxyRefuses := env.proxyRefuses
  proxyChoice := env.proxyChoice
  draw := env.draw

/-- The project that a session makes things in. -/
def Env.projectOf (env : Env) : KeystoneSession → String
  | .system => env.systemProjectId
  | .user _ projectId => projectId

/-- The rule that a body asks for, with what the Proxy chooses. -/
def ForwardPayload.rule (payload : ForwardPayload) (choice : Proxy.Choice) : Proxy.Rule where
  id := choice.id
  ruleId := choice.ruleId
  ruleName := payload.ruleName
  userVmId := payload.userVmId
  userVmName := payload.userVmName
  userVmInternalIp := payload.userVmInternalIp
  userVmInternalPort := payload.userVmInternalPort
  proxyExternalIp := choice.externalIp
  proxyExternalPort := payload.proxyExternalPort.getD choice.externalPort
  protocol := payload.protocol
  serviceType := payload.serviceType
  status := choice.status
  isPersistent := choice.isPersistent
  createdBy := choice.createdBy
  description := none

/-- The rules with one more. -/
def posted (rules : Proxy.Rules) (r : Proxy.Rule) (fresh : ∀ other ∈ rules, other.ruleId ≠ r.ruleId) : Proxy.Rules where
  rows := rules.rows ++ [r]
  unique := by
    rw [List.map_append, List.nodup_append]
    refine ⟨rules.unique, List.nodup_singleton _, ?_⟩
    intro key old other new same
    obtain ⟨row, member, rfl⟩ := List.mem_map.mp old
    exact fresh row member (same.trans (List.mem_singleton.mp new))

def listServers (env : Env) (s : State) (session : KeystoneSession) (name : Option String) (projectId : String) :
    List Listed :=
  env.serverService.listServers s fun server => env.cloud.sees session server.projectId && server.projectId == projectId &&
    name.all (env.nameMatches · (s.names server.id))

def createServer (env : Env) (n : Nat) (s : State) (session : KeystoneSession) (request : ServerCreate) :
    Except Exn String × State :=
  env.serverService.createServer s {
    id := env.newServerId (.createServer session request) n
    projectId := env.projectOf session
    addresses := env.addresses (.createServer session request) n
    volumes := request.vda.toList } request.name

def createVolume (env : Env) (n : Nat) (s : State) (session : KeystoneSession) (name : String) (size : Int)
    (imageRef : String) : Except Exn String × State :=
  let id := env.newVolumeId (.createVolume session name size imageRef) n
  let done := env.volumeService.createVolume s.volumes { id, projectId := env.projectOf session, name, size, imageRef }
  (done.1, { s with volumes := done.2 })

/-- `create_instance_lifecycle`, which the unique index refuses for an instance that has a row. -/
def insertLifecycle (s : State) (record : LifecycleRecord) : Except Exn Unit × State :=
  match Lifecycle.createInstanceLifecycle s.cloud.lifecycle record.instanceId record.instanceName record.userId
    record.projectId record.userEmail record.createdAt record.expiresAt with
  | some lifecycle => (.ok (), { s with cloud := { s.cloud with lifecycle } })
  | none => (.error (.callFailed "IntegrityError"), s)

def perform (env : Env) (n : Nat) (s : State) : (c : Call) → Except Exn (Answer c) × State
  | .cloud c =>
    let done := c.perform env.cloud n s.cloud
    (done.1, { s with cloud := done.2 })
  | .listServers session name projectId => (.ok (listServers env s session name projectId), s)
  | .createServer session request => createServer env n s session request
  | .getServerStatus session serverId =>
    (env.serverService.status (env.cloud.sees session) s.cloud.servers serverId (env.serverStatus serverId n), s)
  | .createVolume session name size imageRef => createVolume env n s session name size imageRef
  | .getVolumeStatus session volumeId =>
    (env.volumeService.status (env.cloud.sees session) s.volumes volumeId (env.volumeStatus volumeId n), s)
  | .post payload =>
    let choice := env.choose s.cloud.proxy payload n
    let r := payload.rule choice.1
    (.ok (.ok r), { s with cloud := { s.cloud with proxy := posted s.cloud.proxy r choice.2 } })
  | .getSetting key => (.ok (s.settings key), s)
  | .createInstanceLifecycle record => insertLifecycle s record
  | .uuid4 => (.ok (env.uuid4 n), s)
  | .tokenUrlsafe => (.ok (env.tokenUrlsafe n), s)
  | .time => (.ok (env.time n), s)

def Env.backend (env : Env) : Backend Answer Exn State where
  delivery := env.delivery
  perform := perform env

def Call.asCloud : Call → Option Cloud.Call
  | .cloud c => some c
  | _ => none

/-- What the other endpoints see of a world. -/
def cloudOf (w : World Call State) : Cloud.World where
  state := w.state.cloud
  calls := w.calls.filterMap Call.asCloud

theorem count_cloudOf (w : World Call State) (c : Cloud.Call) : (cloudOf w).calls.count c = w.calls.count (.cloud c) := by
  rw [cloudOf, List.count_filterMap]
  refine List.countP_congr fun d _ => ?_
  cases d <;> simp [Call.asCloud]

/-- What the other endpoints do runs here as it does there. -/
theorem run_ofCloud (env : Env) {α : Type} (m : Cloud.Remote α) (w : World Call State) :
    m.run (Cloud.serve env.cloud) (cloudOf w) =
      (((ofCloud m).run env.backend.serve w).1, cloudOf ((ofCloud m).run env.backend.serve w).2) := by
  refine Program.run_lift (fun c s => ?_) m w
  have made : (cloudOf s).calls ++ [c] = (s.calls ++ [Call.cloud c]).filterMap Call.asCloud := by
    rw [List.filterMap_append]
    rfl
  have delivery : env.cloud.delivery c ((cloudOf s).calls.count c) = env.delivery (.cloud c) (s.calls.count (.cloud c)) :=
    congrArg (env.delivery (.cloud c)) (count_cloudOf s c)
  cases delivered : env.delivery (.cloud c) (s.calls.count (.cloud c)) with
  | refused e =>
    have served : env.backend.serve (.cloud c) s = _ := Backend.serve_refused delivered
    rw [Cloud.serve_refused _ (delivery.trans delivered), served, made]
    rfl
  | lost e =>
    have served : env.backend.serve (.cloud c) s = _ := Backend.serve_lost delivered
    rw [Cloud.serve_lost _ (delivery.trans delivered), served, made, count_cloudOf]
    rfl
  | answered =>
    have served : env.backend.serve (.cloud c) s = _ := Backend.serve_answered delivered
    rw [Cloud.serve_answered _ (delivery.trans delivered), served, made, count_cloudOf]
    exact congrArg (·, _) (congrFun Except.map_id _).symm

theorem ofCloud_call (env : Env) (c : Cloud.Call) {β : Type} (f : Cloud.Answer c → Cloud.Remote β) :
    (ofCloud (Program.remote c >>= f)).run env.backend.serve =
      env.backend.serve (.cloud c) >>= fun a => (ofCloud (f a)).run env.backend.serve := by
  rw [ofCloud, Program.lift_bind, Program.run_bind]
  exact congrArg (· >>= _) (funext fun s => Prod.ext (congrFun Except.map_id _) rfl)

/-- So it ensures here what it ensures there. -/
theorem ofCloud_ensures {env : Env} {α : Type} {m : Cloud.Remote α} {cloud : Cloud.State} {post : α → Prop}
    (ensures : m.Ensures (Cloud.serve env.cloud) (fun w => w.cloud = cloud) post) :
    (ofCloud m).Ensures env.backend.serve (fun w => w.state.cloud = cloud) post := by
  intro w same
  have there := ensures (cloudOf w) same
  rw [run_ofCloud] at there
  exact there

/-! ## The clients -/

def unauthorized : Exn := .callFailed "Unauthorized"
def forbidden : Exn := .callFailed "Forbidden"

/-- `nova.list_servers`, for these `search_opts`. -/
def novaListServers (session : KeystoneSession) (name : Option String) (projectId : String) : Remote (List Listed) :=
  .attempt (.remote (Call.listServers session name projectId : Call)) fun e =>
    .raise (.httpException (if e = Neutron.badRequest then 400 else if e = unauthorized then 401
      else if e = forbidden then 403 else 500) e.str)

/-- `nova.get_server`, of which the status is read. -/
def novaGetServerStatus (session : KeystoneSession) (serverId : String) : Remote String :=
  .remote (Call.getServerStatus session serverId : Call)

def novaCreateServer (session : KeystoneSession) (request : ServerCreate) : Remote String :=
  .remote (Call.createServer session request : Call)

def cinderCreateVolume (session : KeystoneSession) (name : String) (size : Int) (imageId : String) : Remote String :=
  .attempt (.remote (Call.createVolume session name size imageId : Call)) fun e =>
    .raise (.httpException (if e = unauthorized then 401 else 500) e.str)

/-- `cinder.get_volume`, of which the status is read. -/
def cinderGetVolumeStatus (session : KeystoneSession) (volumeId : String) : Remote String :=
  .attempt (.remote (Call.getVolumeStatus session volumeId : Call)) fun e =>
    .raise (.httpException (if e = Neutron.notFound then 404 else 500) e.str)

/-- `_call_portforward_api`, which sends the POST up to three times. -/
def callPortforwardApi (payload : ForwardPayload) : Remote (Proxy.Response Proxy.Rule) :=
  .retry (· == .networkError) .retryError 3 (.remote (Call.post payload : Call))

def getSetting (key : String) : Remote (Option Value) := .remote (Call.getSetting key : Call)

def createInstanceLifecycle (record : LifecycleRecord) : Remote Unit :=
  .remote (Call.createInstanceLifecycle record : Call)

/-! ## Networking -/

/-- `server_id[:8]`. -/
def shortId (serverId : String) : String := String.ofList (serverId.toList.take 8)

def sshPayload (serverId serverName internalIp : String) : ForwardPayload where
  ruleName := "ssh-" ++ shortId serverId
  userVmId := serverId
  userVmName := serverName
  userVmInternalIp := internalIp
  userVmInternalPort := 22
  serviceType := "ssh"
  protocol := "tcp"

def portPayload (serverId serverName internalIp : String) (port : PortForwardingRule) : ForwardPayload where
  ruleName := "port-" ++ shortId serverId ++ "-" ++ toString port.internalPort.1
  userVmId := serverId
  userVmName := serverName
  userVmInternalIp := internalIp
  userVmInternalPort := port.internalPort
  proxyExternalPort := some port.externalPort
  serviceType := "other"
  protocol := port.protocol.value

/-- The POSTs that networking makes, in order. -/
def payloads (serverId serverName internalIp : String) (additionalPorts : Option (List PortForwardingRule)) :
    List ForwardPayload :=
  sshPayload serverId serverName internalIp ::
    (additionalPorts.getD []).map (portPayload serverId serverName internalIp)

def forward (payload : ForwardPayload) : Remote Unit := .ignoring do
  let _ ← callPortforwardApi payload
  return ()

/-- How the wait for a server ended. -/
inductive Activation
  | active | error | timeout
  deriving DecidableEq, Repr

/-- Waits until a server is active, `attempts` times at most; a poll that fails counts. -/
def awaitActive (session : KeystoneSession) (serverId : String) : Nat → Remote Activation
  | 0 => pure .timeout
  | attempts + 1 => do
    let serverStatus ← .attempt (some <$> novaGetServerStatus session serverId) fun _ => pure none
    if serverStatus = some "ACTIVE" then pure .active
    else if serverStatus = some "ERROR" then pure .error
    else awaitActive session serverId attempts

/-- Waits until a server has an internal IP. -/
def awaitIp (session : KeystoneSession) (serverId : String) : Nat → Remote (Option String)
  | 0 => pure none
  | attempts + 1 => do
    let internalIp ← .attempt (some <$> ofCloud (Clients.getServerInternalIp session serverId)) fun _ => pure none
    if truthy? internalIp then pure internalIp
    else awaitIp session serverId attempts

/-- The body of `setup_instance_networking`. -/
def network (session : KeystoneSession) (serverId serverName : String)
    (additionalPorts : Option (List PortForwardingRule)) : Remote Unit := do
  let activation ← awaitActive session serverId 60
  if activation = .active then do
    let internalIp ← awaitIp session serverId 10
    match internalIp with
    | some ip => Program.forEach (payloads serverId serverName ip additionalPorts) forward
    | none => pure ()
  else pure ()

def setupInstanceNetworking (serverId serverName : String) (profile : Profile)
    (additionalPorts : Option (List PortForwardingRule)) : Remote Unit := do
  let session ← ofCloud (Clients.sessionOf profile)
  .ignoring (network session serverId serverName additionalPorts)

/-! ## The lifecycle row -/

/-- The registration for lifecycle management, whose failures are ignored. -/
def registerLifecycle (conf : Conf) (lib : Lib) (profile : Profile) (serverId instanceName : String) : Remote Unit :=
  .ignoring do
    let lcEnabledRow ← getSetting "instance_lifecycle_enabled"
    let lcEnabled := (lcEnabledRow.map lib.truth).getD conf.instanceLifecycleEnabled
    if lcEnabled = true ∧ profile.project.name ≠ conf.systemProject then do
      let lifetimeRow ← getSetting "instance_lifetime_days"
      let lifetimeDays ← .done ((lifetimeRow.map lib.int).getD (.ok conf.instanceLifetimeDays))
      let nowTs ← .remote (Call.time : Call)
      createInstanceLifecycle {
        instanceId := serverId
        instanceName := instanceName
        userId := profile.user.id
        projectId := profile.project.id
        userEmail := orElse profile.user.email ""
        createdAt := nowTs
        expiresAt := nowTs + lifetimeDays * 86400 }
    else pure ()

/-! ## Provisioning -/

/-- The user that images of an operating system come with. -/
def defaultUser (lib : Lib) (osName : Option String) : String :=
  if truthy? osName then
    let osLower := (lib.lower (osName.getD "")).toList
    if "ubuntu".toList <:+: osLower then "ubuntu"
    else if "debian".toList <:+: osLower then "debian"
    else if "rocky".toList <:+: osLower then "rocky"
    else if "alpine".toList <:+: osLower then "alpine"
    else "cloud-user"
  else "cloud-user"

def userdataPayload (user password : String) : String :=
  "#cloud-config\n" ++
  "ssh_pwauth: true\n" ++
  "chpasswd:\n" ++
  "  list: |\n" ++
  "    " ++ user ++ ":" ++ password ++ "\n" ++
  "  expire: false\n" ++
  "write_files:\n" ++
  "  - path: /etc/ssh/sshd_config.d/99-password-auth.conf\n" ++
  "    content: |\n" ++
  "      PasswordAuthentication yes\n" ++
  "      KbdInteractiveAuthentication yes\n" ++
  "      ChallengeResponseAuthentication yes\n" ++
  "    owner: root:root\n" ++
  "    permissions: '0644'\n" ++
  "runcmd:\n" ++
  "  # sshd_config 본체도 수정 (override 디렉터리가 없는 구형 OS 대비)\n" ++
  "  - sed -i 's/^#*PasswordAuthentication.*/PasswordAuthentication yes/' /etc/ssh/sshd_config\n" ++
  "  - sed -i 's/^#*KbdInteractiveAuthentication.*/KbdInteractiveAuthentication yes/' /etc/ssh/sshd_config\n" ++
  "  - sed -i 's/^#*ChallengeResponseAuthentication.*/ChallengeResponseAuthentication yes/' /etc/ssh/sshd_config\n" ++
  "  # sshd_config.d 내 기존 override 파일도 일괄 처리\n" ++
  "  - for f in /etc/ssh/sshd_config.d/*.conf; do [ -f \"$f\" ] && sed -i " ++
    "'s/^PasswordAuthentication.*/PasswordAuthentication yes/' \"$f\"; done\n" ++
  "  # sshd 재시작 (systemd / OpenRC / SysV 모두 대응)\n" ++
  "  - if command -v systemctl > /dev/null 2>&1; then systemctl restart sshd || systemctl restart ssh; " ++
    "elif command -v rc-service > /dev/null 2>&1; then rc-service sshd restart; " ++
    "else service sshd restart 2>/dev/null || service ssh restart; fi\n"

/-- The metadata of an instance: its operating system, where it is given, and how to log in. -/
def instanceMeta (osName : Option String) (user password : String) : List (String × String) :=
  (if truthy? osName then [("os_name", osName.getD "")] else []) ++
    [("default_user", user), ("default_password", password)]

/-- Waits until a volume is available, `attempts` times at most. -/
def awaitAvailable (session : KeystoneSession) (volumeId : String) : Nat → Remote Unit
  | 0 => .raise (.exception "Volume creation timed out.")
  | attempts + 1 => do
    let volStatus ← cinderGetVolumeStatus session volumeId
    if volStatus = "available" then pure ()
    else if volStatus = "error" then .raise (.exception ("Volume " ++ volumeId ++ " entered ERROR state."))
    else awaitAvailable session volumeId attempts

/-- What the server of a request is created with, from an image and possibly a volume. -/
def serverRequest (lib : Lib) (inst : InstanceCreate) (password image : String) (vda : Option String) :
    ServerCreate where
  name := inst.name
  image := image
  flavor := inst.flavorId
  netId := inst.networkId
  keyName := inst.keyName
  vda := vda
  securityGroups := ["all-internal-allow"]
  metadata := instanceMeta inst.osName (defaultUser lib inst.osName) password
  userdata := userdataPayload (defaultUser lib inst.osName) password

/-- Makes the bootable volume of an instance, and creates the server once it is available. -/
def bootFromVolume (conf : Conf) (lib : Lib) (session : KeystoneSession) (inst : InstanceCreate)
    (password : String) (size : Int) : Remote String :=
  if truthy? inst.imageId then do
    let volumeId ← cinderCreateVolume session (inst.name ++ "-root") size (inst.imageId.getD "")
    awaitAvailable session volumeId 120
    novaCreateServer session
      (serverRequest lib inst password conf.novaDefaultImageForVolumeBoot (some volumeId))
  else .raise (.valueError "Image ID required for bootable volume.")

def bootFromImage (lib : Lib) (session : KeystoneSession) (inst : InstanceCreate) (password : String) :
    Remote String :=
  if truthy? inst.imageId then
    novaCreateServer session (serverRequest lib inst password (inst.imageId.getD "") none)
  else .raise (.valueError "Image ID required when not booting from a volume.")

/-- Makes the server of a request, with its volume where it asks for one. -/
def boot (conf : Conf) (lib : Lib) (session : KeystoneSession) (inst : InstanceCreate) : Remote String := do
  let defaultPassword ← .remote (Call.tokenUrlsafe : Call)
  let size := inst.volumeSize.getD 0
  if size ≠ 0 then bootFromVolume conf lib session inst defaultPassword size
  else bootFromImage lib session inst defaultPassword

/-- `_provision_instance`. -/
def provisionInstance (conf : Conf) (lib : Lib) (session : KeystoneSession) (profile : Profile)
    (inst : InstanceCreate) : Remote Unit := .ignoring do
  let serverId ← boot conf lib session inst
  setupInstanceNetworking serverId inst.name profile inst.additionalPorts
  registerLifecycle conf lib profile serverId inst.name

/-! ## The request -/

structure Accepted where
  requestId : String
  status : String
  instanceName : String
  deriving DecidableEq, Repr

/-- The arguments of `_provision_instance`, which runs once the request has been answered. -/
structure Task where
  session : KeystoneSession
  profile : Profile
  inst : InstanceCreate
  requestId : String

/-- `create_instance`, with the task that it leaves for the background. -/
def createInstance (inst : InstanceCreate) (profile : Profile) : Remote (Accepted × Task) := do
  let session ← ofCloud (Clients.sessionOf profile)
  let existingServers ← novaListServers session (some ("^" ++ inst.name ++ "$")) profile.project.id
  if existingServers.any (fun server => server.name == inst.name) then
    .raise (.httpException 409 ("이미 동일한 이름의 인스턴스가 존재합니다: '" ++ inst.name ++ "'"))
  else do
    let requestId ← .remote (Call.uuid4 : Call)
    ofCloud (Cloud.database (.createActivityRecord {
      userId := profile.user.id
      projectId := profile.project.id
      category := "인스턴스 생성"
      message := "인스턴스 '" ++ inst.name ++ "' 생성 요청 (요청ID: " ++ requestId ++ ")"
      status := "pending"
      token := "" }))
    return (⟨requestId, "PENDING", inst.name⟩, ⟨session, profile, inst, requestId⟩)

/-! ## Statistics -/

structure Stats where
  totalCount : Nat
  limit : Int
  remaining : Int
  portForwardings : List Clients.Found
  deriving DecidableEq, Repr

/-- The fixed addresses of servers. -/
def fixedIps (servers : List Listed) : List String :=
  (servers.flatMap fun server => server.addresses.flatMap Prod.snd).filterMap fun ip =>
    if ip.type = "fixed" then some ip.addr else none

/-- The rules of a floating IP that lead to one of the addresses; none where they cannot
    be listed. -/
def rulesTo (userInternalIps : List String) (fip : Neutron.FloatingIp) : Cloud.Remote (List Clients.Found) :=
  .attempt (do
    let pfs ← Cloud.neutron .system (.listPortForwardings fip.id)
    return (pfs.filter fun pf => userInternalIps.contains pf.internalIpAddress).map (Clients.Found.of fip))
  fun _ => pure []

def getPortForwardingStats (conf : Conf) (profile : Profile) : Remote Stats :=
  .attempt (do
    let session ← ofCloud (Clients.sessionOf profile)
    let servers ← novaListServers session none profile.project.id
    let userPortForwardings ← ofCloud (do
      let allFips ← Cloud.neutron .system (.listFloatingips none)
      Program.gather allFips (rulesTo (fixedIps servers)))
    return {
      totalCount := userPortForwardings.length
      limit := conf.portForwardingLimit
      remaining := max 0 (conf.portForwardingLimit - userPortForwardings.length)
      portForwardings := userPortForwardings })
    fun _ => .raise (.httpException 500 "Failed to get port forwarding stats")

/-! ## What the parts of provisioning call -/

/-- Calls with which `setup_instance_networking` waits for the server. -/
def Call.Waits : Call → Prop
  | .cloud (.generateSession _ _) | .cloud (.nova _ (.getServer _)) | .getServerStatus _ _ => True
  | _ => False

/-- Calls of `setup_instance_networking` for a server. -/
def Call.Networks (serverId : String) (c : Call) : Prop :=
  c.Waits ∨ ∃ payload, payload.userVmId = serverId ∧ c = .post payload

/-- Calls of the registration of a server for lifecycle management. -/
def Call.Registers (serverId : String) : Call → Prop
  | .getSetting _ | .time => True
  | .createInstanceLifecycle record => record.instanceId = serverId
  | _ => False

/-- Calls before the server is asked for. -/
def Call.Boots : Call → Prop
  | .tokenUrlsafe | .createVolume _ _ _ _ | .getVolumeStatus _ _ => True
  | _ => False

/-- Calls that leave Nova's servers as they are. -/
def Call.SparesServers : Call → Prop
  | .createServer _ _ | .cloud (.nova _ (.deleteServer _)) => False
  | _ => True

theorem awaitActive_polls (session : KeystoneSession) (serverId : String) (attempts : Nat) :
    (awaitActive session serverId attempts).Uses (· = .getServerStatus session serverId) := by
  induction attempts with
  | zero => exact .pure _
  | succ attempts ih =>
    refine .bind (.attempt (.map (.remote rfl)) fun _ => .pure none) fun serverStatus => ?_
    exact .ite (.pure _) (.ite (.pure _) ih)

theorem awaitActive_waits (session : KeystoneSession) (serverId : String) (attempts : Nat) :
    (awaitActive session serverId attempts).Uses Call.Waits := by
  refine (awaitActive_polls session serverId attempts).mono ?_
  rintro _ rfl
  exact trivial

theorem sessionOf_opens (profile : Profile) : (ofCloud (Clients.sessionOf profile)).Uses
    (· = .cloud (.generateSession profile.keystoneToken profile.project.id)) :=
  .lift (.bind (.remote rfl) fun _ => .pure _)

theorem sessionOf_waits (profile : Profile) : (ofCloud (Clients.sessionOf profile)).Uses Call.Waits := by
  refine (sessionOf_opens profile).mono ?_
  rintro _ rfl
  exact trivial

theorem getServerInternalIp_waits (session : KeystoneSession) (serverId : String) :
    (ofCloud (Clients.getServerInternalIp session serverId)).Uses Call.Waits := by
  refine .lift ?_
  unfold Clients.getServerInternalIp
  generalize 10 = attempts
  induction attempts with
  | zero => exact .raise _
  | succ attempts ih =>
    refine .bind (.remote trivial) fun server => ?_
    cases Clients.firstFixedIp server.addresses with
    | some ip => exact .pure ip
    | none => exact ih

theorem awaitIp_waits (session : KeystoneSession) (serverId : String) (attempts : Nat) :
    (awaitIp session serverId attempts).Uses Call.Waits := by
  induction attempts with
  | zero => exact .pure _
  | succ attempts ih =>
    refine .bind (.attempt (.map (getServerInternalIp_waits session serverId)) fun _ => .pure none) fun ip => ?_
    exact .ite (.pure _) ih

theorem awaitAvailable_polls (session : KeystoneSession) (volumeId : String) (attempts : Nat) :
    (awaitAvailable session volumeId attempts).Uses (· = .getVolumeStatus session volumeId) := by
  induction attempts with
  | zero => exact .raise _
  | succ attempts ih =>
    refine .bind (.attempt (.remote rfl) fun _ => .raise _) fun volStatus => ?_
    exact .ite (.pure ()) (.ite (.raise _) ih)

theorem forward_posts (payload : ForwardPayload) : (forward payload).Uses (· = .post payload) := by
  have sent : (Program.remote (Call.post payload) : Remote (Proxy.Response Proxy.Rule)).Uses (· = .post payload) :=
    .remote rfl
  have api : (callPortforwardApi payload).Uses (· = .post payload) := .retry sent 3
  exact .attempt (.bind api fun _ => .pure ()) fun _ => .pure ()

theorem payloads_userVmId {serverId serverName internalIp : String} {additionalPorts : Option (List PortForwardingRule)}
    {payload : ForwardPayload} (member : payload ∈ payloads serverId serverName internalIp additionalPorts) :
    payload.userVmId = serverId := by
  rcases List.mem_cons.mp member with rfl | additional
  · rfl
  · obtain ⟨port, _, rfl⟩ := List.mem_map.mp additional
    rfl

theorem network_networks (session : KeystoneSession) (serverId serverName : String)
    (additionalPorts : Option (List PortForwardingRule)) :
    (network session serverId serverName additionalPorts).Uses (Call.Networks serverId) := by
  refine .bind ((awaitActive_waits session serverId 60).mono fun _ => .inl) fun activation => .ite ?_ (.pure ())
  refine .bind ((awaitIp_waits session serverId 10).mono fun _ => .inl) fun internalIp => ?_
  cases internalIp with
  | some ip =>
    exact .forEach_mem fun payload member => (forward_posts payload).mono fun _ same =>
      .inr ⟨payload, payloads_userVmId member, same⟩
  | none => exact .pure ()

theorem setupInstanceNetworking_networks (serverId serverName : String) (profile : Profile)
    (additionalPorts : Option (List PortForwardingRule)) :
    (setupInstanceNetworking serverId serverName profile additionalPorts).Uses (Call.Networks serverId) :=
  .bind ((sessionOf_waits profile).mono fun _ => .inl) fun session =>
    .attempt (network_networks session serverId serverName additionalPorts) fun _ => .pure ()

theorem registerLifecycle_registers (conf : Conf) (lib : Lib) (profile : Profile) (serverId instanceName : String) :
    (registerLifecycle conf lib profile serverId instanceName).Uses (Call.Registers serverId) := by
  refine .attempt (.bind (.remote trivial) fun lcEnabledRow => .ite ?_ (.pure ())) fun _ => .pure ()
  exact .bind (.remote trivial) fun _ => .bind (.done _) fun _ => .bind (.remote trivial) fun _ => .remote rfl

section
open Skyline.Threads
variable {Phase : Type} {P : Protocol Answer Exn Phase} {q : Phase}

/-- Booting keeps to a protocol that lets it prepare and lets it ask for a server of the name. -/
theorem boot_follows (conf : Conf) (lib : Lib) (session : KeystoneSession) (inst : InstanceCreate)
    {post : Except Exn String → Phase → Prop} (may : ∀ c, c.Boots → P.may q c)
    (stays : ∀ c r, c.Boots → P.next q c r = q) (raised : ∀ e, post (.error e) q)
    (asked : ∀ body, body.name = inst.name → Follows P post (novaCreateServer session body) q) :
    Follows P post (boot conf lib session inst) q := by
  refine .bind (.of_uses may stays (.remote trivial) fun r => ?_)
  cases r with
  | error e => exact raised e
  | ok password =>
    refine .ite (fun _ => .ite (fun _ => ?_) fun _ => .raise (raised _)) fun _ =>
      .ite (fun _ => asked _ rfl) fun _ => .raise (raised _)
    refine .bind (.of_uses may stays (.attempt (.remote trivial) fun _ => .raise _) fun r => ?_)
    cases r with
    | error e => exact raised e
    | ok volumeId =>
      refine .bind (.of_uses may stays ((awaitAvailable_polls _ _ _).mono fun c same => same ▸ trivial) fun r => ?_)
      cases r with
      | error e => exact raised e
      | ok _ => exact asked _ rfl

end

theorem waits_spare {c : Call} (waits : c.Waits) : c.SparesServers := by
  cases c with
  | cloud c =>
    cases c with
    | nova session request => cases request <;> first | exact trivial | exact waits.elim
    | _ => exact trivial
  | createServer _ _ => exact waits.elim
  | _ => exact trivial

theorem networks_spare {serverId : String} {c : Call} (networks : c.Networks serverId) : c.SparesServers := by
  rcases networks with waits | ⟨payload, _, rfl⟩
  · exact waits_spare waits
  · exact trivial

theorem registers_spare {serverId : String} {c : Call} (registers : c.Registers serverId) : c.SparesServers := by
  cases c with
  | cloud _ | createServer _ _ => exact registers.elim
  | _ => exact trivial

theorem perform_sparesServers (env : Env) (n : Nat) (s : State) {c : Call} (spares : c.SparesServers) :
    (perform env n s c).2.cloud.servers = s.cloud.servers ∧ (perform env n s c).2.names = s.names := by
  cases c with
  | cloud c =>
    cases c with
    | nova session request =>
      have reads : request.Reads := by cases request <;> exact spares
      exact ⟨env.novaService.reads reads, rfl⟩
    | database request => cases request <;> exact ⟨rfl, rfl⟩
    | _ => exact ⟨rfl, rfl⟩
  | createInstanceLifecycle record =>
    dsimp only [perform, insertLifecycle]
    split <;> exact ⟨rfl, rfl⟩
  | createServer _ _ => exact spares.elim
  | _ => exact ⟨rfl, rfl⟩

/-- Waiting changes nothing. -/
theorem waits_keep {env : Env} {w w' : World Call State} {α : Type} {m : Remote α} {r : Except Exn α}
    (uses : m.Uses Call.Waits) (ran : m.run env.backend.serve w = (r, w')) : w'.state = w.state := by
  have each : ∀ c : Call, c.Waits → Eff.Keeps (fun s : World Call State => s.state = w.state) (env.backend.serve c) := by
    intro c waits
    refine Backend.serve_keeps (I := fun s : State => s = w.state) fun n s same => ?_
    cases c with
    | cloud c =>
      cases c with
      | nova session request =>
        have reads : request.Reads := by cases request <;> trivial
        have kept : (perform env n s (.cloud (.nova session request))).2 = s := by
          rw [perform, Cloud.perform_reads env.cloud (c := .nova session request) reads]
        exact kept.trans same
      | generateSession _ _ => exact same
      | _ => exact waits.elim
    | getServerStatus _ _ => exact same
    | _ => exact waits.elim
  have kept := Program.run_keeps each uses w rfl
  rw [ran] at kept
  exact kept

/-! ## The services as they are documented -/

def documentedServers : ServerService where
  listServers s shown := (s.cloud.servers.select shown).map fun server => ⟨server.id, s.names server.id, server.addresses⟩
  createServer s server name :=
    match s.cloud.servers.insert server with
    | some servers => (.ok server.id, { s with
        cloud := { s.cloud with servers }
        names := Function.update s.names server.id name })
    | none => (.error Neutron.conflict, s)
  status sees servers serverId now := (Cloud.findServer sees servers serverId).map fun _ => now
  lists := .refl _
  creates inserted := by simp only [inserted]
  createsNone conflict := ⟨Neutron.conflict, by simp only [conflict]⟩
  statusOf {sees servers serverId _ _} := by cases Cloud.findServer sees servers serverId <;> simp [Except.map]

def documentedVolumes : VolumeService where
  createVolume volumes volume :=
    match volumes.insert volume with
    | some after => (.ok volume.id, after)
    | none => (.error Neutron.conflict, volumes)
  status sees volumes volumeId now :=
    match volumes.find volumeId with
    | some volume => if sees volume.projectId then .ok now else .error Neutron.notFound
    | none => .error Neutron.notFound
  creates inserted := by simp only [inserted]
  createsNone conflict := ⟨Neutron.conflict, by simp only [conflict]⟩
  statusOf {sees volumes volumeId _ _} := by
    cases volumes.find volumeId with
    | none => simp
    | some volume => cases shown : sees volume.projectId <;> simp [shown]

/-! ## A project -/

/-- An id that is longer than every id in use. -/
def freshId (rules : Proxy.Rules) : String := String.ofList ('r' :: (rules.rows.map fun r => r.ruleId.toList).flatten)

theorem freshId_fresh (rules : Proxy.Rules) : ∀ r ∈ rules, r.ruleId ≠ freshId rules := by
  intro r member same
  have within : r.ruleId.toList.Sublist (rules.rows.map fun r => r.ruleId.toList).flatten :=
    List.sublist_flatten_of_mem (List.mem_map_of_mem member)
  have shorter := within.length_le
  rw [same, freshId, String.toList_ofList, List.length_cons] at shorter
  exact absurd shorter (Nat.not_succ_le_self _)

/-- The Proxy numbers its rules, and names the `n`-th by a UUID. -/
def ruleUuid (n : Nat) : String :=
  "00000000-0000-4000-8000-" ++ String.ofList (List.replicate (12 - (toString n).length) '0') ++ toString n

/-- An environment in which every call goes through, a user's session sees the resources of
    its own project, servers come up and volumes become available at once. -/
def serving : Env where
  delivery _ _ := .answered
  mayUse _ projectId owner := projectId == owner
  neutronService := Cloud.documentedNeutron
  novaService := Cloud.documentedNova
  proxyService := Cloud.documentedProxy
  serverService := documentedServers
  volumeService := documentedVolumes
  newPortForwardingId _ n := "rule-" ++ toString n
  proxyRefuses _ _ := none
  proxyChoice _ n := ⟨n + 1, ruleUuid (n + 1), "203.0.113.9", 20000 + n, "active", true, none⟩
  draw n := n
  nameMatches pattern name := pattern == "^" ++ name ++ "$"
  systemProjectId := "service"
  newServerId _ n := "server-" ++ toString n
  addresses _ _ := [("net", [⟨"10.0.0.9", "fixed"⟩])]
  serverStatus _ _ := "ACTIVE"
  newVolumeId _ n := "volume-" ++ toString n
  volumeStatus _ _ := "available"
  choose rules _ n :=
    let id := rules.rows.length + 1
    if fresh : ∀ r ∈ rules.rows, r.ruleId ≠ ruleUuid id then
      ⟨⟨id, ruleUuid id, "203.0.113.9", 20000 + n, "active", true, none⟩, fresh⟩
    else ⟨⟨id, freshId rules, "203.0.113.9", 20000 + n, "active", true, none⟩, freshId_fresh rules⟩
  uuid4 n := "request-" ++ toString n
  tokenUrlsafe n := "password-" ++ toString n
  time n := 1700000000 + n

def defaults : Conf where
  novaDefaultImageForVolumeBoot := ""
  systemProject := "service"
  instanceLifecycleEnabled := true
  instanceLifetimeDays := 30
  portForwardingLimit := 10

/-- Python's functions, as far as ASCII texts and numbers go. -/
def ascii : Lib where
  lower s := String.ofList (s.toList.map Char.toLower)
  truth
    | .bool b => b
    | .int n => n ≠ 0
    | .str s => truthy s
    | _ => false
  int
    | .int n => .ok n
    | .bool b => .ok (if b then 1 else 0)
    | _ => .error (.valueError "invalid literal for int()")

/-- Two projects with a server each, and no volumes. -/
def settled : World Call State where
  state := ⟨Cloud.twoTenants, fun id => id, Table.empty, fun _ => none⟩
  calls := []

/-- A request for an instance with a volume, of the project of `Session.member`. -/
def web : InstanceCreate where
  name := "web"
  imageId := some "image"
  flavorId := "small"
  networkId := "net"
  volumeSize := some 10
  additionalPorts := some [⟨⟨80, by decide⟩, ⟨8080, by decide⟩, .tcp⟩]

abbrev memberSession : KeystoneSession :=
  .user Session.member.keystoneToken Session.member.project.id

end Skyline.Provisioning
