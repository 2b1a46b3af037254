import Skyline.PortOrigin
import Skyline.ServerListing

/-!
The listing of ports. Neutron lists the ports that match a query; the handler puts the query
together from its own filters. It looks up a network by name first, and puts down the
identifiers of all networks of that name; a network that is given by identifier as well has
to be one of them, but does not take their place. And the project that is given is left out
unless all projects are listed. Everything else that is asked for is in the query.
-/
namespace Skyline.Ports
open Skyline.Effects Skyline.Programs Skyline.Python Skyline.Raising Skyline.Tables Skyline.Services Skyline.Extension
open Skyline.Config (Value)
open Skyline.Session (Profile)
open Skyline.Cloud (KeystoneSession ownSession)

/-! ## Calls -/

structure Network where
  id : String
  name : String
  projectId : String
  shared : Bool
  deriving DecidableEq, Repr

structure NetworkOpts where
  name : Option String := none
  shared : Option Bool := none
  projectId : Option String := none
  id : List String := []
  deriving DecidableEq, Repr

/-- The query for ports; a list stands for any of its values, and an empty one is not sent. -/
structure PortOpts where
  limit : Option Nat := none
  marker : Option String := none
  projectId : Option String := none
  name : Option String := none
  status : Option String := none
  deviceOwner : List String := []
  id : List String := []
  networkId : List String := []
  deviceId : Option String := none
  sortDir : List String := []
  sortKey : List String := []
  deriving DecidableEq, Repr

/-- Keystone and Nova are called as by the other listings. -/
inductive Call
  | other (c : Extension.Call)
  | listNetworks (session : KeystoneSession) (opts : NetworkOpts)
  | listPorts (session : KeystoneSession) (opts : PortOpts)
  deriving DecidableEq, Repr

/-- The ports are the first page of those that match. -/
abbrev Answer : Call → Type
  | .other c => Extension.Answer c
  | .listNetworks _ _ => List Network
  | .listPorts _ _ => List Dict

abbrev Remote : Type → Type := Program Answer Exn

def other {α : Type} (m : Extension.Remote α) : Remote α := m.lift Call.other fun _ reply => reply

def listNetworks (session : KeystoneSession) (opts : NetworkOpts) : Remote (List Network) :=
  Program.remote (Call.listNetworks session opts)

def listPorts (session : KeystoneSession) (opts : PortOpts) : Remote (List Dict) :=
  Program.remote (Call.listPorts session opts)

/-! ## Ports -/

/-- The text of a column. -/
def column (d : Dict) (key : String) : Option String :=
  match dictGet d key with
  | some (.str s) => some s
  | _ => none

/-- The columns that ports are filtered by. -/
structure Columns where
  id : Option String
  name : Option String
  projectId : Option String
  status : Option String
  deviceId : Option String
  deviceOwner : Option String
  networkId : Option String

def Columns.of (d : Dict) : Columns where
  id := column d "id"
  name := column d "name"
  projectId := column d "project_id"
  status := column d "status"
  deviceId := column d "device_id"
  deviceOwner := column d "device_owner"
  networkId := column d "network_id"

/-- What the handler takes from Python and its libraries. -/
structure Lib where
  extension : Extension.Lib
  /-- Whether the text of a float is read as zero. -/
  zero : String → Bool
  /-- Whether `PortsResponseBase.parse_obj` accepts a dictionary. -/
  acceptsPort : Dict → Bool

/-- `Port._attrs_mapping`, the addresses apart. -/
def portMapping : List (String × String) := [
  ("id", "id"), ("name", "name"), ("mac_address", "mac_address"), ("device_owner", "device_owner"),
  ("device_id", "device_id"), ("server_name", "server_name"), ("status", "status"), ("created_at", "created_at"),
  ("project_id", "project_id"), ("network_id", "network_id"), ("binding_vnic_type", "binding:vnic_type"),
  ("description", "description"), ("port_security_enabled", "port_security_enabled"),
  ("qos_policy_id", "qos_policy_id"), ("fixed_ips", "fixed_ips")]

/-- `item[key]`, where the item is a value of JSON. -/
def itemOf (key : String) : Value → Except Exn Value
  | .dict items => getitem (dictGet items key) key
  | _ => .error (.exception "indices must be integers")

/-- `Port._format_ip`: the addresses without the separator of the other version. -/
def formatIp (zero : String → Bool) (separator : String) (port : Dict) : Except Exn Value := do
  match (dictGet port "fixed_ips").filter (truth zero) with
  | none => return .list []
  | some fixedIps =>
    let addresses ← (← iter fixedIps).mapM (itemOf "ip_address")
    let separated ← addresses.mapM (contains separator)
    return .list (((addresses.zip separated).filter fun ip => !ip.2).map (·.1))

/-- `Port(port).to_dict()`. -/
def portToDict (zero : String → Bool) (port : Dict) : Except Exn Dict := do
  let ipv4 ← formatIp zero ":" port
  let ipv6 ← formatIp zero "." port
  return portMapping.map (fun entry => (entry.1, (dictGet port entry.2).getD .null)) ++ [("ipv4", ipv4), ("ipv6", ipv6)]

structure PortEntry where
  port : Dict
  originData : List (String × Item)
  serverName : Option String
  networkName : Option String

def parsePort (lib : Lib) (port : Dict) : Except Exn PortEntry := do
  let originData ← osPort lib.zero port
  let fields ← portToDict lib.zero port
  if lib.acceptsPort fields then return ⟨fields, originData, none, none⟩
  else .error (.valueError "validation error for PortsResponseBase")

/-! ## The handler -/

structure PortQuery where
  limit : Option Nat := none
  marker : Option String := none
  sortDirs : Option String := none
  sortKeys : List String := []
  allProjects : Option Bool := none
  projectId : Option String := none
  name : Option String := none
  status : Option String := none
  networkName : Option String := none
  networkId : Option String := none
  deviceId : Option String := none
  deviceOwner : List String := []
  uuid : List String := []

/-- The networks of the name that is given, if one is; `none` where there are none. -/
def namedNetworks (currentSession : KeystoneSession) (networkName : Option String) : Remote (Option (List String)) :=
  match networkName with
  | none => pure (some [])
  | some networkName => do
    let networks ← listNetworks currentSession { name := some networkName }
    return if networks.isEmpty then none else some (networks.map (·.id))

/-- `kwargs["network_id"]`; `none` where the listing is known to be empty. -/
def networkFilter (currentSession : KeystoneSession) (query : PortQuery) : Remote (Option (List String)) := do
  let named ← namedNetworks currentSession query.networkName
  match named, query.networkId with
  | none, _ => return none
  | some networkIds, none => return some networkIds
  | some networkIds, some networkId =>
    if !networkIds.isEmpty && !networkIds.contains networkId then return none
    else if networkIds.isEmpty then return some (networkIds ++ [networkId])
    else return some networkIds

def portOpts (profile : Profile) (query : PortQuery) (allProjects : Bool) (networkIds : List String) : PortOpts where
  limit := query.limit
  marker := query.marker
  projectId := if allProjects then query.projectId else some profile.project.id
  name := query.name
  status := query.status
  deviceOwner := query.deviceOwner
  id := query.uuid
  networkId := networkIds
  deviceId := query.deviceId
  sortDir := query.sortKeys.map fun _ => query.sortDirs.getD "asc"
  sortKey := query.sortKeys

/-- The names of the servers and the networks of ports. -/
def namePort (servers : List (String × String)) (networks : List Network) (entry : PortEntry) : PortEntry :=
  { entry with
    serverName := (column entry.port "device_id").bind (dictGet servers)
    networkName := (column entry.port "network_id").bind (dictGet (networks.map fun n => (n.id, n.name))) }

def listPortsHandler (conf : Conf) (lib : Lib) (profile : Profile) (query : PortQuery) : Remote (List PortEntry) := do
  let allProjects := query.allProjects.getD false
  other (gate conf profile allProjects "Not allowed to get ports for all projects.")
  let currentSession ← other (generateSession profile)
  let filter ← networkFilter currentSession query
  match filter with
  | none => return []
  | some networkIds =>
    let ports ← listPorts currentSession (portOpts profile query allProjects networkIds)
    let result ← Program.done (ports.mapM (parsePort lib))
    let serverIds := (result.filter fun e => column e.port "device_owner" == some "compute:nova").filterMap
      fun e => column e.port "device_id"
    let sharedNets ← listNetworks currentSession { shared := some true }
    let nets ← Program.gather (batches (lib.extension.listOfSet (result.filterMap fun e => column e.port "network_id")))
      fun ids => listNetworks currentSession
        { projectId := if allProjects then none else some profile.project.id, id := ids }
    let servers ← Program.gather (lib.extension.listOfSet serverIds) fun serverId => do
      let servers ← other (listServers currentSession { uuid := some serverId, allTenants := allProjects } {})
      return (servers.head?.map fun s => (s.id, s.name)).toList
    return result.map (namePort servers (sharedNets ++ nets))

/-! ## What Neutron answers -/

/-- What Neutron holds, and the other services. -/
structure Content where
  extension : Extension.Content
  networks : Table Network Network.id
  ports : List Dict

def NetworkOpts.matches (opts : NetworkOpts) (n : Network) : Bool :=
  opts.name.all (· == n.name) && opts.shared.all (· == n.shared) && opts.projectId.all (· == n.projectId) &&
    among opts.id (some n.id)

/-- Every part of a query has to hold of a port. -/
def PortOpts.matches (opts : PortOpts) (port : Columns) : Bool :=
  opts.projectId.all (port.projectId == some ·) && opts.name.all (port.name == some ·) &&
    opts.status.all (port.status == some ·) && opts.deviceId.all (port.deviceId == some ·) &&
    among opts.deviceOwner port.deviceOwner && among opts.id port.id && among opts.networkId port.networkId

/-- What is relied on of Neutron: what it lists matches the query. -/
structure Env where
  delivery : Call → Nat → Delivery Exn
  answer : Content → (c : Call) → Answer c
  listNetworks {content session opts} {n : Network} :
    n ∈ answer content (.listNetworks session opts) → n ∈ content.networks ∧ opts.matches n = true
  listPorts {content session opts} {port : Dict} :
    port ∈ answer content (.listPorts session opts) → opts.matches (.of port) = true

def Env.backend (env : Env) : Backend Answer Exn Content where
  delivery := env.delivery
  perform _ content c := (.ok (env.answer content c), content)

theorem Env.reads (env : Env) (n : Nat) (content : Content) (c : Call) :
    env.backend.perform n content c = (.ok (env.answer content c), content) := rfl

/-! ## What is asked for -/

variable {env : Env} {content : Content} {conf : Conf} {lib : Lib} {profile : Profile} {query : PortQuery}

/-- A port satisfies the filters that are given. -/
structure Satisfies (content : Content) (query : PortQuery) (port : Columns) : Prop where
  project : ∀ i, query.projectId = some i → port.projectId = some i
  name : ∀ n, query.name = some n → port.name = some n
  status : ∀ s, query.status = some s → port.status = some s
  device : ∀ i, query.deviceId = some i → port.deviceId = some i
  owner : query.deviceOwner ≠ [] → ∃ o ∈ query.deviceOwner, port.deviceOwner = some o
  id : query.uuid ≠ [] → ∃ i ∈ query.uuid, port.id = some i
  networkName : ∀ n, query.networkName = some n →
    ∃ network ∈ content.networks, port.networkId = some network.id ∧ network.name = n
  network : ∀ i, query.networkId = some i → port.networkId = some i

/-- The networks of a name, as a session sees them. -/
def Env.networksNamed (env : Env) (content : Content) (session : KeystoneSession) (name : String) : List String :=
  (env.answer content (.listNetworks session { name := some name })).map Network.id

/-- The identifiers that the query has for the network, as `networkFilter` finds them. -/
def Env.networksAsked (env : Env) (content : Content) (profile : Profile) (query : PortQuery) : Option (List String) :=
  match query.networkName, query.networkId with
  | none, i => some i.toList
  | some n, none =>
    if (env.networksNamed content (ownSession profile) n).isEmpty then none
    else some (env.networksNamed content (ownSession profile) n)
  | some n, some i =>
    if (env.networksNamed content (ownSession profile) n).contains i then some (env.networksNamed content (ownSession profile) n)
    else none

/-- The ports that Neutron answers with; it is not asked where no network can be meant. -/
def Env.portsListed (env : Env) (content : Content) (profile : Profile) (query : PortQuery) : List Dict :=
  match env.networksAsked content profile query with
  | none => []
  | some ids => env.answer content
      (.listPorts (ownSession profile) (portOpts profile query (query.allProjects.getD false) ids))

theorem namedNetworks_eval (session : KeystoneSession) (n : String) :
    (namedNetworks session (some n)).eval (fun c => .ok (env.answer content c)) =
      .ok (if (env.networksNamed content session n).isEmpty then none else some (env.networksNamed content session n)) := by
  rw [Env.networksNamed, List.isEmpty_map]
  rfl

theorem networkFilter_eval : (networkFilter (ownSession profile) query).eval (fun c => .ok (env.answer content c)) =
    .ok (env.networksAsked content profile query) := by
  rw [networkFilter, Env.networksAsked]
  cases query.networkName with
  | none =>
    cases query.networkId with
    | none => rfl
    | some i => rfl
  | some n =>
    rw [Program.eval_bind_ok (namedNetworks_eval _ n)]
    cases query.networkId with
    | none =>
      dsimp only
      generalize env.networksNamed content (ownSession profile) n = ids
      cases ids with
      | nil => rfl
      | cons first ids => rfl
    | some i =>
      dsimp only
      generalize env.networksNamed content (ownSession profile) n = ids
      cases ids with
      | nil => rfl
      | cons first ids =>
        dsimp only [List.isEmpty_cons, Bool.not_false, Bool.true_and]
        rw [if_neg Bool.false_ne_true]
        dsimp only
        rw [Program.eval_ite]
        cases (first :: ids).contains i with
        | true => rfl
        | false => rfl

theorem networkFilter_passesOn (session : KeystoneSession) (query : PortQuery) : (networkFilter session query).PassesOn := by
  refine .bind ?_ fun named => ?_
  · cases query.networkName with
    | none => exact .pure _
    | some n => exact .bind (.remote _) fun networks => .pure _
  · cases named with
    | none => exact .pure _
    | some ids =>
      cases query.networkId with
      | none => exact .pure _
      | some i => exact .ite (.pure _) (.ite (.pure _) (.pure _))

theorem listPortsHandler_passesOn (conf : Conf) (lib : Lib) (profile : Profile) (query : PortQuery) :
    (listPortsHandler conf lib profile query).PassesOn := by
  refine .bind (.lift (gate_passesOn _ _ _ _)) fun _ => .bind (.lift (generateSession_passesOn _)) fun session => ?_
  refine .bind (networkFilter_passesOn _ _) fun filter => ?_
  cases filter with
  | none => exact .pure _
  | some ids =>
    refine .bind (.remote _) fun ports => .bind (.done _) fun result => .bind (.remote _) fun sharedNets => ?_
    refine .bind (.gather fun ids => .remote _) fun nets => .bind (.gather fun serverId => ?_) fun servers => .pure _
    exact .bind (.lift (.remote _)) fun servers => .pure _

/-- The entries that a run returns are made of the ports that Neutron lists. -/
theorem listPorts_returned {w : World Call Content} {entries : List PortEntry}
    (returned : ((listPortsHandler conf lib profile query).run env.backend.serve w).1 = .ok entries) :
    List.Forall₂ (fun port (e : PortEntry) => ∃ made, parsePort lib port = .ok made ∧ e.port = made.port)
      (env.portsListed w.state profile query) entries := by
  have came := (listPortsHandler_passesOn conf lib profile query).eval_of_reads env.reads returned
  obtain ⟨_, -, came⟩ := Program.of_eval_bind_ok came
  have session : (other (generateSession profile)).eval (fun c => .ok (env.answer w.state c)) =
    .ok (ownSession profile) := rfl
  rw [Program.eval_bind_ok session, Program.eval_bind_ok networkFilter_eval] at came
  rw [Env.portsListed]
  cases asked : env.networksAsked w.state profile query with
  | none =>
    rw [asked] at came
    cases came
    exact .nil
  | some ids =>
    have listed : (listPorts (ownSession profile) (portOpts profile query (query.allProjects.getD false) ids)).eval
      (fun c => .ok (env.answer w.state c)) = .ok (env.answer w.state (.listPorts (ownSession profile)
        (portOpts profile query (query.allProjects.getD false) ids))) := rfl
    rw [asked] at came
    dsimp only at came
    rw [Program.eval_bind_ok listed] at came
    obtain ⟨result, made, came⟩ := Program.of_eval_bind_ok came
    obtain ⟨_, -, came⟩ := Program.of_eval_bind_ok came
    obtain ⟨_, -, came⟩ := Program.of_eval_bind_ok came
    obtain ⟨_, -, came⟩ := Program.of_eval_bind_ok came
    rw [← Except.ok.inj came, List.forall₂_map_right_iff]
    exact (mapM_ok.mp made).imp fun port e parsed => ⟨e, parsed, rfl⟩

/-! ## What is returned -/

theorem parsePort_columns {port : Dict} {made : PortEntry} (parsed : parsePort lib port = .ok made) {key source : String}
    (mapped : (key, source) ∈ portMapping) : column made.port key = column port source := by
  obtain ⟨origin, -, rest⟩ := bind_ok_iff.mp parsed
  obtain ⟨fields, listed, rest⟩ := bind_ok_iff.mp rest
  obtain ⟨ipv4, -, same⟩ := bind_ok_iff.mp listed
  obtain ⟨ipv6, -, same⟩ := bind_ok_iff.mp same
  have own : ∀ entry ∈ portMapping, entry.1 = key → entry = (key, source) := by
    intro entry member same
    have distinct : (portMapping.map (·.1)).Nodup := by decide
    exact List.inj_on_of_nodup_map distinct member mapped same
  have apart : ∀ entry ∈ portMapping, entry.1 ≠ "ipv4" ∧ entry.1 ≠ "ipv6" := by decide
  have held : dictGet fields key = some ((dictGet port source).getD .null) := by
    rw [← Except.ok.inj same, dictGet_append]
    have addresses : dictGet [("ipv4", ipv4), ("ipv6", ipv6)] key = none := by
      rw [dictGet_none]
      intro entry member same
      obtain ⟨no4, no6⟩ := apart _ mapped
      rcases List.mem_pair.mp member with rfl | rfl
      · exact no4 same.symm
      · exact no6 same.symm
    rw [addresses, Option.none_or]
    refine dictGet_unique (List.mem_map.mpr ⟨_, mapped, rfl⟩) ?_
    rintro _ listed same
    obtain ⟨entry, member, rfl⟩ := List.mem_map.mp listed
    rw [own entry member same]
  have is : made.port = fields := by
    split at rest
    · cases rest
      rfl
    · cases rest
  rw [is, column, column, held]
  cases dictGet port source with
  | none => rfl
  | some v => rfl

theorem parsePort_of {port : Dict} {made : PortEntry} (parsed : parsePort lib port = .ok made) :
    Columns.of made.port = Columns.of port := by
  simp only [Columns.of, Columns.mk.injEq]
  refine ⟨?_, ?_, ?_, ?_, ?_, ?_, ?_⟩
  all_goals exact parsePort_columns parsed (by decide)

/-! ## What is listed -/

theorem among_iff {ids : List String} {id : Option String} : among ids id = true ↔ (ids ≠ [] → ∃ i ∈ ids, id = some i) := by
  cases ids with
  | nil => simp [among]
  | cons first ids =>
    cases id with
    | none => simp [among]
    | some i =>
      rw [among, List.isEmpty_cons, Bool.false_or, Option.any_some, List.contains_iff_mem]
      constructor
      · intro member _
        exact ⟨i, member, rfl⟩
      · intro given
        obtain ⟨j, member, same⟩ := given (List.cons_ne_nil _ _)
        rwa [Option.some.inj same]

/-- What holds of the ports that Neutron lists: the parts of the query. -/
theorem portsListed_matches {port : Dict} (member : port ∈ env.portsListed content profile query) :
    ∃ ids, env.networksAsked content profile query = some ids ∧
      (portOpts profile query (query.allProjects.getD false) ids).matches (.of port) = true := by
  rw [Env.portsListed] at member
  split at member
  · cases member
  · next ids asked =>
    exact ⟨ids, asked, env.listPorts member⟩

/-- A network that the query has for a name is one of that name. -/
theorem networksNamed_named {session : KeystoneSession} {n i : String} (member : i ∈ env.networksNamed content session n) :
    ∃ network ∈ content.networks, network.id = i ∧ network.name = n := by
  obtain ⟨network, listed, rfl⟩ := List.mem_map.mp member
  obtain ⟨held, matched⟩ := env.listNetworks listed
  simp only [NetworkOpts.matches, Option.all_some, Bool.and_eq_true, beq_iff_eq] at matched
  exact ⟨network, held, rfl, matched.1.1.1.symm⟩

theorem networksAsked_named {ids : List String} {n : String} (given : query.networkName = some n)
    (asked : env.networksAsked content profile query = some ids) :
    ids = env.networksNamed content (ownSession profile) n ∧ ids ≠ [] := by
  rw [Env.networksAsked, given] at asked
  cases byId : query.networkId with
  | none =>
    rw [byId] at asked
    dsimp only at asked
    split at asked
    · cases asked
    · next some =>
      cases asked
      exact ⟨rfl, fun empty => some (List.isEmpty_iff.mpr empty)⟩
  | some i =>
    rw [byId] at asked
    dsimp only at asked
    split at asked
    · next within =>
      cases asked
      exact ⟨rfl, List.ne_nil_of_mem (List.contains_iff_mem.mp within)⟩
    · cases asked

/-- Of the networks of the name that is given, the port is on none beside the one that is given
    by its identifier. -/
def NoneBeside (env : Env) (content : Content) (profile : Profile) (query : PortQuery) (port : Columns) : Prop :=
  ∀ n i, query.networkName = some n → query.networkId = some i →
    ∀ j ∈ env.networksNamed content (ownSession profile) n, port.networkId = some j → j = i

/-- Only the caller's own project is given where not all are listed. -/
def OwnOrAll (profile : Profile) (query : PortQuery) : Prop :=
  query.allProjects.getD false = false → ∀ i, query.projectId = some i → i = profile.project.id

/-- A port that Neutron lists satisfies the filters that are given, but for a network that is
    given twice and for a project that is given for the caller's own ports. -/
theorem portsListed_satisfies_iff {port : Dict} (member : port ∈ env.portsListed content profile query) :
    Satisfies content query (.of port) ↔
      NoneBeside env content profile query (.of port) ∧ OwnOrAll profile query := by
  obtain ⟨ids, asked, matched⟩ := portsListed_matches member
  simp only [PortOpts.matches, portOpts, Bool.and_eq_true, Option.all_eq_true, beq_iff_eq, among_iff] at matched
  obtain ⟨⟨⟨⟨⟨⟨project, name⟩, status⟩, device⟩, owner⟩, id⟩, network⟩ := matched
  constructor
  · intro satisfies
    constructor
    · intro n i _ given j _ onIt
      have same := onIt.symm.trans (satisfies.network i given)
      exact Option.some.inj same
    · intro own i given
      rw [own, if_neg Bool.false_ne_true] at project
      have same := (satisfies.project i given).symm.trans (project _ rfl)
      exact Option.some.inj same
  · rintro ⟨beside, own⟩
    refine ⟨fun i given => ?_, name, status, device, owner, id, fun n given => ?_, fun i given => ?_⟩
    · cases all : query.allProjects.getD false with
      | true =>
        rw [all, if_pos rfl] at project
        exact project i given
      | false =>
        rw [all, if_neg Bool.false_ne_true] at project
        rw [own all i given]
        exact project _ rfl
    · obtain ⟨rfl, some⟩ := networksAsked_named given asked
      obtain ⟨i, member, onIt⟩ := network some
      obtain ⟨net, held, rfl, named⟩ := networksNamed_named member
      exact ⟨net, held, onIt, named⟩
    · cases named : query.networkName with
      | some n =>
        obtain ⟨rfl, some⟩ := networksAsked_named named asked
        obtain ⟨j, member, onIt⟩ := network some
        rw [← beside n i named given j member onIt]
        exact onIt
      | none =>
        rw [Env.networksAsked, named, given] at asked
        obtain ⟨j, member, onIt⟩ := network (by rw [← Option.some.inj asked]; simp)
        rw [← Option.some.inj asked, Option.toList_some, List.mem_singleton] at member
        rw [← member]
        exact onIt

/-- Every port that is returned satisfies every filter that is given, iff no port that Neutron
    lists is on another network of the name, where one is given by identifier too, and no other
    project than the caller's is given where not all are listed. -/
theorem listPorts_satisfies_iff (env : Env) (conf : Conf) (lib : Lib) (profile : Profile) (query : PortQuery)
    (w : World Call Content) (entries : List PortEntry)
    (returned : ((listPortsHandler conf lib profile query).run env.backend.serve w).1 = .ok entries) :
    (∀ e ∈ entries, Satisfies w.state query (.of e.port)) ↔
    ∀ port ∈ env.portsListed w.state profile query,
      NoneBeside env w.state profile query (.of port) ∧ OwnOrAll profile query := by
  refine forall_mem_iff (listPorts_returned returned) fun port member e made => ?_
  obtain ⟨made, parsed, same⟩ := made
  rw [same, parsePort_of parsed, portsListed_satisfies_iff member]

/-! ### Two networks of one name -/

/-- Two networks that are called alike, each with a port. -/
def alike : Content where
  extension := twoTenants
  networks := ⟨[⟨"net-a", "lan", "a", false⟩, ⟨"net-b", "lan", "a", true⟩], by decide⟩
  ports := [
    [("id", .str "port-a"), ("network_id", .str "net-a"), ("project_id", .str "a")],
    [("id", .str "port-b"), ("network_id", .str "net-b"), ("project_id", .str "a")]]

/-- Services that answer every call with all that matches. -/
def unrestricted : Env where
  delivery _ _ := .answered
  answer content
    | .other c => answering.answer content.extension c
    | .listNetworks _ opts => content.networks.rows.filter opts.matches
    | .listPorts _ opts => content.ports.filter fun p => opts.matches (.of p)
  listNetworks := List.mem_filter.mp
  listPorts listed := (List.mem_filter.mp listed).2

def lenient : Lib := ⟨inOrder, fun text => text == "0.0", fun _ => true⟩

/-- The first of the networks is asked for, by its name and its identifier. -/
def lanQuery : PortQuery := { networkName := some "lan", networkId := some "net-a" }

def lanEntries : List PortEntry :=
  match ((listPortsHandler defaultRoles lenient alice lanQuery).run unrestricted.backend.serve ⟨alike, []⟩).1 with
  | .ok entries => entries
  | .error _ => []

theorem alike_satisfies_iff : (∀ e ∈ lanEntries, Satisfies alike lanQuery (.of e.port)) ↔
    ∀ port ∈ unrestricted.portsListed alike alice lanQuery,
      NoneBeside unrestricted alike alice lanQuery (.of port) ∧ OwnOrAll alice lanQuery :=
  listPorts_satisfies_iff unrestricted defaultRoles lenient alice lanQuery ⟨alike, []⟩ lanEntries rfl

/-- A port of the other network is listed as well. -/
theorem other_network_listed : ¬ ∀ (env : Env) (conf : Conf) (lib : Lib) (profile : Profile) (query : PortQuery)
    (w : World Call Content) (entries : List PortEntry),
      ((listPortsHandler conf lib profile query).run env.backend.serve w).1 = .ok entries →
      ∀ e ∈ entries, Satisfies w.state query (.of e.port) := by
  intro always
  have all := always unrestricted defaultRoles lenient alice lanQuery ⟨alike, []⟩ lanEntries rfl
  obtain ⟨e, second⟩ : ∃ e, lanEntries[1]? = some e := ⟨_, rfl⟩
  have elsewhere : (Columns.of e.port).networkId = some "net-b" := by
    cases second
    rfl
  have asked := (all e (List.mem_of_getElem? second)).network "net-a" rfl
  rw [elsewhere] at asked
  revert asked
  decide

end Skyline.Ports
