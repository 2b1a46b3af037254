import Skyline.Cloud
import Skyline.Services
import Skyline.Session

/-!
The listings of `api/v1/extension.py` that use the system session: the recycle bin, the
volumes and the volume snapshots. Each handler chooses a session and puts together the
filters of one listing, and completes what comes back with the results of other listings,
which it asks for in batches of identifiers. The order in which Python goes through a set,
the parser of dates, and what Pydantic accepts are parameters.
-/
namespace Skyline.Extension
open Skyline.Effects Skyline.Programs Skyline.Python Skyline.Tables Skyline.Services
open Skyline.Session (Profile)
open Skyline.Cloud (KeystoneSession ownSession)

/-! ## Resources -/

structure Server where
  id : String
  name : String
  tenantId : String
  host : Option String
  image : Option String
  /-- The identifiers of `os-extended-volumes:volumes_attached`. -/
  volumesAttached : List String
  updated : Option String
  deriving DecidableEq, Repr

structure ImageMetadata where
  imageId : Option String
  imageName : Option String
  osDistro : Option String
  deriving DecidableEq, Repr

structure Attachment where
  serverId : Option String
  serverName : Option String
  deriving DecidableEq, Repr

structure Volume where
  id : String
  name : String
  tenantId : String
  host : Option String
  snapshotId : Option String
  attachments : List Attachment
  volumeImageMetadata : Option ImageMetadata
  deriving DecidableEq, Repr

structure VolumeSnapshot where
  id : String
  name : String
  projectId : String
  volumeId : String
  deriving DecidableEq, Repr

structure Image where
  id : String
  name : String
  osDistro : Option String
  deriving DecidableEq, Repr

structure Project where
  id : String
  name : String
  deriving DecidableEq, Repr

/-- What the services hold. -/
structure Content where
  servers : Table Server Server.id
  volumes : Table Volume Volume.id
  snapshots : Table VolumeSnapshot VolumeSnapshot.id
  images : Table Image Image.id
  projects : Table Project Project.id

/-! ## Calls -/

structure ServerOpts where
  status : Option String := none
  deleted : Bool := false
  allTenants : Bool
  name : Option String := none
  host : Option String := none
  flavor : Option String := none
  projectId : Option String := none
  uuid : Option String := none
  ip : Option String := none
  deriving DecidableEq, Repr

structure VolumeOpts where
  name : Option String := none
  multiattach : Option String := none
  status : Option String := none
  allTenants : Bool
  projectId : Option String := none
  bootable : Option String := none
  id : List String := []
  snapshotId : List String := []
  deriving DecidableEq, Repr

structure SnapshotOpts where
  name : Option String
  status : Option String
  volumeId : Option String
  allTenants : Bool
  projectId : Option String
  id : Option String
  deriving DecidableEq, Repr

/-- Which part of a listing is asked for, and in which order. -/
structure Page where
  limit : Option Nat := none
  marker : Option String := none
  sort : List String := []
  deriving DecidableEq, Repr

inductive Call
  | generateSession (keystoneToken projectId : String)
  /-- Without `allProjects` only those of the user are listed. -/
  | listProjects (session : KeystoneSession) (userId : Option String) (name : Option String)
  | listServers (session : KeystoneSession) (opts : ServerOpts) (page : Page)
  | listVolumes (session : KeystoneSession) (opts : VolumeOpts) (page : Page)
  | listVolumeSnapshots (session : KeystoneSession) (opts : SnapshotOpts) (page : Page)
  | getVolumeSnapshot (session : KeystoneSession) (snapshotId : String)
  | listImages (session : KeystoneSession) (ids : List String)
  deriving DecidableEq, Repr

/-- The listings of Cinder come with the number of all that match; `getVolumeSnapshot`
    gives `none` for `NotFound`. -/
abbrev Answer : Call → Type
  | .generateSession _ _ => Unit
  | .listProjects _ _ _ => List Project
  | .listServers _ _ _ => List Server
  | .listVolumes _ _ _ => List Volume × Nat
  | .listVolumeSnapshots _ _ _ => List VolumeSnapshot × Nat
  | .getVolumeSnapshot _ _ => Option VolumeSnapshot
  | .listImages _ _ => List Image

abbrev Remote : Type → Type := Program Answer Exn

def generateSession (profile : Profile) : Remote KeystoneSession := do
  let _ ← (Program.remote (Call.generateSession profile.keystoneToken profile.project.id) : Remote Unit)
  return .user profile.keystoneToken profile.project.id

def listProjects (profile : Profile) (session : KeystoneSession) (allProjects : Bool) (name : Option String) :
    Remote (List Project) :=
  Program.remote (Call.listProjects session (if allProjects then none else some profile.user.id) name)

def listServers (session : KeystoneSession) (opts : ServerOpts) (page : Page) : Remote (List Server) :=
  Program.remote (Call.listServers session opts page)

def listVolumes (session : KeystoneSession) (opts : VolumeOpts) (page : Page) : Remote (List Volume × Nat) :=
  Program.remote (Call.listVolumes session opts page)

def listVolumeSnapshots (session : KeystoneSession) (opts : SnapshotOpts) (page : Page) :
    Remote (List VolumeSnapshot × Nat) :=
  Program.remote (Call.listVolumeSnapshots session opts page)

def getVolumeSnapshot (session : KeystoneSession) (snapshotId : String) : Remote (Option VolumeSnapshot) :=
  Program.remote (Call.getVolumeSnapshot session snapshotId)

def listImages (session : KeystoneSession) (ids : List String) : Remote (List Image) :=
  Program.remote (Call.listImages session ids)

/-! ## Roles -/

structure Conf where
  systemAdminRoles : List String
  systemReaderRoles : List String
  reclaimInstanceInterval : Int

def isSystemAdmin (conf : Conf) (profile : Profile) : Bool :=
  profile.roles.any (fun r => conf.systemAdminRoles.contains r.name)

def isSystemReaderNoAdmin (conf : Conf) (profile : Profile) : Bool :=
  profile.roles.any (fun r => conf.systemReaderRoles.contains r.name) && !isSystemAdmin conf profile

def isSystemAdminOrReader (conf : Conf) (profile : Profile) : Bool :=
  profile.roles.any (fun r => (conf.systemAdminRoles ++ conf.systemReaderRoles).contains r.name)

def assertSystemAdminOrReader (conf : Conf) (profile : Profile) (exception : String) : Remote Unit :=
  if isSystemAdminOrReader conf profile then pure () else Program.raise (.httpException 403 exception)

/-- What every listing begins with: only some roles may list all projects. -/
def gate (conf : Conf) (profile : Profile) (allProjects : Bool) (exception : String) : Remote Unit :=
  if allProjects then assertSystemAdminOrReader conf profile exception else pure ()

/-! ## Batches -/

/-- `constants.ID_UUID_RANGE_STEP`. -/
def step : Nat := 100

/-- `ids[i : i + STEP] for i in range(0, len(ids), STEP)`. -/
def batches {α : Type} (ids : List α) : List (List α) :=
  (List.range ((ids.length + step - 1) / step)).map fun k => (ids.drop (k * step)).take step

/-- `d.get(key)`, of a dictionary that was built by the assignments in order. -/
def dictGet {κ ν : Type} [BEq κ] (entries : List (κ × ν)) (key : κ) : Option ν := entries.reverse.lookup key

/-- What the handlers take from Python and its libraries. -/
structure Lib where
  /-- `list(set(xs))`, in the order in which the set is gone through. -/
  listOfSet : List String → List String
  listOfSet_perm : ∀ xs, (listOfSet xs).Perm xs.dedup
  /-- `parser.isoparse(s).timestamp()`. -/
  timestamp : String → Except Exn Int
  /-- Whether `RecycleServersResponseBase.parse_obj` accepts what the wrapper gives for a server. -/
  acceptsRecycleServer : Server → Bool
  /-- Whether Pydantic's `UUID4` accepts a string. -/
  uuid4 : String → Bool

/-- The closing `schemas.*Response(**{...: result})` of a listing. What it accepts it writes as
    it was given: the services write identifiers as `UUID` does. -/
def respond {α : Type} (response : String) (accepts : α → Bool) (result : List α) : Except Exn (List α) :=
  if result.all accepts then .ok result else .error (.valueError ("validation error for " ++ response))

/-! ## The recycle bin -/

structure RecycleQuery where
  limit : Option Nat := none
  marker : Option String := none
  sortDirs : Option String := none
  sortKeys : List String := []
  allProjects : Option Bool := none
  projectId : Option String := none
  projectName : Option String := none
  name : Option String := none
  uuid : Option String := none
  ip : Option String := none

/-- A string, or a `UUID` object, which is not equal to the string it was made from. -/
inductive Key
  | str (s : String)
  | uuid (s : String)
  deriving DecidableEq, Repr

structure RecycleServer where
  id : Key
  projectId : String
  projectName : Option String
  host : Option String
  image : Option Key
  imageName : Option String
  imageOsDistro : Option String
  updatedAt : Option String
  deletedAt : Option String
  reclaimTimestamp : Option Int
  deriving DecidableEq, Repr

/-- `RecycleServersResponseBase.parse_obj`, which turns identifiers into `UUID` objects. -/
def parseRecycleServer (lib : Lib) (server : Server) : Except Exn RecycleServer :=
  if lib.acceptsRecycleServer server then
    .ok {
      id := .uuid server.id
      projectId := server.tenantId
      projectName := none
      host := server.host
      image := server.image.map .uuid
      imageName := none
      imageOsDistro := none
      updatedAt := server.updated
      deletedAt := none
      reclaimTimestamp := none }
  else .error (.valueError "validation error for RecycleServersResponseBase")

/-- The project to filter by; `none` where the listing is known to be empty. -/
def recycleProject (profile : Profile) (allProjects : Bool) (projectId projectName : Option String) :
    Remote (Option (Option String)) :=
  if truthy? projectName then do
    let filterProjects ← listProjects profile .system allProjects projectName
    match filterProjects with
    | [] => return none
    | filterProject :: _ =>
      return if truthy? projectId && projectId != some filterProject.id then none else some (some filterProject.id)
  else pure (some projectId)

def recycleOpts (profile : Profile) (query : RecycleQuery) (allProjects : Bool) (projectId : Option String) : ServerOpts where
  status := some "soft_deleted"
  deleted := true
  allTenants := true
  name := query.name
  -- novaclient does not send an empty option
  projectId := if allProjects then projectId.filter truthy else some profile.project.id
  uuid := query.uuid
  ip := query.ip

/-- The truthy images of servers, each once. -/
def imageIds (servers : List Server) : List String :=
  (servers.filterMap fun s => s.image).foldl (fun ids i => if truthy i && !ids.contains i then ids ++ [i] else ids) []

/-- The image that the volumes of each server were made from. -/
def serImageMappings (volumes : List Volume) : List (Option Key × ImageMetadata) :=
  volumes.flatMap fun v =>
    match v.volumeImageMetadata with
    | some metadata => v.attachments.map fun a => (a.serverId.map .str, metadata)
    | none => []

def enrichRecycleServer (conf : Conf) (lib : Lib) (allProjects : Bool) (images : List Image) (volumes : List Volume)
    (server : RecycleServer) : Except Exn RecycleServer := do
  let updated ← lib.timestamp (orElse server.updatedAt "")
  let completed := { server with
    host := if allProjects then server.host else none
    projectName := none
    deletedAt := server.updatedAt
    reclaimTimestamp := some (updated + conf.reclaimInstanceInterval) }
  match dictGet (serImageMappings volumes) (some server.id), server.image with
  | some metadata, _ =>
    return { completed with
      image := metadata.imageId.map .str
      imageName := metadata.imageName
      imageOsDistro := metadata.osDistro }
  | none, some image =>
    match dictGet (images.map fun i => (Key.str i.id, i)) image with
    | some info => return { completed with imageName := some info.name, imageOsDistro := info.osDistro }
    | none => return { completed with imageName := some "", imageOsDistro := some "" }
  | none, none => return { completed with imageName := none, imageOsDistro := none }

def listRecycleServers (conf : Conf) (lib : Lib) (profile : Profile) (query : RecycleQuery) :
    Remote (List RecycleServer) := do
  let allProjects := query.allProjects.getD false
  gate conf profile allProjects "Not allowed to get recycle servers for all projects."
  let currentSession ← generateSession profile
  let project ← recycleProject profile allProjects (if allProjects then query.projectId else none)
    (if allProjects then query.projectName else none)
  match project with
  | none => return []
  | some projectId =>
    let servers ← listServers .system (recycleOpts profile query allProjects projectId)
      ⟨query.limit, query.marker, query.sortKeys ++ query.sortDirs.toList⟩
    let result ← Program.done (servers.mapM (parseRecycleServer lib))
    let images ← Program.gather (batches (imageIds servers)) fun ids => listImages .system ids
    let volumes ← Program.gather (batches (lib.listOfSet (servers.flatMap fun s => s.volumesAttached))) fun ids => do
      let (volumes, _) ← listVolumes .system { allTenants := true, id := ids } {}
      return volumes
    let result ← Program.done (result.mapM (enrichRecycleServer conf lib allProjects images volumes))
    if allProjects then
      let projects ← listProjects profile currentSession true none
      return result.map fun s => { s with projectName := dictGet (projects.map fun p => (p.id, p.name)) s.projectId }
    else return result

/-! ## Volumes -/

structure VolumeQuery where
  limit : Option Nat := none
  marker : Option String := none
  sortDirs : Option String := none
  sortKeys : List String := []
  allProjects : Option Bool := none
  projectId : Option String := none
  name : Option String := none
  multiattach : Option Bool := none
  status : Option String := none
  bootable : Option Bool := none
  uuid : List String := []

/-- `f"{sort_key}:{sort_dirs}"` for each key, where there are directions. -/
def sortBy (sortKeys : List String) (sortDirs : Option String) : List String :=
  match sortDirs with
  | some dirs => if truthy dirs then sortKeys.map fun key => key ++ ":" ++ dirs else sortKeys
  | none => sortKeys

def boolStr (b : Bool) : String := if b then "True" else "False"

def volumeOpts (profile : Profile) (query : VolumeQuery) (allProjects : Bool) : VolumeOpts where
  name := query.name
  multiattach := query.multiattach.map boolStr
  status := query.status
  allTenants := allProjects || !query.uuid.isEmpty
  projectId :=
    if allProjects then query.projectId
    else if query.uuid.isEmpty then none
    else some profile.project.id
  bootable := query.bootable.map boolStr
  id := query.uuid

/-- The session that lists the volumes. -/
def volumeSession (conf : Conf) (profile : Profile) (query : VolumeQuery) (allProjects : Bool)
    (currentSession : KeystoneSession) : KeystoneSession :=
  if !query.uuid.isEmpty || allProjects && isSystemReaderNoAdmin conf profile then .system else currentSession

/-- Names the servers that a volume is attached to. -/
def nameServers (servers : List Server) (volume : Volume) : Volume :=
  { volume with attachments := volume.attachments.map fun a =>
      if truthy? a.serverId then
        { a with serverName := a.serverId.bind (dictGet (servers.map fun s => (s.id, s.name))) }
      else a }

/-- `schemas.VolumesResponse`: of what Cinder and the wrapper give, only the identifier of a
    volume may be refused. -/
def volumesResponse (lib : Lib) (result : List Volume) : Except Exn (List Volume) :=
  respond "VolumesResponse" (fun v => lib.uuid4 v.id) result

def listVolumesHandler (conf : Conf) (lib : Lib) (profile : Profile) (query : VolumeQuery) :
    Remote (List Volume × Nat) := do
  let allProjects := query.allProjects.getD false
  let currentSession ← generateSession profile
  gate conf profile allProjects "Not allowed to get volumes for all projects."
  let (volumes, count) ← listVolumes (volumeSession conf profile query allProjects currentSession)
    (volumeOpts profile query allProjects) ⟨query.limit, query.marker, sortBy query.sortKeys query.sortDirs⟩
  let serverIds := lib.listOfSet ((volumes.flatMap fun v => v.attachments.filterMap (·.serverId)).filter truthy)
  let normalServers ← Program.gather serverIds fun serverId =>
    listServers currentSession { uuid := some serverId, allTenants := allProjects } {}
  let softDeletedServers ← Program.gather serverIds fun serverId =>
    listServers currentSession
      { uuid := some serverId, status := some "soft_deleted", deleted := true, allTenants := allProjects } {}
  let result := volumes.map (nameServers (normalServers ++ softDeletedServers))
  let volumes ← Program.done (volumesResponse lib result)
  return (volumes, count)

/-! ## Volume snapshots -/

structure SnapshotQuery where
  limit : Option Nat := none
  marker : Option String := none
  sortDirs : Option String := none
  sortKeys : List String := []
  allProjects : Option Bool := none
  projectId : Option String := none
  name : Option String := none
  status : Option String := none
  volumeId : Option String := none
  uuid : Option String := none

structure SnapshotEntry where
  snapshot : VolumeSnapshot
  projectName : Option String
  volumeName : Option String
  host : Option String
  childVolumes : List (String × String)
  deriving DecidableEq, Repr

def snapshotOpts (query : SnapshotQuery) (allProjects : Bool) : SnapshotOpts where
  name := query.name
  status := query.status
  volumeId := query.volumeId
  allTenants := allProjects || truthy? query.uuid
  projectId := if allProjects then query.projectId else none
  id := query.uuid

/-- Whether the snapshot that is asked for may be listed: it has to be in the project of
    the caller, unless all projects are listed. -/
def snapshotAllowed (profile : Profile) (allProjects : Bool) (uuid : String) (currentSession : KeystoneSession) :
    Remote Bool :=
  if allProjects then pure true
  else do
    let volumeSnapshot ← getVolumeSnapshot currentSession uuid
    match volumeSnapshot with
    | none => return false
    | some s => return s.projectId == profile.project.id

def enrichSnapshot (allProjects : Bool) (projects : List Project) (volumes fromSnapshots : List Volume)
    (s : VolumeSnapshot) : SnapshotEntry where
  snapshot := s
  projectName := dictGet (projects.map fun p => (p.id, p.name)) s.projectId
  volumeName := (dictGet (volumes.map fun v => (v.id, v)) s.volumeId).map (·.name)
  host := if allProjects then (dictGet (volumes.map fun v => (v.id, v)) s.volumeId).bind (·.host) else none
  childVolumes := (fromSnapshots.filter fun v => v.snapshotId == some s.id).map fun v => (v.id, v.name)

def listSnapshots (lib : Lib) (profile : Profile) (query : SnapshotQuery) (allProjects : Bool)
    (currentSession snapshotSession : KeystoneSession) : Remote (List SnapshotEntry × Nat) := do
  let (snapshots, count) ← listVolumeSnapshots snapshotSession (snapshotOpts query allProjects)
    ⟨query.limit, query.marker, sortBy query.sortKeys query.sortDirs⟩
  let projects ← if allProjects then listProjects profile currentSession allProjects none else pure []
  let volumes ← Program.gather (batches (lib.listOfSet (snapshots.map (·.volumeId)))) fun ids => do
    let (volumes, _) ← listVolumes .system { allTenants := true, id := ids } {}
    return volumes
  let fromSnapshots ← Program.gather (batches (snapshots.map (·.id))) fun ids => do
    let (volumes, _) ← listVolumes .system { allTenants := true, snapshotId := ids } {}
    return volumes
  return (snapshots.map (enrichSnapshot allProjects projects volumes fromSnapshots), count)

def listVolumeSnapshotsHandler (conf : Conf) (lib : Lib) (profile : Profile) (query : SnapshotQuery) :
    Remote (List SnapshotEntry × Nat) := do
  let allProjects := query.allProjects.getD false
  gate conf profile allProjects "Not allowed to get volume snapshots for all projects."
  let currentSession ← generateSession profile
  match query.uuid with
  | some uuid =>
    if truthy uuid then
      let allowed ← snapshotAllowed profile allProjects uuid currentSession
      if allowed then listSnapshots lib profile query allProjects currentSession .system
      else return ([], 0)
    else listSnapshots lib profile query allProjects currentSession currentSession
  | none => listSnapshots lib profile query allProjects currentSession currentSession

/-! ## What Nova, Cinder and the other services answer -/

/-- The part of a sorted listing that a page asks for. -/
def Page.cut {α : Type} (p : Page) (id : α → String) (sorted : List α) : List α :=
  let rest := match p.marker with
    | none => sorted
    | some m => (sorted.dropWhile fun x => id x != m).tail
  match p.limit with
  | none => rest
  | some n => rest.take n

/-- The second list is a page of the first, in some order. -/
def Page.Of {α : Type} (p : Page) (id : α → String) (xs ys : List α) : Prop := ∃ sorted, sorted.Perm xs ∧ ys = p.cut id sorted

/-- What the services show to whom. -/
structure Visibility where
  systemProject : String
  /-- Whether Nova and Cinder let a session list all tenants. -/
  administrative : KeystoneSession → Bool
  /-- The filters by name, status and the like. -/
  matchesServer : ServerOpts → Server → Bool
  matchesVolume : VolumeOpts → Volume → Bool
  matchesSnapshot : SnapshotOpts → VolumeSnapshot → Bool
  isMember : String → Project → Bool

namespace Visibility
variable (sight : Visibility)

def projectOf : KeystoneSession → String
  | .system => sight.systemProject
  | .user _ projectId => projectId

/-- A listing is restricted to the project of its session, unless an administrative
    session asks for all tenants, and to the project that is given, if one is. -/
def shows (session : KeystoneSession) (allTenants : Bool) (projectId : Option String) (tenantId : String) : Bool :=
  (allTenants && sight.administrative session || tenantId == sight.projectOf session) && projectId.all (· == tenantId)

end Visibility

/-- An empty list of identifiers is no filter. -/
def among (ids : List String) (id : Option String) : Bool := ids.isEmpty || id.any ids.contains

namespace Visibility
variable (sight : Visibility)

/-- A session that is not administrative may not ask for what is deleted: the option is ignored. -/
def heeded (session : KeystoneSession) (opts : ServerOpts) : ServerOpts :=
  { opts with deleted := opts.deleted && sight.administrative session }

def listedServers (content : Content) (session : KeystoneSession) (opts : ServerOpts) : List Server :=
  content.servers.rows.filter fun s =>
    sight.shows session opts.allTenants opts.projectId s.tenantId && opts.uuid.all (· == s.id) &&
      sight.matchesServer (sight.heeded session opts) s

def listed (content : Content) (session : KeystoneSession) (opts : VolumeOpts) : List Volume :=
  content.volumes.rows.filter fun v =>
    sight.shows session opts.allTenants opts.projectId v.tenantId && among opts.id (some v.id) &&
      among opts.snapshotId v.snapshotId && sight.matchesVolume opts v

def listedSnapshots (content : Content) (session : KeystoneSession) (opts : SnapshotOpts) : List VolumeSnapshot :=
  content.snapshots.rows.filter fun s =>
    sight.shows session opts.allTenants opts.projectId s.projectId && opts.id.all (· == s.id) &&
      sight.matchesSnapshot opts s

end Visibility

/-- What is relied on of the services: what they answer to a listing is a page of what they
    show, in an order of their own, and the count is of all that they show. -/
structure Env extends Visibility where
  delivery : Call → Nat → Delivery Exn
  answer : Content → (c : Call) → Answer c
  listProjects (content session userId name) : answer content (.listProjects session userId name) =
    content.projects.rows.filter fun p => userId.all (isMember · p) && name.all (· == p.name)
  listServers (content session opts) (page : Page) : page.Of Server.id (toVisibility.listedServers content session opts)
    (answer content (.listServers session opts page))
  listVolumes (content session opts) (page : Page) : page.Of Volume.id (toVisibility.listed content session opts)
    (answer content (.listVolumes session opts page)).1
  countVolumes (content session opts page) :
    (answer content (.listVolumes session opts page)).2 = (toVisibility.listed content session opts).length
  listVolumeSnapshots (content session opts) (page : Page) : page.Of VolumeSnapshot.id
    (toVisibility.listedSnapshots content session opts) (answer content (.listVolumeSnapshots session opts page)).1
  getVolumeSnapshot (content session snapshotId) : answer content (.getVolumeSnapshot session snapshotId) =
    (content.snapshots.find snapshotId).filter fun s =>
      toVisibility.administrative session || s.projectId == toVisibility.projectOf session
  listImages {content session ids} {i : Image} :
    i ∈ answer content (.listImages session ids) ↔ i ∈ content.images ∧ i.id ∈ ids

/-- All calls of the listings read. -/
def Env.backend (env : Env) : Backend Answer Exn Content where
  delivery := env.delivery
  perform _ content c := (.ok (env.answer content c), content)

/-- What the services answer that list in the order of their tables. -/
def Visibility.answer (sight : Visibility) (content : Content) : (c : Call) → Answer c
  | .generateSession _ _ => ()
  | .listProjects _ userId name =>
    content.projects.rows.filter fun p => userId.all (sight.isMember · p) && name.all (· == p.name)
  | .listServers session opts page => page.cut Server.id (sight.listedServers content session opts)
  | .listVolumes session opts page =>
    (page.cut Volume.id (sight.listed content session opts), (sight.listed content session opts).length)
  | .listVolumeSnapshots session opts page =>
    (page.cut VolumeSnapshot.id (sight.listedSnapshots content session opts),
      (sight.listedSnapshots content session opts).length)
  | .getVolumeSnapshot session snapshotId =>
    (content.snapshots.find snapshotId).filter fun s =>
      sight.administrative session || s.projectId == sight.projectOf session
  | .listImages _ ids => content.images.rows.filter fun i => ids.contains i.id

/-- Every call gets through to these services. -/
def documented (sight : Visibility) : Env where
  __ := sight
  delivery _ _ := .answered
  answer := sight.answer
  listProjects _ _ _ _ := rfl
  listServers _ _ _ _ := ⟨_, .refl _, rfl⟩
  listVolumes _ _ _ _ := ⟨_, .refl _, rfl⟩
  countVolumes _ _ _ _ := rfl
  listVolumeSnapshots _ _ _ _ := ⟨_, .refl _, rfl⟩
  getVolumeSnapshot _ _ _ := rfl
  listImages := by simp [Visibility.answer, Table.mem_rows]

end Skyline.Extension
