import Mathlib.Data.List.Induction
import Skyline.Enrichment

/-!
The listing of servers, and the names of their projects. The handler chooses its servers as
the recycle bin does, but with the caller's own session, and completes them in the same way
but for one step: it takes the name of a server's project out of Keystone's directory with a
subscript, where the recycle bin asks for it with a default. So one server whose project
Keystone does not know is enough for no server to be listed, as is one whose identifier or
image is no UUID, which the response does not accept.
-/
namespace Skyline.Extension
open Skyline.Effects Skyline.Programs Skyline.Python Skyline.Raising Skyline.Tables Skyline.Services
open Skyline.Session (Profile)
open Skyline.Cloud (KeystoneSession ownSession)

/-! ## The handler -/

structure ServerQuery where
  limit : Option Nat := none
  marker : Option String := none
  sortDirs : Option String := none
  sortKeys : List String := []
  allProjects : Option Bool := none
  projectId : Option String := none
  projectName : Option String := none
  name : Option String := none
  status : Option String := none
  host : Option String := none
  flavorId : Option String := none
  uuid : Option String := none
  ip : Option String := none

structure ServerEntry where
  id : String
  projectId : String
  projectName : Option String
  host : Option String
  image : Option String
  imageName : Option String
  imageOsDistro : Option String
  deriving DecidableEq, Repr

/-- The filters that are sent to Nova: novaclient does not send an empty one. -/
def serverOpts (query : ServerQuery) (allProjects : Bool) (projectId : Option String) : ServerOpts where
  name := query.name.filter truthy
  status := query.status.filter truthy
  host := query.host.filter truthy
  flavor := query.flavorId.filter truthy
  projectId := projectId.filter truthy
  allTenants := allProjects
  uuid := query.uuid.filter truthy
  ip := query.ip.filter truthy

def serverPage (query : ServerQuery) : Page := ⟨query.limit, query.marker, query.sortKeys ++ query.sortDirs.toList⟩

def enrichServer (allProjects : Bool) (images : List Image) (volumes : List Volume) (server : Server) : ServerEntry :=
  let entry : ServerEntry := {
    id := server.id
    projectId := server.tenantId
    projectName := none
    host := if allProjects then server.host else none
    image := server.image
    imageName := none
    imageOsDistro := none }
  match dictGet (serImageMappings volumes) (some (.str server.id)) with
  | some metadata =>
    { entry with image := metadata.imageId, imageName := metadata.imageName, imageOsDistro := metadata.osDistro }
  | none =>
    match server.image.filter truthy with
    | some image =>
      match dictGet (images.map fun i => (i.id, i)) image with
      | some info => { entry with imageName := some info.name, imageOsDistro := info.osDistro }
      | none => { entry with imageName := some "", imageOsDistro := some "" }
    | none => entry

/-- `server["project_name"] = project_id_name_map[server["project_id"]]`. -/
def nameProject (projects : List Project) (server : ServerEntry) : Except Exn ServerEntry := do
  let name ← getitem (dictGet (projects.map fun p => (p.id, p.name)) server.projectId) server.projectId
  return { server with projectName := some name }

/-- `schemas.ServersResponse`: of what Nova and the wrapper give, only the identifiers of a server
    and of its image may be refused. -/
def serversResponse (lib : Lib) (result : List ServerEntry) : Except Exn (List ServerEntry) :=
  respond "ServersResponse" (fun e => lib.uuid4 e.id && e.image.all lib.uuid4) result

/-- `list_servers`; the two listings of servers choose the project to filter by alike. -/
def listServersHandler (conf : Conf) (lib : Lib) (profile : Profile) (query : ServerQuery) :
    Remote (List ServerEntry) := do
  let allProjects := query.allProjects.getD false
  gate conf profile allProjects "Not allowed to get servers for all projects."
  let currentSession ← generateSession profile
  let project ← recycleProject profile allProjects (if allProjects then query.projectId else none)
    (if allProjects then query.projectName else none)
  match project with
  | none => Program.done (serversResponse lib [])
  | some projectId =>
    let servers ← listServers currentSession (serverOpts query allProjects projectId) (serverPage query)
    let images ← Program.gather (batches (lib.listOfSet ((servers.filterMap (·.image)).filter truthy)))
      fun ids => listImages .system ids
    let volumes ← Program.gather (batches (lib.listOfSet (servers.flatMap (·.volumesAttached)))) fun ids => do
      let (volumes, _) ← listVolumes .system { allTenants := true, id := ids } {}
      return volumes
    let result := servers.map (enrichServer allProjects images volumes)
    if allProjects then
      let projects ← listProjects profile currentSession true none
      let result ← Program.done (result.mapM (nameProject projects))
      Program.done (serversResponse lib result)
    else Program.done (serversResponse lib result)

variable {env : Env} {content : Content} {conf : Conf} {lib : Lib} {profile : Profile}

/-! ## What the listings of servers come to -/

/-- The project that is filtered by, as `recycleProject` finds it in Keystone's directory. -/
def Env.chosenProject (env : Env) (content : Content) (profile : Profile) (allProjects : Bool)
    (projectId projectName : Option String) : Option (Option String) :=
  if truthy? projectName then
    match env.answer content (.listProjects .system (if allProjects then none else some profile.user.id) projectName) with
    | [] => none
    | filterProject :: _ =>
      if truthy? projectId && projectId != some filterProject.id then none else some (some filterProject.id)
  else some projectId

theorem recycleProject_eval (profile : Profile) (allProjects : Bool) (projectId projectName : Option String) :
    (recycleProject profile allProjects projectId projectName).eval (env.reply content) =
      .ok (env.chosenProject content profile allProjects projectId projectName) := by
  have found : (listProjects profile .system allProjects projectName).eval (env.reply content) = .ok (env.answer content
    (.listProjects .system (if allProjects then none else some profile.user.id) projectName)) := rfl
  rw [recycleProject, Program.eval_ite, Env.chosenProject]
  split
  · rw [Program.eval_bind_ok found]
    generalize env.answer content (.listProjects _ _ _) = filterProjects
    cases filterProjects with
    | nil => rfl
    | cons filterProject others => rfl
  · rfl

/-- The servers that Nova answers a query with; it is not asked where the name of the project
    leads to none. -/
def Env.serversListed (env : Env) (content : Content) (profile : Profile) (query : ServerQuery) : List Server :=
  let allProjects := query.allProjects.getD false
  match env.chosenProject content profile allProjects (if allProjects then query.projectId else none)
    (if allProjects then query.projectName else none) with
  | none => []
  | some projectId =>
    env.answer content (.listServers (ownSession profile) (serverOpts query allProjects projectId) (serverPage query))

/-- What is put in the entries of a page, the names of projects apart. -/
def Env.serverEntries (env : Env) (content : Content) (lib : Lib) (allProjects : Bool) (servers : List Server) :
    List ServerEntry :=
  servers.map (enrichServer allProjects
    (env.imagesById content (lib.listOfSet ((servers.filterMap (·.image)).filter truthy)))
    (env.volumesById content (lib.listOfSet (servers.flatMap (·.volumesAttached)))))

/-- Keystone has all the projects listed for the names of those the servers are of. -/
theorem directory_eval : (listProjects profile (ownSession profile) true none).eval (env.reply content) =
    .ok content.projects.rows := by
  show Except.ok (env.answer content (.listProjects (ownSession profile) none none)) = _
  simp [env.listProjects]

theorem listServers_eval (query : ServerQuery)
    (allowed : query.allProjects.getD false = true → isSystemAdminOrReader conf profile = true) :
    (listServersHandler conf lib profile query).eval (env.reply content) =
      if query.allProjects.getD false then
        (env.serverEntries content lib true (env.serversListed content profile query)).mapM
          (nameProject content.projects.rows) >>= serversResponse lib
      else serversResponse lib (env.serverEntries content lib false (env.serversListed content profile query)) := by
  have session : (generateSession profile).eval (env.reply content) = .ok (ownSession profile) := rfl
  rw [listServersHandler, Program.eval_bind_ok (gate_eval allowed _), Program.eval_bind_ok session,
    Program.eval_bind_ok (recycleProject_eval _ _ _ _), Env.serversListed]
  dsimp only
  generalize env.chosenProject content profile _ _ _ = project
  cases project with
  | none =>
    cases query.allProjects.getD false with
    | true => rfl
    | false => rfl
  | some projectId =>
    have listed : (listServers (ownSession profile) (serverOpts query (query.allProjects.getD false) projectId)
      (serverPage query)).eval (env.reply content) = .ok (env.answer content (.listServers (ownSession profile)
        (serverOpts query (query.allProjects.getD false) projectId) (serverPage query))) := rfl
    dsimp only
    rw [Program.eval_bind_ok listed, Program.eval_bind_ok (imagesById_eval _), Program.eval_bind_ok (volumesById_eval _),
      Program.eval_ite]
    cases query.allProjects.getD false with
    | true =>
      rw [if_pos rfl, if_pos rfl, Program.eval_bind_ok directory_eval, Program.eval_bind]
      rfl
    | false => rfl

/-! ## What is put down for a server -/

/-- The image of the last volume that has one and is attached to a server. -/
def lastRecorded (volumes : List Volume) (serverId : String) : Option ImageMetadata :=
  (volumes.reverse.find? fun v => v.volumeImageMetadata.isSome && v.attachments.any (·.serverId == some serverId)).bind
    (·.volumeImageMetadata)

/-- What a volume puts down for a server. -/
theorem recorded_by (v : Volume) (serverId : String) : dictGet (serImageMappings [v]) (some (.str serverId)) =
    if v.attachments.any (·.serverId == some serverId) then v.volumeImageMetadata else none := by
  rw [serImageMappings, List.flatMap_singleton]
  cases v.volumeImageMetadata with
  | none =>
    rw [ite_self]
    rfl
  | some m =>
    dsimp only
    split
    · next attached =>
      obtain ⟨a, member, same⟩ := List.any_eq_true.mp attached
      refine dictGet_unique (List.mem_map.mpr ⟨a, member, by rw [eq_of_beq same, Option.map_some]⟩) ?_
      rintro _ listed -
      obtain ⟨b, -, rfl⟩ := List.mem_map.mp listed
      rfl
    · next apart =>
      rw [dictGet_none]
      rintro _ listed same
      obtain ⟨a, member, rfl⟩ := List.mem_map.mp listed
      obtain ⟨i, given, ⟨⟩⟩ := Option.map_eq_some_iff.mp same
      exact apart (List.any_eq_true.mpr ⟨a, member, by rw [given, beq_self_eq_true]⟩)

theorem dictGet_serImageMappings (volumes : List Volume) (serverId : String) :
    dictGet (serImageMappings volumes) (some (.str serverId)) = lastRecorded volumes serverId := by
  induction volumes using List.reverseRecOn with
  | nil => rfl
  | append_singleton volumes v ih =>
    have split : serImageMappings (volumes ++ [v]) = serImageMappings volumes ++ serImageMappings [v] := List.flatMap_append
    rw [split, dictGet_append, ih, recorded_by, lastRecorded, lastRecorded, List.reverse_concat, List.find?_cons]
    cases recorded : v.volumeImageMetadata with
    | none => simp
    | some m =>
      cases v.attachments.any (·.serverId == some serverId) with
      | true => simp [recorded]
      | false => simp

/-- The image that an entry shows: what is put down for its server comes before its own. -/
def shownImage (volumes : List Volume) (s : Server) : Option String :=
  match lastRecorded volumes s.id with
  | some m => m.imageId
  | none => s.image

theorem enrichServer_image (allProjects : Bool) (images : List Image) (volumes : List Volume) (s : Server) :
    (enrichServer allProjects images volumes s).image = shownImage volumes s := by
  rw [enrichServer, dictGet_serImageMappings, shownImage]
  cases lastRecorded volumes s.id with
  | some m => rfl
  | none =>
    dsimp only
    split
    · split <;> rfl
    · rfl

/-! ## The names of projects -/

/-- An entry is that of a server, and names its project if Keystone knows it. -/
structure NamesProject (content : Content) (s : Server) (e : ServerEntry) : Prop where
  id : e.id = s.id
  project : e.projectId = s.tenantId
  name : e.projectName = (content.projects.find s.tenantId).map (·.name)

@[simp] theorem enrichServer_id (allProjects : Bool) (images : List Image) (volumes : List Volume) (s : Server) :
    (enrichServer allProjects images volumes s).id = s.id := by
  unfold enrichServer
  dsimp only
  split
  · rfl
  · split
    · split <;> rfl
    · rfl

@[simp] theorem enrichServer_projectId (allProjects : Bool) (images : List Image) (volumes : List Volume) (s : Server) :
    (enrichServer allProjects images volumes s).projectId = s.tenantId := by
  unfold enrichServer
  dsimp only
  split
  · rfl
  · split
    · split <;> rfl
    · rfl

theorem nameProject_ok {e named : ServerEntry} : nameProject content.projects.rows e = .ok named ↔
    ∃ p ∈ content.projects, p.id = e.projectId ∧ named = { e with projectName := some p.name } := by
  rw [nameProject, dictGet_rows]
  cases found : content.projects.find e.projectId with
  | none =>
    refine iff_of_false (fun came => by cases came) ?_
    rintro ⟨p, member, same, -⟩
    exact Table.find_eq_none.mp found p member same
  | some p =>
    obtain ⟨member, same⟩ := Table.find_eq_some.mp found
    constructor
    · intro came
      exact ⟨p, member, same, (Except.ok.inj came).symm⟩
    · rintro ⟨q, there, named, rfl⟩
      rw [Table.eq_of_key there member (named.trans same.symm)]
      rfl

section
variable {images : List Image} {volumes : List Volume} {servers : List Server}

/-- The page can be made of the servers: Keystone knows the project of each, and the response
    takes its identifier and that of the image that it is shown with. -/
structure Answerable (content : Content) (lib : Lib) (volumes : List Volume) (s : Server) : Prop where
  project : ∃ p ∈ content.projects, p.id = s.tenantId
  id : lib.uuid4 s.id = true
  image : ∀ i, shownImage volumes s = some i → lib.uuid4 i = true

theorem serversResponse_ok {result entries : List ServerEntry} : serversResponse lib result = .ok entries ↔
    (∀ e ∈ result, lib.uuid4 e.id = true ∧ ∀ i, e.image = some i → lib.uuid4 i = true) ∧ entries = result := by
  simp only [serversResponse, respond_ok, Bool.and_eq_true, Option.all_eq_true]

/-- The response takes what is made of a server whose project is known. -/
theorem named_taken_iff {s : Server} {e : ServerEntry}
    (named : nameProject content.projects.rows (enrichServer true images volumes s) = .ok e) :
    (lib.uuid4 e.id = true ∧ ∀ i, e.image = some i → lib.uuid4 i = true) ↔ Answerable content lib volumes s := by
  obtain ⟨p, member, same, rfl⟩ := nameProject_ok.mp named
  rw [enrichServer_projectId] at same
  dsimp only
  rw [enrichServer_id, enrichServer_image]
  exact ⟨fun taken => ⟨⟨p, member, same⟩, taken.1, taken.2⟩, fun answerable => ⟨answerable.id, answerable.image⟩⟩

theorem nameProjects_ok {entries : List ServerEntry} :
    (servers.map (enrichServer true images volumes)).mapM (nameProject content.projects.rows) >>= serversResponse lib =
      .ok entries ↔
    (∀ s ∈ servers, Answerable content lib volumes s) ∧ List.Forall₂
      (fun s e => nameProject content.projects.rows (enrichServer true images volumes s) = .ok e) servers entries := by
  simp only [bind_ok_iff, serversResponse_ok, mapM_ok, List.forall₂_map_left_iff]
  constructor
  · rintro ⟨_, named, taken, rfl⟩
    exact ⟨(forall_mem_iff named fun _ _ _ => named_taken_iff).mp taken, named⟩
  · rintro ⟨answerable, named⟩
    exact ⟨entries, named, (forall_mem_iff named fun _ _ _ => named_taken_iff).mpr answerable, rfl⟩

/-- All servers are listed, or none is. -/
theorem nameProjects_iff : (∃ entries, (servers.map (enrichServer true images volumes)).mapM
      (nameProject content.projects.rows) >>= serversResponse lib = .ok entries) ↔
    ∀ s ∈ servers, Answerable content lib volumes s := by
  simp only [nameProjects_ok, exists_and_left, exists_forall₂, and_iff_left_iff_imp]
  intro answerable s member
  obtain ⟨p, known, same⟩ := (answerable s member).project
  exact ⟨_, nameProject_ok.mpr ⟨p, known, same.trans (enrichServer_projectId true images volumes s).symm, rfl⟩⟩

theorem nameProjects_names {entries : List ServerEntry} (named : (servers.map (enrichServer true images volumes)).mapM
    (nameProject content.projects.rows) >>= serversResponse lib = .ok entries) :
    List.Forall₂ (NamesProject content) servers entries := by
  refine (nameProjects_ok.mp named).2.imp fun s e given => ?_
  obtain ⟨p, member, same, rfl⟩ := nameProject_ok.mp given
  rw [enrichServer_projectId] at same
  refine ⟨enrichServer_id true images volumes s, enrichServer_projectId true images volumes s, ?_⟩
  rw [Table.find_eq_some.mpr ⟨member, same⟩]
  rfl

end

/-- The volumes that the images of a page are taken from. -/
def Env.volumesOf (env : Env) (content : Content) (lib : Lib) (servers : List Server) : List Volume :=
  env.volumesById content (lib.listOfSet (servers.flatMap (·.volumesAttached)))

/-- The listing of all projects answers with an entry for each server that Nova lists, in its
    order and with the name of its project, iff Keystone knows the project of each of them, and
    each has a UUID, as has the image that it is shown with. -/
theorem listServers_named_iff (env : Env) (content : Content) (conf : Conf) (lib : Lib) (profile : Profile)
    (query : ServerQuery) (w : World Call Content) (answers : Answers env) (here : Holds content w)
    (all : query.allProjects = some true) (allowed : isSystemAdminOrReader conf profile = true) :
    (∃ entries, ((listServersHandler conf lib profile query).run env.backend.serve w).1 = .ok entries ∧
      List.Forall₂ (NamesProject content) (env.serversListed content profile query) entries) ↔
    ∀ s ∈ env.serversListed content profile query,
      Answerable content lib (env.volumesOf content lib (env.serversListed content profile query)) s := by
  rw [run_answered answers _ here, listServers_eval query fun _ => allowed, all, Option.getD_some, if_pos rfl,
    Env.serverEntries, Env.volumesOf, ← nameProjects_iff]
  constructor
  · rintro ⟨entries, named, -⟩
    exact ⟨entries, named⟩
  · rintro ⟨entries, named⟩
    exact ⟨entries, named, nameProjects_names named⟩

/-! ### A server whose project was deleted -/

def administrator : Profile := { alice with roles := [⟨"2", "admin"⟩] }

/-- Two servers, the project of one of which is gone. -/
def orphaned : Content where
  servers := ⟨[⟨vmA, "web", "a", none, none, [], none⟩, ⟨vmB, "old", "c", none, none, [], none⟩], by decide⟩
  volumes := Table.empty
  snapshots := Table.empty
  images := Table.empty
  projects := ⟨[⟨"a", "alpha"⟩, ⟨"b", "gamma"⟩], by decide⟩

/-- Services that let the session of an administrator list all tenants. -/
def trusting : Env := documented { systemOnly with administrative := fun _ => true }

theorem orphaned_named_iff :
    (∃ entries, ((listServersHandler defaultRoles inOrder administrator { allProjects := some true }).run
        trusting.backend.serve ⟨orphaned, []⟩).1 = .ok entries ∧
      List.Forall₂ (NamesProject orphaned) (trusting.serversListed orphaned administrator { allProjects := some true })
        entries) ↔
    ∀ s ∈ trusting.serversListed orphaned administrator { allProjects := some true }, Answerable orphaned inOrder
      (trusting.volumesOf orphaned inOrder
        (trusting.serversListed orphaned administrator { allProjects := some true })) s :=
  listServers_named_iff trusting orphaned defaultRoles inOrder administrator { allProjects := some true }
    ⟨orphaned, []⟩ (fun _ _ => rfl) rfl rfl (by decide)

/-- One orphaned server fails the listing of all. -/
theorem orphan_fails_listing : ¬ ∀ (env : Env) (content : Content) (conf : Conf) (lib : Lib) (profile : Profile)
    (query : ServerQuery) (w : World Call Content), Answers env → Holds content w → query.allProjects = some true →
      isSystemAdminOrReader conf profile = true →
      ∃ entries, ((listServersHandler conf lib profile query).run env.backend.serve w).1 = .ok entries ∧
        List.Forall₂ (NamesProject content) (env.serversListed content profile query) entries := by
  intro always
  obtain ⟨entries, listed, -⟩ := always trusting orphaned defaultRoles inOrder administrator { allProjects := some true }
    ⟨orphaned, []⟩ (fun _ _ => rfl) rfl rfl (by decide)
  have failed : ((listServersHandler defaultRoles inOrder administrator { allProjects := some true }).run
    trusting.backend.serve ⟨orphaned, []⟩).1 = .error (.keyError "c") := rfl
  rw [failed] at listed
  cases listed

end Skyline.Extension
