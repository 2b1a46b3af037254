import Skyline.ServerListing

/-!
The recycle bin beside the listing of servers. Its handler completes the servers in the same
way, but turns each into a model first. The model requires a field that only the handler
itself fills in, after the model was made, so that no server ever becomes one, and a
recycle bin that is not empty is not listed.
-/
namespace Skyline.Extension
open Skyline.Effects Skyline.Programs Skyline.Python Skyline.Raising Skyline.Tables Skyline.Services
open Skyline.Session (Profile)
open Skyline.Cloud (KeystoneSession ownSession)

variable {env : Env} {content : Content} {conf : Conf} {lib : Lib} {profile : Profile}

/-! ## What the recycle bin comes to -/

def recyclePage (query : RecycleQuery) : Page := ⟨query.limit, query.marker, query.sortKeys ++ query.sortDirs.toList⟩

/-- The servers that Nova answers the query with; it is not asked where the name of the project
    leads to none. -/
def Env.serversRecycled (env : Env) (content : Content) (profile : Profile) (query : RecycleQuery) : List Server :=
  let allProjects := query.allProjects.getD false
  match env.chosenProject content profile allProjects (if allProjects then query.projectId else none)
    (if allProjects then query.projectName else none) with
  | none => []
  | some projectId =>
    env.answer content (.listServers .system (recycleOpts profile query allProjects projectId) (recyclePage query))

/-- The last step: the projects are named where all of them are listed. -/
def nameRecycled (projects : List Project) (allProjects : Bool) (server : RecycleServer) : RecycleServer :=
  if allProjects then
    { server with projectName := dictGet (projects.map fun p => (p.id, p.name)) server.projectId }
  else server

/-- What the handler makes of one of the servers of a page. -/
def Env.recycleEntry (env : Env) (content : Content) (conf : Conf) (lib : Lib) (allProjects : Bool)
    (servers : List Server) (server : Server) : Except Exn RecycleServer := do
  let parsed ← parseRecycleServer lib server
  let completed ← enrichRecycleServer conf lib allProjects (env.imagesById content (imageIds servers))
    (env.volumesById content (lib.listOfSet (servers.flatMap (·.volumesAttached)))) parsed
  return nameRecycled content.projects.rows allProjects completed

theorem forall₂_comp {α β γ : Type} {R : α → β → Prop} {S : β → γ → Prop} {xs : List α} {zs : List γ} :
    (∃ ys, List.Forall₂ R xs ys ∧ List.Forall₂ S ys zs) ↔ List.Forall₂ (fun x z => ∃ y, R x y ∧ S y z) xs zs := by
  constructor
  · rintro ⟨ys, first, second⟩
    induction first generalizing zs with
    | nil =>
      cases second
      exact .nil
    | cons related _ ih =>
      cases second with
      | cons next rest => exact .cons ⟨_, related, next⟩ (ih rest)
  · intro both
    induction both with
    | nil => exact ⟨[], .nil, .nil⟩
    | cons related _ ih =>
      obtain ⟨y, first, second⟩ := related
      obtain ⟨ys, firsts, seconds⟩ := ih
      exact ⟨y :: ys, .cons first firsts, .cons second seconds⟩

/-- What is done to the servers one step after the other is done to each. -/
theorem recycleEntries_iff {allProjects : Bool} {servers page : List Server} {entries : List RecycleServer} :
    (∃ parsed, servers.mapM (parseRecycleServer lib) = .ok parsed ∧ ∃ completed,
      parsed.mapM (enrichRecycleServer conf lib allProjects (env.imagesById content (imageIds page))
        (env.volumesById content (lib.listOfSet (page.flatMap (·.volumesAttached))))) = .ok completed ∧
      completed.map (nameRecycled content.projects.rows allProjects) = entries) ↔
    List.Forall₂ (fun s e => env.recycleEntry content conf lib allProjects page s = .ok e) servers entries := by
  simp only [Env.recycleEntry, bind_ok_iff, ← forall₂_comp, mapM_ok]
  refine exists_congr fun parsed => and_congr_right fun _ => exists_congr fun completed => and_congr_right fun _ => ?_
  rw [← List.forall₂_eq_eq_eq, List.forall₂_map_left_iff]
  refine ⟨fun named => named.imp fun c e same => congrArg Except.ok same, fun named => named.imp fun c e same => ?_⟩
  exact Except.ok.inj same

/-- The handler returns an entry for each server, if it makes one of each. -/
theorem listRecycleServers_eval (query : RecycleQuery) {entries : List RecycleServer}
    (allowed : query.allProjects.getD false = true → isSystemAdminOrReader conf profile = true) :
    (listRecycleServers conf lib profile query).eval (env.reply content) = .ok entries ↔
      List.Forall₂ (fun s e => env.recycleEntry content conf lib (query.allProjects.getD false)
        (env.serversRecycled content profile query) s = .ok e) (env.serversRecycled content profile query) entries := by
  have session : (generateSession profile).eval (env.reply content) = .ok (ownSession profile) := rfl
  rw [listRecycleServers, Program.eval_bind_ok (gate_eval allowed _), Program.eval_bind_ok session,
    Program.eval_bind_ok (recycleProject_eval _ _ _ _), Env.serversRecycled, ← recycleEntries_iff]
  dsimp only
  generalize env.chosenProject content profile _ _ _ = project
  cases project with
  | none =>
    constructor
    · intro came
      exact ⟨[], rfl, [], rfl, Except.ok.inj came⟩
    · rintro ⟨_, parsed, _, completed, named⟩
      cases parsed
      cases completed
      exact congrArg Except.ok named
  | some projectId =>
    have listed : (listServers .system (recycleOpts profile query (query.allProjects.getD false) projectId)
      (recyclePage query)).eval (env.reply content) = .ok (env.answer content (.listServers .system
        (recycleOpts profile query (query.allProjects.getD false) projectId) (recyclePage query))) := rfl
    dsimp only
    rw [← recyclePage, Program.eval_bind_ok listed, Program.eval_bind, bind_ok_iff]
    refine exists_congr fun parsed => and_congr_right fun _ => ?_
    rw [Program.eval_bind_ok (imagesById_eval _), Program.eval_bind_ok (volumesById_eval _), Program.eval_bind, bind_ok_iff]
    refine exists_congr fun completed => and_congr_right fun _ => ?_
    rw [Program.eval_ite]
    cases query.allProjects.getD false with
    | true =>
      rw [if_pos rfl, Program.eval_bind_ok directory_eval]
      exact ⟨Except.ok.inj, congrArg Except.ok⟩
    | false =>
      rw [if_neg Bool.false_ne_true]
      refine ⟨fun came => ?_, fun named => ?_⟩
      · rw [← Except.ok.inj came]
        exact List.map_id _
      · rw [← named]
        exact congrArg Except.ok (List.map_id _).symm

theorem listRecycleServers_passesOn (conf : Conf) (lib : Lib) (profile : Profile) (query : RecycleQuery) :
    (listRecycleServers conf lib profile query).PassesOn := by
  refine .bind (gate_passesOn _ _ _ _) fun _ => .bind (generateSession_passesOn _) fun session => ?_
  refine .bind (recycleProject_passesOn _ _ _ _) fun project => ?_
  cases project with
  | none => exact .pure _
  | some projectId =>
    refine .bind (.remote _) fun servers => .bind (.done _) fun parsed => ?_
    refine .bind (.gather fun ids => .remote _) fun images => ?_
    refine .bind (.gather fun ids => .bind (.remote _) fun volumes => .pure _) fun volumes => ?_
    exact .bind (.done _) fun completed => .ite (.bind (.remote _) fun projects => .pure _) (.pure _)

/-- The entries that a run returns are those of the servers. -/
theorem listRecycleServers_returned {query : RecycleQuery} {w : World Call Content} (here : Holds content w)
    (allowed : query.allProjects.getD false = true → isSystemAdminOrReader conf profile = true)
    {entries : List RecycleServer}
    (returned : ((listRecycleServers conf lib profile query).run env.backend.serve w).1 = .ok entries) :
    List.Forall₂ (fun s e => env.recycleEntry content conf lib (query.allProjects.getD false)
      (env.serversRecycled content profile query) s = .ok e) (env.serversRecycled content profile query) entries :=
  (listRecycleServers_eval query allowed).mp
    (eval_of_run (listRecycleServers_passesOn conf lib profile query) here returned)

/-! ## The entries -/

theorem parseRecycleServer_ok {s : Server} {e : RecycleServer} (parsed : parseRecycleServer lib s = .ok e) :
    lib.acceptsRecycleServer s = true ∧ e.id = .uuid s.id ∧ e.projectId = s.tenantId ∧ e.updatedAt = s.updated := by
  unfold parseRecycleServer at parsed
  split at parsed
  · next accepted =>
    cases parsed
    exact ⟨accepted, rfl, rfl, rfl⟩
  · cases parsed

theorem enrichRecycleServer_ok {allProjects : Bool} {images : List Image} {volumes : List Volume}
    {s e : RecycleServer} (enriched : enrichRecycleServer conf lib allProjects images volumes s = .ok e) :
    (∃ updated, lib.timestamp (orElse s.updatedAt "") = .ok updated) ∧ e.id = s.id ∧ e.projectId = s.projectId := by
  refine ⟨?_, ?_, enrich_projectId enriched⟩
  · obtain ⟨updated, dated, -⟩ := bind_ok_iff.mp enriched
    exact ⟨updated, dated⟩
  · obtain ⟨updated, dated, came⟩ := bind_ok_iff.mp enriched
    dsimp only at came
    split at came
    · cases came
      rfl
    · split at came
      · cases came
        rfl
      · cases came
        rfl
    · cases came
      rfl

/-- With all projects listed, an entry has the name of its project if Keystone knows it. -/
theorem recycleEntry_named {servers : List Server} {s : Server} {e : RecycleServer}
    (made : env.recycleEntry content conf lib true servers s = .ok e) :
    e.id = .uuid s.id ∧ e.projectName = (content.projects.find s.tenantId).map (·.name) := by
  obtain ⟨parsed, made, rest⟩ := bind_ok_iff.mp made
  obtain ⟨completed, enriched, same⟩ := bind_ok_iff.mp rest
  obtain ⟨-, id, project, -⟩ := parseRecycleServer_ok made
  obtain ⟨-, kept, still⟩ := enrichRecycleServer_ok enriched
  cases same
  rw [nameRecycled, if_pos rfl, dictGet_rows]
  exact ⟨kept.trans id, by rw [still, project]⟩

/-- The recycle bin of all projects names the project of every server, or gives none for it. -/
theorem listRecycleServers_named {query : RecycleQuery} {w : World Call Content} (here : Holds content w)
    (all : query.allProjects = some true) (allowed : isSystemAdminOrReader conf profile = true)
    {entries : List RecycleServer}
    (returned : ((listRecycleServers conf lib profile query).run env.backend.serve w).1 = .ok entries) :
    List.Forall₂ (fun s e => e.id = .uuid s.id ∧ e.projectName = (content.projects.find s.tenantId).map (·.name))
      (env.serversRecycled content profile query) entries := by
  have made := listRecycleServers_returned here (fun _ => allowed) returned
  rw [all] at made
  exact made.imp fun s e => recycleEntry_named

/-- The dictionaries have strings for keys, and a model has `UUID` objects: none is found. -/
theorem dictGet_uuid {ν : Type} {entries : List (Key × ν)} (strings : ∀ entry ∈ entries, ∃ s, entry.1 = .str s)
    (i : String) : dictGet entries (.uuid i) = none := by
  rw [dictGet_none]
  intro entry member same
  obtain ⟨s, is⟩ := strings entry member
  rw [is] at same
  cases same

theorem serImageMappings_uuid (volumes : List Volume) (i : String) :
    dictGet (serImageMappings volumes) (some (.uuid i)) = none := by
  rw [dictGet_none]
  rintro entry member same
  obtain ⟨v, -, attached⟩ := List.mem_flatMap.mp member
  split at attached
  · obtain ⟨a, -, rfl⟩ := List.mem_map.mp attached
    cases given : a.serverId <;> rw [given] at same <;> cases same
  · cases attached

/-- Were an entry made, it would show the name and distribution of no image. -/
theorem recycleEntry_blind {allProjects : Bool} {servers : List Server} {s : Server} {e : RecycleServer}
    (made : env.recycleEntry content conf lib allProjects servers s = .ok e) :
    e.image = s.image.map .uuid ∧ e.imageName = s.image.map (fun _ => "") ∧
      e.imageOsDistro = s.image.map fun _ => "" := by
  obtain ⟨parsed, made, rest⟩ := bind_ok_iff.mp made
  obtain ⟨completed, enriched, same⟩ := bind_ok_iff.mp rest
  have shown : parsed.id = .uuid s.id ∧ parsed.image = s.image.map .uuid := by
    unfold parseRecycleServer at made
    split at made
    · cases made
      exact ⟨rfl, rfl⟩
    · cases made
  obtain ⟨updated, -, came⟩ := bind_ok_iff.mp enriched
  dsimp only at came
  rw [shown.1, shown.2, serImageMappings_uuid] at came
  have result : completed.image = s.image.map .uuid ∧ completed.imageName = s.image.map (fun _ => "") ∧
      completed.imageOsDistro = s.image.map fun _ => "" := by
    cases given : s.image with
    | none =>
      rw [given] at came
      cases came
      exact ⟨rfl, rfl, rfl⟩
    | some i =>
      rw [given, Option.map_some] at came
      dsimp only at came
      rw [dictGet_uuid] at came
      · cases came
        exact ⟨rfl, rfl, rfl⟩
      · intro entry member
        obtain ⟨image, -, rfl⟩ := List.mem_map.mp member
        exact ⟨_, rfl⟩
  cases same
  unfold nameRecycled
  split
  · exact result
  · exact result

/-! ## No entry is ever made -/

/-- The fields of `RecycleServersResponseBase`, and whether each is required: one that has no
    default is, also where it may be null. -/
def recycleFields : List (String × Bool) := [
  ("id", true), ("origin_data", true), ("project_name", false), ("image", false), ("image_name", false),
  ("image_os_distro", false), ("fixed_addresses", false), ("floating_addresses", false), ("deleted_at", false),
  ("updated_at", false), ("reclaim_timestamp", true), ("name", true), ("project_id", true), ("host", true),
  ("hostname", true), ("flavor", true), ("flavor_info", true), ("status", true)]

/-- The keys of `Server(server).to_dict()` and the one that the handler adds. -/
def serverKeys : List String := [
  "id", "name", "project_id", "project_name", "host", "hostname", "image", "image_name", "image_os_distro",
  "fixed_addresses", "floating_addresses", "flavor", "flavor_info", "status", "locked", "created_at", "updated_at",
  "task_state", "vm_state", "power_state", "volumes_attached", "root_device_name", "metadata", "origin_data"]

/-- Pydantic rejects a model when a required field is absent. -/
def RejectsAbsent (lib : Lib) : Prop := ∀ s, lib.acceptsRecycleServer s = true →
  ∀ field, (field, true) ∈ recycleFields → field ∈ serverKeys

/-- The field that the handler fills in later is required of what it makes the model of. -/
theorem RejectsAbsent.rejects (rejects : RejectsAbsent lib) (s : Server) : lib.acceptsRecycleServer s = false := by
  have required : ("reclaim_timestamp", true) ∈ recycleFields := by decide
  have absent : "reclaim_timestamp" ∉ serverKeys := by decide
  exact Bool.eq_false_iff.mpr fun accepted => absent (rejects s accepted _ required)

def Key.text : Key → String
  | .str s | .uuid s => s

/-- An entry of the recycle bin is that of a server and shows the image that the listing of
    servers shows. -/
structure ShowsSame (listed : ServerEntry) (recycled : RecycleServer) : Prop where
  id : recycled.id.text = listed.id
  image : recycled.image.map Key.text = listed.image
  imageName : recycled.imageName = listed.imageName
  imageOsDistro : recycled.imageOsDistro = listed.imageOsDistro

/-- A recycle bin that is not empty is never listed as the servers are. -/
theorem recycled_never_agree (env : Env) (content : Content) (conf : Conf) (lib : Lib) (profile : Profile)
    (query : RecycleQuery) (w : World Call Content) (rejects : RejectsAbsent lib) (here : Holds content w)
    (allowed : query.allProjects.getD false = true → isSystemAdminOrReader conf profile = true)
    (some : env.serversRecycled content profile query ≠ []) :
    ¬ ∃ entries, ((listRecycleServers conf lib profile query).run env.backend.serve w).1 = .ok entries ∧
      List.Forall₂ ShowsSame (env.serverEntries content lib (query.allProjects.getD false)
        (env.serversRecycled content profile query)) entries := by
  rintro ⟨entries, returned, -⟩
  have made := listRecycleServers_returned here allowed returned
  obtain ⟨s, others, listed⟩ := List.exists_cons_of_ne_nil some
  rw [listed] at made
  obtain ⟨e, -, first, -⟩ := List.forall₂_cons_left_iff.mp made
  obtain ⟨parsed, accepted, -⟩ := bind_ok_iff.mp first
  have never := (parseRecycleServer_ok accepted).1
  rw [rejects.rejects s] at never
  cases never

/-! ### One server in the bin -/

/-- Pydantic, as far as the presence of fields goes. -/
def checking : Lib where
  __ := inOrder
  acceptsRecycleServer _ := recycleFields.all fun field => !field.2 || serverKeys.contains field.1

def binned : Content where
  servers := ⟨[⟨"6f1c2e64-9d0b-4c1e-8a57-3b1f0a9d7e21", "web", "a", none,
    some "c0ffee00-1d2e-4f3a-9b4c-5d6e7f8a9b0c", [], some "2024-01-01T00:00:00Z"⟩], List.nodup_singleton _⟩
  volumes := Table.empty
  snapshots := Table.empty
  images := ⟨[⟨"c0ffee00-1d2e-4f3a-9b4c-5d6e7f8a9b0c", "debian", some "debian"⟩], List.nodup_singleton _⟩
  projects := hersOnly

theorem checking_rejects : RejectsAbsent checking := by
  intro s accepted
  have never : checking.acceptsRecycleServer s = false := rfl
  rw [never] at accepted
  cases accepted

theorem binned_never_agrees : ¬ ∃ entries,
    ((listRecycleServers defaultRoles checking alice {}).run answering.backend.serve ⟨binned, []⟩).1 = .ok entries ∧
      List.Forall₂ ShowsSame (answering.serverEntries binned checking false (answering.serversRecycled binned alice {}))
        entries :=
  recycled_never_agree answering binned defaultRoles checking alice {} ⟨binned, []⟩ checking_rejects rfl (by decide)
    (by decide)

/-- One server in the bin is enough for no listing. -/
theorem binned_fails : ¬ ∀ (env : Env) (content : Content) (conf : Conf) (lib : Lib) (profile : Profile)
    (query : RecycleQuery) (w : World Call Content), Answers env → RejectsAbsent lib → Holds content w →
      (query.allProjects.getD false = true → isSystemAdminOrReader conf profile = true) →
      env.serversRecycled content profile query ≠ [] →
      ∃ entries, ((listRecycleServers conf lib profile query).run env.backend.serve w).1 = .ok entries ∧
        List.Forall₂ ShowsSame (env.serverEntries content lib (query.allProjects.getD false)
          (env.serversRecycled content profile query)) entries := by
  intro always
  obtain ⟨entries, listed, -⟩ := always answering binned defaultRoles checking alice {} ⟨binned, []⟩ (fun _ _ => rfl)
    checking_rejects rfl (by decide) (by decide)
  have failed : ((listRecycleServers defaultRoles checking alice {}).run answering.backend.serve ⟨binned, []⟩).1 =
    .error (.valueError "validation error for RecycleServersResponseBase") := rfl
  rw [failed] at listed
  cases listed

end Skyline.Extension
