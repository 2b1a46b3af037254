import Skyline.Enrichment

/-!
The listing of volume snapshots loses and duplicates nothing. Each snapshot of the page gives
one entry, in the order of the page. The volumes that were created from the snapshots are
asked for in batches of the identifiers of the page, which are distinct, so that each of
these volumes comes back once; the sources of the snapshots are asked for in batches of a
set, and a source that comes back is the one that Cinder holds.
-/
namespace Skyline.Extension
open Skyline.Effects Skyline.Programs Skyline.Python Skyline.Tables Skyline.Services
open Skyline.Session (Profile)
open Skyline.Cloud (KeystoneSession ownSession)

variable {env : Env} {content : Content} {conf : Conf} {lib : Lib} {profile : Profile}

/-! ## What the page is and what completes it -/

/-- The snapshots that Cinder lists for a session. -/
def Env.snapshotList (env : Env) (content : Content) (query : SnapshotQuery) (session : KeystoneSession) :
    List VolumeSnapshot :=
  (env.answer content (.listVolumeSnapshots session (snapshotOpts query (query.allProjects.getD false))
    ⟨query.limit, query.marker, sortBy query.sortKeys query.sortDirs⟩)).1

/-- The page that Cinder answers with; none is asked for where the one snapshot that the
    query names is not the caller's. -/
def Env.snapshotPage (env : Env) (content : Content) (profile : Profile) (query : SnapshotQuery) : List VolumeSnapshot :=
  let own := ownSession profile
  match query.uuid.filter truthy with
  | none => env.snapshotList content query own
  | some uuid =>
    if query.allProjects.getD false ||
        (env.answer content (.getVolumeSnapshot own uuid)).any (·.projectId == profile.project.id) then
      env.snapshotList content query .system
    else []

/-- An entry is that of a snapshot, with each volume that was created from it once, and with
    the name of the volume that it was taken of. -/
structure Completes (content : Content) (s : VolumeSnapshot) (e : SnapshotEntry) : Prop where
  snapshot : e.snapshot = s
  children : e.childVolumes.Perm
    ((content.volumes.rows.filter fun v => v.snapshotId == some s.id).map fun v => (v.id, v.name))
  source : e.volumeName = (content.volumes.find s.volumeId).map (·.name)

/-! ## What the handler comes to -/

/-- The entries of a page. -/
def Env.snapshotEntries (env : Env) (content : Content) (lib : Lib) (allProjects : Bool) (projects : List Project)
    (snapshots : List VolumeSnapshot) : List SnapshotEntry :=
  snapshots.map (enrichSnapshot allProjects projects
    (env.volumesById content (lib.listOfSet (snapshots.map (·.volumeId))))
    (env.volumesBySnapshot content (snapshots.map (·.id))))

theorem listSnapshots_eval (profile : Profile) (query : SnapshotQuery) (currentSession session : KeystoneSession) :
    ∃ projects count, (listSnapshots lib profile query (query.allProjects.getD false) currentSession session).eval
      (env.reply content) = .ok (env.snapshotEntries content lib (query.allProjects.getD false) projects
        (env.snapshotList content query session), count) := by
  obtain ⟨count, listed⟩ : ∃ count, (listVolumeSnapshots session (snapshotOpts query (query.allProjects.getD false))
      ⟨query.limit, query.marker, sortBy query.sortKeys query.sortDirs⟩).eval (env.reply content) =
        .ok (env.snapshotList content query session, count) := ⟨_, rfl⟩
  obtain ⟨projects, known⟩ : ∃ projects, (listProjects profile currentSession (query.allProjects.getD false) none).eval
      (env.reply content) = .ok projects := ⟨_, rfl⟩
  rw [listSnapshots, Program.eval_bind_ok listed]
  dsimp only
  rw [Program.eval_ite]
  split
  · refine ⟨projects, count, ?_⟩
    rw [Program.eval_bind_ok known, Program.eval_bind_ok (volumesById_eval _),
      Program.eval_bind_ok (volumesBySnapshot_eval _)]
    rfl
  · refine ⟨[], count, ?_⟩
    rw [Program.eval_bind_ok (Program.eval_pure _ _), Program.eval_bind_ok (volumesById_eval _),
      Program.eval_bind_ok (volumesBySnapshot_eval _)]
    rfl

theorem snapshotAllowed_eval (allProjects : Bool) (uuid : String) (session : KeystoneSession) :
    (snapshotAllowed profile allProjects uuid session).eval (env.reply content) = .ok (allProjects ||
      (env.answer content (.getVolumeSnapshot session uuid)).any (·.projectId == profile.project.id)) := by
  rw [snapshotAllowed, Program.eval_ite]
  cases allProjects with
  | true => rfl
  | false =>
    have got : (getVolumeSnapshot session uuid).eval (env.reply content) =
      .ok (env.answer content (.getVolumeSnapshot session uuid)) := rfl
    rw [if_neg Bool.false_ne_true, Program.eval_bind_ok got]
    cases env.answer content (.getVolumeSnapshot session uuid) with
    | none => rfl
    | some s => rfl

variable (env content lib) in
/-- The handler comes to the entries of the page, unless the caller may not list at all. -/
theorem listVolumeSnapshots_eval (query : SnapshotQuery)
    (allowed : query.allProjects.getD false = true → isSystemAdminOrReader conf profile = true) :
    ∃ projects count, (listVolumeSnapshotsHandler conf lib profile query).eval (env.reply content) =
      .ok (env.snapshotEntries content lib (query.allProjects.getD false) projects
        (env.snapshotPage content profile query), count) := by
  have session : (generateSession profile).eval (env.reply content) =
    .ok (ownSession profile) := rfl
  rw [listVolumeSnapshotsHandler, Program.eval_bind_ok (gate_eval allowed _), Program.eval_bind_ok session, Env.snapshotPage]
  cases given : query.uuid with
  | none => exact listSnapshots_eval profile query _ _
  | some uuid =>
    dsimp only
    rw [Program.eval_ite, Option.filter_some]
    cases truthy uuid with
    | false => exact listSnapshots_eval profile query _ _
    | true =>
      rw [if_pos rfl, if_pos rfl, Program.eval_bind_ok (snapshotAllowed_eval _ _ _), Program.eval_ite]
      dsimp only
      split
      · exact listSnapshots_eval profile query _ _
      · exact ⟨[], 0, rfl⟩

/-! ## What the entries hold -/

theorem snapshotList_ids (query : SnapshotQuery) (session : KeystoneSession) :
    ((env.snapshotList content query session).map (·.id)).Nodup :=
  (env.listVolumeSnapshots content _ _ _).nodup (content.snapshots.unique.sublist (List.filter_sublist.map _))

theorem snapshotPage_ids (query : SnapshotQuery) : ((env.snapshotPage content profile query).map (·.id)).Nodup := by
  rw [Env.snapshotPage]
  split
  · exact snapshotList_ids query _
  · split
    · exact snapshotList_ids query _
    · exact List.nodup_nil

/-- What is put in an entry is what Cinder holds for its snapshot. -/
theorem snapshotEntries_complete (lists : CinderLists env) (allProjects : Bool) (projects : List Project)
    {snapshots : List VolumeSnapshot} (distinct : (snapshots.map (·.id)).Nodup) :
    List.Forall₂ (Completes content) snapshots (env.snapshotEntries content lib allProjects projects snapshots) := by
  rw [Env.snapshotEntries, List.forall₂_map_right_iff, List.forall₂_same]
  intro s member
  have asked : ∀ v ∈ content.volumes, v.id = s.volumeId →
      v ∈ env.volumesById content (lib.listOfSet (snapshots.map (·.volumeId))) := by
    intro v held named
    rw [lists.mem_volumesById, mem_listOfSet, named]
    exact ⟨held, List.mem_map_of_mem member⟩
  have source := dictGet_fetched (fun v => v) (fun v there => (lists.mem_volumesById.mp there).1) asked
  refine ⟨rfl, (lists.fromSnapshot_perm distinct (List.mem_map_of_mem member)).map _, ?_⟩
  rw [enrichSnapshot, source, Option.map_id']

/-- The listing has one entry for each snapshot of Cinder's page, in its order, with every
    volume that was created from the snapshot once and the name of its source. -/
theorem listVolumeSnapshots_complete (env : Env) (content : Content) (conf : Conf) (lib : Lib) (profile : Profile)
    (query : SnapshotQuery) (w : World Call Content) (answers : Answers env) (lists : CinderLists env)
    (here : Holds content w)
    (allowed : query.allProjects.getD false = true → isSystemAdminOrReader conf profile = true) :
    ∃ entries count, ((listVolumeSnapshotsHandler conf lib profile query).run env.backend.serve w).1 =
      .ok (entries, count) ∧ List.Forall₂ (Completes content) (env.snapshotPage content profile query) entries := by
  obtain ⟨projects, count, came⟩ := listVolumeSnapshots_eval env content lib query allowed
  refine ⟨_, count, (run_answered answers _ here).trans came, ?_⟩
  exact snapshotEntries_complete lists _ projects (snapshotPage_ids query)

/-! ### A page of two snapshots, one of which was restored twice -/

def restored : Content where
  servers := Table.empty
  volumes := ⟨[⟨"vol-a", "disk", "a", none, none, [], none⟩, ⟨"vol-b", "copy", "a", none, some "snap-a", [], none⟩,
    ⟨"vol-c", "copy", "a", none, some "snap-a", [], none⟩], by decide⟩
  snapshots := ⟨[⟨"snap-a", "daily", "a", "vol-a"⟩, ⟨"snap-b", "daily", "a", "vol-lost"⟩], by decide⟩
  images := Table.empty
  projects := hersOnly

theorem restored_listed : ∃ entries count,
    ((listVolumeSnapshotsHandler defaultRoles inOrder alice {}).run answering.backend.serve ⟨restored, []⟩).1 =
      .ok (entries, count) ∧ List.Forall₂ (Completes restored) (answering.snapshotPage restored alice {}) entries :=
  listVolumeSnapshots_complete answering restored defaultRoles inOrder alice {} ⟨restored, []⟩ (fun _ _ => rfl)
    ⟨rfl, fun _ _ => rfl, fun _ _ => rfl⟩ rfl (by decide)

end Skyline.Extension
