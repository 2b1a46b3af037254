import Skyline.Extension
import Skyline.Raising

/-!
Listings made with the system session stay in the project of the caller. The system session
sees every project, so it is the filters of a handler that keep a listing inside one: a
caller without an administrator's or reader's role never lists all projects, and each
handler either lists with the caller's own session or filters by the caller's project. The
snapshots are the exception. They are listed by identifier alone, after the snapshot of that
identifier was found in the caller's project.
-/
namespace Skyline.Extension
open Skyline.Effects Skyline.Programs Skyline.Python Skyline.Raising Skyline.Tables Skyline.Services
open Skyline.Session (Profile)
open Skyline.Cloud (KeystoneSession ownSession)

variable {env : Env} {content : Content} {conf : Conf} {lib : Lib} {profile : Profile}

/-! ## What listings show -/

/-- A page is a part of the listing that it is of, in its order. -/
theorem Page.cut_sublist {α : Type} (p : Page) (id : α → String) (sorted : List α) : (p.cut id sorted).Sublist sorted := by
  have later (m : String) : (sorted.dropWhile fun x => id x != m).tail.Sublist sorted :=
    (List.tail_sublist _).trans (List.dropWhile_sublist _)
  rw [Page.cut]
  cases p.marker <;> cases p.limit
  · exact .refl _
  · exact List.take_sublist _ _
  · exact later _
  · exact (List.take_sublist _ _).trans (later _)

theorem Page.Of.subset {α : Type} {p : Page} {id : α → String} {xs ys : List α} (page : p.Of id xs ys) : ys ⊆ xs := by
  obtain ⟨sorted, perm, rfl⟩ := page
  exact fun x member => perm.subset ((p.cut_sublist id sorted).subset member)

theorem shows_filtered {session : KeystoneSession} {allTenants : Bool} {projectId tenantId : String}
    (shown : env.shows session allTenants (some projectId) tenantId = true) : tenantId = projectId := by
  simp only [Visibility.shows, Option.all_some, Bool.and_eq_true, beq_iff_eq] at shown
  exact shown.2.symm

theorem shows_own {session : KeystoneSession} {projectId : Option String} {tenantId : String}
    (shown : env.shows session false projectId tenantId = true) : tenantId = env.projectOf session := by
  simp only [Visibility.shows, Bool.false_and, Bool.false_or, Bool.and_eq_true, beq_iff_eq] at shown
  exact shown.1

theorem heeded_administrative {session : KeystoneSession} (admin : env.administrative session = true) (opts : ServerOpts) :
    env.heeded session opts = opts := by
  rw [Visibility.heeded, admin, Bool.and_true]

/-! ## Reading -/

/-- What a listing that is asked for returns. -/
theorem remote_ensures (c : Call) :
    (Program.remote c : Remote (Answer c)).Ensures env.backend.serve (Holds content) (· = env.answer content c) :=
  Backend.remote_answers (env.answer · c) fun _ _ => rfl

theorem reads_ensure {α : Type} (m : Remote α) : m.Ensures env.backend.serve (Holds content) fun _ => True :=
  Backend.reads_ensure m.uses_any fun _ _ _ => rfl

theorem gate_ensures (noRole : isSystemAdminOrReader conf profile = false) (allProjects : Bool) (exception : String) :
    (gate conf profile allProjects exception).Ensures env.backend.serve (Holds content) fun _ => allProjects = false := by
  refine .ite (fun _ => ?_) fun own => .pure (Bool.eq_false_iff.mpr own)
  rw [assertSystemAdminOrReader, if_neg (by simp [noRole])]
  exact .raise

/-- The session of a profile acts for the project of the profile. -/
theorem generateSession_ensures : (generateSession profile).Ensures env.backend.serve (Holds content)
    (· = ownSession profile) :=
  .bind (reads_ensure _) fun _ _ => .pure rfl

/-- What a response is made of is in it, if Pydantic accepts all of it. -/
theorem respond_ok {α : Type} {response : String} {accepts : α → Bool} {result entries : List α} :
    respond response accepts result = .ok entries ↔ (∀ e ∈ result, accepts e = true) ∧ entries = result := by
  rw [← List.all_eq_true, respond]
  split
  · next all => exact ⟨fun responded => ⟨all, (Except.ok.inj responded).symm⟩, fun same => congrArg Except.ok same.2.symm⟩
  · next some => exact iff_of_false (fun responded => by cases responded) fun accepted => some accepted.1

/-! ## The recycle bin -/

theorem parse_projectId {server : Server} {entry : RecycleServer} (parsed : parseRecycleServer lib server = .ok entry) :
    entry.projectId = server.tenantId := by
  unfold parseRecycleServer at parsed
  split at parsed
  · cases parsed
    rfl
  · cases parsed

theorem enrich_projectId {allProjects : Bool} {images : List Image} {volumes : List Volume}
    {server entry : RecycleServer} (enriched : enrichRecycleServer conf lib allProjects images volumes server = .ok entry) :
    entry.projectId = server.projectId := by
  unfold enrichRecycleServer at enriched
  cases dated : lib.timestamp (orElse server.updatedAt "") with
  | error e =>
    rw [dated] at enriched
    cases enriched
  | ok updated =>
    rw [dated] at enriched
    dsimp only [bind, Except.bind] at enriched
    split at enriched
    · cases enriched
      rfl
    · split at enriched
      · cases enriched
        rfl
      · cases enriched
        rfl
    · cases enriched
      rfl

theorem listRecycleServers_isolated (noRole : isSystemAdminOrReader conf profile = false) (query : RecycleQuery) :
    (listRecycleServers conf lib profile query).Ensures env.backend.serve (Holds content)
      fun entries => ∀ e ∈ entries, e.projectId = profile.project.id := by
  refine .bind (gate_ensures noRole _ _) fun _ own => ?_
  refine .bind (reads_ensure _) fun currentSession _ => ?_
  refine .bind (reads_ensure _) fun project _ => ?_
  cases project with
  | none => exact .pure (by simp)
  | some projectId =>
    refine .bind (remote_ensures _) fun servers listed => ?_
    have home : ∀ s ∈ servers, s.tenantId = profile.project.id := by
      rintro s member
      rw [listed] at member
      have shown := (List.mem_filter.mp ((env.listServers content _ _ _).subset member)).2
      simp only [Bool.and_eq_true, recycleOpts, own] at shown
      exact shows_filtered shown.1.1
    refine .bind (.done fun result parsed => parsed) fun result parsed => ?_
    refine .bind (reads_ensure _) fun images _ => ?_
    refine .bind (reads_ensure _) fun volumes _ => ?_
    refine .bind (.done fun result enriched => enriched) fun entries enriched => ?_
    have kept : ∀ e ∈ entries, e.projectId = profile.project.id := by
      intro e member
      obtain ⟨r, there, completed⟩ := mem_mapM enriched member
      obtain ⟨s, listed, made⟩ := mem_mapM parsed there
      rw [enrich_projectId completed, parse_projectId made, home s listed]
    refine .ite (fun _ => .bind (reads_ensure _) fun projects _ => .pure ?_) fun _ => .pure kept
    intro e member
    obtain ⟨r, there, rfl⟩ := List.mem_map.mp member
    exact kept r there

/-! ## Volumes -/

theorem listVolumes_isolated (noRole : isSystemAdminOrReader conf profile = false) (query : VolumeQuery) :
    (listVolumesHandler conf lib profile query).Ensures env.backend.serve (Holds content)
      fun result => ∀ v ∈ result.1, v.tenantId = profile.project.id := by
  refine .bind generateSession_ensures fun currentSession session => ?_
  refine .bind (gate_ensures noRole _ _) fun _ own => ?_
  refine .bind (remote_ensures _) fun result listed => ?_
  have home : ∀ v ∈ result.1, v.tenantId = profile.project.id := by
    intro v member
    rw [listed] at member
    have shown := (List.mem_filter.mp ((env.listVolumes content _ _ _).subset member)).2
    rw [own] at shown
    simp only [Bool.and_eq_true] at shown
    -- by identifiers the system session lists, and the filter is the project of the caller
    cases byId : query.uuid.isEmpty with
    | false =>
      simp only [volumeOpts, byId] at shown
      exact shows_filtered shown.1.1.1
    | true =>
      simp only [volumeSession, volumeOpts, byId, session] at shown
      exact shows_own shown.1.1.1
  refine .bind (reads_ensure _) fun normalServers _ => ?_
  refine .bind (reads_ensure _) fun softDeletedServers _ => ?_
  refine .bind (.done fun entries responded => (respond_ok.mp responded).2) fun entries same => .pure ?_
  intro v member
  rw [same] at member
  obtain ⟨w, there, rfl⟩ := List.mem_map.mp member
  exact home w there

/-! ## Volume snapshots -/

/-- A snapshot that may be listed is in the project of the caller. -/
theorem snapshotAllowed_ensures (uuid : String) (session : KeystoneSession) :
    (snapshotAllowed profile false uuid session).Ensures env.backend.serve (Holds content)
      fun allowed => allowed = true → ∃ s ∈ content.snapshots, s.id = uuid ∧ s.projectId = profile.project.id := by
  refine .bind (remote_ensures _) fun found answered => ?_
  cases found with
  | none => exact .pure (by simp)
  | some s =>
    refine .pure fun same => ?_
    obtain ⟨there, -⟩ := Option.filter_eq_some_iff.mp ((env.getVolumeSnapshot content _ _).symm.trans answered.symm)
    obtain ⟨member, named⟩ := Table.find_eq_some.mp there
    exact ⟨s, member, named, by simpa using same⟩

/-- Where what may be listed is in the project of the caller, so is every entry. -/
theorem listSnapshots_isolated {query : SnapshotQuery} {currentSession snapshotSession : KeystoneSession}
    (home : ∀ s ∈ env.listedSnapshots content snapshotSession (snapshotOpts query false),
      s.projectId = profile.project.id) :
    (listSnapshots lib profile query false currentSession snapshotSession).Ensures env.backend.serve (Holds content)
      fun result => ∀ e ∈ result.1, e.snapshot.projectId = profile.project.id := by
  refine .bind (remote_ensures _) fun result listed => ?_
  refine .bind (reads_ensure _) fun projects _ => ?_
  refine .bind (reads_ensure _) fun volumes _ => ?_
  refine .bind (reads_ensure _) fun fromSnapshots _ => .pure ?_
  intro e member
  obtain ⟨s, there, rfl⟩ := List.mem_map.mp member
  rw [listed] at there
  exact home s ((env.listVolumeSnapshots content _ _ _).subset there)

theorem listVolumeSnapshots_isolated (noRole : isSystemAdminOrReader conf profile = false) (query : SnapshotQuery) :
    (listVolumeSnapshotsHandler conf lib profile query).Ensures env.backend.serve (Holds content)
      fun result => ∀ e ∈ result.1, e.snapshot.projectId = profile.project.id := by
  refine .bind (gate_ensures noRole _ _) fun _ own => ?_
  rw [own]
  refine .bind generateSession_ensures fun currentSession session => ?_
  subst session
  have ownListing (short : truthy? query.uuid = false) : (listSnapshots lib profile query false
      (ownSession profile) (ownSession profile)).Ensures
        env.backend.serve (Holds content) fun result => ∀ e ∈ result.1, e.snapshot.projectId = profile.project.id := by
    refine listSnapshots_isolated fun s member => ?_
    have shown := (List.mem_filter.mp member).2
    simp only [snapshotOpts, short, Bool.or_self, Bool.and_eq_true] at shown
    exact shows_own shown.1.1
  cases given : query.uuid with
  | none => exact ownListing (by rw [given]; rfl)
  | some uuid =>
    refine .ite (fun long => ?_) fun short => ownListing (by simpa [given, truthy?] using short)
    refine .bind (snapshotAllowed_ensures uuid _) fun allowed found => ?_
    refine .ite (fun yes => listSnapshots_isolated fun s member => ?_) fun _ => .pure (by simp)
    -- the identifier leads to the snapshot that was found in the project of the caller
    obtain ⟨t, there, named, home⟩ := found yes
    obtain ⟨listed, shown⟩ := List.mem_filter.mp member
    simp only [snapshotOpts, given, Option.all_some, Bool.and_eq_true, beq_iff_eq] at shown
    rw [Table.eq_of_key listed there (shown.1.2.symm.trans named.symm), home]

/-! ## All three -/

/-- What a caller without an administrator's or reader's role is shown of the recycle bin,
    the volumes and the snapshots is the caller's own. -/
theorem listings_isolated (env : Env) (conf : Conf) (lib : Lib) (profile : Profile)
    (noRole : isSystemAdminOrReader conf profile = false) (w w' : World Call Content) :
    (∀ query entries, (listRecycleServers conf lib profile query).run env.backend.serve w = (.ok entries, w') →
      ∀ e ∈ entries, e.projectId = profile.project.id) ∧
    (∀ query volumes count, (listVolumesHandler conf lib profile query).run env.backend.serve w = (.ok (volumes, count), w') →
      ∀ v ∈ volumes, v.tenantId = profile.project.id) ∧
    ∀ query snapshots count,
      (listVolumeSnapshotsHandler conf lib profile query).run env.backend.serve w = (.ok (snapshots, count), w') →
        ∀ e ∈ snapshots, e.snapshot.projectId = profile.project.id := by
  refine ⟨fun query entries ran => ?_, fun query volumes count ran => ?_, fun query snapshots count ran => ?_⟩
  · exact (listRecycleServers_isolated noRole query w rfl).2 entries (by rw [ran])
  · exact (listVolumes_isolated noRole query w rfl).2 (volumes, count) (by rw [ran])
  · exact (listVolumeSnapshots_isolated noRole query w rfl).2 (snapshots, count) (by rw [ran])

/-! ### A member of one of two projects -/

def defaultRoles : Conf := ⟨["admin", "system_admin"], ["system_reader"], 604800⟩

/-- A UUID of version 4, as `UUID` writes it. -/
def isUuid4 (s : String) : Bool :=
  let groups := s.toList.splitOn '-'
  groups.map List.length == [8, 4, 4, 4, 12] &&
    groups.all (fun group => group.all fun c => c.isDigit || ('a' ≤ c && c ≤ 'f')) &&
    (groups.getD 2 []).head? == some '4' && ((groups.getD 3 []).head?.any fun c => ['8', '9', 'a', 'b'].contains c)

def inOrder : Lib where
  listOfSet xs := xs.dedup
  listOfSet_perm _ := .refl _
  timestamp _ := .ok 0
  acceptsRecycleServer _ := true
  uuid4 := isUuid4

/-- Services that let the system session list all tenants. -/
def systemOnly : Visibility where
  systemProject := "service"
  administrative session := session == .system
  matchesServer _ _ := true
  matchesVolume _ _ := true
  matchesSnapshot _ _ := true
  isMember _ _ := true

def answering : Env := documented systemOnly

/-! The identifiers of servers, volumes, snapshots and images in examples. -/

def vmA : String := "00000000-0000-4000-8000-00000000000a"

def vmB : String := "00000000-0000-4000-8000-00000000000b"

def volA : String := "11111111-1111-4111-8111-11111111111a"

def volB : String := "11111111-1111-4111-8111-11111111111b"

def snapA : String := "22222222-2222-4222-8222-22222222222a"

def snapB : String := "22222222-2222-4222-8222-22222222222b"

def twoTenants : Content where
  servers := ⟨[⟨vmA, "web", "a", none, none, [volA], none⟩, ⟨vmB, "db", "b", none, none, [], none⟩], by decide⟩
  volumes := ⟨[⟨volA, "disk", "a", none, none, [⟨some vmA, none⟩], none⟩, ⟨volB, "disk", "b", none, none, [], none⟩],
    by decide⟩
  snapshots := ⟨[⟨snapA, "daily", "a", volA⟩, ⟨snapB, "daily", "b", volB⟩], by decide⟩
  images := ⟨[], by decide⟩
  projects := ⟨[⟨"a", "alpha"⟩, ⟨"b", "beta"⟩], by decide⟩

def alice : Profile where
  keystoneToken := "token"
  region := "RegionOne"
  exp := 0
  uuid := "uuid"
  project := ⟨"a", "alpha", ⟨"default", "Default"⟩⟩
  user := ⟨"user", "alice", ⟨"default", "Default"⟩, none, none⟩
  roles := [⟨"1", "member"⟩]
  keystoneTokenExp := ""
  baseDomains := []
  version := ""

/-- The projects of Keystone where there is none but hers. -/
def hersOnly : Table Project Project.id := ⟨[⟨"a", "alpha"⟩], List.nodup_singleton _⟩

theorem listings_isolated_member : (∃ e w', (listRecycleServers defaultRoles inOrder alice {}).run answering.backend.serve
      ⟨twoTenants, []⟩ = (.ok [e], w') ∧ e.projectId = "a") ∧
    (∃ v w', (listVolumesHandler defaultRoles inOrder alice { uuid := [volA, volB] }).run answering.backend.serve
      ⟨twoTenants, []⟩ = (.ok ([v], 1), w') ∧ v.tenantId = "a") ∧
    ∃ e w', (listVolumeSnapshotsHandler defaultRoles inOrder alice { uuid := some snapA }).run answering.backend.serve
      ⟨twoTenants, []⟩ = (.ok ([e], 1), w') ∧ e.snapshot.projectId = "a" := by
  have isolated := listings_isolated answering defaultRoles inOrder alice (by decide) ⟨twoTenants, []⟩
  exact ⟨⟨⟨.uuid vmA, "a", none, none, none, none, none, none, none, some 604800⟩, _, rfl,
      (isolated _).1 {} _ rfl _ (List.mem_singleton_self _)⟩,
    ⟨⟨volA, "disk", "a", none, none, [⟨some vmA, some "web"⟩], none⟩, _, rfl,
      (isolated _).2.1 { uuid := [volA, volB] } _ _ rfl _ (List.mem_singleton_self _)⟩,
    ⟨⟨⟨snapA, "daily", "a", volA⟩, none, some "disk", none, []⟩, _, rfl,
      (isolated _).2.2 { uuid := some snapA } _ _ rfl _ (List.mem_singleton_self _)⟩⟩

end Skyline.Extension
