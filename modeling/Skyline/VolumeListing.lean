import Mathlib.Data.List.Forall2
import Skyline.Enrichment

/-!
The listing of volumes (`api/v1/extension.py`). Each volume of Cinder's page gives one entry,
in the order of the page, and an attachment of it names its server where the caller's own
session sees the server. Nova is asked twice for each server, since a server that has been
soft deleted is in none of its ordinary listings; but what is deleted Nova lists only to an
administrative session, and the second time it is the caller's that asks, too.
-/
namespace Skyline.Extension
open Skyline.Effects Skyline.Programs Skyline.Python Skyline.Raising Skyline.Tables Skyline.Services
open Skyline.Session (Profile)
open Skyline.Cloud (KeystoneSession ownSession)

variable {env : Env} {content : Content} {conf : Conf} {lib : Lib} {profile : Profile}

/-! ## What the page is and what completes it -/

/-- The page of volumes that Cinder answers with, and the count beside it. -/
def Env.volumePage (env : Env) (content : Content) (conf : Conf) (profile : Profile) (query : VolumeQuery) :
    List Volume × Nat :=
  env.answer content (.listVolumes
    (volumeSession conf profile query (query.allProjects.getD false) (ownSession profile))
    (volumeOpts profile query (query.allProjects.getD false))
    ⟨query.limit, query.marker, sortBy query.sortKeys query.sortDirs⟩)

/-- The volumes that match the query, on whatever page. -/
def Env.volumesShown (env : Env) (content : Content) (conf : Conf) (profile : Profile) (query : VolumeQuery) : List Volume :=
  env.listed content (volumeSession conf profile query (query.allProjects.getD false) (ownSession profile))
    (volumeOpts profile query (query.allProjects.getD false))

/-- What Nova is asked for a server with, and what for one that has been soft deleted. -/
def ordinary (serverId : String) (allProjects : Bool) : ServerOpts :=
  { uuid := some serverId, allTenants := allProjects }

def softDeleted (serverId : String) (allProjects : Bool) : ServerOpts :=
  { uuid := some serverId, status := some "soft_deleted", deleted := true, allTenants := allProjects }

/-- Nova lists a server among the ordinary ones, or, once it has been soft deleted, only where
    what is deleted is asked for and the option is heeded. -/
structure NovaLists (env : Env) (gone : Server → Bool) : Prop where
  kept : ∀ serverId allProjects s, env.matchesServer (ordinary serverId allProjects) s = !gone s
  deleted : ∀ serverId allProjects s, env.matchesServer (softDeleted serverId allProjects) s = gone s
  ignored : ∀ serverId allProjects s,
    env.matchesServer { softDeleted serverId allProjects with deleted := false } s = false

/-- The servers that a session sees: of those that have been soft deleted none, unless it is
    administrative. -/
def Env.visible (env : Env) (content : Content) (gone : Server → Bool) (session : KeystoneSession) (allProjects : Bool) :
    Table Server Server.id where
  rows := content.servers.rows.filter fun s =>
    env.shows session allProjects none s.tenantId && (!gone s || env.administrative session)
  unique := content.servers.unique.sublist (List.filter_sublist.map _)

/-- An attachment to a server that is seen names it, one to a server that is not names none,
    and one to no server is as it was. -/
structure NamesServer (servers : Table Server Server.id) (a named : Attachment) : Prop where
  serverId : named.serverId = a.serverId
  seen : ∀ id, a.serverId = some id → truthy id = true → named.serverName = (servers.find id).map (·.name)
  other : truthy? a.serverId = false → named = a

/-- An entry is that of a volume, whose attachments name their servers. -/
structure NamesServers (servers : Table Server Server.id) (v e : Volume) : Prop where
  volume : { v with attachments := e.attachments } = e
  attachments : List.Forall₂ (NamesServer servers) v.attachments e.attachments

/-! ## What the handler comes to -/

/-- The servers that Nova is asked for: those that volumes are attached to. -/
def attachedServers (lib : Lib) (volumes : List Volume) : List String :=
  lib.listOfSet ((volumes.flatMap fun v => v.attachments.filterMap (·.serverId)).filter truthy)

/-- What Nova answers for the servers of the page. -/
def Env.serversFound (env : Env) (content : Content) (profile : Profile) (ids : List String) (allProjects : Bool) :
    List Server :=
  (ids.flatMap fun id => env.answer content (.listServers (ownSession profile) (ordinary id allProjects) {})) ++
    ids.flatMap fun id => env.answer content (.listServers (ownSession profile) (softDeleted id allProjects) {})

theorem listVolumes_eval (query : VolumeQuery)
    (allowed : query.allProjects.getD false = true → isSystemAdminOrReader conf profile = true) :
    (listVolumesHandler conf lib profile query).eval (env.reply content) = do
      let volumes ← volumesResponse lib ((env.volumePage content conf profile query).1.map
        (nameServers (env.serversFound content profile
          (attachedServers lib (env.volumePage content conf profile query).1) (query.allProjects.getD false))))
      return (volumes, (env.volumePage content conf profile query).2) := by
  have session : (generateSession profile).eval (env.reply content) = .ok (ownSession profile) := rfl
  have listed : (listVolumes (volumeSession conf profile query (query.allProjects.getD false) (ownSession profile))
      (volumeOpts profile query (query.allProjects.getD false))
      ⟨query.limit, query.marker, sortBy query.sortKeys query.sortDirs⟩).eval (env.reply content) =
        .ok (env.volumePage content conf profile query) := rfl
  have asked (opts : String → ServerOpts) (ids : List String) :
      (Program.gather ids fun id => listServers (ownSession profile) (opts id) {}).eval (env.reply content) =
        .ok (ids.flatMap fun id => env.answer content (.listServers (ownSession profile) (opts id) {})) :=
    Program.eval_gather_ok fun _ _ => rfl
  rw [listVolumesHandler, Program.eval_bind_ok session, Program.eval_bind_ok (gate_eval allowed _), Program.eval_bind_ok listed]
  refine (Program.eval_bind_ok (asked (ordinary · (query.allProjects.getD false)) _) _).trans ?_
  exact (Program.eval_bind_ok (asked (softDeleted · (query.allProjects.getD false)) _) _).trans (Program.eval_bind _ _ _)

/-! ## What the attachments name -/

theorem mem_attachedServers {volumes : List Volume} {v : Volume} {a : Attachment} {id : String} (member : v ∈ volumes)
    (attached : a ∈ v.attachments) (given : a.serverId = some id) (long : truthy id = true) :
    id ∈ attachedServers lib volumes := by
  rw [attachedServers, mem_listOfSet, List.mem_filter, List.mem_flatMap]
  exact ⟨⟨v, member, List.mem_filterMap.mpr ⟨a, attached, given⟩⟩, long⟩

theorem mem_listed {opts : ServerOpts} {id : String} {session : KeystoneSession} {s : Server} (byId : opts.uuid = some id)
    (anyProject : opts.projectId = none) : s ∈ env.answer content (.listServers session opts {}) ↔ s ∈ content.servers ∧
      env.shows session opts.allTenants none s.tenantId = true ∧ s.id = id ∧
      env.matchesServer (env.heeded session opts) s = true := by
  refine ((env.listServers content session opts {}).perm rfl rfl).mem_iff.trans ?_
  rw [Visibility.listedServers, byId, anyProject]
  simp only [List.mem_filter, Option.all_some, Bool.and_eq_true, beq_iff_eq, and_assoc, Table.mem_rows, eq_comm (a := id)]

variable {gone : Server → Bool}

/-- The option to see what is deleted is heeded for some sessions. -/
theorem NovaLists.matches_softDeleted (nova : NovaLists env gone) (session : KeystoneSession) (serverId : String)
    (allProjects : Bool) (s : Server) :
    env.matchesServer (env.heeded session (softDeleted serverId allProjects)) s = (gone s && env.administrative session) := by
  cases admin : env.administrative session with
  | true => rw [heeded_administrative admin, nova.deleted, Bool.and_true]
  | false =>
    have unheeded : env.heeded session (softDeleted serverId allProjects) =
        { softDeleted serverId allProjects with deleted := false } := by
      rw [Visibility.heeded, admin, Bool.and_false]
    rw [unheeded, nova.ignored, Bool.and_false]

/-- Nova finds those of the servers that the caller sees. -/
theorem mem_serversFound (nova : NovaLists env gone) {ids : List String} {allProjects : Bool} {s : Server} :
    s ∈ env.serversFound content profile ids allProjects ↔
      s ∈ env.visible content gone (ownSession profile) allProjects ∧ s.id ∈ ids := by
  have ordinary_iff (id : String) : s ∈ env.answer content (.listServers (ownSession profile) (ordinary id allProjects) {}) ↔
      s ∈ content.servers ∧ env.shows (ownSession profile) allProjects none s.tenantId = true ∧ s.id = id ∧
        (!gone s) = true := by
    rw [mem_listed rfl rfl, ← nova.kept id allProjects s]
    rfl
  have deleted_iff (id : String) :
      s ∈ env.answer content (.listServers (ownSession profile) (softDeleted id allProjects) {}) ↔
      s ∈ content.servers ∧ env.shows (ownSession profile) allProjects none s.tenantId = true ∧ s.id = id ∧
        (gone s && env.administrative (ownSession profile)) = true := by
    rw [mem_listed rfl rfl, nova.matches_softDeleted]
    rfl
  have seen_iff : s ∈ env.visible content gone (ownSession profile) allProjects ↔ s ∈ content.servers ∧
      env.shows (ownSession profile) allProjects none s.tenantId = true ∧
        (!gone s || gone s && env.administrative (ownSession profile)) = true := by
    have same : (!gone s || env.administrative (ownSession profile)) =
        (!gone s || gone s && env.administrative (ownSession profile)) := by cases gone s <;> rfl
    refine List.mem_filter.trans ?_
    rw [Bool.and_eq_true, same, Table.mem_rows]
  rw [Env.serversFound, List.mem_append, List.mem_flatMap, List.mem_flatMap, seen_iff, Bool.or_eq_true]
  simp only [ordinary_iff, deleted_iff]
  constructor
  · rintro (⟨id, asked, held, shown, rfl, there⟩ | ⟨id, asked, held, shown, rfl, there⟩)
    · exact ⟨⟨held, shown, .inl there⟩, asked⟩
    · exact ⟨⟨held, shown, .inr there⟩, asked⟩
  · rintro ⟨⟨held, shown, there | there⟩, asked⟩
    · exact .inl ⟨s.id, asked, held, shown, rfl, there⟩
    · exact .inr ⟨s.id, asked, held, shown, rfl, there⟩

theorem nameServers_names (nova : NovaLists env gone) {volumes : List Volume} (allProjects : Bool) {v : Volume}
    (member : v ∈ volumes) : NamesServers (env.visible content gone (ownSession profile) allProjects) v
      (nameServers (env.serversFound content profile (attachedServers lib volumes) allProjects) v) := by
  refine ⟨rfl, ?_⟩
  rw [nameServers, List.forall₂_map_right_iff, List.forall₂_same]
  intro a attached
  constructor
  · split <;> rfl
  · intro id given long
    have asked : id ∈ attachedServers lib volumes := mem_attachedServers member attached given long
    have fetched := dictGet_fetched (t := env.visible content gone (ownSession profile) allProjects) (·.name)
      (fun s found => ((mem_serversFound nova).mp found).1) (k := id) fun s seen named =>
        (mem_serversFound nova).mpr ⟨seen, named ▸ asked⟩
    have counts : truthy? a.serverId = true := by rw [given]; exact long
    rw [if_pos counts, given]
    exact fetched
  · intro none
    rw [if_neg (Bool.eq_false_iff.mp none)]

/-- The listing has one entry for each volume of Cinder's page, in its order, and the count
    of all volumes, iff each of them has a UUID; an attachment names its server just where the
    caller's own session sees the server. -/
theorem listVolumes_named (env : Env) (content : Content) (conf : Conf) (lib : Lib) (profile : Profile)
    (query : VolumeQuery) (gone : Server → Bool) (w : World Call Content) (answers : Answers env)
    (nova : NovaLists env gone) (here : Holds content w)
    (allowed : query.allProjects.getD false = true → isSystemAdminOrReader conf profile = true) :
    (∃ entries, ((listVolumesHandler conf lib profile query).run env.backend.serve w).1 =
        .ok (entries, (env.volumesShown content conf profile query).length) ∧
      List.Forall₂ (NamesServers (env.visible content gone (ownSession profile) (query.allProjects.getD false)))
        (env.volumePage content conf profile query).1 entries) ↔
    ∀ v ∈ (env.volumePage content conf profile query).1, lib.uuid4 v.id = true := by
  have count : (env.volumePage content conf profile query).2 = (env.volumesShown content conf profile query).length :=
    env.countVolumes content _ _ _
  rw [run_answered answers _ here, listVolumes_eval query allowed, count]
  constructor
  · rintro ⟨entries, came, -⟩
    obtain ⟨responded, taken, -⟩ := bind_ok_iff.mp came
    have all := (respond_ok.mp taken).1
    rw [List.forall_mem_map] at all
    exact all
  · intro uuids
    refine ⟨_, bind_ok_iff.mpr ⟨_, respond_ok.mpr ⟨?_, rfl⟩, rfl⟩, ?_⟩
    · rw [List.forall_mem_map]
      exact uuids
    · rw [List.forall₂_map_right_iff, List.forall₂_same]
      exact fun v member => nameServers_names nova _ member

/-! ### A volume that is attached to two servers -/

/-- One of the servers is of another project and has been soft deleted. -/
def shared : Content where
  servers := ⟨[⟨vmA, "web", "a", none, none, [volA], none⟩, ⟨vmB, "db", "b", none, none, [volA], none⟩], by decide⟩
  volumes := ⟨[⟨volA, "disk", "a", none, none, [⟨some vmA, none⟩, ⟨some vmB, none⟩], none⟩], by decide⟩
  snapshots := Table.empty
  images := Table.empty
  projects := hersOnly

def deletedB (s : Server) : Bool := s.id == vmB

def operator : Profile := { alice with keystoneToken := "admin-token", roles := [⟨"2", "admin"⟩] }

/-- Services to which the system and the administrator are administrative, and that list what
    has been soft deleted apart. -/
def binning : Env := documented {
  systemOnly with
  administrative := fun session => session == .system || session == ownSession operator
  matchesServer := fun opts s => if opts.status = some "soft_deleted" then opts.deleted && deletedB s else !deletedB s }

theorem binning_lists : NovaLists binning deletedB := ⟨fun _ _ _ => rfl, fun _ _ _ => rfl, fun _ _ _ => rfl⟩

/-- A member is not told the name of the soft-deleted server, and an administrator is. -/
theorem shared_named :
    ((∃ entries, ((listVolumesHandler defaultRoles inOrder alice {}).run binning.backend.serve ⟨shared, []⟩).1 =
        .ok (entries, (binning.volumesShown shared defaultRoles alice {}).length) ∧
      List.Forall₂ (NamesServers (binning.visible shared deletedB (ownSession alice) false))
        (binning.volumePage shared defaultRoles alice {}).1 entries) ↔
      ∀ v ∈ (binning.volumePage shared defaultRoles alice {}).1, inOrder.uuid4 v.id = true) ∧
    ((∃ entries, ((listVolumesHandler defaultRoles inOrder operator { allProjects := some true }).run
        binning.backend.serve ⟨shared, []⟩).1 =
        .ok (entries, (binning.volumesShown shared defaultRoles operator { allProjects := some true }).length) ∧
      List.Forall₂ (NamesServers (binning.visible shared deletedB (ownSession operator) true))
        (binning.volumePage shared defaultRoles operator { allProjects := some true }).1 entries) ↔
      ∀ v ∈ (binning.volumePage shared defaultRoles operator { allProjects := some true }).1,
        inOrder.uuid4 v.id = true) :=
  ⟨listVolumes_named binning shared defaultRoles inOrder alice {} deletedB ⟨shared, []⟩ (fun _ _ => rfl)
      binning_lists rfl (by decide),
    listVolumes_named binning shared defaultRoles inOrder operator { allProjects := some true } deletedB
      ⟨shared, []⟩ (fun _ _ => rfl) binning_lists rfl (by decide)⟩

end Skyline.Extension
