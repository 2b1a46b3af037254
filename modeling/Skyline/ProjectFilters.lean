import Skyline.RecycleListing

/-!
The filters of the two listings of servers by the identifier and by the name of a project.
Keystone may know several projects of one name, in different domains; the handlers filter by
the first of them. So where no page is cut off, the listings show the servers that are asked
for just where these all are in that project, and where an entry can be made of each.
-/
namespace Skyline.Extension
open Skyline.Effects Skyline.Programs Skyline.Python Skyline.Raising Skyline.Tables Skyline.Services
open Skyline.Session (Profile)
open Skyline.Cloud (KeystoneSession ownSession)

variable {env : Env} {content : Content} {conf : Conf} {lib : Lib} {profile : Profile}

/-! ## What is asked for -/

/-- The servers that match the other filters and whose project has the identifier and the
    name that are given; an empty string is none. -/
def Env.wanted (env : Env) (content : Content) (opts : ServerOpts) (projectId projectName : Option String) :
    List Server :=
  content.servers.rows.filter fun s =>
    opts.uuid.all (· == s.id) && env.matchesServer opts s && (projectId.filter truthy).all (· == s.tenantId) &&
      (projectName.filter truthy).all fun name => content.projects.rows.any fun p => p.id == s.tenantId && p.name == name

/-- The first project of a name in Keystone's directory. -/
def firstNamed (content : Content) (name : String) : Option Project := content.projects.rows.find? (·.name == name)

/-- Servers that are all in the first project of a name, if one is given. -/
def InFirstNamed (content : Content) (projectName : Option String) (servers : List Server) : Prop :=
  ∀ name, projectName.filter truthy = some name → ∀ s ∈ servers, ∃ p, firstNamed content name = some p ∧ p.id = s.tenantId

/-- Nova lets the sessions of an administrator and of the system list all tenants, and filters
    by project apart from the rest; Keystone's identifiers are not empty. -/
structure Administers (env : Env) (content : Content) (profile : Profile) : Prop where
  own : env.administrative (ownSession profile) = true
  system : env.administrative .system = true
  apart : ∀ opts projectId s, env.matchesServer { opts with projectId := projectId } s = env.matchesServer opts s
  projects : ∀ p ∈ content.projects, truthy p.id = true

/-! ## What is listed -/

/-- The servers that Nova lists for the project that is chosen. -/
def Env.serversOf (env : Env) (content : Content) (profile : Profile) (session : KeystoneSession) (opts : ServerOpts)
    (page : Page) (projectId projectName : Option String) : List Server :=
  match env.chosenProject content profile true projectId projectName with
  | none => []
  | some projectId =>
    env.answer content (.listServers session { opts with projectId := projectId.filter truthy } page)

theorem listProjects_named (name : String) : env.answer content (.listProjects .system none (some name)) =
    content.projects.rows.filter (·.name == name) := by
  rw [env.listProjects]
  refine List.filter_congr fun p _ => ?_
  simp [BEq.comm]

theorem chosenProject_named (projectId projectName : Option String) :
    env.chosenProject content profile true projectId projectName =
      match projectName.filter truthy with
      | none => some projectId
      | some name => match firstNamed content name with
        | none => none
        | some p => if (projectId.filter truthy).all (· == p.id) then some (some p.id) else none := by
  cases projectName with
  | none => rfl
  | some name =>
    rw [Env.chosenProject, truthy?, Option.filter_some]
    cases truthy name with
    | false => rfl
    | true =>
      rw [if_pos rfl, if_pos rfl, if_pos rfl, listProjects_named]
      dsimp only
      rw [firstNamed, ← List.head?_filter]
      cases content.projects.rows.filter (·.name == name) with
      | nil => rfl
      | cons p others =>
        dsimp only [List.head?_cons]
        cases projectId with
        | none => rfl
        | some i =>
          rw [truthy?, Option.filter_some]
          cases truthy i with
          | false => rfl
          | true => cases same : i == p.id <;> simp_all [bne]

section
variable {session : KeystoneSession} {opts : ServerOpts} {page : Page} {projectId projectName : Option String}

/-- Nova lists the servers of a project, or of all. -/
theorem Administers.listed_perm (administers : Administers env content profile) (admin : env.administrative session = true)
    (all : opts.allTenants = true) (limit : page.limit = none) (marker : page.marker = none) (projectId : Option String) :
    (env.answer content (.listServers session { opts with projectId := projectId } page)).Perm
      (content.servers.rows.filter fun s =>
        opts.uuid.all (· == s.id) && env.matchesServer opts s && projectId.all (· == s.tenantId)) := by
  refine ((env.listServers content _ _ page).perm limit marker).trans (.of_eq (List.filter_congr fun s _ => ?_))
  rw [heeded_administrative admin, administers.apart, Visibility.shows, all, admin, Bool.and_self, Bool.true_or, Bool.true_and]
  ac_rfl

theorem mem_wanted {s : Server} : s ∈ env.wanted content opts projectId projectName ↔ s ∈ content.servers ∧
    (opts.uuid.all (· == s.id) && env.matchesServer opts s) = true ∧ (projectId.filter truthy).all (· == s.tenantId) = true ∧
    ∀ name, projectName.filter truthy = some name → ∃ p ∈ content.projects, p.id = s.tenantId ∧ p.name = name := by
  rw [Env.wanted, List.mem_filter, Bool.and_eq_true, Bool.and_eq_true (_ && _), and_assoc, Table.mem_rows]
  refine and_congr_right fun _ => and_congr_right fun _ => and_congr_right fun _ => ?_
  cases projectName.filter truthy with
  | none => simp
  | some name => simp [Table.mem_rows]

/-- The servers of the first project of the name, where that is not another than the one that is
    given, are those asked for iff all of these are in it. -/
theorem inFirst_perm_iff {name : String} {p : Project} (given : projectName.filter truthy = some name)
    (first : firstNamed content name = some p) (same : (projectId.filter truthy).all (· == p.id) = true) :
    (content.servers.rows.filter fun s =>
        opts.uuid.all (· == s.id) && env.matchesServer opts s && (some p.id).all (· == s.tenantId)).Perm
        (env.wanted content opts projectId projectName) ↔
      ∀ s ∈ env.wanted content opts projectId projectName, p.id = s.tenantId := by
  obtain ⟨there, named⟩ : p ∈ content.projects ∧ p.name = name :=
    ⟨List.mem_of_find?_eq_some first, by simpa using List.find?_some first⟩
  constructor
  · intro perm s member
    have home := (List.mem_filter.mp (perm.mem_iff.mpr member)).2
    rw [Bool.and_eq_true, Option.all_some, beq_iff_eq] at home
    exact home.2
  · intro all
    have distinct : content.servers.rows.Nodup := content.servers.unique.of_map _
    refine (List.perm_ext_iff_of_nodup (distinct.filter _) (distinct.filter _)).mpr fun s => ?_
    rw [List.mem_filter, ← Env.wanted, mem_wanted, Bool.and_eq_true, Option.all_some, beq_iff_eq, Table.mem_rows]
    constructor
    · rintro ⟨held, others, home⟩
      rw [home] at same
      refine ⟨held, others, same, ?_⟩
      rintro _ is
      cases given.symm.trans is
      exact ⟨p, there, home, named⟩
    · rintro ⟨held, others, rest⟩
      exact ⟨held, others, all s (mem_wanted.mpr ⟨held, others, rest⟩)⟩

/-- What Nova lists for the project that is chosen is what is asked for, iff that is in the
    first project of the name. -/
theorem serversOf_perm_iff (administers : Administers env content profile) (admin : env.administrative session = true)
    (all : opts.allTenants = true) (limit : page.limit = none) (marker : page.marker = none) :
    (env.serversOf content profile session opts page projectId projectName).Perm
        (env.wanted content opts projectId projectName) ↔
      InFirstNamed content projectName (env.wanted content opts projectId projectName) := by
  have listed := administers.listed_perm admin all limit marker
  rw [Env.serversOf, chosenProject_named, InFirstNamed]
  cases given : projectName.filter truthy with
  | none =>
    refine iff_of_true ((listed _).trans (.of_eq (List.filter_congr fun s _ => ?_))) (by rintro name ⟨⟩)
    rw [given, Option.all_none, Bool.and_true]
  | some name =>
    have inFirst : (∀ n, some name = some n → ∀ s ∈ env.wanted content opts projectId projectName,
        ∃ p, firstNamed content n = some p ∧ p.id = s.tenantId) ↔ ∀ s ∈ env.wanted content opts projectId projectName,
          ∃ p, firstNamed content name = some p ∧ p.id = s.tenantId := by simp
    rw [inFirst]
    dsimp only
    have nothing (none : ∀ s ∈ env.wanted content opts projectId projectName,
        ¬ ∃ p, firstNamed content name = some p ∧ p.id = s.tenantId) : ([] : List Server).Perm
          (env.wanted content opts projectId projectName) ↔ ∀ s ∈ env.wanted content opts projectId projectName,
            ∃ p, firstNamed content name = some p ∧ p.id = s.tenantId := by
      rw [List.nil_perm, List.eq_nil_iff_forall_not_mem]
      exact forall₂_congr fun s member => ⟨False.elim, none s member⟩
    cases first : firstNamed content name with
    | none =>
      rw [first] at nothing
      exact nothing fun s _ => by simp
    | some p =>
      dsimp only
      by_cases same : (projectId.filter truthy).all (· == p.id) = true
      · have listed := listed ((some p.id).filter truthy)
        rw [if_pos same]
        dsimp only
        rw [Option.filter_some, if_pos (administers.projects p (List.mem_of_find?_eq_some first))] at listed ⊢
        rw [listed.congr_left, inFirst_perm_iff given first same]
        simp
      · rw [if_neg same]
        rw [first] at nothing
        refine nothing fun s member => ?_
        rintro ⟨_, ⟨⟩, home⟩
        rw [home] at same
        exact same (mem_wanted.mp member).2.2.1

end

theorem serversListed_all {query : ServerQuery} (all : query.allProjects = some true) :
    env.serversListed content profile query = env.serversOf content profile (ownSession profile)
      (serverOpts query true none) (serverPage query) query.projectId query.projectName := by
  rw [Env.serversListed, all]
  rfl

theorem serversRecycled_all {query : RecycleQuery} (all : query.allProjects = some true) :
    env.serversRecycled content profile query = env.serversOf content profile .system
      (recycleOpts profile query true none) (recyclePage query) query.projectId query.projectName := by
  rw [Env.serversRecycled, all]
  rfl

theorem serversListed_held {query : ServerQuery} : ∀ s ∈ env.serversListed content profile query, s ∈ content.servers := by
  intro s member
  rw [Env.serversListed] at member
  split at member
  · cases member
  · exact (List.mem_filter.mp ((env.listServers content _ _ _).subset member)).1

theorem serversRecycled_held {query : RecycleQuery} :
    ∀ s ∈ env.serversRecycled content profile query, s ∈ content.servers := by
  intro s member
  rw [Env.serversRecycled] at member
  split at member
  · cases member
  · exact (List.mem_filter.mp ((env.listServers content _ _ _).subset member)).1

/-! ## What is answered -/

/-- Rows of a table are told apart by their keys. -/
theorem perm_of_keys {Row Key : Type} {key : Row → Key} {t : Table Row key} {xs : List Row} {p : Row → Bool}
    (held : ∀ r ∈ xs, r ∈ t) : (xs.map key).Perm ((t.rows.filter p).map key) ↔ xs.Perm (t.rows.filter p) := by
  refine ⟨fun same => ?_, fun same => same.map key⟩
  have distinct : ((t.rows.filter p).map key).Nodup := t.unique.sublist (List.filter_sublist.map key)
  refine (List.perm_ext_iff_of_nodup ((same.nodup_iff.mpr distinct).of_map _) (distinct.of_map _)).mpr fun r => ?_
  constructor
  · intro member
    obtain ⟨s, there, named⟩ := List.mem_map.mp (same.mem_iff.mp (List.mem_map_of_mem member))
    rwa [← Table.eq_of_key (t := t) (List.mem_filter.mp there).1 (held r member) named]
  · intro member
    obtain ⟨s, there, named⟩ := List.mem_map.mp (same.mem_iff.mpr (List.mem_map_of_mem member))
    rwa [← Table.eq_of_key (t := t) (held s there) (List.mem_filter.mp member).1 named]

theorem map_eq_of_forall₂ {α β γ : Type} {R : α → β → Prop} {f : α → γ} {g : β → γ} {xs : List α} {ys : List β}
    (related : List.Forall₂ R xs ys) (same : ∀ x y, R x y → f x = g y) : xs.map f = ys.map g := by
  rw [← List.forall₂_eq_eq_eq, List.forall₂_map_left_iff, List.forall₂_map_right_iff]
  exact related.imp same

theorem listServers_wanted_iff {query : ServerQuery} {w : World Call Content} (answers : Answers env)
    (here : Holds content w) (allowed : isSystemAdminOrReader conf profile = true)
    (administers : Administers env content profile) (all : query.allProjects = some true) (limit : query.limit = none)
    (marker : query.marker = none) :
    (∃ entries, ((listServersHandler conf lib profile query).run env.backend.serve w).1 = .ok entries ∧
      (entries.map (·.id)).Perm ((env.wanted content (serverOpts query true none) query.projectId query.projectName).map
        (·.id))) ↔
    InFirstNamed content query.projectName
        (env.wanted content (serverOpts query true none) query.projectId query.projectName) ∧
      ∀ s ∈ env.wanted content (serverOpts query true none) query.projectId query.projectName,
        Answerable content lib (env.volumesOf content lib (env.serversListed content profile query)) s := by
  have exact_iff : (env.serversListed content profile query).Perm
      (env.wanted content (serverOpts query true none) query.projectId query.projectName) ↔
      InFirstNamed content query.projectName
        (env.wanted content (serverOpts query true none) query.projectId query.projectName) := by
    rw [serversListed_all all]
    exact serversOf_perm_iff administers administers.own rfl limit marker
  rw [run_answered answers _ here, listServers_eval query fun _ => allowed, all, Option.getD_some, if_pos rfl, ← exact_iff]
  constructor
  · rintro ⟨entries, named, same⟩
    have ids := map_eq_of_forall₂ (g := ServerEntry.id) (nameProjects_names named) fun s e names => names.id.symm
    rw [← ids] at same
    have perm := (perm_of_keys serversListed_held).mp same
    exact ⟨perm, fun s member => nameProjects_iff.mp ⟨entries, named⟩ s (perm.mem_iff.mpr member)⟩
  · rintro ⟨perm, known⟩
    obtain ⟨entries, named⟩ := nameProjects_iff.mpr fun s member => known s (perm.mem_iff.mp member)
    have ids := map_eq_of_forall₂ (g := ServerEntry.id) (nameProjects_names named) fun s e names => names.id.symm
    refine ⟨entries, named, ?_⟩
    rw [← ids]
    exact perm.map _

/-- An entry is made of a server that Pydantic accepts and whose date can be parsed. -/
theorem recycleEntry_isOk {allProjects : Bool} {servers : List Server} {s : Server} :
    (∃ e, env.recycleEntry content conf lib allProjects servers s = .ok e) ↔
      lib.acceptsRecycleServer s = true ∧ ∃ t, lib.timestamp (orElse s.updated "") = .ok t := by
  constructor
  · rintro ⟨e, made⟩
    obtain ⟨parsed, accepted, rest⟩ := bind_ok_iff.mp made
    obtain ⟨completed, enriched, -⟩ := bind_ok_iff.mp rest
    obtain ⟨accepts, -, -, updated⟩ := parseRecycleServer_ok accepted
    obtain ⟨dated, -⟩ := enrichRecycleServer_ok enriched
    rw [updated] at dated
    exact ⟨accepts, dated⟩
  · rintro ⟨accepts, t, dated⟩
    rw [Env.recycleEntry, parseRecycleServer, if_pos accepts]
    obtain ⟨completed, enriched⟩ : ∃ completed, enrichRecycleServer conf lib allProjects
        (env.imagesById content (imageIds servers))
        (env.volumesById content (lib.listOfSet (servers.flatMap (·.volumesAttached))))
        ⟨.uuid s.id, s.tenantId, none, s.host, s.image.map .uuid, none, none, s.updated, none, none⟩ = .ok completed := by
      rw [enrichRecycleServer, dated]
      dsimp only [bind, Except.bind]
      split
      · exact ⟨_, rfl⟩
      · split
        · exact ⟨_, rfl⟩
        · exact ⟨_, rfl⟩
      · exact ⟨_, rfl⟩
    exact ⟨nameRecycled content.projects.rows allProjects completed, bind_ok_iff.mpr ⟨_, rfl,
      bind_ok_iff.mpr ⟨completed, enriched, rfl⟩⟩⟩

theorem listRecycleServers_wanted_iff {query : RecycleQuery} {w : World Call Content} (answers : Answers env)
    (here : Holds content w) (allowed : isSystemAdminOrReader conf profile = true)
    (administers : Administers env content profile) (all : query.allProjects = some true) (limit : query.limit = none)
    (marker : query.marker = none) :
    (∃ entries, ((listRecycleServers conf lib profile query).run env.backend.serve w).1 = .ok entries ∧
      (entries.map (·.id.text)).Perm ((env.wanted content (recycleOpts profile query true none) query.projectId
        query.projectName).map (·.id))) ↔
    InFirstNamed content query.projectName
        (env.wanted content (recycleOpts profile query true none) query.projectId query.projectName) ∧
      ∀ s ∈ env.wanted content (recycleOpts profile query true none) query.projectId query.projectName,
        lib.acceptsRecycleServer s = true ∧ ∃ t, lib.timestamp (orElse s.updated "") = .ok t := by
  have exact_iff : (env.serversRecycled content profile query).Perm
      (env.wanted content (recycleOpts profile query true none) query.projectId query.projectName) ↔
      InFirstNamed content query.projectName
        (env.wanted content (recycleOpts profile query true none) query.projectId query.projectName) := by
    rw [serversRecycled_all all]
    exact serversOf_perm_iff administers administers.system rfl limit marker
  have text : ∀ s e, env.recycleEntry content conf lib true (env.serversRecycled content profile query) s = .ok e →
      s.id = e.id.text := by
    intro s e made
    rw [(recycleEntry_named made).1]
    rfl
  rw [run_answered answers _ here, ← exact_iff]
  simp only [listRecycleServers_eval query fun _ => allowed, all, Option.getD_some]
  constructor
  · rintro ⟨entries, made, same⟩
    rw [← map_eq_of_forall₂ (g := fun e => e.id.text) made text] at same
    have perm := (perm_of_keys serversRecycled_held).mp same
    refine ⟨perm, fun s member => ?_⟩
    exact recycleEntry_isOk.mp (exists_forall₂.mp ⟨entries, made⟩ s (perm.mem_iff.mpr member))
  · rintro ⟨perm, accepted⟩
    obtain ⟨entries, made⟩ := exists_forall₂.mpr fun s member => recycleEntry_isOk.mpr (accepted s (perm.mem_iff.mp member))
    refine ⟨entries, made, ?_⟩
    rw [← map_eq_of_forall₂ (g := fun e => e.id.text) made text]
    exact perm.map _

/-- An administrator who lists all projects, with a filter by identifier or by name, is shown
    the servers that are asked for, iff these are in the first project of the name that is
    given and an entry can be made of each: in one listing Keystone knows its project and the
    response takes its identifier and that of its image, in the other Pydantic accepts it and
    its date can be parsed. -/
theorem listings_wanted_iff (env : Env) (content : Content) (conf : Conf) (lib : Lib) (profile : Profile)
    (query : ServerQuery) (bin : RecycleQuery) (w : World Call Content) (answers : Answers env) (here : Holds content w)
    (allowed : isSystemAdminOrReader conf profile = true) (administers : Administers env content profile)
    (all : query.allProjects = some true ∧ bin.allProjects = some true)
    (limit : query.limit = none ∧ bin.limit = none) (marker : query.marker = none ∧ bin.marker = none) :
    ((∃ entries, ((listServersHandler conf lib profile query).run env.backend.serve w).1 = .ok entries ∧
        (entries.map (·.id)).Perm ((env.wanted content (serverOpts query true none) query.projectId
          query.projectName).map (·.id))) ↔
      InFirstNamed content query.projectName
          (env.wanted content (serverOpts query true none) query.projectId query.projectName) ∧
        ∀ s ∈ env.wanted content (serverOpts query true none) query.projectId query.projectName,
          Answerable content lib (env.volumesOf content lib (env.serversListed content profile query)) s) ∧
    ((∃ entries, ((listRecycleServers conf lib profile bin).run env.backend.serve w).1 = .ok entries ∧
        (entries.map (·.id.text)).Perm ((env.wanted content (recycleOpts profile bin true none) bin.projectId
          bin.projectName).map (·.id))) ↔
      InFirstNamed content bin.projectName
          (env.wanted content (recycleOpts profile bin true none) bin.projectId bin.projectName) ∧
        ∀ s ∈ env.wanted content (recycleOpts profile bin true none) bin.projectId bin.projectName,
          lib.acceptsRecycleServer s = true ∧ ∃ t, lib.timestamp (orElse s.updated "") = .ok t) :=
  ⟨listServers_wanted_iff answers here allowed administers all.1 limit.1 marker.1,
    listRecycleServers_wanted_iff answers here allowed administers all.2 limit.2 marker.2⟩

/-! ### Two projects of one name -/

/-- Two domains with a project of one name each, and a server in the second. -/
def namesakes : Content where
  servers := ⟨[⟨vmB, "web", "b", none, none, [], none⟩], List.nodup_singleton _⟩
  volumes := Table.empty
  snapshots := Table.empty
  images := Table.empty
  projects := ⟨[⟨"a", "web"⟩, ⟨"b", "web"⟩], by decide⟩

/-- All projects are listed, with both filters. -/
def ofWeb : ServerQuery := { allProjects := some true, projectId := some "b", projectName := some "web" }

def binOfWeb : RecycleQuery := { allProjects := some true, projectId := some "b", projectName := some "web" }

theorem trusting_administers : Administers trusting namesakes administrator := by
  refine ⟨rfl, rfl, fun _ _ _ => rfl, fun p member => ?_⟩
  have each : ∀ p ∈ namesakes.projects.rows, truthy p.id = true := by decide
  exact each p member

theorem namesakes_wanted_iff :
    ((∃ entries, ((listServersHandler defaultRoles checking administrator ofWeb).run trusting.backend.serve
        ⟨namesakes, []⟩).1 = .ok entries ∧
        (entries.map (·.id)).Perm ((trusting.wanted namesakes (serverOpts ofWeb true none) (some "b") (some "web")).map
          (·.id))) ↔
      InFirstNamed namesakes (some "web") (trusting.wanted namesakes (serverOpts ofWeb true none) (some "b") (some "web")) ∧
        ∀ s ∈ trusting.wanted namesakes (serverOpts ofWeb true none) (some "b") (some "web"),
          Answerable namesakes checking
            (trusting.volumesOf namesakes checking (trusting.serversListed namesakes administrator ofWeb)) s) ∧
    ((∃ entries, ((listRecycleServers defaultRoles checking administrator binOfWeb).run trusting.backend.serve
        ⟨namesakes, []⟩).1 = .ok entries ∧
        (entries.map (·.id.text)).Perm ((trusting.wanted namesakes (recycleOpts administrator binOfWeb true none)
          (some "b") (some "web")).map (·.id))) ↔
      InFirstNamed namesakes (some "web")
          (trusting.wanted namesakes (recycleOpts administrator binOfWeb true none) (some "b") (some "web")) ∧
        ∀ s ∈ trusting.wanted namesakes (recycleOpts administrator binOfWeb true none) (some "b") (some "web"),
          checking.acceptsRecycleServer s = true ∧ ∃ t, checking.timestamp (orElse s.updated "") = .ok t) :=
  listings_wanted_iff trusting namesakes defaultRoles checking administrator ofWeb binOfWeb ⟨namesakes, []⟩
    (fun _ _ => rfl) rfl (by decide) trusting_administers ⟨rfl, rfl⟩ ⟨rfl, rfl⟩ ⟨rfl, rfl⟩

/-- The server in the second project of the name is not shown. -/
theorem namesake_not_shown : ¬ ∀ (env : Env) (content : Content) (conf : Conf) (lib : Lib) (profile : Profile)
    (query : ServerQuery) (bin : RecycleQuery) (w : World Call Content), Answers env → Holds content w →
      isSystemAdminOrReader conf profile = true → Administers env content profile →
      query.allProjects = some true ∧ bin.allProjects = some true → query.limit = none ∧ bin.limit = none →
      query.marker = none ∧ bin.marker = none →
      (∃ entries, ((listServersHandler conf lib profile query).run env.backend.serve w).1 = .ok entries ∧
        (entries.map (·.id)).Perm ((env.wanted content (serverOpts query true none) query.projectId
          query.projectName).map (·.id))) ∧
      ∃ entries, ((listRecycleServers conf lib profile bin).run env.backend.serve w).1 = .ok entries ∧
        (entries.map (·.id.text)).Perm ((env.wanted content (recycleOpts profile bin true none) bin.projectId
          bin.projectName).map (·.id)) := by
  intro always
  obtain ⟨⟨entries, listed, same⟩, -⟩ := always trusting namesakes defaultRoles checking administrator
    { allProjects := some true, projectName := some "web" } { allProjects := some true } ⟨namesakes, []⟩
    (fun _ _ => rfl) rfl (by decide) trusting_administers ⟨rfl, rfl⟩ ⟨rfl, rfl⟩ ⟨rfl, rfl⟩
  have empty : ((listServersHandler defaultRoles checking administrator
    { allProjects := some true, projectName := some "web" }).run trusting.backend.serve ⟨namesakes, []⟩).1 = .ok [] := rfl
  rw [empty] at listed
  cases listed
  have lost := same.length_eq
  revert lost
  decide

end Skyline.Extension
