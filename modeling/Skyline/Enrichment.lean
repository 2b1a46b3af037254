import Mathlib.Data.List.Dedup
import Mathlib.Data.List.Perm.Basic
import Skyline.Evaluation
import Skyline.ListingIsolation

/-!
How a listing is completed with the results of others. The identifiers that are asked for are
cut in batches, what the batches answer is put in one dictionary, and the entries of the page
are looked up there. The batches are the list again, so every identifier is asked for, and,
where the list has no duplicates, once; the dictionary holds what the services hold.
-/
namespace Skyline.Extension
open Skyline.Effects Skyline.Programs Skyline.Python Skyline.Tables Skyline.Services
open Skyline.Session (Profile)
open Skyline.Cloud (KeystoneSession ownSession)

variable {env : Env} {content : Content} {conf : Conf} {lib : Lib} {profile : Profile}

/-! ## Handlers and what they come to -/

/-- Every call gets through. -/
def Answers (env : Env) : Prop := ∀ c n, env.delivery c n = .answered

/-- What a call is answered if it gets through. -/
def Env.reply (env : Env) (content : Content) (c : Call) : Except Exn (Answer c) := .ok (env.answer content c)

theorem Env.reads (env : Env) (n : Nat) (content : Content) (c : Call) :
    env.backend.perform n content c = (.ok (env.answer content c), content) := rfl

/-- A handler that is answered comes to one result. -/
theorem run_answered (answers : Answers env) {α : Type} (m : Remote α) {w : World Call Content}
    (inv : Holds content w) : (m.run env.backend.serve w).1 = m.eval (env.reply content) := by
  cases inv
  exact Program.run_reads env.reads answers m w

/-- A handler that passes failures on returns that result or none. -/
theorem eval_of_run {α : Type} {m : Remote α} (passesOn : m.PassesOn) {w : World Call Content} (inv : Holds content w)
    {a : α} (returned : (m.run env.backend.serve w).1 = .ok a) : m.eval (env.reply content) = .ok a := by
  cases inv
  exact passesOn.eval_of_reads env.reads returned

theorem gate_eval {allProjects : Bool} (allowed : allProjects = true → isSystemAdminOrReader conf profile = true)
    (exception : String) : (gate conf profile allProjects exception).eval (env.reply content) = .ok () := by
  rw [gate, Program.eval_ite]
  split
  · next all =>
    rw [assertSystemAdminOrReader, if_pos (allowed all)]
    rfl
  · rfl

theorem gate_allowed {allProjects : Bool} {exception : String}
    (passed : (gate conf profile allProjects exception).eval (env.reply content) = .ok ()) (all : allProjects = true) :
    isSystemAdminOrReader conf profile = true := by
  rw [gate, if_pos all, assertSystemAdminOrReader] at passed
  split at passed
  · assumption
  · cases passed

theorem gate_passesOn (conf : Conf) (profile : Profile) (allProjects : Bool) (exception : String) :
    (gate conf profile allProjects exception).PassesOn := .ite (.ite (.pure ()) (.raise _)) (.pure ())

theorem generateSession_passesOn (profile : Profile) : (generateSession profile).PassesOn :=
  .bind (.remote _) fun _ => .pure _

theorem recycleProject_passesOn (profile : Profile) (allProjects : Bool) (projectId projectName : Option String) :
    (recycleProject profile allProjects projectId projectName).PassesOn := by
  refine .ite (.bind (.remote _) fun filterProjects => ?_) (.pure _)
  cases filterProjects with
  | nil => exact .pure _
  | cons filterProject others => exact .pure _

/-! ## Batches -/

section
variable {α β : Type}

/-- The first batches are the beginning of the list. -/
theorem batches_take (ids : List α) (n : Nat) :
    ((List.range n).map fun k => (ids.drop (k * step)).take step).flatten = ids.take (n * step) := by
  induction n with
  | zero => simp
  | succ n ih =>
    rw [List.range_succ, List.map_append, List.flatten_append, ih, Nat.succ_mul, List.take_add]
    simp

theorem batches_flatten (ids : List α) : (batches ids).flatten = ids := by
  rw [batches, batches_take]
  refine List.take_of_length_le ?_
  have enough : ids.length ≤ (ids.length + step - 1) / step * step := by
    unfold step
    omega
  exact enough

theorem mem_batches {ids : List α} {i : α} : (∃ batch ∈ batches ids, i ∈ batch) ↔ i ∈ ids := by
  rw [← List.mem_flatten, batches_flatten]

theorem batch_ne_nil {ids batch : List α} (member : batch ∈ batches ids) : batch ≠ [] := by
  obtain ⟨k, within, rfl⟩ := List.mem_map.mp member
  have before : k * step < ids.length := by
    have := List.mem_range.mp within
    unfold step at *
    omega
  have some : 0 < ((ids.drop (k * step)).take step).length := by
    rw [List.length_take, List.length_drop]
    unfold step at *
    omega
  exact List.ne_nil_of_length_pos some

/-- What is asked for with one identifier comes back once, if no batch repeats it. -/
theorem flatMap_once [DecidableEq α] {parts : List (List α)} (distinct : parts.flatten.Nodup) (i : α) (xs : List β) :
    (parts.flatMap fun part => if i ∈ part then xs else []) = if i ∈ parts.flatten then xs else [] := by
  induction parts with
  | nil => rfl
  | cons part parts ih =>
    rw [List.flatten_cons] at distinct
    obtain ⟨-, later, apart⟩ := List.nodup_append'.mp distinct
    rw [List.flatMap_cons, ih later, List.flatten_cons]
    by_cases here : i ∈ part
    · have absent : i ∉ parts.flatten := fun there => apart here there
      simp [here, absent]
    · simp [here]

end

/-! ## Dictionaries -/

section
variable {α κ ν : Type} [BEq κ]

theorem dictGet_append (early late : List (κ × ν)) (k : κ) :
    dictGet (early ++ late) k = (dictGet late k).or (dictGet early k) := by
  rw [dictGet, List.reverse_append, List.lookup_append]
  rfl

theorem dictGet_none [LawfulBEq κ] {entries : List (κ × ν)} {k : κ} :
    dictGet entries k = none ↔ ∀ entry ∈ entries, entry.1 ≠ k := by
  rw [dictGet, List.lookup_eq_none_iff]
  simp only [List.mem_reverse, bne_iff_ne, ne_comm]

theorem dictGet_mem [LawfulBEq κ] {entries : List (κ × ν)} {k : κ} {v : ν} (found : dictGet entries k = some v) :
    (k, v) ∈ entries := by
  obtain ⟨later, earlier, split, -⟩ := List.lookup_eq_some_iff.mp found
  rw [← List.mem_reverse, split]
  simp

/-- A dictionary in which a key has one value gives it. -/
theorem dictGet_unique [LawfulBEq κ] {entries : List (κ × ν)} {k : κ} {v : ν} (member : (k, v) ∈ entries)
    (unique : ∀ entry ∈ entries, entry.1 = k → entry.2 = v) : dictGet entries k = some v := by
  cases found : dictGet entries k with
  | none => exact absurd rfl (dictGet_none.mp found _ member)
  | some u => rw [← unique _ (dictGet_mem found) rfl]

end

/-- The rows of a table that were fetched give what the table gives, where the row that is
    looked up is one of them. -/
theorem dictGet_fetched {Row ν : Type} {key : Row → String} {t : Table Row key} {rows : List Row} (val : Row → ν)
    (held : ∀ r ∈ rows, r ∈ t) {k : String} (complete : ∀ r ∈ t, key r = k → r ∈ rows) :
    dictGet (rows.map fun r => (key r, val r)) k = (t.find k).map val := by
  cases found : t.find k with
  | none =>
    rw [Option.map_none, dictGet_none]
    rintro _ member named
    obtain ⟨r, there, rfl⟩ := List.mem_map.mp member
    exact Table.find_eq_none.mp found r (held r there) named
  | some r =>
    obtain ⟨member, named⟩ := Table.find_eq_some.mp found
    refine dictGet_unique (List.mem_map.mpr ⟨r, complete r member named, by rw [named]⟩) ?_
    rintro _ listed same
    obtain ⟨s, there, rfl⟩ := List.mem_map.mp listed
    rw [Table.eq_of_key (held s there) member (same.trans named.symm)]

theorem dictGet_rows {Row ν : Type} {key : Row → String} {t : Table Row key} (val : Row → ν) (k : String) :
    dictGet (t.rows.map fun r => (key r, val r)) k = (t.find k).map val :=
  dictGet_fetched val (fun _ member => member) fun _ member _ => member

/-! ## Volumes and images by identifier -/

section
variable {α : Type} {p : Page} {id : α → String} {xs ys : List α}

/-- Where no limit and no marker is given, the page is all of the listing. -/
theorem Page.Of.perm (page : p.Of id xs ys) (limit : p.limit = none) (marker : p.marker = none) : ys.Perm xs := by
  obtain ⟨sorted, perm, rfl⟩ := page
  rw [Page.cut, limit, marker]
  exact perm

theorem Page.Of.nodup {κ : Type} {key : α → κ} (page : p.Of id xs ys) (distinct : (xs.map key).Nodup) : (ys.map key).Nodup := by
  obtain ⟨sorted, perm, rfl⟩ := page
  exact ((perm.map key).nodup_iff.mpr distinct).sublist ((p.cut_sublist id sorted).map key)

end

/-- Cinder lets the system session list the volumes of all tenants, and lists for identifiers
    just the volumes that have them. -/
structure CinderLists (env : Env) : Prop where
  administrative : env.administrative .system = true
  byId : ∀ ids v, env.matchesVolume { allTenants := true, id := ids } v = true
  bySnapshot : ∀ ids v, env.matchesVolume { allTenants := true, snapshotId := ids } v = true

/-- What the batches of identifiers are answered together. -/
def Env.volumesById (env : Env) (content : Content) (ids : List String) : List Volume :=
  (batches ids).flatMap fun batch => (env.answer content (.listVolumes .system { allTenants := true, id := batch } {})).1

def Env.volumesBySnapshot (env : Env) (content : Content) (ids : List String) : List Volume :=
  (batches ids).flatMap fun batch =>
    (env.answer content (.listVolumes .system { allTenants := true, snapshotId := batch } {})).1

def Env.imagesById (env : Env) (content : Content) (ids : List String) : List Image :=
  (batches ids).flatMap fun batch => env.answer content (.listImages .system batch)

theorem volumesById_eval (ids : List String) : (Program.gather (batches ids) fun batch => do
    let (volumes, _) ← listVolumes .system { allTenants := true, id := batch } {}
    return volumes).eval (env.reply content) = .ok (env.volumesById content ids) :=
  Program.eval_gather_ok fun _ _ => rfl

theorem volumesBySnapshot_eval (ids : List String) : (Program.gather (batches ids) fun batch => do
    let (volumes, _) ← listVolumes .system { allTenants := true, snapshotId := batch } {}
    return volumes).eval (env.reply content) = .ok (env.volumesBySnapshot content ids) :=
  Program.eval_gather_ok fun _ _ => rfl

theorem imagesById_eval (ids : List String) :
    (Program.gather (batches ids) fun batch => listImages .system batch).eval (env.reply content) =
      .ok (env.imagesById content ids) :=
  Program.eval_gather_ok fun _ _ => rfl

theorem CinderLists.shows (lists : CinderLists env) (tenantId : String) :
    env.shows .system true none tenantId = true := by
  simp [Visibility.shows, lists.administrative]

theorem CinderLists.listed_byId (lists : CinderLists env) {ids : List String} (given : ids ≠ []) :
    env.listed content .system { allTenants := true, id := ids } =
      content.volumes.rows.filter fun v => ids.contains v.id := by
  refine List.filter_congr fun v _ => ?_
  simp [lists.shows, lists.byId, among, given]

theorem CinderLists.listed_bySnapshot (lists : CinderLists env) {ids : List String} (given : ids ≠ []) :
    env.listed content .system { allTenants := true, snapshotId := ids } =
      content.volumes.rows.filter fun v => v.snapshotId.any ids.contains := by
  refine List.filter_congr fun v _ => ?_
  simp [lists.shows, lists.bySnapshot, among, given]

theorem CinderLists.mem_volumesById (lists : CinderLists env) {ids : List String} {v : Volume} :
    v ∈ env.volumesById content ids ↔ v ∈ content.volumes ∧ v.id ∈ ids := by
  have batch_iff : ∀ batch ∈ batches ids,
      (v ∈ (env.answer content (.listVolumes .system { allTenants := true, id := batch } {})).1 ↔
        v ∈ content.volumes ∧ v.id ∈ batch) := by
    intro batch member
    rw [((env.listVolumes content _ _ _).perm rfl rfl).mem_iff, lists.listed_byId (batch_ne_nil member),
      List.mem_filter, List.contains_iff_mem, Table.mem_rows]
  rw [Env.volumesById, List.mem_flatMap, ← mem_batches]
  constructor
  · rintro ⟨batch, member, there⟩
    obtain ⟨held, named⟩ := (batch_iff batch member).mp there
    exact ⟨held, batch, member, named⟩
  · rintro ⟨held, batch, member, named⟩
    exact ⟨batch, member, (batch_iff batch member).mpr ⟨held, named⟩⟩

/-- What was created from a snapshot is listed once for it. -/
theorem CinderLists.fromSnapshot_perm (lists : CinderLists env) {ids : List String} (distinct : ids.Nodup) {i : String}
    (asked : i ∈ ids) : ((env.volumesBySnapshot content ids).filter fun v => v.snapshotId == some i).Perm
      (content.volumes.rows.filter fun v => v.snapshotId == some i) := by
  have each : ∀ batch ∈ batches ids,
      ((env.answer content (.listVolumes .system { allTenants := true, snapshotId := batch } {})).1.filter
        fun v => v.snapshotId == some i).Perm
          (if i ∈ batch then content.volumes.rows.filter fun v => v.snapshotId == some i else []) := by
    intro batch member
    refine (((env.listVolumes content _ _ _).perm rfl rfl).filter _).trans (.of_eq ?_)
    rw [lists.listed_bySnapshot (batch_ne_nil member), List.filter_filter]
    split
    · next here =>
      refine List.filter_congr fun v _ => ?_
      rw [Bool.and_eq_left_iff_imp, beq_iff_eq]
      intro made
      simp [made, here]
    · next absent =>
      refine List.filter_eq_nil_iff.mpr fun v _ => ?_
      rw [Bool.and_eq_true, beq_iff_eq]
      rintro ⟨made, within⟩
      simp [made, absent] at within
  rw [Env.volumesBySnapshot, List.filter_flatMap]
  refine (List.Perm.flatMap_left _ each).trans (.of_eq ?_)
  rw [flatMap_once (by rwa [batches_flatten]), batches_flatten, if_pos asked]

theorem mem_imagesById {ids : List String} {i : Image} :
    i ∈ env.imagesById content ids ↔ i ∈ content.images ∧ i.id ∈ ids := by
  rw [Env.imagesById, List.mem_flatMap, ← mem_batches]
  simp only [env.listImages]
  constructor
  · rintro ⟨batch, member, held, named⟩
    exact ⟨held, batch, member, named⟩
  · rintro ⟨held, batch, member, named⟩
    exact ⟨batch, member, held, named⟩

theorem mem_listOfSet {xs : List String} {x : String} : x ∈ lib.listOfSet xs ↔ x ∈ xs := by
  rw [(lib.listOfSet_perm xs).mem_iff, List.mem_dedup]

end Skyline.Extension
