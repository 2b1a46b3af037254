import Mathlib.Data.List.Nodup

/-!
Tables with a unique index. A table keeps its rows in insertion order and never
holds two rows with one key, so a row is determined by its key. An update maps
the rows with a key by a function that keeps the key, as `UPDATE ... WHERE`
with an equality on the indexed column does.
-/
namespace Skyline.Tables
universe u v

/-- The rows of a table, in insertion order; no two share a key. -/
structure Table (Row : Type u) {Key : Type v} (key : Row → Key) where
  rows : List Row
  unique : (rows.map key).Nodup

variable {Row : Type u} {Key : Type v} {key : Row → Key}
namespace Table

instance : Membership Row (Table Row key) := ⟨fun t r => r ∈ t.rows⟩

theorem mem_rows {t : Table Row key} {r : Row} : r ∈ t ↔ r ∈ t.rows := Iff.rfl

def empty : Table Row key := ⟨[], List.nodup_nil⟩

@[simp] theorem not_mem_empty (r : Row) : r ∉ (empty : Table Row key) := List.not_mem_nil

theorem eq_of_key {t : Table Row key} {r s : Row} (hr : r ∈ t) (hs : s ∈ t) (same : key r = key s) : r = s :=
  List.inj_on_of_nodup_map t.unique hr hs same

theorem ext_rows {t t' : Table Row key} (same : t.rows = t'.rows) : t = t' := by
  cases t
  cases t'
  cases same
  rfl

def select (t : Table Row key) (p : Row → Bool) : List Row := t.rows.filter p

@[simp] theorem mem_select {t : Table Row key} {p : Row → Bool} {r : Row} :
    r ∈ t.select p ↔ r ∈ t ∧ p r = true := List.mem_filter

variable [DecidableEq Key]

def find (t : Table Row key) (k : Key) : Option Row := t.rows.find? (fun r => key r = k)

theorem find_eq_some {t : Table Row key} {k : Key} {r : Row} : t.find k = some r ↔ r ∈ t ∧ key r = k := by
  constructor
  · intro found
    exact ⟨List.mem_of_find?_eq_some found, by simpa using List.find?_some found⟩
  · rintro ⟨member, rfl⟩
    cases found : t.find (key r) with
    | none => simpa using List.find?_eq_none.mp found r member
    | some s =>
      have same : key s = key r := by simpa using List.find?_some found
      rw [eq_of_key (List.mem_of_find?_eq_some found) member same]

theorem find_eq_none {t : Table Row key} {k : Key} : t.find k = none ↔ ∀ r ∈ t, key r ≠ k := by
  simp [find, mem_rows]

theorem find_isSome {t : Table Row key} {k : Key} : (t.find k).isSome = true ↔ ∃ r ∈ t, key r = k := by
  simp only [Option.isSome_iff_exists, find_eq_some]

/-- Appends a row, unless its key is taken. -/
def insert (t : Table Row key) (r : Row) : Option (Table Row key) :=
  if fresh : key r ∈ t.rows.map key then none
  else some ⟨t.rows ++ [r], by simpa [List.nodup_append, t.unique] using fun s hs same => fresh (by
    rw [← same]; exact List.mem_map_of_mem hs)⟩

theorem mem_insert {t t' : Table Row key} {r s : Row} (inserted : t.insert r = some t') :
    s ∈ t' ↔ s ∈ t ∨ s = r := by
  unfold insert at inserted
  split at inserted
  · cases inserted
  · cases inserted
    simp [mem_rows]

theorem insert_fresh {t t' : Table Row key} {r : Row} (inserted : t.insert r = some t') : ∀ s ∈ t, key s ≠ key r := by
  intro s member same
  unfold insert at inserted
  split at inserted
  · cases inserted
  · next fresh => exact fresh (same ▸ List.mem_map_of_mem member)

theorem insert_rows {t t' : Table Row key} {r : Row} (inserted : t.insert r = some t') : t'.rows = t.rows ++ [r] := by
  unfold insert at inserted
  split at inserted
  · cases inserted
  · cases inserted
    rfl

theorem insert_length {t t' : Table Row key} {r : Row} (inserted : t.insert r = some t') :
    t'.rows.length = t.rows.length + 1 := by
  rw [insert_rows inserted, List.length_append, List.length_singleton]

theorem insert_of_fresh {t : Table Row key} {r : Row} (fresh : ∀ s ∈ t, key s ≠ key r) : ∃ t', t.insert r = some t' := by
  have absent : key r ∉ t.rows.map key := by
    intro taken
    obtain ⟨s, member, same⟩ := List.mem_map.mp taken
    exact fresh s member same
  rw [insert, dif_neg absent]
  exact ⟨_, rfl⟩

theorem insert_of_taken {t : Table Row key} {r : Row} (taken : ¬ ∀ s ∈ t, key s ≠ key r) : t.insert r = none := by
  cases inserted : t.insert r with
  | none => rfl
  | some t' => exact absurd (insert_fresh inserted) taken

/-- Maps the row with a key; the other rows stay as they are. -/
def update (t : Table Row key) (k : Key) (f : Row → Row) (keeps : ∀ r, key (f r) = key r) : Table Row key where
  rows := t.rows.map (fun r => if key r = k then f r else r)
  unique := by
    have same : key ∘ (fun r => if key r = k then f r else r) = key := by
      funext r
      simp only [Function.comp_apply]
      split
      · exact keeps r
      · rfl
    rw [List.map_map, same]
    exact t.unique

section
variable {t : Table Row key} {k : Key} {f : Row → Row} {keeps : ∀ r, key (f r) = key r}

theorem mem_update {s : Row} :
    s ∈ t.update k f keeps ↔ ∃ r ∈ t, s = if key r = k then f r else r := by
  simp [mem_rows, update, eq_comm]

theorem mem_update_key {r : Row} (member : r ∈ t) (same : key r = k) : f r ∈ t.update k f keeps :=
  mem_update.mpr ⟨r, member, by simp [same]⟩

theorem find_update (i : Key) :
    (t.update k f keeps).find i = (t.find i).map (fun r => if key r = k then f r else r) := by
  have same : ∀ r, key (if key r = k then f r else r) = key r := by
    intro r
    split
    · exact keeps r
    · rfl
  simp only [find, update, List.find?_map, Function.comp_def, same]

theorem find_update_same : (t.update k f keeps).find k = (t.find k).map f := by
  rw [find_update]
  rcases there : t.find k with _ | r
  · rfl
  · simp [(find_eq_some.mp there).2]

theorem find_update_ne {i : Key} (other : k ≠ i) : (t.update k f keeps).find i = t.find i := by
  rw [find_update]
  rcases there : t.find i with _ | r
  · rfl
  · have named : key r ≠ k := fun same => other (same ▸ (find_eq_some.mp there).2)
    simp [named]

end

def delete (t : Table Row key) (k : Key) : Table Row key where
  rows := t.rows.filter (fun r => key r ≠ k)
  unique := (List.filter_sublist.map key).nodup t.unique

theorem mem_delete {t : Table Row key} {k : Key} {r : Row} : r ∈ t.delete k ↔ r ∈ t ∧ key r ≠ k := by
  simp [mem_rows, delete]

end Table
end Skyline.Tables
