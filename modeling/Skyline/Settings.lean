import Skyline.Python
import Skyline.Threads

/-!
The settings table of `db/api.py`. `update_setting` reads the row of a key, inserts or
updates it, and reads it again, inside a transaction of its own. But that transaction
belongs to a session which runs no statement: `DBWrapper.execute` and
`DBWrapper.fetch_one` each open another session and commit before they return, so the
row that `with_for_update` locks is released before the write. Every statement is a
transaction by itself, and calls interleave between their statements.

The migrations index `key` without making it unique, so nothing but the order of the
statements keeps a second row of a key out of the table. What the two calls need is said
step by step (`Undisturbed`): what an update has read or written about its key is still so
at its next statement.
-/
namespace Skyline.Settings
open Skyline.Effects Skyline.Programs Skyline.Python Skyline.Runs Skyline.Threads

structure Setting (Value : Type) where
  key : String
  value : Value
  deriving DecidableEq, Repr

/-- The statements, each of which is executed in its own transaction. -/
inductive Call (Value : Type)
  | select (key : String)
  | insert (key : String) (value : Value)
  | update (key : String) (value : Value)
  | delete (key : String)

/-- `select` fetches one row, if there is one; the others say how many rows they changed. -/
abbrev Answer (Value : Type) : Call Value → Type
  | .select _ => Option (Setting Value)
  | .insert _ _ | .update _ _ | .delete _ => Nat

variable {Value : Type}

def rowsOf (table : List (Setting Value)) (key : String) : List (Setting Value) :=
  table.filter (fun s => s.key = key)

/-- Executes a statement on the table. -/
def execute : (c : Call Value) → Eff (List (Setting Value)) Exn (Answer Value c)
  | .select key => fun table => (.ok (rowsOf table key).head?, table)
  | .insert key value => fun table => (.ok 1, table ++ [⟨key, value⟩])
  | .update key value => fun table =>
    (.ok (rowsOf table key).length, table.map (fun s => if s.key = key then { s with value := value } else s))
  | .delete key => fun table => (.ok (rowsOf table key).length, table.filter (fun s => s.key ≠ key))

section
variable (table : List (Setting Value)) (key k : String) (value : Value)

theorem rowsOf_insert : rowsOf (execute (.insert k value) table).2 key =
    rowsOf table key ++ if k = key then [⟨k, value⟩] else [] := by
  by_cases same : k = key
  · simp [rowsOf, execute, same]
  · simp [rowsOf, execute, same]

theorem rowsOf_update : rowsOf (execute (.update k value) table).2 key =
    (rowsOf table key).map (fun s => if s.key = k then { s with value := value } else s) := by
  have kept : ((fun s : Setting Value => decide (s.key = key)) ∘
      fun s => if s.key = k then { s with value := value } else s) = fun s => decide (s.key = key) := by
    funext s
    by_cases same : s.key = k
    · simp [same]
    · simp [same]
  simp only [rowsOf, execute, List.filter_map, kept]

theorem length_rowsOf_update : (rowsOf (execute (.update k value) table).2 key).length = (rowsOf table key).length := by
  rw [rowsOf_update, List.length_map]

theorem rowsOf_delete : rowsOf (execute (.delete k) table).2 key = if k = key then [] else rowsOf table key := by
  by_cases same : k = key
  · subst same
    simp [rowsOf, execute, List.filter_filter]
  · rw [if_neg same]
    simp only [rowsOf, execute, List.filter_filter]
    refine List.filter_congr fun s _ => ?_
    by_cases named : s.key = key
    · simp [named, Ne.symm same]
    · simp [named]

end

abbrev Statements (Value : Type) : Type → Type := Program (Answer Value) Exn

def fetchOne (key : String) : Statements Value (Option (Setting Value)) :=
  Program.remote (Call.select key : Call Value)

def insertRow (key : String) (value : Value) : Statements Value Nat := Program.remote (Call.insert key value)
def updateRows (key : String) (value : Value) : Statements Value Nat := Program.remote (Call.update key value)

def updateSetting (key : String) (value : Value) : Statements Value (Option (Setting Value)) := do
  let isExist ← fetchOne key
  let _ ← if isExist.isNone then insertRow key value else updateRows key value
  fetchOne key

def deleteSetting (key : String) : Statements Value Nat := Program.remote (Call.delete key : Call Value)

/-! ## Concurrent calls -/

inductive Job (Value : Type)
  | update (key : String) (value : Value)
  | delete (key : String)

/-- What a call returns: a row or `None`, or the number of rows deleted. -/
abbrev Returned (Value : Type) : Type := Option (Setting Value) ⊕ Nat

def program : Job Value → Statements Value (Returned Value)
  | .update key value => do return .inl (← updateSetting key value)
  | .delete key => do return .inr (← deleteSetting key)

abbrev Request (Value : Type) : Type := Thread (Job Value) (Answer Value) Exn (Returned Value)
abbrev Calls (Value : Type) : Type := Pool (List (Setting Value)) (Job Value) (Answer Value) Exn (Returned Value)

/-- All the ways in which the statements of calls interleave, from a table. -/
def calls (table : List (Setting Value)) : System (Calls Value) (Label (Job Value)) (Label (Job Value)) :=
  pool execute program table

/-- At most one row of every key. -/
def Single (table : List (Setting Value)) : Prop := ∀ key, (rowsOf table key).length ≤ 1

/-- Every call of `update_setting` that has ended returned a row of its key. -/
def Returns (threads : List (Request Value)) : Prop :=
  ∀ t ∈ threads, ∀ key value r, t.job = .update key value → t.rest = .done r →
    ∃ s : Setting Value, r = .ok (.inl (some s)) ∧ s.key = key

/-! ## The phases of a call -/

inductive Phase (Value : Type)
  | reading (key : String) (value : Value)
  /-- The key had no row when it was read. -/
  | inserting (key : String) (value : Value)
  /-- The key had a row when it was read. -/
  | updating (key : String) (value : Value)
  /-- The row has been written and is read again. -/
  | checking (key : String)
  | updated (key : String) (row : Option (Setting Value))
  | deleting (key : String)
  | deleted
  /-- A statement raised. -/
  | failed

def begun : Job Value → Phase Value
  | .update key value => .reading key value
  | .delete key => .deleting key

def statements : Protocol (Answer Value) Exn (Phase Value) where
  may
    | .reading key _, c | .checking key, c => c = .select key
    | .inserting key value, c => c = .insert key value
    | .updating key value, c => c = .update key value
    | .deleting key, c => c = .delete key
    | _, _ => False
  next
    | .reading key value, .select _, .ok none => .inserting key value
    | .reading key value, .select _, .ok (some _) => .updating key value
    | .inserting key _, _, .ok _ | .updating key _, _, .ok _ => .checking key
    | .checking key, .select _, .ok row => .updated key row
    | .deleting _, _, .ok _ => .deleted
    | _, _, _ => .failed

/-- The phase in which an update returns. -/
def Fetched (key : String) : Except Exn (Option (Setting Value)) → Phase Value → Prop
  | .ok row, q => q = .updated key row
  | .error _, q => q = .failed

/-- What a call that has ended in a phase has returned. -/
def ended : Job Value → Except Exn (Returned Value) → Phase Value → Prop
  | .update key _, r, q => (∃ row, q = .updated key row ∧ r = .ok (.inl row)) ∨ q = .failed
  | .delete _, _, _ => True

theorem fetchOne_follows (key : String) :
    Follows (statements : Protocol (Answer Value) Exn (Phase Value)) (Fetched key) (fetchOne key) (.checking key) := by
  refine .remote rfl fun r => ?_
  cases r with
  | ok row => rfl
  | error e => rfl

theorem updateSetting_follows (key : String) (value : Value) :
    Follows statements (Fetched key) (updateSetting key value) (.reading key value) := by
  refine .bind (.remote rfl fun r => ?_)
  rcases r with e | _ | s
  · rfl
  · refine .bind (.remote rfl fun r => ?_)
    cases r with
    | ok n => exact fetchOne_follows key
    | error e => rfl
  · refine .bind (.remote rfl fun r => ?_)
    cases r with
    | ok n => exact fetchOne_follows key
    | error e => rfl

theorem program_follows (job : Job Value) : Follows statements (ended job) (program job) (begun job) := by
  cases job with
  | update key value =>
    refine .bind ((updateSetting_follows key value).weaken fun r q fits => ?_)
    cases r with
    | ok row => exact .pure (.inl ⟨row, fits, rfl⟩)
    | error e => exact .inr fits
  | delete key =>
    refine .bind (.remote rfl fun r => ?_)
    cases r with
    | ok n => exact .pure trivial
    | error e => exact trivial

/-! ## Undisturbed calls -/

/-- The call has read or written a row of the key, and has a statement to come which
    relies on it. -/
def Phase.relies (key : String) : Phase Value → Bool
  | .updating k _ | .checking k => k = key
  | _ => false

abbrev phaseOf (t : Request Value) : Phase Value := phase statements begun t

/-- A row is inserted only while its key has none, and the rows of a key are deleted only
    while no update relies on one. -/
def Undisturbed (p : Calls Value) (_ : Request Value) : Call Value → Prop
  | .insert key _ => rowsOf p.state key = []
  | .delete key => ∀ u ∈ p.threads, (phaseOf u).relies key = false
  | .select _ | .update _ _ => True

/-- What the phase of a call says about the table. -/
def Sound (table : List (Setting Value)) : Phase Value → Prop
  | .updating key _ | .checking key => rowsOf table key ≠ []
  | .updated key row => ∃ s, row = some s ∧ s.key = key
  | .failed => False
  | _ => True

/-- The invariant of undisturbed calls. -/
structure Consistent (p : Calls Value) : Prop where
  single : Single p.state
  sound : ∀ t ∈ p.threads, Sound p.state (phaseOf t)

section
variable {table : List (Setting Value)} {c : Call Value}

theorem execute_single {p : Calls Value} {t : Request Value} (single : Single p.state) (undisturbed : Undisturbed p t c) :
    Single (execute c p.state).2 := by
  intro key
  have before := single key
  cases c with
  | select k => exact before
  | insert k value =>
    rw [rowsOf_insert]
    by_cases same : k = key
    · subst same
      rw [show rowsOf p.state k = [] from undisturbed]
      simp
    · simpa [same] using before
  | update k value =>
    rw [length_rowsOf_update]
    exact before
  | delete k =>
    rw [rowsOf_delete]
    split
    · simp
    · exact before

theorem head?_rowsOf {key : String} (some : rowsOf table key ≠ []) :
    ∃ s, (rowsOf table key).head? = .some s ∧ s.key = key := by
  cases rows : rowsOf table key with
  | nil => exact absurd rows some
  | cons s rest =>
    have member : s ∈ rowsOf table key := by rw [rows]; exact List.mem_cons_self
    exact ⟨s, rfl, by simpa using (List.mem_filter.mp member).2⟩

/-- What a statement of a call leaves is sound for its next phase. -/
theorem execute_sound {q : Phase Value} (sound : Sound table q) (may : statements.may q c) :
    Sound (execute c table).2 (statements.next q c (execute c table).1) := by
  cases q with
  | reading key value =>
    obtain rfl : c = .select key := may
    cases rows : rowsOf table key with
    | nil => simp [statements, execute, rows, Sound]
    | cons s rest => simp [statements, execute, rows, Sound]
  | inserting key value =>
    obtain rfl : c = .insert key value := may
    show rowsOf _ key ≠ []
    rw [rowsOf_insert]
    simp
  | updating key value =>
    obtain rfl : c = .update key value := may
    show rowsOf _ key ≠ []
    rw [← List.length_pos_iff_ne_nil, length_rowsOf_update]
    exact List.length_pos_iff_ne_nil.mpr sound
  | checking key =>
    obtain rfl : c = .select key := may
    exact head?_rowsOf sound
  | deleting key =>
    obtain rfl : c = .delete key := may
    exact trivial
  | updated | deleted | failed => exact may.elim

/-- What a statement of one call leaves is sound for the others. -/
theorem execute_sound_other {q : Phase Value} (sound : Sound table q)
    (reliable : ∀ key, c = .delete key → q.relies key = false) : Sound (execute c table).2 q := by
  have kept : ∀ key, q.relies key = true → rowsOf table key ≠ [] → rowsOf (execute c table).2 key ≠ [] := by
    intro key relies there
    cases c with
    | select k => exact there
    | insert k value =>
      rw [rowsOf_insert]
      exact List.append_ne_nil_of_left_ne_nil there _
    | update k value =>
      rw [← List.length_pos_iff_ne_nil, length_rowsOf_update]
      exact List.length_pos_iff_ne_nil.mpr there
    | delete k =>
      have other : k ≠ key := by
        rintro rfl
        simp [reliable k rfl] at relies
      rw [rowsOf_delete, if_neg other]
      exact there
  cases q with
  | updating key value => exact kept key (by simp [Phase.relies]) sound
  | checking key => exact kept key (by simp [Phase.relies]) sound
  | _ => exact sound

end

theorem undisturbed_run {table : List (Setting Value)} (single : Single table) {past : List (Label (Job Value))}
    {p : Calls Value} (run : (calls table).Run (Only Undisturbed) past p) :
    Consistent p ∧ ∀ t ∈ p.threads, Orderly statements begun ended t := by
  refine run_invariant program_follows ⟨single, by simp⟩ ?_ ?_ run
  · rintro p job ⟨single, sound⟩
    refine ⟨single, fun t member => ?_⟩
    rcases List.mem_append.mp member with old | new
    · exact sound t old
    · obtain rfl := List.mem_singleton.mp new
      cases job with
      | update key value => exact trivial
      | delete key => exact trivial
  · rintro p i t c rest ⟨single, sound⟩ there _ may undisturbed
    refine ⟨execute_single single undisturbed, fun u member => ?_⟩
    rcases List.mem_or_eq_of_mem_set member with old | rfl
    · refine execute_sound_other (sound u old) fun key named => ?_
      subst named
      exact undisturbed u old
    · exact execute_sound (sound t (List.mem_of_getElem? there)) may

theorem undisturbed_updates_atomic {table : List (Setting Value)} (single : Single table)
    {past : List (Label (Job Value))} {p : Calls Value} (run : (calls table).Run (Only Undisturbed) past p) :
    Single p.state ∧ Returns p.threads := by
  obtain ⟨⟨unique, sound⟩, orderly⟩ := undisturbed_run single run
  refine ⟨unique, fun t member key value r job rest => ?_⟩
  have here := orderly t member
  have state := sound t member
  rw [Orderly, rest, job] at here
  rcases here with ⟨row, phase, rfl⟩ | failed
  · rw [phaseOf, phase] at state
    obtain ⟨s, rfl, named⟩ := state
    exact ⟨s, rfl, named⟩
  · rw [phaseOf, failed] at state
    exact state.elim

instance (p : Calls Value) (t : Request Value) [DecidableEq Value] : ∀ c, Decidable (Undisturbed p t c)
  | .insert key _ => inferInstanceAs (Decidable (rowsOf p.state key = []))
  | .delete key => inferInstanceAs (Decidable (∀ u ∈ p.threads, (phaseOf u).relies key = false))
  | .select _ | .update _ _ => .isTrue trivial

/-- An update of a fresh key, and another that begins once the row is in the table. -/
theorem undisturbed_updates_atomic_twice : ∃ past p,
    (calls ([] : List (Setting String))).Run (Only Undisturbed) past p ∧
      p.state = [⟨"primary_color", "blue"⟩] ∧ Single p.state ∧ Returns p.threads := by
  obtain ⟨past, p, run, state⟩ := (calls []).exec_reaches (Only Undisturbed)
    (P := fun p => p.state = [⟨"primary_color", "blue"⟩])
    [.start (.update "primary_color" "red"), .start (.update "primary_color" "blue"), .advance 0, .advance 0,
      .advance 1, .advance 0, .advance 1, .advance 1] (by decide)
  exact ⟨past, p, run, state, undisturbed_updates_atomic (fun _ => by simp [rowsOf]) run⟩

/-- Two updates of a fresh key both find no row, and both insert one. -/
theorem updates_not_atomic : ¬ ∀ table : List (Setting String), Single table → ∀ past p,
    (calls table).AnyRun past p → Single p.state ∧ Returns p.threads := by
  intro atomic
  obtain ⟨past, p, run, rows⟩ := (calls []).exec_reaches (fun _ _ => True)
    (P := fun p => p.state = [⟨"primary_color", "red"⟩, ⟨"primary_color", "blue"⟩])
    [.start (.update "primary_color" "red"), .start (.update "primary_color" "blue"), .advance 0, .advance 1,
      .advance 0, .advance 1] (by decide)
  have single := (atomic [] (fun _ => by simp [rowsOf]) past p run).1 "primary_color"
  rw [rows] at single
  exact absurd single (by decide)

end Skyline.Settings
