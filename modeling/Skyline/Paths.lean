import Mathlib.Data.List.Infix

/-!
Paths of POSIX, as text and as names. A path is a root and the names after it: empty names and the
name `.` are left out, and two slashes at the beginning, but no more, are a root of their own. What
a path is matched with is a glob, of which a pattern without a slash looks at the last name only.
-/
namespace Skyline.Paths

abbrev Text : Type := List Char

/-! ## Splitting -/

/-- The texts between the separators. -/
def split (separator : Char) : Text → List Text
  | [] => [[]]
  | c :: text =>
    if c = separator then [] :: split separator text
    else match split separator text with
      | [] => [[c]]
      | first :: rest => (c :: first) :: rest

section
variable {separator : Char}

theorem split_ne_nil (text : Text) : split separator text ≠ [] := by
  cases text with
  | nil => simp [split]
  | cons c text =>
    rw [split]
    split
    · simp
    · split
      · simp
      · simp

/-- What comes before the first separator belongs to the first text. -/
theorem split_append {before : Text} (free : separator ∉ before) {text first : Text} {rest : List Text}
    (parts : split separator text = first :: rest) : split separator (before ++ text) = (before ++ first) :: rest := by
  induction before with
  | nil => exact parts
  | cons c before ih =>
    rw [List.mem_cons, not_or] at free
    rw [List.cons_append, split, if_neg (Ne.symm free.1), ih free.2]
    rfl

theorem separator_not_mem {text part : Text} (member : part ∈ split separator text) : separator ∉ part := by
  induction text generalizing part with
  | nil =>
    obtain rfl := List.mem_singleton.mp member
    exact List.not_mem_nil
  | cons c text ih =>
    rw [split] at member
    split at member
    · rcases List.mem_cons.mp member with rfl | later
      · exact List.not_mem_nil
      · exact ih later
    · next other =>
      split at member
      · obtain rfl := List.mem_singleton.mp member
        simpa using Ne.symm other
      · next first rest parts =>
        rcases List.mem_cons.mp member with rfl | later
        · have free := ih (parts ▸ List.mem_cons_self)
          simpa using ⟨Ne.symm other, free⟩
        · exact ih (parts ▸ List.mem_cons_of_mem first later)

end

/-! ## Segments -/

/-- The texts between slashes that are not empty. -/
def segments (text : Text) : List Text := (split '/' text).filter fun s => !s.isEmpty

/-- A slash before each of the segments. -/
def rooted (segs : List Text) : Text := segs.flatMap ('/' :: ·)

/-- Texts that can stand between slashes. -/
def Proper (segs : List Text) : Prop := ∀ s ∈ segs, s ≠ [] ∧ '/' ∉ s

theorem Proper.part {segs before : List Text} (proper : Proper segs) (part : before <+: segs) : Proper before :=
  fun s member => proper s (part.subset member)

theorem segments_proper (text : Text) : Proper (segments text) := by
  intro s member
  obtain ⟨part, filled⟩ := List.mem_filter.mp member
  exact ⟨by simpa using filled, separator_not_mem part⟩

theorem split_rooted {segs : List Text} (proper : Proper segs) : split '/' (rooted segs) = [] :: segs := by
  induction segs with
  | nil => rfl
  | cons s segs ih =>
    have rest := ih fun t member => proper t (List.mem_cons_of_mem s member)
    have free := (proper s List.mem_cons_self).2
    show split '/' ('/' :: (s ++ rooted segs)) = [] :: s :: segs
    rw [split, if_pos rfl, split_append free rest, List.append_nil]

theorem segments_rooted {segs : List Text} (proper : Proper segs) : segments (rooted segs) = segs := by
  rw [segments, split_rooted proper, List.filter_cons_of_neg (by simp), List.filter_eq_self]
  intro s member
  simpa using (proper s member).1

theorem segments_cons (text : Text) : segments ('/' :: text) = segments text := by
  rw [segments, split, if_pos rfl, List.filter_cons_of_neg (by simp)]
  rfl

theorem split_concat {separator : Char} (text : Text) : split separator (text ++ [separator]) = split separator text ++ [[]] := by
  induction text with
  | nil => simp [split]
  | cons c text ih =>
    rw [List.cons_append, split, ih, split]
    by_cases same : c = separator
    · rw [if_pos same, if_pos same]
      rfl
    · rw [if_neg same, if_neg same]
      cases parts : split separator text with
      | nil => exact absurd parts (split_ne_nil text)
      | cons first rest => rfl

theorem segments_concat (text : Text) : segments (text ++ ['/']) = segments text := by
  rw [segments, split_concat, List.filter_append, List.filter_cons_of_neg (by simp), List.filter_nil, List.append_nil]
  rfl

/-! ## Pure paths -/

/-- `PurePosixPath`. -/
structure PurePath where
  root : Text
  names : List Text
  deriving DecidableEq, Repr

/-- The root of a text. -/
def rootOf : Text → Text
  | '/' :: '/' :: '/' :: _ => ['/']
  | '/' :: '/' :: _ => ['/', '/']
  | '/' :: _ => ['/']
  | _ => []

/-- The names of a text. -/
def namesOf (text : Text) : List Text := (segments text).filter fun s => s != ['.']

namespace PurePath

/-- `PurePath(text)`. -/
def of (text : Text) : PurePath := ⟨rootOf text, namesOf text⟩

/-- `len(path.parts)`: the root, if there is one, is a part. -/
def length (p : PurePath) : Nat := p.names.length + if p.root.isEmpty then 0 else 1

/-- The names with a slash between every two of them. -/
def joined : List Text → Text
  | [] => []
  | name :: names => name ++ rooted names

/-- `str(path)`. -/
def str (p : PurePath) : Text := if p.root.isEmpty && p.names.isEmpty then ['.'] else p.root ++ joined p.names

/-- `path.parents[i]`, where there is one. -/
def parent (p : PurePath) (i : Nat) : Option PurePath :=
  if i < p.names.length then some { p with names := p.names.take (p.names.length - (i + 1)) } else none

/-- `path.joinpath(text)`: a text with a root is the new path. -/
def join (p : PurePath) (text : Text) : PurePath :=
  if (rootOf text).isEmpty then { p with names := p.names ++ namesOf text } else of text

/-- A root that a text can have, and names that it can have. -/
structure Valid (p : PurePath) : Prop where
  root : p.root = [] ∨ p.root = ['/'] ∨ p.root = ['/', '/']
  proper : Proper p.names
  noDot : ['.'] ∉ p.names

end PurePath

theorem rootOf_cases (text : Text) : rootOf text = [] ∨ rootOf text = ['/'] ∨ rootOf text = ['/', '/'] := by
  rw [rootOf.eq_def]
  split
  · exact .inr (.inl rfl)
  · exact .inr (.inr rfl)
  · exact .inr (.inl rfl)
  · exact .inl rfl

theorem namesOf_proper (text : Text) : Proper (namesOf text) :=
  fun s member => segments_proper text s (List.mem_filter.mp member).1

theorem dot_not_mem (text : Text) : ['.'] ∉ namesOf text :=
  fun member => absurd (List.mem_filter.mp member).2 (by simp)

namespace PurePath

theorem of_valid (text : Text) : (of text).Valid := ⟨rootOf_cases text, namesOf_proper text, dot_not_mem text⟩

theorem Valid.join {p : PurePath} (valid : p.Valid) (text : Text) : (p.join text).Valid := by
  rw [PurePath.join]
  split
  · refine ⟨valid.root, fun s member => ?_, fun member => ?_⟩
    · rcases List.mem_append.mp member with early | late
      · exact valid.proper s early
      · exact namesOf_proper text s late
    · rcases List.mem_append.mp member with early | late
      · exact valid.noDot early
      · exact dot_not_mem text late
  · exact of_valid text

section
variable {names : List Text}

theorem head_joined (proper : Proper names) : (joined names).head? ≠ some '/' := by
  cases names with
  | nil => exact nofun
  | cons name names =>
    cases name with
    | nil => exact absurd rfl (proper [] List.mem_cons_self).1
    | cons c name =>
      intro slash
      obtain rfl := Option.some.inj slash
      exact (proper _ List.mem_cons_self).2 List.mem_cons_self

theorem segments_joined (proper : Proper names) : segments (joined names) = names := by
  cases names with
  | nil => rfl
  | cons name names => exact (segments_cons _).symm.trans (segments_rooted proper)

theorem namesOf_joined (proper : Proper names) (noDot : ['.'] ∉ names) : namesOf (joined names) = names := by
  rw [namesOf, segments_joined proper, List.filter_eq_self]
  intro s member
  simpa using fun is : s = ['.'] => noDot (is ▸ member)

theorem rootOf_append {root text : Text} (head : text.head? ≠ some '/')
    (cases : root = [] ∨ root = ['/'] ∨ root = ['/', '/']) : rootOf (root ++ text) = root := by
  cases text with
  | nil =>
    rcases cases with rfl | rfl | rfl
    · rfl
    · rfl
    · rfl
  | cons c text =>
    have other : c ≠ '/' := fun is => head (congrArg some is)
    rcases cases with rfl | rfl | rfl
    · simp [rootOf.eq_def, other]
    · simp [rootOf.eq_def, other]
    · simp [rootOf.eq_def, other]

theorem namesOf_append {root : Text} (cases : root = [] ∨ root = ['/'] ∨ root = ['/', '/']) (text : Text) :
    namesOf (root ++ text) = namesOf text := by
  rcases cases with rfl | rfl | rfl
  · rfl
  · rw [namesOf, List.singleton_append, segments_cons]
    rfl
  · rw [namesOf, List.cons_append, List.singleton_append, segments_cons, segments_cons]
    rfl

/-- A path is read back from its text. -/
theorem of_str {p : PurePath} (valid : p.Valid) : of p.str = p := by
  rw [str]
  split
  · next nothing =>
    obtain ⟨root, names⟩ := p
    rw [Bool.and_eq_true, List.isEmpty_iff, List.isEmpty_iff] at nothing
    obtain ⟨rfl, rfl⟩ := nothing
    rfl
  · rw [of, rootOf_append (head_joined valid.proper) valid.root, namesOf_append valid.root,
      namesOf_joined valid.proper valid.noDot]

theorem str_injective {p p' : PurePath} (valid : p.Valid) (valid' : p'.Valid) (same : p.str = p'.str) : p = p' := by
  rw [← of_str valid, same, of_str valid']

end

end PurePath

/-! ## Globs -/

inductive Token
  /-- `*`. -/
  | star
  /-- `[...]`, or a character that stands for itself. -/
  | oneOf (chars : List Char)
  deriving DecidableEq, Repr

abbrev Glob : Type := List Token

/-- Characters that stand for themselves. -/
def literal (text : Text) : Glob := text.map fun c => .oneOf [c]

def Glob.matches : Glob → Text → Bool
  | [], text => text.isEmpty
  | .star :: glob, text => text.tails.any fun rest => Glob.matches glob rest
  | .oneOf _ :: _, [] => false
  | .oneOf chars :: glob, c :: text => chars.contains c && Glob.matches glob text

theorem Glob.matches_star {glob : Glob} {text : Text} : Glob.matches (.star :: glob) text = true ↔
    ∃ before rest, text = before ++ rest ∧ Glob.matches glob rest = true := by
  rw [Glob.matches, List.any_eq_true]
  constructor
  · rintro ⟨rest, tail, found⟩
    obtain ⟨before, rfl⟩ := (List.mem_tails _ _).mp tail
    exact ⟨before, rest, rfl, found⟩
  · rintro ⟨before, rest, rfl, found⟩
    exact ⟨rest, (List.mem_tails _ _).mpr ⟨before, rfl⟩, found⟩

theorem Glob.matches_oneOf {chars : List Char} {glob : Glob} {text : Text} :
    Glob.matches (.oneOf chars :: glob) text = true ↔
      ∃ c rest, text = c :: rest ∧ c ∈ chars ∧ Glob.matches glob rest = true := by
  cases text with
  | nil => simp [Glob.matches]
  | cons c text => simp [Glob.matches, and_assoc]

theorem Glob.matches_literal {lit : Text} {glob : Glob} {text : Text} :
    Glob.matches (literal lit ++ glob) text = true ↔ ∃ rest, text = lit ++ rest ∧ Glob.matches glob rest = true := by
  induction lit generalizing text with
  | nil => simp [literal]
  | cons c lit ih =>
    rw [literal, List.map_cons, List.cons_append, ← literal, Glob.matches_oneOf]
    simp only [ih, List.mem_singleton]
    constructor
    · rintro ⟨_, _, rfl, rfl, rest, rfl, found⟩
      exact ⟨rest, rfl, found⟩
    · rintro ⟨rest, rfl, found⟩
      exact ⟨c, lit ++ rest, rfl, rfl, rest, rfl, found⟩

/-- `path.match(pattern)`, for a pattern without a slash. -/
def PurePath.matches (p : PurePath) (glob : Glob) : Bool :=
  match p.names.getLast? with
  | some name => glob.matches name
  | none => false

end Skyline.Paths
