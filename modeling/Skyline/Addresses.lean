import Mathlib.Data.List.Basic

/-!
The texts of Internet addresses. An address of version 4 is written as four numbers with points
between them. One of version 6 is written as eight groups with colons between them, where a run of
groups that are zero may be left out, the last two groups may be written as an address of version 4,
and a zone may follow.
-/
namespace Skyline.Addresses

/-! ## Words with a separator -/

/-- The words, with the character between every two of them. -/
def joined (separator : Char) : List (List Char) → List Char
  | [] => []
  | [word] => word
  | word :: next :: words => word ++ separator :: joined separator (next :: words)

/-- A character is in a word, or it is the separator of two words. -/
theorem mem_joined {separator c : Char} {words : List (List Char)} :
    c ∈ joined separator words ↔ (∃ word ∈ words, c ∈ word) ∨ c = separator ∧ 2 ≤ words.length := by
  induction words with
  | nil => simp [joined]
  | cons word words ih =>
    cases words with
    | nil => simp [joined]
    | cons next words =>
      rw [joined, List.mem_append, List.mem_cons, ih, List.exists_mem_cons_iff (fun word => c ∈ word) word]
      constructor
      · rintro (here | between | inside | ⟨between, -⟩)
        · exact .inl (.inl here)
        · exact .inr ⟨between, Nat.le_add_left 2 words.length⟩
        · exact .inl (.inr inside)
        · exact .inr ⟨between, Nat.le_add_left 2 words.length⟩
      · rintro ((here | inside) | ⟨between, -⟩)
        · exact .inl here
        · exact .inr (.inr (.inl inside))
        · exact .inr (.inl between)

/-! ## Version 4 -/

structure Ipv4 where
  bytes : List (Fin 256)
  four : bytes.length = 4

def Ipv4.text (a : Ipv4) : List Char := joined '.' (a.bytes.map fun byte => Nat.toDigits 10 byte.val)

theorem Ipv4.mem_text {a : Ipv4} {c : Char} (inside : c ∈ a.text) : c.isDigit = true ∨ c = '.' := by
  rcases mem_joined.mp inside with ⟨word, member, digit⟩ | ⟨point, -⟩
  · obtain ⟨byte, -, rfl⟩ := List.mem_map.mp member
    exact .inl (Nat.isDigit_of_mem_toDigits (by decide) (by decide) digit)
  · exact .inr point

theorem Ipv4.point_mem (a : Ipv4) : '.' ∈ a.text := by
  refine mem_joined.mpr (.inr ⟨rfl, ?_⟩)
  rw [List.length_map, a.four]
  decide

theorem Ipv4.colon_not_mem (a : Ipv4) : ':' ∉ a.text := by
  intro inside
  rcases Ipv4.mem_text inside with digit | point
  · exact absurd digit (by decide)
  · exact absurd point (by decide)

/-! ## Version 6 -/

def hexDigits : List Char := "0123456789abcdefABCDEF".toList

/-- Sixteen bits, in one to four digits of either case. -/
structure Group where
  digits : List Char
  some : digits ≠ []
  four : digits.length ≤ 4
  hex : digits.all hexDigits.contains = true

theorem Group.point_not_mem (g : Group) : '.' ∉ g.digits := by
  intro inside
  exact absurd (List.all_eq_true.mp g.hex _ inside) (by decide)

/-- Groups, the last two of which may be an address of version 4. -/
structure Groups where
  plain : List Group
  embedded : Option Ipv4

/-- How many groups they stand for. -/
def Groups.width (gs : Groups) : Nat :=
  gs.plain.length + match gs.embedded with
    | none => 0
    | some _ => 2

def Groups.words (gs : Groups) : List (List Char) := gs.plain.map Group.digits ++ gs.embedded.toList.map Ipv4.text

def Groups.text (gs : Groups) : List Char := joined ':' gs.words

theorem Groups.width_le (gs : Groups) : gs.width ≤ gs.words.length + 1 := by
  rw [width, words, List.length_append, List.length_map]
  cases gs.embedded with
  | none => simp
  | some a => simp

theorem Groups.point_mem_iff (gs : Groups) : '.' ∈ gs.text ↔ gs.embedded.isSome = true := by
  rw [text, mem_joined, or_iff_left fun both => absurd both.1 (by decide), words]
  constructor
  · rintro ⟨word, member, inside⟩
    rcases List.mem_append.mp member with plain | embedded
    · obtain ⟨g, -, rfl⟩ := List.mem_map.mp plain
      exact absurd inside g.point_not_mem
    · obtain ⟨a, is, -⟩ := List.mem_map.mp embedded
      rw [Option.mem_toList] at is
      rw [is, Option.isSome_some]
  · intro has
    obtain ⟨a, is⟩ := Option.isSome_iff_exists.mp has
    exact ⟨a.text, List.mem_append_right _ (List.mem_map_of_mem (Option.mem_toList.mpr is)), a.point_mem⟩

inductive Ipv6
  | full (groups : Groups) (eight : groups.width = 8)
  /-- The groups between the two lists are zero, and there is one at least. -/
  | compressed (left : List Group) (right : Groups) (few : left.length + right.width < 8)

def Ipv6.text : Ipv6 → List Char
  | full groups _ => groups.text
  | compressed left right _ => joined ':' (left.map Group.digits) ++ ':' :: ':' :: right.text

/-- The address of version 4 that the text ends with. -/
def Ipv6.embedded : Ipv6 → Option Ipv4
  | full groups _ => groups.embedded
  | compressed _ right _ => right.embedded

theorem Ipv6.colon_mem (a : Ipv6) : ':' ∈ a.text := by
  cases a with
  | full groups eight =>
    have words := groups.width_le
    exact mem_joined.mpr (.inr ⟨rfl, by omega⟩)
  | compressed left right few => exact List.mem_append_right _ List.mem_cons_self

theorem Ipv6.point_mem_iff (a : Ipv6) : '.' ∈ a.text ↔ a.embedded.isSome = true := by
  cases a with
  | full groups eight => exact groups.point_mem_iff
  | compressed left right few =>
    have plain : '.' ∉ joined ':' (left.map Group.digits) := by
      intro inside
      rcases mem_joined.mp inside with ⟨word, member, point⟩ | ⟨between, -⟩
      · obtain ⟨g, -, rfl⟩ := List.mem_map.mp member
        exact g.point_not_mem point
      · exact absurd between (by decide)
    rw [text, List.mem_append, or_iff_right plain, List.mem_cons, or_iff_right (by decide), List.mem_cons,
      or_iff_right (by decide), right.point_mem_iff]
    rfl

/-! ## Addresses -/

/-- The zone of an address that is unique only within it. -/
structure Zone where
  name : List Char
  some : name ≠ []
  percent : '%' ∉ name

inductive Address
  | v4 (a : Ipv4)
  | v6 (a : Ipv6) (zone : Option Zone)

namespace Address

def chars : Address → List Char
  | v4 a => a.text
  | v6 a none => a.text
  | v6 a (some zone) => a.text ++ '%' :: zone.name

def text (a : Address) : String := String.ofList a.chars

def isV6 : Address → Bool
  | v4 _ => false
  | v6 _ _ => true

/-- The addresses of version 6 are those whose text has a colon. -/
theorem colon_mem_iff (a : Address) : ':' ∈ a.chars ↔ a.isV6 = true := by
  cases a with
  | v4 a => exact iff_of_false a.colon_not_mem Bool.false_ne_true
  | v6 a zone =>
    refine iff_of_true ?_ rfl
    cases zone with
    | none => exact a.colon_mem
    | some zone => exact List.mem_append_left _ a.colon_mem

/-- A text with a point is of version 4, or it has an address of version 4 in it, or a zone with
    a point. -/
theorem point_mem_iff (a : Address) : '.' ∈ a.chars ↔ match a with
    | v4 _ => True
    | v6 a none => a.embedded.isSome = true
    | v6 a (some zone) => a.embedded.isSome = true ∨ '.' ∈ zone.name := by
  match a with
  | v4 a => exact iff_of_true a.point_mem trivial
  | v6 a none => exact a.point_mem_iff
  | v6 a (some zone) =>
    show '.' ∈ a.text ++ '%' :: zone.name ↔ _
    rw [List.mem_append, List.mem_cons, or_iff_right (show '.' ≠ '%' by decide), a.point_mem_iff]

end Address

end Skyline.Addresses
