import Mathlib.Data.List.Basic

/-!
String literals of Python: how a text is written as one (`repr`), and what the literals of a source
text are and have for their values. A literal is longer than its value by the quotes at least, since
no escape sequence stands for more than it is written with.
-/
namespace Skyline.Literals

abbrev Text : Type := List Char

/-! ## Numbers -/

/-- The value of a digit. -/
def digitOf (base : Nat) (c : Char) : Option Nat := ("0123456789abcdef".toList.take base).idxOf? c.toLower

def number (base : Nat) (digits : Text) : Option Nat :=
  digits.foldlM (fun n c => (digitOf base c).map fun d => n * base + d) 0

/-- The character of a code, if it is no half of a surrogate pair. -/
def charOf (code : Nat) : Option Char := if code.isValidChar then some (Char.ofNat code) else none

/-! ## Writing -/

/-- A code with so many digits. -/
def padded (width code : Nat) : Text :=
  let digits := Nat.toDigits 16 code
  List.replicate (width - digits.length) '0' ++ digits

/-- How `repr` writes a character between quotes. -/
def reprChar (printable : Char → Bool) (quote c : Char) : Text :=
  if c = quote ∨ c = '\\' then ['\\', c]
  else if c = '\t' then ['\\', 't']
  else if c = '\n' then ['\\', 'n']
  else if c = '\r' then ['\\', 'r']
  else if (32 ≤ c.toNat ∧ c.toNat < 127) ∨ (127 < c.toNat ∧ printable c = true) then [c]
  else if c.toNat < 256 then '\\' :: 'x' :: padded 2 c.toNat
  else if c.toNat < 65536 then '\\' :: 'u' :: padded 4 c.toNat
  else '\\' :: 'U' :: padded 8 c.toNat

/-- `repr(s)`: `str.isprintable` is a parameter. -/
def repr (printable : Char → Bool) (s : String) : String :=
  let quote := if s.toList.contains '\'' && !s.toList.contains '"' then '"' else '\''
  String.ofList (quote :: s.toList.flatMap (reprChar printable quote) ++ [quote])

/-! ## Reading -/

/-- The escape sequences of one character. -/
def escapes : List (Char × Text) :=
  [('\n', []), ('\\', ['\\']), ('\'', ['\'']), ('"', ['"']), ('a', ['\x07']), ('b', ['\x08']), ('f', ['\x0c']),
   ('n', ['\n']), ('r', ['\r']), ('t', ['\t']), ('v', ['\x0b'])]

/-- A character by its code, of so many digits. -/
def coded (width : Nat) (text : Text) : Option (Text × Text) :=
  if width ≤ text.length then ((number 16 (text.take width)).bind charOf).map fun c => ([c], text.drop width) else none

/-- A character by its name, in braces. -/
def named (names : Text → Option Char) : Text → Option (Text × Text)
  | '{' :: text =>
    if text.contains '}' then (names (text.takeWhile (· != '}'))).map fun c => ([c], (text.dropWhile (· != '}')).drop 1)
    else none
  | _ => none

/-- The octal digits at the beginning, three at most. -/
def octals (text : Text) : Text := (text.take 3).takeWhile fun c => (digitOf 8 c).isSome

/-- What an escape sequence stands for, and the text after it. The backslash is left out. -/
def escape (names : Text → Option Char) : Text → Option (Text × Text)
  | [] => none
  | c :: text =>
    match escapes.lookup c with
    | some value => some (value, text)
    | none =>
      if c = 'x' then coded 2 text
      else if c = 'u' then coded 4 text
      else if c = 'U' then coded 8 text
      else if c = 'N' then named names text
      else if (digitOf 8 c).isSome then
        ((number 8 (octals (c :: text))).bind charOf).map fun d => ([d], (c :: text).drop (octals (c :: text)).length)
      else some (['\\', c], text)

/-- What is quoted, up to the quote, and the text after that. -/
def quoted (names : Text → Option Char) (raw : Bool) (quote : Text) : Nat → Text → Option (Text × Text)
  | 0, _ => none
  | fuel + 1, text =>
    if quote.isPrefixOf text then some ([], text.drop quote.length)
    else match text with
      | [] => none
      | c :: rest =>
        if c = '\\' then
          match if raw then rest.head?.map fun d => (['\\', d], rest.drop 1) else escape names rest with
          | none => none
          | some (value, rest) => (quoted names raw quote fuel rest).map fun (more, after) => (value ++ more, after)
        else if c = '\n' ∧ quote.length = 1 then none
        else (quoted names raw quote fuel rest).map fun (more, after) => (c :: more, after)

def quotes : List Text := ["\"\"\"", "'''", "\"", "'"].map String.toList

def body (names : Text → Option Char) (raw : Bool) (text : Text) : Option (Text × Text) :=
  match quotes.find? fun quote => quote.isPrefixOf text with
  | some quote => quoted names raw quote text.length (text.drop quote.length)
  | none => none

/-- The value of the literal at the beginning of a text, and the text after it. -/
def literal (names : Text → Option Char) : Text → Option (Text × Text)
  | [] => none
  | c :: text =>
    if c = 'r' ∨ c = 'R' then body names true text
    else if c = 'u' ∨ c = 'U' then body names false text
    else body names false (c :: text)

/-- The ends of lines are the same in every source text. -/
def universal : Text → Text
  | [] => []
  | '\r' :: '\n' :: text => '\n' :: universal text
  | '\r' :: text => '\n' :: universal text
  | c :: text => c :: universal text

/-- The text is a literal with the value. The names of characters are a parameter. -/
def IsLiteral (names : Text → Option Char) (text value : Text) : Prop := literal names (universal text) = some (value, [])

/-! ## Literals are longer than their values -/

section
variable {names : Text → Option Char} {text value rest : Text}

theorem coded_length {width : Nat} (positive : 0 < width) (read : coded width text = some (value, rest)) :
    value.length + rest.length ≤ text.length := by
  rw [coded] at read
  split at read
  · next enough =>
    obtain ⟨c, -, same⟩ := Option.map_eq_some_iff.mp read
    obtain ⟨rfl, rfl⟩ := Prod.mk.inj same
    rw [List.length_drop, List.length_singleton]
    omega
  · cases read

theorem named_length (read : named names text = some (value, rest)) : value.length + rest.length ≤ text.length := by
  rw [named.eq_def] at read
  split at read
  · next inner =>
    split at read
    · obtain ⟨c, -, same⟩ := Option.map_eq_some_iff.mp read
      obtain ⟨rfl, rfl⟩ := Prod.mk.inj same
      have part := (List.dropWhile_suffix (l := inner) (· != '}')).length_le
      rw [List.length_drop, List.length_singleton, List.length_cons]
      omega
    · cases read
  · cases read

theorem mem_of_lookup {κ ν : Type} [BEq κ] [LawfulBEq κ] {entries : List (κ × ν)} {key : κ} {item : ν}
    (found : entries.lookup key = some item) : (key, item) ∈ entries := by
  obtain ⟨before, after, split, -⟩ := List.lookup_eq_some_iff.mp found
  rw [split]
  exact List.mem_append_right before List.mem_cons_self

theorem escapes_length {c : Char} (found : escapes.lookup c = some value) : value.length ≤ 1 := by
  have all : (escapes.all fun e => Nat.ble e.2.length 1) = true := rfl
  exact Nat.le_of_ble_eq_true (List.all_eq_true.mp all _ (mem_of_lookup found))

/-- An escape sequence, with its backslash, is no shorter than what it stands for. -/
theorem escape_length (read : escape names text = some (value, rest)) : value.length + rest.length ≤ text.length + 1 := by
  cases text with
  | nil => cases read
  | cons c text =>
    rw [escape] at read
    rw [List.length_cons]
    split at read
    · next found =>
      obtain ⟨rfl, rfl⟩ := Prod.mk.inj (Option.some.inj read)
      have one := escapes_length found
      omega
    split at read
    · have part := coded_length (by decide) read
      omega
    split at read
    · have part := coded_length (by decide) read
      omega
    split at read
    · have part := coded_length (by decide) read
      omega
    split at read
    · have part := named_length read
      omega
    split at read
    · next octal =>
      obtain ⟨d, -, same⟩ := Option.map_eq_some_iff.mp read
      obtain ⟨rfl, rfl⟩ := Prod.mk.inj same
      rw [List.length_drop, List.length_singleton, List.length_cons]
      omega
    · obtain ⟨rfl, rfl⟩ := Prod.mk.inj (Option.some.inj read)
      simp only [List.length_cons, List.length_nil]
      omega

theorem quoted_length {raw : Bool} {quote : Text} {fuel : Nat} (read : quoted names raw quote fuel text = some (value, rest)) :
    value.length + rest.length + quote.length ≤ text.length := by
  induction fuel generalizing text value with
  | zero => cases read
  | succ fuel ih =>
    unfold quoted at read
    split at read
    · next closed =>
      obtain ⟨rfl, rfl⟩ := Prod.mk.inj (Option.some.inj read)
      have part := (List.isPrefixOf_iff_prefix.mp closed).length_le
      rw [List.length_drop, List.length_nil]
      omega
    cases text with
    | nil => cases read
    | cons c after =>
      dsimp only at read
      rw [List.length_cons]
      split at read
      · split at read
        · cases read
        · next escaped later found =>
          have short : escaped.length + later.length ≤ after.length + 1 := by
            split at found
            · obtain ⟨d, begins, same⟩ := Option.map_eq_some_iff.mp found
              obtain ⟨rfl, rfl⟩ := Prod.mk.inj same
              cases after with
              | nil => cases begins
              | cons e after =>
                simp only [List.length_cons, List.length_nil, List.drop_succ_cons, List.drop_zero]
                omega
            · exact escape_length found
          obtain ⟨⟨more, last⟩, readMore, same⟩ := Option.map_eq_some_iff.mp read
          dsimp only at same
          obtain ⟨rfl, rfl⟩ := Prod.mk.inj same
          have part := ih readMore
          rw [List.length_append]
          omega
      split at read
      · cases read
      · obtain ⟨⟨more, last⟩, readMore, same⟩ := Option.map_eq_some_iff.mp read
        dsimp only at same
        obtain ⟨rfl, rfl⟩ := Prod.mk.inj same
        have part := ih readMore
        rw [List.length_cons]
        omega

theorem body_length {raw : Bool} (read : body names raw text = some (value, rest)) :
    value.length + rest.length + 2 ≤ text.length := by
  rw [body] at read
  split at read
  · next quote found =>
    have part := quoted_length read
    have member := List.mem_of_find?_eq_some found
    have begins : quote.isPrefixOf text = true := by simpa using List.find?_some found
    have shorter := (List.isPrefixOf_iff_prefix.mp begins).length_le
    have one : 1 ≤ quote.length := by
      have all : (quotes.all fun q => Nat.ble 1 q.length) = true := rfl
      exact Nat.le_of_ble_eq_true (List.all_eq_true.mp all quote member)
    rw [List.length_drop] at part
    omega
  · cases read

theorem literal_length (read : literal names text = some (value, rest)) :
    value.length + rest.length + 2 ≤ text.length := by
  cases text with
  | nil => cases read
  | cons c text =>
    rw [literal] at read
    split at read
    · exact Nat.le_succ_of_le (body_length read)
    split at read
    · exact Nat.le_succ_of_le (body_length read)
    · exact body_length read

theorem universal_length (text : Text) : (universal text).length ≤ text.length := by
  induction text using universal.induct with
  | case1 => exact Nat.le_refl _
  | case2 text ih =>
    rw [universal, List.length_cons, List.length_cons, List.length_cons]
    omega
  | case3 text other ih =>
    rw [universal, List.length_cons, List.length_cons]
    · exact Nat.succ_le_succ ih
    · exact other
  | case4 c text other _ ih =>
    rw [universal, List.length_cons, List.length_cons]
    · exact Nat.succ_le_succ ih
    · exact other
    · assumption

/-- A literal is longer than its value. -/
theorem IsLiteral.length (literal : IsLiteral names text value) : value.length + 2 ≤ text.length := by
  have longer := literal_length literal
  have line := universal_length text
  rw [List.length_nil] at longer
  omega

end

end Skyline.Literals
