import Mathlib.Data.List.Flatten
import Skyline.Literals

/-!
A fragment of YAML: documents of which each line is blank, a comment, or an entry of one mapping with
its key and its value in double quotes. What it takes to be read as an entry is told by lengths: a
quoted text is no longer than what is quoted, and is the same only where nothing is escaped.
-/
namespace Skyline.Yaml
open Skyline.Literals (Text coded)

/-! ## Lines -/

def isBreak (c : Char) : Bool := ['\n', '\r', '\x85', '\u2028', '\u2029'].contains c

/-- The characters that a document may have. -/
def printable (c : Char) : Bool :=
  [9, 10, 13, 0x85].contains c.toNat || [(0x20, 0x7e), (0xa0, 0xd7ff), (0xe000, 0xfffd), (0x10000, 0x10ffff)].any
    fun range => Nat.ble range.1 c.toNat && Nat.ble c.toNat range.2

def lines (text : Text) : List Text := text.splitOnP isBreak

/-- The line is blank or a comment. -/
def ignored (line : Text) : Bool :=
  match line.dropWhile (· == ' ') with
  | [] => true
  | c :: _ => c == '#'

/-! ## Entries -/

/-- The escape sequences of one character. -/
def escapes : List (Char × Char) :=
  [('0', '\x00'), ('a', '\x07'), ('b', '\x08'), ('t', '\t'), ('\t', '\t'), ('n', '\n'), ('v', '\x0b'), ('f', '\x0c'),
   ('r', '\r'), ('e', '\x1b'), (' ', ' '), ('"', '"'), ('/', '/'), ('\\', '\\'), ('N', '\x85'), ('_', '\xa0'),
   ('L', '\u2028'), ('P', '\u2029')]

/-- What an escape sequence stands for, and the text after it. The backslash is left out. -/
def escape : Text → Option (Text × Text)
  | [] => none
  | c :: text =>
    match escapes.lookup c with
    | some d => some ([d], text)
    | none =>
      if c = 'x' then coded 2 text
      else if c = 'u' then coded 4 text
      else if c = 'U' then coded 8 text
      else none

/-- What is quoted, up to the double quote, and the text after that. -/
def quoted : Nat → Text → Option (Text × Text)
  | 0, _ => none
  | _ + 1, [] => none
  | fuel + 1, c :: rest =>
    if c = '"' then some ([], rest)
    else if c = '\\' then
      match escape rest with
      | none => none
      | some (value, rest) => (quoted fuel rest).map fun (more, after) => (value ++ more, after)
    else (quoted fuel rest).map fun (more, after) => (c :: more, after)

/-- A text in double quotes, and the text after it. -/
def scalar : Text → Option (Text × Text)
  | '"' :: text => quoted text.length text
  | _ => none

/-- The end of a line, where a comment may stand after a blank. -/
def ended (text : Text) : Bool := text.isEmpty || (text.head? == some ' ' && ignored text)

/-- The key and the value of an entry. A key and its quotes are limited to 1024 characters. -/
def entry (line : Text) : Option (Text × Text) :=
  match scalar line with
  | some (key, ':' :: ' ' :: rest) =>
    if line.length ≤ rest.length + 2 + 1024 then
      match scalar (rest.dropWhile (· == ' ')) with
      | some (value, after) => if ended after then some (key, value) else none
      | none => none
    else none
  | _ => none

/-! ## Documents -/

/-- The entries of a mapping, in the order in which the keys came first. -/
abbrev Dict : Type := List (Text × Text)

/-- `d[key] = value`. -/
def assign : Dict → Text → Text → Dict
  | [], key, value => [(key, value)]
  | item :: d, key, value => if item.1 = key then (key, value) :: d else item :: assign d key value

def addLine (d : Dict) (line : Text) : Option Dict :=
  if ignored line then some d else (entry line).map fun (key, value) => assign d key value

/-- The entries of a document of the fragment. -/
def read (text : Text) : Option Dict := if text.all printable then (lines text).foldlM addLine [] else none

/-- What a document is loaded as: without an entry, as null. -/
inductive Document
  | null
  | mapping (entries : Dict)
  deriving DecidableEq, Repr

def document : Dict → Document
  | [] => .null
  | item :: d => .mapping (item :: d)

/-- The documents of the fragment are loaded as their entries. -/
def Loads {ε : Type} (load : Text → Except ε Document) : Prop := ∀ text d, read text = some d → load text = .ok (document d)

/-! ## What the lines tell -/

/-- The lines that are no blanks and no comments. -/
def told (text : Text) : List Text := (lines text).filter fun line => !ignored line

/-- The lines after the breaks of a text are blank or comments, but for those after breaks that are
    exempt. -/
def Sheltered (exempt : List Char) (text : Text) : Prop :=
  ∀ before c after, text = before ++ c :: after → isBreak c = true → c ∉ exempt →
    ignored (after.takeWhile fun d => !isBreak d) = true

/-- A text that can stand in double quotes as it is. -/
def Plain (text : Text) : Prop := ∀ c ∈ text, c ≠ '"' ∧ c ≠ '\\' ∧ isBreak c = false

instance : DecidablePred Plain := fun _ => List.decidableBAll _ _

section
variable {text rest : Text}

theorem told_append {c : Char} (break_ : isBreak c = true) (text rest : Text) :
    told (text ++ c :: rest) = told text ++ told rest := by
  rw [told, lines, List.splitOnP_append_cons text rest break_, List.filter_append]
  rfl

theorem foldlM_told (d : Dict) (ls : List Text) :
    ls.foldlM addLine d = (ls.filter fun line => !ignored line).foldlM addLine d := by
  induction ls generalizing d with
  | nil => rfl
  | cons line ls ih =>
    rw [List.foldlM_cons, List.filter_cons, addLine]
    cases skipped : ignored line with
    | true =>
      rw [if_pos rfl]
      exact ih d
    | false =>
      rw [if_neg (by simp), Bool.not_false, if_pos rfl, List.foldlM_cons, addLine, skipped, if_neg (by simp)]
      exact congrArg (Option.bind _) (funext fun next => ih next)

/-- What is read depends on what the lines tell. -/
theorem read_told (legible : text.all printable = true) : read text = (told text).foldlM addLine [] := by
  rw [read, if_pos legible, foldlM_told]
  rfl

theorem lines_cons (c : Char) (text : Text) :
    lines (c :: text) = if isBreak c = true then [] :: lines text else (lines text).modifyHead (c :: ·) :=
  List.splitOnP_cons_eq_if_modifyHead c text

/-- The first line ends at the first break. -/
theorem lines_head (text : Text) : ∃ later, lines text = (text.takeWhile fun c => !isBreak c) :: later := by
  induction text with
  | nil => exact ⟨[], rfl⟩
  | cons c text ih =>
    obtain ⟨later, split⟩ := ih
    rw [lines_cons, List.takeWhile_cons]
    cases isBreak c with
    | true => exact ⟨lines text, rfl⟩
    | false => exact ⟨later, by rw [split]; rfl⟩

theorem Sheltered.tail {exempt : List Char} {c : Char} (sheltered : Sheltered exempt (c :: text)) : Sheltered exempt text :=
  fun before d after split => sheltered (c :: before) d after (by rw [split]; rfl)

theorem Sheltered.lines (sheltered : Sheltered [] text) : ∀ line ∈ (Yaml.lines text).tail, ignored line = true := by
  induction text with
  | nil => exact fun line member => (List.not_mem_nil member).elim
  | cons c text ih =>
    intro line member
    obtain ⟨later, split⟩ := lines_head text
    rw [lines_cons] at member
    split at member
    · next break_ =>
      rw [List.tail_cons, split] at member
      rcases List.mem_cons.mp member with rfl | member
      · exact sheltered [] c text rfl break_ List.not_mem_nil
      · exact ih sheltered.tail line (by rwa [split])
    · rw [split, List.modifyHead_cons, List.tail_cons] at member
      exact ih sheltered.tail line (by rwa [split])

/-- A text without breaks may stand before. -/
theorem Sheltered.append {exempt : List Char} {before : Text} (whole : ∀ c ∈ before, isBreak c = false)
    (sheltered : Sheltered exempt text) : Sheltered exempt (before ++ text) := by
  induction before with
  | nil => exact sheltered
  | cons c before ih =>
    have later := ih fun d member => whole d (List.mem_cons_of_mem c member)
    intro start d after split break_ given
    cases start with
    | nil =>
      obtain ⟨rfl, -⟩ := List.cons.inj split
      rw [whole _ List.mem_cons_self] at break_
      cases break_
    | cons e start => exact later start d after (List.cons.inj split).2 break_ given

/-- A comment tells nothing. -/
theorem told_comment (sheltered : Sheltered [] text) : told ('#' :: text) = [] := by
  obtain ⟨later, split⟩ := lines_head text
  have rest := sheltered.lines
  rw [told, lines_cons, if_neg (by decide), split, List.modifyHead_cons, List.filter_eq_nil_iff]
  rw [split] at rest
  intro line member
  rcases List.mem_cons.mp member with rfl | later
  · simp [ignored]
  · rw [rest line later]
    decide

end

/-! ## Entries as long as what they have -/

section
variable {text rest value key : Text}

/-- The line of an entry, of texts that are quoted as they are. -/
def quote (key value : Text) : Text := '"' :: (key ++ '"' :: ':' :: ' ' :: '"' :: (value ++ ['"']))

theorem quote_length (key value : Text) : (quote key value).length = key.length + value.length + 6 := by
  simp only [quote, List.length_cons, List.length_append, List.length_nil]
  omega

theorem escape_length (read : escape text = some (value, rest)) : value.length + rest.length ≤ text.length := by
  cases text with
  | nil => cases read
  | cons c text =>
    rw [escape] at read
    rw [List.length_cons]
    split at read
    · obtain ⟨rfl, rfl⟩ := Prod.mk.inj (Option.some.inj read)
      rw [List.length_singleton]
      omega
    split at read
    · exact Nat.le_succ_of_le (Literals.coded_length (by decide) read)
    split at read
    · exact Nat.le_succ_of_le (Literals.coded_length (by decide) read)
    split at read
    · exact Nat.le_succ_of_le (Literals.coded_length (by decide) read)
    · cases read

/-- What is quoted is no longer than it is written, and as long only if it is written as it is. -/
theorem quoted_length {fuel : Nat} (read : quoted fuel text = some (value, rest)) :
    value.length + rest.length + 1 ≤ text.length ∧ (text.length ≤ value.length + rest.length + 1 →
      text = value ++ '"' :: rest ∧ ∀ c ∈ value, c ≠ '"' ∧ c ≠ '\\') := by
  induction fuel generalizing text value with
  | zero => cases read
  | succ fuel ih =>
    cases text with
    | nil => cases read
    | cons c after =>
      rw [quoted] at read
      rw [List.length_cons]
      split at read
      · next closed =>
        obtain ⟨rfl, rfl⟩ := Prod.mk.inj (Option.some.inj read)
        rw [closed, List.length_nil]
        exact ⟨by omega, fun _ => ⟨rfl, fun c member => (List.not_mem_nil member).elim⟩⟩
      next open_ =>
      split at read
      · split at read
        · cases read
        · next escaped later found =>
          have short := escape_length found
          obtain ⟨⟨more, last⟩, readMore, same⟩ := Option.map_eq_some_iff.mp read
          dsimp only at same
          obtain ⟨rfl, rfl⟩ := Prod.mk.inj same
          have part := (ih readMore).1
          rw [List.length_append]
          exact ⟨by omega, fun all => by omega⟩
      · next other =>
        obtain ⟨⟨more, last⟩, readMore, same⟩ := Option.map_eq_some_iff.mp read
        dsimp only at same
        obtain ⟨rfl, rfl⟩ := Prod.mk.inj same
        obtain ⟨part, exact_⟩ := ih readMore
        rw [List.length_cons]
        refine ⟨by omega, fun all => ?_⟩
        obtain ⟨rfl, plain⟩ := exact_ (by omega)
        exact ⟨rfl, List.forall_mem_cons.mpr ⟨⟨open_, other⟩, plain⟩⟩

theorem quoted_plain (plain : Plain value) {fuel : Nat} (enough : value.length < fuel) :
    quoted fuel (value ++ '"' :: rest) = some (value, rest) := by
  induction value generalizing fuel with
  | nil =>
    cases fuel with
    | zero => cases enough
    | succ fuel => rfl
  | cons c value ih =>
    cases fuel with
    | zero => cases enough
    | succ fuel =>
      have first := plain c List.mem_cons_self
      have later := ih (fun d member => plain d (List.mem_cons_of_mem c member)) (Nat.lt_of_succ_lt_succ enough)
      rw [List.cons_append, quoted, if_neg first.1, if_neg first.2.1, later]
      rfl

theorem scalar_plain (plain : Plain value) : scalar ('"' :: (value ++ '"' :: rest)) = some (value, rest) := by
  refine quoted_plain plain ?_
  rw [List.length_append, List.length_cons]
  omega

/-- A line is read as the entry that it is made of. -/
theorem entry_quote (plainKey : Plain key) (plainValue : Plain value) (short : key.length ≤ 1022) :
    entry (quote key value) = some (key, value) := by
  have readKey : scalar (quote key value) = some (key, ':' :: ' ' :: '"' :: (value ++ ['"'])) := scalar_plain plainKey
  have readValue : scalar ('"' :: (value ++ ['"'])) = some (value, []) := scalar_plain plainValue
  have blanks : ('"' :: (value ++ ['"'])).dropWhile (· == ' ') = '"' :: (value ++ ['"']) := rfl
  have within : (quote key value).length ≤ ('"' :: (value ++ ['"'])).length + 2 + 1024 := by
    rw [quote_length, List.length_cons, List.length_append, List.length_singleton]
    omega
  rw [entry, readKey]
  refine (if_pos within).trans ?_
  rw [blanks, readValue]
  rfl

theorem scalar_quoted (read : scalar text = some (value, rest)) :
    ∃ inner, text = '"' :: inner ∧ quoted inner.length inner = some (value, rest) := by
  rw [scalar.eq_def] at read
  split at read
  · exact ⟨_, rfl, read⟩
  · cases read

/-- An entry is no longer than its line, and as long only if the line is made of it. -/
theorem entry_length {line : Text} (read : entry line = some (key, value)) :
    key.length + value.length + 6 ≤ line.length ∧ (line.length ≤ key.length + value.length + 6 →
      line = quote key value ∧ key.length ≤ 1022 ∧ ∀ c ∈ key ++ value, c ≠ '"' ∧ c ≠ '\\') := by
  rw [entry] at read
  split at read
  · next k after readKey =>
    split at read
    · next within =>
      split at read
      · next v last readValue =>
        split at read
        · obtain ⟨rfl, rfl⟩ := Prod.mk.inj (Option.some.inj read)
          obtain ⟨inner, rfl, quotedKey⟩ := scalar_quoted readKey
          obtain ⟨innerValue, blanks, quotedValue⟩ := scalar_quoted readValue
          obtain ⟨keyPart, keyExact⟩ := quoted_length quotedKey
          obtain ⟨valuePart, valueExact⟩ := quoted_length quotedValue
          have suffix := List.dropWhile_suffix (l := after) (· == ' ')
          have shorter := suffix.length_le
          rw [blanks] at shorter
          simp only [List.length_cons] at keyPart keyExact shorter within ⊢
          refine ⟨by omega, fun all => ?_⟩
          obtain ⟨rfl, plainKey⟩ := keyExact (by omega)
          obtain ⟨rfl, plainValue⟩ := valueExact (by omega)
          obtain rfl : last = [] := List.eq_nil_of_length_eq_zero (by omega)
          have whole := suffix.eq_of_length (by rw [blanks]; simp only [List.length_cons]; omega)
          rw [blanks] at whole
          subst whole
          refine ⟨rfl, by omega, fun c member => ?_⟩
          rcases List.mem_append.mp member with inKey | inValue
          · exact plainKey c inKey
          · exact plainValue c inValue
        · cases read
      · cases read
    · cases read
  · cases read

end

/-! ## Documents of quoted texts -/

/-- The entry can be written as it is. -/
structure Writable (item : Text × Text) : Prop where
  key : Plain item.1
  value : Plain item.2
  short : item.1.length ≤ 1022

section
variable {d d' items : Dict} {key value : Text}

theorem assign_new (new : key ∉ d.map Prod.fst) : assign d key value = d ++ [(key, value)] := by
  induction d with
  | nil => rfl
  | cons item d ih =>
    rw [List.map_cons, List.mem_cons, not_or] at new
    rw [assign, if_neg (Ne.symm new.1), ih new.2]
    rfl

theorem ignored_quote (key value : Text) : ignored (quote key value) = false := by
  simp [ignored, quote]

/-- A line with an entry is told. -/
theorem told_quote (plainKey : Plain key) (plainValue : Plain value) : told (quote key value) = [quote key value] := by
  have whole : ∀ c ∈ quote key value, isBreak c = false := by
    intro c member
    simp only [quote, List.mem_cons, List.mem_append, List.mem_nil_iff, or_false] at member
    rcases member with rfl | inKey | rfl | rfl | rfl | rfl | inValue | rfl
    · rfl
    · exact (plainKey c inKey).2.2
    · rfl
    · rfl
    · rfl
    · rfl
    · exact (plainValue c inValue).2.2
    · rfl
  rw [told, lines, List.splitOnP_eq_singleton whole, List.filter_cons_of_pos (by rw [ignored_quote]; rfl)]
  rfl

/-- Entries that are written as they are, under keys that are all new, are read in turn. -/
theorem foldlM_quotes (writable : ∀ item ∈ items, Writable item) (distinct : (d ++ items).map Prod.fst |>.Nodup) :
    (items.flatMap fun item => told (quote item.1 item.2)).foldlM addLine d = some (d ++ items) := by
  induction items generalizing d with
  | nil => rw [List.append_nil]; rfl
  | cons item items ih =>
    have own := writable item List.mem_cons_self
    have new : item.1 ∉ d.map Prod.fst := by
      rw [List.map_append, List.map_cons, List.nodup_append] at distinct
      exact fun taken => distinct.2.2 _ taken _ List.mem_cons_self rfl
    rw [List.flatMap_cons, told_quote own.key own.value, List.singleton_append, List.foldlM_cons, addLine,
      ignored_quote, if_neg (by simp), entry_quote own.key own.value own.short]
    refine Eq.trans (congrArg (fun start => List.foldlM addLine start _) (assign_new new)) ?_
    rw [ih (fun item member => writable item (List.mem_cons_of_mem _ member))
      (by rwa [List.append_assoc, List.singleton_append]), List.append_assoc, List.singleton_append]

end

/-! ## Nothing else is read as it was written -/

/-- How long the entries are, with the quotes, the colons and the blanks. -/
def weight : Dict → Nat
  | [] => 0
  | item :: d => item.1.length + item.2.length + 6 + weight d

section
variable {d d' items : Dict} {key value line text : Text}

theorem weight_assign (d : Dict) (key value : Text) : weight (assign d key value) ≤ weight d + (key.length + value.length + 6) := by
  induction d with
  | nil => exact Nat.le_of_eq (Nat.add_comm _ _)
  | cons item d ih =>
    rw [assign]
    split
    · rw [weight, weight]
      dsimp only
      omega
    · rw [weight, weight]
      omega

/-- An entry weighs no more than its line, and as much only if the line is made of it. -/
theorem addLine_weight (added : addLine d line = some d') :
    weight d' ≤ weight d + line.length ∧ (weight d + line.length ≤ weight d' → ignored line = false →
      ∃ key value, line = quote key value ∧ key.length ≤ 1022 ∧ ∀ c ∈ key ++ value, c ≠ '"' ∧ c ≠ '\\') := by
  rw [addLine] at added
  split at added
  · next skipped =>
    obtain rfl := Option.some.inj added
    refine ⟨Nat.le_add_right _ _, fun _ tells => ?_⟩
    rw [skipped] at tells
    cases tells
  · obtain ⟨⟨key, value⟩, read, rfl⟩ := Option.map_eq_some_iff.mp added
    obtain ⟨part, whole⟩ := entry_length read
    have more := weight_assign d key value
    exact ⟨by dsimp only; omega, fun all _ => ⟨key, value, whole (by dsimp only at all; omega)⟩⟩

theorem foldlM_weight {ls : List Text} (read : ls.foldlM addLine d = some d') : weight d' ≤ weight d + ls.flatten.length := by
  induction ls generalizing d with
  | nil =>
    obtain rfl := Option.some.inj read
    exact Nat.le_add_right _ _
  | cons line ls ih =>
    rw [List.foldlM_cons] at read
    obtain ⟨next, first, rest⟩ := Option.bind_eq_some_iff.mp read
    have one := (addLine_weight first).1
    have more := ih rest
    rw [List.flatten_cons, List.length_append]
    omega

/-- The lines of a text are as long as it is only where there is no break. -/
theorem lines_length (text : Text) : (lines text).flatten.length ≤ text.length ∧
    (text.length ≤ (lines text).flatten.length → ∀ c ∈ text, isBreak c = false) := by
  induction text with
  | nil => exact ⟨Nat.le_refl _, fun _ c member => (List.not_mem_nil member).elim⟩
  | cons c text ih =>
    obtain ⟨part, whole⟩ := ih
    obtain ⟨later, split⟩ := lines_head text
    rw [lines_cons, List.length_cons]
    split
    · rw [List.flatten_cons, List.nil_append]
      exact ⟨by omega, fun all => by omega⟩
    · next inner =>
      rw [split] at part whole ⊢
      rw [List.modifyHead_cons, List.flatten_cons, List.cons_append, List.length_cons, ← List.flatten_cons]
      exact ⟨by omega, fun all => List.forall_mem_cons.mpr ⟨by simpa using inner, whole (by omega)⟩⟩

theorem told_length (text : Text) : (told text).flatten.length ≤ (lines text).flatten.length :=
  (List.filter_sublist.flatten).length_le

theorem quote_count (key value : Text) : (quote key value).count '"' = key.count '"' + value.count '"' + 4 := by
  simp only [quote, List.count_cons, List.count_append, List.count_nil]
  simp only [beq_iff_eq, if_true, Char.reduceEq, if_false]
  omega

/-- An entry whose texts have no double quote is not written in another way. -/
theorem quote_injective {key' value' : Text} (free : '"' ∉ key' ++ value') (same : quote key value = quote key' value') :
    key = key' ∧ value = value' := by
  have counts := quote_count key value
  rw [same, quote_count, List.count_eq_zero.mpr fun member => free (List.mem_append_left value' member),
    List.count_eq_zero.mpr fun member => free (List.mem_append_right key' member)] at counts
  have freeKey : '"' ∉ key := List.count_eq_zero.mp (by omega)
  have tails : key ++ '"' :: ':' :: ' ' :: '"' :: (value ++ ['"']) = key' ++ '"' :: ':' :: ' ' :: '"' :: (value' ++ ['"']) :=
    List.tail_eq_of_cons_eq same
  have keys : key = key' := by
    have starts {text rest : Text} (free : '"' ∉ text) : (text ++ '"' :: rest).takeWhile (· != '"') = text := by
      rw [List.takeWhile_append_of_pos fun c member => by simpa using fun is : c = '"' => free (is ▸ member)]
      simp
    rw [← starts freeKey, tails, starts fun member => free (List.mem_append_left value' member)]
  subst keys
  have rest := List.append_cancel_left tails
  simp only [List.cons.injEq, true_and, List.append_cancel_right_eq] at rest
  exact ⟨rfl, rest⟩

/-- An entry that weighs as much as its line has no break, and nothing to be escaped. -/
theorem writable_of_weight {item : Text × Text} (read : (told (quote item.1 item.2)).foldlM addLine d = some d')
    (all : weight d + (item.1.length + item.2.length + 6) ≤ weight d') : Writable item := by
  have more := foldlM_weight read
  have part := told_length (quote item.1 item.2)
  obtain ⟨whole, single⟩ := lines_length (quote item.1 item.2)
  have length := quote_length item.1 item.2
  have noBreak := single (by omega)
  rw [told, lines, List.splitOnP_eq_singleton noBreak, List.filter_cons_of_pos (by rw [ignored_quote]; rfl), List.filter_nil,
    List.foldlM_cons] at read
  obtain ⟨next, first, rest⟩ := Option.bind_eq_some_iff.mp read
  obtain rfl := Option.some.inj rest
  obtain ⟨key, value, same, short, plain⟩ := (addLine_weight first).2 (by omega) (ignored_quote _ _)
  obtain ⟨keys, values⟩ := quote_injective (fun member => (plain _ member).1 rfl) same
  have here {text : Text} (inside : ∀ c ∈ text, c ∈ quote item.1 item.2) (own : ∀ c ∈ text, c ∈ key ++ value) : Plain text :=
    fun c member => ⟨(plain c (own c member)).1, (plain c (own c member)).2, noBreak c (inside c member)⟩
  refine ⟨here (fun c member => ?_) (fun c member => ?_), here (fun c member => ?_) (fun c member => ?_), keys ▸ short⟩
  · simp [quote, member]
  · exact List.mem_append_left value (keys ▸ member)
  · simp [quote, member]
  · exact List.mem_append_right key (values ▸ member)

theorem told_quotes_length (items : Dict) :
    (items.flatMap fun item => told (quote item.1 item.2)).flatten.length ≤ weight items := by
  induction items with
  | nil => exact Nat.le_refl _
  | cons item items ih =>
    have part := told_length (quote item.1 item.2)
    have line := (lines_length (quote item.1 item.2)).1
    rw [quote_length] at line
    rw [List.flatMap_cons, List.flatten_append, List.length_append, weight]
    omega

/-- Where the entries come to what they were made of, they can be written as they are. -/
theorem writable_of_read (read : (items.flatMap fun item => told (quote item.1 item.2)).foldlM addLine d = some d')
    (all : weight d + weight items ≤ weight d') : ∀ item ∈ items, Writable item := by
  induction items generalizing d with
  | nil => exact fun item member => (List.not_mem_nil member).elim
  | cons item items ih =>
    rw [List.flatMap_cons, List.foldlM_append] at read
    obtain ⟨next, first, rest⟩ := Option.bind_eq_some_iff.mp read
    rw [weight] at all
    have one := foldlM_weight first
    have others := foldlM_weight rest
    have later := told_quotes_length items
    have own := told_quotes_length [item]
    rw [List.flatMap_singleton, weight, weight] at own
    exact List.forall_mem_cons.mpr ⟨writable_of_weight first (by omega), ih rest (by omega)⟩

/-- What tells entries under distinct keys is read as the entries iff they can be written as they are. -/
theorem read_quotes (legible : text.all printable = true)
    (tells : told text = items.flatMap fun item => told (quote item.1 item.2)) (distinct : (items.map Prod.fst).Nodup) :
    read text = some items ↔ ∀ item ∈ items, Writable item := by
  rw [read_told legible, tells]
  constructor
  · intro same
    exact writable_of_read same (Nat.le_of_eq (Nat.zero_add _))
  · intro writable
    exact foldlM_quotes writable distinct

theorem document_injective (same : document d = document d') : d = d' := by
  cases d with
  | nil =>
    cases d' with
    | nil => rfl
    | cons item d' => cases same
  | cons item d =>
    cases d' with
    | nil => cases same
    | cons item' d' => exact Document.mapping.inj same

end

end Skyline.Yaml
