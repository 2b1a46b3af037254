import Mathlib.Data.List.Basic

/-!
Check expressions over named rules. A check is a test of its own, a reference to the rule
of a name, or a combination of checks; a combination is evaluated from the left, no
further than its result needs. What a reference stands for is looked up when it is
evaluated, in a rule set that may map a name to any check, its own included: evaluation
takes the depth to which checks may nest, and raises where they nest deeper.

Evaluation depends on the rule set only at the names it looks up (`check_congr`).
-/
namespace Skyline.Checks

inductive Check (Test Name : Type)
  | test (t : Test)
  /-- Refers to the rule of a name. -/
  | rule (name : Name)
  | not (c : Check Test Name)
  | and (cs : List (Check Test Name))
  | or (cs : List (Check Test Name))

variable {Test Name α ε : Type}

/-- Evaluates from the left up to the first that gives `b`, and gives `!b` when none does. -/
def upTo (b : Bool) (f : α → Except ε Bool) : List α → Except ε Bool
  | [] => .ok !b
  | x :: xs =>
    match f x with
    | .ok v => if v = b then .ok b else upTo b f xs
    | .error e => .error e

/-- What `g` says of those that `upTo` evaluates. -/
def among {β : Type} (b : Bool) (f : α → Except ε Bool) (g : α → List β) : List α → List β
  | [] => []
  | x :: xs =>
    match f x with
    | .ok v => if v = b then g x else g x ++ among b f g xs
    | .error _ => g x

theorem upTo_congr {β : Type} {b : Bool} {f f' : α → Except ε Bool} {g : α → List β} {P : β → Prop}
    (same : ∀ x, (∀ y ∈ g x, P y) → f x = f' x) :
    ∀ xs : List α, (∀ y ∈ among b f g xs, P y) → upTo b f xs = upTo b f' xs
  | [], _ => rfl
  | x :: xs, agree => by
    have first : ∀ y ∈ g x, P y := by
      intro y member
      refine agree y ?_
      rw [among]
      split
      · split
        · exact member
        · exact List.mem_append_left _ member
      · exact member
    rw [upTo, upTo, ← same x first]
    cases value : f x with
    | error e => rfl
    | ok v =>
      by_cases ends : v = b
      · simp only [if_pos ends]
      · simp only [if_neg ends]
        refine upTo_congr same xs fun y member => agree y ?_
        rw [among, value]
        simp only [if_neg ends]
        exact List.mem_append_right _ member

section
/-! How a test evaluates, which exceptions say that a rule is missing, and the exception
of checks that nest too deep. -/
variable (eval : Test → Except ε Bool) (missing : ε → Bool) (tooDeep : ε)

/-- Evaluates a check that may nest to a depth. A reference to a rule that is missing is
    false, and so is one whose evaluation says that something is missing. -/
def check (rules : Name → Option (Check Test Name)) : Nat → Check Test Name → Except ε Bool
  | 0, _ => .error tooDeep
  | _ + 1, .test t => eval t
  | n + 1, .rule name =>
    match rules name with
    | none => .ok false
    | some c =>
      match check rules n c with
      | .ok v => .ok v
      | .error e => if missing e then .ok false else .error e
  | n + 1, .not c => (check rules n c).map (!·)
  | n + 1, .and cs => upTo false (check rules n) cs
  | n + 1, .or cs => upTo true (check rules n) cs

/-- The names that the evaluation of a check looks up. -/
def lookups (rules : Name → Option (Check Test Name)) : Nat → Check Test Name → List Name
  | 0, _ | _ + 1, .test _ => []
  | n + 1, .rule name => name :: ((rules name).map (lookups rules n)).getD []
  | n + 1, .not c => lookups rules n c
  | n + 1, .and cs => among false (check eval missing tooDeep rules n) (lookups rules n) cs
  | n + 1, .or cs => among true (check eval missing tooDeep rules n) (lookups rules n) cs

variable {eval missing tooDeep}

/-- Rule sets that agree on the names which the evaluation in one of them looks up
    evaluate alike. -/
theorem check_congr {rules rules' : Name → Option (Check Test Name)} (n : Nat) (c : Check Test Name)
    (agree : ∀ name ∈ lookups eval missing tooDeep rules n c, rules name = rules' name) :
    check eval missing tooDeep rules n c = check eval missing tooDeep rules' n c := by
  induction n generalizing c with
  | zero => rfl
  | succ n ih =>
    cases c with
    | test t => rfl
    | rule name =>
      have here : rules name = rules' name := agree name (by rw [lookups]; exact List.mem_cons_self)
      rw [check, check, ← here]
      cases stands : rules name with
      | none => rfl
      | some c =>
        have nested := ih c fun other member => agree other (by
          rw [lookups, stands]
          exact List.mem_cons_of_mem name member)
        simp only [nested]
    | not c =>
      rw [check, check, ih c agree]
    | and cs =>
      rw [check, check]
      exact upTo_congr ih cs agree
    | or cs =>
      rw [check, check]
      exact upTo_congr ih cs agree

end
end Skyline.Checks
