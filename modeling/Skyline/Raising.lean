import Mathlib.Data.List.Forall2

/-!
Computations that return a value or raise: when they return or raise in a sequence, over a list and
in a loop, and lists whose elements are related one by one, as those are that such computations
turn into each other.
-/
namespace Skyline.Raising

section
variable {ε σ α β : Type}

theorem bind_ok_iff {m : Except ε α} {f : α → Except ε β} {b : β} :
    (m >>= f) = .ok b ↔ ∃ a, m = .ok a ∧ f a = .ok b := by
  cases m with
  | error e =>
    refine iff_of_false (fun same => by cases same) ?_
    rintro ⟨a, same, -⟩
    cases same
  | ok a =>
    constructor
    · intro came
      exact ⟨a, rfl, came⟩
    · rintro ⟨_, same, came⟩
      cases same
      exact came

theorem bind_error_iff {m : Except ε α} {f : α → Except ε β} {e : ε} :
    (m >>= f) = .error e ↔ m = .error e ∨ ∃ a, m = .ok a ∧ f a = .error e := by
  cases m with
  | error e' =>
    constructor
    · intro came
      cases came
      exact .inl rfl
    · rintro (same | ⟨a, same, -⟩)
      · cases same
        rfl
      · cases same
  | ok a =>
    constructor
    · intro came
      exact .inr ⟨a, rfl, came⟩
    · rintro (same | ⟨_, same, came⟩)
      · cases same
      · cases same
        exact came

/-- A loop raises in the first pass that does. -/
theorem foldlM_error {f : σ → α → Except ε σ} {xs : List α} {s : σ} {e : ε} :
    xs.foldlM f s = .error e ↔ ∃ before x after s', xs = before ++ x :: after ∧ before.foldlM f s = .ok s' ∧ f s' x = .error e := by
  induction xs generalizing s with
  | nil =>
    refine iff_of_false (fun same => by cases same) ?_
    rintro ⟨before, x, after, s', same, -⟩
    simp at same
  | cons x xs ih =>
    rw [List.foldlM_cons, bind_error_iff]
    constructor
    · rintro (first | ⟨next, pass, later⟩)
      · exact ⟨[], x, xs, s, rfl, rfl, first⟩
      · obtain ⟨before, x', after, s', rfl, ran, raised⟩ := ih.mp later
        exact ⟨x :: before, x', after, s', rfl, bind_ok_iff.mpr ⟨next, pass, ran⟩, raised⟩
    · rintro ⟨before, x', after, s', same, ran, raised⟩
      cases before with
      | nil =>
        obtain ⟨rfl, rfl⟩ := List.cons.inj same
        cases ran
        exact .inl raised
      | cons first before =>
        obtain ⟨rfl, rfl⟩ := List.cons.inj same
        obtain ⟨next, pass, ran⟩ := bind_ok_iff.mp ran
        exact .inr ⟨next, pass, ih.mpr ⟨before, x', after, s', rfl, ran, raised⟩⟩

/-- Every element is turned into another, or one of them raises. -/
theorem mapM_ok {f : α → Except ε β} {xs : List α} {ys : List β} :
    xs.mapM f = .ok ys ↔ List.Forall₂ (fun x y => f x = .ok y) xs ys := by
  induction xs generalizing ys with
  | nil =>
    rw [List.mapM_nil, List.forall₂_nil_left_iff]
    exact ⟨fun same => (Except.ok.inj same).symm, fun same => congrArg Except.ok same.symm⟩
  | cons x xs ih =>
    rw [List.mapM_cons, List.forall₂_cons_left_iff]
    cases first : f x with
    | error e =>
      refine iff_of_false (fun ran => by cases ran) ?_
      rintro ⟨y, zs, same, -⟩
      cases same
    | ok z =>
      cases rest : xs.mapM f with
      | error e =>
        refine iff_of_false (fun ran => by cases ran) ?_
        rintro ⟨y, zs, -, later, -⟩
        rw [ih.mpr later] at rest
        cases rest
      | ok zs =>
        constructor
        · intro ran
          cases ran
          exact ⟨z, zs, rfl, ih.mp rest, rfl⟩
        · rintro ⟨y, zs', same, later, rfl⟩
          cases same
          rw [ih.mpr later] at rest
          cases rest
          rfl

/-- Each element can be related to some other iff the list can. -/
theorem exists_forall₂ {R : α → β → Prop} {xs : List α} :
    (∃ ys, List.Forall₂ R xs ys) ↔ ∀ x ∈ xs, ∃ y, R x y := by
  induction xs with
  | nil => simp
  | cons x xs ih =>
    rw [List.forall_mem_cons, ← ih]
    constructor
    · rintro ⟨_, related⟩
      obtain ⟨y, ys, first, rest, rfl⟩ := List.forall₂_cons_left_iff.mp related
      exact ⟨⟨y, first⟩, ys, rest⟩
    · rintro ⟨⟨y, first⟩, ys, rest⟩
      exact ⟨y :: ys, .cons first rest⟩

/-- What is said of each pair of related elements can be said of the first list. -/
theorem forall₂_iff_forall {R P : α → β → Prop} {Q : α → Prop} {xs : List α} {ys : List β}
    (related : List.Forall₂ R xs ys) (each : ∀ x ∈ xs, ∀ y, R x y → (P x y ↔ Q x)) :
    List.Forall₂ P xs ys ↔ ∀ x ∈ xs, Q x := by
  induction related with
  | nil => simp
  | cons first _ ih =>
    rw [List.forall₂_cons, List.forall_mem_cons, each _ List.mem_cons_self _ first,
      ih fun x member => each x (List.mem_cons_of_mem _ member)]

theorem forall_mem_iff {R : α → β → Prop} {P : β → Prop} {Q : α → Prop} {xs : List α} {ys : List β}
    (related : List.Forall₂ R xs ys) (each : ∀ x ∈ xs, ∀ y, R x y → (P y ↔ Q x)) :
    (∀ y ∈ ys, P y) ↔ ∀ x ∈ xs, Q x := by
  induction related with
  | nil => simp
  | cons first _ ih =>
    rw [List.forall_mem_cons, List.forall_mem_cons, each _ List.mem_cons_self _ first,
      ih fun x member => each x (List.mem_cons_of_mem _ member)]

theorem mem_mapM {f : α → Except ε β} {xs : List α} {ys : List β} (ran : xs.mapM f = .ok ys) {y : β}
    (member : y ∈ ys) : ∃ x ∈ xs, f x = .ok y := by
  obtain ⟨i, within, rfl⟩ := List.mem_iff_getElem.mp member
  have all := mapM_ok.mp ran
  exact ⟨_, List.getElem_mem (all.length_eq ▸ within), all.get (all.length_eq ▸ within) within⟩

end

end Skyline.Raising
