import Mathlib.Data.List.Basic
import Mathlib.Logic.Relation

/-!
Systems that take one labelled step at a time, and what holds along their runs.
A step is a partial function, so a system can be executed; a run records the
events it observed, newest first. A guard restricts the steps of a run by what
the state before the step and the label say, which is how a property that fails
in general is proved of the runs that avoid the steps at fault.
-/
namespace Skyline.Runs
universe u v w

/-- A system with one initial state. A label that is not enabled has no result;
    an enabled one says what was observed and the state it leads to. -/
structure System (State : Type u) (Label : Type v) (Event : Type w) where
  init : State
  step : State → Label → Option (Event × State)

variable {State : Type u} {Label : Type v} {Event : Type w}
namespace System

/-- The runs whose steps all meet the guard, with their events, newest first. -/
inductive Run (M : System State Label Event) (guard : State → Label → Prop) :
    List Event → State → Prop
  | start : Run M guard [] M.init
  | step {past : List Event} {s s' : State} {a : Label} {e : Event} :
      Run M guard past s → guard s a → M.step s a = some (e, s') → Run M guard (e :: past) s'

abbrev AnyRun (M : System State Label Event) : List Event → State → Prop :=
  M.Run (fun _ _ => True)

variable {M : System State Label Event} {guard : State → Label → Prop}

/-- What holds at the start and is kept by every guarded step holds in every
    state of a guarded run. -/
theorem Run.invariant {I : List Event → State → Prop} (initial : I [] M.init)
    (kept : ∀ past s a e s', I past s → guard s a → M.step s a = some (e, s') → I (e :: past) s')
    {past : List Event} {s : State} (run : M.Run guard past s) : I past s := by
  induction run with
  | start => exact initial
  | step _ allowed stepped ih => exact kept _ _ _ _ _ ih allowed stepped

theorem Run.anyRun {past : List Event} {s : State} (run : M.Run guard past s) : M.AnyRun past s := by
  induction run with
  | start => exact .start
  | step _ _ stepped ih => exact ih.step trivial stepped

theorem Run.imp {guard' : State → Label → Prop} (weaker : ∀ s a, guard s a → guard' s a) {past : List Event} {s : State}
    (run : M.Run guard past s) : M.Run guard' past s := by
  induction run with
  | start => exact .start
  | step _ allowed stepped ih => exact ih.step (weaker _ _ allowed) stepped

def Next (M : System State Label Event) (s s' : State) : Prop := ∃ a e, M.step s a = some (e, s')

/-- States from which a state is reached in any number of steps. -/
abbrev Reaches (M : System State Label Event) : State → State → Prop := Relation.ReflTransGen M.Next

theorem Run.reaches {past : List Event} {s s' : State} (run : M.AnyRun past s) (reaches : M.Reaches s s') :
    ∃ later, M.AnyRun (later ++ past) s' := by
  induction reaches with
  | refl => exact ⟨[], run⟩
  | tail _ next ih =>
    obtain ⟨later, there⟩ := ih
    obtain ⟨_, e, stepped⟩ := next
    exact ⟨e :: later, .step there trivial stepped⟩

/-- Takes the labelled steps in order, each checked first; `none` when a step
    fails its check or is not enabled. -/
def exec (M : System State Label Event) (check : State → Label → Bool) :
    List Event × State → List Label → Option (List Event × State)
  | c, [] => some c
  | (past, s), a :: rest =>
    if check s a then
      match M.step s a with
      | none => none
      | some (e, s') => exec M check (e :: past, s') rest
    else none

theorem exec_run {check : State → Label → Bool} (checked : ∀ s a, check s a = true → guard s a)
    (labels : List Label) {past past' : List Event} {s s' : State} (run : M.Run guard past s)
    (executed : M.exec check (past, s) labels = some (past', s')) : M.Run guard past' s' := by
  induction labels generalizing past s with
  | nil =>
    simp only [exec, Option.some.injEq, Prod.mk.injEq] at executed
    obtain ⟨rfl, rfl⟩ := executed
    exact run
  | cons a rest ih =>
    rw [exec] at executed
    split at executed
    · next allowed =>
      split at executed
      · cases executed
      · next e t stepped => exact ih (.step run (checked _ _ allowed) stepped) executed
    · cases executed

theorem exec_anyRun (labels : List Label) {past past' : List Event} {s s' : State} (run : M.AnyRun past s)
    (executed : M.exec (fun _ _ => true) (past, s) labels = some (past', s')) : M.AnyRun past' s' :=
  exec_run (fun _ _ _ => trivial) labels run executed

theorem exec_guarded [∀ s a, Decidable (guard s a)] (labels : List Label) {past past' : List Event} {s s' : State}
    (run : M.Run guard past s)
    (executed : M.exec (fun s a => decide (guard s a)) (past, s) labels = some (past', s')) : M.Run guard past' s' :=
  exec_run (fun _ _ => of_decide_eq_true) labels run executed

variable (guard) in
/-- What holds where an execution ends holds in a state of some run. -/
theorem exec_reaches [∀ s a, Decidable (guard s a)] (labels : List Label) {P : State → Prop} [DecidablePred P]
    (reached : (M.exec (fun s a => decide (guard s a)) ([], M.init) labels).any (fun c => decide (P c.2)) = true) :
    ∃ past s, M.Run guard past s ∧ P s := by
  cases executed : M.exec (fun s a => decide (guard s a)) ([], M.init) labels with
  | none => simp [executed] at reached
  | some c => exact ⟨c.1, c.2, exec_guarded labels .start executed, by simpa [executed] using reached⟩

/-- Every step that the labels take from a state satisfies `P`; a label that is
    not enabled ends the execution. -/
def Along (M : System State Label Event) (P : State → Label → State → Prop) :
    State → List Label → Prop
  | _, [] => True
  | s, a :: rest => ∀ e s', M.step s a = some (e, s') → P s a s' ∧ M.Along P s' rest

/-- What holds along an execution holds of the step after its labels. -/
theorem Along.last {P : State → Label → State → Prop} {check : State → Label → Bool} {labels : List Label}
    {a : Label} {past past' : List Event} {s t t' : State} {e : Event} (along : M.Along P s (labels ++ [a]))
    (executed : M.exec check (past, s) labels = some (past', t)) (stepped : M.step t a = some (e, t')) : P t a t' := by
  induction labels generalizing past s with
  | nil =>
    simp only [exec, Option.some.injEq, Prod.mk.injEq] at executed
    obtain ⟨_, rfl⟩ := executed
    exact (along e t' stepped).1
  | cons b rest ih =>
    rw [exec] at executed
    split at executed
    · split at executed
      · cases executed
      · next e' u there => exact ih (along e' u there).2 executed
    · cases executed

/-- Two step properties that agree wherever the invariant holds, one of which
    keeps the invariant, hold along the same executions. -/
theorem along_congr {I : State → Prop} {P Q : State → Label → State → Prop}
    (agree : ∀ s a e s', I s → M.step s a = some (e, s') → (P s a s' ↔ Q s a s'))
    (kept : ∀ s a e s', I s → M.step s a = some (e, s') → Q s a s' → I s')
    (labels : List Label) {s : State} (inv : I s) : M.Along P s labels ↔ M.Along Q s labels := by
  induction labels generalizing s with
  | nil => exact Iff.rfl
  | cons a rest ih =>
    constructor
    · intro along e s' stepped
      obtain ⟨here, later⟩ := along e s' stepped
      have there := (agree s a e s' inv stepped).mp here
      exact ⟨there, (ih (kept s a e s' inv stepped there)).mp later⟩
    · intro along e s' stepped
      obtain ⟨here, later⟩ := along e s' stepped
      exact ⟨(agree s a e s' inv stepped).mpr here, (ih (kept s a e s' inv stepped here)).mpr later⟩

/-- A system whose every step is one of another system, with the same event and between
    related states, has no run that is not one of the other. -/
theorem Run.refines {State' : Type*} {N : System State' Label Event} {R : State → State' → Prop} (initial : R M.init N.init)
    (follows : ∀ s t a e s', R s t → M.step s a = some (e, s') → ∃ t', N.step t a = some (e, t') ∧ R s' t')
    {past : List Event} {s : State} (run : M.AnyRun past s) : ∃ t, N.AnyRun past t ∧ R s t := by
  induction run with
  | start => exact ⟨N.init, .start, initial⟩
  | step _ _ stepped ih =>
    obtain ⟨t, there, related⟩ := ih
    obtain ⟨t', follow, again⟩ := follows _ t _ _ _ related stepped
    exact ⟨t', there.step trivial follow, again⟩

end System

/-! ## Parties in a list -/

section
variable {α : Type u} {parties : List α} {i : Nat} {x y : α}

/-- Once a party has moved, the others are still there. -/
theorem mem_set_of_mem (x' : α) (there : parties[i]? = some x) (member : y ∈ parties) : y = x ∨ y ∈ parties.set i x' := by
  obtain ⟨j, here⟩ := List.getElem?_of_mem member
  by_cases same : i = j
  · subst same
    exact .inl (Option.some.inj (here.symm.trans there))
  · exact .inr (List.mem_of_getElem? (i := j) (by rw [List.getElem?_set_ne same, here]))

theorem moved_mem_set (x' : α) (there : parties[i]? = some x) : x' ∈ parties.set i x' := by
  obtain ⟨within, _⟩ := List.getElem?_eq_some_iff.mp there
  exact List.mem_of_getElem? (i := i) (List.getElem?_set_self within)

end

end Skyline.Runs
