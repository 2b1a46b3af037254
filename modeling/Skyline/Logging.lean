import Mathlib.Data.List.Basic

/-!
Computations that write a log, and return or raise. A check that complains in its log is right about
something if it returns without a complaint exactly where that thing holds (`Reports`); checks that run
one after the other or over a list are right about all of their things.
-/
namespace Skyline.Logging

/-- What came of a computation, and what it has logged. -/
def Logged (Entry ε α : Type) : Type := Except ε α × List Entry

namespace Logged
variable {Entry ε α β σ : Type}

instance : Monad (Logged Entry ε) where
  pure a := (.ok a, [])
  bind m f :=
    match m.1 with
    | .ok a => ((f a).1, m.2 ++ (f a).2)
    | .error e => (.error e, m.2)

def log (entry : Entry) : Logged Entry ε Unit := (.ok (), [entry])

/-- Logs where a condition holds. -/
def logIf (c : Prop) [Decidable c] (entry : Entry) : Logged Entry ε Unit := if c then log entry else pure ()

def lift (r : Except ε α) : Logged Entry ε α := (r, [])

def forEach : List α → (α → Logged Entry ε Unit) → Logged Entry ε Unit
  | [], _ => pure ()
  | x :: xs, f => f x >>= fun _ => forEach xs f

def collect (f : α → Logged Entry ε β) : List α → Logged Entry ε (List β)
  | [] => pure []
  | x :: xs => f x >>= fun y => collect f xs >>= fun ys => pure (y :: ys)

theorem bind_run {m : Logged Entry ε α} {a : α} (came : m.1 = .ok a) (f : α → Logged Entry ε β) :
    m >>= f = ((f a).1, m.2 ++ (f a).2) := by
  show (match m.1 with | .ok a => ((f a).1, m.2 ++ (f a).2) | .error e => (.error e, m.2)) = _
  rw [came]

theorem of_bind_ok {m : Logged Entry ε α} {f : α → Logged Entry ε β} {b : β} (came : (m >>= f).1 = .ok b) :
    ∃ a, m.1 = .ok a ∧ (f a).1 = .ok b := by
  cases first : m.1 with
  | ok a =>
    rw [bind_run first] at came
    exact ⟨a, rfl, came⟩
  | error e =>
    have raised : (m >>= f).1 = .error e := by
      show (match m.1 with | .ok a => ((f a).1, m.2 ++ (f a).2) | .error e => (.error e, m.2)).1 = _
      rw [first]
    cases raised.symm.trans came

section
variable (quiet : Entry → Prop)

/-- Nothing has been logged but what does not count. -/
def Silent (m : Logged Entry ε α) : Prop := ∀ entry ∈ m.2, quiet entry

/-- The computation returns in silence exactly where something holds, and what it then returns is
    as it should. -/
structure Reports (m : Logged Entry ε α) (holds : Prop) (good : α → Prop) : Prop where
  passes : holds → ∃ a, m.1 = .ok a ∧ Silent quiet m
  sound : ∀ a, m.1 = .ok a → Silent quiet m → holds ∧ good a

end

namespace Reports
variable {quiet : Entry → Prop} {holds holds' : Prop} {good : α → Prop} {good' : β → Prop}

theorem silent_bind {m : Logged Entry ε α} {a : α} (came : m.1 = .ok a) {f : α → Logged Entry ε β} :
    Silent quiet (m >>= f) ↔ Silent quiet m ∧ Silent quiet (f a) := by
  rw [Silent, bind_run came]
  exact List.forall_mem_append

theorem pure {a : α} (as : good a) : Reports quiet (Pure.pure a : Logged Entry ε α) True good where
  passes _ := ⟨a, rfl, List.forall_mem_nil _⟩
  sound _ same _ := ⟨trivial, by cases same; exact as⟩

theorem lift {r : Except ε α} : Reports quiet (Logged.lift r) (∃ a, r = .ok a) (fun a => r = .ok a) where
  passes := by
    rintro ⟨a, came⟩
    exact ⟨a, came, List.forall_mem_nil _⟩
  sound a came _ := ⟨⟨a, came⟩, came⟩

theorem log {entry : Entry} : Reports quiet (Logged.log entry : Logged Entry ε Unit) (quiet entry) fun _ => True where
  passes harmless := ⟨(), rfl, List.forall_mem_singleton.mpr harmless⟩
  sound _ _ silent := ⟨List.forall_mem_singleton.mp silent, trivial⟩

theorem logIf {c : Prop} [Decidable c] {entry : Entry} :
    Reports quiet (Logged.logIf c entry : Logged Entry ε Unit) (c → quiet entry) fun _ => True where
  passes harmless := by
    refine ⟨(), ?_⟩
    unfold Logged.logIf
    split
    · next holds => exact ⟨rfl, List.forall_mem_singleton.mpr (harmless holds)⟩
    · exact ⟨rfl, List.forall_mem_nil _⟩
  sound _ _ silent := by
    refine ⟨fun holds => ?_, trivial⟩
    rw [Logged.logIf, if_pos holds] at silent
    exact List.forall_mem_singleton.mp silent

theorem bind {m : Logged Entry ε α} {f : α → Logged Entry ε β} (first : Reports quiet m holds good)
    (second : ∀ a, holds → good a → Reports quiet (f a) holds' good') :
    Reports quiet (m >>= f) (holds ∧ holds') good' where
  passes := by
    rintro ⟨fine, fine'⟩
    obtain ⟨a, came, silent⟩ := first.passes fine
    obtain ⟨b, came', silent'⟩ := (second a fine (first.sound a came silent).2).passes fine'
    exact ⟨b, by rw [bind_run came]; exact came', (silent_bind came).mpr ⟨silent, silent'⟩⟩
  sound b came silent := by
    obtain ⟨a, came, came'⟩ := of_bind_ok came
    obtain ⟨silent, silent'⟩ := (silent_bind came).mp silent
    obtain ⟨fine, as⟩ := first.sound a came silent
    obtain ⟨fine', as'⟩ := (second a fine as).sound b came' silent'
    exact ⟨⟨fine, fine'⟩, as'⟩

theorem imp {m : Logged Entry ε α} {good' : α → Prop} (reports : Reports quiet m holds good) (same : holds ↔ holds')
    (more : ∀ a, holds → good a → good' a) : Reports quiet m holds' good' where
  passes fine := reports.passes (same.mpr fine)
  sound a came silent := by
    obtain ⟨fine, as⟩ := reports.sound a came silent
    exact ⟨same.mp fine, more a fine as⟩

theorem iff_of {m : Logged Entry ε α} (reports : Reports quiet m holds good) :
    (∃ a, m.1 = .ok a ∧ Silent quiet m) ↔ holds :=
  ⟨fun ⟨a, came, silent⟩ => (reports.sound a came silent).1, reports.passes⟩

theorem forEach {f : α → Logged Entry ε Unit} {each : α → Prop} {xs : List α}
    (one : ∀ x ∈ xs, Reports quiet (f x) (each x) fun _ => True) :
    Reports quiet (Logged.forEach xs f) (∀ x ∈ xs, each x) fun _ => True := by
  induction xs with
  | nil =>
    have nothing : Reports quiet (Pure.pure () : Logged Entry ε Unit) True fun _ => True := pure trivial
    exact nothing.imp (by simp) fun _ _ as => as
  | cons x xs ih =>
    have rest := ih fun y member => one y (List.mem_cons_of_mem x member)
    exact ((one x List.mem_cons_self).bind fun _ _ _ => rest).imp List.forall_mem_cons.symm fun _ _ _ => trivial

theorem collect {f : α → Logged Entry ε β} {each : α → Prop} {own : α → β → Prop} {xs : List α}
    (one : ∀ x ∈ xs, Reports quiet (f x) (each x) (own x)) :
    Reports quiet (Logged.collect f xs) (∀ x ∈ xs, each x) (List.Forall₂ own xs) := by
  induction xs with
  | nil => exact (pure List.Forall₂.nil).imp (by simp) fun _ _ as => as
  | cons x xs ih =>
    have rest := ih fun y member => one y (List.mem_cons_of_mem x member)
    refine ((one x List.mem_cons_self).bind fun y _ as => rest.bind fun ys _ as' => pure (List.Forall₂.cons as as')).imp ?_
      fun _ _ as => as
    rw [and_true, List.forall_mem_cons]

/-- In a loop, what the passes so far are about, and what the state is after them. -/
theorem foldlM {f : σ → α → Logged Entry ε σ} (fine : List α → Prop) (I : List α → σ → Prop)
    (shorter : ∀ before after, fine (before ++ after) → fine before)
    (step : ∀ before x s, fine before → I before s → Reports quiet (f s x) (fine (before ++ [x])) (I (before ++ [x])))
    (xs : List α) {before : List α} {s : σ} (start : fine before) (init : I before s) :
    Reports quiet (xs.foldlM f s) (fine (before ++ xs)) (I (before ++ xs)) := by
  induction xs generalizing before s with
  | nil =>
    rw [List.append_nil]
    exact (pure init).imp (iff_of_true trivial start) fun _ _ as => as
  | cons x xs ih =>
    rw [List.foldlM_cons, ← List.singleton_append, ← List.append_assoc]
    refine ((step before x s start init).bind fun s' fine as => ih fine as).imp ?_ fun _ _ as => as
    exact ⟨And.right, fun whole => ⟨shorter _ _ whole, whole⟩⟩

end Reports

end Logged

end Skyline.Logging
