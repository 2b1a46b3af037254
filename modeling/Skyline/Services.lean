import Skyline.Programs

/-!
Services that answer calls. What a service does with a call is a function of its state;
whether the call gets there, and whether its answer comes back, is up to the network,
which decides by the call and by how often it was made before. The calls made are kept,
in order.
-/
namespace Skyline.Services
open Skyline.Effects Skyline.Programs

/-- What becomes of a call. -/
inductive Delivery (ε : Type)
  /-- It is not carried out. -/
  | refused (e : ε)
  /-- It is carried out, but the caller sees an exception. -/
  | lost (e : ε)
  | answered
  deriving DecidableEq, Repr

/-- Whether a call is carried out. -/
def Delivery.arrives {ε : Type} : Delivery ε → Bool
  | refused _ => false
  | lost _ | answered => true

structure Backend {Call : Type} (Answer : Call → Type) (ε σ : Type) where
  /-- What becomes of a call that was made `n` times before. -/
  delivery : Call → Nat → Delivery ε
  /-- What carrying it out gives, and the state it leaves. -/
  perform : (n : Nat) → σ → (c : Call) → Except ε (Answer c) × σ

structure World (Call σ : Type) where
  state : σ
  calls : List Call

variable {Call : Type} {Answer : Call → Type} {ε α σ : Type} [DecidableEq Call]
namespace Backend

def serve (backend : Backend Answer ε σ) (c : Call) : Eff (World Call σ) ε (Answer c) := fun w =>
  let n := w.calls.count c
  let calls := w.calls ++ [c]
  match backend.delivery c n with
  | .refused e => (.error e, ⟨w.state, calls⟩)
  | .lost e => (.error e, ⟨(backend.perform n w.state c).2, calls⟩)
  | .answered => ((backend.perform n w.state c).1, ⟨(backend.perform n w.state c).2, calls⟩)

/-- What becomes of the next call of a kind. -/
def upcoming (backend : Backend Answer ε σ) (w : World Call σ) (c : Call) : Delivery ε :=
  backend.delivery c (w.calls.count c)

section
variable {backend : Backend Answer ε σ} {c : Call} {w w' : World Call σ}

@[simp] theorem serve_calls : (backend.serve c w).2.calls = w.calls ++ [c] := by
  unfold serve
  dsimp only
  split <;> rfl

theorem serve_refused {e : ε} (refused : backend.delivery c (w.calls.count c) = .refused e) :
    backend.serve c w = (.error e, ⟨w.state, w.calls ++ [c]⟩) := by
  simp only [serve, refused]

theorem serve_lost {e : ε} (lost : backend.delivery c (w.calls.count c) = .lost e) :
    backend.serve c w = (.error e, ⟨(backend.perform (w.calls.count c) w.state c).2, w.calls ++ [c]⟩) := by
  simp only [serve, lost]

theorem serve_answered (answered : backend.delivery c (w.calls.count c) = .answered) :
    backend.serve c w = ((backend.perform (w.calls.count c) w.state c).1,
      ⟨(backend.perform (w.calls.count c) w.state c).2, w.calls ++ [c]⟩) := by
  simp only [serve, answered]

/-- A call whose answer comes back returns what carrying it out gives. -/
theorem serve_ok {a : Answer c} {s : σ} (answered : backend.delivery c (w.calls.count c) = .answered)
    (performed : backend.perform (w.calls.count c) w.state c = (.ok a, s)) :
    backend.serve c w = (.ok a, ⟨s, w.calls ++ [c]⟩) := by
  rw [serve_answered answered, performed]

/-- A call that returns has been answered, with what carrying it out gives. -/
theorem of_serve_ok {a : Answer c} (ran : backend.serve c w = (.ok a, w')) :
    backend.delivery c (w.calls.count c) = .answered ∧
      backend.perform (w.calls.count c) w.state c = (.ok a, w'.state) := by
  unfold serve at ran
  dsimp only at ran
  split at ran
  · cases ran
  · cases ran
  · next answered =>
    have result := congrArg Prod.fst ran
    have state := congrArg (fun r => r.2.state) ran
    exact ⟨answered, Prod.ext result state⟩

/-- A call is carried out, or leaves the state as it is. -/
theorem serve_state : (backend.serve c w).2.state =
    if (backend.delivery c (w.calls.count c)).arrives then (backend.perform (w.calls.count c) w.state c).2
    else w.state := by
  unfold serve
  dsimp only
  split <;> simp_all [Delivery.arrives]

theorem serve_state_or : (backend.serve c w).2.state = w.state ∨
    (backend.serve c w).2.state = (backend.perform (w.calls.count c) w.state c).2 := by
  rw [serve_state]
  split
  · exact .inr rfl
  · exact .inl rfl

/-- A call returns what carrying it out gives, if its answer comes back. -/
theorem serve_result {a : Answer c} : (backend.serve c w).1 = .ok a ↔
    backend.upcoming w c = .answered ∧ (backend.perform (w.calls.count c) w.state c).1 = .ok a := by
  unfold serve upcoming
  dsimp only
  split <;> simp_all

theorem count_served (w : World Call σ) : (backend.serve c w).2.calls.count c = w.calls.count c + 1 := by
  rw [serve_calls, List.count_append, List.count_singleton_self]

theorem count_other {d : Call} (other : c ≠ d) (w : World Call σ) :
    (backend.serve c w).2.calls.count d = w.calls.count d := by
  rw [serve_calls, List.count_append, List.count_singleton, if_neg (by simpa using other), Nat.add_zero]

/-- A program leaves the counts of the calls that it may not make. -/
theorem uses_count {allowed : Call → Prop} {m : Program Answer ε α} {r : Except ε α} (uses : m.Uses allowed)
    (ran : m.run backend.serve w = (r, w')) (never : ¬ allowed c) : w'.calls.count c = w.calls.count c := by
  have each : ∀ d : Call, allowed d → Eff.Keeps (fun s : World Call σ => s.calls.count c = w.calls.count c)
      (backend.serve d) := by
    intro d allows s same
    have other : d ≠ c := fun is => never (is ▸ allows)
    rw [count_other other, same]
  have kept := Program.run_keeps each uses w rfl
  rw [ran] at kept
  exact kept

/-- What carrying out a call keeps, the call keeps whatever becomes of it. -/
theorem serve_keeps {I : σ → Prop} (kept : ∀ n s, I s → I (backend.perform n s c).2) :
    Eff.Keeps (fun w => I w.state) (backend.serve c) := by
  intro w inv
  simp only [serve_state]
  split
  · exact kept _ _ inv
  · exact inv

/-- A program keeps what carrying out any of its calls keeps. -/
theorem uses_keep {allowed : Call → Prop} {I : σ → Prop} {m : Program Answer ε α} {r : Except ε α} (uses : m.Uses allowed)
    (kept : ∀ c, allowed c → ∀ n s, I s → I (backend.perform n s c).2) (inv : I w.state)
    (ran : m.run backend.serve w = (r, w')) : I w'.state := by
  have after := Program.run_keeps (fun c allows => serve_keeps (kept c allows)) uses w inv
  rw [ran] at after
  exact after

end
end Backend

/-! ## Services that are only read -/

/-- The services keep what they kept. -/
def Holds (s : σ) (w : World Call σ) : Prop := w.state = s

namespace Backend
variable {backend : Backend Answer ε σ} {c : Call} {w w' : World Call σ} {s : σ} {allowed : Call → Prop}

theorem serve_holds (reads : ∀ n, (backend.perform n s c).2 = s) : Eff.Keeps (Holds s) (backend.serve c) :=
  serve_keeps (I := (· = s)) fun n _ same => by rw [same, reads]

/-- What a call that only reads returns is what it gives in the state as it is. -/
theorem remote_ensures (reads : ∀ n, (backend.perform n s c).2 = s) :
    (Program.remote c : Program Answer ε (Answer c)).Ensures backend.serve (Holds s)
      fun a => ∃ n, (backend.perform n s c).1 = .ok a := by
  refine .remote (serve_holds reads) ?_
  rintro w a rfl returned
  exact ⟨_, congrArg Prod.fst (of_serve_ok (Prod.ext returned rfl)).2⟩

/-- So a service whose answers are a function of its state gives its answer. -/
theorem remote_answers (f : σ → Answer c) (reads : ∀ n s, backend.perform n s c = (.ok (f s), s)) :
    (Program.remote c : Program Answer ε (Answer c)).Ensures backend.serve (Holds s) (· = f s) := by
  refine .remote (serve_holds fun n => by rw [reads]) fun w a here returned => ?_
  have same := (serve_result.mp returned).2
  rw [reads, here] at same
  exact (Except.ok.inj same).symm

theorem reads_ensure {m : Program Answer ε α} (uses : m.Uses allowed)
    (reads : ∀ c, allowed c → ∀ n, (backend.perform n s c).2 = s) :
    m.Ensures backend.serve (Holds s) fun _ => True :=
  .of_uses (fun c allows => serve_holds (reads c allows)) uses

/-- A program that only reads leaves everything as it is. -/
theorem reads_keep {m : Program Answer ε α} {r : Except ε α} (uses : m.Uses allowed)
    (reads : ∀ c, allowed c → ∀ n, (backend.perform n w.state c).2 = w.state)
    (ran : m.run backend.serve w = (r, w')) : w'.state = w.state :=
  uses_keep (I := (· = w.state)) uses (fun c allows n _ same => by rw [same, reads c allows]) rfl ran

end Backend
end Skyline.Services
