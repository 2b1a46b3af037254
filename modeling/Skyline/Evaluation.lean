import Skyline.Services

/-!
Programs whose calls are always answered alike. Where nothing that happens changes what a
call is answered, running a program is evaluating it: it comes to one result. A program that
passes every exception on comes to that result also where calls may fail, if it comes to a
result at all.
-/
namespace Skyline.Programs.Program
open Skyline.Effects Skyline.Services

variable {Call : Type} {Answer : Call → Type} {ε α β γ σ : Type}

/-- What a program comes to, by what its calls are answered. -/
def eval (answer : (c : Call) → Except ε (Answer c)) : Program Answer ε α → Except ε α
  | done r => r
  | call c k => (k (answer c)).eval answer

section
variable (answer : (c : Call) → Except ε (Answer c))

@[simp] theorem eval_pure (a : α) : (pure a : Program Answer ε α).eval answer = .ok a := rfl

theorem eval_bind (m : Program Answer ε α) (f : α → Program Answer ε β) :
    (m >>= f).eval answer = m.eval answer >>= fun a => (f a).eval answer := by
  induction m with
  | done r =>
    cases r with
    | ok a => rfl
    | error e => rfl
  | call c k ih => exact ih (answer c)

theorem eval_ite {c : Prop} [Decidable c] (m n : Program Answer ε α) :
    (if c then m else n).eval answer = if c then m.eval answer else n.eval answer := by
  split
  · rfl
  · rfl

variable {answer}

theorem eval_bind_ok {m : Program Answer ε α} {a : α} (first : m.eval answer = .ok a) (f : α → Program Answer ε β) :
    (m >>= f).eval answer = (f a).eval answer := by
  rw [eval_bind, first]
  rfl

theorem of_eval_bind_ok {m : Program Answer ε α} {f : α → Program Answer ε β} {b : β}
    (came : (m >>= f).eval answer = .ok b) : ∃ a, m.eval answer = .ok a ∧ (f a).eval answer = .ok b := by
  rw [eval_bind] at came
  cases first : m.eval answer with
  | ok a =>
    rw [first] at came
    exact ⟨a, rfl, came⟩
  | error e =>
    rw [first] at came
    cases came

theorem eval_gather_ok {f : β → Program Answer ε (List γ)} {g : β → List γ} {xs : List β}
    (each : ∀ x ∈ xs, (f x).eval answer = .ok (g x)) : (gather xs f).eval answer = .ok (xs.flatMap g) := by
  induction xs with
  | nil => rfl
  | cons x xs ih =>
    rw [gather, eval_bind_ok (each x List.mem_cons_self),
      eval_bind_ok (ih fun y member => each y (List.mem_cons_of_mem x member))]
    rfl

end

/-! ## Running and evaluating -/

section
variable {serve : (c : Call) → Eff σ ε (Answer c)} {answer : (c : Call) → Except ε (Answer c)} {I : σ → Prop}

/-- A program runs to what it evaluates to, where the services answer each call alike in
    every state that they come to. -/
theorem run_eval (served : ∀ c s, I s → (serve c s).1 = answer c) (kept : ∀ c, Eff.Keeps I (serve c))
    (m : Program Answer ε α) {s : σ} (inv : I s) : (m.run serve s).1 = m.eval answer := by
  induction m generalizing s with
  | done r => rfl
  | call c k ih =>
    rw [run, eval, ih _ (kept c s inv), served c s inv]

/-- After an exception the program makes no further call, and ends with it. -/
def PassesOn : Program Answer ε α → Prop
  | done _ => True
  | call _ k => (∀ e, k (.error e) = done (.error e)) ∧ ∀ a, (k (.ok a)).PassesOn

theorem PassesOn.done (r : Except ε α) : PassesOn (done r : Program Answer ε α) := trivial
theorem PassesOn.pure (a : α) : PassesOn (Pure.pure a : Program Answer ε α) := trivial
theorem PassesOn.raise (e : ε) : PassesOn (raise e : Program Answer ε α) := trivial
theorem PassesOn.remote (c : Call) : PassesOn (remote c : Program Answer ε (Answer c)) :=
  ⟨fun _ => rfl, fun _ => trivial⟩

theorem PassesOn.bind {m : Program Answer ε α} {f : α → Program Answer ε β} (first : PassesOn m)
    (second : ∀ a, PassesOn (f a)) : PassesOn (m >>= f) := by
  induction m with
  | done r =>
    cases r with
    | ok a => exact second a
    | error e => exact trivial
  | call c k ih =>
    refine ⟨fun e => ?_, fun a => ih (.ok a) (first.2 a)⟩
    show (k (.error e)).bind f = _
    rw [first.1 e]
    rfl

theorem PassesOn.ite {c : Prop} [Decidable c] {m n : Program Answer ε α} (yes : PassesOn m) (no : PassesOn n) :
    PassesOn (if c then m else n) := by
  split
  · exact yes
  · exact no

theorem PassesOn.gather {xs : List β} {f : β → Program Answer ε (List γ)} (each : ∀ x, PassesOn (f x)) :
    PassesOn (gather xs f) := by
  induction xs with
  | nil => exact trivial
  | cons x xs ih => exact .bind (each x) fun _ => .bind ih fun _ => trivial

/-- A program that passes exceptions on evaluates to what it returns, where a call that
    returns is answered alike in every state. -/
theorem PassesOn.eval_of_run (served : ∀ c s a, I s → (serve c s).1 = .ok a → answer c = .ok a)
    (kept : ∀ c, Eff.Keeps I (serve c)) {m : Program Answer ε α} (passesOn : PassesOn m) {s : σ} (inv : I s) {a : α}
    (returned : (m.run serve s).1 = .ok a) : m.eval answer = .ok a := by
  induction m generalizing s with
  | done r => exact returned
  | call c k ih =>
    have returned : ((k (serve c s).1).run serve (serve c s).2).1 = .ok a := returned
    cases came : (serve c s).1 with
    | error e =>
      rw [came, passesOn.1 e] at returned
      cases returned
    | ok b =>
      rw [came] at returned
      rw [eval, served c s b inv came]
      exact ih _ (passesOn.2 b) (kept c s inv) returned

theorem PassesOn.lift {Part : Type} {Reply : Part → Type} {embed : Part → Call}
    {reply : ∀ c, Answer (embed c) → Reply c} {m : Program Reply ε α} (passesOn : PassesOn m) :
    (m.lift embed reply : Program Answer ε α).PassesOn := by
  induction m with
  | done r => exact trivial
  | call c k ih =>
    refine ⟨fun e => ?_, fun a => ih (.ok (reply c a)) (passesOn.2 (reply c a))⟩
    show (k (.error e)).lift embed reply = _
    rw [passesOn.1 e]
    rfl

end

/-! ## Services that are only read -/

section
variable [DecidableEq Call] {backend : Backend Answer ε σ} {answers : σ → (c : Call) → Answer c}

theorem serve_reads (reads : ∀ n s c, backend.perform n s c = (.ok (answers s c), s)) (s : σ) (c : Call) :
    Eff.Keeps (Holds s) (backend.serve c) := Backend.serve_holds fun n => by rw [reads]

/-- Where every call gets through, a program that only reads comes to one result. -/
theorem run_reads (reads : ∀ n s c, backend.perform n s c = (.ok (answers s c), s))
    (delivered : ∀ c n, backend.delivery c n = .answered) (m : Program Answer ε α) (w : World Call σ) :
    (m.run backend.serve w).1 = m.eval fun c => .ok (answers w.state c) := by
  refine run_eval (I := fun v => v.state = w.state) (fun c v same => ?_) (serve_reads reads w.state) m rfl
  rw [Backend.serve_answered (delivered _ _), reads, same]

/-- Where calls may fail, it returns that result or none, if it passes failures on. -/
theorem PassesOn.eval_of_reads (reads : ∀ n s c, backend.perform n s c = (.ok (answers s c), s)) {m : Program Answer ε α}
    (passesOn : m.PassesOn) {w : World Call σ} {a : α} (returned : (m.run backend.serve w).1 = .ok a) :
    m.eval (fun c => .ok (answers w.state c)) = .ok a := by
  refine passesOn.eval_of_run (I := fun v => v.state = w.state) (fun c v b same served => ?_)
    (serve_reads reads w.state) rfl returned
  obtain ⟨-, performed⟩ := Backend.serve_result.mp served
  rw [reads, same] at performed
  exact performed

end
end Skyline.Programs.Program
