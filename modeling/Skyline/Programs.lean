import Skyline.Effects

/-!
Programs that call services. A program is a tree: it ends, with a result or an
exception, or it makes a call and goes on with what comes back, the answer or an
exception of the call. The tree says what a program may ask for whatever it is
answered; run against services, it is a computation over their state.
-/
namespace Skyline.Programs
open Skyline.Effects

/-- A program whose call `c` is answered with an `Answer c`. -/
inductive Program {Call : Type} (Answer : Call → Type) (ε α : Type)
  | done (r : Except ε α)
  | call (c : Call) (k : Except ε (Answer c) → Program Answer ε α)

namespace Program
variable {Call : Type} {Answer : Call → Type} {ε α β γ σ : Type}

def bind : Program Answer ε α → (α → Program Answer ε β) → Program Answer ε β
  | done (.ok a), f => f a
  | done (.error e), _ => done (.error e)
  | call c k, f => call c (fun r => (k r).bind f)

instance : Monad (Program Answer ε) where
  pure a := done (.ok a)
  bind := bind

/-- Makes a call, and returns or raises what comes back. -/
def remote (c : Call) : Program Answer ε (Answer c) := call c done

def raise (e : ε) : Program Answer ε α := done (.error e)

/-- `try: m except Exception as e: h(e)`. -/
def attempt : Program Answer ε α → (ε → Program Answer ε α) → Program Answer ε α
  | done (.ok a), _ => done (.ok a)
  | done (.error e), h => h e
  | call c k, h => call c (fun r => (k r).attempt h)

/-- `for x in xs: f(x)`; an exception ends the loop. -/
def forEach : List β → (β → Program Answer ε Unit) → Program Answer ε Unit
  | [], _ => pure ()
  | x :: xs, f => do f x; forEach xs f

/-- `for x in xs: result += f(x)`, from an empty `result`. -/
def gather : List β → (β → Program Answer ε (List γ)) → Program Answer ε (List γ)
  | [], _ => pure []
  | x :: xs, f => do
    let first ← f x
    let rest ← gather xs f
    return first ++ rest

/-- `try: m except Exception: pass`. -/
def ignoring (m : Program Answer ε Unit) : Program Answer ε Unit := attempt m fun _ => Pure.pure ()

/-- Tries again up to `n` times while the exception is worth it, and raises
    `exhausted` after the last of them. -/
def retry (again : ε → Bool) (exhausted : ε) : Nat → Program Answer ε α → Program Answer ε α
  | 0, _ => raise exhausted
  | n + 1, m => attempt m (fun e => if again e then retry again exhausted n m else raise e)

/-! ## What programs may call -/

/-- Every call that the program makes is allowed, whatever it is answered. -/
def Uses (allowed : Call → Prop) : Program Answer ε α → Prop
  | done _ => True
  | call c k => allowed c ∧ ∀ r, (k r).Uses allowed

section
variable {allowed : Call → Prop}

theorem Uses.done (r : Except ε α) : Uses allowed (done r : Program Answer ε α) := trivial
theorem Uses.pure (a : α) : Uses allowed (Pure.pure a : Program Answer ε α) := trivial
theorem Uses.raise (e : ε) : Uses allowed (raise e : Program Answer ε α) := trivial

theorem Uses.remote {c : Call} (permitted : allowed c) : Uses allowed (remote c : Program Answer ε (Answer c)) :=
  ⟨permitted, fun _ => trivial⟩

theorem Uses.mono {more : Call → Prop} {m : Program Answer ε α} (uses : Uses allowed m)
    (weaker : ∀ c, allowed c → more c) : Uses more m := by
  induction m with
  | done r => exact trivial
  | call c k ih => exact ⟨weaker c uses.1, fun r => ih r (uses.2 r)⟩

theorem Uses.bind {m : Program Answer ε α} {f : α → Program Answer ε β} (first : Uses allowed m)
    (second : ∀ a, Uses allowed (f a)) : Uses allowed (m >>= f) := by
  induction m with
  | done r =>
    cases r with
    | ok a => exact second a
    | error e => exact trivial
  | call c k ih => exact ⟨first.1, fun r => ih r (first.2 r)⟩

theorem Uses.map {m : Program Answer ε α} {f : α → β} (uses : Uses allowed m) : Uses allowed (f <$> m) :=
  .bind uses fun a => .pure (f a)

theorem Uses.attempt {m : Program Answer ε α} {h : ε → Program Answer ε α} (body : Uses allowed m)
    (handler : ∀ e, Uses allowed (h e)) : Uses allowed (attempt m h) := by
  induction m with
  | done r =>
    cases r with
    | ok a => exact trivial
    | error e => exact handler e
  | call c k ih => exact ⟨body.1, fun r => ih r (body.2 r)⟩

theorem Uses.ite {c : Prop} [Decidable c] {m n : Program Answer ε α} (yes : Uses allowed m) (no : Uses allowed n) :
    Uses allowed (if c then m else n) := by
  split
  · exact yes
  · exact no

theorem Uses.forEach_mem {xs : List β} {f : β → Program Answer ε Unit} (each : ∀ x ∈ xs, Uses allowed (f x)) :
    Uses allowed (forEach xs f) := by
  induction xs with
  | nil => exact trivial
  | cons x xs ih =>
    exact .bind (each x List.mem_cons_self) fun _ => ih fun y member => each y (List.mem_cons_of_mem x member)

theorem Uses.forEach {xs : List β} {f : β → Program Answer ε Unit} (each : ∀ x, Uses allowed (f x)) :
    Uses allowed (forEach xs f) := .forEach_mem fun x _ => each x

theorem Uses.gather {xs : List β} {f : β → Program Answer ε (List γ)} (each : ∀ x, Uses allowed (f x)) :
    Uses allowed (gather xs f) := by
  induction xs with
  | nil => exact trivial
  | cons x xs ih => exact .bind (each x) fun _ => .bind ih fun _ => trivial

theorem Uses.retry {again : ε → Bool} {exhausted : ε} {m : Program Answer ε α} (each : Uses allowed m) (n : Nat) :
    Uses allowed (retry again exhausted n m) := by
  induction n with
  | zero => exact trivial
  | succ n ih => exact .attempt each fun e => .ite ih (.raise e)

end

/-- Any program makes some calls or other. -/
theorem uses_any (m : Program Answer ε α) : Uses (fun _ => True) m := by
  induction m with
  | done r => exact trivial
  | call c k ih => exact ⟨trivial, ih⟩

/-! ## Running a program -/

/-- Runs a program against services over a state. -/
def run (serve : (c : Call) → Eff σ ε (Answer c)) : Program Answer ε α → Eff σ ε α
  | done r => Eff.lift r
  | call c k => fun s => (k (serve c s).1).run serve (serve c s).2

variable (serve : (c : Call) → Eff σ ε (Answer c))

theorem run_pure (a : α) (s : σ) : (Pure.pure a : Program Answer ε α).run serve s = (.ok a, s) := rfl
theorem run_remote (c : Call) : (remote c : Program Answer ε (Answer c)).run serve = serve c := rfl

theorem run_bind (m : Program Answer ε α) (f : α → Program Answer ε β) :
    (m >>= f).run serve = m.run serve >>= fun a => (f a).run serve := by
  induction m with
  | done r =>
    cases r with
    | ok a => rfl
    | error e => rfl
  | call c k ih =>
    funext s
    exact congrFun (ih (serve c s).1) (serve c s).2

theorem run_attempt (m : Program Answer ε α) (h : ε → Program Answer ε α) :
    (attempt m h).run serve = (m.run serve).attempt fun e => (h e).run serve := by
  induction m with
  | done r =>
    cases r with
    | ok a => rfl
    | error e => rfl
  | call c k ih =>
    funext s
    exact congrFun (ih (serve c s).1) (serve c s).2

theorem run_ignoring (m : Program Answer ε Unit) (s : σ) :
    (ignoring m).run serve s = (.ok (), (m.run serve s).2) := by
  rw [ignoring, run_attempt]
  exact Eff.attempt_ignore _ _

/-- A handler that raises another exception leaves the state as it is. -/
theorem run_attempt_raise (m : Program Answer ε α) (f : ε → ε) (s : σ) :
    ((attempt m fun e => raise (f e)).run serve s).2 = (m.run serve s).2 := by
  rw [run_attempt]
  exact Eff.attempt_raise_state _ f s

/-- `try: a = m except Exception: a = None`. -/
theorem run_optional (m : Program Answer ε α) (s : σ) :
    ∃ found, (attempt (some <$> m) fun _ => pure none).run serve s = (.ok found, (m.run serve s).2) ∧
      ∀ a, found = some a ↔ (m.run serve s).1 = .ok a := by
  have mapped : (some <$> m : Program Answer ε (Option α)) = m >>= fun a => pure (some a) := rfl
  rw [run_attempt, mapped, run_bind, Eff.attempt_run, Eff.bind_run]
  rcases m.run serve s with ⟨r, t⟩
  cases r with
  | ok b => exact ⟨some b, rfl, fun a => by simp⟩
  | error e => exact ⟨none, rfl, fun a => by simp⟩

/-- So does computing what is returned. -/
theorem run_bind_pure (m : Program Answer ε α) (f : α → β) (s : σ) :
    ((m >>= fun a => pure (f a)).run serve s).2 = (m.run serve s).2 := by
  rw [run_bind]
  exact Eff.bind_pure_state _ f s

theorem run_ite {c : Prop} [Decidable c] (m n : Program Answer ε α) :
    (if c then m else n).run serve = if c then m.run serve else n.run serve := by
  split
  · rfl
  · rfl

theorem run_retry (again : ε → Bool) (exhausted : ε) (n : Nat) (m : Program Answer ε α) :
    (retry again exhausted n m).run serve = Eff.retry again exhausted n (m.run serve) := by
  induction n with
  | zero => rfl
  | succ n ih =>
    rw [retry, run_attempt, Eff.retry]
    congr 1
    funext e
    rw [run_ite, ih]
    rfl

theorem run_forEach (xs : List β) (f : β → Program Answer ε Unit) :
    (forEach xs f).run serve = Eff.forEach xs fun x => (f x).run serve := by
  induction xs with
  | nil => rfl
  | cons x xs ih => rw [forEach, run_bind, ih, Eff.forEach_cons]

variable {serve} {I : σ → Prop}

/-- What every allowed call keeps, a program that makes no other call keeps. -/
theorem run_keeps {allowed : Call → Prop} (kept : ∀ c, allowed c → Eff.Keeps I (serve c)) {m : Program Answer ε α}
    (uses : Uses allowed m) : Eff.Keeps I (m.run serve) := by
  induction m with
  | done r => exact .lift r
  | call c k ih =>
    intro s inv
    exact ih (serve c s).1 (uses.2 _) (serve c s).2 (kept c uses.1 s inv)

/-- A loop that gathers, each pass of which succeeds where the invariant holds and
    keeps it, gathers the results of all its passes. -/
theorem gather_ok {f : β → Program Answer ε (List γ)} {g : β → List γ} {xs : List β}
    (each : ∀ x ∈ xs, ∀ s, I s → ∃ t, (f x).run serve s = (.ok (g x), t) ∧ I t) {s : σ} (inv : I s) :
    ∃ t, (gather xs f).run serve s = (.ok (xs.flatMap g), t) ∧ I t := by
  induction xs generalizing s with
  | nil => exact ⟨s, rfl, inv⟩
  | cons x xs ih =>
    obtain ⟨s₁, first, inv₁⟩ := each x List.mem_cons_self s inv
    obtain ⟨s₂, rest, inv₂⟩ := ih (fun y member => each y (List.mem_cons_of_mem x member)) inv₁
    refine ⟨s₂, ?_, inv₂⟩
    rw [gather, run_bind, Eff.bind_ok first, run_bind, Eff.bind_ok rest]
    rfl

/-! ## Programs of more services -/

section
variable {Part : Type} {Reply : Part → Type} {τ : Type}

/-- A program for a part of the services, as a program for all of them. -/
def lift (embed : Part → Call) (reply : ∀ c, Answer (embed c) → Reply c) : Program Reply ε α → Program Answer ε α
  | done r => done r
  | call c k => call (embed c) (fun r => (k (r.map (reply c))).lift embed reply)

variable {embed : Part → Call} {reply : ∀ c, Answer (embed c) → Reply c}

theorem Uses.lift {allowed : Call → Prop} {m : Program Reply ε α} (uses : m.Uses fun c => allowed (embed c)) :
    (m.lift embed reply).Uses allowed := by
  induction m with
  | done r => exact trivial
  | call c k ih => exact ⟨uses.1, fun r => ih _ (uses.2 _)⟩

theorem lift_bind (m : Program Reply ε α) (f : α → Program Reply ε β) :
    ((m >>= f).lift embed reply : Program Answer ε β) = m.lift embed reply >>= fun a => (f a).lift embed reply := by
  induction m with
  | done r =>
    cases r with
    | ok a => rfl
    | error e => rfl
  | call c k ih => exact congrArg (call (embed c)) (funext fun r => ih _)

/-- Where the services do with a call of the part what the part does by itself, the program
    runs as it does there. -/
theorem run_lift {part : (c : Part) → Eff τ ε (Reply c)} {serve : (c : Call) → Eff σ ε (Answer c)} {view : σ → τ}
    (alike : ∀ c s, part c (view s) = ((serve (embed c) s).1.map (reply c), view (serve (embed c) s).2))
    (m : Program Reply ε α) (s : σ) :
    m.run part (view s) = (((m.lift embed reply).run serve s).1, view ((m.lift embed reply).run serve s).2) := by
  induction m generalizing s with
  | done r => rfl
  | call c k ih =>
    show (k (part c (view s)).1).run part (part c (view s)).2 = _
    rw [alike]
    exact ih _ _

end

/-! ## What a program ensures -/

variable (serve) in
/-- From a state where the invariant holds, the program keeps it, and what it returns, if it
    returns, satisfies the postcondition. -/
def Ensures (I : σ → Prop) (m : Program Answer ε α) (post : α → Prop) : Prop :=
  ∀ s, I s → I (m.run serve s).2 ∧ ∀ a, (m.run serve s).1 = .ok a → post a

section
variable {post : α → Prop}

theorem Ensures.done {r : Except ε α} (holds : ∀ a, r = .ok a → post a) :
    Ensures serve I (done r : Program Answer ε α) post :=
  fun _ inv => ⟨inv, holds⟩

theorem Ensures.pure {a : α} (holds : post a) : Ensures serve I (Pure.pure a : Program Answer ε α) post :=
  .done fun _ same => Except.ok.inj same ▸ holds

theorem Ensures.raise {e : ε} : Ensures serve I (raise e : Program Answer ε α) post := .done nofun

theorem Ensures.remote {c : Call} {post : Answer c → Prop} (kept : Eff.Keeps I (serve c))
    (answered : ∀ s a, I s → (serve c s).1 = .ok a → post a) : Ensures serve I (remote c) post :=
  fun s inv => ⟨kept s inv, fun a => answered s a inv⟩

theorem Ensures.bind {m : Program Answer ε β} {f : β → Program Answer ε α} {mid : β → Prop}
    (first : Ensures serve I m mid) (second : ∀ b, mid b → Ensures serve I (f b) post) :
    Ensures serve I (m >>= f) post := by
  intro s inv
  obtain ⟨kept, holds⟩ := first s inv
  rw [run_bind, Eff.bind_run]
  rcases ran : m.run serve s with ⟨r, t⟩
  rw [ran] at kept holds
  cases r with
  | ok b => exact second b (holds b rfl) t kept
  | error e => exact ⟨kept, nofun⟩

theorem Ensures.weaken {weaker : α → Prop} {m : Program Answer ε α} (ensures : Ensures serve I m post)
    (implies : ∀ a, post a → weaker a) : Ensures serve I m weaker :=
  fun s inv => ⟨(ensures s inv).1, fun a returned => implies a ((ensures s inv).2 a returned)⟩

theorem Ensures.ite {c : Prop} [Decidable c] {m n : Program Answer ε α} (yes : c → Ensures serve I m post)
    (no : ¬ c → Ensures serve I n post) : Ensures serve I (if c then m else n) post := by
  by_cases h : c
  · rw [if_pos h]
    exact yes h
  · rw [if_neg h]
    exact no h

theorem Ensures.attempt {m : Program Answer ε α} {h : ε → Program Answer ε α} (body : Ensures serve I m post)
    (handler : ∀ e, Ensures serve I (h e) post) : Ensures serve I (attempt m h) post := by
  intro s inv
  obtain ⟨kept, holds⟩ := body s inv
  rw [run_attempt, Eff.attempt_run]
  rcases ran : m.run serve s with ⟨r, t⟩
  rw [ran] at kept holds
  cases r with
  | ok a => exact ⟨kept, fun b same => holds b same⟩
  | error e => exact handler e t kept

/-- A loop that gathers ensures, of the lists that it puts together, what each pass ensures of its own. -/
theorem Ensures.gather {f : β → Program Answer ε (List γ)} {each : β → List γ → Prop} {xs : List β}
    (passes : ∀ x, Ensures serve I (f x) (each x)) :
    Ensures serve I (gather xs f) fun all => ∃ lists, all = lists.flatten ∧ List.Forall₂ each xs lists := by
  induction xs with
  | nil => exact .pure ⟨[], rfl, .nil⟩
  | cons x xs ih =>
    refine .bind (passes x) fun first holds => .bind ih fun rest others => .pure ?_
    obtain ⟨lists, rfl, all⟩ := others
    exact ⟨first :: lists, rfl, .cons holds all⟩

/-- What the state satisfies after a program that goes on from another: after the other if that
    one raises, and otherwise after what follows. -/
theorem Ensures.leaves {m : Program Answer ε β} {f : β → Program Answer ε α} {mid : β → Prop} {Q : σ → Prop}
    (first : Ensures serve I m mid) (raised : ∀ s, I s → Q s)
    (second : ∀ b, mid b → ∀ s, I s → Q ((f b).run serve s).2) : ∀ s, I s → Q ((m >>= f).run serve s).2 := by
  intro s inv
  obtain ⟨kept, holds⟩ := first s inv
  rw [run_bind, Eff.bind_run]
  rcases ran : m.run serve s with ⟨r, t⟩
  rw [ran] at kept holds
  cases r with
  | ok b => exact second b (holds b rfl) t kept
  | error e => exact raised t kept

/-- A program that only makes calls which keep the invariant ensures nothing of its result. -/
theorem Ensures.of_uses {allowed : Call → Prop} (kept : ∀ c, allowed c → Eff.Keeps I (serve c))
    {m : Program Answer ε α} (uses : Uses allowed m) : Ensures serve I m fun _ => True :=
  fun s inv => ⟨run_keeps kept uses s inv, fun _ _ => trivial⟩

end

end Program
end Skyline.Programs
