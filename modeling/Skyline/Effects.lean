import Mathlib.Data.List.Basic

/-!
Computations over a mutable state that may raise. The state reached stays when
a computation raises, as it does in a program whose remote calls have already
taken effect; `attempt` is the blanket handler that goes on from there.
-/
namespace Skyline.Effects
universe u v

/-- A computation over a state `σ` that returns an `α` or raises an `ε`. -/
def Eff (σ : Type u) (ε : Type v) (α : Type) : Type (max u v) := σ → Except ε α × σ

namespace Eff
variable {σ : Type u} {ε : Type v} {α β : Type}

instance : Monad (Eff σ ε) where
  pure a := fun s => (.ok a, s)
  bind m f := fun s =>
    match m s with
    | (.ok a, s') => f a s'
    | (.error e, s') => (.error e, s')

def raise (e : ε) : Eff σ ε α := fun s => (.error e, s)
def gets (f : σ → α) : Eff σ ε α := fun s => (.ok (f s), s)
def modify (f : σ → σ) : Eff σ ε Unit := fun s => (.ok (), f s)
/-- Returns a result computed elsewhere, or raises its exception. -/
def lift (r : Except ε α) : Eff σ ε α := fun s => (r, s)

/-- `try: m except Exception as e: h(e)`. -/
def attempt (m : Eff σ ε α) (h : ε → Eff σ ε α) : Eff σ ε α := fun s =>
  match m s with
  | (.ok a, s') => (.ok a, s')
  | (.error e, s') => h e s'

/-- `for x in xs: f(x)`; an exception ends the loop. -/
def forEach : List β → (β → Eff σ ε Unit) → Eff σ ε Unit
  | [], _ => pure ()
  | x :: xs, f => do f x; forEach xs f

/-- `[f(x) for x in xs]`; an exception ends it. -/
def collect : List β → (β → Eff σ ε α) → Eff σ ε (List α)
  | [], _ => pure []
  | x :: xs, f => do
    let first ← f x
    let rest ← collect xs f
    return first :: rest

@[simp] theorem pure_run (a : α) (s : σ) : (pure a : Eff σ ε α) s = (.ok a, s) := rfl
@[simp] theorem gets_run (f : σ → α) (s : σ) : (gets f : Eff σ ε α) s = (.ok (f s), s) := rfl
@[simp] theorem modify_run (f : σ → σ) (s : σ) : (modify f : Eff σ ε Unit) s = (.ok (), f s) := rfl
@[simp] theorem lift_run (r : Except ε α) (s : σ) : (lift r : Eff σ ε α) s = (r, s) := rfl

theorem bind_run (m : Eff σ ε α) (f : α → Eff σ ε β) (s : σ) :
    (m >>= f) s = match m s with
      | (.ok a, s') => f a s'
      | (.error e, s') => (.error e, s') := rfl

theorem bind_ok {m : Eff σ ε α} {f : α → Eff σ ε β} {s s' : σ} {a : α} (ran : m s = (.ok a, s')) :
    (m >>= f) s = f a s' := by
  rw [bind_run, ran]

theorem bind_error {m : Eff σ ε α} {f : α → Eff σ ε β} {s s' : σ} {e : ε} (ran : m s = (.error e, s')) :
    (m >>= f) s = (.error e, s') := by
  rw [bind_run, ran]

/-- What follows and does nothing leaves the state as it is. -/
theorem bind_pure_state (m : Eff σ ε α) (f : α → β) (s : σ) : ((m >>= fun a => pure (f a)) s).2 = (m s).2 := by
  rw [bind_run]
  rcases m s with ⟨r, s'⟩
  cases r <;> rfl

theorem of_bind_ok {m : Eff σ ε α} {f : α → Eff σ ε β} {s t : σ} {b : β} (ran : (m >>= f) s = (.ok b, t)) :
    ∃ a s', m s = (.ok a, s') ∧ f a s' = (.ok b, t) := by
  rw [bind_run] at ran
  rcases first : m s with ⟨r, s'⟩
  rw [first] at ran
  cases r with
  | ok a => exact ⟨a, s', rfl, ran⟩
  | error e => cases ran

theorem of_lift_ok {r : Except ε α} {s s' : σ} {a : α} (ran : lift r s = (.ok a, s')) : r = .ok a ∧ s' = s :=
  ⟨congrArg Prod.fst ran, (congrArg Prod.snd ran).symm⟩

theorem of_gets_ok {f : σ → α} {s s' : σ} {a : α} (ran : (gets f : Eff σ ε α) s = (.ok a, s')) : f s = a ∧ s' = s := by
  cases ran
  exact ⟨rfl, rfl⟩

theorem forEach_cons (x : β) (xs : List β) (f : β → Eff σ ε Unit) :
    forEach (x :: xs) f = (f x >>= fun _ => forEach xs f) := rfl

theorem forEach_singleton_state (x : β) (f : β → Eff σ ε Unit) (s : σ) : (forEach [x] f s).2 = (f x s).2 :=
  bind_pure_state (f x) id s

theorem forEach_append (xs ys : List β) (f : β → Eff σ ε Unit) :
    forEach (xs ++ ys) f = (forEach xs f >>= fun _ => forEach ys f) := by
  induction xs with
  | nil => rfl
  | cons x xs ih =>
    funext s
    rw [List.cons_append, forEach_cons, ih, forEach_cons, bind_run, bind_run, bind_run]
    rcases f x s with ⟨r, s'⟩
    cases r <;> rfl

/-- What every pass through the body keeps, the loop keeps, whether or not it
    ends with an exception. -/
theorem forEach_invariant {I : σ → Prop} {xs : List β} {f : β → Eff σ ε Unit}
    (kept : ∀ x ∈ xs, ∀ s, I s → I (f x s).2) {s : σ} (inv : I s) : I (forEach xs f s).2 := by
  induction xs generalizing s with
  | nil => exact inv
  | cons x xs ih =>
    have first := kept x List.mem_cons_self s inv
    rw [forEach_cons, bind_run]
    rcases body : f x s with ⟨r, s'⟩
    rw [body] at first
    cases r with
    | ok => exact ih (fun y member => kept y (List.mem_cons_of_mem x member)) first
    | error e => exact first

theorem collect_map {γ : Type} (h : γ → β) (xs : List γ) (f : β → Eff σ ε α) :
    collect (xs.map h) f = collect xs fun x => f (h x) := by
  induction xs with
  | nil => rfl
  | cons x xs ih => rw [List.map_cons, collect, ih, collect]

/-- A list is made up of what each of its parts comes to, where all of them keep an invariant. -/
theorem collect_ok {I : σ → Prop} {f : β → Eff σ ε α} {g : β → α} {xs : List β}
    (each : ∀ x ∈ xs, ∀ s, I s → ∃ t, f x s = (.ok (g x), t) ∧ I t) {s : σ} (inv : I s) :
    ∃ t, collect xs f s = (.ok (xs.map g), t) ∧ I t := by
  induction xs generalizing s with
  | nil => exact ⟨s, rfl, inv⟩
  | cons x xs ih =>
    obtain ⟨s₁, first, inv₁⟩ := each x List.mem_cons_self s inv
    obtain ⟨s₂, rest, inv₂⟩ := ih (fun y member => each y (List.mem_cons_of_mem x member)) inv₁
    refine ⟨s₂, ?_, inv₂⟩
    rw [collect, bind_ok first, bind_ok rest]
    rfl

/-! ## Loops with independent bodies -/

section
variable {τ : Type u} {view : σ → τ} {act : τ → τ} {fails : β → Bool} {f : β → Eff σ ε Unit}

/-- A loop ends well where no pass fails, if the state has no say in which passes fail. -/
theorem forEach_ok_iff (raises : ∀ x s, (f x s).1 = .ok () ↔ fails x = false) {xs : List β} {s : σ} :
    (forEach xs f s).1 = .ok () ↔ xs.any fails = false := by
  induction xs generalizing s with
  | nil => exact ⟨fun _ => rfl, fun _ => rfl⟩
  | cons x xs ih =>
    have first := raises x s
    rw [forEach_cons, bind_run, List.any_cons, Bool.or_eq_false_iff]
    rcases body : f x s with ⟨r, s'⟩
    rw [body] at first
    cases r with
    | ok => simpa [first.mp rfl] using ih
    | error e => simp [eq_true_of_ne_false fun fine => absurd (first.mpr fine) (by simp)]

variable (view) in
/-- What a loop does to the part of the state that only one pass touches: what that pass
    does, unless an earlier one fails. -/
theorem forEach_at (raises : ∀ x s, (f x s).1 = .ok () ↔ fails x = false) {pre post : List β} {x : β}
    (own : ∀ s, view (f x s).2 = act (view s)) (others : ∀ y ∈ pre ++ post, ∀ s, view (f y s).2 = view s) (s : σ) :
    view (forEach (pre ++ x :: post) f s).2 = if pre.any fails then view s else act (view s) := by
  have before : view (forEach pre f s).2 = view s :=
    forEach_invariant (I := fun t => view t = view s)
      (fun y member t same => (others y (List.mem_append_left post member) t).trans same) rfl
  have ok : (forEach pre f s).1 = .ok () ↔ pre.any fails = false := forEach_ok_iff raises
  rw [forEach_append, bind_run]
  rcases loop : forEach pre f s with ⟨r, t⟩
  rw [loop] at before ok
  cases r with
  | error e =>
    have failed : pre.any fails = true := eq_true_of_ne_false fun fine => absurd (ok.mpr fine) (by simp)
    simpa [failed] using before
  | ok =>
    rw [if_neg (by simpa using ok.mp rfl)]
    have here : view (f x t).2 = act (view s) := (own t).trans (congrArg act before)
    simp only [forEach_cons, bind_run]
    rcases body : f x t with ⟨r, t'⟩
    rw [body] at here
    cases r with
    | error e => exact here
    | ok =>
      exact forEach_invariant (I := fun u => view u = act (view s))
        (fun y member u same => (others y (List.mem_append_right pre member) u).trans same) here

end

theorem attempt_run (m : Eff σ ε α) (h : ε → Eff σ ε α) (s : σ) :
    attempt m h s = match m s with
      | (.ok a, s') => (.ok a, s')
      | (.error e, s') => h e s' := rfl

theorem attempt_ok {m : Eff σ ε α} (h : ε → Eff σ ε α) {s s' : σ} {a : α} (ran : m s = (.ok a, s')) :
    attempt m h s = (.ok a, s') := by
  rw [attempt_run, ran]

/-- `try: m except Exception: pass` always goes on, from the state that `m` reached. -/
theorem attempt_ignore (m : Eff σ ε Unit) (s : σ) : attempt m (fun _ => pure ()) s = (.ok (), (m s).2) := by
  rw [attempt_run]
  rcases m s with ⟨r, s'⟩
  cases r <;> rfl

/-- A handler that raises another exception changes neither the state nor what is returned. -/
theorem attempt_raise_state (m : Eff σ ε α) (f : ε → ε) (s : σ) : (attempt m (fun e => raise (f e)) s).2 = (m s).2 := by
  rw [attempt_run]
  rcases m s with ⟨r, s'⟩
  cases r <;> rfl

theorem attempt_raise_ok (m : Eff σ ε α) (f : ε → ε) (s : σ) (a : α) :
    (attempt m (fun e => raise (f e)) s).1 = .ok a ↔ (m s).1 = .ok a := by
  rw [attempt_run]
  rcases m s with ⟨r, s'⟩
  cases r with
  | ok b => exact Iff.rfl
  | error e => exact ⟨nofun, nofun⟩

/-- A guarded computation that succeeds did so itself, or in its handler. -/
theorem of_attempt_ok {m : Eff σ ε α} {h : ε → Eff σ ε α} {s t : σ} {a : α} (ran : attempt m h s = (.ok a, t)) :
    m s = (.ok a, t) ∨ ∃ e s', m s = (.error e, s') ∧ h e s' = (.ok a, t) := by
  rw [attempt_run] at ran
  rcases body : m s with ⟨r, s'⟩
  rw [body] at ran
  cases r with
  | ok b => exact .inl ran
  | error e => exact .inr ⟨e, s', rfl, ran⟩

/-- Tries again up to `n` times while the exception is worth it, and raises
    `exhausted` after the last of them. -/
def retry (again : ε → Bool) (exhausted : ε) : Nat → Eff σ ε α → Eff σ ε α
  | 0, _ => raise exhausted
  | n + 1, m => attempt m (fun e => if again e then retry again exhausted n m else raise e)

/-! ## What computations keep -/

/-- A property of the state that a computation keeps, whether or not it raises. -/
def Keeps (I : σ → Prop) (m : Eff σ ε α) : Prop := ∀ s, I s → I (m s).2

section
variable {I : σ → Prop} {m : Eff σ ε α}

theorem Keeps.lift (r : Except ε α) : Keeps I (lift r : Eff σ ε α) := fun _ inv => inv

theorem Keeps.bind {f : α → Eff σ ε β} (first : Keeps I m) (second : ∀ a, Keeps I (f a)) : Keeps I (m >>= f) := by
  intro s inv
  have there := first s inv
  rw [bind_run]
  rcases ran : m s with ⟨r, s'⟩
  rw [ran] at there
  cases r with
  | ok a => exact second a s' there
  | error e => exact there

theorem Keeps.ite {c : Prop} [Decidable c] {n : Eff σ ε α} (yes : c → Keeps I m) (no : ¬ c → Keeps I n) :
    Keeps I (if c then m else n) := by
  by_cases h : c
  · rw [if_pos h]
    exact yes h
  · rw [if_neg h]
    exact no h

theorem Keeps.attempt {h : ε → Eff σ ε α} (body : Keeps I m) (handler : ∀ e, Keeps I (h e)) :
    Keeps I (attempt m h) := by
  intro s inv
  have there := body s inv
  rw [attempt_run]
  rcases ran : m s with ⟨r, s'⟩
  rw [ran] at there
  cases r with
  | ok a => exact there
  | error e => exact handler e s' there

end

/-! ## Computations over a part of the state -/

section
variable {τ : Type u} (part : τ → σ) (update : σ → τ → τ)

/-- A computation over a part of a state, as one over the whole of it. -/
def zoom (m : Eff σ ε α) : Eff τ ε α := fun t =>
  ((m (part t)).1, update (m (part t)).2 t)

theorem zoom_bind (updated : ∀ s t, part (update s t) = s) (again : ∀ s s' t, update s' (update s t) = update s' t)
    (m : Eff σ ε α) (f : α → Eff σ ε β) :
    zoom part update (m >>= f) = zoom part update m >>= fun a => zoom part update (f a) := by
  funext t
  rw [bind_run, zoom, zoom, bind_run]
  rcases m (part t) with ⟨r, s⟩
  cases r with
  | ok a => simp only [zoom, updated, again]
  | error e => rfl

theorem zoom_attempt (updated : ∀ s t, part (update s t) = s) (again : ∀ s s' t, update s' (update s t) = update s' t)
    (m : Eff σ ε α) (h : ε → Eff σ ε α) :
    zoom part update (attempt m h) = attempt (zoom part update m) fun e => zoom part update (h e) := by
  funext t
  rw [attempt_run, zoom, zoom, attempt_run]
  rcases m (part t) with ⟨r, s⟩
  cases r with
  | ok a => rfl
  | error e => simp only [zoom, updated, again]

end

/-! ## Read-only computations -/

/-- A computation that leaves every state as it is. -/
def ReadOnly (m : Eff σ ε α) : Prop := ∀ s, (m s).2 = s

theorem ReadOnly.same {m : Eff σ ε α} (readOnly : ReadOnly m) {r : Except ε α} {s s' : σ} (ran : m s = (r, s')) :
    s' = s := by
  rw [← readOnly s, ran]

theorem readOnly_iff {m : Eff σ ε α} : ReadOnly m ↔ ∀ s, Keeps (· = s) m := by
  constructor
  · intro readOnly s t same
    exact (readOnly t).trans same
  · intro kept s
    exact kept s s rfl

theorem ReadOnly.pure (a : α) : ReadOnly (Pure.pure a : Eff σ ε α) := fun _ => rfl
theorem ReadOnly.lift (r : Except ε α) : ReadOnly (lift r : Eff σ ε α) := fun _ => rfl
theorem ReadOnly.gets (f : σ → α) : ReadOnly (gets f : Eff σ ε α) := fun _ => rfl

theorem ReadOnly.bind {m : Eff σ ε α} {f : α → Eff σ ε β} (first : ReadOnly m) (second : ∀ a, ReadOnly (f a)) :
    ReadOnly (m >>= f) :=
  readOnly_iff.mpr fun s => .bind (readOnly_iff.mp first s) fun a => readOnly_iff.mp (second a) s

theorem ReadOnly.ite {c : Prop} [Decidable c] {m n : Eff σ ε α} (yes : ReadOnly m) (no : ReadOnly n) :
    ReadOnly (if c then m else n) :=
  readOnly_iff.mpr fun s => .ite (fun _ => readOnly_iff.mp yes s) fun _ => readOnly_iff.mp no s

theorem ReadOnly.attempt {m : Eff σ ε α} {h : ε → Eff σ ε α} (body : ReadOnly m) (handler : ∀ e, ReadOnly (h e)) :
    ReadOnly (attempt m h) :=
  readOnly_iff.mpr fun s => .attempt (readOnly_iff.mp body s) fun e => readOnly_iff.mp (handler e) s

end Eff
end Skyline.Effects
