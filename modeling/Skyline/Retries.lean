import Skyline.Effects

/-!
Requests that are sent again. A computation sends a request, once or several times, and
finds in the state how often it was sent before; what becomes of the k-th sending does
not depend on anything else. So how often the request is sent, and what its sendings have
done in the end, is known from the count before the first of them, whatever else the
computation does between them, as long as an invariant holds.
-/
namespace Skyline.Retries
open Skyline.Effects

variable {σ ε α β V : Type}

/-- How often a request that was sent `k` times before is sent by up to `tries` tries,
    the next of which is made where a sending fails. -/
def sends (fails : Nat → Bool) : (tries k : Nat) → Nat
  | 0, _ => 0
  | tries + 1, k => if fails k then sends fails tries (k + 1) + 1 else 1

/-- How often it is sent by `n` computations in a row, each of which sends it so many times. -/
def repeated (times : Nat → Nat) : (n k : Nat) → Nat
  | 0, _ => 0
  | n + 1, k => times k + repeated times n (k + times k)

/-- What `n` sendings, from the `k`-th on, make of something. -/
def effects (effect : Nat → V → V) (k : Nat) : Nat → V → V
  | 0, v => v
  | n + 1, v => effects effect (k + 1) n (effect k v)

/-- What comes of up to `tries` tries, where `outcome k` comes of the `k`-th sending. -/
def tried (again : ε → Bool) (exhausted : ε) (outcome : Nat → Except ε α) : (tries k : Nat) → Except ε α
  | 0, _ => .error exhausted
  | tries + 1, k =>
    match outcome k with
    | .ok a => .ok a
    | .error e => if again e then tried again exhausted outcome tries (k + 1) else .error e

theorem repeated_once (n k : Nat) : repeated (fun _ => 1) n k = n := by
  induction n generalizing k with
  | zero => rfl
  | succ n ih => rw [repeated, ih, Nat.add_comm]

theorem effects_add (effect : Nat → V → V) (k m n : Nat) (v : V) :
    effects effect k (m + n) v = effects effect (k + m) n (effects effect k m v) := by
  induction m generalizing k v with
  | zero => simp [effects]
  | succ m ih => rw [Nat.add_right_comm, effects, ih, effects, Nat.add_right_comm, Nat.add_assoc]

/-- Something that stays unless one of the sendings takes it away. -/
theorem effects_stays (takes : Nat → Prop) (k n : Nat) (there : Prop) :
    effects (fun k there => there ∧ ¬ takes k) k n there ↔ there ∧ ¬ ∃ j < n, takes (k + j) := by
  induction n generalizing k there with
  | zero => simp [effects]
  | succ n ih =>
    rw [effects, ih, and_assoc, ← not_or]
    refine and_congr_right fun _ => not_congr ⟨?_, ?_⟩
    · rintro (first | ⟨j, less, later⟩)
      · exact ⟨0, Nat.succ_pos n, first⟩
      · exact ⟨j + 1, Nat.succ_lt_succ less, by rwa [Nat.add_right_comm] at later⟩
    · rintro ⟨j, less, takes⟩
      cases j with
      | zero => exact .inl takes
      | succ j => exact .inr ⟨j, Nat.lt_of_succ_lt_succ less, by rwa [Nat.add_right_comm]⟩

/-- Something that grows by one with each sending that gets there. -/
theorem effects_grow (arrives : Nat → Bool) (k n v : Nat) :
    effects (fun k v => if arrives k then v + 1 else v) k n v = v + (List.range' k n).countP arrives := by
  induction n generalizing k v with
  | zero => rfl
  | succ n ih =>
    rw [effects, ih, List.range'_succ, List.countP_cons]
    split
    · rw [Nat.add_assoc, Nat.add_comm 1]
    · rfl

/-- What succeeds is one of the sendings. -/
theorem of_tried_ok {again : ε → Bool} {exhausted : ε} {outcome : Nat → Except ε α} {tries k : Nat} {a : α}
    (succeeds : tried again exhausted outcome tries k = .ok a) : ∃ j, outcome j = .ok a := by
  induction tries generalizing k with
  | zero => cases succeeds
  | succ tries ih =>
    rw [tried] at succeeds
    split at succeeds
    · next b here => exact ⟨k, here.trans succeeds⟩
    · split at succeeds
      · exact ih succeeds
      · cases succeeds

/-! ## Computations that send -/

section
variable (I : σ → Prop) (count : σ → Nat) (view : σ → V) (effect : Nat → V → V)

/-- Where the invariant holds the computation keeps it, and sends the request as often as
    `times` has it; nothing else it does changes the view. -/
def Sends (times : Nat → Nat) (m : Eff σ ε α) : Prop :=
  ∀ s, I s → I (m s).2 ∧ count (m s).2 = count s + times (count s) ∧
    view (m s).2 = effects effect (count s) (times (count s)) (view s)

/-- A computation that always goes on. -/
def NeverRaises (m : Eff σ ε Unit) : Prop := ∀ s, m s = (.ok (), (m s).2)

end

section
variable {I : σ → Prop} {count : σ → Nat} {view : σ → V} {effect : Nat → V → V} {times : Nat → Nat}

theorem Sends.retry {again : ε → Bool} {exhausted : ε} {fails : Nat → Bool} {m : Eff σ ε α}
    (once : Sends I count view effect (fun _ => 1) m)
    (failing : ∀ s, fails (count s) = true ↔ ∃ e, (m s).1 = .error e ∧ again e = true) (tries : Nat) :
    Sends I count view effect (sends fails tries) (Eff.retry again exhausted tries m) := by
  induction tries with
  | zero => exact fun s inv => ⟨inv, rfl, rfl⟩
  | succ tries ih =>
    intro s inv
    obtain ⟨kept, counted, viewed⟩ := once s inv
    have fails_iff := failing s
    rw [Eff.retry, Eff.attempt_run, sends]
    rcases ran : m s with ⟨r, t⟩
    rw [ran] at kept counted viewed fails_iff
    by_cases worth : fails (count s) = true
    · obtain ⟨e, raised, once_more⟩ := fails_iff.mp worth
      obtain rfl : r = .error e := raised
      obtain ⟨kept', counted', viewed'⟩ := ih t kept
      dsimp only at counted viewed ⊢
      rw [if_pos worth, if_pos once_more, counted', viewed', counted, viewed]
      exact ⟨kept', by rw [Nat.add_assoc, Nat.add_comm 1], rfl⟩
    · rw [if_neg worth]
      cases r with
      | ok a => exact ⟨kept, counted, viewed⟩
      | error e =>
        have done : ¬ again e = true := fun once_more => worth (fails_iff.mpr ⟨e, rfl, once_more⟩)
        dsimp only
        rw [if_neg done]
        exact ⟨kept, counted, viewed⟩

theorem Sends.andThen {m : Eff σ ε Unit} {n : Eff σ ε α} {times' : Nat → Nat}
    (first : Sends I count view effect times m) (goesOn : NeverRaises m) (second : Sends I count view effect times' n) :
    Sends I count view effect (fun k => times k + times' (k + times k)) (m >>= fun _ => n) := by
  intro s inv
  obtain ⟨kept, counted, viewed⟩ := first s inv
  obtain ⟨kept', counted', viewed'⟩ := second (m s).2 kept
  rw [Eff.bind_ok (goesOn s), counted', viewed', counted, viewed, effects_add, Nat.add_assoc]
  exact ⟨kept', rfl, rfl⟩

/-- A loop, some of whose passes send the request. -/
theorem Sends.forEach {xs : List β} {f : β → Eff σ ε Unit} {own : β → Bool} (goesOn : ∀ x, NeverRaises (f x))
    (mine : ∀ x ∈ xs, own x = true → Sends I count view effect times (f x))
    (others : ∀ x ∈ xs, own x = false → Sends I count view effect (fun _ => 0) (f x)) :
    Sends I count view effect (repeated times (xs.countP own)) (Eff.forEach xs f) := by
  induction xs with
  | nil => exact fun s inv => ⟨inv, rfl, rfl⟩
  | cons x xs ih =>
    have rest := ih (fun y member => mine y (List.mem_cons_of_mem x member))
      fun y member => others y (List.mem_cons_of_mem x member)
    rw [Eff.forEach_cons, List.countP_cons]
    by_cases same : own x = true
    · rw [if_pos same]
      exact (mine x List.mem_cons_self same).andThen (goesOn x) rest
    · have passed := (others x List.mem_cons_self (Bool.eq_false_iff.mpr same)).andThen (goesOn x) rest
      rw [if_neg same]
      simpa only [Nat.zero_add, Nat.add_zero] using passed

variable (count) in
/-- What comes of the tries, where what comes of a sending is told by its number. -/
theorem retry_result {again : ε → Bool} {exhausted : ε} {outcome : Nat → Except ε α} {m : Eff σ ε α}
    (kept : Eff.Keeps I m) (counted : ∀ s, count (m s).2 = count s + 1)
    (result : ∀ s, I s → (m s).1 = outcome (count s)) (tries : Nat) {s : σ} (inv : I s) :
    (Eff.retry again exhausted tries m s).1 = tried again exhausted outcome tries (count s) := by
  induction tries generalizing s with
  | zero => rfl
  | succ tries ih =>
    have here := result s inv
    have there := kept s inv
    have next := counted s
    rw [Eff.retry, Eff.attempt_run, tried, ← here]
    rcases ran : m s with ⟨r, t⟩
    rw [ran] at there next
    cases r with
    | ok a => rfl
    | error e =>
      by_cases worth : again e = true
      · dsimp only at next ⊢
        rw [if_pos worth, if_pos worth, ← next]
        exact ih there
      · dsimp only
        rw [if_neg worth, if_neg worth]
        rfl

end
end Skyline.Retries
