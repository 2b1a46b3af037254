import Mathlib.Data.List.Perm.Basic
import Skyline.Threads

/-!
Threads that add to a count each, once they have found it below a limit. What a thread
has found may be out of date when it adds, so the limit is passed where several threads are
under way at a time: each of them may still add one when the limit has been reached. A
thread that starts then finds the limit reached, and so as many threads as can be under way
say by how much the limit is passed.
-/
namespace Skyline.Quotas
open Skyline.Effects Skyline.Programs Skyline.Runs Skyline.Threads

/-- A thread and the others, before and after it has moved. -/
theorem countP_move {α : Type} {parties : List α} {i : Nat} {x : α} (x' : α) (there : parties[i]? = some x) (p : α → Bool) :
    parties.countP p = (parties.eraseIdx i).countP p + (if p x then 1 else 0) ∧
      (parties.set i x').countP p = (parties.eraseIdx i).countP p + (if p x' then 1 else 0) := by
  obtain ⟨within, rfl⟩ := List.getElem?_eq_some_iff.mp there
  constructor
  · rw [← (List.getElem_cons_eraseIdx_perm within).countP_eq p, List.countP_cons]
  · rw [(List.set_perm_cons_eraseIdx within x').countP_eq p, List.countP_cons]

variable {Call : Type} {Answer : Call → Type} {ε α σ Job Phase : Type}

/-- What is counted, and where a thread may still come to add to it. -/
structure Quota (P : Protocol Answer ε Phase) (serve : (c : Call) → Eff σ ε (Answer c)) (start : Job → Phase) where
  limit : Int
  count : σ → Nat
  hopeful : σ → Phase → Bool
  /-- A call adds one at most, and then the thread does not add again. -/
  spends : ∀ s q c, P.may q c →
    (count (serve c s).2 = count s ∧
        (limit ≤ count s → hopeful (serve c s).2 (P.next q c (serve c s).1) → hopeful s q)) ∨
      (count (serve c s).2 = count s + 1 ∧ hopeful s q ∧ ¬ hopeful (serve c s).2 (P.next q c (serve c s).1))
  /-- Once the limit is reached, no other thread gets its hopes up. -/
  others : ∀ s q c, P.may q c → limit ≤ count s → ∀ q', hopeful (serve c s).2 q' → hopeful s q'
  late : ∀ s job, limit ≤ count s → ¬ hopeful s (start job)

/-- How many threads are under way. -/
def underWay (threads : List (Thread Job Answer ε α)) : Nat := threads.countP fun t => t.upcoming.isSome

/-- No thread starts while `k` threads are under way. -/
def AtMost (k : Nat) (p : Pool σ Job Answer ε α) : Label Job → Prop
  | .start _ => underWay p.threads < k
  | .advance _ => True

instance (k : Nat) : ∀ (p : Pool σ Job Answer ε α) (a : Label Job), Decidable (AtMost k p a)
  | p, .start _ => inferInstanceAs (Decidable (underWay p.threads < k))
  | _, .advance _ => .isTrue trivial

section
variable {P : Protocol Answer ε Phase} {serve : (c : Call) → Eff σ ε (Answer c)} {start : Job → Phase}
  (quota : Quota P serve start)

/-- The thread may still add to the count. -/
def Quota.live (s : σ) (t : Thread Job Answer ε α) : Bool :=
  t.upcoming.isSome && quota.hopeful s (phase P start t)

def Quota.hopes (p : Pool σ Job Answer ε α) : Nat := p.threads.countP (quota.live p.state)

/-- Once the limit is reached, what is counted and what may still come stay within it and the
    threads under way. -/
structure Quota.Bounded (k : Nat) (p : Pool σ Job Answer ε α) : Prop where
  few : underWay p.threads ≤ k
  within : quota.limit ≤ quota.count p.state → quota.count p.state + quota.hopes p + 1 ≤ quota.limit + k

variable {quota} {k : Nat}

theorem Quota.started {program : Job → Program Answer ε α} {p : Pool σ Job Answer ε α} (job : Job)
    (bounded : quota.Bounded k p) (room : underWay p.threads < k) :
    quota.Bounded k { p with threads := p.threads ++ [⟨job, [], program job⟩] } := by
  constructor
  · have one : underWay [(⟨job, [], program job⟩ : Thread Job Answer ε α)] ≤ 1 := List.countP_le_length
    rw [underWay, List.countP_append]
    exact Nat.le_trans (Nat.add_le_add_left one _) room
  · intro reached
    have hopeless : quota.live p.state (⟨job, [], program job⟩ : Thread Job Answer ε α) = false := by
      rw [Quota.live, Bool.and_eq_false_iff]
      exact .inr (Bool.eq_false_iff.mpr (quota.late p.state job reached))
    have same : quota.hopes { p with threads := p.threads ++ [⟨job, [], program job⟩] } = quota.hopes p := by
      rw [Quota.hopes, List.countP_append, List.countP_singleton, hopeless]
      rfl
    rw [same]
    exact bounded.within reached

theorem Quota.advanced {p : Pool σ Job Answer ε α} {i : Nat} {t : Thread Job Answer ε α} {c : Call}
    (rest : Program Answer ε α) (bounded : quota.Bounded k p) (there : p.threads[i]? = some t)
    (coming : t.upcoming = some c) (may : P.may (phase P start t) c) :
    quota.Bounded k ⟨(serve c p.state).2, p.threads.set i (t.came c (serve c p.state).1 rest)⟩ := by
  have few := bounded.few
  have within := bounded.within
  obtain ⟨running, moved⟩ := countP_move (t.came c (serve c p.state).1 rest) there fun t => t.upcoming.isSome
  obtain ⟨hoping, -⟩ := countP_move t there (quota.live p.state)
  obtain ⟨-, hopes⟩ := countP_move (t.came c (serve c p.state).1 rest) there (quota.live (serve c p.state).2)
  have idle : ((p.threads.eraseIdx i).countP (quota.live (serve c p.state).2)) ≤
      (p.threads.eraseIdx i).countP fun t => t.upcoming.isSome :=
    List.countP_mono_left fun _ _ live => (Bool.and_eq_true_iff.mp live).1
  have own : quota.live p.state t = quota.hopeful p.state (phase P start t) := by rw [Quota.live, coming]; rfl
  simp only [coming, Option.isSome_some, if_true] at running
  rw [own] at hoping
  unfold Quota.hopes at within
  unfold underWay at few
  refine ⟨?_, fun reached => ?_⟩
  · show List.countP _ (p.threads.set i _) ≤ k
    rw [moved]
    split <;> omega
  · have calmed : quota.limit ≤ quota.count p.state → (p.threads.eraseIdx i).countP (quota.live (serve c p.state).2) ≤
        (p.threads.eraseIdx i).countP (quota.live p.state) := by
      refine fun full => List.countP_mono_left fun u _ live => ?_
      obtain ⟨under, hopeful⟩ := Bool.and_eq_true_iff.mp live
      exact Bool.and_eq_true_iff.mpr ⟨under, quota.others p.state _ c may full _ hopeful⟩
    have left : quota.hopes ⟨(serve c p.state).2, p.threads.set i (t.came c (serve c p.state).1 rest)⟩ = _ := hopes
    rw [left]
    dsimp only at reached ⊢
    rcases quota.spends p.state _ c may with ⟨same, kept⟩ | ⟨more, hopeful, spent⟩
    · rw [same] at reached ⊢
      have others := calmed reached
      have kept : quota.live (serve c p.state).2 (t.came c (serve c p.state).1 rest) = true →
          quota.hopeful p.state (phase P start t) = true :=
        fun live => kept reached (Bool.and_eq_true_iff.mp live).2
      have before := within reached
      by_cases live : quota.live (serve c p.state).2 (t.came c (serve c p.state).1 rest) = true
      · rw [if_pos live]
        rw [if_pos (kept live)] at hoping
        omega
      · rw [if_neg live]
        omega
    · rw [more] at reached ⊢
      have gone : ¬ quota.live (serve c p.state).2 (t.came c (serve c p.state).1 rest) = true :=
        fun live => spent (Bool.and_eq_true_iff.mp live).2
      rw [if_neg gone]
      rw [if_pos hopeful] at hoping
      by_cases full : quota.limit ≤ quota.count p.state
      · have others := calmed full
        have before := within full
        omega
      · omega

variable (quota) in
/-- Of threads of which `k` are under way at most, as many less one pass the limit at most. -/
theorem Quota.overshoot {program : Job → Program Answer ε α} {post : Job → Except ε α → Phase → Prop}
    (orderly : ∀ job, Follows P (post job) (program job) (start job)) {state : σ} (some : 0 < k)
    (initial : quota.count state ≤ quota.limit) {past : List (Label Job)} {p : Pool σ Job Answer ε α}
    (run : (pool serve program state).Run (AtMost k) past p) : quota.count p.state + 1 ≤ quota.limit + k := by
  have empty : quota.Bounded k (⟨state, []⟩ : Pool σ Job Answer ε α) := by
    refine ⟨Nat.zero_le k, fun _ => ?_⟩
    show (quota.count state : Int) + (0 : Nat) + 1 ≤ quota.limit + k
    omega
  obtain ⟨bounded, -⟩ := guarded_invariant (I := quota.Bounded k) orderly empty (fun p job => Quota.started job)
    (fun p i t c rest bounded there coming may _ => Quota.advanced rest bounded there coming may) run
  by_cases reached : quota.limit ≤ quota.count p.state
  · have within := bounded.within reached
    omega
  · omega

end
end Skyline.Quotas
