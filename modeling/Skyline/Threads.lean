import Skyline.Programs
import Skyline.Runs

/-!
Threads over shared services. A thread does a job: it runs the program of the job, one
call at a time. Any thread may make the next call, and a thread for any job may start at
any time, so the runs of a pool are all the ways in which the calls of its threads
interleave.

What a thread may call, and when, is said by a protocol, which follows the calls that the
thread has made and what came back. That a program keeps to its protocol is a fact about
the program alone, whatever its calls are answered; an invariant of the pool then only
has to look at one call of one thread in a phase of the protocol.
-/
namespace Skyline.Threads
open Skyline.Effects Skyline.Programs Skyline.Runs

variable {Call : Type} {Answer : Call → Type} {ε α β γ σ Job Phase : Type}

/-! ## Protocols -/

structure Protocol {Call : Type} (Answer : Call → Type) (ε Phase : Type) where
  may : Phase → Call → Prop
  next : Phase → (c : Call) → Except ε (Answer c) → Phase

variable {P : Protocol Answer ε Phase}

/-- The program keeps to the protocol from a phase on, whatever it is answered, and where
    it ends its result fits the phase it has come to. -/
def Follows (P : Protocol Answer ε Phase) (post : Except ε α → Phase → Prop) : Program Answer ε α → Phase → Prop
  | .done r, q => post r q
  | .call c k, q => P.may q c ∧ ∀ r, Follows P post (k r) (P.next q c r)

section
variable {post : Except ε α → Phase → Prop} {q : Phase}

theorem Follows.weaken {post' : Except ε α → Phase → Prop} (weaker : ∀ r q, post r q → post' r q)
    {m : Program Answer ε α} (follows : Follows P post m q) : Follows P post' m q := by
  induction m generalizing q with
  | done r => exact weaker r q follows
  | call c k ih => exact ⟨follows.1, fun r => ih r (follows.2 r)⟩

theorem Follows.pure {a : α} (fits : post (.ok a) q) : Follows P post (Pure.pure a) q := fits
theorem Follows.raise {e : ε} (fits : post (.error e) q) : Follows P post (Program.raise e) q := fits

theorem Follows.remote {c : Call} {post : Except ε (Answer c) → Phase → Prop} (may : P.may q c)
    (fits : ∀ r, post r (P.next q c r)) : Follows P post (Program.remote c) q := ⟨may, fits⟩

theorem Follows.bind {m : Program Answer ε β} {f : β → Program Answer ε α}
    (first : Follows P (fun r q => match r with | .ok b => Follows P post (f b) q | .error e => post (.error e) q) m q) :
    Follows P post (m >>= f) q := by
  induction m generalizing q with
  | done r =>
    cases r with
    | ok b => exact first
    | error e => exact first
  | call c k ih => exact ⟨first.1, fun r => ih r (first.2 r)⟩

theorem Follows.attempt {m : Program Answer ε α} {h : ε → Program Answer ε α}
    (body : Follows P (fun r q => match r with | .ok a => post (.ok a) q | .error e => Follows P post (h e) q) m q) :
    Follows P post (Program.attempt m h) q := by
  induction m generalizing q with
  | done r =>
    cases r with
    | ok a => exact body
    | error e => exact body
  | call c k ih => exact ⟨body.1, fun r => ih r (body.2 r)⟩

theorem Follows.ite {c : Prop} [Decidable c] {m n : Program Answer ε α} (yes : c → Follows P post m q)
    (no : ¬ c → Follows P post n q) : Follows P post (if c then m else n) q := by
  by_cases h : c
  · rw [if_pos h]
    exact yes h
  · rw [if_neg h]
    exact no h

/-- A program for a part of the services keeps to a protocol for all of them where it keeps to
    what that says of the part. -/
theorem Follows.lift {Part : Type} {Reply : Part → Type} {embed : Part → Call}
    {reply : ∀ c, Answer (embed c) → Reply c} {Q : Protocol Reply ε Phase} (may : ∀ q c, Q.may q c → P.may q (embed c))
    (next : ∀ q c r, P.next q (embed c) r = Q.next q c (r.map (reply c))) {m : Program Reply ε α}
    (follows : Follows Q post m q) : Follows P post (m.lift embed reply) q := by
  induction m generalizing q with
  | done r => exact follows
  | call c k ih =>
    refine ⟨may q c follows.1, fun r => ?_⟩
    rw [next]
    exact ih _ (follows.2 _)

/-- A program that only makes calls which the protocol permits and does not care about
    stays in its phase. -/
theorem Follows.of_uses {allowed : Call → Prop} (permitted : ∀ c, allowed c → P.may q c)
    (indifferent : ∀ c r, allowed c → P.next q c r = q) {m : Program Answer ε α} (uses : m.Uses allowed)
    (fits : ∀ r, post r q) : Follows P post m q := by
  induction m with
  | done r => exact fits r
  | call c k ih =>
    refine ⟨permitted c uses.1, fun r => ?_⟩
    rw [indifferent c r uses.1]
    exact ih r (uses.2 r)

end

/-! ## Threads -/

structure Thread (Job : Type) {Call : Type} (Answer : Call → Type) (ε α : Type) where
  job : Job
  /-- Its calls with what came back, the latest first. -/
  past : List (Σ c : Call, Except ε (Answer c))
  rest : Program Answer ε α

/-- The thread once a call of it has come back. -/
def Thread.came (t : Thread Job Answer ε α) (c : Call) (r : Except ε (Answer c)) (rest : Program Answer ε α) :
    Thread Job Answer ε α :=
  { t with past := ⟨c, r⟩ :: t.past, rest := rest }

/-- The call that the thread makes next. -/
def Thread.upcoming (t : Thread Job Answer ε α) : Option Call :=
  match t.rest with
  | .done _ => none
  | .call c _ => some c

structure Pool (σ Job : Type) {Call : Type} (Answer : Call → Type) (ε α : Type) where
  state : σ
  threads : List (Thread Job Answer ε α)

inductive Label (Job : Type)
  | start (job : Job)
  /-- A thread makes its next call. -/
  | advance (thread : Nat)

section
variable (serve : (c : Call) → Eff σ ε (Answer c)) (program : Job → Program Answer ε α)

def step (p : Pool σ Job Answer ε α) : Label Job → Option (Label Job × Pool σ Job Answer ε α)
  | .start job => some (.start job, { p with threads := p.threads ++ [⟨job, [], program job⟩] })
  | .advance i =>
    match p.threads[i]? with
    | none => none
    | some t =>
      match t.rest with
      | .done _ => none
      | .call c k =>
        let (r, state) := serve c p.state
        some (.advance i, ⟨state, p.threads.set i (t.came c r (k r))⟩)

/-- The steps in which a call is made only where it does no harm. -/
def Only (harmless : Pool σ Job Answer ε α → Thread Job Answer ε α → Call → Prop) (p : Pool σ Job Answer ε α) :
    Label Job → Prop
  | .start _ => True
  | .advance i => ∀ t ∈ p.threads[i]?, ∀ c ∈ t.upcoming, harmless p t c

instance (harmless : Pool σ Job Answer ε α → Thread Job Answer ε α → Call → Prop)
    [∀ p t c, Decidable (harmless p t c)] : ∀ p a, Decidable (Only harmless p a)
  | _, .start _ => .isTrue trivial
  | p, .advance i => inferInstanceAs (Decidable (∀ t ∈ p.threads[i]?, ∀ c ∈ t.upcoming, harmless p t c))

/-- All the runs of threads from a state. -/
def pool (state : σ) : System (Pool σ Job Answer ε α) (Label Job) (Label Job) where
  init := ⟨state, []⟩
  step := step serve program

inductive Moves (p : Pool σ Job Answer ε α) : Label Job → Pool σ Job Answer ε α → Prop
  | start (job : Job) : Moves p (.start job) { p with threads := p.threads ++ [⟨job, [], program job⟩] }
  | advance {i : Nat} {t : Thread Job Answer ε α} {c : Call} {k : Except ε (Answer c) → Program Answer ε α} :
      p.threads[i]? = some t → t.rest = .call c k →
      Moves p (.advance i) ⟨(serve c p.state).2, p.threads.set i (t.came c (serve c p.state).1 (k (serve c p.state).1))⟩

end

section
variable {serve : (c : Call) → Eff σ ε (Answer c)} {program : Job → Program Answer ε α}

theorem step_moves {p p' : Pool σ Job Answer ε α} {a b : Label Job}
    (stepped : step serve program p a = some (b, p')) : Moves serve program p a p' := by
  cases a with
  | start job =>
    cases stepped
    exact .start job
  | advance i =>
    simp only [step] at stepped
    split at stepped
    · cases stepped
    · next t there =>
      split at stepped
      · cases stepped
      · next c k rest =>
        cases stepped
        exact .advance there rest

/-! ## Invariants of a pool -/

variable {start : Job → Phase} {post : Job → Except ε α → Phase → Prop}

/-- The phase that a thread has come to. -/
def phase (P : Protocol Answer ε Phase) (start : Job → Phase) (t : Thread Job Answer ε α) : Phase :=
  t.past.foldr (fun e q => P.next q e.1 e.2) (start t.job)

def Orderly (P : Protocol Answer ε Phase) (start : Job → Phase) (post : Job → Except ε α → Phase → Prop)
    (t : Thread Job Answer ε α) : Prop :=
  Follows P (post t.job) t.rest (phase P start t)

/-- A thread that has no call to come has ended as it should. -/
theorem Orderly.ended {t : Thread Job Answer ε α} (orderly : Orderly P start post t) (idle : t.upcoming = none) :
    ∃ r, t.rest = .done r ∧ post t.job r (phase P start t) := by
  unfold Thread.upcoming at idle
  unfold Orderly at orderly
  cases rest : t.rest with
  | done r =>
    rw [rest] at orderly
    exact ⟨r, rfl, orderly⟩
  | call c k =>
    rw [rest] at idle
    cases idle

/-- An invariant of a pool whose programs keep to a protocol: what starting a thread
    keeps, and what an allowed call of a thread in its phase keeps, every run keeps. -/
theorem guarded_invariant {guard : Pool σ Job Answer ε α → Label Job → Prop} {I : Pool σ Job Answer ε α → Prop}
    (orderly : ∀ job, Follows P (post job) (program job) (start job)) {state : σ} (initial : I ⟨state, []⟩)
    (started : ∀ p job, I p → guard p (.start job) → I { p with threads := p.threads ++ [⟨job, [], program job⟩] })
    (advanced : ∀ (p : Pool σ Job Answer ε α) (i : Nat) (t : Thread Job Answer ε α) (c : Call)
      (rest : Program Answer ε α), I p → p.threads[i]? = some t → t.upcoming = some c → P.may (phase P start t) c →
      guard p (.advance i) →
      I ⟨(serve c p.state).2, p.threads.set i (t.came c (serve c p.state).1 rest)⟩)
    {past : List (Label Job)} {p : Pool σ Job Answer ε α} (run : (pool serve program state).Run guard past p) :
    I p ∧ ∀ t ∈ p.threads, Orderly P start post t := by
  refine System.Run.invariant (I := fun _ p => I p ∧ ∀ t ∈ p.threads, Orderly P start post t) ⟨initial, by simp [pool]⟩
    ?_ run
  rintro _ p a b p' ⟨inv, all⟩ allowed stepped
  cases step_moves stepped with
  | start job =>
    refine ⟨started p job inv allowed, fun t member => ?_⟩
    rcases List.mem_append.mp member with old | new
    · exact all t old
    · obtain rfl := List.mem_singleton.mp new
      exact orderly job
  | @advance i t c k there rest =>
    have here := all t (List.mem_of_getElem? there)
    rw [Orderly, rest] at here
    have coming : t.upcoming = some c := by rw [Thread.upcoming, rest]
    refine ⟨advanced p i t c _ inv there coming here.1 allowed, fun u member => ?_⟩
    rcases List.mem_or_eq_of_mem_set member with old | rfl
    · exact all u old
    · exact here.2 _

/-- So does every run in which a call is made only where it does no harm. -/
theorem run_invariant {harmless : Pool σ Job Answer ε α → Thread Job Answer ε α → Call → Prop}
    {I : Pool σ Job Answer ε α → Prop} (orderly : ∀ job, Follows P (post job) (program job) (start job)) {state : σ}
    (initial : I ⟨state, []⟩)
    (started : ∀ p job, I p → I { p with threads := p.threads ++ [⟨job, [], program job⟩] })
    (advanced : ∀ (p : Pool σ Job Answer ε α) (i : Nat) (t : Thread Job Answer ε α) (c : Call)
      (rest : Program Answer ε α), I p → p.threads[i]? = some t → t.upcoming = some c → P.may (phase P start t) c →
      harmless p t c →
      I ⟨(serve c p.state).2, p.threads.set i (t.came c (serve c p.state).1 rest)⟩)
    {past : List (Label Job)} {p : Pool σ Job Answer ε α}
    (run : (pool serve program state).Run (Only harmless) past p) :
    I p ∧ ∀ t ∈ p.threads, Orderly P start post t :=
  guarded_invariant orderly initial (fun p job inv _ => started p job inv)
    (fun p i t c rest inv there coming may allowed =>
      advanced p i t c rest inv there coming may (allowed t there c coming)) run

end
end Skyline.Threads
