import Skyline.Threads

/-!
What happens in a run: its calls with what came back, in order. Where a program follows a
protocol, each call of a run is one that the protocol permits after those before it, and the
result fits the phase that they lead to. The phases of the protocol `history` are the calls
so far, so that whatever can be said of a program's runs is said by following it.

The calls of a program may themselves be programs, of the calls of a layer below. With these
put in for its calls (`expand`) the program makes the calls of that layer.
-/
namespace Skyline.Threads
open Skyline.Effects Skyline.Programs

variable {Call : Type} {Answer : Call → Type} {ε α β σ Phase : Type}

/-- A call with what came back. -/
abbrev Event {Call : Type} (Answer : Call → Type) (ε : Type) : Type := Σ c : Call, Except ε (Answer c)

/-- The calls of a run. -/
def trace (serve : (c : Call) → Eff σ ε (Answer c)) : Program Answer ε α → σ → List (Event Answer ε)
  | .done _, _ => []
  | .call c k, s => ⟨c, (serve c s).1⟩ :: trace serve (k (serve c s).1) (serve c s).2

/-- The phase that calls lead to. -/
def after (P : Protocol Answer ε Phase) (q : Phase) (events : List (Event Answer ε)) : Phase :=
  events.foldl (fun q e => P.next q e.1 e.2) q

section
variable {P : Protocol Answer ε Phase} {post : Except ε α → Phase → Prop} {m : Program Answer ε α} {q : Phase}

/-- The result of a run fits the phase that its calls lead to. -/
theorem Follows.ends (follows : Follows P post m q) (serve : (c : Call) → Eff σ ε (Answer c)) (s : σ) :
    post (m.run serve s).1 (after P q (trace serve m s)) := by
  induction m generalizing q s with
  | done r => exact follows
  | call c k ih => exact ih _ (follows.2 _) _

/-- Each call of a run is permitted in the phase that those before it lead to. -/
theorem Follows.permits (follows : Follows P post m q) (serve : (c : Call) → Eff σ ε (Answer c)) (s : σ)
    {earlier later : List (Event Answer ε)} {e : Event Answer ε}
    (happened : trace serve m s = earlier ++ e :: later) : P.may (after P q earlier) e.1 := by
  induction m generalizing q s earlier with
  | done r => simp [trace] at happened
  | call c k ih =>
    cases earlier with
    | nil =>
      obtain ⟨rfl, -⟩ := List.cons.inj happened
      exact follows.1
    | cons first earlier =>
      obtain ⟨rfl, rest⟩ := List.cons.inj happened
      exact ih _ (follows.2 _) _ rest

/-- A loop follows a protocol where each pass does, from where the passes before it have led,
    and ends without an exception. -/
theorem Follows.forEach {I : List β → Phase → Prop} {f : β → Program Answer ε Unit}
    (each : ∀ x xs q, I (x :: xs) q → Follows P (fun r q => r = .ok () ∧ I xs q) (f x) q) (xs : List β)
    (start : I xs q) : Follows P (fun r q => r = .ok () ∧ I [] q) (Program.forEach xs f) q := by
  induction xs generalizing q with
  | nil => exact ⟨rfl, start⟩
  | cons x xs ih =>
    refine .bind ((each x xs q start).weaken fun r q passed => ?_)
    obtain ⟨rfl, goesOn⟩ := passed
    exact ih goesOn

end

/-- The protocol that permits everything and remembers it. -/
def history : Protocol Answer ε (List (Event Answer ε)) where
  may _ _ := True
  next past c r := past ++ [⟨c, r⟩]

theorem after_history (past events : List (Event Answer ε)) : after history past events = past ++ events := by
  induction events generalizing past with
  | nil => exact (List.append_nil past).symm
  | cons e events ih =>
    rw [after, List.foldl_cons, ← after, ih, history, List.append_assoc]
    rfl

/-- What is said of a program's calls and result together holds of every run. -/
theorem Follows.happened {post : Except ε α → List (Event Answer ε) → Prop} {m : Program Answer ε α}
    (follows : Follows history post m []) (serve : (c : Call) → Eff σ ε (Answer c)) (s : σ) :
    post (m.run serve s).1 (trace serve m s) := by
  have fits := follows.ends serve s
  rw [after_history, List.nil_append] at fits
  exact fits

/-! ## The calls of parts -/

section
variable {serve : (c : Call) → Eff σ ε (Answer c)}

/-- What is done after a program makes its calls where the program returns. -/
theorem trace_bind (m : Program Answer ε α) (f : α → Program Answer ε β) (s : σ) : trace serve (m >>= f) s =
    trace serve m s ++ match m.run serve s with
      | (.ok a, t) => trace serve (f a) t
      | (.error _, _) => [] := by
  induction m generalizing s with
  | done r =>
    cases r with
    | ok a => rfl
    | error e => rfl
  | call c k ih => exact congrArg (⟨c, (serve c s).1⟩ :: ·) (ih _ _)

/-- A handler makes its calls where the program raises. -/
theorem trace_attempt (m : Program Answer ε α) (h : ε → Program Answer ε α) (s : σ) : trace serve (.attempt m h) s =
    trace serve m s ++ match m.run serve s with
      | (.ok _, _) => []
      | (.error e, t) => trace serve (h e) t := by
  induction m generalizing s with
  | done r =>
    cases r with
    | ok a => rfl
    | error e => rfl
  | call c k ih => exact congrArg (⟨c, (serve c s).1⟩ :: ·) (ih _ _)

end

/-! ## Runs in which no call fails -/

section
variable {serve : (c : Call) → Eff σ ε (Answer c)}

variable (serve) in
def AllAnswered (m : Program Answer ε α) (s : σ) : Prop := ∀ e ∈ trace serve m s, ∃ a, e.2 = .ok a

theorem AllAnswered.first {m : Program Answer ε α} {f : α → Program Answer ε β} {s : σ}
    (answered : AllAnswered serve (m >>= f) s) : AllAnswered serve m s := by
  intro e member
  refine answered e ?_
  rw [trace_bind]
  exact List.mem_append_left _ member

theorem AllAnswered.second {m : Program Answer ε α} {f : α → Program Answer ε β} {s t : σ} {a : α}
    (answered : AllAnswered serve (m >>= f) s) (ran : m.run serve s = (.ok a, t)) : AllAnswered serve (f a) t := by
  intro e member
  refine answered e ?_
  rw [trace_bind, ran]
  exact List.mem_append_right _ member

theorem AllAnswered.body {m : Program Answer ε α} {h : ε → Program Answer ε α} {s : σ}
    (answered : AllAnswered serve (.attempt m h) s) : AllAnswered serve m s := by
  intro e member
  refine answered e ?_
  rw [trace_attempt]
  exact List.mem_append_left _ member

theorem AllAnswered.handler {m : Program Answer ε α} {h : ε → Program Answer ε α} {s t : σ} {e : ε}
    (answered : AllAnswered serve (.attempt m h) s) (ran : m.run serve s = (.error e, t)) : AllAnswered serve (h e) t := by
  intro event member
  refine answered event ?_
  rw [trace_attempt, ran]
  exact List.mem_append_right _ member

variable (serve) in
/-- From a state where the precondition holds, a run in which no call fails ends as the postcondition says. -/
def Comes (pre : σ → Prop) (m : Program Answer ε α) (post : Except ε α → σ → Prop) : Prop :=
  ∀ s, pre s → AllAnswered serve m s → post (m.run serve s).1 (m.run serve s).2

variable {pre : σ → Prop} {post : Except ε α → σ → Prop}

theorem Comes.done {r : Except ε α} (holds : ∀ s, pre s → post r s) :
    Comes serve pre (.done r : Program Answer ε α) post := fun s here _ => holds s here

theorem Comes.remote {c : Call} {post : Except ε (Answer c) → σ → Prop}
    (answered : ∀ s a t, pre s → serve c s = (.ok a, t) → post (.ok a) t) : Comes serve pre (.remote c) post := by
  intro s here all
  obtain ⟨a, ok⟩ := all ⟨c, (serve c s).1⟩ List.mem_cons_self
  have fits := answered s a (serve c s).2 here (Prod.ext ok rfl)
  rw [← ok] at fits
  exact fits

theorem Comes.bind {m : Program Answer ε β} {f : β → Program Answer ε α} {mid : Except ε β → σ → Prop}
    (first : Comes serve pre m mid) (goesOn : ∀ b, Comes serve (mid (.ok b)) (f b) post)
    (ends : ∀ e s, mid (.error e) s → post (.error e) s) : Comes serve pre (m >>= f) post := by
  intro s here answered
  have middle := first s here answered.first
  rw [Program.run_bind, Eff.bind_run]
  rcases ran : m.run serve s with ⟨r, t⟩
  rw [ran] at middle
  cases r with
  | ok b => exact goesOn b t middle (answered.second ran)
  | error e => exact ends e t middle

theorem Comes.attempt {m : Program Answer ε α} {h : ε → Program Answer ε α} {mid : Except ε α → σ → Prop}
    (body : Comes serve pre m mid) (handler : ∀ e, Comes serve (mid (.error e)) (h e) post)
    (ends : ∀ a s, mid (.ok a) s → post (.ok a) s) : Comes serve pre (.attempt m h) post := by
  intro s here answered
  have middle := body s here answered.body
  rw [Program.run_attempt, Eff.attempt_run]
  rcases ran : m.run serve s with ⟨r, t⟩
  rw [ran] at middle
  cases r with
  | ok a => exact ends a t middle
  | error e => exact handler e t middle (answered.handler ran)

/-- What the precondition says whatever the state is known of the program. -/
theorem Comes.assuming {fact : Prop} {m : Program Answer ε α} (holds : fact → Comes serve pre m post) :
    Comes serve (fun s => fact ∧ pre s) m post := fun s here => holds here.1 s here.2

variable (serve) in
/-- A program that returns a value where no call fails, and leaves the invariant. -/
def Returns (I : σ → Prop) (m : Program Answer ε α) (a : α) : Prop := Comes serve I m fun r s => r = .ok a ∧ I s

theorem Returns.bind {I : σ → Prop} {m : Program Answer ε β} {b : β} {f : β → Program Answer ε α}
    (first : Returns serve I m b) (goesOn : Comes serve I (f b) post) : Comes serve I (m >>= f) post := by
  refine Comes.bind first (fun a => .assuming fun same => ?_) fun _ _ there => nomatch there.1
  obtain rfl := Except.ok.inj same
  exact goesOn

theorem Returns.attempt {I : σ → Prop} {m : Program Answer ε α} {a : α} {h : ε → Program Answer ε α}
    (body : Returns serve I m a) : Returns serve I (.attempt m h) a :=
  Comes.attempt body (fun _ _ there => nomatch there.1) fun _ _ => id

/-- A loop that gathers puts together what its passes return. -/
theorem Returns.gather {I : σ → Prop} {γ : Type} {f : β → Program Answer ε (List γ)} {g : β → List γ}
    (each : ∀ x, Returns serve I (f x) (g x)) (xs : List β) : Returns serve I (Program.gather xs f) (xs.flatMap g) := by
  induction xs with
  | nil => exact .done fun s here => ⟨rfl, here⟩
  | cons x xs ih => exact (each x).bind (ih.bind (.done fun s here => ⟨rfl, here⟩))

end

/-! ## Calls that are programs -/

section
variable {Below : Type} {Reply : Below → Type}

/-- Goes on from whatever a program comes to, a result or an exception. -/
def andThen : Program Reply ε α → (Except ε α → Program Reply ε β) → Program Reply ε β
  | .done r, k => k r
  | .call c j, k => .call c fun r => andThen (j r) k

/-- The program with code put in for its calls. -/
def expand (code : (c : Call) → Program Reply ε (Answer c)) : Program Answer ε α → Program Reply ε α
  | .done r => .done r
  | .call c k => andThen (code c) fun r => expand code (k r)

variable {code : (c : Call) → Program Reply ε (Answer c)}

theorem run_andThen (serve : (c : Below) → Eff σ ε (Reply c)) (m : Program Reply ε α)
    (k : Except ε α → Program Reply ε β) (s : σ) :
    (andThen m k).run serve s = (k (m.run serve s).1).run serve (m.run serve s).2 := by
  induction m generalizing s with
  | done r => rfl
  | call c j ih => exact ih _ _

/-- A program whose calls are carried out by their code runs as it does with the code put in. -/
theorem run_expand (serve : (c : Below) → Eff σ ε (Reply c)) (m : Program Answer ε α) :
    (expand code m).run serve = m.run fun c => (code c).run serve := by
  induction m with
  | done r => rfl
  | call c k ih =>
    funext s
    rw [expand, run_andThen, ih]
    rfl

variable {P : Protocol Reply ε Phase} {q : Phase}

theorem Follows.andThen {post : Except ε β → Phase → Prop} {m : Program Reply ε α} {k : Except ε α → Program Reply ε β}
    (first : Follows P (fun r q => Follows P post (k r) q) m q) : Follows P post (andThen m k) q := by
  induction m generalizing q with
  | done r => exact first
  | call c j ih => exact ⟨first.1, fun r => ih r (first.2 r)⟩

/-- A program keeps to what the code of each of its calls keeps to in every phase. -/
theorem Follows.expand (each : ∀ c q, Follows P (fun _ _ => True) (code c) q) (m : Program Answer ε α) (q : Phase) :
    Follows P (fun _ _ => True) (expand code m) q := by
  induction m generalizing q with
  | done r => exact trivial
  | call c k ih => exact .andThen ((each c q).weaken fun r q _ => ih r q)

end
end Skyline.Threads
