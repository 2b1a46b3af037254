import Skyline.LifecycleInterleaving

/-!
How many warnings a lifecycle row causes. Every worker process of the server runs the
scheduler (`lifespan` in `main.py`), so any number of cycles may be under way at a time.
A cycle decides by the row as it listed it, and records the warning only after the mail,
so two cycles may both warn.
-/
namespace Skyline.LifecycleWarnings
open Skyline.Tables Skyline.Runs Skyline.Lifecycle Skyline.LifecycleInterleaving
open Skyline.LifecycleCycle (weekly)

/-- Whether an event is a mail about an instance. -/
def about (instanceId : String) : Event → Bool
  | .mailed row _ _ => row.instanceId == instanceId
  | _ => false

def warnings (instanceId : String) (past : List Event) : Nat := past.countP (about instanceId)

/-- The row that the next step of a cycle mails about. -/
def mailing (c : Cycle) : Option Row :=
  match c.pc with
  | .warning (row :: _) =>
    if exempt c.adminProjectId row.projectId then none
    else if row.emailStatus = .none && dated row.expiresAt then some row else none
  | _ => none

/-- Every mail and every database call succeeds, and nobody extends. -/
def Smooth (w : World) : Label → Prop
  | .advance k outcome => ∀ c ∈ w.cycles[k]?, (mailing c).isSome = true → outcome = true
  | .raised _ | .readExtend .. | .writeExtend _ => False
  | _ => True

instance : ∀ w a, Decidable (Smooth w a)
  | w, .advance k outcome =>
    inferInstanceAs (Decidable (∀ c ∈ w.cycles[k]?, (mailing c).isSome = true → outcome = true))
  | _, .raised _ | _, .readExtend .. | _, .writeExtend _ => .isFalse id
  | _, .insert .. | _, .remove _ | _, .start .. => .isTrue trivial

/-- The row of an instance still shows no warning, and none is about to be recorded. -/
def Unwarned (w : World) (instanceId : String) : Prop :=
  (getInstanceLifecycle w.table instanceId).map Row.emailStatus = some .none ∧
    ∀ c ∈ w.cycles, ∀ row ∈ c.warned, row.instanceId ≠ instanceId

/-- A cycle mails about a row only while there is no warning about it. -/
def Alone (w : World) : Label → Prop
  | .advance k _ => ∀ c ∈ w.cycles[k]?, ∀ row ∈ mailing c, Unwarned w row.instanceId
  | _ => True

instance : ∀ w a, Decidable (Alone w a)
  | w, .advance k _ => inferInstanceAs (Decidable (∀ c ∈ w.cycles[k]?, ∀ row ∈ mailing c,
      (getInstanceLifecycle w.table row.instanceId).map Row.emailStatus = some .none ∧
        ∀ d ∈ w.cycles, ∀ other ∈ d.warned, other.instanceId ≠ row.instanceId))
  | _, .insert .. | _, .remove _ | _, .start .. | _, .raised _ | _, .readExtend .. | _, .writeExtend _ => .isTrue trivial

/-! ## The mails of a step -/

/-- A step of a cycle that mails goes on to record the warning, where the mail succeeds. -/
theorem step_mails {table table' : LifecycleTable} {c c' : Cycle} {outcome : Bool} {e : Event}
    (stepped : c.step table outcome = some (e, table', c')) :
    (∀ i, about i e = false) ∨ ∃ row, mailing c = some row ∧ e = .mailed row c.now outcome ∧ table' = table ∧
      row ∈ c.toWarn ∧ (outcome = true → c'.warned = some row) := by
  obtain ⟨settings, now, adminProjectId, pc⟩ := c
  cases pc with
  | warning rows =>
    cases rows with
    | nil =>
      cases stepped
      exact .inl fun _ => rfl
    | cons row rows =>
      simp only [Cycle.step] at stepped
      split at stepped
      · cases stepped
        exact .inl fun _ => rfl
      · next watched =>
        split at stepped
        · next unwarned =>
          split at stepped
          · next dates =>
            cases stepped
            refine .inr ⟨row, by simp [mailing, watched, unwarned, dates], rfl, rfl, List.mem_cons_self, ?_⟩
            rintro rfl
            rfl
          · cases stepped
            exact .inl fun _ => rfl
        · cases stepped
          exact .inl fun _ => rfl
  | reclaiming rows =>
    cases rows with
    | nil =>
      cases stepped
      exact .inl fun _ => rfl
    | cons row rows =>
      simp only [Cycle.step] at stepped
      split at stepped <;>
      · cases stepped
        exact .inl fun _ => rfl
  | done => cases stepped
  | _ =>
    cases stepped
    exact .inl fun _ => rfl

/-! ## At most one warning -/

/-- The row of an instance shows its warning, or a cycle is about to record it. -/
def Recorded (w : World) (i : String) : Prop :=
  (∀ r ∈ w.table, r.instanceId = i → r.emailStatus ≠ .none) ∨ ∃ c ∈ w.cycles, ∃ row ∈ c.warned, row.instanceId = i

structure Once (past : List Event) (w : World) : Prop where
  rows : ∀ r ∈ w.table, r.instanceId ∈ w.issued
  listed : ∀ c ∈ w.cycles, ∀ row ∈ c.toWarn, row.instanceId ∈ w.issued
  single : ∀ i, warnings i past ≤ 1
  warned : ∀ i, warnings i past ≠ 0 → i ∈ w.issued ∧ Recorded w i

section
variable {w w' : World} {a : Label} {e : Event} {past : List Event} {i : String}

theorem unwarned_not_recorded (unwarned : Unwarned w i) : ¬ Recorded w i := by
  rintro (shown | ⟨c, member, row, warned, named⟩)
  · obtain ⟨r, found, status⟩ := Option.map_eq_some_iff.mp unwarned.1
    obtain ⟨there, named⟩ := Table.find_eq_some.mp found
    exact shown r there named status
  · exact unwarned.2 c member row warned named

theorem moves_listed {c' : Cycle} {row : Row} (moved : Moves w a e w') (member : c' ∈ w'.cycles)
    (listed : row ∈ c'.toWarn) : (∃ c ∈ w.cycles, row ∈ c.toWarn) ∨ row ∈ w.table := by
  have idle : ∀ {c : Cycle}, c.Idle → row ∉ c.toWarn := fun nothing there => by simp [nothing.1] at there
  cases moved with
  | insert | remove | readExtend | writeExtend => exact .inl ⟨c', member, listed⟩
  | start nothing =>
    rcases mem_append_idle nothing member with old | new
    · exact .inl ⟨c', old, listed⟩
    · exact absurd listed (idle new)
  | raised nothing =>
    rcases mem_set_idle nothing member with old | new
    · exact .inl ⟨c', old, listed⟩
    · exact absurd listed (idle new)
  | @advance _ _ _ _ c _ there moved =>
    rcases List.mem_or_eq_of_mem_set member with old | rfl
    · exact .inl ⟨c', old, listed⟩
    · rcases moved.toWarn row listed with before | fresh
      · exact .inl ⟨c, List.mem_of_getElem? there, before⟩
      · exact .inr (mem_expiring.mp fresh).1

theorem moves_issued_rows (moved : Moves w a e w') (rows : ∀ r ∈ w.table, r.instanceId ∈ w.issued) :
    ∀ r ∈ w'.table, r.instanceId ∈ w'.issued := by
  intro r' member
  rcases moves_row moved member with ⟨r, before, rowMoved⟩ | ⟨_, issued, _⟩
  · rw [rowMoved.instanceId]
    exact moves_issued moved (rows r before)
  · exact issued

/-- No step takes a row back to showing no warning. -/
theorem shown_moves (moved : Moves w a e w') (issued : i ∈ w.issued)
    (shown : ∀ r ∈ w.table, r.instanceId = i → r.emailStatus ≠ .none) :
    ∀ r ∈ w'.table, r.instanceId = i → r.emailStatus ≠ .none := by
  intro r' member named
  rcases moves_row moved member with ⟨r, before, rowMoved⟩ | ⟨unissued, _⟩
  · rw [rowMoved.instanceId] at named
    cases rowMoved with
    | same => exact shown _ before named
    | sent | extended | deleted => simp
  · exact absurd (named ▸ issued) unissued

/-- A cycle that is about to record a warning records it in its next step. -/
theorem recorded_moves (moved : Moves w a e w') (smooth : Smooth w a) (issued : i ∈ w.issued) (recorded : Recorded w i) :
    Recorded w' i := by
  rcases recorded with shown | ⟨c, member, row, warned, named⟩
  · exact .inl (shown_moves moved issued shown)
  · cases moved with
    | insert | remove | readExtend | writeExtend => exact .inr ⟨c, member, row, warned, named⟩
    | start => exact .inr ⟨c, List.mem_append_left _ member, row, warned, named⟩
    | raised => exact smooth.elim
    | advance there moved =>
      rcases mem_set_of_mem _ there member with rfl | other
      · refine .inl fun r inside same => ?_
        cases moved.writes with
        | nothing unwarned => simp [unwarned] at warned
        | deleted unwarned => simp [unwarned] at warned
        | sent warns =>
          obtain rfl := Option.some.inj (warns.symm.trans warned)
          obtain ⟨old, _, rfl⟩ := mem_emailSent.mp inside
          split at same
          · next marked => simp [marked]
          · next unmarked => exact absurd (same.trans named.symm) unmarked
      · exact .inr ⟨c, other, row, warned, named⟩

theorem warnings_cons : warnings i (e :: past) = warnings i past + if about i e = true then 1 else 0 := by
  simp [warnings, List.countP_cons]

/-- A step keeps the invariant where what it mails about had no warning yet. -/
theorem once_moves (inv : Once past w) (moved : Moves w a e w') (smooth : Smooth w a)
    (first : ∀ i, about i e = true → warnings i past = 0 ∧ i ∈ w'.issued ∧ Recorded w' i) : Once (e :: past) w' where
  rows := moves_issued_rows moved inv.rows
  listed c' member row listed := by
    rcases moves_listed moved member listed with ⟨c, before, there⟩ | read
    · exact moves_issued moved (inv.listed c before row there)
    · exact moves_issued moved (inv.rows row read)
  single i := by
    rw [warnings_cons]
    split
    · next mailed => simp [(first i mailed).1]
    · exact inv.single i
  warned i some := by
    rw [warnings_cons] at some
    split at some
    · next mailed => exact (first i mailed).2
    · obtain ⟨issued, recorded⟩ := inv.warned i some
      exact ⟨moves_issued moved issued, recorded_moves moved smooth issued recorded⟩

theorem once_step (inv : Once past w) (smooth : Smooth w a) (alone : Alone w a) (stepped : step w a = some (e, w')) :
    Once (e :: past) w' := by
  have moved := step_moves stepped
  refine once_moves inv moved smooth fun i mailed => ?_
  cases a with
  | advance k outcome =>
    obtain ⟨c, table, c', there, advanced, rfl⟩ := step_advance stepped
    rcases step_mails advanced with silent | ⟨row, mails, rfl, rfl, listed, records⟩
    · simp [silent i] at mailed
    · obtain rfl : row.instanceId = i := by simpa [about] using mailed
      have unwarned := alone c there row mails
      have going : outcome = true := smooth c there (by simp [mails])
      have issued := inv.listed c (List.mem_of_getElem? there) row listed
      refine ⟨?_, issued, .inr ⟨c', moved_mem_set c' there, row, records going, rfl⟩⟩
      by_contra before
      exact unwarned_not_recorded unwarned (inv.warned _ before).2
  | _ =>
    cases moved
    cases mailed

end

/-- In every run in which a cycle warns about a row only while there is no warning about
    it, each instance is warned about at most once. -/
theorem one_warning (past : List Event) (w : World) (run : lifecycle.Run (fun w a => Smooth w a ∧ Alone w a) past w)
    (i : String) : warnings i past ≤ 1 := by
  have initial : Once [] lifecycle.init := {
    rows := fun r member => absurd member (Table.not_mem_empty r)
    listed := fun c member => by cases member
    single := fun i => Nat.zero_le 1
    warned := fun i some => absurd rfl some }
  have once := run.invariant (I := Once) initial fun _ _ _ _ _ inv allowed stepped =>
    once_step inv allowed.1 allowed.2 stepped
  exact once.single i

/-! ## Two workers -/

/-- A worker warns about a row, and an hour later another worker reads it. -/
def hourly : List Label :=
  [.insert "vm" "web" "user" "project" "user@example.org" 0 100, .start weekly 100 none,
    .advance 0 true, .advance 0 true, .advance 0 true, .start weekly 3700 none, .advance 1 true, .advance 1 true]

theorem hourly_one_warning : ∃ past w, lifecycle.Run (fun w a => Smooth w a ∧ Alone w a) past w ∧
    warnings "vm" past = 1 ∧ warnings "vm" past ≤ 1 := by
  have executed : ∃ c, lifecycle.exec (fun w a => decide (Smooth w a ∧ Alone w a)) ([], lifecycle.init) hourly = some c ∧
    warnings "vm" c.1 = 1 := ⟨_, rfl, rfl⟩
  obtain ⟨⟨past, w⟩, ran, once⟩ := executed
  have run := System.exec_guarded hourly .start ran
  exact ⟨past, w, run, once, one_warning past w run "vm"⟩

/-- Two workers that list a row before either has recorded its warning both warn. -/
theorem two_workers_warn_twice : ¬ ∀ past w, lifecycle.Run Smooth past w → ∀ i, warnings i past ≤ 1 := by
  intro always
  have executed : ∃ c, lifecycle.exec (fun w a => decide (Smooth w a)) ([], lifecycle.init)
      [.insert "vm" "web" "user" "project" "user@example.org" 0 100, .start weekly 100 none, .start weekly 100 none,
        .advance 0 true, .advance 1 true, .advance 0 true, .advance 1 true] = some c ∧
    warnings "vm" c.1 = 2 := ⟨_, rfl, rfl⟩
  obtain ⟨⟨past, w⟩, ran, twice⟩ := executed
  have once := always past w (System.exec_guarded _ .start ran) "vm"
  simp [twice] at once

end Skyline.LifecycleWarnings
