import Skyline.LifecycleInterleaving

/-!
What holds of every interleaving of the lifecycle's database calls: a deletion
follows a warning and a full grace period (`deletion_was_warned`), and what the
extension of an instance and the status of its row keep, which depends on where
the unconditional updates fall (`HonouringWrites`, `FreshWrites`).
-/
namespace Skyline.LifecycleSafety
open Skyline.Tables Skyline.Runs Skyline.Lifecycle Skyline.LifecycleInterleaving
open Skyline.LifecycleCycle (weekly sentRow)

/-! ## A deletion follows a warning -/

/-- A cycle with clock `t` has mailed about an instance that it had read as expired
    by then, with success. -/
def Warned (past : List Event) (i : String) (t : Int) : Prop :=
  ∃ row, .mailed row t true ∈ past ∧ row.instanceId = i ∧ row.expiresAt ≤ t

theorem Warned.later {past : List Event} {i : String} {t : Int} (e : Event) (warned : Warned past i t) :
    Warned (e :: past) i t := by
  obtain ⟨row, mailed, named, expired⟩ := warned
  exact ⟨row, List.mem_cons_of_mem e mailed, named, expired⟩

/-- Every recorded warning, and every row that a cycle is about to delete, goes back
    to a mail. -/
structure Documented (past : List Event) (w : World) : Prop where
  rows : ∀ r ∈ w.table, ∀ t, r.emailSentAt = some t → Warned past r.instanceId t
  listed : ∀ c ∈ w.cycles, ∀ row ∈ c.toWarn, row.expiresAt ≤ c.now
  sent : ∀ c ∈ w.cycles, ∀ row, c.warned = some row → Warned past row.instanceId c.now
  due : ∀ c ∈ w.cycles, ∀ row ∈ c.toReclaim, ∃ t, Warned past row.instanceId t ∧ t + c.settings.replyGrace ≤ c.now

theorem documented_init : Documented [] lifecycle.init :=
  ⟨fun _ member => absurd member (Table.not_mem_empty _), by simp [lifecycle], by simp [lifecycle], by simp [lifecycle]⟩

theorem documented_rows {past : List Event} {w w' : World} {e : Event} (inv : Documented past w)
    (cycles : ∀ c ∈ w'.cycles, c ∈ w.cycles ∨ c.Idle)
    (rows : ∀ r ∈ w'.table, ∀ t, r.emailSentAt = some t → Warned past r.instanceId t) :
    Documented (e :: past) w' := by
  constructor
  · exact fun r member t recorded => (rows r member t recorded).later e
  · intro c member row listed
    rcases cycles c member with old | idle
    · exact inv.listed c old row listed
    · simp [idle.1] at listed
  · intro c member row due
    rcases cycles c member with old | idle
    · exact (inv.sent c old row due).later e
    · simp [idle.2.1] at due
  · intro c member row listed
    rcases cycles c member with old | idle
    · obtain ⟨t, warned, waited⟩ := inv.due c old row listed
      exact ⟨t, warned.later e, waited⟩
    · simp [idle.2.2] at listed

theorem documented_advance {past : List Event} {w : World} {k : Nat} {c c' : Cycle} {e : Event}
    {table : LifecycleTable} (inv : Documented past w) (there : w.cycles[k]? = some c)
    (moved : Advances w.table c e table c') :
    Documented (e :: past) { w with table := table, cycles := w.cycles.set k c' } := by
  have member : c ∈ w.cycles := List.mem_of_getElem? there
  constructor
  · intro r inside t recorded
    cases moved.writes with
    | nothing => exact (inv.rows r inside t recorded).later e
    | sent warned =>
      obtain ⟨old, before, rfl⟩ := mem_emailSent.mp inside
      split at recorded
      · next named =>
        cases recorded
        simp only [named, if_true, markSent_instanceId]
        exact (inv.sent c member _ warned).later _
      · next other => simpa [other] using (inv.rows old before t recorded).later _
    | deleted =>
      obtain ⟨old, before, rfl⟩ := mem_deleted.mp inside
      split at recorded
      · next named => simpa [named] using (inv.rows old before t recorded).later _
      · next other => simpa [other] using (inv.rows old before t recorded).later _
  · intro d inside row listed
    rcases List.mem_or_eq_of_mem_set inside with old | rfl
    · exact inv.listed d old row listed
    · rw [moved.now]
      rcases moved.toWarn row listed with before | fresh
      · exact inv.listed c member row before
      · exact (mem_expiring.mp fresh).2.1
  · intro d inside row warned
    rcases List.mem_or_eq_of_mem_set inside with old | rfl
    · exact (inv.sent d old row warned).later e
    · obtain ⟨listed, _, mailed⟩ := moved.warned row warned
      rw [moved.now]
      exact ⟨row, by simp [mailed], rfl, inv.listed c member row listed⟩
  · intro d inside row listed
    rcases List.mem_or_eq_of_mem_set inside with old | rfl
    · obtain ⟨t, warned, waited⟩ := inv.due d old row listed
      exact ⟨t, warned.later e, waited⟩
    · rw [moved.now, moved.settings]
      rcases moved.toReclaim row listed with before | fresh
      · obtain ⟨t, warned, waited⟩ := inv.due c member row before
        exact ⟨t, warned.later e, waited⟩
      · obtain ⟨before, _, late, _⟩ := mem_awaiting.mp fresh
        obtain ⟨t, recorded, waited⟩ := sentBy_iff.mp late
        exact ⟨t, (inv.rows row before t recorded).later e, by omega⟩

theorem documented_step {past : List Event} {w w' : World} {a : Label} {e : Event} (inv : Documented past w)
    (moved : Moves w a e w') : Documented (e :: past) w' := by
  cases moved with
  | insert fresh inserted =>
    refine documented_rows inv (fun c => .inl) (fun r member t recorded => ?_)
    rcases (Table.mem_insert inserted).mp member with old | rfl
    · exact inv.rows r old t recorded
    · cases recorded
  | remove i => exact documented_rows inv (fun c => .inl) (fun r member => inv.rows r (Table.mem_delete.mp member).1)
  | start idle => exact documented_rows inv (fun c => mem_append_idle idle) inv.rows
  | advance there moved => exact documented_advance inv there moved
  | raised idle => exact documented_rows inv (fun c => mem_set_idle idle) inv.rows
  | readExtend => exact documented_rows inv (fun c => .inl) inv.rows
  | writeExtend there =>
    refine documented_rows inv (fun c => .inl) (fun r member t recorded => ?_)
    obtain ⟨old, before, rfl⟩ := mem_extended.mp member
    split at recorded
    · next named => simpa [named] using inv.rows old before t recorded
    · next other => simpa [other] using inv.rows old before t recorded

theorem documented_run {past : List Event} {w : World} (run : lifecycle.AnyRun past w) : Documented past w :=
  System.Run.invariant documented_init (fun _ _ _ _ _ inv _ stepped => documented_step inv (step_moves stepped)) run

/-- Whenever a cycle calls `_delete_instance`, a mail about the instance has gone out
    after the expiry that its row had then, at least the grace period of the
    deleting cycle earlier. -/
theorem deletion_was_warned {past : List Event} {w w' : World} (run : lifecycle.AnyRun past w) {a : Label}
    {i : String} {now grace : Int} (stepped : lifecycle.step w a = some (.deleteCalled i now grace, w')) :
    ∃ row t, .mailed row t true ∈ past ∧ row.instanceId = i ∧ row.expiresAt ≤ t ∧ t + grace ≤ now := by
  obtain ⟨c, member, rfl, rfl, row, listed, rfl⟩ := moves_deletes (step_moves stepped)
  obtain ⟨t, ⟨read, mailed, named, expired⟩, waited⟩ := (documented_run run).due c member row listed
  exact ⟨read, t, mailed, named, expired, waited⟩

/-- An instance is registered and warned about at its expiry; a week later a cycle
    has read that nobody extended it. -/
def weekLater : List Label :=
  [.insert "vm" "web" "user" "project" "user@example.org" 0 100, .start weekly 100 none,
    .advance 0 true, .advance 0 true, .advance 0 true, .advance 0 true, .advance 0 true, .advance 0 true,
    .start weekly 604900 none, .advance 1 true, .advance 1 true, .advance 1 true, .advance 1 true]

def weekEvents : List Event :=
  [.quiet, .quiet, .quiet, .quiet, .quiet, .quiet, .quiet, .quiet, .emailSent "vm" 100,
    .mailed (newRow "vm" "web" "user" "project" "user@example.org" 0 100) 100 true, .quiet, .quiet, .inserted "vm"]

def weekWorld : World where
  table := ⟨[sentRow], List.nodup_singleton _⟩
  issued := ["vm"]
  cycles := [⟨weekly, 100, none, .done⟩, ⟨weekly, 604900, none, .reclaiming [sentRow]⟩]
  extensions := []

theorem weekLater_run : lifecycle.AnyRun weekEvents weekWorld :=
  System.exec_anyRun weekLater .start rfl

theorem week_deletion_was_warned :
    ∃ row t, .mailed row t true ∈ weekEvents ∧ row.instanceId = "vm" ∧ row.expiresAt ≤ t ∧ t + 604800 ≤ 604900 :=
  deletion_was_warned weekLater_run (a := .advance 1 false) rfl

/-! ## Extensions between the snapshot and the deletion -/

/-- Whether an extension of the instance has been committed since its row was
    inserted and last recorded as warned; events newest first. -/
def extendedSinceWarning (i : String) : List Event → Bool
  | [] => false
  | .extended j _ :: past => j == i || extendedSinceWarning i past
  | .emailSent j _ :: past => j != i && extendedSinceWarning i past
  | .inserted j :: past => j != i && extendedSinceWarning i past
  | _ :: past => extendedSinceWarning i past

theorem extendedSinceWarning_cons {i : String} {e : Event} {past : List Event}
    (extended : extendedSinceWarning i (e :: past) = true) :
    (∃ n, e = .extended i n) ∨ extendedSinceWarning i past = true ∧ e ≠ .inserted i := by
  cases e with
  | extended j n =>
    rcases Bool.or_eq_true _ _ ▸ extended with same | before
    · exact .inl ⟨n, by simpa using same⟩
    · exact .inr ⟨before, by simp⟩
  | emailSent j n => exact .inr ⟨(Bool.and_eq_true _ _ ▸ extended).2, by simp⟩
  | inserted j =>
    obtain ⟨other, before⟩ := Bool.and_eq_true _ _ ▸ extended
    exact .inr ⟨before, by simpa using other⟩
  | _ => exact .inr ⟨extended, by simp⟩

/-- An extend request writes only while no cycle that has found the instance overdue,
    and has not come to it yet, has a clock before the new expiry. -/
def HonouringWrites (w : World) : Label → Prop
  | .writeExtend j => ∀ x ∈ w.extensions[j]?,
    ∀ c ∈ w.cycles, ∀ row ∈ c.toReclaim, row.instanceId = x.instanceId → x.newExpiresAt ≤ c.now
  | _ => True

instance (w : World) (a : Label) : Decidable (HonouringWrites w a) :=
  match a with
  | .writeExtend j => inferInstanceAs (Decidable (∀ x ∈ w.extensions[j]?,
    ∀ c ∈ w.cycles, ∀ row ∈ c.toReclaim, row.instanceId = x.instanceId → x.newExpiresAt ≤ c.now))
  | .insert .. | .remove _ | .start .. | .advance .. | .raised _ | .readExtend .. => inferInstanceAs (Decidable True)

/-- An extension shows in its row, and the rows that a cycle has still to delete were
    not extended beyond its clock. -/
structure Honoured (past : List Event) (w : World) : Prop where
  marked : ∀ r ∈ w.table, extendedSinceWarning r.instanceId past = true → r.extended = true
  due : ∀ c ∈ w.cycles, ∀ row ∈ c.toReclaim, ∀ r ∈ w.table, r.instanceId = row.instanceId →
    r.extended = true → r.expiresAt ≤ c.now

theorem honoured_init : Honoured [] lifecycle.init :=
  ⟨fun _ member => absurd member (Table.not_mem_empty _), by simp [lifecycle]⟩

theorem honoured_rows {past : List Event} {w w' : World} {e : Event} (inv : Honoured past w)
    (cycles : ∀ c ∈ w'.cycles, c ∈ w.cycles ∨ c.Idle) (unextended : ∀ i n, e ≠ .extended i n)
    (rows : ∀ r ∈ w'.table, r ∈ w.table ∨ r.extended = false ∧ e = .inserted r.instanceId) :
    Honoured (e :: past) w' := by
  constructor
  · intro r member since
    rcases extendedSinceWarning_cons since with ⟨n, now⟩ | ⟨before, kept⟩
    · exact absurd now (unextended _ n)
    · rcases rows r member with old | ⟨_, inserted⟩
      · exact inv.marked r old before
      · exact absurd inserted kept
  · intro c member row listed r inside named extended
    rcases cycles c member with old | idle
    · rcases rows r inside with before | ⟨fresh, _⟩
      · exact inv.due c old row listed r before named extended
      · simp [fresh] at extended
    · simp [idle.2.2] at listed

theorem honoured_advance {past : List Event} {w : World} {k : Nat} {c c' : Cycle} {e : Event}
    {table : LifecycleTable} (inv : Honoured past w) (there : w.cycles[k]? = some c)
    (moved : Advances w.table c e table c') :
    Honoured (e :: past) { w with table := table, cycles := w.cycles.set k c' } := by
  constructor
  · intro r member since
    obtain ⟨old, before, named, _, same⟩ := moved.writes.keeps member
    rcases extendedSinceWarning_cons since with ⟨n, now⟩ | ⟨earlier, _⟩
    · exact absurd now (moved.quiet.2.2 _ n)
    · rw [same]
      exact inv.marked old before (named ▸ earlier)
  · intro d member row listed r inside named extended
    obtain ⟨old, before, sameId, sameExpiry, sameMark⟩ := moved.writes.keeps inside
    rw [sameExpiry]
    rw [sameMark] at extended
    rw [sameId] at named
    rcases List.mem_or_eq_of_mem_set member with there' | rfl
    · exact inv.due d there' row listed old before named extended
    · rw [moved.now]
      rcases moved.toReclaim row listed with waiting | fresh
      · exact inv.due c (List.mem_of_getElem? there) row waiting old before named extended
      · obtain ⟨found, _, _, unextended⟩ := mem_awaiting.mp fresh
        rw [Table.eq_of_key before found named, unextended] at extended
        cases extended

theorem honoured_extend {past : List Event} {w : World} {j : Nat} {x : Extension} (inv : Honoured past w)
    (allowed : HonouringWrites w (.writeExtend j)) (there : w.extensions[j]? = some x) :
    Honoured (.extended x.instanceId x.newExpiresAt :: past)
      { w with table := updateInstanceLifecycleExtended w.table x.instanceId x.newExpiresAt
               extensions := w.extensions.eraseIdx j } := by
  constructor
  · intro r member since
    obtain ⟨old, before, rfl⟩ := mem_extended.mp member
    split at since
    · next named => simp [named]
    · next other =>
      simp only [other, if_false]
      rcases extendedSinceWarning_cons since with ⟨n, now⟩ | ⟨earlier, _⟩
      · exact absurd (Event.extended.inj now).1.symm other
      · exact inv.marked old before earlier
  · intro c member row listed r inside named extended
    obtain ⟨old, before, rfl⟩ := mem_extended.mp inside
    split at named
    · next same =>
      simp only [same, if_true, markExtended_expiresAt]
      exact allowed x there c member row listed (by rw [← named, markExtended_instanceId, same])
    · next other =>
      simp only [other, if_false] at extended ⊢
      exact inv.due c member row listed old before named extended

theorem honoured_step {past : List Event} {w w' : World} {a : Label} {e : Event} (inv : Honoured past w)
    (allowed : HonouringWrites w a) (moved : Moves w a e w') : Honoured (e :: past) w' := by
  cases moved with
  | insert fresh inserted =>
    refine honoured_rows inv (fun c => .inl) (by simp) (fun r member => ?_)
    rcases (Table.mem_insert inserted).mp member with old | rfl
    · exact .inl old
    · exact .inr ⟨rfl, rfl⟩
  | remove i =>
    exact honoured_rows inv (fun c => .inl) (by simp) (fun r member => .inl (Table.mem_delete.mp member).1)
  | start idle => exact honoured_rows inv (fun c => mem_append_idle idle) (by simp) (fun r => .inl)
  | advance there moved => exact honoured_advance inv there moved
  | raised idle => exact honoured_rows inv (fun c => mem_set_idle idle) (by simp) (fun r => .inl)
  | readExtend => exact honoured_rows inv (fun c => .inl) (by simp) (fun r => .inl)
  | writeExtend there => exact honoured_extend inv allowed there

/-- In a run whose extend requests honour the cycles under way, a cycle only calls
    `_delete_instance` for an instance extended since its last recorded warning when
    the extension has run out by the clock of the cycle. -/
theorem extension_honoured {past : List Event} {w w' : World} (run : lifecycle.Run HonouringWrites past w)
    {a : Label} {i : String} {now grace : Int}
    (stepped : lifecycle.step w a = some (.deleteCalled i now grace, w')) {r : Row} (member : r ∈ w.table)
    (named : r.instanceId = i) (extended : extendedSinceWarning i past = true) : r.expiresAt ≤ now := by
  have inv : Honoured past w :=
    System.Run.invariant honoured_init
      (fun _ _ _ _ _ inv allowed stepped => honoured_step inv allowed (step_moves stepped)) run
  obtain ⟨c, there, rfl, _, row, listed, same⟩ := moves_deletes (step_moves stepped)
  exact inv.due c there row listed r member (named.trans same.symm) (inv.marked r member (named ▸ extended))

/-- An instance warned about at 100 is found overdue by a cycle at 3000000; only then
    is an extension written that was asked for at 200, and runs until 2592200. -/
def lateWrite : List Label :=
  [.insert "vm" "web" "user" "project" "user@example.org" 0 100, .start weekly 100 none,
    .advance 0 true, .advance 0 true, .advance 0 true, .readExtend "vm" 200,
    .start weekly 3000000 none, .advance 1 true, .advance 1 true, .advance 1 true, .advance 1 true, .writeExtend 0]

/-- What has happened by then. -/
def lateEvents : List Event :=
  [.extended "vm" 2592200, .quiet, .quiet, .quiet, .quiet, .quiet, .quiet, .emailSent "vm" 100,
    .mailed (newRow "vm" "web" "user" "project" "user@example.org" 0 100) 100 true, .quiet, .quiet, .inserted "vm"]

/-- Where everything is by then. -/
def lateWorld : World where
  table := ⟨[sentRow.markExtended 2592200], List.nodup_singleton _⟩
  issued := ["vm"]
  cycles := [⟨weekly, 100, none, .warning []⟩, ⟨weekly, 3000000, none, .reclaiming [sentRow]⟩]
  extensions := []

theorem late_extension_honoured : (sentRow.markExtended 2592200).expiresAt ≤ 3000000 :=
  have run : lifecycle.Run HonouringWrites lateEvents lateWorld := System.exec_guarded lateWrite .start rfl
  extension_honoured run (a := .advance 1 false) rfl (List.mem_singleton_self _) rfl rfl

/-- A week after the warning the user extends the instance, and the cycle that had
    read its row before deletes it. -/
theorem extension_not_honoured :
    ¬ ∀ past w, lifecycle.AnyRun past w → ∀ a i now grace w',
      lifecycle.step w a = some (.deleteCalled i now grace, w') →
        ∀ r ∈ w.table, r.instanceId = i → extendedSinceWarning i past = true → r.expiresAt ≤ now := by
  intro always
  have run : lifecycle.AnyRun (.extended "vm" 3196900 :: .quiet :: weekEvents)
      { weekWorld with table := ⟨[sentRow.markExtended 3196900], List.nodup_singleton _⟩ } :=
    System.exec_anyRun [.readExtend "vm" 604900, .writeExtend 0] weekLater_run rfl
  have ran_out := always _ _ run (.advance 1 true) "vm" 604900 604800 _ rfl _ (List.mem_singleton_self _) rfl rfl
  exact absurd ran_out (by decide)

end Skyline.LifecycleSafety
