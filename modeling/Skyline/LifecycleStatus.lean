import Skyline.LifecycleSafety

/-!
The status of a lifecycle row under any interleaving. Both the scheduler and the
extend endpoint read a row and write it later with an update that does not look
at it again. `discipline_iff` says which of these writes break the discipline:
exactly the ones on a row that has left the status it was read in.
-/
namespace Skyline.LifecycleStatus
open Skyline.Tables Skyline.Runs Skyline.Lifecycle Skyline.LifecycleInterleaving
open Skyline.LifecycleCycle (weekly sentRow)
open Skyline.LifecycleSafety (weekLater weekEvents)

/-- What a row in status `sent` promises: the warning went out at or after the
    expiry, and the row has never been extended. -/
def Timely (r : Row) : Prop := r.extended = false ∧ ∃ t, r.emailSentAt = some t ∧ r.expiresAt ≤ t

/-- The rows in status `sent` after a step are timely, and the step has changed no
    row from status `deleted` to another. -/
structure Discipline (w w' : World) : Prop where
  sent : ∀ r ∈ w'.table, r.emailStatus = .sent → Timely r
  deleted : ∀ r ∈ w.table, r.emailStatus = .deleted → ∀ r' ∈ w'.table, r'.instanceId = r.instanceId →
    r'.emailStatus = .deleted

/-- A row that has not been extended or deleted. -/
def Pending (r : Row) : Prop := r.emailStatus = .none ∨ r.emailStatus = .sent

/-- A warning is recorded only on a row that is pending, and an extension only on
    one that is not deleted. -/
def FreshWrites (w : World) : Label → Prop
  | .advance k _ => ∀ c ∈ w.cycles[k]?, ∀ row ∈ c.warned, ∀ r ∈ w.table, r.instanceId = row.instanceId → Pending r
  | .writeExtend j => ∀ x ∈ w.extensions[j]?, ∀ r ∈ w.table, r.instanceId = x.instanceId → r.emailStatus ≠ .deleted
  | _ => True

/-- A row that a cycle may still record a warning about. -/
def MayWarn (c : Cycle) (row : Row) : Prop := row ∈ c.toWarn ∧ row.emailStatus = .none ∨ c.warned = some row

/-- The row of an instance, while it is pending, has expired by `t`. -/
def ExpiredBy (w : World) (i : String) (t : Int) : Prop :=
  i ∈ w.issued ∧ ∀ r ∈ w.table, r.instanceId = i → Pending r → r.expiresAt ≤ t

structure Coherent (r : Row) : Prop where
  none : r.emailStatus = .none → r.extended = false
  sent : r.emailStatus = .sent → Timely r
  extended : r.emailStatus = .extended → r.extended = true

structure Disciplined (w : World) : Prop where
  issued : ∀ r ∈ w.table, r.instanceId ∈ w.issued
  rows : ∀ r ∈ w.table, Coherent r
  warns : ∀ c ∈ w.cycles, ∀ row, MayWarn c row → ExpiredBy w row.instanceId c.now

variable {w w' : World} {a : Label} {e : Event} {r r' : Row}

theorem Coherent.pending (coherent : Coherent r) (pending : Pending r) : r.extended = false := by
  rcases pending with unwarned | sent
  · exact coherent.none unwarned
  · exact (coherent.sent sent).1

/-! ## Fresh writes keep the invariant -/

theorem freshWrites_sent {k : Nat} {outcome : Bool} {c : Cycle} {row : Row} (fresh : FreshWrites w (.advance k outcome))
    (there : w.cycles[k]? = some c) (warned : c.warned = some row) (member : r ∈ w.table)
    (named : r.instanceId = row.instanceId) : Pending r :=
  fresh c there row warned r member named

theorem coherent_step (inv : Disciplined w) (fresh : FreshWrites w a) (member : r ∈ w.table)
    (moved : RowMoves w a r r') : Coherent r' := by
  cases moved with
  | same => exact inv.rows _ member
  | sent label there warned named =>
    subst label
    have pending := freshWrites_sent fresh there warned member named
    have expired := (inv.warns _ (List.mem_of_getElem? there) _ (.inr warned)).2 _ member named pending
    exact ⟨by simp, fun _ => ⟨(inv.rows _ member).pending pending, _, rfl, expired⟩, by simp⟩
  | extended => exact ⟨by simp, by simp, by simp⟩
  | deleted => exact ⟨by simp, by simp, by simp⟩

theorem expiredBy_step {i : String} {t : Int} (fresh : FreshWrites w a) (moved : Moves w a e w')
    (expired : ExpiredBy w i t) : ExpiredBy w' i t := by
  refine ⟨moves_issued moved expired.1, fun r' member named pending => ?_⟩
  rcases moves_row moved member with ⟨r, before, rowMoved⟩ | ⟨unissued, _⟩
  · rw [rowMoved.instanceId] at named
    cases rowMoved with
    | same => exact expired.2 _ before named pending
    | sent label there warned same =>
      subst label
      rw [markSent_expiresAt]
      exact expired.2 _ before named (freshWrites_sent fresh there warned before same)
    | extended => simp [Pending] at pending
    | deleted => simp [Pending] at pending
  · exact absurd (named ▸ expired.1) unissued

/-- A row that a cycle may still warn about after a step, it may have warned about
    before, or it has just read as expired. -/
theorem mayWarn_step {c' : Cycle} {row : Row} (moved : Moves w a e w') (member : c' ∈ w'.cycles)
    (mayWarn : MayWarn c' row) :
    (∃ c ∈ w.cycles, c.now = c'.now ∧ MayWarn c row) ∨
      row ∈ w.table ∧ row.expiresAt ≤ c'.now := by
  have idle : ∀ {c : Cycle}, c.Idle → ¬ MayWarn c row := by
    rintro c idle (⟨listed, _⟩ | warned)
    · simp [idle.1] at listed
    · simp [idle.2.1] at warned
  cases moved with
  | insert | remove | readExtend | writeExtend => exact .inl ⟨c', member, rfl, mayWarn⟩
  | start nothing =>
    rcases mem_append_idle nothing member with old | new
    · exact .inl ⟨c', old, rfl, mayWarn⟩
    · exact absurd mayWarn (idle new)
  | raised nothing =>
    rcases mem_set_idle nothing member with old | new
    · exact .inl ⟨c', old, rfl, mayWarn⟩
    · exact absurd mayWarn (idle new)
  | @advance _ _ _ _ c _ there moved =>
    have inside := List.mem_of_getElem? there
    rcases List.mem_or_eq_of_mem_set member with old | rfl
    · exact .inl ⟨c', old, rfl, mayWarn⟩
    · rw [moved.now]
      rcases mayWarn with ⟨listed, unwarned⟩ | warned
      · rcases moved.toWarn row listed with before | fresh
        · exact .inl ⟨c, inside, rfl, .inl ⟨before, unwarned⟩⟩
        · exact .inr ⟨(mem_expiring.mp fresh).1, (mem_expiring.mp fresh).2.1⟩
      · obtain ⟨before, unwarned, _⟩ := moved.warned row warned
        exact .inl ⟨c, inside, rfl, .inl ⟨before, unwarned⟩⟩

theorem disciplined_step (inv : Disciplined w) (fresh : FreshWrites w a) (moved : Moves w a e w') :
    Disciplined w' := by
  constructor
  · intro r' member
    rcases moves_row moved member with ⟨r, before, rowMoved⟩ | ⟨_, issued, _⟩
    · rw [rowMoved.instanceId]
      exact moves_issued moved (inv.issued r before)
    · exact issued
  · intro r' member
    rcases moves_row moved member with ⟨r, before, rowMoved⟩ | ⟨_, _, unwarned, unextended⟩
    · exact coherent_step inv fresh before rowMoved
    · exact ⟨fun _ => unextended, by simp [unwarned], by simp [unwarned]⟩
  · intro c' member row mayWarn
    refine expiredBy_step fresh moved ?_
    rcases mayWarn_step moved member mayWarn with ⟨c, before, same, warns⟩ | ⟨read, expired⟩
    · exact same ▸ inv.warns c before row warns
    · exact ⟨inv.issued row read, fun r there named _ => Table.eq_of_key there read named ▸ expired⟩

/-! ## The discipline says which writes are fresh -/

theorem deleted_of_freshWrites (inv : Disciplined w) (fresh : FreshWrites w a) (moved : Moves w a e w')
    (member : r ∈ w.table) (gone : r.emailStatus = .deleted) (member' : r' ∈ w'.table)
    (named : r'.instanceId = r.instanceId) : r'.emailStatus = .deleted := by
  rcases moves_row moved member' with ⟨old, before, rowMoved⟩ | ⟨unissued, _⟩
  · have same : old = r := Table.eq_of_key before member (rowMoved.instanceId ▸ named)
    subst same
    cases rowMoved with
    | same => exact gone
    | sent label there warned same =>
      subst label
      have pending := freshWrites_sent fresh there warned member same
      simp [Pending, gone] at pending
    | extended label there same =>
      subst label
      exact absurd gone (fresh _ there _ member same)
    | deleted => rfl
  · exact absurd (named ▸ inv.issued r member) unissued

/-- A step that keeps the discipline makes no write on a row that has moved on: it
    would leave a row in status `sent` that has been extended, or revive a deleted
    one. -/
theorem freshWrites_of_discipline (inv : Disciplined w) (moved : Moves w a e w') (kept : Discipline w w') :
    FreshWrites w a := by
  cases moved with
  | insert | remove | start | raised | readExtend => trivial
  | @advance _ _ _ _ c _ there moved =>
    intro c' there' row warned r member named
    obtain rfl : c = c' := Option.some.inj (there.symm.trans there')
    cases moved.writes with
    | nothing none => simp [none] at warned
    | deleted none => simp [none] at warned
    | sent warned' =>
      obtain rfl : _ = row := Option.some.inj (warned'.symm.trans warned)
      have written := markSent_mem (n := c.now) member named
      cases status : r.emailStatus with
      | none => exact .inl status
      | sent => exact .inr status
      | extended =>
        have timely := (kept.sent _ written rfl).1
        simp [(inv.rows r member).extended status] at timely
      | deleted => simpa using kept.deleted r member status _ written rfl
  | writeExtend there =>
    intro x' there' r member named gone
    obtain rfl : _ = x' := Option.some.inj (there.symm.trans there')
    simpa using kept.deleted r member gone _ (markExtended_mem member named) rfl

theorem discipline_step_iff (inv : Disciplined w) (moved : Moves w a e w') : Discipline w w' ↔ FreshWrites w a := by
  constructor
  · exact freshWrites_of_discipline inv moved
  · intro fresh
    exact ⟨fun r member => ((disciplined_step inv fresh moved).rows r member).sent,
      fun r member gone r' => deleted_of_freshWrites inv fresh moved member gone⟩

theorem disciplined_init : Disciplined lifecycle.init :=
  ⟨fun _ member => absurd member (Table.not_mem_empty _), fun _ member => absurd member (Table.not_mem_empty _),
    by simp [lifecycle]⟩

/-- The steps of an execution from the empty table all keep the discipline exactly
    when all their writes are fresh. -/
theorem discipline_iff (labels : List Label) :
    lifecycle.Along (fun w _ w' => Discipline w w') lifecycle.init labels ↔
      lifecycle.Along (fun w a _ => FreshWrites w a) lifecycle.init labels :=
  System.along_congr (I := Disciplined) (P := fun w _ w' => Discipline w w') (Q := fun w a _ => FreshWrites w a)
    (fun _ _ _ _ inv stepped => discipline_step_iff inv (step_moves stepped))
    (fun _ _ _ _ inv stepped fresh => disciplined_step inv fresh (step_moves stepped)) labels disciplined_init

/-- A cycle deletes an instance that nobody extended within a week. Its owner asks
    for an extension meanwhile: the request reads the row before the deletion is
    recorded. -/
def lateRequest : List Label := weekLater ++ [.readExtend "vm" 604900, .advance 1 true, .advance 1 true]

def deletedWorld : World where
  table := ⟨[sentRow.markDeleted], List.nodup_singleton _⟩
  issued := ["vm"]
  cycles := [⟨weekly, 100, none, .done⟩, ⟨weekly, 604900, none, .reclaiming []⟩]
  extensions := [⟨"vm", 3196900⟩]

/-- The request of the owner writes, and the deleted row is back. -/
theorem deleted_revived :
    ¬ ∀ labels, lifecycle.Along (fun w _ w' => Discipline w w') lifecycle.init labels := by
  intro always
  have executed : lifecycle.exec (fun _ _ => true) ([], lifecycle.init) lateRequest =
      some (.deletedRecorded "vm" :: .deleteCalled "vm" 604900 604800 :: .quiet :: weekEvents, deletedWorld) := rfl
  have kept := (always (lateRequest ++ [.writeExtend 0])).last executed rfl
  have revived : sentRow.markDeleted.markExtended 3196900 ∈
      updateInstanceLifecycleExtended deletedWorld.table "vm" 3196900 :=
    markExtended_mem (List.mem_singleton_self _) rfl
  exact absurd (kept.deleted sentRow.markDeleted (List.mem_singleton_self _) rfl _ revived rfl) (by decide)

end Skyline.LifecycleStatus
