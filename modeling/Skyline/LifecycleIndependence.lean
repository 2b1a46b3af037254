import Skyline.LifecycleCycle

/-!
What one scheduler cycle does for one row, and what the other rows have to do with it. The
loops of a cycle have no guard around a single row, so a row whose mail, date or update
raises ends the cycle for every row that comes after it, and for all in the second loop.
`cycle_effect` says exactly what is left for a row.
-/
namespace Skyline.LifecycleIndependence
open Skyline.Python Skyline.Config Skyline.Tables Skyline.Effects Skyline.Effects.Eff Skyline.Lifecycle
open Skyline.LifecycleCycle

/-! ## The effect on an instance -/

/-- What a cycle has done about one instance. -/
structure Effect where
  mails : List Mail
  deletions : List String
  row : Option Row
  deriving DecidableEq, Repr

def effect (i : String) (p : Progress) : Effect where
  mails := p.mails.filter (fun m => m.instanceId == i)
  deletions := p.deletions.filter (fun j => j == i)
  row := getInstanceLifecycle p.table i

/-- A scheduler whose `_delete_instance` reads a configuration and reaches an OpenStack
    that accepts what it accepts. -/
def reaching (env : Env) (openstack : Group) (accepts : String → Bool) : Env :=
  { env with deleteInstance := deleteInstance openstack accepts }

section
variable (env : Env) (settings : LifecycleSettings) (now : Int) (adminProjectId : Option String) (row : Row)

/-- The first loop mails about the row. -/
def mails : Bool := decide (Unwarned adminProjectId row) && dated row.expiresAt

def warningRecorded : Bool :=
  mails adminProjectId row && match env.mail (warning row row.expiresAt), env.recordSent row.instanceId with
    | .ok true, .ok _ => true
    | _, _ => false

/-- The pass of the first loop for the row raises: its expiry has no date, its mail raises,
    or the update after its mail does. -/
def warningFails : Bool :=
  decide (Unwarned adminProjectId row) && (!dated row.expiresAt ||
    match env.mail (warning row row.expiresAt), env.recordSent row.instanceId with
    | .error _, _ => true
    | .ok true, .error _ => true
    | _, _ => false)

def deletionRecorded : Bool :=
  !exempt adminProjectId row.projectId && (env.deleteInstance row.instanceId row.projectId).deleted &&
    match env.recordDeleted row.instanceId with
    | .ok _ => true
    | .error _ => false

/-- The pass of the second loop for the row raises: the update after its deletion does. -/
def deletionFails : Bool :=
  !exempt adminProjectId row.projectId && (env.deleteInstance row.instanceId row.projectId).deleted &&
    match env.recordDeleted row.instanceId with
    | .ok _ => false
    | .error _ => true

/-- What a pass of the first loop does about the instance of its row. -/
def warned (v : Effect) : Effect where
  mails := v.mails ++ if mails adminProjectId row then [warning row row.expiresAt] else []
  deletions := v.deletions
  row := if warningRecorded env adminProjectId row then v.row.map (Row.markSent now) else v.row

/-- What a pass of the second loop does about the instance of its row. -/
def reclaimed (v : Effect) : Effect where
  mails := v.mails
  deletions := v.deletions ++ if exempt adminProjectId row.projectId then [] else
    (env.deleteInstance row.instanceId row.projectId).calls.filter (fun j => j == row.instanceId)
  row := if deletionRecorded env adminProjectId row then v.row.map Row.markDeleted else v.row

def expiring : Bool := row.expiresAt ≤ now && row.emailStatus != .deleted

def awaiting : Bool :=
  row.emailStatus == .sent && sentBy row (now - settings.replyGrace) && !row.extended

/-- The row after the first loop, where nothing stops it. -/
def afterWarning : Row :=
  if expiring now row && warningRecorded env adminProjectId row then row.markSent now else row

end

section
variable {env : Env} {settings : LifecycleSettings} {now : Int} {adminProjectId : Option String} {row : Row}

/-- A pass of the first loop: whether it raises, and what it does. -/
theorem warnRow_run (env : Env) (now : Int) (adminProjectId : Option String) (row : Row) (p : Progress) :
    ((warnRow env now adminProjectId row p).1 = .ok () ↔ warningFails env adminProjectId row = false) ∧
      (warnRow env now adminProjectId row p).2 = {
        table := if warningRecorded env adminProjectId row then
          updateInstanceLifecycleEmailSent p.table row.instanceId now else p.table
        mails := p.mails ++ if mails adminProjectId row then [warning row row.expiresAt] else []
        deletions := p.deletions } := by
  by_cases unwarned : Unwarned adminProjectId row
  · have watched := unwarned.1
    have fresh := unwarned.2
    cases hasDate : dated row.expiresAt with
    | false =>
      simp [warnRow, warningFails, warningRecorded, mails, unwarned, watched, fresh, fromtimestamp, hasDate, bind_run]
    | true =>
      cases sent : env.mail (warning row row.expiresAt) with
      | error e =>
        simp [warnRow, warningFails, warningRecorded, mails, unwarned, watched, fresh, fromtimestamp, hasDate, bind_run,
          sent]
      | ok arrived =>
        cases arrived <;> cases committed : env.recordSent row.instanceId <;>
          simp [warnRow, warningFails, warningRecorded, mails, unwarned, watched, fresh, fromtimestamp, hasDate,
            bind_run, sent, committed]
  · simp [warnRow_skips unwarned, warningFails, warningRecorded, mails, unwarned]

/-- A pass of the second loop: whether it raises, and what it does. -/
theorem reclaimRow_run (env : Env) (adminProjectId : Option String) (row : Row) (p : Progress) :
    ((reclaimRow env adminProjectId row p).1 = .ok () ↔ deletionFails env adminProjectId row = false) ∧
      (reclaimRow env adminProjectId row p).2 = {
        table := if deletionRecorded env adminProjectId row then
          updateInstanceLifecycleDeleted p.table row.instanceId else p.table
        mails := p.mails
        deletions := p.deletions ++ if exempt adminProjectId row.projectId then [] else
          (env.deleteInstance row.instanceId row.projectId).calls } := by
  cases admin : exempt adminProjectId row.projectId <;>
    cases gone : (env.deleteInstance row.instanceId row.projectId).deleted <;>
      cases committed : env.recordDeleted row.instanceId <;>
        simp [reclaimRow, deletionFails, deletionRecorded, admin, gone, committed, bind_run]

/-! ## Passes over the row of an instance and over others -/

/-- `_delete_instance` gives up, or makes one call, for its own instance. -/
def OwnCalls (env : Env) : Prop :=
  ∀ i projectId, env.deleteInstance i projectId = ⟨false, []⟩ ∨ ∃ deleted, env.deleteInstance i projectId = ⟨deleted, [i]⟩

theorem reaching_ownCalls (env : Env) (openstack : Group) (accepts : String → Bool) :
    OwnCalls (reaching env openstack accepts) := by
  intro i projectId
  simp only [reaching, deleteInstance]
  split
  · exact .inl rfl
  · exact .inr ⟨_, rfl⟩

variable {i : String}

theorem warnRow_own (p : Progress) :
    effect row.instanceId (warnRow env now adminProjectId row p).2 =
      warned env now adminProjectId row (effect row.instanceId p) := by
  have own : (warning row row.expiresAt).instanceId = row.instanceId := rfl
  rw [(warnRow_run ..).2]
  simp only [effect, warned, Effect.mk.injEq, List.filter_append, true_and]
  constructor
  · split <;> simp [own]
  · split
    · exact Table.find_update_same
    · rfl

theorem warnRow_other (other : row.instanceId ≠ i) (p : Progress) :
    effect i (warnRow env now adminProjectId row p).2 = effect i p := by
  have foreign : (warning row row.expiresAt).instanceId ≠ i := other
  rw [(warnRow_run ..).2]
  simp only [effect, Effect.mk.injEq, List.filter_append, true_and]
  constructor
  · split <;> simp [foreign]
  · split
    · exact find_emailSent_ne other
    · rfl

theorem reclaimRow_own (p : Progress) :
    effect row.instanceId (reclaimRow env adminProjectId row p).2 =
      reclaimed env adminProjectId row (effect row.instanceId p) := by
  rw [(reclaimRow_run ..).2]
  simp only [effect, reclaimed, Effect.mk.injEq, List.filter_append, true_and]
  constructor
  · split <;> rfl
  · split
    · exact Table.find_update_same
    · rfl

theorem reclaimRow_other (own : OwnCalls env) (other : row.instanceId ≠ i) (p : Progress) :
    effect i (reclaimRow env adminProjectId row p).2 = effect i p := by
  rw [(reclaimRow_run ..).2]
  simp only [effect, Effect.mk.injEq, List.filter_append, true_and]
  constructor
  · split
    · simp
    · have foreign : (env.deleteInstance row.instanceId row.projectId).calls.filter (fun j => j == i) = [] := by
        rcases own row.instanceId row.projectId with gaveUp | ⟨deleted, called⟩
        · simp [gaveUp]
        · simp [called, other]
      rw [foreign, List.append_nil]
  · split
    · exact find_deleted_ne other
    · rfl

/-! ## The table between the loops -/

theorem warn_rows (rows : List Row) {p p' : Progress}
    (ran : forEach rows (warnRow env now adminProjectId) p = (.ok (), p')) :
    p'.table.rows = p.table.rows.map (fun r =>
      if rows.any (fun x => x.instanceId == r.instanceId && warningRecorded env adminProjectId x) then r.markSent now
      else r) := by
  induction rows generalizing p with
  | nil =>
    cases ran
    simp
  | cons x rows ih =>
    obtain ⟨_, q, first, rest⟩ := of_bind_ok ran
    have after : q = _ := (congrArg Prod.snd first).symm.trans (warnRow_run env now adminProjectId x p).2
    rw [ih rest, after]
    cases recorded : warningRecorded env adminProjectId x with
    | false => simp [recorded]
    | true =>
      simp only [if_true, updateInstanceLifecycleEmailSent, Table.update, List.map_map]
      refine List.map_congr_left fun r _ => ?_
      simp only [Function.comp_apply, List.any_cons, recorded, Bool.and_true]
      by_cases named : r.instanceId = x.instanceId
      · simp only [named, if_true, markSent_instanceId, beq_self_eq_true, Bool.true_or]
        split <;> rfl
      · have different : ¬ x.instanceId = r.instanceId := fun same => named same.symm
        simp [named, different]

variable {table : LifecycleTable} {earlier later : List Row} {r : Row}

/-- The rows once the first loop has ended well. -/
theorem rows_afterWarning {p : Progress}
    (ran : forEach (listInstanceLifecyclesExpiringBefore table now) (warnRow env now adminProjectId) ⟨table, [], []⟩ =
      (.ok (), p)) : p.table.rows = table.rows.map (afterWarning env now adminProjectId) := by
  rw [warn_rows _ ran]
  refine List.map_congr_left fun r member => ?_
  have own : (listInstanceLifecyclesExpiringBefore table now).any
      (fun x => x.instanceId == r.instanceId && warningRecorded env adminProjectId x) =
        (expiring now r && warningRecorded env adminProjectId r) := by
    rw [Bool.eq_iff_iff, List.any_eq_true, Bool.and_eq_true]
    constructor
    · rintro ⟨x, listed, matched⟩
      obtain ⟨inside, due⟩ := Table.mem_select.mp listed
      obtain ⟨named, recorded⟩ := Bool.and_eq_true _ _ ▸ matched
      obtain rfl := Table.eq_of_key inside member (by simpa using named)
      exact ⟨due, recorded⟩
    · rintro ⟨due, recorded⟩
      exact ⟨r, Table.mem_select.mpr ⟨member, due⟩, by simp [recorded]⟩
  rw [own, afterWarning]

theorem afterWarning_instanceId (env : Env) (now : Int) (adminProjectId : Option String) (r : Row) :
    (afterWarning env now adminProjectId r).instanceId = r.instanceId := by
  unfold afterWarning
  split <;> rfl

/-- The other rows of a table are those of other instances. -/
theorem other_rows (split : table.rows = earlier ++ r :: later) :
    ∀ x ∈ earlier ++ later, x.instanceId ≠ r.instanceId := by
  have unique := table.unique
  rw [split, List.map_append, List.map_cons, List.nodup_middle, ← List.map_append, List.nodup_cons] at unique
  intro x member same
  exact unique.1 (same ▸ List.mem_map_of_mem member)

/-! ## A whole cycle -/

/-- What the first loop does for the row of an instance, after the rows listed before it. -/
def warnOutcome (env : Env) (now : Int) (adminProjectId : Option String) (earlier : List Row) (r : Row) : Effect :=
  if expiring now r && !(earlier.filter (expiring now)).any (warningFails env adminProjectId) then
    warned env now adminProjectId r ⟨[], [], some r⟩
  else ⟨[], [], some r⟩

/-- The effect of the first loop on the instance of a row. -/
theorem warn_effect (split : table.rows = earlier ++ r :: later) :
    effect r.instanceId (forEach (listInstanceLifecyclesExpiringBefore table now) (warnRow env now adminProjectId)
      ⟨table, [], []⟩).2 = warnOutcome env now adminProjectId earlier r := by
  have start : effect r.instanceId ⟨table, [], []⟩ = ⟨[], [], some r⟩ := by
    have there : getInstanceLifecycle table r.instanceId = some r :=
      Table.find_eq_some.mpr ⟨by simp [Table.mem_rows, split], rfl⟩
    simp [effect, there]
  have others : ∀ x ∈ earlier.filter (expiring now) ++ later.filter (expiring now), ∀ p,
      effect r.instanceId (warnRow env now adminProjectId x p).2 = effect r.instanceId p := by
    intro x member p
    refine warnRow_other (other_rows split x ?_) p
    rw [← List.filter_append] at member
    exact (List.mem_filter.mp member).1
  have listed : listInstanceLifecyclesExpiringBefore table now = table.rows.filter (expiring now) := rfl
  rw [listed, split, List.filter_append, List.filter_cons, warnOutcome]
  cases due : expiring now r with
  | false =>
    simp only [Bool.false_eq_true, if_false, Bool.false_and]
    exact (forEach_invariant (I := fun p => effect r.instanceId p = effect r.instanceId ⟨table, [], []⟩)
      (fun x member p same => (others x member p).trans same) rfl).trans start
  | true =>
    simp only [if_true, Bool.true_and]
    rw [forEach_at (effect r.instanceId) (fun x p => (warnRow_run env now adminProjectId x p).1) warnRow_own others, start]
    cases (earlier.filter (expiring now)).any (warningFails env adminProjectId) <;> rfl

/-- The effect of the second loop, from where the first loop has ended well. -/
theorem reclaim_effect (own : OwnCalls env) (split : table.rows = earlier ++ r :: later) {p : Progress}
    (ran : p.table.rows = table.rows.map (afterWarning env now adminProjectId)) :
    effect r.instanceId (forEach (listInstanceLifecyclesAwaitingReply p.table (now - settings.replyGrace))
      (reclaimRow env adminProjectId) p).2 =
      if awaiting settings now (afterWarning env now adminProjectId r) &&
          !((earlier.map (afterWarning env now adminProjectId)).filter (awaiting settings now)).any
            (deletionFails env adminProjectId) then
        reclaimed env adminProjectId (afterWarning env now adminProjectId r) (effect r.instanceId p)
      else effect r.instanceId p := by
  have named := afterWarning_instanceId env now adminProjectId
  have others : ∀ x ∈ (earlier.map (afterWarning env now adminProjectId)).filter (awaiting settings now) ++
      (later.map (afterWarning env now adminProjectId)).filter (awaiting settings now), ∀ q,
      effect r.instanceId (reclaimRow env adminProjectId x q).2 = effect r.instanceId q := by
    intro x member q
    rw [← List.filter_append, ← List.map_append] at member
    obtain ⟨y, there, rfl⟩ := List.mem_map.mp (List.mem_filter.mp member).1
    exact reclaimRow_other own (named y ▸ other_rows split y there) q
  have same : ∀ q, effect r.instanceId (reclaimRow env adminProjectId (afterWarning env now adminProjectId r) q).2 =
      reclaimed env adminProjectId (afterWarning env now adminProjectId r) (effect r.instanceId q) := by
    intro q
    rw [← named r]
    exact reclaimRow_own q
  have listed : listInstanceLifecyclesAwaitingReply p.table (now - settings.replyGrace) =
      p.table.rows.filter (awaiting settings now) := rfl
  rw [listed, ran, split, List.map_append, List.map_cons, List.filter_append, List.filter_cons]
  cases due : awaiting settings now (afterWarning env now adminProjectId r) with
  | false =>
    simp only [Bool.false_eq_true, if_false, Bool.false_and]
    exact forEach_invariant (I := fun q => effect r.instanceId q = effect r.instanceId p)
      (fun x member q same => (others x member q).trans same) rfl
  | true =>
    simp only [if_true, Bool.true_and]
    rw [forEach_at (effect r.instanceId) (fun x p => (reclaimRow_run env adminProjectId x p).1) same others]
    cases ((earlier.map (afterWarning env now adminProjectId)).filter (awaiting settings now)).any
      (deletionFails env adminProjectId) <;> rfl

/-- The second loop comes to the row of an instance: no row has failed in the first, the row
    is overdue then, and none before it has failed in the second. -/
def reclaimReached (env : Env) (settings : LifecycleSettings) (now : Int) (adminProjectId : Option String)
    (earlier : List Row) (r : Row) (later : List Row) : Bool :=
  !((earlier ++ r :: later).filter (expiring now)).any (warningFails env adminProjectId) &&
    (awaiting settings now (afterWarning env now adminProjectId r) &&
      !((earlier.map (afterWarning env now adminProjectId)).filter (awaiting settings now)).any
        (deletionFails env adminProjectId))

/-- What a cycle does for the row of an instance, between the rows listed before it and
    after it. -/
def outcome (env : Env) (settings : LifecycleSettings) (now : Int) (adminProjectId : Option String)
    (earlier : List Row) (r : Row) (later : List Row) : Effect :=
  if reclaimReached env settings now adminProjectId earlier r later then
    reclaimed env adminProjectId (afterWarning env now adminProjectId r) (warnOutcome env now adminProjectId earlier r)
  else warnOutcome env now adminProjectId earlier r

theorem cycle_effect (own : OwnCalls env) (enabled : settings.enabled = true)
    (split : table.rows = earlier ++ r :: later) :
    effect r.instanceId (cycle env settings now adminProjectId table) =
      outcome env settings now adminProjectId earlier r later := by
  have first : effect r.instanceId (forEach (listInstanceLifecyclesExpiringBefore table now)
      (warnRow env now adminProjectId) ⟨table, [], []⟩).2 = warnOutcome env now adminProjectId earlier r :=
    warn_effect split
  have listed : listInstanceLifecyclesExpiringBefore table now = table.rows.filter (expiring now) := rfl
  have ok : (forEach (listInstanceLifecyclesExpiringBefore table now) (warnRow env now adminProjectId)
      ⟨table, [], []⟩).1 = .ok () ↔ _ := forEach_ok_iff (fun x p => (warnRow_run env now adminProjectId x p).1)
  rw [listed, split] at ok
  unfold cycle runLifecycleCheck
  simp only [enabled, if_true, bind_run, gets_run]
  rcases loop : forEach (listInstanceLifecyclesExpiringBefore table now) (warnRow env now adminProjectId)
    ⟨table, [], []⟩ with ⟨res, p⟩
  rw [loop] at first
  rw [listed, split] at loop
  rw [loop] at ok
  unfold outcome reclaimReached
  cases res with
  | error e =>
    rw [eq_true_of_ne_false fun fine => absurd (ok.mpr fine) (by simp)]
    exact first
  | ok =>
    rw [← split, ← listed] at loop
    rw [ok.mp rfl, ← first]
    exact reclaim_effect own split (rows_afterWarning loop)

/-! ## Each row on its own -/

def only (r : Row) : LifecycleTable := ⟨[r], List.nodup_singleton _⟩

theorem warned_idle (unmailed : mails adminProjectId r = false) (v : Effect) : warned env now adminProjectId r v = v := by
  simp [warned, warningRecorded, unmailed]

theorem reclaimed_idle (own : OwnCalls env)
    (idle : exempt adminProjectId r.projectId = true ∨ (env.deleteInstance r.instanceId r.projectId).calls = [])
    (v : Effect) : reclaimed env adminProjectId r v = v := by
  cases admin : exempt adminProjectId r.projectId with
  | true => simp [reclaimed, deletionRecorded, admin]
  | false =>
    rcases own r.instanceId r.projectId with gaveUp | ⟨deleted, called⟩
    · simp [reclaimed, deletionRecorded, admin, gaveUp]
    · simp [admin, called] at idle

theorem reclaimed_deletions (own : OwnCalls env) (watched : exempt adminProjectId r.projectId = false)
    (called : (env.deleteInstance r.instanceId r.projectId).calls ≠ []) (v : Effect) :
    (reclaimed env adminProjectId r v).deletions = v.deletions ++ [r.instanceId] := by
  rcases own r.instanceId r.projectId with gaveUp | ⟨deleted, calls⟩
  · simp [gaveUp] at called
  · simp [reclaimed, watched, calls]

/-- On its own, the row comes to the second loop, and its instance is to be deleted. -/
structure ToDelete (env : Env) (settings : LifecycleSettings) (now : Int) (adminProjectId : Option String)
    (r : Row) : Prop where
  called : (env.deleteInstance r.instanceId r.projectId).calls ≠ []
  watched : exempt adminProjectId r.projectId = false
  reached : expiring now r = true → warningFails env adminProjectId r = false
  overdue : awaiting settings now (afterWarning env now adminProjectId r) = true

/-- Where the row has a warning to come, no row before it fails in the first loop; where its
    instance is to be deleted, no other row fails there, and none before it in the second. -/
structure Undisturbed (env : Env) (settings : LifecycleSettings) (now : Int) (adminProjectId : Option String)
    (earlier : List Row) (r : Row) (later : List Row) : Prop where
  warning : expiring now r = true → mails adminProjectId r = true →
    ∀ x ∈ earlier, expiring now x = true → warningFails env adminProjectId x = false
  deletion : ToDelete env settings now adminProjectId r →
    (∀ x ∈ earlier ++ later, expiring now x = true → warningFails env adminProjectId x = false) ∧
    ∀ x ∈ earlier, awaiting settings now (afterWarning env now adminProjectId x) = true →
      deletionFails env adminProjectId (afterWarning env now adminProjectId x) = false

theorem any_filter_eq_false {p q : Row → Bool} {xs : List Row} :
    (xs.filter p).any q = false ↔ ∀ x ∈ xs, p x = true → q x = false := by
  simp

theorem warnOutcome_mails : (warnOutcome env now adminProjectId earlier r).mails =
    if (expiring now r && !(earlier.filter (expiring now)).any (warningFails env adminProjectId)) &&
      mails adminProjectId r then [warning r r.expiresAt] else [] := by
  unfold warnOutcome
  generalize (expiring now r && !(earlier.filter (expiring now)).any (warningFails env adminProjectId)) = reached
  cases reached with
  | false => rfl
  | true => simp [warned]

theorem warnOutcome_deletions : (warnOutcome env now adminProjectId earlier r).deletions = [] := by
  unfold warnOutcome
  split <;> rfl

theorem outcome_mails : (outcome env settings now adminProjectId earlier r later).mails =
    (warnOutcome env now adminProjectId earlier r).mails := by
  unfold outcome
  split <;> rfl

theorem afterWarning_projectId (env : Env) (now : Int) (adminProjectId : Option String) (r : Row) :
    (afterWarning env now adminProjectId r).projectId = r.projectId := by
  unfold afterWarning
  split <;> rfl

/-- The first loop does for a row what it does for the row alone, where no row before it
    fails while it has a warning to come. -/
theorem warnOutcome_alone (unfailed : expiring now r = true → mails adminProjectId r = true →
      ∀ x ∈ earlier, expiring now x = true → warningFails env adminProjectId x = false) :
    warnOutcome env now adminProjectId earlier r = warnOutcome env now adminProjectId [] r := by
  unfold warnOutcome
  cases due : expiring now r with
  | false => rfl
  | true =>
    cases mailed : mails adminProjectId r with
    | false => simp [warned_idle mailed]
    | true => rw [any_filter_eq_false.mpr (unfailed due mailed), List.filter_nil, List.any_nil]

/-- A row whose instance is not to be deleted gets nothing from the second loop. -/
theorem outcome_idle (own : OwnCalls env) (idle : ¬ ToDelete env settings now adminProjectId r) :
    outcome env settings now adminProjectId earlier r later = warnOutcome env now adminProjectId earlier r := by
  unfold outcome
  split
  · next reached =>
    obtain ⟨unfailed, overdue, _⟩ := by
      simpa only [reclaimReached, Bool.and_eq_true, Bool.not_eq_true', any_filter_eq_false] using reached
    refine reclaimed_idle own ?_ _
    rw [afterWarning_projectId, afterWarning_instanceId]
    by_contra active
    obtain ⟨watched, called⟩ := not_or.mp active
    exact idle ⟨called, by simpa using watched, unfailed r (by simp), overdue⟩
  · rfl

/-- The instance of a row that is to be deleted is deleted exactly where the second loop
    comes to the row. -/
theorem outcome_deletes_iff (own : OwnCalls env) (toDelete : ToDelete env settings now adminProjectId r) :
    (outcome env settings now adminProjectId earlier r later).deletions = [r.instanceId] ↔
      reclaimReached env settings now adminProjectId earlier r later = true := by
  unfold outcome
  split
  · next reached =>
    have watched := afterWarning_projectId env now adminProjectId r ▸ toDelete.watched
    have called := toDelete.called
    rw [← afterWarning_projectId env now adminProjectId r, ← afterWarning_instanceId env now adminProjectId r] at called
    rw [reclaimed_deletions own watched called, warnOutcome_deletions, afterWarning_instanceId]
    simp [reached]
  · next missed =>
    rw [warnOutcome_deletions]
    simp [missed]

theorem reclaimReached_iff (toDelete : ToDelete env settings now adminProjectId r) :
    reclaimReached env settings now adminProjectId earlier r later = true ↔
      (∀ x ∈ earlier ++ later, expiring now x = true → warningFails env adminProjectId x = false) ∧
      ∀ x ∈ earlier, awaiting settings now (afterWarning env now adminProjectId x) = true →
        deletionFails env adminProjectId (afterWarning env now adminProjectId x) = false := by
  simp only [reclaimReached, Bool.and_eq_true, Bool.not_eq_true', any_filter_eq_false, List.forall_mem_map,
    toDelete.overdue, true_and]
  refine and_congr_left fun _ => ⟨fun all x member => all x ?_, fun others x member => ?_⟩
  · rcases List.mem_append.mp member with before | after
    · exact List.mem_append_left _ before
    · exact List.mem_append_right _ (List.mem_cons_of_mem r after)
  · rcases List.mem_append.mp member with before | rest
    · exact others x (List.mem_append_left _ before)
    · rcases List.mem_cons.mp rest with rfl | after
      · exact toDelete.reached
      · exact others x (List.mem_append_right _ after)

theorem outcome_alone_iff (own : OwnCalls env) : outcome env settings now adminProjectId earlier r later =
    outcome env settings now adminProjectId [] r [] ↔
      Undisturbed env settings now adminProjectId earlier r later := by
  constructor
  · intro same
    refine ⟨fun due mailed => ?_, fun toDelete => ?_⟩
    · have mails := congrArg Effect.mails same
      rw [outcome_mails, outcome_mails] at mails
      refine any_filter_eq_false.mp ?_
      cases failed : (earlier.filter (expiring now)).any (warningFails env adminProjectId) with
      | false => rfl
      | true => simp [warnOutcome, due, failed, warned, mailed] at mails
    · have deletions := congrArg Effect.deletions same
      rw [← reclaimReached_iff toDelete, ← outcome_deletes_iff own toDelete, deletions,
        outcome_deletes_iff own toDelete, reclaimReached_iff toDelete]
      simp
  · intro undisturbed
    have first := warnOutcome_alone undisturbed.warning
    by_cases toDelete : ToDelete env settings now adminProjectId r
    · have reached := (reclaimReached_iff toDelete).mpr (undisturbed.deletion toDelete)
      have alone : reclaimReached env settings now adminProjectId [] r [] = true :=
        (reclaimReached_iff toDelete).mpr (by simp)
      rw [outcome, outcome, reached, alone, first]
    · rw [outcome_idle own toDelete, outcome_idle own toDelete, first]

end

/-- A cycle does for a row what it does for the row alone exactly where no row before it fails
    in the first loop while the row has a warning to come, and, while its instance is to be
    deleted, no other row fails there and none before it in the second loop. -/
theorem row_independent_iff (env : Env) (openstack : Group) (accepts : String → Bool) (settings : LifecycleSettings)
    (now : Int) (adminProjectId : Option String) (table : LifecycleTable) (earlier : List Row) (r : Row)
    (later : List Row) (enabled : settings.enabled = true) (split : table.rows = earlier ++ r :: later) :
    effect r.instanceId (cycle (reaching env openstack accepts) settings now adminProjectId table) =
        effect r.instanceId (cycle (reaching env openstack accepts) settings now adminProjectId (only r)) ↔
      Undisturbed (reaching env openstack accepts) settings now adminProjectId earlier r later := by
  have own := reaching_ownCalls env openstack accepts
  have alone : (only r).rows = [] ++ r :: [] := rfl
  rw [cycle_effect own enabled split, cycle_effect own enabled alone]
  exact outcome_alone_iff own

/-! ## Two expired rows -/

def expired (i : String) : Row := newRow i "web" "user" "project" "user@example.org" 0 100

def bothExpired : LifecycleTable := ⟨[expired "vm-1", expired "vm-2"], by decide⟩

/-- With a database that takes every update, the second row is warned about as it is alone. -/
theorem second_row_warned :
    effect "vm-2" (cycle (reaching calm (openstackGroup fun _ => .null) fun _ => true) weekly 100 none bothExpired) =
      effect "vm-2" (cycle (reaching calm (openstackGroup fun _ => .null) fun _ => true) weekly 100 none
        (only (expired "vm-2"))) := by
  refine (row_independent_iff calm (openstackGroup fun _ => .null) (fun _ => true) weekly 100 none bothExpired
    [expired "vm-1"] (expired "vm-2") [] rfl rfl).mpr ⟨fun _ _ => by decide, fun toDelete => ?_⟩
  exact absurd toDelete.overdue (by decide)

/-- A database that refuses the update of one row. -/
def refusing (i : String) : Env :=
  { calm with recordSent := fun j => if j = i then .error (.callFailed "update_instance_lifecycle_email_sent") else .ok () }

/-- The second row gets no warning when the update of the first raises. -/
theorem second_row_not_warned :
    ¬ ∀ (env : Env) (openstack : Group) (accepts : String → Bool) (settings : LifecycleSettings) (now : Int)
      (adminProjectId : Option String) (table : LifecycleTable), settings.enabled = true → ∀ r ∈ table,
        effect r.instanceId (cycle (reaching env openstack accepts) settings now adminProjectId table) =
          effect r.instanceId (cycle (reaching env openstack accepts) settings now adminProjectId (only r)) := by
  intro always
  have same := always (refusing "vm-1") (openstackGroup fun _ => .null) (fun _ => true) weekly 100 none bothExpired rfl
    (expired "vm-2") (by simp [bothExpired, Table.mem_rows])
  revert same
  decide

end Skyline.LifecycleIndependence
