import Skyline.LifecycleInterleaving

/-!
The undisturbed cycle and the undisturbed extend request of the lifecycle are runs
of the interleaved system: each loop takes the steps of its rows in turn, and a
call that raises ends the cycle where it stands.
-/
namespace Skyline.LifecycleRefinement
open Skyline.Python Skyline.Tables Skyline.Effects Skyline.Effects.Eff Skyline.Runs Skyline.Lifecycle
open Skyline.LifecycleCycle Skyline.LifecycleInterleaving

def running (w : World) (table : LifecycleTable) (c : Cycle) : World :=
  { w with table := table, cycles := w.cycles ++ [c] }

/-- Where a cycle goes on after a part of it: to the next point, or nowhere when
    the part raised. -/
def after (w : World) (c : Cycle) (next : Pc) : Except Exn Unit × Progress → World
  | (.ok (), p) => running w p.table (c.goto next)
  | (.error _, p) => running w p.table (c.goto .done)

variable {w : World} {c : Cycle} {table : LifecycleTable}

theorem advance_last (outcome : Bool) {c' : Cycle} {table' : LifecycleTable} {e : Event}
    (stepped : c.step table outcome = some (e, table', c')) :
    lifecycle.Reaches (running w table c) (running w table' c') :=
  .single ⟨.advance w.cycles.length outcome, e, by simp [lifecycle, step, running, stepped]⟩

theorem raise_last : lifecycle.Reaches (running w table c) (running w table (c.goto .done)) :=
  .single ⟨.raised w.cycles.length, .quiet, by simp [lifecycle, step, running]⟩

/-! ## The first loop -/

theorem warnRow_simulated (env : Env) (row : Row) (rows : List Row) (p : Progress) :
    lifecycle.Reaches (running w p.table (c.goto (.warning (row :: rows))))
      (after w c (.warning rows) (warnRow env c.now c.adminProjectId row p)) := by
  by_cases unwarned : Unwarned c.adminProjectId row
  · obtain ⟨other, status⟩ := unwarned
    cases hasDate : dated row.expiresAt with
    | false =>
      simp only [warnRow, other, status, fromtimestamp, hasDate, bind_run, lift_run, Bool.false_eq_true, if_false,
        if_true, after]
      exact advance_last true (e := .quiet) (by simp [Cycle.step, Cycle.goto, other, status, hasDate])
    | true =>
      simp only [warnRow, other, status, fromtimestamp, hasDate, bind_run, lift_run, modify_run, Bool.false_eq_true,
        if_false, if_true]
      have mailed : ∀ sent : Bool, lifecycle.Reaches (running w p.table (c.goto (.warning (row :: rows))))
          (running w p.table (c.goto (if sent then .recordSent row rows else .warning rows))) := fun sent =>
        advance_last sent (e := .mailed row c.now sent)
          (by simp [Cycle.step, Cycle.goto, other, status, hasDate])
      cases env.mail (warning row row.expiresAt) with
      | error e => exact raise_last
      | ok sent =>
        cases sent with
        | false => exact mailed false
        | true =>
          cases env.recordSent row.instanceId with
          | error e => exact (mailed true).trans raise_last
          | ok => exact (mailed true).trans (advance_last true rfl)
  · rw [warnRow_skips unwarned]
    refine advance_last true (e := .quiet) ?_
    cases other : exempt c.adminProjectId row.projectId with
    | false =>
      have status : row.emailStatus ≠ .none := fun status => unwarned ⟨other, status⟩
      simp [Cycle.step, Cycle.goto, other, status]
    | true => simp [Cycle.step, Cycle.goto, other]

theorem warn_loop_simulated (env : Env) (rows : List Row) (p : Progress) :
    lifecycle.Reaches (running w p.table (c.goto (.warning rows)))
      (after w c (.warning []) (forEach rows (warnRow env c.now c.adminProjectId) p)) := by
  induction rows generalizing p with
  | nil => exact .refl
  | cons row rows ih =>
    have first := warnRow_simulated (w := w) (c := c) env row rows p
    rw [forEach_cons, bind_run]
    rcases body : warnRow env c.now c.adminProjectId row p with ⟨r, p'⟩
    rw [body] at first
    cases r with
    | error e => exact first
    | ok => exact first.trans (ih p')

/-! ## The second loop -/

theorem reclaimRow_simulated (env : Env) (row : Row) (rows : List Row) (p : Progress) :
    lifecycle.Reaches (running w p.table (c.goto (.reclaiming (row :: rows))))
      (after w c (.reclaiming rows) (reclaimRow env c.adminProjectId row p)) := by
  cases other : exempt c.adminProjectId row.projectId with
  | true =>
    simp only [reclaimRow, other, if_true, pure_run]
    exact advance_last true (e := .quiet) (by simp [Cycle.step, Cycle.goto, other])
  | false =>
    simp only [reclaimRow, other, bind_run, modify_run, Bool.false_eq_true, if_false]
    have called : ∀ deleted : Bool, lifecycle.Reaches (running w p.table (c.goto (.reclaiming (row :: rows))))
        (running w p.table (c.goto (if deleted then .recordDeleted row rows else .reclaiming rows))) := fun deleted =>
      advance_last deleted (e := .deleteCalled row.instanceId c.now c.settings.replyGrace)
        (by simp [Cycle.step, Cycle.goto, other])
    cases (env.deleteInstance row.instanceId row.projectId).deleted with
    | false => exact called false
    | true =>
      cases env.recordDeleted row.instanceId with
      | error e => exact (called true).trans raise_last
      | ok => exact (called true).trans (advance_last true rfl)

theorem reclaim_loop_simulated (env : Env) (rows : List Row) (p : Progress) :
    lifecycle.Reaches (running w p.table (c.goto (.reclaiming rows)))
      (after w c (.reclaiming []) (forEach rows (reclaimRow env c.adminProjectId) p)) := by
  induction rows generalizing p with
  | nil => exact .refl
  | cons row rows ih =>
    have first := reclaimRow_simulated (w := w) (c := c) env row rows p
    rw [forEach_cons, bind_run]
    rcases body : reclaimRow env c.adminProjectId row p with ⟨r, p'⟩
    rw [body] at first
    cases r with
    | error e => exact first
    | ok => exact first.trans (ih p')

/-! ## Whole operations -/

theorem loops_simulated (env : Env) (enabled : c.settings.enabled = true) (table : LifecycleTable) :
    lifecycle.Reaches (running w table (c.goto .listExpiring))
      (running w (cycle env c.settings c.now c.adminProjectId table).table (c.goto .done)) := by
  have listed : lifecycle.Reaches (running w table (c.goto .listExpiring))
      (running w table (c.goto (.warning (listInstanceLifecyclesExpiringBefore table c.now)))) :=
    advance_last true rfl
  unfold cycle runLifecycleCheck
  simp only [enabled, if_true, bind_run, gets_run]
  have warned := warn_loop_simulated (w := w) (c := c) env (listInstanceLifecyclesExpiringBefore table c.now)
    ⟨table, [], []⟩
  rcases first : forEach (listInstanceLifecyclesExpiringBefore table c.now) (warnRow env c.now c.adminProjectId)
    ⟨table, [], []⟩ with ⟨r, p⟩
  rw [first] at warned
  cases r with
  | error e => exact listed.trans warned
  | ok =>
    have read : lifecycle.Reaches (running w p.table (c.goto (.warning [])))
        (running w p.table (c.goto (.reclaiming
          (listInstanceLifecyclesAwaitingReply p.table (c.now - c.settings.replyGrace))))) :=
      (advance_last true rfl).trans (advance_last true rfl)
    have reclaimed := reclaim_loop_simulated (w := w) (c := c) env
      (listInstanceLifecyclesAwaitingReply p.table (c.now - c.settings.replyGrace)) p
    have upToHere := ((listed.trans warned).trans read).trans reclaimed
    simp only
    rcases second : forEach (listInstanceLifecyclesAwaitingReply p.table (c.now - c.settings.replyGrace))
      (reclaimRow env c.adminProjectId) p with ⟨r, q⟩
    rw [second] at upToHere
    cases r with
    | error e => exact upToHere
    | ok => exact upToHere.trans (advance_last true rfl)

/-- A cycle that nothing disturbs is one way for a cycle to go from its start to
    its end. -/
theorem cycle_simulated (env : Env) (settings : LifecycleSettings) (now : Int) (adminProjectId : Option String)
    (w : World) : lifecycle.Reaches w
      (running w (cycle env settings now adminProjectId w.table).table ⟨settings, now, adminProjectId, .done⟩) := by
  have started : lifecycle.Reaches w (running w w.table
      ⟨settings, now, adminProjectId, if settings.enabled then .listExpiring else .done⟩) :=
    .single ⟨.start settings now adminProjectId, .quiet, rfl⟩
  cases enabled : settings.enabled with
  | false =>
    simp only [enabled, Bool.false_eq_true, if_false] at started
    simpa only [cycle, runLifecycleCheck, enabled, Bool.false_eq_true, if_false, pure_run] using started
  | true =>
    simp only [enabled, if_true] at started
    exact started.trans (loops_simulated (c := ⟨settings, now, adminProjectId, .listExpiring⟩) env enabled w.table)

/-- An extend request that nothing disturbs reads and writes in a row. -/
theorem extend_simulated (instanceId : String) (now : Int) (w : World) :
    lifecycle.Reaches w { w with table := (extendInstanceLifecycle w.table instanceId now).2 } := by
  unfold extendInstanceLifecycle
  cases decided : newExpiry (getInstanceLifecycle w.table instanceId) now with
  | error e => exact .refl
  | ok newExpiresAt =>
    have read : lifecycle.Next w { w with extensions := w.extensions ++ [⟨instanceId, newExpiresAt⟩] } :=
      ⟨.readExtend instanceId now, .quiet, by simp [lifecycle, step, decided]⟩
    refine .tail (.single read) ⟨.writeExtend w.extensions.length, .extended instanceId newExpiresAt, ?_⟩
    simp [lifecycle, step, List.eraseIdx_append_of_length_le]

/-! ## Runs that execute one operation at a time -/

/-- Every instance that was ever inserted still has its row. -/
def Kept (issued : List String) (table : LifecycleTable) : Prop := ∀ i ∈ issued, (table.find i).isSome = true

theorem cycle_kept {issued : List String} {table : LifecycleTable} (kept : Kept issued table) (env : Env)
    (settings : LifecycleSettings) (now : Int) (adminProjectId : Option String) :
    Kept issued (cycle env settings now adminProjectId table).table := by
  refine cycle_invariant (I := fun p => Kept issued p.table) ?_ ?_ kept
  · intro row _ p there i inside
    rcases warnRow_after env now adminProjectId row p with same | ⟨_, table, updated, done⟩
    · rw [same]
      exact there i inside
    · rw [done]
      rcases updated with rfl | ⟨_, rfl⟩
      · exact there i inside
      · simpa [find_emailSent] using there i inside
  · intro _ _ row _ p there i inside
    rcases reclaimRow_find env adminProjectId row i p with same | ⟨_, deleted⟩
    · simpa [same] using there i inside
    · simpa [deleted] using there i inside

theorem extend_kept {issued : List String} {table : LifecycleTable} (kept : Kept issued table) (i : String)
    (now : Int) : Kept issued (extendInstanceLifecycle table i now).2 := by
  unfold extendInstanceLifecycle
  split
  · exact kept
  · intro j inside
    simpa [updateInstanceLifecycleExtended, Table.find_update] using kept j inside

/-- The tables that operations reach one at a time are reached by the interleaved
    system too. -/
theorem sequential_simulated {epoch : Int} {past : List Unit} {s : Clocked}
    (run : (sequential epoch).AnyRun past s) :
    ∃ events w, lifecycle.AnyRun events w ∧ w.table = s.table ∧ Kept w.issued w.table := by
  refine run.invariant (I := fun _ s => ∃ events w, lifecycle.AnyRun events w ∧ w.table = s.table ∧
    Kept w.issued w.table) ⟨[], _, .start, rfl, fun i inside => absurd inside List.not_mem_nil⟩ ?_
  rintro _ s op _ s' ⟨events, w, run, same, kept⟩ _ stepped
  cases op with
  | insert instanceId instanceName userId projectId userEmail createdAt expiresAt =>
    obtain ⟨table, inserted, reached⟩ := Option.map_eq_some_iff.mp stepped
    cases reached
    rw [← same] at inserted
    have fresh : instanceId ∉ w.issued := by
      intro issued
      obtain ⟨r, member, named⟩ := Table.find_isSome.mp (kept instanceId issued)
      exact Table.insert_fresh inserted r member named
    refine ⟨_, _, .step (a := .insert instanceId instanceName userId projectId userEmail createdAt expiresAt) run
      trivial (by simp only [lifecycle, step, fresh, if_false, inserted]; rfl), rfl, ?_⟩
    intro i inside
    rw [Table.find_isSome]
    rcases List.mem_cons.mp inside with rfl | old
    · exact ⟨_, (Table.mem_insert inserted).mpr (.inr rfl), rfl⟩
    · obtain ⟨r, member, named⟩ := Table.find_isSome.mp (kept i old)
      exact ⟨r, (Table.mem_insert inserted).mpr (.inl member), named⟩
  | extend i now =>
    simp only [sequential] at stepped
    split at stepped
    · cases stepped
      obtain ⟨later, there⟩ := run.reaches (extend_simulated i now w)
      exact ⟨_, _, there, by rw [← same], extend_kept kept i now⟩
    · cases stepped
  | check env settings now adminProjectId =>
    simp only [sequential] at stepped
    split at stepped
    · cases stepped
      obtain ⟨later, there⟩ := run.reaches (cycle_simulated env settings now adminProjectId w)
      exact ⟨_, _, there, by rw [← same]; rfl, cycle_kept kept env settings now adminProjectId⟩
    · cases stepped

end Skyline.LifecycleRefinement
