import Skyline.LifecycleCycle

/-!
Scheduler cycles, extend requests, inserts and removals in any interleaving of
their database calls. A cycle is a program counter over `run_lifecycle_check`
with the rows its loops have still to visit, which it read from the table at an
earlier moment; an extend request that has read its row waits to write. Every
database call is one step. The clock, the settings and the admin project of a
cycle, the outcome of every mail and of every `_delete_instance` call, and the
point where a call raises are the label's to choose.

`Moves` lists what one step can do, and every invariant below is derived from it.
-/
namespace Skyline.LifecycleInterleaving
open Skyline.Python Skyline.Tables Skyline.Runs Skyline.Lifecycle

/-! ## Cycles in progress -/

/-- Where a cycle is in `run_lifecycle_check`. -/
inductive Pc
  | listExpiring
  /-- In the first loop, before the first of the rows. -/
  | warning (rows : List Row)
  /-- The mail about the row has been sent, and its update is due. -/
  | recordSent (row : Row) (rows : List Row)
  | listOverdue
  /-- In the second loop, before the first of the rows. -/
  | reclaiming (rows : List Row)
  /-- `_delete_instance` has returned true, and its update is due. -/
  | recordDeleted (row : Row) (rows : List Row)
  | done

/-- A cycle with the settings, the clock and the admin project it started from. -/
structure Cycle where
  settings : LifecycleSettings
  now : Int
  adminProjectId : Option String
  pc : Pc

/-- What a step shows: the calls that reach the outside world, and the changes of
    rows. -/
inductive Event
  | quiet
  | inserted (instanceId : String)
  | removed (instanceId : String)
  /-- `send_lifecycle_warning_email` about a row as a cycle with this clock read it,
      and whether it succeeded. -/
  | mailed (row : Row) (now : Int) (sent : Bool)
  | emailSent (instanceId : String) (sentAt : Int)
  | extended (instanceId : String) (newExpiresAt : Int)
  | deleteCalled (instanceId : String) (now grace : Int)
  | deletedRecorded (instanceId : String)
  deriving DecidableEq, Repr

def Cycle.goto (c : Cycle) (pc : Pc) : Cycle := { c with pc := pc }

@[simp] theorem goto_pc (c : Cycle) (pc : Pc) : (c.goto pc).pc = pc := rfl

/-- The next step of a cycle on the table; `outcome` is what the mail or the
    deletion of this step answers. -/
def Cycle.step (table : LifecycleTable) (c : Cycle) (outcome : Bool) : Option (Event × LifecycleTable × Cycle) :=
  match c.pc with
  | .listExpiring =>
    some (.quiet, table, c.goto (.warning (listInstanceLifecyclesExpiringBefore table c.now)))
  | .warning [] => some (.quiet, table, c.goto .listOverdue)
  | .warning (row :: rows) =>
    if exempt c.adminProjectId row.projectId then some (.quiet, table, c.goto (.warning rows))
    else if row.emailStatus = .none then
      if dated row.expiresAt then
        some (.mailed row c.now outcome, table, c.goto (if outcome then .recordSent row rows else .warning rows))
      else some (.quiet, table, c.goto .done)
    else some (.quiet, table, c.goto (.warning rows))
  | .recordSent row rows =>
    some (.emailSent row.instanceId c.now, updateInstanceLifecycleEmailSent table row.instanceId c.now,
      c.goto (.warning rows))
  | .listOverdue =>
    some (.quiet, table,
      c.goto (.reclaiming (listInstanceLifecyclesAwaitingReply table (c.now - c.settings.replyGrace))))
  | .reclaiming [] => some (.quiet, table, c.goto .done)
  | .reclaiming (row :: rows) =>
    if exempt c.adminProjectId row.projectId then some (.quiet, table, c.goto (.reclaiming rows))
    else some (.deleteCalled row.instanceId c.now c.settings.replyGrace, table,
      c.goto (if outcome then .recordDeleted row rows else .reclaiming rows))
  | .recordDeleted row rows =>
    some (.deletedRecorded row.instanceId, updateInstanceLifecycleDeleted table row.instanceId,
      c.goto (.reclaiming rows))
  | .done => none

/-- The rows the first loop has still to visit. -/
def Cycle.toWarn (c : Cycle) : List Row :=
  match c.pc with
  | .warning rows => rows
  | .recordSent _ rows => rows
  | _ => []

/-- The row whose warning is to be recorded next. -/
def Cycle.warned (c : Cycle) : Option Row :=
  match c.pc with
  | .recordSent row _ => some row
  | _ => none

/-- The rows the second loop has still to visit. -/
def Cycle.toReclaim (c : Cycle) : List Row :=
  match c.pc with
  | .reclaiming rows => rows
  | .recordDeleted _ rows => rows
  | _ => []

/-- A cycle that has read no rows, or has finished with them. -/
def Cycle.Idle (c : Cycle) : Prop := c.toWarn = [] ∧ c.warned = none ∧ c.toReclaim = []

theorem goto_done_idle (c : Cycle) : (c.goto .done).Idle := ⟨rfl, rfl, rfl⟩

section
variable {cycles : List Cycle} {k : Nat} {c d : Cycle}

theorem mem_set_idle (idle : c.Idle) (member : d ∈ cycles.set k c) : d ∈ cycles ∨ d.Idle := by
  rcases List.mem_or_eq_of_mem_set member with old | rfl
  · exact .inl old
  · exact .inr idle

theorem mem_append_idle (idle : c.Idle) (member : d ∈ cycles ++ [c]) : d ∈ cycles ∨ d.Idle := by
  rcases List.mem_append.mp member with old | new
  · exact .inl old
  · exact .inr (List.mem_singleton.mp new ▸ idle)

end

inductive Writes (table : LifecycleTable) (c : Cycle) : Event → LifecycleTable → Prop
  | nothing {e : Event} : c.warned = none → (∀ i n, e ≠ .emailSent i n) → (∀ i, e ≠ .deletedRecorded i) → Writes table c e table
  | sent {row : Row} : c.warned = some row →
      Writes table c (.emailSent row.instanceId c.now) (updateInstanceLifecycleEmailSent table row.instanceId c.now)
  | deleted {row : Row} : c.warned = none →
      Writes table c (.deletedRecorded row.instanceId) (updateInstanceLifecycleDeleted table row.instanceId)

theorem Writes.keeps {table table' : LifecycleTable} {c : Cycle} {e : Event} {s : Row}
    (writes : Writes table c e table') (member : s ∈ table') :
    ∃ r ∈ table, s.instanceId = r.instanceId ∧ s.expiresAt = r.expiresAt ∧ s.extended = r.extended := by
  cases writes with
  | nothing => exact ⟨s, member, rfl, rfl, rfl⟩
  | sent => exact emailSent_keeps member
  | deleted => exact deleted_keeps member

/-- What one step of a cycle can do. Its rows come from the lists it reads, and it
    only mails about, and only deletes, rows of these. -/
structure Advances (table : LifecycleTable) (c : Cycle) (e : Event) (table' : LifecycleTable) (c' : Cycle) : Prop where
  now : c'.now = c.now
  settings : c'.settings = c.settings
  writes : Writes table c e table'
  toWarn : ∀ row ∈ c'.toWarn, row ∈ c.toWarn ∨ row ∈ listInstanceLifecyclesExpiringBefore table c.now
  warned : ∀ row, c'.warned = some row →
    row ∈ c.toWarn ∧ row.emailStatus = .none ∧ e = .mailed row c.now true
  toReclaim : ∀ row ∈ c'.toReclaim, row ∈ c.toReclaim ∨
    row ∈ listInstanceLifecyclesAwaitingReply table (c.now - c.settings.replyGrace)
  deletes : ∀ i now grace, e = .deleteCalled i now grace →
    now = c.now ∧ grace = c.settings.replyGrace ∧ ∃ row ∈ c.toReclaim, row.instanceId = i
  quiet : (∀ i, e ≠ .inserted i) ∧ (∀ i, e ≠ .removed i) ∧ ∀ i n, e ≠ .extended i n

/-- A step that writes nothing and calls nobody, along the lists that were read. -/
theorem Advances.still {table : LifecycleTable} {c : Cycle} {pc : Pc} (before : c.warned = none)
    (after : (c.goto pc).warned = none)
    (toWarn : ∀ row ∈ (c.goto pc).toWarn, row ∈ c.toWarn ∨ row ∈ listInstanceLifecyclesExpiringBefore table c.now)
    (toReclaim : ∀ row ∈ (c.goto pc).toReclaim, row ∈ c.toReclaim ∨
      row ∈ listInstanceLifecyclesAwaitingReply table (c.now - c.settings.replyGrace)) :
    Advances table c .quiet table (c.goto pc) where
  now := rfl
  settings := rfl
  writes := .nothing before (by simp) (by simp)
  toWarn := toWarn
  warned row pending := by
    rw [after] at pending
    cases pending
  toReclaim := toReclaim
  deletes := by simp
  quiet := by simp

theorem warning_advances {table table' : LifecycleTable} {c c' : Cycle} {row : Row} {rows : List Row} {outcome : Bool}
    {e : Event} (atRow : c.pc = .warning (row :: rows)) (stepped : c.step table outcome = some (e, table', c')) :
    Advances table c e table' c' := by
  obtain ⟨settings, now, adminProjectId, pc⟩ := c
  cases atRow
  simp only [Cycle.step] at stepped
  split at stepped
  · cases stepped
    exact .still rfl rfl (by simp +contextual [Cycle.toWarn]) (by simp [Cycle.toReclaim])
  · split at stepped
    · next unwarned =>
      split at stepped
      · cases stepped
        cases outcome <;>
          exact ⟨rfl, rfl, .nothing rfl (by simp) (by simp), by simp +contextual [Cycle.toWarn],
            by simp [Cycle.warned, Cycle.toWarn, unwarned], by simp [Cycle.toReclaim], by simp, by simp⟩
      · cases stepped
        exact .still rfl rfl (by simp [Cycle.toWarn]) (by simp [Cycle.toReclaim])
    · cases stepped
      exact .still rfl rfl (by simp +contextual [Cycle.toWarn]) (by simp [Cycle.toReclaim])

theorem reclaiming_advances {table table' : LifecycleTable} {c c' : Cycle} {row : Row} {rows : List Row}
    {outcome : Bool} {e : Event} (atRow : c.pc = .reclaiming (row :: rows))
    (stepped : c.step table outcome = some (e, table', c')) : Advances table c e table' c' := by
  obtain ⟨settings, now, adminProjectId, pc⟩ := c
  cases atRow
  simp only [Cycle.step] at stepped
  split at stepped
  · cases stepped
    exact .still rfl rfl (by simp [Cycle.toWarn]) (by simp +contextual [Cycle.toReclaim])
  · cases stepped
    cases outcome <;>
      exact ⟨rfl, rfl, .nothing rfl (by simp) (by simp), by simp [Cycle.toWarn], by simp [Cycle.warned],
        by simp +contextual [Cycle.toReclaim], by simp +contextual [Cycle.toReclaim], by simp⟩

theorem Cycle.step_advances {table table' : LifecycleTable} {c c' : Cycle} {outcome : Bool} {e : Event}
    (stepped : c.step table outcome = some (e, table', c')) : Advances table c e table' c' := by
  obtain ⟨settings, now, adminProjectId, pc⟩ := c
  cases pc with
  | listExpiring =>
    cases stepped
    exact .still rfl rfl (fun _ => .inr) (by simp [Cycle.toReclaim])
  | warning rows =>
    cases rows with
    | nil =>
      cases stepped
      exact .still rfl rfl (by simp [Cycle.toWarn]) (by simp [Cycle.toReclaim])
    | cons row rows => exact warning_advances rfl stepped
  | recordSent row rows =>
    cases stepped
    exact ⟨rfl, rfl, .sent rfl, by simp +contextual [Cycle.toWarn], by simp [Cycle.warned], by simp [Cycle.toReclaim],
      by simp, by simp⟩
  | listOverdue =>
    cases stepped
    exact .still rfl rfl (by simp [Cycle.toWarn]) (fun _ => .inr)
  | reclaiming rows =>
    cases rows with
    | nil =>
      cases stepped
      exact .still rfl rfl (by simp [Cycle.toWarn]) (by simp [Cycle.toReclaim])
    | cons row rows => exact reclaiming_advances rfl stepped
  | recordDeleted row rows =>
    cases stepped
    exact ⟨rfl, rfl, .deleted rfl, by simp [Cycle.toWarn], by simp [Cycle.warned], by simp +contextual [Cycle.toReclaim],
      by simp, by simp⟩
  | done => cases stepped

/-! ## The system -/

/-- An extend request between its read and its write. -/
structure Extension where
  instanceId : String
  newExpiresAt : Int
  deriving DecidableEq, Repr

/-- The table with everything that is in progress on it, and the instance ids that
    Nova has ever given out to an inserted row. -/
structure World where
  table : LifecycleTable
  issued : List String
  cycles : List Cycle
  extensions : List Extension

inductive Label
  /-- `create_instance_lifecycle`, for an instance with a fresh id. -/
  | insert (instanceId instanceName userId projectId userEmail : String) (createdAt expiresAt : Int)
  /-- `delete_instance_lifecycle`. -/
  | remove (instanceId : String)
  /-- A cycle reads its settings, its clock and its admin project. -/
  | start (settings : LifecycleSettings) (now : Int) (adminProjectId : Option String)
  | advance (cycle : Nat) (outcome : Bool)
  /-- The next call of a cycle raises, which ends it. -/
  | raised (cycle : Nat)
  /-- An extend request reads its row and its clock. -/
  | readExtend (instanceId : String) (now : Int)
  | writeExtend (request : Nat)

def step (w : World) : Label → Option (Event × World)
  | .insert instanceId instanceName userId projectId userEmail createdAt expiresAt =>
    if instanceId ∈ w.issued then none
    else
      (createInstanceLifecycle w.table instanceId instanceName userId projectId userEmail createdAt expiresAt).map
        (fun table => (.inserted instanceId, { w with table := table, issued := instanceId :: w.issued }))
  | .remove instanceId =>
    some (.removed instanceId, { w with table := deleteInstanceLifecycle w.table instanceId })
  | .start settings now adminProjectId =>
    some (.quiet, { w with
      cycles := w.cycles ++ [⟨settings, now, adminProjectId, if settings.enabled then .listExpiring else .done⟩] })
  | .advance k outcome =>
    match w.cycles[k]? with
    | none => none
    | some c => (c.step w.table outcome).map
        (fun (e, table, c') => (e, { w with table := table, cycles := w.cycles.set k c' }))
  | .raised k =>
    match w.cycles[k]? with
    | none => none
    | some c => some (.quiet, { w with cycles := w.cycles.set k (c.goto .done) })
  | .readExtend instanceId now =>
    match newExpiry (getInstanceLifecycle w.table instanceId) now with
    | .error _ => some (.quiet, w)
    | .ok newExpiresAt => some (.quiet, { w with extensions := w.extensions ++ [⟨instanceId, newExpiresAt⟩] })
  | .writeExtend j =>
    match w.extensions[j]? with
    | none => none
    | some x => some (.extended x.instanceId x.newExpiresAt,
        { w with table := updateInstanceLifecycleExtended w.table x.instanceId x.newExpiresAt
                 extensions := w.extensions.eraseIdx j })

/-- Everything that runs on one lifecycle table, from the empty table. -/
def lifecycle : System World Label Event where
  init := ⟨Table.empty, [], [], []⟩
  step := step

inductive Moves (w : World) : Label → Event → World → Prop
  | insert {instanceId instanceName userId projectId userEmail : String} {createdAt expiresAt : Int}
      {table : LifecycleTable} : instanceId ∉ w.issued →
      w.table.insert (newRow instanceId instanceName userId projectId userEmail createdAt expiresAt) = some table →
      Moves w (.insert instanceId instanceName userId projectId userEmail createdAt expiresAt) (.inserted instanceId)
        { w with table := table, issued := instanceId :: w.issued }
  | remove (instanceId : String) : Moves w (.remove instanceId) (.removed instanceId)
      { w with table := deleteInstanceLifecycle w.table instanceId }
  | start {settings : LifecycleSettings} {now : Int} {adminProjectId : Option String} {c : Cycle} :
      c.Idle →
      Moves w (.start settings now adminProjectId) .quiet { w with cycles := w.cycles ++ [c] }
  | advance {k : Nat} {outcome : Bool} {e : Event} {table : LifecycleTable} {c c' : Cycle} : w.cycles[k]? = some c →
      Advances w.table c e table c' →
      Moves w (.advance k outcome) e { w with table := table, cycles := w.cycles.set k c' }
  | raised {k : Nat} {c : Cycle} : c.Idle → Moves w (.raised k) .quiet { w with cycles := w.cycles.set k c }
  | readExtend {instanceId : String} {now : Int} {extensions : List Extension} :
      Moves w (.readExtend instanceId now) .quiet { w with extensions := extensions }
  | writeExtend {j : Nat} {x : Extension} : w.extensions[j]? = some x →
      Moves w (.writeExtend j) (.extended x.instanceId x.newExpiresAt)
        { w with table := updateInstanceLifecycleExtended w.table x.instanceId x.newExpiresAt
                 extensions := w.extensions.eraseIdx j }

/-- A worker goes on only with a cycle that was started, and with that one alone. -/
theorem step_advance {w w' : World} {k : Nat} {outcome : Bool} {e : Event}
    (stepped : step w (.advance k outcome) = some (e, w')) :
    ∃ c table c', w.cycles[k]? = some c ∧ c.step w.table outcome = some (e, table, c') ∧
      w' = { w with table := table, cycles := w.cycles.set k c' } := by
  simp only [step] at stepped
  split at stepped
  · cases stepped
  · next c there =>
    obtain ⟨⟨e', table, c'⟩, advanced, same⟩ := Option.map_eq_some_iff.mp stepped
    cases same
    exact ⟨c, table, c', there, advanced, rfl⟩

theorem step_moves {w w' : World} {a : Label} {e : Event} (stepped : step w a = some (e, w')) : Moves w a e w' := by
  cases a with
  | insert instanceId instanceName userId projectId userEmail createdAt expiresAt =>
    simp only [step] at stepped
    split at stepped
    · cases stepped
    · next fresh =>
      obtain ⟨table, inserted, same⟩ := Option.map_eq_some_iff.mp stepped
      cases same
      exact .insert fresh inserted
  | remove instanceId => cases stepped; exact .remove instanceId
  | start settings now adminProjectId =>
    cases stepped
    refine .start ?_
    cases settings.enabled <;> exact ⟨rfl, rfl, rfl⟩
  | advance k outcome =>
    obtain ⟨c, table, c', there, advanced, rfl⟩ := step_advance stepped
    exact .advance there (Cycle.step_advances advanced)
  | raised k =>
    simp only [step] at stepped
    split at stepped
    · cases stepped
    · next c there => cases stepped; exact .raised (goto_done_idle c)
  | readExtend instanceId now =>
    simp only [step] at stepped
    split at stepped
    · cases stepped; exact .readExtend
    · cases stepped; exact .readExtend
  | writeExtend j =>
    simp only [step] at stepped
    split at stepped
    · cases stepped
    · next x there => cases stepped; exact .writeExtend there

inductive RowMoves (w : World) (a : Label) : Row → Row → Prop
  | same (r : Row) : RowMoves w a r r
  | sent {k : Nat} {outcome : Bool} {c : Cycle} {row r : Row} : a = .advance k outcome → w.cycles[k]? = some c →
      c.warned = some row → r.instanceId = row.instanceId → RowMoves w a r (r.markSent c.now)
  | extended {j : Nat} {x : Extension} {r : Row} : a = .writeExtend j → w.extensions[j]? = some x →
      r.instanceId = x.instanceId → RowMoves w a r (r.markExtended x.newExpiresAt)
  | deleted (r : Row) : RowMoves w a r r.markDeleted

theorem RowMoves.instanceId {w : World} {a : Label} {r r' : Row} (moved : RowMoves w a r r') :
    r'.instanceId = r.instanceId := by
  cases moved <;> rfl

theorem moves_row {w w' : World} {a : Label} {e : Event} {r' : Row} (moved : Moves w a e w') (member : r' ∈ w'.table) :
    (∃ r ∈ w.table, RowMoves w a r r') ∨
      r'.instanceId ∉ w.issued ∧ r'.instanceId ∈ w'.issued ∧ r'.emailStatus = .none ∧ r'.extended = false := by
  cases moved with
  | insert fresh inserted =>
    rcases (Table.mem_insert inserted).mp member with old | rfl
    · exact .inl ⟨r', old, .same r'⟩
    · exact .inr ⟨fresh, List.mem_cons_self, rfl, rfl⟩
  | remove i => exact .inl ⟨r', (Table.mem_delete.mp member).1, .same r'⟩
  | start idle => exact .inl ⟨r', member, .same r'⟩
  | advance there moved =>
    refine .inl ?_
    cases moved.writes with
    | nothing => exact ⟨r', member, .same r'⟩
    | sent warned =>
      obtain ⟨r, before, rfl⟩ := mem_emailSent.mp member
      refine ⟨r, before, ?_⟩
      split
      · next named => exact .sent rfl there warned named
      · exact .same r
    | deleted =>
      obtain ⟨r, before, rfl⟩ := mem_deleted.mp member
      refine ⟨r, before, ?_⟩
      split
      · exact .deleted r
      · exact .same r
  | raised idle => exact .inl ⟨r', member, .same r'⟩
  | readExtend => exact .inl ⟨r', member, .same r'⟩
  | writeExtend there =>
    obtain ⟨r, before, rfl⟩ := mem_extended.mp member
    refine .inl ⟨r, before, ?_⟩
    split
    · next named => exact .extended rfl there named
    · exact .same r

theorem moves_issued {w w' : World} {a : Label} {e : Event} {i : String} (moved : Moves w a e w')
    (issued : i ∈ w.issued) : i ∈ w'.issued := by
  cases moved with
  | insert => exact List.mem_cons_of_mem _ issued
  | _ => exact issued

/-- A deletion is called by a cycle for a row that it had found overdue. -/
theorem moves_deletes {w w' : World} {a : Label} {i : String} {now grace : Int}
    (moved : Moves w a (.deleteCalled i now grace) w') :
    ∃ c ∈ w.cycles, now = c.now ∧ grace = c.settings.replyGrace ∧ ∃ row ∈ c.toReclaim, row.instanceId = i := by
  cases moved with
  | advance there moved => exact ⟨_, List.mem_of_getElem? there, moved.deletes i now grace rfl⟩

end Skyline.LifecycleInterleaving
