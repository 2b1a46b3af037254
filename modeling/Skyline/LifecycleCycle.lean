import Skyline.Lifecycle
import Skyline.Runs

/-!
One scheduler cycle that nothing disturbs, and the runs that execute inserts,
extend requests and cycles one at a time. `warn_loop` is what the first loop does
to the table when its mails and updates go through; the frame lemmas say which
rows a cycle leaves alone whatever its calls answer.
-/
namespace Skyline.LifecycleCycle
open Skyline.Python Skyline.Config Skyline.Tables Skyline.Effects Skyline.Effects.Eff Skyline.Runs
open Skyline.Lifecycle

variable {env : Env} {now : Int} {adminProjectId : Option String} {row : Row}

def Sends (env : Env) : Prop := ∀ m, env.mail m = .ok true
def Commits (env : Env) : Prop := (∀ i, env.recordSent i = .ok ()) ∧ ∀ i, env.recordDeleted i = .ok ()
/-- A warning about the row can be shown its date and recorded. -/
def Recordable (env : Env) (row : Row) : Prop :=
  dated row.expiresAt = true ∧ env.recordSent row.instanceId = .ok ()

/-- A row that the first loop is there for. -/
def Unwarned (adminProjectId : Option String) (row : Row) : Prop :=
  exempt adminProjectId row.projectId = false ∧ row.emailStatus = .none

instance (adminProjectId : Option String) (row : Row) : Decidable (Unwarned adminProjectId row) :=
  inferInstanceAs (Decidable (_ ∧ _))

/-! ## The first loop -/

theorem warnRow_skips (skipped : ¬ Unwarned adminProjectId row) (p : Progress) :
    warnRow env now adminProjectId row p = (.ok (), p) := by
  unfold warnRow
  by_cases admin : exempt adminProjectId row.projectId = true
  · simp [admin]
  · have warned : row.emailStatus ≠ .none := fun unwarned => skipped ⟨by simpa using admin, unwarned⟩
    simp [admin, warned]

theorem warnRow_undated (unwarned : Unwarned adminProjectId row) (undated : dated row.expiresAt = false)
    (p : Progress) : (warnRow env now adminProjectId row p).2 = p := by
  simp [warnRow, unwarned.1, unwarned.2, fromtimestamp, undated, bind_run]

theorem warnRow_sends (sends : Sends env) (unwarned : Unwarned adminProjectId row)
    (recordable : Recordable env row) (p : Progress) :
    warnRow env now adminProjectId row p =
      (.ok (), { p with
        table := updateInstanceLifecycleEmailSent p.table row.instanceId now
        mails := p.mails ++ [warning row row.expiresAt] }) := by
  simp [warnRow, unwarned.1, unwarned.2, fromtimestamp, recordable.1, recordable.2, bind_run, sends _]

/-- Whatever its calls answer, a pass through the first loop either does nothing,
    or mails about its row, which had a date, and then may record the warning. -/
theorem warnRow_after (env : Env) (now : Int) (adminProjectId : Option String) (row : Row) (p : Progress) :
    (warnRow env now adminProjectId row p).2 = p ∨
      Unwarned adminProjectId row ∧ ∃ table,
        (table = p.table ∨
          Recordable env row ∧ table = updateInstanceLifecycleEmailSent p.table row.instanceId now) ∧
        (warnRow env now adminProjectId row p).2 =
          { p with table := table, mails := p.mails ++ [warning row row.expiresAt] } := by
  by_cases unwarned : Unwarned adminProjectId row
  · by_cases hasDate : dated row.expiresAt = true
    · refine .inr ⟨unwarned, ?_⟩
      simp only [warnRow, unwarned.1, unwarned.2, fromtimestamp, hasDate, bind_run, if_true, lift_run, modify_run,
        Bool.false_eq_true, if_false]
      cases env.mail (warning row row.expiresAt) with
      | error e => exact ⟨p.table, .inl rfl, rfl⟩
      | ok sent =>
        cases sent with
        | false => exact ⟨p.table, .inl rfl, rfl⟩
        | true =>
          cases recorded : env.recordSent row.instanceId with
          | error e => exact ⟨p.table, .inl rfl, rfl⟩
          | ok => exact ⟨_, .inr ⟨⟨hasDate, recorded⟩, rfl⟩, rfl⟩
    · exact .inl (warnRow_undated unwarned (by simpa using hasDate) p)
  · rw [warnRow_skips unwarned]
    exact .inl rfl

theorem warnRow_deletions (env : Env) (now : Int) (adminProjectId : Option String) (row : Row) (p : Progress) :
    (warnRow env now adminProjectId row p).2.deletions = p.deletions := by
  rcases warnRow_after env now adminProjectId row p with same | ⟨_, table, _, after⟩
  · rw [same]
  · rw [after]

theorem warnRow_find {i : String} (other : Unwarned adminProjectId row → Recordable env row →
    row.instanceId ≠ i) (p : Progress) :
    (warnRow env now adminProjectId row p).2.table.find i = p.table.find i := by
  rcases warnRow_after env now adminProjectId row p with same | ⟨unwarned, table, updated, after⟩
  · rw [same]
  · rw [after]
    rcases updated with rfl | ⟨recordable, rfl⟩
    · rfl
    · exact find_emailSent_ne (other unwarned recordable)

/-- What the first loop does to the table when nothing stops it: it records a
    warning for the rows it mails about. -/
theorem warn_loop (sends : Sends env) (now : Int) {rows : List Row}
    (records : ∀ row ∈ rows, Unwarned adminProjectId row → Recordable env row) (p : Progress) :
    ∃ after, forEach rows (warnRow env now adminProjectId) p = (.ok (), after) ∧
      ∀ i, after.table.find i = (p.table.find i).map (fun r =>
        if ∃ row ∈ rows, row.instanceId = i ∧ Unwarned adminProjectId row then r.markSent now else r) := by
  induction rows generalizing p with
  | nil => exact ⟨p, rfl, fun i => by simp⟩
  | cons row rows ih =>
    have later := fun row member => records row (List.mem_cons_of_mem _ member)
    rw [forEach_cons]
    by_cases unwarned : Unwarned adminProjectId row
    · rw [bind_ok (warnRow_sends sends unwarned (records row List.mem_cons_self unwarned) p)]
      obtain ⟨after, ran, found⟩ := ih later _
      refine ⟨after, ran, fun i => ?_⟩
      rw [found i]
      simp only [find_emailSent, Option.map_map]
      rcases there : p.table.find i with _ | r
      · rfl
      · have named : r.instanceId = i := (Table.find_eq_some.mp there).2
        by_cases same : row.instanceId = i
        · by_cases again : ∃ row ∈ rows, row.instanceId = i ∧ Unwarned adminProjectId row
          · simp [same, named, unwarned, again, Row.markSent]
          · simp [same, named, unwarned, again]
        · have different : ¬ i = row.instanceId := fun h => same h.symm
          simp [same, named, different]
    · rw [bind_ok (warnRow_skips unwarned p)]
      obtain ⟨after, ran, found⟩ := ih later p
      exact ⟨after, ran, fun i => by simp [found i, unwarned]⟩

/-! ## The second loop -/

theorem reclaimRow_after (env : Env) (adminProjectId : Option String) (row : Row) (p : Progress) :
    (reclaimRow env adminProjectId row p).2 = p ∨ ∃ table,
      (table = p.table ∨ table = updateInstanceLifecycleDeleted p.table row.instanceId) ∧
      (reclaimRow env adminProjectId row p).2 =
        { p with table := table
                 deletions := p.deletions ++ (env.deleteInstance row.instanceId row.projectId).calls } := by
  by_cases admin : exempt adminProjectId row.projectId = true
  · exact .inl (by simp [reclaimRow, admin])
  · refine .inr ?_
    simp only [reclaimRow, Bool.not_eq_true _ ▸ admin, bind_run, modify_run, Bool.false_eq_true, if_false]
    cases (env.deleteInstance row.instanceId row.projectId).deleted with
    | false => exact ⟨p.table, .inl rfl, rfl⟩
    | true =>
      cases env.recordDeleted row.instanceId with
      | error e => exact ⟨p.table, .inl rfl, by simp [bind_run]⟩
      | ok => exact ⟨_, .inr rfl, by simp [bind_run]⟩

theorem reclaimRow_find (env : Env) (adminProjectId : Option String) (row : Row) (i : String) (p : Progress) :
    (reclaimRow env adminProjectId row p).2.table.find i = p.table.find i ∨
      row.instanceId = i ∧
        (reclaimRow env adminProjectId row p).2.table.find i = (p.table.find i).map Row.markDeleted := by
  rcases reclaimRow_after env adminProjectId row p with same | ⟨table, updated, after⟩
  · exact .inl (by rw [same])
  · rw [after]
    rcases updated with rfl | rfl
    · exact .inl rfl
    · by_cases same : row.instanceId = i
      · subst same
        exact .inr ⟨rfl, find_deleted_same⟩
      · exact .inl (find_deleted_ne same)

/-! ## Whole cycles -/

def cycle (env : Env) (settings : LifecycleSettings) (now : Int) (adminProjectId : Option String)
    (table : LifecycleTable) : Progress :=
  (runLifecycleCheck env settings now adminProjectId ⟨table, [], []⟩).2

theorem cycle_invariant {I : Progress → Prop} {settings : LifecycleSettings} {table : LifecycleTable}
    (warned : ∀ row ∈ listInstanceLifecyclesExpiringBefore table now, ∀ p, I p →
      I (warnRow env now adminProjectId row p).2)
    (reclaimed : ∀ start, I start →
      ∀ row ∈ listInstanceLifecyclesAwaitingReply start.table (now - settings.replyGrace), ∀ p, I p →
        I (reclaimRow env adminProjectId row p).2)
    (inv : I ⟨table, [], []⟩) : I (cycle env settings now adminProjectId table) := by
  unfold cycle runLifecycleCheck
  split
  · have first := forEach_invariant warned inv
    simp only [bind_run, gets_run]
    rcases loop : forEach (listInstanceLifecyclesExpiringBefore table now) (warnRow env now adminProjectId)
      ⟨table, [], []⟩ with ⟨r, p⟩
    rw [loop] at first
    cases r with
    | error e => exact first
    | ok => exact forEach_invariant (reclaimed p first) first
  · exact inv

theorem cycle_frame (env : Env) (settings : LifecycleSettings) (now : Int) {table : LifecycleTable} {r : Row}
    (member : r ∈ table)
    (quiet : ¬ (Unwarned adminProjectId r ∧ Recordable env r)) (unsent : r.emailStatus ≠ .sent) :
    (cycle env settings now adminProjectId table).table.find r.instanceId = some r := by
  refine cycle_invariant (I := fun p => p.table.find r.instanceId = some r) ?_ ?_
    (Table.find_eq_some.mpr ⟨member, rfl⟩)
  · intro row listed p kept
    rw [warnRow_find ?_ p]
    · exact kept
    · intro unwarned recordable same
      have equal := Table.eq_of_key (mem_expiring.mp listed).1 member same
      exact quiet (equal ▸ ⟨unwarned, recordable⟩)
  · intro start there row listed p kept
    rcases reclaimRow_find env adminProjectId row r.instanceId p with
      same | ⟨named, _⟩
    · rw [same]
      exact kept
    · obtain ⟨inside, sent, _⟩ := mem_awaiting.mp listed
      have equal := Table.eq_of_key inside (Table.find_eq_some.mp there).1 named
      exact absurd (equal ▸ sent) unsent

/-! ## Reclaiming overdue instances -/

/-- A row that the second loop is there for. -/
def Overdue (settings : LifecycleSettings) (now : Int) (adminProjectId : Option String) (r : Row) : Prop :=
  r.emailStatus = .sent ∧ r.extended = false ∧ sentBy r (now - settings.replyGrace) = true ∧
    exempt adminProjectId r.projectId = false

/-- Every overdue row of the table that a cycle starts on gets one `delete_server`
    call in it and ends it deleted. -/
def Reclaims (settings : LifecycleSettings) (now : Int) (adminProjectId : Option String) (table : LifecycleTable)
    (after : Progress) : Prop :=
  ∀ r ∈ table, Overdue settings now adminProjectId r →
    after.deletions.count r.instanceId = 1 ∧
      ∃ r' ∈ after.table, r'.instanceId = r.instanceId ∧ r'.emailStatus = .deleted

/-- The environment of the deployed scheduler: its `_delete_instance` reads
    `CONF.openstack` and reaches an OpenStack that accepts what it accepts. -/
def deployed (env : Env) (values : String → Value) (accepts : String → Bool) : Env :=
  { env with deleteInstance := deleteInstance (openstackGroup values) accepts }

/-- No option is named `system_user`, so the connection is never made. -/
theorem connectionArgs_fails (values : String → Value) :
    connectionArgs (openstackGroup values) = .error (.attributeError "system_user") := by
  have url : "keystone_url" ∈ openstackNames := by decide
  have project : "system_project" ∈ openstackNames := by decide
  have user : "system_user" ∉ openstackNames := by decide
  simp only [connectionArgs, openstack_getattr, bind, Except.bind, url, project, user, if_true, if_false]

theorem deleteInstance_never_calls (values : String → Value) (accepts : String → Bool) (i projectId : String) :
    deleteInstance (openstackGroup values) accepts i projectId = ⟨false, []⟩ := by
  rw [deleteInstance, connectionArgs_fails]

theorem deployed_cycle_deletions (env : Env) (values : String → Value) (accepts : String → Bool)
    (settings : LifecycleSettings) (now : Int) (adminProjectId : Option String) (table : LifecycleTable) :
    (cycle (deployed env values accepts) settings now adminProjectId table).deletions = [] := by
  refine cycle_invariant (I := fun p => p.deletions = []) ?_ ?_ rfl
  · intro row _ p none
    rw [warnRow_deletions, none]
  · intro _ _ row _ p none
    rcases reclaimRow_after (deployed env values accepts) adminProjectId row p with same | ⟨table, _, after⟩
    · rw [same, none]
    · rw [after]
      simp [none, deployed, deleteInstance_never_calls]

/-- A cycle of the deployed scheduler reclaims the overdue rows exactly when there
    is none, whatever the options hold and with an OpenStack that accepts every
    deletion. -/
theorem cycle_reclaims_iff (env : Env) (values : String → Value) (settings : LifecycleSettings) (now : Int)
    (adminProjectId : Option String) (table : LifecycleTable) :
    Reclaims settings now adminProjectId table
        (cycle (deployed env values (fun _ => true)) settings now adminProjectId table) ↔
      ∀ r ∈ table, ¬ Overdue settings now adminProjectId r := by
  constructor
  · intro reclaims r member overdue
    have once := (reclaims r member overdue).1
    rw [deployed_cycle_deletions] at once
    simp at once
  · intro nothing r member overdue
    exact absurd overdue (nothing r member)

/-- A world in which mails arrive, updates commit and no instance is deleted. -/
def calm : Env where
  mail _ := .ok true
  deleteInstance _ _ := ⟨false, []⟩
  recordSent _ := .ok ()
  recordDeleted _ := .ok ()

def weekly : LifecycleSettings := ⟨true, 30, 7, "service"⟩

/-- The row of an instance that was warned about at 100 and never extended. -/
def sentRow : Row :=
  { newRow "vm" "web" "user" "project" "user@example.org" 0 100 with
    emailStatus := .sent, emailSentAt := some 100 }

/-- An overdue instance is not deleted by a cycle a week later. -/
theorem overdue_not_reclaimed :
    ¬ ∀ (env : Env) (values : String → Value) (settings : LifecycleSettings) (now : Int)
      (adminProjectId : Option String) (table : LifecycleTable), settings.enabled = true → Commits env →
        Reclaims settings now adminProjectId table
          (cycle (deployed env values (fun _ => true)) settings now adminProjectId table) := by
  intro always
  have reclaims := always calm (fun _ => .null) weekly 604900 none ⟨[sentRow], List.nodup_singleton _⟩ rfl
    ⟨fun _ => rfl, fun _ => rfl⟩ sentRow (List.mem_singleton_self _) ⟨rfl, rfl, by decide, rfl⟩
  rw [deployed_cycle_deletions] at reclaims
  simp at reclaims

/-! ## Going on after an extension -/

/-- The user has been warned after the expiry, or the instance is gone. -/
def Answered (r : Row) : Prop :=
  r.emailStatus = .deleted ∨ r.emailStatus = .sent ∧ ∃ sentAt, r.emailSentAt = some sentAt ∧ r.expiresAt ≤ sentAt

/-- Every expired row outside the admin project is warned about after its expiry,
    or deleted, when the cycle ends. -/
def KeepsGoing (now : Int) (adminProjectId : Option String) (before after : LifecycleTable) : Prop :=
  ∀ r ∈ before, exempt adminProjectId r.projectId = false → r.expiresAt ≤ now → r.emailStatus ≠ .deleted →
    ∃ r' ∈ after, r'.instanceId = r.instanceId ∧ Answered r'

/-- No expired row outside the admin project has been extended, and every one still
    to be warned about has an expiry that a date can show and a warning that the
    database records. -/
def NothingStuck (env : Env) (now : Int) (adminProjectId : Option String) (table : LifecycleTable) : Prop :=
  ∀ r ∈ table, exempt adminProjectId r.projectId = false → r.expiresAt ≤ now →
    r.emailStatus ≠ .extended ∧ (r.emailStatus = .none → Recordable env r)

/-- Every recorded warning was sent at or after the expiry it warns about. -/
def SentAfterExpiry (table : LifecycleTable) : Prop := ∀ r ∈ table, r.emailStatus = .sent → Answered r

theorem nothingStuck_of_keepsGoing {settings : LifecycleSettings} {table : LifecycleTable}
    (going : KeepsGoing now adminProjectId table (cycle env settings now adminProjectId table).table) :
    NothingStuck env now adminProjectId table := by
  have answered : ∀ r ∈ table, exempt adminProjectId r.projectId = false → r.expiresAt ≤ now →
      r.emailStatus ≠ .deleted → r.emailStatus ≠ .sent →
      ¬ (Unwarned adminProjectId r ∧ Recordable env r) → False := by
    intro r member other expired alive unsent quiet
    obtain ⟨r', inside, named, done⟩ := going r member other expired alive
    have same := cycle_frame env settings now member quiet unsent
    have equal := Table.eq_of_key inside (Table.find_eq_some.mp same).1 named
    subst equal
    rcases done with deleted | ⟨sent, _⟩
    · exact alive deleted
    · exact unsent sent
  intro r member other expired
  constructor
  · intro extended
    exact answered r member other expired (by simp [extended]) (by simp [extended])
      (fun quiet => by simp [quiet.1.2] at extended)
  · intro unwarned
    by_contra unrecordable
    exact answered r member other expired (by simp [unwarned]) (by simp [unwarned])
      (fun quiet => unrecordable quiet.2)

theorem answered_of_nothingStuck (sends : Sends env) {table : LifecycleTable}
    (free : NothingStuck env now adminProjectId table) (dates : SentAfterExpiry table) :
    ∃ after, forEach (listInstanceLifecyclesExpiringBefore table now) (warnRow env now adminProjectId)
        ⟨table, [], []⟩ = (.ok (), after) ∧
      ∀ r ∈ table, exempt adminProjectId r.projectId = false → r.expiresAt ≤ now → r.emailStatus ≠ .deleted →
        ∃ r', after.table.find r.instanceId = some r' ∧ Answered r' := by
  have records : ∀ row ∈ listInstanceLifecyclesExpiringBefore table now,
      Unwarned adminProjectId row → Recordable env row := by
    intro row listed unwarned
    obtain ⟨inside, expired, _⟩ := mem_expiring.mp listed
    exact (free row inside unwarned.1 expired).2 unwarned.2
  obtain ⟨after, ran, found⟩ := warn_loop sends now records ⟨table, [], []⟩
  refine ⟨after, ran, fun r member other expired alive => ?_⟩
  have there : table.find r.instanceId = some r := Table.find_eq_some.mpr ⟨member, rfl⟩
  rw [found, there]
  refine ⟨_, rfl, ?_⟩
  split
  · exact .inr ⟨rfl, now, rfl, expired⟩
  · next unlisted =>
    cases status : r.emailStatus with
    | none =>
      exact absurd ⟨r, mem_expiring.mpr ⟨member, expired, alive⟩, rfl, other, status⟩ unlisted
    | sent => exact dates r member status
    | extended => exact absurd status (free r member other expired).1
    | deleted => exact absurd status alive

/-- A cycle whose mails are all sent answers every expired row exactly when nothing
    is stuck. -/
theorem cycle_keepsGoing_iff (sends : Sends env) {settings : LifecycleSettings}
    (enabled : settings.enabled = true) {table : LifecycleTable} (dates : SentAfterExpiry table) :
    KeepsGoing now adminProjectId table (cycle env settings now adminProjectId table).table ↔
      NothingStuck env now adminProjectId table := by
  refine ⟨nothingStuck_of_keepsGoing, fun free r member other expired alive => ?_⟩
  obtain ⟨after, ran, answered⟩ := answered_of_nothingStuck sends free dates
  have last : ∃ r', (cycle env settings now adminProjectId table).table.find r.instanceId = some r' ∧
      Answered r' := by
    unfold cycle runLifecycleCheck
    simp only [enabled, if_true, bind_run, gets_run, ran]
    refine forEach_invariant (I := fun p : Progress => ∃ r', p.table.find r.instanceId = some r' ∧ Answered r')
      (fun row _ p kept => ?_) (answered r member other expired alive)
    obtain ⟨r', there, done⟩ := kept
    rcases reclaimRow_find env adminProjectId row r.instanceId p with
      same | ⟨_, deleted⟩
    · exact ⟨r', same ▸ there, done⟩
    · exact ⟨r'.markDeleted, by rw [deleted, there]; rfl, .inl rfl⟩
  obtain ⟨r', there, done⟩ := last
  exact ⟨r', (Table.find_eq_some.mp there).1, (Table.find_eq_some.mp there).2, done⟩

/-! ## Runs that execute one operation at a time -/

/-- The table and the time of the last operation that read the clock. -/
structure Clocked where
  table : LifecycleTable
  clock : Int

inductive Operation
  | insert (instanceId instanceName userId projectId userEmail : String) (createdAt expiresAt : Int)
  | extend (instanceId : String) (now : Int)
  | check (env : Env) (settings : LifecycleSettings) (now : Int) (adminProjectId : Option String)

/-- Operations on one table, one at a time, with a clock that never goes back. -/
def sequential (epoch : Int) : System Clocked Operation Unit where
  init := ⟨Table.empty, epoch⟩
  step w
    | .insert instanceId instanceName userId projectId userEmail createdAt expiresAt =>
      (createInstanceLifecycle w.table instanceId instanceName userId projectId userEmail createdAt expiresAt).map
        (fun table => ((), { w with table := table }))
    | .extend instanceId now =>
      if w.clock ≤ now then some ((), ⟨(extendInstanceLifecycle w.table instanceId now).2, now⟩) else none
    | .check env settings now adminProjectId =>
      if w.clock ≤ now then some ((), ⟨(cycle env settings now adminProjectId w.table).table, now⟩) else none

theorem insert_sentAfterExpiry {table table' : LifecycleTable} {r : Row} (dates : SentAfterExpiry table)
    (fresh : r.emailStatus = .none) (inserted : table.insert r = some table') : SentAfterExpiry table' := by
  intro s member sent
  rcases (Table.mem_insert inserted).mp member with old | rfl
  · exact dates s old sent
  · rw [fresh] at sent
    cases sent

theorem extend_sentAfterExpiry {table : LifecycleTable} (dates : SentAfterExpiry table) (i : String) (now : Int) :
    SentAfterExpiry (extendInstanceLifecycle table i now).2 := by
  unfold extendInstanceLifecycle
  split
  · exact dates
  · intro r member sent
    obtain ⟨old, inside, rfl⟩ := mem_extended.mp member
    split at sent
    · cases sent
    · next other => simpa [other] using dates old inside sent

theorem cycle_sentAfterExpiry {table : LifecycleTable} (dates : SentAfterExpiry table) (env : Env)
    (settings : LifecycleSettings) (now : Int) (adminProjectId : Option String) :
    SentAfterExpiry (cycle env settings now adminProjectId table).table := by
  refine (cycle_invariant (I := fun p => SentAfterExpiry p.table ∧
    ∀ r ∈ p.table, ∀ row ∈ table, row.instanceId = r.instanceId → r.expiresAt = row.expiresAt) ?_ ?_ ?_).1
  · rintro row listed p ⟨sentDates, expiries⟩
    rcases warnRow_after env now adminProjectId row p with same | ⟨_, table', updated, after⟩
    · rw [same]
      exact ⟨sentDates, expiries⟩
    · rw [after]
      rcases updated with rfl | ⟨_, rfl⟩
      · exact ⟨sentDates, expiries⟩
      · obtain ⟨inside, expired, _⟩ := mem_expiring.mp listed
        constructor
        · intro r member sent
          obtain ⟨old, there, rfl⟩ := mem_emailSent.mp member
          split
          · next named =>
            refine .inr ⟨rfl, now, rfl, ?_⟩
            rw [markSent_expiresAt, expiries old there row inside named.symm]
            exact expired
          · next other => exact sentDates old there (by simpa [other] using sent)
        · intro r member row' inside' named
          obtain ⟨old, there, sameId, sameExpiry, _⟩ := emailSent_keeps member
          rw [sameExpiry]
          exact expiries old there row' inside' (named.trans sameId)
  · rintro start - row - p ⟨sentDates, expiries⟩
    rcases reclaimRow_after env adminProjectId row p with same | ⟨table', updated, after⟩
    · rw [same]
      exact ⟨sentDates, expiries⟩
    · rw [after]
      rcases updated with rfl | rfl
      · exact ⟨sentDates, expiries⟩
      · constructor
        · intro r member sent
          obtain ⟨old, there, rfl⟩ := mem_deleted.mp member
          split
          · exact .inl rfl
          · next other => exact sentDates old there (by simpa [other] using sent)
        · intro r member row' inside' named
          obtain ⟨old, there, sameId, sameExpiry, _⟩ := deleted_keeps member
          rw [sameExpiry]
          exact expiries old there row' inside' (named.trans sameId)
  · exact ⟨dates, fun r member row inside named => by rw [Table.eq_of_key inside member named]⟩

/-- Every recorded warning of a reachable table was sent at or after the expiry. -/
theorem reachable_sentAfterExpiry {epoch : Int} {past : List Unit} {w : Clocked}
    (run : (sequential epoch).AnyRun past w) : SentAfterExpiry w.table := by
  refine run.invariant (I := fun _ w => SentAfterExpiry w.table) (fun r member => absurd member (by simp [sequential])) ?_
  intro _ w op _ w' dates _ stepped
  cases op with
  | insert =>
    obtain ⟨table, inserted, same⟩ := Option.map_eq_some_iff.mp stepped
    cases same
    exact insert_sentAfterExpiry dates rfl inserted
  | extend i now =>
    simp only [sequential] at stepped
    split at stepped
    · cases stepped
      exact extend_sentAfterExpiry dates i now
    · cases stepped
  | check env settings now adminProjectId =>
    simp only [sequential] at stepped
    split at stepped
    · cases stepped
      exact cycle_sentAfterExpiry dates env settings now adminProjectId
    · cases stepped

/-- Of every table that operations reach one at a time, the next cycle whose mails
    are all sent answers every expired row exactly when nothing is stuck: no
    extended row has expired again, and every unwarned one has an expiry with a
    date and a warning that the database records. -/
theorem lifecycle_keepsGoing_iff {epoch : Int} {past : List Unit} {w : Clocked}
    (run : (sequential epoch).AnyRun past w) (env : Env) (sends : Sends env)
    (settings : LifecycleSettings) (enabled : settings.enabled = true) (now : Int) (_later : w.clock ≤ now)
    (adminProjectId : Option String) :
    KeepsGoing now adminProjectId w.table (cycle env settings now adminProjectId w.table).table ↔
      NothingStuck env now adminProjectId w.table :=
  cycle_keepsGoing_iff sends enabled (reachable_sentAfterExpiry run)

def register : Operation := .insert "vm" "web" "user" "project" "user@example.org" 0 100

def registered : LifecycleTable :=
  ⟨[newRow "vm" "web" "user" "project" "user@example.org" 0 100], List.nodup_singleton _⟩

theorem registered_keepsGoing :
    KeepsGoing 100 none registered (cycle calm weekly 100 none registered).table :=
  (lifecycle_keepsGoing_iff (w := ⟨registered, 0⟩) (.step (a := register) .start trivial rfl) calm
    (fun _ => rfl) weekly rfl 100 (by decide) none).mpr (by
      intro r member _ _
      simp only [registered, Table.mem_rows, List.mem_singleton] at member
      subst member
      exact ⟨by decide, fun _ => ⟨by decide, rfl⟩⟩)

/-- The row after its owner, warned at 100, has extended it at 200. -/
def extendedRow : Row :=
  { newRow "vm" "web" "user" "project" "user@example.org" 0 2592200 with
    emailStatus := .extended, emailSentAt := some 100, extended := true }

/-- An instance that was extended and has expired again is not warned again. -/
theorem extended_not_warned :
    ¬ ∀ (epoch : Int) (past : List Unit) (w : Clocked), (sequential epoch).AnyRun past w →
      ∀ env, Sends env → Commits env → ∀ settings : LifecycleSettings, settings.enabled = true →
        ∀ now, w.clock ≤ now → ∀ adminProjectId,
          KeepsGoing now adminProjectId w.table (cycle env settings now adminProjectId w.table).table := by
  intro always
  have executed : (sequential 0).exec (fun _ _ => true) ([], (sequential 0).init)
      [register, .check calm weekly 100 none, .extend "vm" 200] =
        some ([(), (), ()], ⟨⟨[extendedRow], List.nodup_singleton _⟩, 200⟩) := rfl
  have going := always 0 _ _ (System.exec_anyRun _ .start executed) calm (fun _ => rfl) ⟨fun _ => rfl, fun _ => rfl⟩
    weekly rfl 2592200 (by decide) none
  exact (nothingStuck_of_keepsGoing going extendedRow (List.mem_singleton_self _) rfl (by decide)).1 rfl

end Skyline.LifecycleCycle
