import Skyline.Config
import Skyline.Effects

/-!
The instance lifecycle: its table and the database calls on it (`db/models.py`,
`db/api.py`), the extend endpoint (`api/v1/lifecycle.py`) and one cycle of the
scheduler (`utils/lifecycle_scheduler.py`).

A row is warned about when it expires, and deleted when nobody extends it within
the grace period after the warning. Each database call runs in a transaction of
its own; the functions here are what one call does to the table. Timestamps are
Unix seconds.
-/
namespace Skyline.Lifecycle
open Skyline.Python Skyline.Config Skyline.Tables Skyline.Effects Skyline.Effects.Eff

/-! ## The table -/

/-- The column `email_status`. -/
inductive EmailStatus
  | none | sent | extended | deleted
  deriving DecidableEq, Repr

structure Row where
  instanceId : String
  instanceName : Option String
  userId : String
  projectId : String
  userEmail : Option String
  createdAt : Int
  expiresAt : Int
  emailStatus : EmailStatus
  emailSentAt : Option Int
  extended : Bool
  deriving DecidableEq, Repr

/-- `InstanceLifecycle`, with its unique index on `instance_id`. -/
abbrev LifecycleTable := Table Row Row.instanceId

def newRow (instanceId instanceName userId projectId userEmail : String) (createdAt expiresAt : Int) : Row where
  instanceId := instanceId
  instanceName := some instanceName
  userId := userId
  projectId := projectId
  userEmail := some userEmail
  createdAt := createdAt
  expiresAt := expiresAt
  emailStatus := .none
  emailSentAt := none
  extended := false

/-- `create_instance_lifecycle`; `none` when the unique index refuses the row. -/
def createInstanceLifecycle (table : LifecycleTable)
    (instanceId instanceName userId projectId userEmail : String) (createdAt expiresAt : Int) :
    Option LifecycleTable :=
  table.insert (newRow instanceId instanceName userId projectId userEmail createdAt expiresAt)

def getInstanceLifecycle (table : LifecycleTable) (instanceId : String) : Option Row := table.find instanceId

def listInstanceLifecyclesExpiringBefore (table : LifecycleTable) (threshold : Int) : List Row :=
  table.select (fun r => r.expiresAt ≤ threshold && r.emailStatus != .deleted)

/-- `email_sent_at <= threshold`, which SQL does not hold of a `NULL`. -/
def sentBy (r : Row) (threshold : Int) : Bool :=
  match r.emailSentAt with
  | some sentAt => sentAt ≤ threshold
  | none => false

def listInstanceLifecyclesAwaitingReply (table : LifecycleTable) (threshold : Int) : List Row :=
  table.select (fun r => r.emailStatus == .sent && sentBy r threshold && !r.extended)

/-- The columns that `update_instance_lifecycle_email_sent` sets. -/
def Row.markSent (sentAt : Int) (r : Row) : Row := { r with emailStatus := .sent, emailSentAt := some sentAt }
/-- The columns that `update_instance_lifecycle_extended` sets. -/
def Row.markExtended (newExpiresAt : Int) (r : Row) : Row :=
  { r with emailStatus := .extended, extended := true, expiresAt := newExpiresAt }
/-- The column that `update_instance_lifecycle_deleted` sets. -/
def Row.markDeleted (r : Row) : Row := { r with emailStatus := .deleted }

@[simp] theorem markSent_instanceId (n : Int) (r : Row) : (r.markSent n).instanceId = r.instanceId := rfl
@[simp] theorem markSent_emailStatus (n : Int) (r : Row) : (r.markSent n).emailStatus = .sent := rfl
@[simp] theorem markSent_emailSentAt (n : Int) (r : Row) : (r.markSent n).emailSentAt = some n := rfl
@[simp] theorem markSent_expiresAt (n : Int) (r : Row) : (r.markSent n).expiresAt = r.expiresAt := rfl
@[simp] theorem markSent_extended (n : Int) (r : Row) : (r.markSent n).extended = r.extended := rfl
@[simp] theorem markExtended_instanceId (n : Int) (r : Row) : (r.markExtended n).instanceId = r.instanceId := rfl
@[simp] theorem markExtended_emailStatus (n : Int) (r : Row) : (r.markExtended n).emailStatus = .extended := rfl
@[simp] theorem markExtended_emailSentAt (n : Int) (r : Row) : (r.markExtended n).emailSentAt = r.emailSentAt := rfl
@[simp] theorem markExtended_expiresAt (n : Int) (r : Row) : (r.markExtended n).expiresAt = n := rfl
@[simp] theorem markExtended_extended (n : Int) (r : Row) : (r.markExtended n).extended = true := rfl
@[simp] theorem markDeleted_instanceId (r : Row) : r.markDeleted.instanceId = r.instanceId := rfl
@[simp] theorem markDeleted_emailStatus (r : Row) : r.markDeleted.emailStatus = .deleted := rfl
@[simp] theorem markDeleted_emailSentAt (r : Row) : r.markDeleted.emailSentAt = r.emailSentAt := rfl
@[simp] theorem markDeleted_expiresAt (r : Row) : r.markDeleted.expiresAt = r.expiresAt := rfl
@[simp] theorem markDeleted_extended (r : Row) : r.markDeleted.extended = r.extended := rfl

def updateInstanceLifecycleEmailSent (table : LifecycleTable) (instanceId : String) (sentAt : Int) : LifecycleTable :=
  table.update instanceId (Row.markSent sentAt) (markSent_instanceId sentAt)

def updateInstanceLifecycleExtended (table : LifecycleTable) (instanceId : String) (newExpiresAt : Int) :
    LifecycleTable :=
  table.update instanceId (Row.markExtended newExpiresAt) (markExtended_instanceId newExpiresAt)

def updateInstanceLifecycleDeleted (table : LifecycleTable) (instanceId : String) : LifecycleTable :=
  table.update instanceId Row.markDeleted markDeleted_instanceId

def deleteInstanceLifecycle (table : LifecycleTable) (instanceId : String) : LifecycleTable :=
  table.delete instanceId

section
variable {table : LifecycleTable} {k i : String} {n : Int}

theorem find_emailSent : (updateInstanceLifecycleEmailSent table k n).find i =
    (table.find i).map (fun r => if r.instanceId = k then r.markSent n else r) := by
  rw [updateInstanceLifecycleEmailSent, Table.find_update]
theorem find_emailSent_ne (other : k ≠ i) : (updateInstanceLifecycleEmailSent table k n).find i = table.find i := by
  rw [updateInstanceLifecycleEmailSent, Table.find_update_ne other]
theorem find_deleted_same : (updateInstanceLifecycleDeleted table k).find k = (table.find k).map Row.markDeleted := by
  rw [updateInstanceLifecycleDeleted, Table.find_update_same]
theorem find_deleted_ne (other : k ≠ i) : (updateInstanceLifecycleDeleted table k).find i = table.find i := by
  rw [updateInstanceLifecycleDeleted, Table.find_update_ne other]

theorem mem_emailSent {s : Row} : s ∈ updateInstanceLifecycleEmailSent table k n ↔
    ∃ r ∈ table, s = if r.instanceId = k then r.markSent n else r := Table.mem_update
theorem mem_extended {s : Row} : s ∈ updateInstanceLifecycleExtended table k n ↔
    ∃ r ∈ table, s = if r.instanceId = k then r.markExtended n else r := Table.mem_update
theorem mem_deleted {s : Row} : s ∈ updateInstanceLifecycleDeleted table k ↔
    ∃ r ∈ table, s = if r.instanceId = k then r.markDeleted else r := Table.mem_update

theorem markSent_mem {r : Row} (member : r ∈ table) (named : r.instanceId = k) :
    r.markSent n ∈ updateInstanceLifecycleEmailSent table k n := Table.mem_update_key member named
theorem markExtended_mem {r : Row} (member : r ∈ table) (named : r.instanceId = k) :
    r.markExtended n ∈ updateInstanceLifecycleExtended table k n := Table.mem_update_key member named

theorem emailSent_keeps {s : Row} (member : s ∈ updateInstanceLifecycleEmailSent table k n) :
    ∃ r ∈ table, s.instanceId = r.instanceId ∧ s.expiresAt = r.expiresAt ∧ s.extended = r.extended := by
  obtain ⟨r, there, rfl⟩ := mem_emailSent.mp member
  refine ⟨r, there, ?_⟩
  split <;> simp
theorem deleted_keeps {s : Row} (member : s ∈ updateInstanceLifecycleDeleted table k) :
    ∃ r ∈ table, s.instanceId = r.instanceId ∧ s.expiresAt = r.expiresAt ∧ s.extended = r.extended := by
  obtain ⟨r, there, rfl⟩ := mem_deleted.mp member
  refine ⟨r, there, ?_⟩
  split <;> simp

end

theorem mem_expiring {table : LifecycleTable} {threshold : Int} {r : Row} :
    r ∈ listInstanceLifecyclesExpiringBefore table threshold ↔
      r ∈ table ∧ r.expiresAt ≤ threshold ∧ r.emailStatus ≠ .deleted := by
  simp [listInstanceLifecyclesExpiringBefore]

theorem sentBy_iff {r : Row} {threshold : Int} :
    sentBy r threshold = true ↔ ∃ sentAt, r.emailSentAt = some sentAt ∧ sentAt ≤ threshold := by
  unfold sentBy
  split <;> simp_all

theorem mem_awaiting {table : LifecycleTable} {threshold : Int} {r : Row} :
    r ∈ listInstanceLifecyclesAwaitingReply table threshold ↔
      r ∈ table ∧ r.emailStatus = .sent ∧ sentBy r threshold = true ∧ r.extended = false := by
  simp [listInstanceLifecyclesAwaitingReply, and_assoc]

/-! ## The extend endpoint -/

def extension : Int := 30 * 86400

structure ExtendResponse where
  instanceId : String
  newExpiresAt : Int
  message : String
  deriving DecidableEq, Repr

/-- What `extend_instance_lifecycle` decides from the row it read: the new
    expiry, or the error it answers with. -/
def newExpiry (row : Option Row) (now : Int) : Except Exn Int :=
  match row with
  | none => .error (.httpException 404 "해당 인스턴스의 라이프사이클 정보가 없습니다.")
  | some row =>
    if row.emailStatus = .deleted then .error (.httpException 409 "이미 삭제된 인스턴스입니다.")
    else .ok (max row.expiresAt now + extension)

theorem newExpiry_ok {row : Option Row} {now newExpiresAt : Int} (decided : newExpiry row now = .ok newExpiresAt) :
    ∃ read, row = some read ∧ newExpiresAt = max read.expiresAt now + extension := by
  unfold newExpiry at decided
  split at decided
  · cases decided
  · next read =>
    split at decided
    · cases decided
    · exact ⟨read, rfl, (Except.ok.inj decided).symm⟩

/-- `extend_instance_lifecycle`, undisturbed between its read and its write. -/
def extendInstanceLifecycle (table : LifecycleTable) (instanceId : String) (now : Int) :
    Except Exn ExtendResponse × LifecycleTable :=
  match newExpiry (getInstanceLifecycle table instanceId) now with
  | .error e => (.error e, table)
  | .ok newExpiresAt =>
    (.ok ⟨instanceId, newExpiresAt, "인스턴스 사용 기간이 30일 연장되었습니다."⟩,
      updateInstanceLifecycleExtended table instanceId newExpiresAt)

/-! ## The scheduler -/

/-- `_get_lifecycle_settings`. -/
structure LifecycleSettings where
  enabled : Bool
  lifetimeDays : Int
  replyDeadlineDays : Int
  adminProject : String
  deriving DecidableEq, Repr

def LifecycleSettings.replyGrace (settings : LifecycleSettings) : Int := settings.replyDeadlineDays * 86400

/-- Whether a row is exempt: `admin_project_id and row.project_id == admin_project_id`. -/
def exempt (adminProjectId : Option String) (projectId : String) : Bool :=
  truthy? adminProjectId && adminProjectId == some projectId

/-- Whether `datetime.fromtimestamp(ts, tz=timezone.utc)` has a date to return:
    the years 1 to 9999. -/
def dated (ts : Int) : Bool := -62135596800 ≤ ts && ts ≤ 253402300799

/-- `datetime.fromtimestamp(ts, tz=timezone.utc)`; the date stands for itself. -/
def fromtimestamp (ts : Int) : Except Exn Int :=
  if dated ts then .ok ts else .error (.valueError "year is out of range")

structure Mail where
  toEmail : String
  instanceId : String
  instanceName : String
  expiresAt : Int
  extendUrl : String
  deriving DecidableEq, Repr

def warning (row : Row) (expires : Int) : Mail where
  toEmail := orElse row.userEmail ""
  instanceId := row.instanceId
  instanceName := orElse row.instanceName row.instanceId
  expiresAt := expires
  extendUrl := "/instances/" ++ row.instanceId ++ "/extend"

/-- What one call of `_delete_instance` returned, and the `delete_server` calls it
    made on the way. -/
structure Deletion where
  deleted : Bool
  calls : List String
  deriving DecidableEq, Repr

/-- What the world outside a cycle answers it. -/
structure Env where
  /-- `send_lifecycle_warning_email`. -/
  mail : Mail → Except Exn Bool
  /-- `_delete_instance`, which catches every exception. -/
  deleteInstance : String → String → Deletion
  /-- Whether the update of the row that records a warning commits. -/
  recordSent : String → Except Exn Unit
  /-- Whether the update of the row that records a deletion commits. -/
  recordDeleted : String → Except Exn Unit

/-- What a cycle has done so far: the table, and its mails and `delete_server`
    calls in order. -/
structure Progress where
  table : LifecycleTable
  mails : List Mail
  deletions : List String

/-- The body of the first loop of `run_lifecycle_check`. -/
def warnRow (env : Env) (now : Int) (adminProjectId : Option String) (row : Row) : Eff Progress Exn Unit :=
  if exempt adminProjectId row.projectId then pure ()
  else if row.emailStatus = .none then do
    let expires ← lift (fromtimestamp row.expiresAt)
    modify (fun p => { p with mails := p.mails ++ [warning row expires] })
    let sent ← lift (env.mail (warning row expires))
    if sent then do
      lift (env.recordSent row.instanceId)
      modify (fun p => { p with table := updateInstanceLifecycleEmailSent p.table row.instanceId now })
    else pure ()
  else pure ()

/-- The body of the second loop of `run_lifecycle_check`. -/
def reclaimRow (env : Env) (adminProjectId : Option String) (row : Row) : Eff Progress Exn Unit :=
  if exempt adminProjectId row.projectId then pure ()
  else do
    let deletion := env.deleteInstance row.instanceId row.projectId
    modify (fun p => { p with deletions := p.deletions ++ deletion.calls })
    if deletion.deleted then do
      lift (env.recordDeleted row.instanceId)
      modify (fun p => { p with table := updateInstanceLifecycleDeleted p.table row.instanceId })
    else pure ()

/-- `run_lifecycle_check`, undisturbed, with the settings, the clock and the
    admin project it reads first. -/
def runLifecycleCheck (env : Env) (settings : LifecycleSettings) (now : Int) (adminProjectId : Option String) :
    Eff Progress Exn Unit :=
  if settings.enabled then do
    let expiring ← gets (fun p => listInstanceLifecyclesExpiringBefore p.table now)
    forEach expiring (warnRow env now adminProjectId)
    let overdue ← gets (fun p => listInstanceLifecyclesAwaitingReply p.table (now - settings.replyGrace))
    forEach overdue (reclaimRow env adminProjectId)
  else pure ()

/-! ## Deleting through Nova -/

structure ConnectionArgs where
  authUrl : Value
  projectName : Value
  username : Value
  password : Value
  userDomainName : Value
  projectDomainName : Value

/-- The configuration that `_delete_instance` reads, in the order it reads it. -/
def connectionArgs (openstack : Group) : Except Exn ConnectionArgs := do
  let authUrl ← openstack.getattr "keystone_url"
  let projectName ← openstack.getattr "system_project"
  let username ← openstack.getattr "system_user"
  let password ← openstack.getattr "system_user_password"
  let userDomainName ← openstack.getattr "system_user_domain"
  let projectDomainName ← openstack.getattr "system_project_domain"
  return { authUrl, projectName, username, password, userDomainName, projectDomainName }

/-- `_delete_instance`, where `accepts` tells the servers whose deletion OpenStack
    accepts. Every exception is caught, a failed configuration read included. -/
def deleteInstance (openstack : Group) (accepts : String → Bool) (instanceId _projectId : String) : Deletion :=
  match connectionArgs openstack with
  | .error _ => ⟨false, []⟩
  | .ok _ => ⟨accepts instanceId, [instanceId]⟩

end Skyline.Lifecycle
