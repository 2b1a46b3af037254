import Skyline.Runs
import Skyline.SettingEndpoints

/-!
The settings that the scheduler and the mailer read (`utils/lifecycle_scheduler.py`,
`utils/email.py`). They convert what they read without a guard, so every row of these
settings has to pass the schema of its option. The configuration file is checked when it
is loaded, and a reset goes back to it; an update is not checked, so the settings stay
usable where each update carries such a value by itself.
-/
namespace Skyline.SettingUsability
open Skyline.Python Skyline.Config Skyline.Tables Skyline.Effects Skyline.Runs Skyline.Settings Skyline.SettingEndpoints
open Skyline.Session (Profile)

/-! ## The readers -/

/-- What `int` makes of a text and of a float. -/
structure Numerals where
  ofStr : String → Except Exn Int
  ofFloat : String → Except Exn Int

/-- `int(value)`, which raises a `TypeError` where the value is no number and no text. -/
def int (numerals : Numerals) : Value → Except Exn Int
  | .int n => .ok n
  | .bool b => .ok (if b then 1 else 0)
  | .str text => numerals.ofStr text
  | .float text => numerals.ofFloat text
  | .null | .list _ | .dict _ =>
    .error (.exception "int() argument must be a string, a bytes-like object or a real number")

structure LifecycleSettings where
  enabled : Value
  lifetimeDays : Int
  replyDeadlineDays : Int
  adminProject : Value

def lifecycleKeys : List String :=
  ["instance_lifecycle_enabled", "instance_lifetime_days", "instance_reply_deadline_days"]

def smtpKeys : List String :=
  ["smtp_host", "smtp_port", "smtp_user", "smtp_password", "smtp_use_tls", "smtp_from_address"]

section
variable (values openstack : String → Value) (numerals : Numerals)

/-- `row.value if row else getattr(CONF.setting, key)`. -/
def val (key : String) : Db Value := do
  let row ← getSetting key
  match row with
  | some row => return row.value
  | none => configured values key

/-- `_get_lifecycle_settings`. -/
def getLifecycleSettings : Db LifecycleSettings := do
  let enabled ← val values "instance_lifecycle_enabled"
  let lifetimeDays ← val values "instance_lifetime_days"
  let lifetimeDays ← Eff.lift (int numerals lifetimeDays)
  let replyDeadlineDays ← val values "instance_reply_deadline_days"
  let replyDeadlineDays ← Eff.lift (int numerals replyDeadlineDays)
  let adminProject ← Eff.lift ((openstackGroup openstack).getattr "system_project")
  return { enabled, lifetimeDays, replyDeadlineDays, adminProject }

/-- `_get_smtp_config`, for some keys. -/
def readSettings : List String → Db (List (String × Value))
  | [] => pure []
  | key :: keys => do
    let value ← val values key
    let rest ← readSettings keys
    return (key, value) :: rest

def getSmtpConfig : Db (List (String × Value)) := readSettings values smtpKeys

/-- `int(cfg["smtp_port"])`. -/
def smtpPort : Db Int := do
  let cfg ← getSmtpConfig values
  let port ← Eff.lift (getitem (cfg.lookup "smtp_port") "smtp_port")
  Eff.lift (int numerals port)

end

/-! ## Requests -/

inductive Request
  | put (profile : Profile) (key : String) (value : Value)
  | delete (profile : Profile) (key : String)

def Request.handle (conf : Extension.Conf) (values : String → Value) : Request → Db SettingResponse
  | .put profile key value => SettingEndpoints.updateSetting values conf profile key value
  | .delete profile key => resetSetting values conf profile key

/-- Requests that are answered with 200, one after the other. -/
def requests (conf : Extension.Conf) (values : String → Value) (rows : Rows) : System Rows Request SettingResponse where
  init := rows
  step rows request :=
    match request.handle conf values rows with
    | (.ok response, after) => some (response, after)
    | (.error _, _) => none

/-- The lifecycle and SMTP settings pass the schemas of their options. -/
def Accepted (isHttpUrl : String → Bool) (values : String → Value) (rows : Rows) : Prop :=
  ∀ opt ∈ settingOpts, opt.name ∈ lifecycleKeys ++ smtpKeys →
    opt.schema.accepts isHttpUrl (effective values rows opt.name) = true

/-- The settings are accepted, and their readers return. -/
structure Usable (isHttpUrl : String → Bool) (numerals : Numerals) (openstack values : String → Value) (rows : Rows) :
    Prop where
  accepted : Accepted isHttpUrl values rows
  lifecycle : ∃ settings, (getLifecycleSettings values openstack numerals rows).1 = .ok settings
  smtp : ∃ port, (smtpPort values numerals rows).1 = .ok port

/-- An update of a lifecycle or SMTP setting carries a value that the option's schema accepts. -/
def Conforms (isHttpUrl : String → Bool) (_ : Rows) : Request → Prop
  | .put _ key value => ∀ opt ∈ settingOpts, opt.name ∈ lifecycleKeys ++ smtpKeys → opt.name = key →
      opt.schema.accepts isHttpUrl value = true
  | .delete _ _ => True

section
variable {isHttpUrl : String → Bool} {numerals : Numerals} {openstack values : String → Value} {rows after : Rows}
  {conf : Extension.Conf} {profile : Profile} {key : String} {value : Value} {response : SettingResponse}

/-! ## What requests do -/

theorem assertSystemAdmin_ok {exception : String}
    (passed : assertSystemAdmin conf profile exception rows = (.ok (), after)) : after = rows := by
  unfold assertSystemAdmin at passed
  split at passed
  · cases passed
    rfl
  · cases passed

theorem assertSettingKeyExist_ok (passed : assertSettingKeyExist values key rows = (.ok (), after)) : after = rows := by
  unfold assertSettingKeyExist at passed
  split at passed
  · cases passed
    rfl
  · cases passed

theorem updateSetting_state (rows : Rows) (key : String) (value : Value) :
    ((Settings.updateSetting key value).run execute rows).2 =
      if rowsOf rows key = [] then (execute (.insert key value) rows).2 else (execute (.update key value) rows).2 := by
  cases found : rowsOf rows key with
  | nil =>
    have none : execute (.select key) rows = (.ok none, rows) := by simp [execute, found]
    rw [Settings.updateSetting, Programs.Program.run_bind, fetchOne, Programs.Program.run_remote, Eff.bind_ok none]
    rfl
  | cons s rest =>
    have some : execute (.select key) rows = (.ok (some s), rows) := by simp [execute, found]
    rw [Settings.updateSetting, Programs.Program.run_bind, fetchOne, Programs.Program.run_remote, Eff.bind_ok some]
    rfl

theorem effective_update (k : String) :
    effective values ((Settings.updateSetting key value).run execute rows).2 k =
      if k = key then value else effective values rows k := by
  rw [updateSetting_state, effective, effective]
  by_cases same : k = key
  · subst same
    rw [if_pos rfl]
    by_cases none : rowsOf rows k = []
    · rw [if_pos none, rowsOf_insert, none]
      simp
    · obtain ⟨s, first, named⟩ := head?_rowsOf none
      rw [if_neg none, rowsOf_update, List.head?_map, first]
      simp [named]
  · rw [if_neg same]
    by_cases none : rowsOf rows key = []
    · rw [if_pos none, rowsOf_insert, if_neg (Ne.symm same), List.append_nil]
    · have others : (rowsOf rows k).map (fun s => if s.key = key then { s with value := value } else s) =
          rowsOf rows k := by
        refine (List.map_congr_left fun s member => ?_).trans (List.map_id _)
        have named : s.key = k := by simpa [rowsOf] using (List.mem_filter.mp member).2
        rw [if_neg (named ▸ same)]
        rfl
      rw [if_neg none, rowsOf_update, others]

theorem effective_delete (k : String) : effective values (execute (.delete key) rows).2 k =
    if k = key then values key else effective values rows k := by
  rw [effective, effective, rowsOf_delete]
  by_cases same : k = key
  · simp [same]
  · rw [if_neg (Ne.symm same), if_neg same]

/-- An update that is answered has stored its value as it came. -/
theorem put_ok (answered : SettingEndpoints.updateSetting values conf profile key value rows = (.ok response, after)) :
    after = ((Settings.updateSetting key value).run execute rows).2 := by
  obtain ⟨_, rows₁, allowed, rest₁⟩ := Eff.of_bind_ok answered
  obtain rfl := assertSystemAdmin_ok allowed
  obtain ⟨_, rows₂, listed, rest₂⟩ := Eff.of_bind_ok rest₁
  obtain rfl := assertSettingKeyExist_ok listed
  obtain ⟨row, rows₃, stored, rest₃⟩ := Eff.of_bind_ok rest₂
  rw [stored]
  cases row with
  | none => cases rest₃
  | some row =>
    cases rest₃
    rfl

theorem delete_ok (answered : resetSetting values conf profile key rows = (.ok response, after)) :
    after = (execute (.delete key) rows).2 := by
  obtain ⟨_, rows₁, allowed, rest₁⟩ := Eff.of_bind_ok answered
  obtain rfl := assertSystemAdmin_ok allowed
  obtain ⟨_, rows₂, listed, rest₂⟩ := Eff.of_bind_ok rest₁
  obtain rfl := assertSettingKeyExist_ok listed
  obtain ⟨_, rows₃, deleted, rest₃⟩ := Eff.of_bind_ok rest₂
  obtain ⟨_, rows₄, read, rest₄⟩ := Eff.of_bind_ok rest₃
  cases rest₄
  rw [deleted]
  exact (Eff.of_lift_ok read).2

theorem handle_accepted (loaded : Loaded isHttpUrl settingOpts values) (accepted : Accepted isHttpUrl values rows)
    {request : Request} (conforms : Conforms isHttpUrl rows request)
    (answered : request.handle conf values rows = (.ok response, after)) : Accepted isHttpUrl values after := by
  intro opt member watched
  cases request with
  | put profile key value =>
    rw [put_ok answered, effective_update]
    split
    · next same => exact conforms opt member watched same
    · exact accepted opt member watched
  | delete profile key =>
    rw [delete_ok answered, effective_delete]
    split
    · next same =>
      rw [← same]
      exact loaded_accepted loaded member
    · exact accepted opt member watched

/-! ## What the readers return -/

theorem val_run (registered : key ∈ settingNames) (rows : Rows) :
    val values key rows = (.ok (effective values rows key), rows) := by
  have read : configured values key rows = (.ok (values key), rows) := by
    simp [configured, setting_getattr, registered]
  have fetched : getSetting key rows = (.ok (rowsOf rows key).head?, rows) := rfl
  rw [val, Eff.bind_ok fetched, effective]
  cases (rowsOf rows key).head? with
  | none => exact read
  | some row => rfl

theorem readSettings_run {keys : List String} (registered : ∀ key ∈ keys, key ∈ settingNames) (rows : Rows) :
    readSettings values keys rows = (.ok (keys.map fun key => (key, effective values rows key)), rows) := by
  induction keys with
  | nil => rfl
  | cons key keys ih =>
    rw [readSettings, Eff.bind_ok (val_run (registered key List.mem_cons_self) rows),
      Eff.bind_ok (ih fun k member => registered k (List.mem_cons_of_mem key member))]
    rfl

variable (numerals) in
theorem strictInt_int (accepted : Schema.accepts isHttpUrl .strictInt value = true) :
    ∃ n, int numerals value = .ok n := by
  cases value with
  | int n => exact ⟨n, rfl⟩
  | _ => cases accepted

variable (numerals openstack) in
/-- Settings that pass their schemas can be read. -/
theorem accepted_usable (accepted : Accepted isHttpUrl values rows) : Usable isHttpUrl numerals openstack values rows := by
  have lifetime := accepted { name := "instance_lifetime_days", schema := .strictInt, default := .int 30 }
    (by simp [settingOpts]) (by decide)
  have deadline := accepted { name := "instance_reply_deadline_days", schema := .strictInt, default := .int 7 }
    (by simp [settingOpts]) (by decide)
  have port := accepted { name := "smtp_port", schema := .strictInt, default := .int 587 }
    (by simp [settingOpts]) (by decide)
  obtain ⟨lifetimeDays, converted₁⟩ := strictInt_int numerals lifetime
  obtain ⟨replyDeadlineDays, converted₂⟩ := strictInt_int numerals deadline
  obtain ⟨n, converted₃⟩ := strictInt_int numerals port
  refine ⟨accepted, ?_, ?_⟩
  · have project : (openstackGroup openstack).getattr "system_project" = .ok (openstack "system_project") := by
      rw [openstack_getattr, if_pos (by decide)]
    refine ⟨⟨effective values rows "instance_lifecycle_enabled", lifetimeDays, replyDeadlineDays,
      openstack "system_project"⟩, ?_⟩
    rw [getLifecycleSettings, Eff.bind_ok (val_run (by decide) rows), Eff.bind_ok (val_run (by decide) rows), converted₁,
      Eff.bind_ok (Eff.lift_run _ _), Eff.bind_ok (val_run (by decide) rows), converted₂,
      Eff.bind_ok (Eff.lift_run _ _), project, Eff.bind_ok (Eff.lift_run _ _)]
    rfl
  · have found : getitem ((smtpKeys.map fun key => (key, effective values rows key)).lookup "smtp_port") "smtp_port" =
        .ok (effective values rows "smtp_port") := rfl
    refine ⟨n, ?_⟩
    rw [smtpPort, getSmtpConfig, Eff.bind_ok (readSettings_run (by decide) rows), found,
      Eff.bind_ok (Eff.lift_run _ _), converted₃]
    rfl

/-- In every run of requests that are answered with 200, each update of which carries a value
    that the schema of its option accepts, the lifecycle and SMTP settings stay usable. -/
theorem settings_usable (isHttpUrl : String → Bool) (numerals : Numerals) (openstack values : String → Value)
    (conf : Extension.Conf) (rows : Rows) (loaded : Loaded isHttpUrl settingOpts values)
    (accepted : Accepted isHttpUrl values rows) (past : List SettingResponse) (after : Rows)
    (run : (requests conf values rows).Run (Conforms isHttpUrl) past after) :
    Usable isHttpUrl numerals openstack values after := by
  refine accepted_usable numerals openstack (run.invariant (I := fun _ rows => Accepted isHttpUrl values rows) accepted ?_)
  intro _ rows request response after inv conforms stepped
  simp only [requests] at stepped
  split at stepped
  · next answered =>
    cases stepped
    exact handle_accepted loaded inv conforms answered
  · cases stepped

end

/-! ## One administrator -/

def administrators : Extension.Conf := ⟨["admin", "system_admin"], ["system_reader"], 604800⟩

def administrator : Profile := { Session.member with roles := [⟨"role", "admin"⟩] }

def noNumerals : Numerals := ⟨fun text => .error (.valueError text), fun text => .error (.valueError text)⟩

/-- An update to sixty days, from the defaults. -/
theorem sixty_days_usable : Usable (fun _ => false) noNumerals (fun _ => .null) defaultSettings
    [⟨"instance_lifetime_days", .int 60⟩] := by
  refine settings_usable (fun _ => false) noNumerals (fun _ => .null) defaultSettings administrators []
    (defaultSettings_loaded _) (fun opt member _ => loaded_accepted (defaultSettings_loaded _) member) _ _
    (.step (a := .put administrator "instance_lifetime_days" (.int 60)) .start ?_ rfl)
  intro opt member _ named
  obtain rfl := Table.eq_of_key (t := ⟨settingOpts, settingNames_nodup⟩) member
    (show { name := "instance_lifetime_days", schema := .strictInt, default := .int 30 } ∈ settingOpts by
      simp [settingOpts]) named
  rfl

/-- An update to null is answered with 200, and no cycle of the scheduler gets further than its settings. -/
theorem null_days_unusable : ¬ ∀ (isHttpUrl : String → Bool) (numerals : Numerals) (openstack values : String → Value)
    (conf : Extension.Conf) (rows : Rows), Loaded isHttpUrl settingOpts values → Accepted isHttpUrl values rows →
      ∀ past after, (requests conf values rows).AnyRun past after →
        Usable isHttpUrl numerals openstack values after := by
  intro always
  have usable := always (fun _ => false) noNumerals (fun _ => .null) defaultSettings administrators []
    (defaultSettings_loaded _) (fun opt member _ => loaded_accepted (defaultSettings_loaded _) member) _ _
    (.step (a := .put administrator "instance_lifetime_days" .null) .start trivial rfl)
  have accepted := usable.accepted { name := "instance_lifetime_days", schema := .strictInt, default := .int 30 }
    (by simp [settingOpts]) (by decide)
  cases accepted

end Skyline.SettingUsability
