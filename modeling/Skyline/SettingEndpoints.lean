import Skyline.Config
import Skyline.Extension
import Skyline.Settings

/-!
The endpoints of the settings (`api/v1/setting.py`). A setting has the value of its row in
the settings table, or else the value that the configuration file gave its option, and
`base_settings` says which keys there are. Reading is open to everybody who is logged in,
writing to administrators. An update is stored as it came: the schema of the option is
looked at only where the configuration file is loaded.
-/
namespace Skyline.SettingEndpoints
open Skyline.Python Skyline.Config Skyline.Effects Skyline.Settings
open Skyline.Session (Profile)

/-- The settings table, row by row. -/
abbrev Rows := List (Setting Value)

abbrev Db := Eff Rows Exn

/-- `constants.SETTINGS_HIDDEN_SET`. -/
def settingsHiddenSet : List String := ["smtp_password"]

/-- `constants.SETTINGS_RESTART_SET`. -/
def settingsRestartSet : List String := []

/-- `schemas.Setting`. -/
structure SettingResponse where
  key : String
  value : Value
  hidden : Option Bool
  restartService : Bool

/-- The response about a key with a value. -/
def respond (key : String) (value : Value) : SettingResponse where
  key := key
  value := value
  hidden := some (key ∈ settingsHiddenSet)
  restartService := key ∈ settingsRestartSet

def asStr : Value → Option String
  | .str s => some s
  | _ => none

/-- `CONF.setting.base_settings`, which its schema makes a list of strings. -/
def baseSettings (values : String → Value) : List String :=
  match values "base_settings" with
  | .list items => items.filterMap asStr
  | _ => []

section
variable (values : String → Value)

/-- `getattr(CONF.setting, key)`. -/
def configured (key : String) : Db Value := Eff.lift ((settingGroup values).getattr key)

def assertSettingKeyExist (key : String) : Db Unit :=
  if key ∈ baseSettings values then pure () else Eff.raise (.httpException 404 "Not a valid setting key.")

/-- `db_api.get_setting`. -/
def getSetting (key : String) : Db (Option (Setting Value)) := execute (.select key)

def showSetting (key : String) (_profile : Profile) : Db SettingResponse := do
  assertSettingKeyExist values key
  let value ← configured values key
  let dbSetting ← getSetting key
  return respond key ((dbSetting.map Setting.value).getD value)

/-- `settings[r.key] = r` in a dictionary, whose order is that of the first assignments. -/
def setItem (settings : List SettingResponse) (r : SettingResponse) : List SettingResponse :=
  if settings.any (·.key = r.key) then settings.map (fun s => if s.key = r.key then r else s) else settings ++ [r]

/-- The configured settings, each key once. -/
def configuredSettings : List String → List SettingResponse → Except Exn (List SettingResponse)
  | [], settings => .ok settings
  | key :: keys, settings => do
    let value ← (settingGroup values).getattr key
    configuredSettings keys (setItem settings (respond key value))

/-- `settings[item.key].value = item.value`. -/
def setValue (settings : List SettingResponse) (item : Setting Value) : List SettingResponse :=
  settings.map fun s => if s.key = item.key then { s with value := item.value } else s

def listSettings (_profile : Profile) : Db (List SettingResponse) := do
  let settings ← Eff.lift (configuredSettings values (baseSettings values) [])
  let dbSettings ← Eff.gets id
  return dbSettings.foldl
    (fun settings item => if item.key ∈ baseSettings values then setValue settings item else settings) settings

variable (conf : Extension.Conf) (profile : Profile)

def assertSystemAdmin (exception : String) : Db Unit :=
  if Extension.isSystemAdmin conf profile then pure () else Eff.raise (.httpException 403 exception)

/-- `PUT /setting`. The row is there once `update_setting` of the database has returned it. -/
def updateSetting (key : String) (value : Value) : Db SettingResponse := do
  assertSystemAdmin conf profile "Not allowed to update settings."
  assertSettingKeyExist values key
  let dbSetting ← (Settings.updateSetting key value).run execute
  match dbSetting with
  | some row => return respond key row.value
  | none => Eff.raise (.attributeError "value")

/-- `DELETE /setting/{key}`. -/
def resetSetting (key : String) : Db SettingResponse := do
  assertSystemAdmin conf profile "Not allowed to reset settings."
  assertSettingKeyExist values key
  let _ ← execute (.delete key)
  let value ← configured values key
  return respond key value

end

/-- The value of a setting: that of its first row, or else the configured one. -/
def effective (values : String → Value) (rows : Rows) (key : String) : Value :=
  (((rowsOf rows key).head?).map Setting.value).getD (values key)

section
variable {values : String → Value} {rows : Rows} {key : String} {profile : Profile}

theorem showSetting_unlisted (unlisted : key ∉ baseSettings values) :
    (showSetting values key profile rows).1 = .error (.httpException 404 "Not a valid setting key.") := by
  simp [showSetting, assertSettingKeyExist, unlisted, Eff.bind_run, Eff.raise]

theorem showSetting_listed (listed : key ∈ baseSettings values) : (showSetting values key profile rows).1 =
    if key ∈ settingNames then .ok (respond key (effective values rows key)) else .error (.attributeError key) := by
  have there : assertSettingKeyExist values key rows = (.ok (), rows) := by simp [assertSettingKeyExist, listed]
  rw [showSetting, Eff.bind_ok there]
  by_cases registered : key ∈ settingNames
  · have read : configured values key rows = (.ok (values key), rows) := by
      simp [configured, setting_getattr, registered]
    rw [Eff.bind_ok read, if_pos registered]
    rfl
  · have read : configured values key rows = (.error (.attributeError key), rows) := by
      simp [configured, setting_getattr, registered]
    rw [Eff.bind_error read, if_neg registered]

end
end Skyline.SettingEndpoints
