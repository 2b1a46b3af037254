import Skyline.SettingEndpoints

/-!
What the settings endpoints tell about hidden settings. A response says of its key that it
is hidden, and gives the value beside it, so a setting is secret just where `base_settings`
does not list it.
-/
namespace Skyline.SettingSecrecy
open Skyline.Python Skyline.Config Skyline.Effects Skyline.Settings Skyline.SettingEndpoints
open Skyline.Session (Profile)

/-- The configuration and the settings table. -/
structure State where
  values : String → Value
  rows : Rows

/-- The rows of keys that are not hidden. -/
def publicRows (rows : Rows) : Rows := rows.filter fun r => r.key ∉ settingsHiddenSet

/-- Two states that differ at most in the values of hidden keys. -/
structure SameButHidden (s s' : State) : Prop where
  values : ∀ key, key ∉ settingsHiddenSet → s'.values key = s.values key
  rows : publicRows s'.rows = publicRows s.rows

/-- No reader of settings tells a state from one that differs in the hidden keys. -/
structure Secret (s : State) : Prop where
  setting : ∀ s', SameButHidden s s' → ∀ key profile,
    (showSetting s'.values key profile s'.rows).1 = (showSetting s.values key profile s.rows).1
  settings : ∀ s', SameButHidden s s' → ∀ profile,
    (listSettings s'.values profile s'.rows).1 = (listSettings s.values profile s.rows).1

section
variable {s s' : State} {key : String}

theorem rowsOf_publicRows (rows : Rows) (visible : key ∉ settingsHiddenSet) :
    rowsOf (publicRows rows) key = rowsOf rows key := by
  rw [rowsOf, publicRows, List.filter_filter]
  refine List.filter_congr fun r _ => ?_
  by_cases same : r.key = key
  · simp [same, visible]
  · simp [same]

theorem rowsOf_hidden (rows : Rows) (hidden : key ∈ settingsHiddenSet) : rowsOf (publicRows rows) key = [] := by
  rw [rowsOf, List.filter_eq_nil_iff]
  intro r member same
  have visible := (List.mem_filter.mp member).2
  rw [decide_eq_true_iff] at same visible
  exact visible (same ▸ hidden)

theorem effective_same (same : SameButHidden s s') (visible : key ∉ settingsHiddenSet) :
    effective s'.values s'.rows key = effective s.values s.rows key := by
  rw [effective, effective, ← rowsOf_publicRows s'.rows visible, same.rows, rowsOf_publicRows s.rows visible,
    same.values key visible]

theorem baseSettings_same (same : SameButHidden s s') : baseSettings s'.values = baseSettings s.values := by
  rw [baseSettings, baseSettings, same.values "base_settings" (by decide)]

theorem configuredSettings_congr {values values' : String → Value} {keys : List String}
    (same : ∀ key ∈ keys, values' key = values key) (settings : List SettingResponse) :
    configuredSettings values' keys settings = configuredSettings values keys settings := by
  induction keys generalizing settings with
  | nil => rfl
  | cons key keys ih =>
    have read : (settingGroup values').getattr key = (settingGroup values).getattr key := by
      rw [setting_getattr, setting_getattr, same key List.mem_cons_self]
    rw [configuredSettings, configuredSettings, read]
    cases (settingGroup values).getattr key with
    | error e => rfl
    | ok value =>
      exact ih (fun k member => same k (List.mem_cons_of_mem key member)) _

/-- Rows of keys that are not listed leave the listing as it is. -/
theorem foldl_publicRows {listed : List String} (unlisted : ∀ key ∈ settingsHiddenSet, key ∉ listed) (rows : Rows)
    (settings : List SettingResponse) :
    (publicRows rows).foldl (fun settings item => if item.key ∈ listed then setValue settings item else settings)
        settings =
      rows.foldl (fun settings item => if item.key ∈ listed then setValue settings item else settings) settings := by
  induction rows generalizing settings with
  | nil => rfl
  | cons r rows ih =>
    by_cases hidden : r.key ∈ settingsHiddenSet
    · rw [publicRows, List.filter_cons_of_neg (by simpa using hidden), List.foldl_cons, if_neg (unlisted r.key hidden)]
      exact ih settings
    · rw [publicRows, List.filter_cons_of_pos (by simpa using hidden), List.foldl_cons, List.foldl_cons]
      exact ih _

theorem listSettings_result (values : String → Value) (profile : Profile) (rows : Rows) :
    (listSettings values profile rows).1 = (configuredSettings values (baseSettings values) []).map fun settings =>
      rows.foldl (fun settings item => if item.key ∈ baseSettings values then setValue settings item else settings)
        settings := by
  rw [listSettings, Eff.bind_run, Eff.lift_run]
  cases configuredSettings values (baseSettings values) [] with
  | error e => rfl
  | ok settings => rfl

/-- A text that is not the value. -/
def other : Value → Value
  | .str text => .str (text ++ "'")
  | _ => .str ""

theorem other_ne (value : Value) : other value ≠ value := by
  cases value with
  | str text =>
    intro same
    have longer := congrArg String.length (Value.str.inj same)
    simp at longer
  | _ =>
    intro same
    cases same

/-- The hidden settings are secret iff none of them is listed in `base_settings`. -/
theorem settings_secret_iff (s : State) : Secret s ↔ ∀ key ∈ settingsHiddenSet, key ∉ baseSettings s.values := by
  constructor
  · intro secret key hidden listed
    let changed : State := ⟨s.values, publicRows s.rows ++ [⟨key, other (effective s.values s.rows key)⟩]⟩
    have same : SameButHidden s changed := by
      refine ⟨fun _ _ => rfl, ?_⟩
      simp [changed, publicRows, hidden]
    have registered : key ∈ settingNames := by
      obtain rfl : key = "smtp_password" := List.mem_singleton.mp hidden
      decide
    have here : effective changed.values changed.rows key = other (effective s.values s.rows key) := by
      have rows : rowsOf changed.rows key = [⟨key, other (effective s.values s.rows key)⟩] := by
        show rowsOf (publicRows s.rows ++ _) key = _
        rw [rowsOf, List.filter_append]
        show rowsOf (publicRows s.rows) key ++ _ = _
        rw [rowsOf_hidden s.rows hidden]
        simp
      rw [effective, rows]
      rfl
    have shown := secret.setting changed same key Session.member
    rw [showSetting_listed listed, showSetting_listed listed, if_pos registered, if_pos registered, here] at shown
    exact other_ne _ (congrArg SettingResponse.value (Except.ok.inj shown))
  · intro unlisted
    refine ⟨fun s' same key profile => ?_, fun s' same profile => ?_⟩
    · have base := baseSettings_same same
      by_cases listed : key ∈ baseSettings s.values
      · have visible : key ∉ settingsHiddenSet := fun hidden => unlisted key hidden listed
        rw [showSetting_listed (base ▸ listed), showSetting_listed listed, effective_same same visible]
      · rw [showSetting_unlisted (base ▸ listed), showSetting_unlisted listed]
    · have visible : ∀ key ∈ baseSettings s.values, s'.values key = s.values key :=
        fun key listed => same.values key fun hidden => unlisted key hidden listed
      rw [listSettings_result, listSettings_result, baseSettings_same same, configuredSettings_congr visible]
      congr 1
      funext settings
      rw [← foldl_publicRows unlisted s'.rows, ← foldl_publicRows unlisted s.rows, same.rows]

end

/-- The settings as they are configured, with a password for the mail server. -/
def withPassword (password : String) : State where
  values key := if key = "base_settings" then .list [.str "smtp_host", .str "smtp_password"] else .str ""
  rows := [⟨"smtp_password", .str password⟩]

/-- Whoever is logged in is shown the password of the mail server. -/
theorem password_shown : ¬ ∀ s s' : State, SameButHidden s s' →
    (∀ key profile, (showSetting s'.values key profile s'.rows).1 = (showSetting s.values key profile s.rows).1) ∧
      ∀ profile, (listSettings s'.values profile s'.rows).1 = (listSettings s.values profile s.rows).1 := by
  intro always
  have same : SameButHidden (withPassword "secret") (withPassword "changed") := ⟨fun _ _ => rfl, rfl⟩
  have shown := (always _ _ same).1 "smtp_password" Session.member
  have listed : ∀ password, "smtp_password" ∈ baseSettings (withPassword password).values :=
    fun _ => List.mem_cons_of_mem _ List.mem_cons_self
  rw [showSetting_listed (listed _), showSetting_listed (listed _), if_pos (by decide), if_pos (by decide)] at shown
  have texts : Value.str "changed" = Value.str "secret" := congrArg SettingResponse.value (Except.ok.inj shown)
  exact absurd (Value.str.inj texts) (by decide)

end Skyline.SettingSecrecy
