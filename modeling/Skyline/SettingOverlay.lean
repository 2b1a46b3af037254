import Skyline.SettingUsability

/-!
What the settings are for: values that administrators put over those of the configuration
file. The table behind them, the statements of an update and the two ways in which settings
are read do not show: over any run of requests, one after the other, the endpoints answer
as a map from keys to overriding values does.
-/
namespace Skyline.SettingOverlay
open Skyline.Python Skyline.Config Skyline.Effects Skyline.Programs Skyline.Runs Skyline.Settings Skyline.SettingEndpoints
open Skyline.Session (Profile)
open Skyline.SettingUsability (administrators administrator)

/-! ## The endpoints -/

inductive Request
  | get (key : String)
  | list
  | update (key : String) (value : Value)
  | reset (key : String)

inductive Response
  | setting (r : SettingResponse)
  | settings (rs : List SettingResponse)

section
variable (values : String → Value) (conf : Extension.Conf)

def serve (profile : Profile) : Request → Db Response
  | .get key => do return .setting (← showSetting values key profile)
  | .list => do return .settings (← listSettings values profile)
  | .update key value => do return .setting (← updateSetting values conf profile key value)
  | .reset key => do return .setting (← resetSetting values conf profile key)

/-- The requests and what they were answered, one after the other. -/
def endpoints (rows : Rows) : System Rows (Profile × Request) ((Profile × Request) × Except Exn Response) where
  init := rows
  step rows a :=
    let (answer, rows') := serve values conf a.1 a.2 rows
    some ((a, answer), rows')

/-! ## The overlay -/

/-- The values that administrators have put over the configured ones. -/
abbrev Overlay : Type := String → Option Value

def Overlay.get (overlay : Overlay) (key : String) : Value := (overlay key).getD (values key)

/-- What is answered about one key. -/
def about (key : String) (value : Value) : Except Exn Response :=
  if key ∈ settingNames then .ok (.setting (respond key value)) else .error (.attributeError key)

/-- Every listed key once, in the order in which the configuration lists them; a key that is
    no option fails the listing. -/
def listing (overlay : Overlay) : Except Exn Response :=
  match (baseSettings values).find? (· ∉ settingNames) with
  | some key => .error (.attributeError key)
  | none => .ok (.settings ((baseSettings values).eraseDups.map fun key => respond key (overlay.get values key)))

/-- What the endpoints are for. -/
def answer (profile : Profile) (overlay : Overlay) : Request → Except Exn Response × Overlay
  | .get key =>
    if key ∈ baseSettings values then (about key (overlay.get values key), overlay)
    else (.error (.httpException 404 "Not a valid setting key."), overlay)
  | .list => (listing values overlay, overlay)
  | .update key value =>
    if ¬ Extension.isSystemAdmin conf profile then (.error (.httpException 403 "Not allowed to update settings."), overlay)
    else if key ∈ baseSettings values then (.ok (.setting (respond key value)), Function.update overlay key (some value))
    else (.error (.httpException 404 "Not a valid setting key."), overlay)
  | .reset key =>
    if ¬ Extension.isSystemAdmin conf profile then (.error (.httpException 403 "Not allowed to reset settings."), overlay)
    else if key ∈ baseSettings values then (about key (values key), Function.update overlay key none)
    else (.error (.httpException 404 "Not a valid setting key."), overlay)

def overlays (overlay : Overlay) : System Overlay (Profile × Request) ((Profile × Request) × Except Exn Response) where
  init := overlay
  step overlay a :=
    let (response, overlay') := answer values conf a.1 overlay a.2
    some ((a, response), overlay')

end

/-- The values of the rows. -/
def overlayOf (rows : Rows) : Overlay := fun key => (rowsOf rows key).head?.map Setting.value

/-! ## Listing -/

section
variable {values : String → Value} {conf : Extension.Conf}

/-- The response about a key as it is configured. -/
abbrev configuredResponse (values : String → Value) (key : String) : SettingResponse := respond key (values key)

theorem setItem_known {done : List String} {key : String} (known : key ∈ done) :
    setItem (done.map (configuredResponse values)) (configuredResponse values key) = done.map (configuredResponse values) := by
  have there : (done.map (configuredResponse values)).any (·.key = (configuredResponse values key).key) = true := by
    rw [List.any_map, List.any_eq_true]
    exact ⟨key, known, by simp [respond]⟩
  rw [setItem, if_pos there, List.map_map]
  refine List.map_congr_left fun k _ => ?_
  by_cases same : k = key
  · simp [same]
  · simp [respond, same]

theorem setItem_new {done : List String} {key : String} (new : key ∉ done) :
    setItem (done.map (configuredResponse values)) (configuredResponse values key) =
      (done ++ [key]).map (configuredResponse values) := by
  have absent : ¬ (done.map (configuredResponse values)).any (·.key = (configuredResponse values key).key) = true := by
    rw [List.any_map, List.any_eq_true]
    rintro ⟨k, member, same⟩
    have same : k = key := by simpa [respond] using same
    exact new (same ▸ member)
  rw [setItem, if_neg absent, List.map_append]
  rfl

/-- The dictionary of the configured settings, where some of the keys have been put in. -/
theorem configuredSettings_from (keys done : List String) :
    configuredSettings values keys (done.map (configuredResponse values)) =
      match keys.find? (· ∉ settingNames) with
      | some key => .error (.attributeError key)
      | none => .ok ((done ++ (keys.filter (· ∉ done)).eraseDups).map (configuredResponse values)) := by
  induction keys generalizing done with
  | nil => simp [configuredSettings]
  | cons key keys ih =>
    rw [configuredSettings, setting_getattr]
    by_cases registered : key ∈ settingNames
    · rw [if_pos registered, List.find?_cons_of_neg (by simpa using registered)]
      show configuredSettings values keys (setItem _ (configuredResponse values key)) = _
      by_cases known : key ∈ done
      · rw [setItem_known known, ih, List.filter_cons_of_neg (by simpa using known)]
      · rw [setItem_new known, ih, List.filter_cons_of_pos (by simpa using known), List.eraseDups_cons, List.filter_filter]
        have rest : (keys.filter fun k => decide (k ∉ done ++ [key])) =
            keys.filter fun k => (!k == key) && decide (k ∉ done) := by
          refine List.filter_congr fun k _ => ?_
          by_cases same : k = key
          · simp [same]
          · simp [same]
        rw [rest, List.append_assoc]
        rfl
    · rw [if_neg registered, List.find?_cons_of_pos (by simpa using registered)]
      rfl

/-- What the rows make of the responses: the last row of a key gives its value. -/
theorem setValue_rows {listed : List String} {rows : Rows} {settings : List SettingResponse}
    (all : ∀ s ∈ settings, s.key ∈ listed) :
    rows.foldl (fun settings item => if item.key ∈ listed then setValue settings item else settings) settings =
      settings.map fun s => { s with value := ((rowsOf rows s.key).getLast?.map Setting.value).getD s.value } := by
  induction rows generalizing settings with
  | nil => simp [rowsOf]
  | cons r rows ih =>
    have step : (if r.key ∈ listed then setValue settings r else settings) =
        settings.map fun s => if s.key = r.key then { s with value := r.value } else s := by
      by_cases known : r.key ∈ listed
      · rw [if_pos known]
        rfl
      · rw [if_neg known]
        refine (List.map_id settings).symm.trans (List.map_congr_left fun s member => ?_)
        rw [if_neg fun same : s.key = r.key => known (same ▸ all s member)]
        rfl
    rw [List.foldl_cons, step, ih, List.map_map]
    · refine List.map_congr_left fun s _ => ?_
      by_cases same : s.key = r.key
      · simp [rowsOf, same, List.getLast?_cons]
      · simp [rowsOf, same, Ne.symm same]
    · intro s member
      obtain ⟨old, there, rfl⟩ := List.mem_map.mp member
      split
      · exact all old there
      · exact all old there

theorem getLast?_single {rows : Rows} (single : Single rows) (key : String) :
    (rowsOf rows key).getLast? = (rowsOf rows key).head? := by
  have few := single key
  cases here : rowsOf rows key with
  | nil => rfl
  | cons r others =>
    rw [here, List.length_cons] at few
    have alone : others = [] := List.eq_nil_of_length_eq_zero (by omega)
    rw [alone]
    rfl

/-- The listing shows for each key what is shown for the key alone. -/
theorem listSettings_overlay {rows : Rows} (single : Single rows) (profile : Profile) :
    serve values conf profile .list rows = (listing values (overlayOf rows), rows) := by
  have configured : configuredSettings values (baseSettings values) [] = _ := configuredSettings_from (baseSettings values) []
  simp only [List.not_mem_nil, not_false_eq_true, decide_true, List.filter_true, List.nil_append] at configured
  rw [serve, listSettings, listing, Eff.bind_run, Eff.bind_run, Eff.lift_run, configured]
  cases (baseSettings values).find? (· ∉ settingNames) with
  | some key => rfl
  | none =>
    have shown : (baseSettings values).eraseDups.map (fun key => respond key ((overlayOf rows).get values key)) =
        rows.foldl (fun settings item => if item.key ∈ baseSettings values then setValue settings item else settings)
          ((baseSettings values).eraseDups.map (configuredResponse values)) := by
      rw [setValue_rows, List.map_map]
      · refine List.map_congr_left fun key _ => ?_
        have same : (rowsOf rows key).getLast? = (rowsOf rows key).head? := getLast?_single single key
        simp only [Function.comp_apply, respond, Overlay.get, overlayOf, same]
      · intro s member
        obtain ⟨key, there, rfl⟩ := List.mem_map.mp member
        exact List.mem_eraseDups.mp there
    rw [shown]
    rfl

end

/-! ## The other requests -/

section
variable {values : String → Value} {conf : Extension.Conf} {profile : Profile} {rows rows' : Rows} {key : String}
  {value : Value}

/-- A table with the rows of another one, those of one key apart. -/
def Changed (rows rows' : Rows) (key : String) (others : Rows) : Prop :=
  ∀ k, rowsOf rows' k = if k = key then others else rowsOf rows k

theorem Changed.single {others : Rows} (changed : Changed rows rows' key others) (few : others.length ≤ 1)
    (single : Single rows) : Single rows' := by
  intro k
  rw [changed k]
  split
  · exact few
  · exact single k

theorem Changed.overlay {others : Rows} (changed : Changed rows rows' key others) :
    overlayOf rows' = Function.update (overlayOf rows) key (others.head?.map Setting.value) := by
  funext k
  rw [overlayOf, changed k]
  by_cases same : k = key
  · rw [if_pos same, same, Function.update_self]
  · rw [if_neg same, Function.update_of_ne same]
    rfl

/-- The row of a key is inserted or updated, and comes back. -/
theorem updateSetting_stores (single : Single rows) (key : String) (value : Value) :
    ∃ rows', (Settings.updateSetting key value).run execute rows = (.ok (some ⟨key, value⟩), rows') ∧
      Changed rows rows' key [⟨key, value⟩] := by
  have few := single key
  cases found : rowsOf rows key with
  | nil =>
    have none : execute (.select key) rows = (.ok none, rows) := by simp [execute, found]
    have stored : Changed rows (execute (.insert key value) rows).2 key [⟨key, value⟩] := by
      intro k
      rw [rowsOf_insert]
      by_cases same : k = key
      · simp [same, found]
      · simp [same, Ne.symm same]
    refine ⟨(execute (.insert key value) rows).2, ?_, stored⟩
    rw [Settings.updateSetting, Programs.Program.run_bind, fetchOne, Programs.Program.run_remote, Eff.bind_ok none]
    show (Except.ok (rowsOf (execute (.insert key value) rows).2 key).head?, _) = _
    rw [stored key, if_pos rfl]
    rfl
  | cons s rest =>
    rw [found, List.length_cons] at few
    obtain rfl : rest = [] := List.eq_nil_of_length_eq_zero (by omega)
    have named : s.key = key := by
      have member : s ∈ rowsOf rows key := by rw [found]; exact List.mem_cons_self
      simpa [rowsOf] using (List.mem_filter.mp member).2
    have some : execute (.select key) rows = (.ok (some s), rows) := by simp [execute, found]
    have stored : Changed rows (execute (.update key value) rows).2 key [⟨key, value⟩] := by
      intro k
      rw [rowsOf_update]
      by_cases same : k = key
      · rw [same, found, if_pos rfl]
        simp [named]
      · rw [if_neg same]
        refine (List.map_congr_left fun r member => ?_).trans (List.map_id _)
        have other : r.key = k := by simpa [rowsOf] using (List.mem_filter.mp member).2
        rw [if_neg (other ▸ same)]
        rfl
    refine ⟨(execute (.update key value) rows).2, ?_, stored⟩
    rw [Settings.updateSetting, Programs.Program.run_bind, fetchOne, Programs.Program.run_remote, Eff.bind_ok some]
    show (Except.ok (rowsOf (execute (.update key value) rows).2 key).head?, _) = _
    rw [stored key, if_pos rfl]
    rfl

theorem admin_run (exception : String) : assertSystemAdmin conf profile exception rows =
    if Extension.isSystemAdmin conf profile then (.ok (), rows) else (.error (.httpException 403 exception), rows) := by
  unfold assertSystemAdmin
  split <;> rfl

theorem exist_run : assertSettingKeyExist values key rows =
    if key ∈ baseSettings values then (.ok (), rows)
    else (.error (.httpException 404 "Not a valid setting key."), rows) := by
  unfold assertSettingKeyExist
  split <;> rfl

theorem configured_run : configured values key rows =
    (if key ∈ settingNames then .ok (values key) else .error (.attributeError key), rows) := by
  rw [configured, Eff.lift_run, setting_getattr]

variable (values conf) in
/-- A request is answered as the overlay answers it, and leaves a table that stands for what
    it leaves of the overlay. -/
theorem serve_answers (single : Single rows) (profile : Profile) (request : Request) :
    Single (serve values conf profile request rows).2 ∧ answer values conf profile (overlayOf rows) request =
      ((serve values conf profile request rows).1, overlayOf (serve values conf profile request rows).2) := by
  cases request with
  | get key =>
    have served : serve values conf profile (.get key) rows = ((answer values conf profile (overlayOf rows) (.get key)).1, rows) := by
      simp only [serve, showSetting, answer, Eff.bind_run, exist_run]
      by_cases listed : key ∈ baseSettings values
      · simp only [if_pos listed, configured_run, about]
        by_cases registered : key ∈ settingNames
        · simp only [if_pos registered]
          rfl
        · simp only [if_neg registered]
      · simp only [if_neg listed]
    rw [served]
    refine ⟨single, ?_⟩
    simp only [answer]
    split <;> rfl
  | list =>
    rw [listSettings_overlay single]
    exact ⟨single, rfl⟩
  | update key value =>
    obtain ⟨rows', stored, changed⟩ := updateSetting_stores single key value
    by_cases admin : Extension.isSystemAdmin conf profile = true
    · by_cases listed : key ∈ baseSettings values
      · have served : serve values conf profile (.update key value) rows = (.ok (.setting (respond key value)), rows') := by
          simp [serve, SettingEndpoints.updateSetting, Eff.bind_run, admin_run, exist_run, admin, listed, stored]
        rw [served]
        refine ⟨changed.single (Nat.le_refl 1) single, ?_⟩
        rw [changed.overlay]
        simp [answer, admin, listed]
      · have served : serve values conf profile (.update key value) rows =
            (.error (.httpException 404 "Not a valid setting key."), rows) := by
          simp [serve, SettingEndpoints.updateSetting, Eff.bind_run, admin_run, exist_run, admin, listed]
        rw [served]
        exact ⟨single, by simp [answer, admin, listed]⟩
    · have served : serve values conf profile (.update key value) rows =
          (.error (.httpException 403 "Not allowed to update settings."), rows) := by
        simp [serve, SettingEndpoints.updateSetting, Eff.bind_run, admin_run, admin]
      rw [served]
      exact ⟨single, by simp [answer, admin]⟩
  | reset key =>
    have changed : Changed rows (execute (.delete key) rows).2 key [] := by
      intro k
      rw [rowsOf_delete]
      by_cases same : k = key
      · rw [if_pos same, if_pos same.symm]
      · rw [if_neg same, if_neg (Ne.symm same)]
    by_cases admin : Extension.isSystemAdmin conf profile = true
    · by_cases listed : key ∈ baseSettings values
      · have served : serve values conf profile (.reset key) rows = (about key (values key), (execute (.delete key) rows).2) := by
          by_cases registered : key ∈ settingNames
          · simp [serve, resetSetting, Eff.bind_run, admin_run, exist_run, configured_run, about, admin, listed, registered]
            rfl
          · simp [serve, resetSetting, Eff.bind_run, admin_run, exist_run, configured_run, about, admin, listed, registered]
            rfl
        rw [served]
        refine ⟨changed.single (Nat.zero_le 1) single, ?_⟩
        rw [changed.overlay]
        simp [answer, admin, listed]
      · have served : serve values conf profile (.reset key) rows =
            (.error (.httpException 404 "Not a valid setting key."), rows) := by
          simp [serve, resetSetting, Eff.bind_run, admin_run, exist_run, admin, listed]
        rw [served]
        exact ⟨single, by simp [answer, admin, listed]⟩
    · have served : serve values conf profile (.reset key) rows =
          (.error (.httpException 403 "Not allowed to reset settings."), rows) := by
        simp [serve, resetSetting, Eff.bind_run, admin_run, admin]
      rw [served]
      exact ⟨single, by simp [answer, admin]⟩

end

/-- Over any run of requests of administrators and others, one after the other, from a table
    with a row at most for each key, the endpoints answer as the overlay that the table
    stands for, and the table they leave stands for what they leave of it. -/
theorem endpoints_overlay (values : String → Value) (conf : Extension.Conf) (rows : Rows) (single : Single rows)
    (past : List ((Profile × Request) × Except Exn Response)) (left : Rows)
    (run : (endpoints values conf rows).AnyRun past left) :
    (overlays values conf (overlayOf rows)).AnyRun past (overlayOf left) ∧ Single left := by
  have stepwise : ∀ (s : Rows) (overlay : Overlay) (a : Profile × Request) (e : (Profile × Request) × Except Exn Response)
      (s' : Rows), Single s ∧ overlay = overlayOf s → (endpoints values conf rows).step s a = some (e, s') →
        ∃ overlay', (overlays values conf (overlayOf rows)).step overlay a = some (e, overlay') ∧
          Single s' ∧ overlay' = overlayOf s' := by
    rintro s _ ⟨profile, request⟩ e s' ⟨single, rfl⟩ stepped
    obtain ⟨unique, same⟩ := serve_answers values conf single profile request
    rcases served : serve values conf profile request s with ⟨response, after⟩
    rw [served] at unique same
    simp only [endpoints, served] at stepped
    cases stepped
    exact ⟨overlayOf s', by simp only [overlays, same], unique, rfl⟩
  obtain ⟨overlay, follows, unique, rfl⟩ := System.Run.refines (R := fun s overlay => Single s ∧ overlay = overlayOf s)
    ⟨single, rfl⟩ stepwise run
  exact ⟨follows, unique⟩

/-- An administrator, whose update is stored, and a member, whose update is not. -/
theorem stored_once : ∃ past left, (endpoints defaultSettings administrators []).AnyRun past left ∧ left.length = 1 ∧
    (overlays defaultSettings administrators (overlayOf [])).AnyRun past (overlayOf left) ∧ Single left := by
  obtain ⟨past, left, run, stored⟩ := (endpoints defaultSettings administrators []).exec_reaches (fun _ _ => True)
    (P := fun left => left.length = 1) [(administrator, .update "gpu_models" (.list [])),
      (Session.member, .update "usb_models" (.list [])), (Session.member, .list)] (by decide)
  exact ⟨past, left, run, stored,
    endpoints_overlay defaultSettings administrators [] (fun _ => Nat.zero_le 1) past left run⟩

end Skyline.SettingOverlay
