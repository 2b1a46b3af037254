import Skyline.Config
import Skyline.Extension

/-!
Reading the configuration file (`Configuration.setup` of `config/base.py`). An option has the
value that the file gives it, and its default where the file gives none. A file may leave a
value, a whole section or everything out; but a section that is there and empty, and an empty
file, are null and not mappings, and the lookup does not get past them.
-/
namespace Skyline.ConfigFile
open Skyline.Config Skyline.Effects Skyline.Python Skyline.Tables
open Skyline.Extension (dictGet)

/-! ## The code -/

/-- `v.get(key, default)`, which only mappings have. -/
def get (v : Value) (key : String) (default : Value) : Except Exn Value :=
  match v with
  | .dict items => .ok ((dictGet items key).getD default)
  | _ => .error (.attributeError "get")

/-- `Configuration`: the map from the names of groups to groups, in the order it is gone through. -/
abbrev Configuration := Table Group Group.name

/-- The values of the options, by their group and their name. -/
abbrev Values := String → String → Value

def Values.set (values : Values) (group name : String) (v : Value) : Values := fun g n =>
  if g = group ∧ n = name then v else values g n

/-- A group with the values of its options. -/
def loaded (values : Values) (group : Group) : Group where
  name := group.name
  opts := {
    rows := group.opts.rows.map fun opt => { opt with value := values group.name opt.name }
    unique := by simpa [Function.comp_def] using group.opts.unique }

/-- `self.config.get(group.name, {}).get(opt.name)`. -/
def lookup (config : Value) (group name : String) : Except Exn Value := do
  let entries ← get config group (.dict [])
  get entries name .null

/-- The pass of the loop over one option. -/
def loadOpt (isHttpUrl : String → Bool) (config : Value) (group : Group) (opt : Opt) : Eff Values Exn Unit := do
  let value ← .lift (lookup config group.name opt.name)
  let loaded ← .lift (opt.load isHttpUrl value)
  .modify fun values => values.set group.name opt.name loaded.value

/-- `Configuration.setup`, once the file has been found and parsed. -/
def setup (isHttpUrl : String → Bool) (groups : Configuration) (config : Value) : Eff Values Exn Unit :=
  Eff.forEach groups.rows fun group => Eff.forEach group.opts.rows (loadOpt isHttpUrl config group)

/-! ## What a file means -/

/-- A value that is not null. -/
def present : Value → Option Value
  | .null => none
  | v => some v

/-- What the file gives an option: nothing, where the document, the section or the value is
    absent or null. -/
def given (config : Value) (group name : String) : Option Value :=
  match config with
  | .dict sections => match dictGet sections group with
    | some (.dict entries) => (dictGet entries name).bind present
    | _ => none
  | _ => none

/-- File over default. -/
def meant (config : Value) (group : Group) (opt : Opt) : Value := (given config group.name opt.name).getD opt.default

/-- A file that parses to null or to a mapping, with a section for a group that is null or a
    mapping, if there is one. -/
def WellShaped (groups : Configuration) (config : Value) : Prop :=
  config = .null ∨ ∃ sections, config = .dict sections ∧ ∀ group ∈ groups, ∀ entries,
    dictGet sections group.name = some entries → entries = .null ∨ ∃ values, entries = .dict values

/-- The document is null, or the section of the group is. -/
def Emptied (config : Value) (group : Group) : Prop :=
  config = .null ∨ ∃ sections, config = .dict sections ∧ dictGet sections group.name = some .null

/-- Some option would get a value that fails its schema. -/
def Fails (isHttpUrl : String → Bool) (groups : Configuration) (config : Value) : Prop :=
  ∃ group ∈ groups, ∃ opt ∈ group.opts, opt.schema.accepts isHttpUrl (meant config group opt) = false

/-- What setting up should come to: an exception where a value fails its schema, and only
    there; and otherwise the value of each option. -/
structure SetUp (isHttpUrl : String → Bool) (groups : Configuration) (config : Value) (r : Except Exn Unit)
    (values : Values) : Prop where
  raises : (∃ e, r = .error e) ↔ Fails isHttpUrl groups config
  gives : r = .ok () → ∀ group ∈ groups, ∀ opt ∈ group.opts,
    (loaded values group).getattr opt.name = .ok (meant config group opt)

/-! ## Looking up -/

variable {isHttpUrl : String → Bool} {groups : Configuration} {config : Value} {group : Group} {opt : Opt}

theorem lookup_emptied (emptied : Emptied config group) (name : String) :
    lookup config group.name name = .error (.attributeError "get") := by
  rcases emptied with rfl | ⟨sections, rfl, null⟩
  · rfl
  · rw [lookup, get, null]
    rfl

/-- A lookup that does not fail gives what the file gives, or null. -/
theorem lookup_present (shaped : WellShaped groups config) (member : group ∈ groups) (there : ¬ Emptied config group)
    (name : String) :
    ∃ value, lookup config group.name name = .ok value ∧ present value = given config group.name name := by
  rcases shaped with rfl | ⟨sections, rfl, each⟩
  · exact absurd (.inl rfl) there
  · rw [lookup, get, given]
    cases found : dictGet sections group.name with
    | none => exact ⟨.null, rfl, rfl⟩
    | some entries =>
      rcases each group member entries found with rfl | ⟨values, rfl⟩
      · exact absurd (.inr ⟨sections, rfl, found⟩) there
      · refine ⟨(dictGet values name).getD .null, rfl, ?_⟩
        dsimp only
        cases dictGet values name with
        | none => rfl
        | some v => rfl

theorem load_eq (opt : Opt) (value : Value) : opt.load isHttpUrl value =
    if opt.schema.accepts isHttpUrl ((present value).getD opt.default) then
      .ok { opt with value := (present value).getD opt.default }
    else .error (.valueError opt.name) := by
  cases value with
  | null => rfl
  | _ => rfl

/-! ## Loading -/

/-- Whether the pass over an option raises. -/
def raises (isHttpUrl : String → Bool) (config : Value) (group : Group) (opt : Opt) : Bool :=
  match lookup config group.name opt.name >>= opt.load isHttpUrl with
  | .ok _ => false
  | .error _ => true

theorem loadOpt_ok_iff (group : Group) (opt : Opt) (values : Values) :
    (loadOpt isHttpUrl config group opt values).1 = .ok () ↔ raises isHttpUrl config group opt = false := by
  rw [loadOpt, raises, Eff.bind_run, Eff.lift_run]
  cases lookup config group.name opt.name with
  | error e => exact ⟨nofun, nofun⟩
  | ok value =>
    show (((Eff.lift (opt.load isHttpUrl value) : Eff Values Exn Opt) >>= _) values).1 = _ ↔
      (match opt.load isHttpUrl value with | .ok _ => false | .error _ => true) = false
    rw [Eff.bind_run, Eff.lift_run]
    cases opt.load isHttpUrl value with
    | error e => exact ⟨nofun, nofun⟩
    | ok loaded => exact ⟨fun _ => rfl, fun _ => rfl⟩

theorem loadGroup_ok_iff (group : Group) (values : Values) :
    (Eff.forEach group.opts.rows (loadOpt isHttpUrl config group) values).1 = .ok () ↔
      group.opts.rows.any (raises isHttpUrl config group) = false :=
  Eff.forEach_ok_iff (loadOpt_ok_iff group)

theorem setup_ok_iff (values : Values) : (setup isHttpUrl groups config values).1 = .ok () ↔
    groups.rows.any (fun group => group.opts.rows.any (raises isHttpUrl config group)) = false :=
  Eff.forEach_ok_iff loadGroup_ok_iff

theorem setup_error_iff {values : Values} : (∃ e, (setup isHttpUrl groups config values).1 = .error e) ↔
    ∃ group ∈ groups, ∃ opt ∈ group.opts, raises isHttpUrl config group opt = true := by
  have failed : (∃ e, (setup isHttpUrl groups config values).1 = .error e) ↔
      (setup isHttpUrl groups config values).1 ≠ .ok () := by
    cases (setup isHttpUrl groups config values).1 with
    | ok => simp
    | error e => simp
  rw [failed, ne_eq, setup_ok_iff]
  simp [Table.mem_rows]

/-- An option cannot be loaded where the lookup does not get to it, or its value fails its schema. -/
theorem raises_iff (shaped : WellShaped groups config) (member : group ∈ groups) (opt : Opt) :
    raises isHttpUrl config group opt = true ↔
      Emptied config group ∨ opt.schema.accepts isHttpUrl (meant config group opt) = false := by
  by_cases emptied : Emptied config group
  · rw [raises, lookup_emptied emptied]
    exact iff_of_true rfl (.inl emptied)
  · obtain ⟨value, found, gives⟩ := lookup_present shaped member emptied opt.name
    rw [raises, found, or_iff_right emptied, meant, ← gives]
    show (match opt.load isHttpUrl value with | .ok _ => false | .error _ => true) = true ↔ _
    rw [load_eq]
    cases opt.schema.accepts isHttpUrl ((present value).getD opt.default) with
    | true => exact ⟨nofun, nofun⟩
    | false => exact ⟨fun _ => rfl, fun _ => rfl⟩

/-! ## The values -/

theorem loadOpt_own (shaped : WellShaped groups config) (member : group ∈ groups)
    (fine : raises isHttpUrl config group opt = false) (values : Values) :
    (loadOpt isHttpUrl config group opt values).2 group.name opt.name = meant config group opt := by
  have sound := mt (raises_iff shaped member opt).mpr (Bool.eq_false_iff.mp fine)
  rw [not_or, Bool.not_eq_false] at sound
  obtain ⟨value, found, gives⟩ := lookup_present shaped member sound.1 opt.name
  have accepted := sound.2
  rw [meant, ← gives] at accepted
  have ran : loadOpt isHttpUrl config group opt values =
      (.ok (), values.set group.name opt.name ((present value).getD opt.default)) := by
    rw [loadOpt, found]
    show ((Eff.lift (opt.load isHttpUrl value) : Eff Values Exn Opt) >>= _) values = _
    rw [load_eq, if_pos accepted]
    rfl
  rw [ran, meant, ← gives]
  exact if_pos ⟨rfl, rfl⟩

theorem loadOpt_other {g n : String} (apart : ¬ (g = group.name ∧ n = opt.name)) (values : Values) :
    (loadOpt isHttpUrl config group opt values).2 g n = values g n := by
  rw [loadOpt, Eff.bind_run, Eff.lift_run]
  cases lookup config group.name opt.name with
  | error e => rfl
  | ok value =>
    show ((Eff.lift (opt.load isHttpUrl value) >>= fun loaded : Opt => Eff.modify fun values : Values =>
      values.set group.name opt.name loaded.value : Eff Values Exn Unit) values).2 g n = _
    rw [Eff.bind_run, Eff.lift_run]
    cases opt.load isHttpUrl value with
    | error e => rfl
    | ok loaded => exact if_neg apart

theorem loadGroup_own (shaped : WellShaped groups config) (member : group ∈ groups)
    (fine : group.opts.rows.any (raises isHttpUrl config group) = false) (there : opt ∈ group.opts) (values : Values) :
    (Eff.forEach group.opts.rows (loadOpt isHttpUrl config group) values).2 group.name opt.name =
      meant config group opt := by
  obtain ⟨before, later, rows⟩ := List.append_of_mem (Table.mem_rows.mp there)
  have unique := group.opts.unique
  rw [rows] at fine unique ⊢
  simp only [List.any_append, List.any_cons, Bool.or_eq_false_iff] at fine
  have others : ∀ other ∈ before ++ later, ∀ values : Values,
      (loadOpt isHttpUrl config group other values).2 group.name opt.name = values group.name opt.name := by
    intro other within values
    refine loadOpt_other (fun same => ?_) values
    rw [List.map_append, List.map_cons, List.nodup_middle, ← List.map_append, List.nodup_cons] at unique
    exact unique.1 (same.2 ▸ List.mem_map_of_mem within)
  let view (values : Values) : Value := values group.name opt.name
  have own : ∀ values, view (loadOpt isHttpUrl config group opt values).2 = Function.const _ (meant config group opt) (view values) :=
    loadOpt_own shaped member fine.2.1
  have loaded := Eff.forEach_at view (loadOpt_ok_iff group) own others values
  rw [if_neg (by simp [fine.1])] at loaded
  exact loaded

theorem loadGroup_other {g : String} (apart : g ≠ group.name) (n : String) (values : Values) :
    (Eff.forEach group.opts.rows (loadOpt isHttpUrl config group) values).2 g n = values g n :=
  Eff.forEach_invariant (I := fun later : Values => later g n = values g n)
    (fun _ _ later same => (loadOpt_other (fun both => apart both.1) later).trans same) rfl

/-- Setting up that does not raise gives every option what the file means. -/
theorem setup_gives (shaped : WellShaped groups config) {values : Values}
    (fine : groups.rows.any (fun group => group.opts.rows.any (raises isHttpUrl config group)) = false)
    (member : group ∈ groups) (there : opt ∈ group.opts) :
    (setup isHttpUrl groups config values).2 group.name opt.name = meant config group opt := by
  obtain ⟨before, later, rows⟩ := List.append_of_mem (Table.mem_rows.mp member)
  have unique := groups.unique
  rw [setup]
  rw [rows] at fine unique ⊢
  simp only [List.any_append, List.any_cons, Bool.or_eq_false_iff] at fine
  have others : ∀ other ∈ before ++ later, ∀ values : Values,
      (Eff.forEach other.opts.rows (loadOpt isHttpUrl config other) values).2 group.name opt.name =
        values group.name opt.name := by
    intro other within values
    refine loadGroup_other (fun same => ?_) opt.name values
    rw [List.map_append, List.map_cons, List.nodup_middle, ← List.map_append, List.nodup_cons] at unique
    exact unique.1 (same ▸ List.mem_map_of_mem within)
  let view (values : Values) : Value := values group.name opt.name
  have own : ∀ values, view (Eff.forEach group.opts.rows (loadOpt isHttpUrl config group) values).2 =
      Function.const _ (meant config group opt) (view values) := loadGroup_own shaped member fine.2.1 there
  have loaded := Eff.forEach_at view loadGroup_ok_iff own others values
  rw [if_neg (by simp [fine.1])] at loaded
  exact loaded

/-- The configuration is set up as the file means it iff no section that is looked up in is null,
    nor the document, or some value fails its schema all the same. -/
theorem setup_setUp_iff (isHttpUrl : String → Bool) (groups : Configuration) (config : Value)
    (shaped : WellShaped groups config) (values : Values) :
    SetUp isHttpUrl groups config (setup isHttpUrl groups config values).1 (setup isHttpUrl groups config values).2 ↔
      (∀ group ∈ groups, Emptied config group → ∀ opt, opt ∉ group.opts) ∨ Fails isHttpUrl groups config := by
  have failing : ∀ group ∈ groups, ∀ opt, raises isHttpUrl config group opt = true ↔ _ :=
    fun group member opt => raises_iff shaped member opt
  constructor
  · intro setUp
    by_cases fails : Fails isHttpUrl groups config
    · exact .inr fails
    · refine .inl fun group member emptied opt there => fails (setUp.raises.mp (setup_error_iff.mpr ?_))
      exact ⟨group, member, opt, there, (failing group member opt).mpr (.inl emptied)⟩
  · intro condition
    have same : (∃ group ∈ groups, ∃ opt ∈ group.opts, raises isHttpUrl config group opt = true) ↔
        Fails isHttpUrl groups config := by
      constructor
      · rintro ⟨group, member, opt, there, raised⟩
        rcases (failing group member opt).mp raised with emptied | rejected
        · exact condition.resolve_left fun none => none group member emptied opt there
        · exact ⟨group, member, opt, there, rejected⟩
      · rintro ⟨group, member, opt, there, rejected⟩
        exact ⟨group, member, opt, there, (failing group member opt).mpr (.inr rejected)⟩
    refine ⟨setup_error_iff.trans same, fun ended group member opt there => ?_⟩
    rw [@getattr_loaded _ _ ((setup isHttpUrl groups config values).2 group.name) rfl opt.name,
      if_pos (List.mem_map_of_mem there), setup_gives shaped ((setup_ok_iff values).mp ended) member there]

/-! ## A file without sections -/

section
variable {sections : List (String × Value)} (absent : ∀ group ∈ groups, dictGet sections group.name = none)

include absent

theorem absent_wellShaped : WellShaped groups (.dict sections) := by
  refine .inr ⟨sections, rfl, fun group member entries found => ?_⟩
  rw [absent group member] at found
  cases found

theorem absent_unemptied (member : group ∈ groups) : ¬ Emptied (.dict sections) group := by
  rintro (empty | ⟨entries, same, null⟩)
  · cases empty
  · cases same
    rw [absent group member] at null
    cases null

theorem absent_meant (member : group ∈ groups) (opt : Opt) : meant (.dict sections) group opt = opt.default := by
  simp [meant, given, absent group member]

/-- Where the file has none of the sections, and the defaults pass their schemas, the setup comes to its end. -/
theorem setup_defaults (values : Values)
    (accepted : ∀ group ∈ groups, ∀ opt ∈ group.opts, opt.schema.accepts isHttpUrl opt.default = true) :
    (setup isHttpUrl groups (.dict sections) values).1 = .ok () := by
  rw [setup_ok_iff, List.any_eq_false]
  intro group member
  rw [Bool.not_eq_true, List.any_eq_false]
  intro opt there raised
  rcases (raises_iff (absent_wellShaped absent) member opt).mp raised with emptied | rejected
  · exact absent_unemptied absent member emptied
  · rw [absent_meant absent member, accepted group member opt (Table.mem_rows.mpr there)] at rejected
    cases rejected

end

/-! ### A section that is left empty -/

/-- Two groups with an option each. -/
def twoGroups : Configuration where
  rows := [⟨"default", ⟨[{ name := "debug", schema := .strictBool, default := .bool false }], List.nodup_singleton _⟩⟩,
    ⟨"setting", ⟨[{ name := "smtp_host", schema := .strictStr, default := .str "" }], List.nodup_singleton _⟩⟩]
  unique := by decide

/-- A file with both sections, the second of which has no entries. -/
def emptySection : Value := .dict [("default", .dict [("debug", .bool true)]), ("setting", .null)]

theorem emptySection_wellShaped : WellShaped twoGroups emptySection := by
  refine .inr ⟨_, rfl, fun group member entries found => ?_⟩
  rcases List.mem_pair.mp member with rfl | rfl
  · cases found
    exact .inr ⟨_, rfl⟩
  · cases found
    exact .inl rfl

/-- The groups `openstack` and `setting`, as they are registered. -/
def registered : Configuration where
  rows := [openstackGroup fun _ => .null, settingGroup fun _ => .null]
  unique := by decide

theorem registered_accepted : ∀ group ∈ registered, ∀ opt ∈ group.opts, opt.schema.accepts (fun _ => true) opt.default = true := by
  intro group member opt there
  rcases List.mem_pair.mp member with rfl | rfl
  · obtain ⟨declared, among, rfl⟩ := List.mem_map.mp there
    exact openstack_defaults_accepted (fun _ => true) rfl rfl declared among
  · obtain ⟨declared, among, rfl⟩ := List.mem_map.mp there
    exact setting_defaults_accepted (fun _ => true) declared among

/-- A file with the section of another group. -/
def debugging : List (String × Value) := [("default", .dict [("debug", .bool true)])]

theorem debugging_absent : ∀ group ∈ registered, dictGet debugging group.name = none := by
  intro group member
  rcases List.mem_pair.mp member with rfl | rfl <;> rfl

/-- With an empty section the setup is as it should be under the condition only; with the sections
    left out it is, and comes to its end. -/
theorem emptySection_setUp_iff :
    (SetUp (fun _ => true) twoGroups emptySection (setup (fun _ => true) twoGroups emptySection fun _ _ => .null).1
      (setup (fun _ => true) twoGroups emptySection fun _ _ => .null).2 ↔
    (∀ group ∈ twoGroups, Emptied emptySection group → ∀ opt, opt ∉ group.opts) ∨
      Fails (fun _ => true) twoGroups emptySection) ∧
    SetUp (fun _ => true) registered (.dict debugging) (setup (fun _ => true) registered (.dict debugging) fun _ _ => .null).1
      (setup (fun _ => true) registered (.dict debugging) fun _ _ => .null).2 ∧
    (setup (fun _ => true) registered (.dict debugging) fun _ _ => .null).1 = .ok () := by
  refine ⟨setup_setUp_iff (fun _ => true) twoGroups emptySection emptySection_wellShaped fun _ _ => .null, ?_,
    setup_defaults debugging_absent _ registered_accepted⟩
  refine (setup_setUp_iff (fun _ => true) registered (.dict debugging) (absent_wellShaped debugging_absent) fun _ _ => .null).mpr ?_
  exact .inl fun group member emptied => (absent_unemptied debugging_absent member emptied).elim

/-- An empty section ends the setup, though every default passes its schema. -/
theorem empty_section_raises : ¬ ∀ (isHttpUrl : String → Bool) (groups : Configuration) (config : Value),
    WellShaped groups config → ∀ values, SetUp isHttpUrl groups config (setup isHttpUrl groups config values).1
      (setup isHttpUrl groups config values).2 := by
  intro always
  have setUp := always (fun _ => true) twoGroups emptySection emptySection_wellShaped fun _ _ => .null
  obtain ⟨group, member, opt, there, rejected⟩ := setUp.raises.mp ⟨_, rfl⟩
  rcases List.mem_pair.mp member with rfl | rfl
  · cases List.mem_singleton.mp there
    cases rejected
  · cases List.mem_singleton.mp there
    cases rejected

end Skyline.ConfigFile
