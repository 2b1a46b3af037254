import Mathlib.Data.List.Nodup
import Skyline.Logging
import Skyline.PolicyRules

/-!
`validate` of `cmd/policy_manager.py`: the rules that the console has of the services against those that
the services register themselves. It complains of nothing exactly where the two agree
(`validate_silent_iff`).
-/
namespace Skyline.PolicyRules

def OsloRule.toRuleDefault : OsloRule → RuleDefault
  | documented rule => rule.toRuleDefault
  | default rule => rule

def OsloRule.name (rule : OsloRule) : String := rule.toRuleDefault.name

end Skyline.PolicyRules

namespace Skyline.PolicyValidation
open Skyline.Logging Skyline.Logging.Logged Skyline.Python Skyline.PolicyRules

/-! ## The log -/

inductive Level
  | info | warning | error
  deriving DecidableEq, Repr

structure Record where
  level : Level
  message : String
  deriving DecidableEq, Repr

/-- `Union[Rule, APIRule]`. -/
inductive AnyRule
  | rule (r : Rule)
  | api (r : APIRule)
  deriving DecidableEq, Repr

def AnyRule.toRule : AnyRule → Rule
  | rule r => r
  | api r => r.toRule

def AnyRule.name (r : AnyRule) : String := r.toRule.name
def AnyRule.checkStr (r : AnyRule) : String := r.toRule.checkStr

/-- How `rule.__class__` is shown. -/
def AnyRule.classRepr : AnyRule → String
  | rule _ => "<class 'skyline_apiserver.policy.manager.base.Rule'>"
  | api _ => "<class 'skyline_apiserver.policy.manager.base.APIRule'>"

section
variable (env : Env)

/-- How the model of the operations of a rule is shown. -/
def operationsStr (operations : List Operation) : String :=
  "root=" ++ listRepr (operations.map fun operation =>
    "OperationSchema(method=<Method." ++ operation.method.value ++ ": '" ++ operation.method.value ++ "'>, path=" ++
      Literals.repr env.printable operation.path ++ ")")

def duplicateRules (service ep name : String) : Record :=
  ⟨.error, "Service \"" ++ service ++ "\" entry point \"" ++ ep ++ "\" has duplicate rules \"" ++ name ++
    "\", please check source code of " ++ service ++ " service."⟩

def noRules (service : String) : Record :=
  ⟨.warning, "Service \"" ++ service ++ "\" does not load any rules, please check whether the service package is " ++
    "installed (pip list)."⟩

def ruleNotFound (service name : String) : Record :=
  ⟨.warning, "Rule \"" ++ name ++ "\" is not found in service \"" ++ service ++ "\", if it's deprecated, please remove."⟩

def compareResults (service name osCheckStr checkStr : String) : Record :=
  ⟨.info, "\nService \"" ++ service ++ "\" rule \"" ++ name ++ "\" compare results:\nOpenStack : " ++ osCheckStr ++
    "\nCustom    : " ++ checkStr ++ "\n"⟩

/-- What is said of two rules of a name that are not the same in something. -/
def different (level : Level) (service name what own other : String) : Record :=
  ⟨level, "\nService \"" ++ service ++ "\" rule \"" ++ name ++ "\" " ++ what ++ own ++
    ",\nwhich is different from os_rule " ++ other ++ ".\n"⟩

def unmanagedRule (service name : String) : Record :=
  ⟨.error, "Rule " ++ name ++ " is unmanaged, please add it in '" ++ service ++ "' service"⟩

def completed : Record := ⟨.info, "Validate policy completed"⟩

/-! ## The command -/

abbrev Validation : Type → Type := Logged Record Exn

def comparisonRules (service : String) : AnyRule → AnyRule → Validation Unit
  | .api rule, .api osRule => do
    logIf (rule.scopeTypes ≠ osRule.scopeTypes)
      (different .error service rule.name "scope_types is "
        (listRepr (rule.scopeTypes.map (Literals.repr env.printable)))
        (listRepr (osRule.scopeTypes.map (Literals.repr env.printable))))
    logIf (rule.operations ≠ osRule.operations)
      (different .error service rule.name "operations is " (operationsStr env rule.operations)
        (operationsStr env osRule.operations))
  | .rule _, .rule _ => return
  | rule, osRule => log (different .warning service rule.name "is " rule.classRepr osRule.classRepr)

/-- What Skyline makes of a rule. -/
def AnyRule.fromOslo : OsloRule → Except Exn AnyRule
  | .documented r => (APIRule.fromOslo env r).map .api
  | .default r => .ok (.rule (Rule.fromOslo r))

/-- The rules of a service by their names, in the order in which these came first. -/
abbrev OsRules : Type := List (String × AnyRule)

/-- `d[name] = rule`. -/
def setitem : OsRules → String → AnyRule → OsRules
  | [], name, rule => [(name, rule)]
  | item :: d, name, rule => if item.1 = name then (name, rule) :: d else item :: setitem d name rule

def loadRule (service ep : String) (serviceRules : OsRules) (rule : OsloRule) : Validation OsRules := do
  logIf (rule.name ∈ serviceRules.map Prod.fst) (duplicateRules service ep rule.name)
  let own ← lift (AnyRule.fromOslo env rule)
  return setitem serviceRules rule.name own

/-- What `metadata.entry_points` has, and the order in which a set of names is gone through. -/
structure Packages where
  listRulesFuncs : String → Option (List OsloRule)
  setOrder : List String → List String
  all : ∀ names, (setOrder names).Perm names

variable (packages : Packages)

/-- The rules of an entry point: none where it is not installed. -/
def Packages.epRules (ep : String) : List OsloRule := (packages.listRulesFuncs ep).getD []

def loadEntryPoint (service : String) (serviceRules : OsRules) (ep : String) : Validation OsRules := do
  let serviceRules ← (packages.epRules ep).foldlM (loadRule env service ep) serviceRules
  logIf (serviceRules = []) (noRules service)
  return serviceRules

def loadService (service : String × List String) : Validation (String × OsRules) := do
  let serviceRules ← service.2.foldlM (loadEntryPoint env packages service.1) []
  return (service.1, serviceRules)

variable (diff : Bool)

def validateRule (service : String) (osRules : OsRules) (r : AnyRule) : Validation Unit :=
  match osRules.lookup r.name with
  | none => log (ruleNotFound service r.name)
  | some osRule => do
    logIf (diff = true) (compareResults service r.name osRule.checkStr r.checkStr)
    comparisonRules env service r osRule

def validateService (osRuleMap : List (String × OsRules)) (service : String × List AnyRule) : Validation Unit := do
  let osRules := (osRuleMap.lookup service.1).getD []
  forEach service.2 (validateRule env diff service.1 osRules)
  let unmanagedRules := (osRules.map Prod.fst).filter fun name => name ∉ service.2.map AnyRule.name
  forEach (packages.setOrder unmanagedRules) fun name => log (unmanagedRule service.1 name)

/-- The rules that the console has of each service are those of `get_service_rules`. -/
def validate (serviceRules : List (String × List AnyRule)) : Validation Unit := do
  let osRuleMap ← collect (loadService env packages) supportedServiceEps
  forEach serviceRules (validateService env packages diff osRuleMap)
  log completed

end

/-! ## The specification -/

/-- Rules of one kind, and where they have operations, with the same scopes and operations. -/
inductive Alike : AnyRule → AnyRule → Prop
  | rule (r osRule : Rule) : Alike (.rule r) (.rule osRule)
  | api (r osRule : APIRule) (scopeTypes : r.scopeTypes = osRule.scopeTypes)
    (operations : r.operations = osRule.operations) : Alike (.api r) (.api osRule)

/-- The rules that a service registers, over all of its entry points. -/
def Packages.registered (packages : Packages) (service : String) : List OsloRule :=
  ((supportedServiceEps.lookup service).getD []).flatMap packages.epRules

/-- The console has the rule of the service as the service has it. -/
def Known (env : Env) (osRules : List OsloRule) (r : AnyRule) : Prop :=
  ∃ osRule ∈ osRules, osRule.name = r.name ∧ ∃ own, AnyRule.fromOslo env osRule = .ok own ∧ Alike r own

structure Agreement (env : Env) (packages : Packages) (serviceRules : List (String × List AnyRule)) : Prop where
  /-- Every service that is supported is installed. -/
  installed : ∀ service ∈ supportedServiceEps, ∀ ep ∈ service.2.head?, packages.epRules ep ≠ []
  /-- The rules of a service have names of their own, and Skyline can make something of them. -/
  distinct : ∀ service ∈ supportedServiceEps, ((service.2.flatMap packages.epRules).map OsloRule.name).Nodup
  made : ∀ service ∈ supportedServiceEps, ∀ rule ∈ service.2.flatMap packages.epRules,
    ∃ own, AnyRule.fromOslo env rule = .ok own
  known : ∀ service ∈ serviceRules, ∀ r ∈ service.2, Known env (packages.registered service.1) r
  managed : ∀ service ∈ serviceRules, ∀ osRule ∈ packages.registered service.1,
    ∃ r ∈ service.2, r.name = osRule.name

/-- Nothing is complained of. -/
def Harmless (r : Record) : Prop := r.level = .info

abbrev Reports {α : Type} : Validation α → Prop → (α → Prop) → Prop := Logged.Reports Harmless

/-! ## The rules of a service -/

section
variable {env : Env} {packages : Packages} {diff : Bool}

/-- The rules that were loaded of a service, one after the other. -/
def Loaded (env : Env) (osRules : List OsloRule) (d : OsRules) : Prop :=
  List.Forall₂ (fun osRule item => item.1 = osRule.name ∧ AnyRule.fromOslo env osRule = .ok item.2) osRules d

theorem setitem_new {d : OsRules} {name : String} {rule : AnyRule} (new : name ∉ d.map Prod.fst) :
    setitem d name rule = d ++ [(name, rule)] := by
  induction d with
  | nil => rfl
  | cons item d ih =>
    rw [List.map_cons, List.mem_cons, not_or] at new
    rw [setitem, if_neg (Ne.symm new.1), ih new.2]
    rfl

theorem Loaded.names {osRules : List OsloRule} {d : OsRules} (loaded : Loaded env osRules d) :
    d.map Prod.fst = osRules.map OsloRule.name := by
  induction loaded with
  | nil => rfl
  | cons same _ ih => rw [List.map_cons, List.map_cons, same.1, ih]

/-- A rule is looked up by its name. -/
theorem Loaded.lookup {osRules : List OsloRule} {d : OsRules} (loaded : Loaded env osRules d)
    (distinct : (osRules.map OsloRule.name).Nodup) {name : String} {own : AnyRule} :
    d.lookup name = some own ↔ ∃ osRule ∈ osRules, osRule.name = name ∧ AnyRule.fromOslo env osRule = .ok own := by
  induction loaded with
  | nil => simp
  | @cons osRule item osRules d same _ ih =>
    rw [List.map_cons, List.nodup_cons] at distinct
    obtain ⟨key, rule⟩ := item
    obtain ⟨rfl, made⟩ := same
    rw [List.exists_mem_cons_iff, ← ih distinct.2, List.lookup_cons]
    by_cases first : name = osRule.name
    · subst first
      have later : d.lookup osRule.name ≠ some own := by
        rw [Ne, ih distinct.2]
        rintro ⟨later, member, again, -⟩
        exact distinct.1 (List.mem_map.mpr ⟨later, member, again⟩)
      simp [made, later]
    · have apart : (name == osRule.name) = false := beq_false_of_ne first
      simp [apart, Ne.symm first]

/-- Rules with names of their own that Skyline can make something of. -/
structure Sound (env : Env) (osRules : List OsloRule) : Prop where
  distinct : (osRules.map OsloRule.name).Nodup
  made : ∀ rule ∈ osRules, ∃ own, AnyRule.fromOslo env rule = .ok own

theorem Sound.shorter {before after : List OsloRule} (sound : Sound env (before ++ after)) : Sound env before where
  distinct := by
    have distinct := sound.distinct
    rw [List.map_append] at distinct
    exact distinct.of_append_left
  made rule member := sound.made rule (List.mem_append_left after member)

theorem sound_concat {before : List OsloRule} {rule : OsloRule} : Sound env (before ++ [rule]) ↔
    Sound env before ∧ rule.name ∉ before.map OsloRule.name ∧ ∃ own, AnyRule.fromOslo env rule = .ok own := by
  constructor
  · intro sound
    have distinct := sound.distinct
    rw [List.map_append, List.nodup_append] at distinct
    refine ⟨sound.shorter, fun again => ?_, sound.made rule (List.mem_append_right _ List.mem_cons_self)⟩
    exact distinct.2.2 _ again _ (List.mem_singleton_self _) rfl
  · rintro ⟨sound, new, made⟩
    refine ⟨?_, List.forall_mem_append.mpr ⟨sound.made, List.forall_mem_singleton.mpr made⟩⟩
    rw [List.map_append, List.nodup_append]
    refine ⟨sound.distinct, List.nodup_singleton _, fun name member other last => ?_⟩
    rintro rfl
    obtain rfl := List.mem_singleton.mp last
    exact new member

theorem loadRule_reports (service ep : String) {before : List OsloRule} {d : OsRules} (loaded : Loaded env before d)
    (sound : Sound env before) (rule : OsloRule) :
    Reports (loadRule env service ep d rule) (Sound env (before ++ [rule])) (Loaded env (before ++ [rule])) := by
  have complains : ¬ Harmless (duplicateRules service ep rule.name) := by
    intro harmless
    cases harmless
  have longer (own : AnyRule) (new : rule.name ∉ d.map Prod.fst) (made : AnyRule.fromOslo env rule = .ok own) :
      Loaded env (before ++ [rule]) (setitem d rule.name own) := by
    rw [setitem_new new]
    exact List.rel_append loaded (.cons ⟨rfl, made⟩ .nil)
  refine Reports.imp (.bind .logIf fun _ new _ => .bind .lift fun own _ made =>
    .pure (longer own (fun there => complains (new there)) made)) ?_ fun _ _ as => as
  · rw [sound_concat, ← loaded.names, and_true]
    exact ⟨fun ⟨new, made⟩ => ⟨sound, fun there => complains (new there), made⟩,
      fun ⟨_, new, made⟩ => ⟨fun there => absurd there new, made⟩⟩

/-- A service is fine as far as its entry points have been loaded. -/
structure Fine (env : Env) (packages : Packages) (eps : List String) : Prop extends
    Sound env (eps.flatMap packages.epRules) where
  installed : ∀ ep ∈ eps.head?, packages.epRules ep ≠ []

theorem Fine.shorter (before after : List String) (fine : Fine env packages (before ++ after)) :
    Fine env packages before where
  toSound := by
    have sound := fine.toSound
    rw [List.flatMap_append] at sound
    exact sound.shorter
  installed ep first := fine.installed ep (by
    cases before with
    | nil => cases first
    | cons _ _ => exact first)

theorem fine_concat {before : List String} {ep : String} (fine : Fine env packages before) :
    Fine env packages (before ++ [ep]) ↔ Sound env ((before ++ [ep]).flatMap packages.epRules) ∧
      (before ++ [ep]).flatMap packages.epRules ≠ [] := by
  constructor
  · intro fine
    refine ⟨fine.toSound, fun nothing => ?_⟩
    cases first : (before ++ [ep]).head? with
    | none => simp at first
    | some ep' =>
      exact fine.installed ep' first (List.flatMap_eq_nil_iff.mp nothing ep' (List.mem_of_head? first))
  · rintro ⟨sound, something⟩
    refine ⟨sound, fun ep' first => ?_⟩
    cases before with
    | nil =>
      obtain rfl := Option.some.inj first
      rwa [List.nil_append, List.flatMap_singleton] at something
    | cons _ _ => exact fine.installed ep' first

theorem loadEntryPoint_reports (service : String) {before : List String} {d : OsRules}
    (fine : Fine env packages before) (loaded : Loaded env (before.flatMap packages.epRules) d) (ep : String) :
    Reports (loadEntryPoint env packages service d ep) (Fine env packages (before ++ [ep]))
      (Loaded env ((before ++ [ep]).flatMap packages.epRules)) := by
  have complains : ¬ Harmless (noRules service) := by
    intro harmless
    cases harmless
  have whole : (before ++ [ep]).flatMap packages.epRules = before.flatMap packages.epRules ++ packages.epRules ep := by
    rw [List.flatMap_append, List.flatMap_singleton]
  have rules : Reports ((packages.epRules ep).foldlM (loadRule env service ep) d)
      (Sound env ((before ++ [ep]).flatMap packages.epRules))
      (Loaded env ((before ++ [ep]).flatMap packages.epRules)) := by
    rw [whole]
    exact Reports.foldlM (Sound env) (Loaded env) (fun _ _ sound => sound.shorter)
      (fun _ rule _ sound loaded => loadRule_reports service ep loaded sound rule) _ fine.toSound loaded
  rw [fine_concat fine]
  refine rules.bind fun d' _ loaded' => ?_
  refine Reports.imp (.bind .logIf fun _ _ _ => .pure loaded') ?_ fun _ _ as => as
  have empty : d' = [] ↔ (before ++ [ep]).flatMap packages.epRules = [] := by
    rw [← List.length_eq_zero_iff, ← List.length_eq_zero_iff, loaded'.length_eq]
  rw [and_true, empty]
  exact ⟨fun silent nothing => complains (silent nothing), fun something nothing => absurd nothing something⟩

theorem loadService_reports (service : String × List String) :
    Reports (loadService env packages service) (Fine env packages service.2)
      (fun item : String × OsRules => item.1 = service.1 ∧ Loaded env (service.2.flatMap packages.epRules) item.2) := by
  have nothing : Fine env packages [] := ⟨⟨List.nodup_nil, List.forall_mem_nil _⟩, fun _ first => by cases first⟩
  have loads : Reports (service.2.foldlM (loadEntryPoint env packages service.1) []) (Fine env packages ([] ++ service.2))
      (fun d => Loaded env (([] ++ service.2).flatMap packages.epRules) d) :=
    Reports.foldlM (Fine env packages) (fun eps => Loaded env (eps.flatMap packages.epRules)) Fine.shorter
      (fun _ ep _ fine loaded => loadEntryPoint_reports service.1 fine loaded ep) service.2
      nothing .nil
  rw [List.nil_append] at loads
  refine Reports.imp (loads.bind fun d _ loaded => .pure ⟨rfl, loaded⟩) (and_true _).to_iff fun _ _ as => as

/-! ## The rules of the console -/

theorem comparisonRules_reports (service : String) (r osRule : AnyRule) :
    Reports (comparisonRules env service r osRule) (Alike r osRule) fun _ => True := by
  cases r with
  | rule r =>
    cases osRule with
    | rule osRule => exact (Reports.pure trivial).imp (iff_of_true trivial (.rule r osRule)) fun _ _ as => as
    | api osRule =>
      exact Reports.log.imp (iff_of_false (fun harmless => by cases harmless) fun alike => by cases alike) fun _ _ as => as
  | api r =>
    cases osRule with
    | rule osRule =>
      exact Reports.log.imp (iff_of_false (fun harmless => by cases harmless) fun alike => by cases alike) fun _ _ as => as
    | api osRule =>
      refine (Reports.bind .logIf fun _ _ _ => .logIf).imp ?_ fun _ _ as => as
      constructor
      · rintro ⟨scopeTypes, operations⟩
        refine .api r osRule (by_contra fun other => ?_) (by_contra fun other => ?_)
        · cases scopeTypes other
        · cases operations other
      · rintro ⟨⟩
        next scopeTypes operations =>
        exact ⟨fun other => absurd scopeTypes other, fun other => absurd operations other⟩

theorem validateRule_reports (service : String) {osRules : List OsloRule} {d : OsRules} (loaded : Loaded env osRules d)
    (distinct : (osRules.map OsloRule.name).Nodup) (r : AnyRule) :
    Reports (validateRule env diff service d r) (Known env osRules r) fun _ => True := by
  unfold validateRule
  cases found : d.lookup r.name with
  | none =>
    refine Reports.log.imp (iff_of_false (fun harmless => by cases harmless) ?_) fun _ _ as => as
    rintro ⟨osRule, member, named, own, made, -⟩
    cases found.symm.trans ((loaded.lookup distinct).mpr ⟨osRule, member, named, made⟩)
  | some own =>
    have agrees : Alike r own ↔ Known env osRules r := by
      obtain ⟨osRule, member, named, made⟩ := (loaded.lookup distinct).mp found
      refine ⟨fun alike => ⟨osRule, member, named, own, made, alike⟩, ?_⟩
      rintro ⟨osRule', member', named', own', made', alike⟩
      have same : some own = some own' :=
        found.symm.trans ((loaded.lookup distinct).mpr ⟨osRule', member', named', made'⟩)
      rwa [Option.some.inj same]
    refine (Reports.bind .logIf fun _ _ _ => comparisonRules_reports service r own).imp ?_ fun _ _ as => as
    rw [agrees]
    exact and_iff_right fun _ => rfl

/-- The console and the service have the same rules. -/
structure Matches (env : Env) (osRules : List OsloRule) (rules : List AnyRule) : Prop where
  known : ∀ r ∈ rules, Known env osRules r
  managed : ∀ osRule ∈ osRules, ∃ r ∈ rules, r.name = osRule.name

theorem validateService_reports {osRuleMap : List (String × OsRules)} (service : String × List AnyRule)
    {osRules : List OsloRule} (loaded : Loaded env osRules ((osRuleMap.lookup service.1).getD []))
    (distinct : (osRules.map OsloRule.name).Nodup) :
    Reports (validateService env packages diff osRuleMap service) (Matches env osRules service.2) fun _ => True := by
  have rules : Reports (forEach service.2 (validateRule env diff service.1 ((osRuleMap.lookup service.1).getD [])))
      (∀ r ∈ service.2, Known env osRules r) fun _ => True :=
    .forEach fun r _ => validateRule_reports service.1 loaded distinct r
  have unmanaged : Reports (forEach (packages.setOrder ((((osRuleMap.lookup service.1).getD []).map Prod.fst).filter
      fun name => name ∉ service.2.map AnyRule.name)) fun name => log (unmanagedRule service.1 name)) _ fun _ => True :=
    .forEach fun name _ => .log
  refine (rules.bind fun _ _ _ => unmanaged).imp ?_ fun _ _ as => as
  rw [loaded.names]
  constructor
  · rintro ⟨known, managed⟩
    refine ⟨known, fun osRule member => by_contra fun unmanaged => ?_⟩
    have complained : Harmless (unmanagedRule service.1 osRule.name) := by
      refine managed _ ((packages.all _).mem_iff.mpr (List.mem_filter.mpr ⟨List.mem_map_of_mem member, ?_⟩))
      refine decide_eq_true fun there => unmanaged ?_
      obtain ⟨r, member', named⟩ := List.mem_map.mp there
      exact ⟨r, member', named⟩
    cases complained
  · rintro ⟨known, managed⟩
    refine ⟨known, fun name among => ?_⟩
    obtain ⟨there, unmanaged⟩ := List.mem_filter.mp ((packages.all _).mem_iff.mp among)
    obtain ⟨osRule, member, rfl⟩ := List.mem_map.mp there
    obtain ⟨r, member', named⟩ := managed osRule member
    exact absurd (List.mem_map.mpr ⟨r, member', named⟩) (of_decide_eq_true unmanaged)

/-! ## The whole command -/

/-- What was loaded of a service is found under its name. -/
theorem loaded_lookup {services : List (String × List String)} {osRuleMap : List (String × OsRules)}
    (loaded : List.Forall₂ (fun service item => item.1 = service.1 ∧
      Loaded env (service.2.flatMap packages.epRules) item.2) services osRuleMap) (name : String) :
    Loaded env (((services.lookup name).getD []).flatMap packages.epRules) ((osRuleMap.lookup name).getD []) := by
  induction loaded with
  | nil => exact .nil
  | @cons service item services osRuleMap same _ ih =>
    obtain ⟨service, eps⟩ := service
    obtain ⟨key, d⟩ := item
    obtain ⟨rfl, own⟩ := same
    rw [List.lookup_cons, List.lookup_cons]
    cases name == key with
    | true => exact own
    | false => exact ih

theorem registered_sound (fine : ∀ service ∈ supportedServiceEps, Fine env packages service.2) (name : String) :
    Sound env (packages.registered name) := by
  unfold Packages.registered
  cases found : supportedServiceEps.lookup name with
  | none => exact ⟨List.nodup_nil, List.forall_mem_nil _⟩
  | some eps => exact (fine _ (Literals.mem_of_lookup found)).toSound

theorem validate_reports (serviceRules : List (String × List AnyRule)) :
    Reports (validate env packages diff serviceRules) (Agreement env packages serviceRules) fun _ => True := by
  have loads : Reports (collect (loadService env packages) supportedServiceEps) _ _ :=
    .collect fun service _ => loadService_reports service
  have rest (osRuleMap : List (String × OsRules)) (fine : ∀ service ∈ supportedServiceEps, Fine env packages service.2)
      (loaded : List.Forall₂ (fun service item => item.1 = service.1 ∧
        Loaded env (service.2.flatMap packages.epRules) item.2) supportedServiceEps osRuleMap) :
      Reports (forEach serviceRules (validateService env packages diff osRuleMap))
        (∀ service ∈ serviceRules, Matches env (packages.registered service.1) service.2) fun _ => True :=
    .forEach fun service _ =>
      validateService_reports service (loaded_lookup loaded service.1) (registered_sound fine service.1).distinct
  refine (loads.bind fun osRuleMap fine loaded => (rest osRuleMap fine loaded).bind fun _ _ _ => .log).imp ?_
    fun _ _ as => as
  constructor
  · rintro ⟨fine, matching, -⟩
    exact ⟨fun service member => (fine service member).installed, fun service member => (fine service member).distinct,
      fun service member => (fine service member).made, fun service member => (matching service member).known,
      fun service member => (matching service member).managed⟩
  · intro agreement
    refine ⟨fun service member => ⟨⟨agreement.distinct service member, agreement.made service member⟩,
      agreement.installed service member⟩, fun service member => ?_, rfl⟩
    exact ⟨agreement.known service member, agreement.managed service member⟩

/-- The command completes and complains of nothing exactly where the console and the services agree. -/
theorem validate_silent_iff (serviceRules : List (String × List AnyRule)) :
    ((validate env packages diff serviceRules).1 = .ok () ∧ Silent Harmless (validate env packages diff serviceRules)) ↔
      Agreement env packages serviceRules := by
  rw [← (validate_reports serviceRules).iff_of]
  constructor
  · rintro ⟨came, silent⟩
    exact ⟨(), came, silent⟩
  · rintro ⟨_, came, silent⟩
    exact ⟨came, silent⟩

end

end Skyline.PolicyValidation
