import Skyline.Checks
import Skyline.Effects
import Skyline.Python

/-!
The policy of a service: the rules it registers, and the policy file that overrides them.
`Enforcer.authorize` looks the rule asked for up in the file first and in the registered
rules after it. The references inside the rule are resolved by the policy library, which
reads the attribute `rules` of the enforcer, so they never see the file. The tests that a
check is built from, and the parser of check strings, belong to the library and are
parameters.
-/
namespace Skyline.Policy
open Skyline.Checks Skyline.Effects Skyline.Python

/-! ## Rules -/

structure Rule where
  name : String
  checkStr : String
  basicCheckStr : String

/-- `Rule.__init__`. -/
def Rule.init (name checkStr basicCheckStr : String) : Rule :=
  ⟨name, checkStr, if truthy basicCheckStr then basicCheckStr else checkStr⟩

variable {Test Target Context : Type}

abbrev RuleMap (Test : Type) : Type := List (String × Check Test String)

/-- An enforcer, with the rules it has registered and those it last loaded from its file. -/
structure Enforcer (Test : Type) where
  service : String
  rules : RuleMap Test
  fileRules : RuleMap Test

section
variable (parseRule : String → Check Test String)

def registerLoop (ruleMap : RuleMap Test) : List Rule → Except Exn (RuleMap Test)
  | [] => .ok ruleMap
  | rule :: rules =>
    if (ruleMap.lookup rule.name).isSome then .error (.valueError ("Duplicate policy rule " ++ rule.name ++ "."))
    else registerLoop (ruleMap ++ [(rule.name, parseRule rule.basicCheckStr)]) rules

def registerRules (rules : List Rule) : Except Exn (RuleMap Test) := registerLoop parseRule [] rules

/-- The loop of `setup` over the rules of a service, with those it has been through and the
    enforcer it has built from them. -/
def setupLoop (service : String) (apiRules : List Rule) (enforcer : Option (Enforcer Test)) :
    List Rule → Except Exn (Option (Enforcer Test))
  | [] => .ok enforcer
  | rule :: rules => do
    let ruleMap ← registerRules parseRule (apiRules ++ [rule])
    setupLoop service (apiRules ++ [rule]) (some ⟨service, ruleMap, []⟩) rules

def setup (service : String) (rules : List Rule) : Except Exn (Option (Enforcer Test)) :=
  setupLoop parseRule service [] none rules

variable {parseRule}

theorem registerLoop_append (ruleMap : RuleMap Test) (rules rules' : List Rule) :
    registerLoop parseRule ruleMap (rules ++ rules') =
      registerLoop parseRule ruleMap rules >>= fun ruleMap' => registerLoop parseRule ruleMap' rules' := by
  induction rules generalizing ruleMap with
  | nil => rfl
  | cons rule rules ih =>
    rw [List.cons_append, registerLoop, registerLoop]
    split
    · rfl
    · exact ih _

theorem setupLoop_registers (service : String) (rules apiRules : List Rule) (enforcer : Option (Enforcer Test)) :
    setupLoop parseRule service apiRules enforcer rules =
      if rules = [] then .ok enforcer
      else (registerRules parseRule (apiRules ++ rules)).map (fun ruleMap => some ⟨service, ruleMap, []⟩) := by
  induction rules generalizing apiRules enforcer with
  | nil => rfl
  | cons rule rules ih =>
    rw [setupLoop, if_neg (List.cons_ne_nil rule rules)]
    have whole : apiRules ++ rule :: rules = apiRules ++ [rule] ++ rules := by simp
    rw [whole, registerRules, registerRules, registerLoop_append _ (apiRules ++ [rule]) rules]
    cases first : registerLoop parseRule [] (apiRules ++ [rule]) with
    | error e => rfl
    | ok ruleMap =>
      show setupLoop parseRule service (apiRules ++ [rule]) _ rules = _
      rw [ih]
      by_cases last : rules = []
      · rw [if_pos last, last]
        rfl
      · rw [if_neg last, registerRules, registerLoop_append, first]

/-- What a service is set up with are all its rules, or nothing where it has none. -/
theorem setup_registers (service : String) (rules : List Rule) : setup parseRule service rules =
    if rules = [] then .ok none
    else (registerRules parseRule rules).map (fun ruleMap => some ⟨service, ruleMap, []⟩) :=
  setupLoop_registers service rules [] none

end

/-! ## The policy file -/

/-- What an enforcer finds when it looks for its policy file. -/
inductive PolicyFile (Test : Type)
  | absent
  /-- Reading or parsing it raises. -/
  | unreadable (e : Exn)
  /-- Its rules, and whether it has changed since it was last read. -/
  | read (reloaded : Bool) (rules : RuleMap Test)

def loadRules : PolicyFile Test → Eff (Enforcer Test) Exn Unit
  | .absent => Eff.modify (fun e => { e with fileRules := [] })
  | .unreadable e => Eff.raise e
  | .read reloaded rules =>
    Eff.modify (fun e => if reloaded || e.fileRules.isEmpty then { e with fileRules := rules } else e)

/-- The enforcer once it has tried to load its file. -/
def Enforcer.loaded (e : Enforcer Test) (file : PolicyFile Test) : Enforcer Test := (loadRules file e).2

@[simp] theorem loaded_rules (e : Enforcer Test) (file : PolicyFile Test) : (e.loaded file).rules = e.rules := by
  cases file with
  | absent => rfl
  | unreadable _ => rfl
  | read reloaded rules =>
    simp only [Enforcer.loaded, loadRules, Eff.modify_run]
    split <;> rfl

/-- A file that is read is in force, provided that nothing else was loaded since it last
    changed. -/
theorem loaded_read {e : Enforcer Test} {reloaded : Bool} {rules : RuleMap Test}
    (current : reloaded = false → e.fileRules = [] ∨ e.fileRules = rules) :
    (e.loaded (.read reloaded rules)).fileRules = rules := by
  simp only [Enforcer.loaded, loadRules, Eff.modify_run]
  split
  · rfl
  · next kept =>
    simp only [Bool.or_eq_true, not_or, Bool.not_eq_true, List.isEmpty_eq_false_iff] at kept
    exact (current kept.1).resolve_left kept.2

/-! ## Authorization -/

/-- `enforcer.rules`, where the library looks names up. -/
def Enforcer.registered (e : Enforcer Test) (name : String) : Option (Check Test String) := e.rules.lookup name

@[simp] theorem loaded_registered (e : Enforcer Test) (file : PolicyFile Test) :
    (e.loaded file).registered = e.registered := by
  funext name
  rw [Enforcer.registered, loaded_rules, Enforcer.registered]

/-- The entry of the file, and the registered rule where the file has none. -/
def Enforcer.merged (e : Enforcer Test) (name : String) : Option (Check Test String) :=
  (e.fileRules.lookup name).or (e.registered name)

section
/-! How a test evaluates on the rule that is asked for, the target and the credentials, and
how deep calls may nest. -/
variable (eval : String → Target → Context → Test → Except Exn Bool) (limit : Nat)

/-- A lookup in the enforcer's rules raises a `KeyError` where the rule is missing. -/
def isKeyError : Exn → Bool
  | .keyError _ => true
  | _ => false

/-- The library's evaluation of a check whose references are looked up in `rules`. -/
def checkRule (rules : String → Option (Check Test String)) (rule : String) (target : Target) (context : Context)
    (doCheck : Check Test String) : Except Exn Bool :=
  check (eval rule target context) isKeyError (.exception "maximum recursion depth exceeded") rules limit doCheck

def authorize (file : PolicyFile Test) (rule : String) (target : Target) (context : Context) :
    Eff (Enforcer Test) Exn Bool := do
  Eff.attempt (loadRules file) fun _ => pure ()
  let e ← Eff.gets id
  match (e.fileRules.lookup rule).or (e.registered rule) with
  | none => pure false
  | some doCheck => Eff.attempt (Eff.lift (checkRule eval limit e.registered rule target context doCheck)) fun _ => pure false

/-- The evaluation of a rule of one rule set, with every reference looked up in another. -/
def evaluateIn (own rules : String → Option (Check Test String)) (rule : String) (target : Target) (context : Context) :
    Bool :=
  match own rule with
  | none => false
  | some doCheck =>
    match checkRule eval limit rules rule target context doCheck with
    | .ok v => v
    | .error _ => false

/-- The evaluation of a rule in the merged rule set: every reference is looked up there. -/
def evaluateMerged (e : Enforcer Test) : String → Target → Context → Bool := evaluateIn eval limit e.merged e.merged

/-- What the rules in force say, where references are looked up among the registered ones. -/
def permits (e : Enforcer Test) : String → Target → Context → Bool := evaluateIn eval limit e.merged e.registered

/-- The file overrides no name that a reference looks up in the evaluation of the rule. -/
def Undiverted (e : Enforcer Test) (rule : String) (target : Target) (context : Context) : Prop :=
  ∀ doCheck ∈ e.merged rule,
    ∀ name ∈ lookups (eval rule target context) isKeyError (.exception "maximum recursion depth exceeded")
        e.registered limit doCheck,
      e.fileRules.lookup name = none ∨ e.fileRules.lookup name = e.registered name

variable {eval limit}

theorem authorize_run (file : PolicyFile Test) (rule : String) (target : Target) (context : Context)
    (e : Enforcer Test) : authorize eval limit file rule target context e =
      (.ok (permits eval limit (e.loaded file) rule target context), e.loaded file) := by
  rw [authorize, Eff.bind_ok (Eff.attempt_ignore (loadRules file) e), Eff.bind_ok (Eff.gets_run id _), permits, evaluateIn]
  show (match (e.loaded file).merged rule with
    | none => pure false
    | some doCheck =>
      Eff.attempt (Eff.lift (checkRule eval limit (e.loaded file).registered rule target context doCheck))
        fun _ => pure false : Eff (Enforcer Test) Exn Bool) (e.loaded file) = _
  cases (e.loaded file).merged rule with
  | none => rfl
  | some doCheck =>
    simp only [Eff.attempt_run, Eff.lift_run]
    cases checkRule eval limit (e.loaded file).registered rule target context doCheck with
    | ok v => rfl
    | error x => rfl

theorem authorize_merged {file : PolicyFile Test} {rule : String} {target : Target} {context : Context}
    {e : Enforcer Test} (undiverted : Undiverted eval limit (e.loaded file) rule target context) :
    (authorize eval limit file rule target context e).1 =
      .ok (evaluateMerged eval limit (e.loaded file) rule target context) := by
  rw [authorize_run, permits, evaluateMerged, evaluateIn, evaluateIn]
  cases found : (e.loaded file).merged rule with
  | none => rfl
  | some doCheck =>
    have same : checkRule eval limit (e.loaded file).registered rule target context doCheck =
        checkRule eval limit (e.loaded file).merged rule target context doCheck := by
      refine check_congr limit doCheck fun name looked => ?_
      rw [Enforcer.merged]
      rcases undiverted doCheck found name looked with none | same
      · rw [none, Option.none_or]
      · rw [same, Option.or_self]
    simp only [same]

end

/-! ## A policy file that overrides an alias -/

/-- A test of a role of the credentials. -/
def hasRole {Target : Type} (_ : String) (_ : Target) (roles : List String) (role : String) : Except Exn Bool := .ok (roles.contains role)

def masakari : Enforcer String where
  service := "masakari"
  rules := [("admin_api", .test "admin"), ("os_masakari_api:extensions:discoverable", .rule "admin_api")]
  fileRules := []

/-- A file that overrides the rule asked for, with an alias that it leaves alone. -/
theorem authorize_merged_masakari :
    (authorize hasRole 1000 (.read true [("os_masakari_api:extensions:discoverable", .not (.rule "admin_api"))])
      "os_masakari_api:extensions:discoverable" () ["admin"] masakari).1 = .ok false := by
  refine (authorize_merged ?_).trans rfl
  intro doCheck found name looked
  obtain rfl : .not (.rule "admin_api") = doCheck := Option.some.inj found
  obtain rfl : name = "admin_api" := List.mem_singleton.mp looked
  exact .inl rfl

/-- A file that overrides an alias does not change what the alias means inside a rule. -/
theorem authorize_not_merged :
    ¬ ∀ (e : Enforcer String) (file : PolicyFile String) (rule : String) (roles : List String),
      (authorize hasRole 1000 file rule () roles e).1 = .ok (evaluateMerged hasRole 1000 (e.loaded file) rule () roles) := by
  intro always
  have same := always masakari (.read true [("admin_api", .test "operator")]) "os_masakari_api:extensions:discoverable"
    ["admin"]
  cases same

end Skyline.Policy
