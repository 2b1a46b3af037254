import Skyline.Literals
import Skyline.Python

/-!
The rules of the policies (`policy/manager/base.py`), and the two files that are made of the rules of
OpenStack's services (`cmd/policy_manager.py`): a sample of a policy file, and the module in which
Skyline itself has the rules.
-/
namespace Skyline.PolicyRules
open Skyline.Python

/-! ## The rules of a service -/

/-- `oslo_policy.policy.RuleDefault`. -/
structure RuleDefault where
  name : String
  checkStr : String
  description : Option String
  deriving DecidableEq, Repr

/-- What an operation has under `method`. -/
inductive OsloMethod
  | list (methods : List String)
  | str (method : String)
  | other
  deriving DecidableEq, Repr

structure OsloOperation where
  method : OsloMethod
  path : Option String
  deriving DecidableEq, Repr

/-- `oslo_policy.policy.DocumentedRuleDefault`. -/
structure DocumentedRuleDefault extends RuleDefault where
  /-- The scopes, where they are given as a list. -/
  scopeTypes : Option (List String)
  operations : List OsloOperation
  deriving DecidableEq, Repr

inductive OsloRule
  | documented (rule : DocumentedRuleDefault)
  | default (rule : RuleDefault)
  deriving DecidableEq, Repr

/-! ## The rules of Skyline -/

inductive Method
  | GET | POST | PUT | PATCH | DELETE | HEAD
  deriving DecidableEq, Repr

def Method.value : Method → String
  | .GET => "GET"
  | .POST => "POST"
  | .PUT => "PUT"
  | .PATCH => "PATCH"
  | .DELETE => "DELETE"
  | .HEAD => "HEAD"

def Method.ofValue (value : String) : Option Method :=
  [Method.GET, .POST, .PUT, .PATCH, .DELETE, .HEAD].find? fun method => method.value == value

/-- `OperationSchema`. -/
structure Operation where
  method : Method
  path : String
  deriving DecidableEq, Repr

structure Rule where
  name : String
  checkStr : String
  description : String
  deriving DecidableEq, Repr

structure APIRule extends Rule where
  scopeTypes : List String
  operations : List Operation
  deriving DecidableEq, Repr

/-- What is taken from Python, and the comment at the top of the module that is generated. -/
structure Env where
  upper : String → String
  printable : Char → Bool
  preamble : String

/-- `Rule.__init__`. -/
def Rule.init (name checkStr description : String) : Rule :=
  { name, checkStr, description := if truthy description then description else "No description" }

/-- What a character of a description is replaced by. -/
def hashed (c : Char) : List Char := if c = '\n' then ['\n', '#'] else [c]

/-- `description.replace("\n", "\n#")`. -/
def commented (description : String) : String := String.ofList (description.toList.flatMap hashed)

def Rule.fromOslo (rule : RuleDefault) : Rule :=
  .init rule.name rule.checkStr (commented (rule.description.getD ""))

/-- The values of `ScopeType`. -/
def scopes : List String := ["system", "domain", "project"]

/-- `OperationsSchema.model_validate`. -/
def validateOperation (operation : String × String) : Except Exn Operation :=
  match Method.ofValue operation.1 with
  | some method => .ok { method, path := operation.2 }
  | none => .error (.valueError "OperationsSchema")

/-- `APIRule.__init__`. -/
def APIRule.init (name checkStr description : String) (scopeTypes : List String) (operations : List (String × String)) :
    Except Exn APIRule := do
  if !scopeTypes.all scopes.contains then .error (.valueError "ScopeTypesSchema")
  let operations ← operations.mapM validateOperation
  return { toRule := .init name checkStr description, scopeTypes, operations }

section
variable (env : Env)

/-- An operation for each of the methods. -/
def operationsOf (operation : OsloOperation) : List (String × String) :=
  match operation.method with
  | .list methods => methods.map fun method => (env.upper method, operation.path.getD "")
  | .str method => [(env.upper method, operation.path.getD "")]
  | .other => [("GET", operation.path.getD "")]

def APIRule.fromOslo (rule : DocumentedRuleDefault) : Except Exn APIRule :=
  APIRule.init rule.name rule.checkStr (commented (rule.description.getD "")) (rule.scopeTypes.getD ["project"])
    (rule.operations.flatMap (operationsOf env))

/-- The rules so far, those without and those with documentation. -/
abbrev Rules : Type := List Rule × List APIRule

def addRule (rules : Rules) : OsloRule → Except Exn Rules
  | .documented rule => do
    let apiRule ← APIRule.fromOslo env rule
    return (rules.1, rules.2 ++ [apiRule])
  | .default rule => .ok (rules.1 ++ [Rule.fromOslo rule], rules.2)

/-- How a list is shown whose elements are shown so. -/
def listRepr (elements : List String) : String := "[" ++ String.intercalate ", " elements ++ "]"

/-! ## The sample of a policy file -/

/-- `str(rule)`. -/
def Rule.str (rule : Rule) : String := "\"" ++ rule.name ++ "\": \"" ++ rule.checkStr ++ "\""

def Rule.formatIntoYaml (rule : Rule) : String := "# " ++ rule.description ++ "\n" ++ rule.str ++ "\n\n"

/-- `f"{text:8}"`. -/
def ljust8 (text : String) : String := text ++ String.ofList (List.replicate (8 - text.length) ' ')

def operationLine (operation : Operation) : String := "# " ++ ljust8 operation.method.value ++ operation.path ++ "\n"

def scopeLine (scopeTypes : List String) : String :=
  "# Intended scope(s): " ++ listRepr (scopeTypes.map (Literals.repr env.printable)) ++ "\n"

def APIRule.formatIntoYaml (rule : APIRule) : String :=
  "# " ++ rule.description ++ "\n" ++ String.join (rule.operations.map operationLine) ++ scopeLine env rule.scopeTypes ++
    rule.toRule.str ++ "\n\n"

/-- What is written into the file of a service. -/
def sample (service : String) (rules : Rules) : String :=
  "####################\n# " ++ service ++ "\n####################\n\n" ++
    String.join (rules.1.map Rule.formatIntoYaml) ++ String.join (rules.2.map (APIRule.formatIntoYaml env))

/-- `SUPPORTED_SERVICE_EPS`. -/
def supportedServiceEps : List (String × List String) :=
  [("barbican", ["barbican"]), ("cinder", ["cinder"]), ("designate", ["designate"]), ("glance", ["glance"]),
   ("heat", ["heat"]), ("ironic", ["ironic.api"]), ("ironic_inspector", ["ironic_inspector.api"]),
   ("keystone", ["keystone"]), ("magnum", ["magnum"]), ("manila", ["manila"]), ("masakari", ["masakari"]),
   ("neutron", ["neutron", "neutron-vpnaas"]), ("nova", ["nova"]), ("octavia", ["octavia"]), ("panko", ["panko"]),
   ("placement", ["placement"]), ("trove", ["trove"]), ("zun", ["zun"])]

/-- The files of `generate_sample`, with their services: an entry point that is not installed gives no
    rules. All rules are made before the first file is written. -/
def generateSample (listRulesFuncs : String → Option (List OsloRule)) : Except Exn (List (String × String)) :=
  supportedServiceEps.mapM fun (service, eps) => do
    let rules ← (eps.flatMap fun ep => (listRulesFuncs ep).getD []).foldlM (addRule env) ([], [])
    return (service, sample env service rules)

/-! ## The module with the rules -/

def headerStr : String := env.preamble ++ "\n# flake8: noqa\n# fmt: off\n\nfrom . import base\n\nlist_rules = ("

def ruleFormatStr (name checkStr description : String) : String :=
  "    base.Rule(\n        name=" ++ name ++ ",\n        check_str=(" ++ checkStr ++ "),\n        description=" ++
    description ++ ",\n    ),"

def apiruleFormatStr (name checkStr description scopeTypes operations : String) : String :=
  "    base.APIRule(\n        name=" ++ name ++ ",\n        check_str=(" ++ checkStr ++ "),\n        description=" ++
    description ++ ",\n        scope_types=" ++ scopeTypes ++ ",\n        operations=" ++ operations ++ ",\n    ),"

/-- How the dictionary of an operation is shown. -/
def operationRepr (operation : Operation) : String :=
  "\x7b'method': <Method." ++ operation.method.value ++ ": '" ++ operation.method.value ++ "'>, 'path': " ++
    Literals.repr env.printable operation.path ++ "\x7d"

def footerStr : String := ")\n\n__all__ = (\"list_rules\",)"

/-- What `generate_rule` prints of the rules. -/
def ruleCode (rules : Rules) : String :=
  headerStr env ++ "\n" ++
    String.join (rules.1.map fun r => ruleFormatStr r.name r.checkStr r.description ++ "\n") ++
    String.join (rules.2.map fun r => apiruleFormatStr r.name r.checkStr r.description
      (listRepr (r.scopeTypes.map (Literals.repr env.printable))) (listRepr (r.operations.map (operationRepr env))) ++ "\n") ++
    footerStr ++ "\n"

/-- The rules of an entry point, which has to be installed. -/
def addEntryPoint (loadListRulesFunc : String → Option (List OsloRule)) (rules : Rules) (entryPoint : String) : Except Exn Rules :=
  match loadListRulesFunc entryPoint with
  | none => .error (.exception ("Not found entry point '" ++ entryPoint ++ "' in oslo.policy.policies namespace."))
  | some epRules => epRules.foldlM (addRule env) rules

def collectRules (loadListRulesFunc : String → Option (List OsloRule)) (entryPoints : List String) : Except Exn Rules :=
  entryPoints.foldlM (addEntryPoint env loadListRulesFunc) ([], [])

/-- What is printed: nothing for a service that is not supported. -/
def generateRule (loadListRulesFunc : String → Option (List OsloRule)) (service : String) : Except Exn String :=
  let entryPoints := (supportedServiceEps.lookup service).getD []
  if entryPoints.isEmpty then .ok ""
  else do
    let rules ← collectRules env loadListRulesFunc entryPoints
    return ruleCode env rules

end

end Skyline.PolicyRules
