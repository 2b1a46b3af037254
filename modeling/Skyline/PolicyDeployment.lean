import Skyline.Policy
import Skyline.PolicyValidation
import Skyline.SampleFiles

/-!
The policy files of the services, as `generate_conf` of `cmd/policy_manager.py` writes them of the rules of
the console. A service that reads its file enforces the check strings of the console over those that it
registers itself; where validation has nothing to complain of, what the console says of a rule is
what the service does with it (`deployed_agrees`).
-/
namespace Skyline.PolicyDeployment
open Skyline.Checks Skyline.Logging.Logged Skyline.Policy Skyline.PolicyRules Skyline.PolicyValidation Skyline.Python
open Skyline.Raising Skyline.SampleFiles
open Skyline.Yaml (Document Loads document told)

/-! ## The policy files -/

/-- A rule of the console, and the check string by which the console decides it, if it has one of its own. -/
structure Managed where
  rule : AnyRule
  basicCheckStr : String

/-- What the console registers of it. -/
def Managed.registered (m : Managed) : Policy.Rule := .init m.rule.name m.rule.checkStr m.basicCheckStr

section
variable (env : PolicyRules.Env)

def formatIntoYaml : AnyRule → String
  | .rule r => r.formatIntoYaml
  | .api r => r.formatIntoYaml env

def policyYaml (desc service : String) (rules : List AnyRule) : String :=
  "####################\n# " ++ service ++ "\n####################\n" ++ "# " ++ desc ++ "\n\n" ++
    String.join (rules.map (formatIntoYaml env))

/-- The files that are written, with their services. -/
def generateConf (desc : String) (serviceRules : List (String × List AnyRule)) : List (String × String) :=
  serviceRules.map fun (service, rules) => (service, policyYaml env desc service rules)

end

/-! ## A service -/

variable {Test Target Context : Type}

section
variable (parseRule : String → Check Test String)

/-- `policy.Rules.load`, of the document that the text is. -/
def fileRules : Document → RuleMap Test
  | .null => []
  | .mapping entries => entries.map fun item => (String.ofList item.1, parseRule (String.ofList item.2))

/-- The rules that a service registers. -/
def defaults (osRules : List OsloRule) : RuleMap Test :=
  osRules.map fun osRule => (osRule.name, parseRule osRule.toRuleDefault.checkStr)

end

/-- The enforcer of oslo.policy in a service: which rule it enforces under a name, by those of its file and
    those that it registers. The file comes first. -/
structure ServiceEnforcer (Test : Type) where
  enforced (file registered : RuleMap Test) (name : String) : Option (Check Test String)
  fileFirst {file registered name doCheck} : file.lookup name = some doCheck → enforced file registered name = some doCheck

/-- A name without a rule stands for the rule `default`, if there is one. -/
def documentedEnforcer : ServiceEnforcer Test where
  enforced file registered name :=
    ((file.lookup name).or (registered.lookup name)).or ((file.lookup "default").or (registered.lookup "default"))
  fileFirst found := by rw [found]; rfl

/-- The rules of a service that has read the document in its policy file. -/
def inService (oslo : ServiceEnforcer Test) (parseRule : String → Check Test String) (packages : Packages) (service : String)
    (read : Document) : String → Option (Check Test String) :=
  oslo.enforced (fileRules parseRule read) (defaults parseRule (packages.registered service))

section
variable (eval : String → Target → Context → Test → Except Exn Bool) (limit : Nat)

/-- Whether the check of a rule lets a request pass. The scope of the token is looked at apart from it. -/
def passes (rules : String → Option (Check Test String)) : String → Target → Context → Bool :=
  evaluateIn eval limit rules rules

/-- The names that the check of a rule looks up in a rule set. -/
def references (rules : String → Option (Check Test String)) (rule : String) (target : Target) (context : Context)
    (doCheck : Check Test String) : List String :=
  lookups (eval rule target context) isKeyError (.exception "maximum recursion depth exceeded") rules limit doCheck

end

/-! ## The specification -/

/-- The console decides the rule of a name by the check string that it writes into the file. -/
def Plain (rules : List Managed) (name : String) : Prop :=
  ∃ m ∈ rules, m.rule.name = name ∧ m.registered.basicCheckStr = m.rule.checkStr

/-- Of which no line stands outside of its comment. -/
def Shown : AnyRule → Prop
  | .rule r => Commentable [] r.description
  | .api r => Commentable [] r.description ∧ ∀ operation ∈ r.operations, Commentable [] operation.path

/-- The rules can be written into a policy file. -/
structure Printable (rules : List Managed) : Prop where
  quotable : ∀ m ∈ rules, Quotable (m.rule.name.toList, m.rule.checkStr.toList)
  shown : ∀ m ∈ rules, Shown m.rule

/-! ## Rule maps -/

section
variable {α β : Type} {key : α → String} {value : α → β} {xs : List α} {k : String}

theorem lookup_map (distinct : (xs.map key).Nodup) {x : α} (member : x ∈ xs) :
    (xs.map fun x => (key x, value x)).lookup (key x) = some (value x) := by
  induction xs with
  | nil => cases member
  | cons y xs ih =>
    rw [List.map_cons, List.nodup_cons] at distinct
    rw [List.map_cons, List.lookup_cons]
    rcases List.mem_cons.mp member with rfl | later
    · rw [beq_self_eq_true]
    · have apart : key x ≠ key y := fun same => distinct.1 (same ▸ List.mem_map_of_mem later)
      rw [beq_false_of_ne apart]
      exact ih distinct.2 later

end

section
variable {env : PolicyRules.Env} {parseRule : String → Check Test String} {rules : List Managed}

theorem registerLoop_ok {ruleMap result : RuleMap Test} {rules : List Policy.Rule}
    (registered : registerLoop parseRule ruleMap rules = .ok result) (distinct : (ruleMap.map Prod.fst).Nodup) :
    result = ruleMap ++ rules.map (fun r => (r.name, parseRule r.basicCheckStr)) ∧ (result.map Prod.fst).Nodup := by
  induction rules generalizing ruleMap with
  | nil =>
    cases registered
    exact ⟨(List.append_nil _).symm, distinct⟩
  | cons rule rules ih =>
    rw [registerLoop] at registered
    split at registered
    · cases registered
    · next new =>
      have fresh : rule.name ∉ ruleMap.map Prod.fst := by
        intro there
        obtain ⟨⟨name, c⟩, member, rfl⟩ := List.mem_map.mp there
        exact new (List.lookup_isSome_iff.mpr ⟨_, member, beq_self_eq_true _⟩)
      have longer : ((ruleMap ++ [(rule.name, parseRule rule.basicCheckStr)]).map Prod.fst).Nodup := by
        rw [List.map_append, List.nodup_append]
        refine ⟨distinct, List.nodup_singleton _, ?_⟩
        rintro name there _ last rfl
        obtain rfl := List.mem_singleton.mp last
        exact fresh there
      obtain ⟨same, nodup⟩ := ih registered longer
      exact ⟨by rw [same, List.append_assoc]; rfl, nodup⟩

/-- The console has every rule of the service, by its own check string, or does not start. -/
theorem setup_ok {service : String} {enforcer : Enforcer Test}
    (started : setup parseRule service (rules.map Managed.registered) = .ok (some enforcer)) :
    rules ≠ [] ∧ (rules.map fun m => m.rule.name).Nodup ∧
      ∀ m ∈ rules, enforcer.registered m.rule.name = some (parseRule m.registered.basicCheckStr) := by
  rw [setup_registers] at started
  split at started
  · cases started
  · next some_ =>
    cases looped : registerRules parseRule (rules.map Managed.registered) with
    | error e => simp [looped, Except.map] at started
    | ok ruleMap =>
      rw [looped] at started
      obtain rfl : (⟨service, ruleMap, []⟩ : Enforcer Test) = enforcer := Option.some.inj (Except.ok.inj started)
      obtain ⟨same, distinct⟩ := registerLoop_ok looped List.nodup_nil
      rw [List.nil_append, List.map_map] at same
      have names : ruleMap.map Prod.fst = rules.map fun m => m.rule.name := by
        rw [same, List.map_map]
        rfl
      rw [names] at distinct
      refine ⟨fun none => some_ (by rw [none]; rfl), distinct, fun m member => ?_⟩
      show ruleMap.lookup m.rule.name = _
      rw [same]
      have found : (rules.map fun m => (m.rule.name, parseRule m.registered.basicCheckStr)).lookup m.rule.name =
          some (parseRule m.registered.basicCheckStr) := lookup_map distinct member
      exact found

/-! ## What a policy file tells -/

/-- The mapping from the names of the rules to their check strings. -/
def entriesOf (rules : List AnyRule) : Yaml.Dict := rules.map fun r => (r.name.toList, r.checkStr.toList)

/-- The scopes of a rule are among those that there are. -/
def InScope : AnyRule → Prop
  | .rule _ => True
  | .api r => r.scopeTypes.all scopes.contains = true

theorem tells_description {description : String} (shown : Commentable [] description) :
    Tells ('#' :: ([' '] ++ description.toList ++ ['\n'])) [] :=
  tells_comment (silent_quiet (by decide) shown.1 shown.2)

theorem tells_formatted {r : AnyRule} (shown : Shown r) (inScope : InScope r) :
    Tells (formatIntoYaml env r).toList [(r.name.toList, r.checkStr.toList)] := by
  cases r with
  | rule r =>
    have whole := (tells_description shown).append (tells_entry r.name.toList r.checkStr.toList)
    have text : (formatIntoYaml env (.rule r)).toList = '#' :: ([' '] ++ r.description.toList ++ ['\n']) ++
        (Yaml.quote r.name.toList r.checkStr.toList ++ ['\n', '\n']) := by
      simp [formatIntoYaml, Rule.formatIntoYaml, str_toList]
    rw [text]
    exact whole
  | api r =>
    have operations : Tells (r.operations.flatMap fun operation => (operationLine operation).toList)
        (r.operations.flatMap fun _ => []) :=
      Tells.flatMap fun operation member => tells_operation (shown.2 operation member)
    have none : (r.operations.flatMap fun _ => ([] : Yaml.Dict)) = [] := List.flatMap_eq_nil_iff.mpr fun _ _ => rfl
    have scopesTell : Tells (scopeLine env r.scopeTypes).toList [] := tells_scopes inScope
    have whole := (((tells_description shown.1).append operations).append scopesTell).append
      (tells_entry r.name.toList r.checkStr.toList)
    have text : (formatIntoYaml env (.api r)).toList = '#' :: ([' '] ++ r.description.toList ++ ['\n']) ++
        (r.operations.flatMap fun operation => (operationLine operation).toList) ++ (scopeLine env r.scopeTypes).toList ++
        (Yaml.quote r.name.toList r.checkStr.toList ++ ['\n', '\n']) := by
      simp only [formatIntoYaml, APIRule.formatIntoYaml, String.toList_append, str_toList, String.toList_join,
        List.flatMap_map]
      simp
    rw [none] at whole
    rw [text]
    exact whole

theorem tells_policyYaml {desc service : String} {rules : List AnyRule} (quiet : Quiet service.toList)
    (described : Commentable [] desc) (shown : ∀ r ∈ rules, Shown r) (inScope : ∀ r ∈ rules, InScope r) :
    Tells (policyYaml env desc service rules).toList (entriesOf rules) := by
  have frame : Tells ('#' :: ("###################".toList ++ ['\n'])) [] := tells_comment (Quiet.silent (by decide))
  have named : Tells ('#' :: ([' '] ++ service.toList ++ ['\n'])) [] :=
    tells_comment (Quiet.append (by decide) quiet).silent
  have rulesTell : Tells (rules.flatMap fun r => (formatIntoYaml env r).toList)
      (rules.flatMap fun r => [(r.name.toList, r.checkStr.toList)]) :=
    Tells.flatMap fun r member => tells_formatted (shown r member) (inScope r member)
  have header := (((frame.append named).append frame).append (tells_description described)).append tells_feed
  have whole := header.append rulesTell
  have text : (policyYaml env desc service rules).toList = '#' :: ("###################".toList ++ ['\n']) ++
      '#' :: ([' '] ++ service.toList ++ ['\n']) ++ '#' :: ("###################".toList ++ ['\n']) ++
      '#' :: ([' '] ++ desc.toList ++ ['\n']) ++ ['\n'] ++ rules.flatMap fun r => (formatIntoYaml env r).toList := by
    unfold policyYaml
    simp only [String.toList_append, String.toList_join, List.flatMap_map]
    simp
  rw [text, entriesOf, List.map_eq_flatMap]
  exact whole

variable {ε : Type} {load : List Char → Except ε Document}

/-- The policy file of a service is loaded as the mapping from the names to the check strings. -/
theorem policyYaml_loads (loads : Loads load) {desc service : String} {rules : List AnyRule} (quiet : Quiet service.toList)
    (described : Commentable [] desc) (shown : ∀ r ∈ rules, Shown r) (inScope : ∀ r ∈ rules, InScope r)
    (distinct : (rules.map AnyRule.name).Nodup) (quotable : ∀ r ∈ rules, Quotable (r.name.toList, r.checkStr.toList)) :
    load (policyYaml env desc service rules).toList = .ok (document (entriesOf rules)) := by
  have tells : Tells (policyYaml env desc service rules).toList (entriesOf rules) :=
    tells_policyYaml quiet described shown inScope
  have writable : ∀ item ∈ entriesOf rules, Quotable item := List.forall_mem_map.mpr quotable
  have lines : told (policyYaml env desc service rules).toList =
      (entriesOf rules).flatMap fun item => told (Yaml.quote item.1 item.2) := by
    have whole := tells.lines []
    rw [List.append_nil] at whole
    exact whole.trans (List.append_nil _)
  have names : ((entriesOf rules).map Prod.fst).Nodup := by
    have apart := distinct.map fun _ _ => String.toList_inj.mp
    rw [List.map_map] at apart
    rw [entriesOf, List.map_map]
    exact apart
  refine loads _ _ ((Yaml.read_quotes ?_ lines names).mpr fun item member => (writable item member).toWritable)
  rw [tells.legible, List.all_eq_true]
  exact fun item member => (writable item member).legible

theorem fileRules_document (rules : List AnyRule) : fileRules parseRule (document (entriesOf rules)) =
    rules.map fun r => (r.name, parseRule r.checkStr) := by
  have read (d : Yaml.Dict) : fileRules parseRule (document d) =
      d.map fun item => (String.ofList item.1, parseRule (String.ofList item.2)) := by
    cases d <;> rfl
  rw [read, entriesOf, List.map_map]
  simp [Function.comp_def]

end

/-! ## The console and the services -/

section
variable {env : PolicyRules.Env} {parseRule : String → Check Test String} {rules : List Managed}
  {eval : String → Target → Context → Test → Except Exn Bool} {limit : Nat}

theorem known_inScope {osRules : List OsloRule} {r : AnyRule} (known : Known env osRules r) : InScope r := by
  obtain ⟨osRule, -, -, own, made, alike⟩ := known
  cases alike with
  | rule _ _ => exact trivial
  | api r own scopeTypes _ =>
    cases osRule with
    | default _ => cases made
    | documented rule =>
      rw [AnyRule.fromOslo] at made
      cases fromOslo : APIRule.fromOslo env rule with
      | error e => simp [fromOslo, Except.map] at made
      | ok made' =>
        rw [fromOslo] at made
        obtain rfl := AnyRule.api.inj (Except.ok.inj made)
        show r.scopeTypes.all scopes.contains = true
        rw [scopeTypes]
        exact (fromOslo_ok fromOslo).2.1

theorem known_supported {packages : Packages} {service : String} {r : AnyRule}
    (known : Known env (packages.registered service) r) :
    service ∈ supportedServiceEps.map Prod.fst := by
  obtain ⟨osRule, member, -⟩ := known
  unfold Packages.registered at member
  cases found : supportedServiceEps.lookup service with
  | none =>
    rw [found] at member
    cases member
  | some eps => exact List.mem_map_of_mem (Literals.mem_of_lookup found)

theorem lookup_written (distinct : (rules.map fun m => m.rule.name).Nodup) {m : Managed} (member : m ∈ rules) :
    (rules.map fun m => (m.rule.name, parseRule m.rule.checkStr)).lookup m.rule.name = some (parseRule m.rule.checkStr) :=
  lookup_map distinct member

/-- The console decides a rule as a rule set does that has the same check of it, and the same checks
    under the names that it refers to. -/
theorem authorize_passes {e : Enforcer Test} {file : PolicyFile Test} {ruleSet : String → Option (Check Test String)}
    {rule : String} {target : Target} {context : Context} {doCheck : Check Test String}
    (own : (e.loaded file).merged rule = some doCheck) (same : ruleSet rule = some doCheck)
    (agree : ∀ name ∈ references eval limit e.registered rule target context doCheck, e.registered name = ruleSet name) :
    (authorize eval limit file rule target context e).1 = .ok (passes eval limit ruleSet rule target context) := by
  have checks : checkRule eval limit (e.loaded file).registered rule target context doCheck =
      checkRule eval limit ruleSet rule target context doCheck := by
    rw [loaded_registered]
    exact check_congr limit doCheck agree
  rw [authorize_run, permits, passes, evaluateIn, evaluateIn, own, same]
  simp only [checks]

variable {ε : Type} {load : List Char → Except ε Document} {packages : Packages} {diff : Bool}

/-- The rules as validation and the policy files have them. -/
def written (serviceRules : List (String × List Managed)) : List (String × List AnyRule) :=
  serviceRules.map fun (service, rules) => (service, rules.map Managed.rule)

variable (eval limit) (oslo : ServiceEnforcer Test) in
/-- Where validation completes without a complaint, and a service reads the policy file that is written for it: it
    enforces the check string of the console for each of its rules, and where the rules referred to are
    decided by these too, the console (with the same file, or without one) says of a rule what the service does. -/
theorem deployed_agrees (loads : Loads load) {serviceRules : List (String × List Managed)}
    (completes : (validate env packages diff (written serviceRules)).1 = .ok ())
    (silent : Silent Harmless (validate env packages diff (written serviceRules)))
    {service : String} (among : (service, rules) ∈ serviceRules) {enforcer : Enforcer Test}
    (started : setup parseRule service (rules.map Managed.registered) = .ok (some enforcer))
    (printable : Printable rules) {desc : String} (described : Commentable [] desc) :
    ∃ text read, (service, text) ∈ generateConf env desc (written serviceRules) ∧ load text.toList = .ok read ∧
      ∀ osRule ∈ packages.registered service, ∃ m ∈ rules, m.rule.name = osRule.name ∧
        inService oslo parseRule packages service read osRule.name = some (parseRule m.rule.checkStr) ∧
        ∀ (target : Target) (context : Context),
          (∀ name ∈ references eval limit enforcer.registered osRule.name target context (parseRule m.rule.checkStr),
            Plain rules name) →
          (authorize eval limit (.read true (fileRules parseRule read)) osRule.name target context enforcer).1 =
              .ok (passes eval limit (inService oslo parseRule packages service read) osRule.name target context) ∧
            (Plain rules osRule.name → (authorize eval limit .absent osRule.name target context enforcer).1 =
              .ok (passes eval limit (inService oslo parseRule packages service read) osRule.name target context)) := by
  obtain ⟨agreement, -⟩ := (validate_reports (written serviceRules)).sound () completes silent
  obtain ⟨something, distinct, registered⟩ := setup_ok started
  have listed : (service, rules.map Managed.rule) ∈ written serviceRules := List.mem_map.mpr ⟨_, among, rfl⟩
  have known : ∀ r ∈ rules.map Managed.rule, Known env (packages.registered service) r := agreement.known _ listed
  have quiet : Quiet service.toList := by
    obtain ⟨m, member⟩ := List.exists_mem_of_ne_nil rules something
    exact quiet_service (known_supported (known _ (List.mem_map_of_mem member)))
  have loaded : load (policyYaml env desc service (rules.map Managed.rule)).toList =
      .ok (document (entriesOf (rules.map Managed.rule))) := by
    refine policyYaml_loads loads quiet described (List.forall_mem_map.mpr printable.shown)
      (fun r member => known_inScope (known r member)) ?_ (List.forall_mem_map.mpr printable.quotable)
    rw [List.map_map]
    exact distinct
  have file : fileRules parseRule (document (entriesOf (rules.map Managed.rule))) =
      rules.map fun m => (m.rule.name, parseRule m.rule.checkStr) := by
    rw [fileRules_document, List.map_map]
    rfl
  refine ⟨_, _, List.mem_map.mpr ⟨_, listed, rfl⟩, loaded, fun osRule member => ?_⟩
  unfold inService
  rw [file]
  generalize defaults parseRule (packages.registered service) = others
  obtain ⟨r, inRules, named⟩ := agreement.managed _ listed osRule member
  obtain ⟨m, member', rfl⟩ := List.mem_map.mp inRules
  have inForce : oslo.enforced (rules.map fun m => (m.rule.name, parseRule m.rule.checkStr)) others osRule.name =
      some (parseRule m.rule.checkStr) := by
    rw [← named]
    exact oslo.fileFirst (lookup_written distinct member')
  have plainly (name : String) (plain : Plain rules name) : enforcer.registered name =
      oslo.enforced (rules.map fun m => (m.rule.name, parseRule m.rule.checkStr)) others name := by
    obtain ⟨other, there, rfl, same⟩ := plain
    rw [registered other there, same, oslo.fileFirst (lookup_written distinct there)]
  refine ⟨m, member', named, inForce, fun target context plain => ⟨?_, fun itself => ?_⟩⟩
  · refine authorize_passes ?_ inForce fun name among => plainly name (plain name among)
    have current {es : RuleMap Test} : true = false → enforcer.fileRules = [] ∨ enforcer.fileRules = es := by
      intro never
      cases never
    rw [Enforcer.merged, loaded_read current, ← named, lookup_written distinct member']
    rfl
  · refine authorize_passes ?_ inForce fun name among => plainly name (plain name among)
    exact (plainly osRule.name itself).trans inForce

end

/-! ### Nova with its file -/

/-- Nova has two rules, and the other services have one each. -/
def installed : Packages where
  listRulesFuncs ep :=
    if ep = "nova" then some [.documented serversIndex, .default adminApi]
    else if ep = "neutron-vpnaas" then none
    else some [.default adminApi]
  setOrder := id
  all _ := .refl _

/-- The console has Nova's rules with a check string for administrators of its own. -/
def novaRules : List Managed :=
  [⟨.rule ⟨"admin_api", "role:cloud_admin", "No description"⟩, ""⟩,
    ⟨.api ⟨⟨"servers:index", "rule:admin_api", "List servers."⟩, ["project"], [⟨.GET, "/servers"⟩]⟩, ""⟩]

/-- Reads a reference to the rule for administrators, and `role:` with the name of a role. -/
def parseReference (checkStr : String) : Check String String :=
  if checkStr = "rule:admin_api" then .rule "admin_api" else .test (String.ofList (checkStr.toList.drop 5))

def nova : Enforcer String where
  service := "nova"
  rules := [("admin_api", .test "cloud_admin"), ("servers:index", .rule "admin_api")]
  fileRules := []

theorem novaRules_printable : Printable novaRules where
  quotable m member := by
    rcases List.mem_cons.mp member with rfl | last
    · exact ⟨⟨by decide, by decide, by decide⟩, by decide⟩
    · obtain rfl := List.mem_singleton.mp last
      exact ⟨⟨by decide, by decide, by decide⟩, by decide⟩
  shown m member := by
    rcases List.mem_cons.mp member with rfl | last
    · exact ⟨by decide, sheltered_exempt (by decide)⟩
    · obtain rfl := List.mem_singleton.mp last
      refine ⟨⟨by decide, sheltered_exempt (by decide)⟩, fun operation among => ?_⟩
      obtain rfl := List.mem_singleton.mp among
      exact ⟨by decide, sheltered_exempt (by decide)⟩

/-- Nova lets in who has the console's role, which its own rules do not know. -/
theorem nova_deployed : ∃ text read,
    ("nova", text) ∈ generateConf asciiEnv "Rules of Nova" (written [("nova", novaRules)]) ∧
    loader text.toList = .ok read ∧
      passes hasRole 1000 (inService documentedEnforcer parseReference installed "nova" read) "servers:index" ()
        ["cloud_admin"] = true := by
  have quiet : validate asciiEnv installed false (written [("nova", novaRules)]) = (.ok (), [completed]) := rfl
  have completes : (validate asciiEnv installed false (written [("nova", novaRules)])).1 = .ok () := by rw [quiet]
  have silent : Silent Harmless (validate asciiEnv installed false (written [("nova", novaRules)])) := by
    rw [quiet]
    exact List.forall_mem_singleton.mpr rfl
  have started : setup parseReference "nova" (novaRules.map Managed.registered) = .ok (some nova) := rfl
  have described : Commentable [] "Rules of Nova" := ⟨by decide, sheltered_exempt (by decide)⟩
  obtain ⟨text, read, file, loaded, each⟩ := deployed_agrees hasRole 1000 documentedEnforcer loader_loads completes silent
    List.mem_cons_self started novaRules_printable described
  refine ⟨text, read, file, loaded, ?_⟩
  obtain ⟨m, member, named, -, decides⟩ := each (.documented serversIndex) (by decide)
  have whole : m =
      ⟨.api ⟨⟨"servers:index", "rule:admin_api", "List servers."⟩, ["project"], [⟨.GET, "/servers"⟩]⟩, ""⟩ := by
    rcases List.mem_cons.mp member with rfl | last
    · exact absurd named (by decide)
    · exact List.mem_singleton.mp last
  subst whole
  obtain ⟨-, alone⟩ := decides () ["cloud_admin"] fun name among => by
    obtain rfl : name = "admin_api" := List.mem_singleton.mp among
    exact ⟨_, List.mem_cons_self, rfl, rfl⟩
  have said := alone ⟨_, member, rfl, rfl⟩
  have allowed : (Policy.authorize hasRole 1000 .absent "servers:index" () ["cloud_admin"] nova).1 = .ok true := rfl
  exact Except.ok.inj (said.symm.trans allowed)

end Skyline.PolicyDeployment
