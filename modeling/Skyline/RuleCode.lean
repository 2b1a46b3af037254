import Skyline.PolicyRules
import Skyline.Raising

/-!
The module that is generated of the rules of a service. For it to be what it should be, the names,
check strings and descriptions have to be in it as literals, which are longer than their values; but
it has the values themselves.
-/
namespace Skyline.RuleCode
open Skyline.Python Skyline.Raising Skyline.Literals Skyline.PolicyRules

/-! ## The specification -/

section
variable (names : Literals.Text → Option Char) (env : Env)

/-- The text is a literal with the value. -/
def Writes (text value : String) : Prop := IsLiteral names text.toList value.toList

/-- The entry has the name, the check string and the description of the rule as literals. -/
def RuleEntry (r : Rule) (entry : String) : Prop :=
  ∃ name checkStr description, Writes names name r.name ∧ Writes names checkStr r.checkStr ∧
    Writes names description r.description ∧ entry = ruleFormatStr name checkStr description ++ "\n"

def APIRuleEntry (r : APIRule) (entry : String) : Prop :=
  ∃ name checkStr description, Writes names name r.name ∧ Writes names checkStr r.checkStr ∧
    Writes names description r.description ∧ entry = apiruleFormatStr name checkStr description
      (listRepr (r.scopeTypes.map (Literals.repr env.printable))) (listRepr (r.operations.map (operationRepr env))) ++ "\n"

/-- The text is a module with an entry for each rule. -/
def ModuleOf (rules : Rules) (text : String) : Prop :=
  ∃ entries apiEntries, List.Forall₂ (RuleEntry names) rules.1 entries ∧
    List.Forall₂ (APIRuleEntry names env) rules.2 apiEntries ∧
      text = headerStr env ++ "\n" ++ String.join entries ++ String.join apiEntries ++ footerStr ++ "\n"

end

/-! ## Entries are longer than what is printed -/

section
variable {names : Literals.Text → Option Char} {env : Env}

theorem Writes.length {text value : String} (writes : Writes names text value) : value.length + 2 ≤ text.length :=
  IsLiteral.length writes

section
variable {name checkStr description name' checkStr' description' : String}

theorem append_length {s t : String} (longer : s.length < t.length) (u : String) : (s ++ u).length < (t ++ u).length := by
  rw [String.length_append, String.length_append]
  exact Nat.add_lt_add_right longer _

/-- The beginning of an entry is longer where its texts are. -/
theorem beginning_length (opening check descr : String) (named : name.length < name'.length)
    (checked : checkStr.length < checkStr'.length) (described : description.length < description'.length) :
    (opening ++ name ++ check ++ checkStr ++ descr ++ description).length <
      (opening ++ name' ++ check ++ checkStr' ++ descr ++ description').length := by
  simp only [String.length_append]
  omega

theorem ruleFormatStr_length (named : name.length < name'.length) (checked : checkStr.length < checkStr'.length)
    (described : description.length < description'.length) :
    (ruleFormatStr name checkStr description ++ "\n").length < (ruleFormatStr name' checkStr' description' ++ "\n").length :=
  append_length (append_length (beginning_length _ _ _ named checked described) _) _

theorem apiruleFormatStr_length (scopeTypes operations : String) (named : name.length < name'.length)
    (checked : checkStr.length < checkStr'.length) (described : description.length < description'.length) :
    (apiruleFormatStr name checkStr description scopeTypes operations ++ "\n").length <
      (apiruleFormatStr name' checkStr' description' scopeTypes operations ++ "\n").length := by
  have beginning := append_length (beginning_length "    base.APIRule(\n        name=" ",\n        check_str=("
    "),\n        description=" named checked described) ",\n        scope_types="
  exact append_length (append_length (append_length (append_length (append_length beginning _) _) _) _) _

end

theorem RuleEntry.length {r : Rule} {entry : String} (own : RuleEntry names r entry) :
    (ruleFormatStr r.name r.checkStr r.description ++ "\n").length < entry.length := by
  obtain ⟨name, checkStr, description, named, checked, described, rfl⟩ := own
  exact ruleFormatStr_length (Nat.lt_of_succ_lt named.length) (Nat.lt_of_succ_lt checked.length)
    (Nat.lt_of_succ_lt described.length)

theorem APIRuleEntry.length {r : APIRule} {entry : String} (own : APIRuleEntry names env r entry) :
    (apiruleFormatStr r.name r.checkStr r.description (listRepr (r.scopeTypes.map (Literals.repr env.printable)))
      (listRepr (r.operations.map (operationRepr env))) ++ "\n").length < entry.length := by
  obtain ⟨name, checkStr, description, named, checked, described, rfl⟩ := own
  exact apiruleFormatStr_length _ _ (Nat.lt_of_succ_lt named.length) (Nat.lt_of_succ_lt checked.length)
    (Nat.lt_of_succ_lt described.length)

/-- Longer texts come to a longer text, by one for each at least. -/
theorem join_length {α : Type} {R : α → String → Prop} {print : α → String} {xs : List α} {entries : List String}
    (all : List.Forall₂ R xs entries) (longer : ∀ x entry, R x entry → (print x).length < entry.length) :
    (String.join (xs.map print)).length + xs.length ≤ (String.join entries).length := by
  induction all with
  | nil => exact Nat.le_refl _
  | cons first _ ih =>
    have more := longer _ _ first
    rw [List.map_cons, String.join_cons, String.join_cons, String.length_append, String.length_append, List.length_cons]
    omega

/-- What is printed is a module with the rules iff there is none. -/
theorem ruleCode_moduleOf {rules : Rules} : ModuleOf names env rules (ruleCode env rules) ↔ rules = ([], []) := by
  constructor
  · rintro ⟨entries, apiEntries, all, apiAll, same⟩
    have lengths := congrArg String.length same
    have longer := join_length all fun _ _ own => RuleEntry.length own
    have apiLonger := join_length apiAll fun _ _ own => APIRuleEntry.length own
    obtain ⟨rules, apiRules⟩ := rules
    simp only [ruleCode, String.length_append] at lengths longer apiLonger
    have none : rules.length = 0 := by omega
    have apiNone : apiRules.length = 0 := by omega
    rw [List.eq_nil_of_length_eq_zero none, List.eq_nil_of_length_eq_zero apiNone]
  · rintro rfl
    exact ⟨[], [], .nil, .nil, rfl⟩

/-! ## The rules of the entry points -/

def count (rules : Rules) : Nat := rules.1.length + rules.2.length

theorem addRule_count {rules rules' : Rules} {rule : OsloRule} (added : addRule env rules rule = .ok rules') :
    count rules' = count rules + 1 := by
  cases rule with
  | documented rule =>
    obtain ⟨apiRule, -, same⟩ := bind_ok_iff.mp added
    rw [← Except.ok.inj same, count, count, List.length_append, List.length_singleton, Nat.add_assoc]
  | default rule =>
    rw [← Except.ok.inj added, count, count, List.length_append, List.length_singleton, Nat.add_right_comm]

theorem addRules_count {rules rules' : Rules} {osloRules : List OsloRule}
    (added : osloRules.foldlM (addRule env) rules = .ok rules') : count rules' = count rules + osloRules.length := by
  induction osloRules generalizing rules with
  | nil =>
    cases added
    rfl
  | cons rule osloRules ih =>
    rw [List.foldlM_cons] at added
    obtain ⟨next, first, rest⟩ := bind_ok_iff.mp added
    rw [ih rest, addRule_count first, List.length_cons, Nat.add_assoc, Nat.add_comm 1]

variable {loadListRulesFunc : String → Option (List OsloRule)}

theorem addEntryPoint_count {rules rules' : Rules} {entryPoint : String}
    (added : addEntryPoint env loadListRulesFunc rules entryPoint = .ok rules') :
    ∃ osloRules, loadListRulesFunc entryPoint = some osloRules ∧ count rules' = count rules + osloRules.length := by
  rw [addEntryPoint] at added
  cases installed : loadListRulesFunc entryPoint with
  | none =>
    rw [installed] at added
    cases added
  | some osloRules =>
    rw [installed] at added
    exact ⟨osloRules, rfl, addRules_count added⟩

/-- The rules do not get fewer, and they stay as many iff no entry point gives one. -/
theorem addEntryPoints_count {entryPoints : List String} {rules rules' : Rules}
    (added : entryPoints.foldlM (addEntryPoint env loadListRulesFunc) rules = .ok rules') :
    count rules ≤ count rules' ∧ (count rules' = count rules ↔ ∀ ep ∈ entryPoints, loadListRulesFunc ep = some []) := by
  induction entryPoints generalizing rules with
  | nil =>
    cases added
    exact ⟨Nat.le_refl _, iff_of_true rfl fun ep member => (List.not_mem_nil member).elim⟩
  | cons entryPoint entryPoints ih =>
    rw [List.foldlM_cons] at added
    obtain ⟨next, first, rest⟩ := bind_ok_iff.mp added
    obtain ⟨osloRules, installed, more⟩ := addEntryPoint_count first
    obtain ⟨fewer, same⟩ := ih rest
    rw [List.forall_mem_cons, installed, Option.some.injEq, ← List.length_eq_zero_iff, ← same]
    omega

/-- There are no rules iff no entry point gives one. -/
theorem collectRules_nil {entryPoints : List String} {rules : Rules}
    (collected : collectRules env loadListRulesFunc entryPoints = .ok rules) :
    rules = ([], []) ↔ ∀ ep ∈ entryPoints, loadListRulesFunc ep = some [] := by
  rw [← (addEntryPoints_count collected).2]
  obtain ⟨rules, apiRules⟩ := rules
  rw [Prod.mk.injEq, ← List.length_eq_zero_iff, ← List.length_eq_zero_iff]
  exact Nat.add_eq_zero_iff.symm

theorem supported_ne_nil {service : String} {entryPoints : List String}
    (supported : supportedServiceEps.lookup service = some entryPoints) : entryPoints.isEmpty = false := by
  have all : (supportedServiceEps.all fun e => !e.2.isEmpty) = true := rfl
  exact Bool.not_eq_true' _ ▸ List.all_eq_true.mp all _ (mem_of_lookup supported)

variable (names env) in
/-- The module that is printed for a service has the rules of its entry points as literals iff there
    are none. -/
theorem generateRule_literals_iff {service : String} {entryPoints : List String} {rules : Rules}
    (supported : supportedServiceEps.lookup service = some entryPoints)
    (collected : collectRules env loadListRulesFunc entryPoints = .ok rules) :
    (∃ text, generateRule env loadListRulesFunc service = .ok text ∧ ModuleOf names env rules text) ↔
      ∀ ep ∈ entryPoints, loadListRulesFunc ep = some [] := by
  have printed : generateRule env loadListRulesFunc service = .ok (ruleCode env rules) := by
    rw [generateRule, supported, Option.getD_some, supported_ne_nil supported, collected]
    rfl
  rw [printed, ← collectRules_nil collected, ← ruleCode_moduleOf]
  constructor
  · rintro ⟨text, same, own⟩
    exact Except.ok.inj same ▸ own
  · exact fun own => ⟨_, rfl, own⟩

end

/-! ### A service without rules, and one with a rule -/

def plainEnv : Env :=
  { upper := fun s => String.ofList (s.toList.map Char.toUpper), printable := fun _ => true, preamble := "# Policy rules" }

/-- The names of no characters are known. -/
def noNames : Literals.Text → Option Char := fun _ => none

def adminRule : OsloRule := .default ⟨"context_is_admin", "role:admin", some "Decides what is required."⟩

/-- The service without rules has its module, and the one with a rule has not. -/
theorem no_rules_written :
    (∃ text, generateRule plainEnv (fun _ => some []) "nova" = .ok text ∧ ModuleOf noNames plainEnv ([], []) text) ∧
    ¬ ∃ text, generateRule plainEnv (fun _ => some [adminRule]) "nova" = .ok text ∧
      ModuleOf noNames plainEnv ([⟨"context_is_admin", "role:admin", "Decides what is required."⟩], []) text := by
  refine ⟨(generateRule_literals_iff noNames plainEnv rfl rfl).mpr fun _ _ => rfl, fun written => ?_⟩
  cases (generateRule_literals_iff noNames plainEnv rfl rfl).mp written "nova" (by decide)

/-- What is printed of the rule is `name=context_is_admin`, a variable, and `check_str=(role:admin)`. -/
theorem names_not_quoted : generateRule plainEnv (fun _ => some [adminRule]) "nova" = .ok
      ("# Policy rules\n# flake8: noqa\n# fmt: off\n\nfrom . import base\n\nlist_rules = (\n    base.Rule(\n" ++
        "        name=context_is_admin,\n        check_str=(role:admin),\n        description=Decides what is required.,\n" ++
        "    ),\n)\n\n__all__ = (\"list_rules\",)\n") ∧
    ¬ IsLiteral noNames "context_is_admin".toList "context_is_admin".toList ∧
    ¬ IsLiteral noNames "role:admin".toList "role:admin".toList ∧
    ¬ IsLiteral noNames "Decides what is required.".toList "Decides what is required.".toList ∧
    ¬ ∃ text, generateRule plainEnv (fun _ => some [adminRule]) "nova" = .ok text ∧
      ModuleOf noNames plainEnv ([⟨"context_is_admin", "role:admin", "Decides what is required."⟩], []) text := by
  have printed : generateRule plainEnv (fun _ => some [adminRule]) "nova" =
      .ok (ruleCode plainEnv ([⟨"context_is_admin", "role:admin", "Decides what is required."⟩], [])) := rfl
  refine ⟨by decide +kernel, fun literal => ?_, fun literal => ?_, fun literal => ?_, ?_⟩
  · exact absurd literal.length (by decide)
  · exact absurd literal.length (by decide)
  · exact absurd literal.length (by decide)
  · rintro ⟨text, same, own⟩
    rw [printed] at same
    obtain rfl := Except.ok.inj same
    cases ruleCode_moduleOf.mp own

end Skyline.RuleCode
