import Skyline.PolicyRules
import Skyline.Raising
import Skyline.Yaml

/-!
The samples of the policy files, as YAML. What stands in comments tells nothing as long as no line of
it is left outside; the names and the check strings are read back iff they can stand in double
quotes as they are.
-/
namespace Skyline.SampleFiles
open Skyline.Python Skyline.Raising Skyline.PolicyRules
open Skyline.Yaml (Document Dict Loads Writable Sheltered Plain document isBreak printable told)

/-! ## The specification -/

/-- The mapping from the names of the rules to their check strings. -/
def entries (rules : Rules) : Dict :=
  (rules.1.map fun r => (r.name.toList, r.checkStr.toList)) ++ rules.2.map fun r => (r.name.toList, r.checkStr.toList)

/-- The texts of an entry are printable. -/
def legible (item : List Char × List Char) : Bool := item.1.all printable && item.2.all printable

/-- A name and a check string that can stand in double quotes as they are. -/
structure Quotable (item : List Char × List Char) : Prop extends Writable item where
  legible : legible item = true

/-- A text that is printable, and of which no line stands outside of its comment. -/
def Commentable (exempt : List Char) (text : String) : Prop :=
  text.toList.all printable = true ∧ Sheltered exempt text.toList

/-- The description, of which line feeds are commented, and the paths of the operations. -/
def Documented : OsloRule → Prop
  | .default rule => Commentable ['\n'] (rule.description.getD "")
  | .documented rule => Commentable ['\n'] (rule.description.getD "") ∧
      ∀ operation ∈ rule.operations, Commentable [] (operation.path.getD "")

/-! ## Comments -/

section
variable {env : Env}

theorem takeWhile_hashed (text : List Char) :
    (text.flatMap hashed).takeWhile (fun c => !isBreak c) = text.takeWhile fun c => !isBreak c := by
  induction text with
  | nil => rfl
  | cons c text ih =>
    rw [List.flatMap_cons, hashed]
    split
    · next feed =>
      subst feed
      rfl
    · rw [List.singleton_append, List.takeWhile_cons, List.takeWhile_cons, ih]

/-- Line feeds are sheltered by what they are replaced by. -/
theorem sheltered_hashed {text : List Char} (sheltered : Sheltered ['\n'] text) : Sheltered [] (text.flatMap hashed) := by
  induction text with
  | nil => exact fun before c after split => by simp at split
  | cons c text ih =>
    have later := ih sheltered.tail
    intro before d after split break_ _
    rw [List.flatMap_cons, hashed] at split
    split at split
    · next feed =>
      cases before with
      | nil =>
        obtain ⟨rfl, rfl⟩ := List.cons.inj split
        rfl
      | cons e before =>
        cases before with
        | nil =>
          obtain ⟨rfl, -⟩ := List.cons.inj (List.cons.inj split).2
          cases break_
        | cons e' before =>
          exact later before d after (List.cons.inj (List.cons.inj split).2).2 break_ List.not_mem_nil
    · next other =>
      rw [List.singleton_append] at split
      cases before with
      | nil =>
        obtain ⟨rfl, rfl⟩ := List.cons.inj split
        rw [takeWhile_hashed]
        exact sheltered [] c text rfl break_ (by simpa using other)
      | cons e before => exact later before d after (List.cons.inj split).2 break_ List.not_mem_nil

/-- A text of which all breaks are exempt is sheltered. -/
theorem sheltered_exempt {exempt text : List Char} (given : (text.all fun c => !isBreak c || exempt.contains c) = true) :
    Sheltered exempt text := by
  rintro before c after rfl break_ other
  have own := List.all_eq_true.mp given c (List.mem_append_right before List.mem_cons_self)
  rw [break_] at own
  exact absurd (by simpa using own) other

/-- A text without breaks that is printable. -/
def Quiet (text : List Char) : Prop := ∀ c ∈ text, isBreak c = false ∧ printable c = true

theorem Quiet.append {text text' : List Char} (quiet : Quiet text) (quiet' : Quiet text') : Quiet (text ++ text') := by
  intro c member
  rcases List.mem_append.mp member with first | second
  · exact quiet c first
  · exact quiet' c second

theorem Quiet.sheltered {text : List Char} (quiet : Quiet text) : Sheltered [] text := by
  refine sheltered_exempt (List.all_eq_true.mpr fun c member => ?_)
  rw [(quiet c member).1]
  rfl

instance : DecidablePred Quiet := fun _ => List.decidableBAll _ _

/-- The text of a comment that is printable, and a comment that tells nothing. -/
def Silent (text : List Char) : Prop := text.all printable = true ∧ told ('#' :: text) = []

theorem silent_quiet {before : List Char} (quiet : Quiet before) {text : List Char} (legible : text.all printable = true)
    (sheltered : Sheltered [] text) : Silent (before ++ text) := by
  refine ⟨?_, Yaml.told_comment (sheltered.append fun c member => (quiet c member).1)⟩
  rw [List.all_append, legible, Bool.and_true, List.all_eq_true]
  exact fun c member => (quiet c member).2

theorem legible_hashed {text : List Char} (legible : text.all printable = true) : (text.flatMap hashed).all printable = true := by
  rw [List.all_eq_true] at legible ⊢
  intro c member
  obtain ⟨d, inside, replaced⟩ := List.mem_flatMap.mp member
  rw [hashed] at replaced
  split at replaced
  · rcases List.mem_cons.mp replaced with rfl | second
    · rfl
    · obtain rfl := List.mem_singleton.mp second
      rfl
  · obtain rfl := List.mem_singleton.mp replaced
    exact legible c inside

/-- The description that a rule has of a description that can be commented. -/
theorem description_silent {name checkStr : String} {description : Option String}
    (shown : Commentable ['\n'] (description.getD "")) :
    Silent (' ' :: (Rule.init name checkStr (commented (description.getD ""))).description.toList) := by
  have blank : Quiet [' '] := by decide
  rw [Rule.init]
  dsimp only
  split
  · rw [commented, String.toList_ofList]
    exact silent_quiet blank (legible_hashed shown.1) (sheltered_hashed shown.2)
  · exact silent_quiet blank (by decide) (Quiet.sheltered (by decide))

/-! ## What a sample tells -/

/-- A text of whole lines that tell entries, and is printable iff these are. -/
structure Tells (text : List Char) (items : Dict) : Prop where
  lines : ∀ rest, told (text ++ rest) = (items.flatMap fun item => told (Yaml.quote item.1 item.2)) ++ told rest
  legible : text.all printable = items.all legible

theorem Tells.append {text text' : List Char} {items items' : Dict} (tells : Tells text items) (tells' : Tells text' items') :
    Tells (text ++ text') (items ++ items') := by
  refine ⟨fun rest => ?_, ?_⟩
  · rw [List.append_assoc, tells.lines, tells'.lines, List.flatMap_append, List.append_assoc]
  · rw [List.all_append, List.all_append, tells.legible, tells'.legible]

theorem Tells.flatMap {α : Type} {print : α → List Char} {items : α → Dict} {xs : List α}
    (tells : ∀ x ∈ xs, Tells (print x) (items x)) : Tells (xs.flatMap print) (xs.flatMap items) := by
  induction xs with
  | nil => exact ⟨fun rest => rfl, rfl⟩
  | cons x xs ih =>
    rw [List.flatMap_cons, List.flatMap_cons]
    exact (tells x List.mem_cons_self).append (ih fun y member => tells y (List.mem_cons_of_mem x member))

theorem tells_feed : Tells ['\n'] [] := ⟨fun rest => Yaml.told_append rfl [] rest, rfl⟩

theorem tells_comment {text : List Char} (silent : Silent text) : Tells ('#' :: (text ++ ['\n'])) [] := by
  refine ⟨fun rest => ?_, ?_⟩
  · rw [List.cons_append, List.append_assoc, List.singleton_append, ← List.cons_append, Yaml.told_append rfl, silent.2]
    rfl
  · rw [List.all_cons, List.all_append, silent.1]
    rfl

theorem tells_entry (key value : List Char) : Tells (Yaml.quote key value ++ ['\n', '\n']) [(key, value)] := by
  refine ⟨fun rest => ?_, ?_⟩
  · rw [List.append_assoc, List.cons_append, Yaml.told_append rfl, tells_feed.lines, List.flatMap_singleton]
    rfl
  · have marks : printable '"' = true ∧ printable ':' = true ∧ printable ' ' = true ∧ printable '\n' = true :=
      ⟨rfl, rfl, rfl, rfl⟩
    simp [Yaml.quote, legible, marks]

theorem str_toList (rule : Rule) : rule.str.toList = Yaml.quote rule.name.toList rule.checkStr.toList := by
  simp [Rule.str, Yaml.quote]

theorem tells_rule {rule : RuleDefault} (shown : Commentable ['\n'] (rule.description.getD "")) :
    Tells (Rule.fromOslo rule).formatIntoYaml.toList [(rule.name.toList, rule.checkStr.toList)] := by
  have comment := tells_comment (@description_silent rule.name rule.checkStr _ shown)
  have whole := comment.append (tells_entry rule.name.toList rule.checkStr.toList)
  have text : (Rule.fromOslo rule).formatIntoYaml.toList =
      '#' :: (' ' :: (Rule.fromOslo rule).description.toList ++ ['\n']) ++
        (Yaml.quote rule.name.toList rule.checkStr.toList ++ ['\n', '\n']) := by
    simp only [Rule.formatIntoYaml, String.toList_append, str_toList]
    simp [Rule.fromOslo, Rule.init]
  rw [text]
  exact whole

theorem tells_operation {operation : Operation} (shown : Commentable [] operation.path) :
    Tells (operationLine operation).toList [] := by
  have blanks : Quiet (" " ++ ljust8 operation.method.value).toList := by
    cases operation.method with
    | GET => decide
    | POST => decide
    | PUT => decide
    | PATCH => decide
    | DELETE => decide
    | HEAD => decide
  have text : (operationLine operation).toList =
      '#' :: ((" " ++ ljust8 operation.method.value).toList ++ operation.path.toList ++ ['\n']) := by
    simp [operationLine]
  rw [text]
  exact tells_comment (silent_quiet blanks shown.1 shown.2)

theorem quiet_intercalate {texts : List String} (quiet : ∀ text ∈ texts, Quiet text.toList) :
    Quiet (String.intercalate ", " texts).toList := by
  induction texts with
  | nil => decide
  | cons text texts ih =>
    have later := ih fun t member => quiet t (List.mem_cons_of_mem text member)
    cases texts with
    | nil =>
      rw [String.intercalate_singleton]
      exact quiet text List.mem_cons_self
    | cons next texts =>
      rw [String.intercalate_cons_cons, String.toList_append, String.toList_append]
      exact ((quiet text List.mem_cons_self).append (by decide)).append later

theorem quiet_scope {scope : String} (member : scope ∈ scopes) : Quiet (Literals.repr env.printable scope).toList := by
  rw [scopes] at member
  simp only [List.mem_cons, List.mem_nil_iff, or_false] at member
  rcases member with rfl | rfl | rfl
  · have text : Literals.repr env.printable "system" = "'system'" := rfl
    rw [text]
    decide
  · have text : Literals.repr env.printable "domain" = "'domain'" := rfl
    rw [text]
    decide
  · have text : Literals.repr env.printable "project" = "'project'" := rfl
    rw [text]
    decide

theorem Quiet.silent {text : List Char} (quiet : Quiet text) : Silent text := by
  have alone := silent_quiet quiet (by decide) (Quiet.sheltered (by decide) : Sheltered [] [])
  rwa [List.append_nil] at alone

theorem tells_scopes {scopeTypes : List String} (known : scopeTypes.all scopes.contains = true) :
    Tells (scopeLine env scopeTypes).toList [] := by
  have quiet : Quiet (" Intended scope(s): " ++ listRepr (scopeTypes.map (Literals.repr env.printable))).toList := by
    rw [listRepr]
    simp only [String.toList_append]
    refine Quiet.append (by decide) ((Quiet.append (by decide) (quiet_intercalate fun text member => ?_)).append (by decide))
    obtain ⟨scope, given, rfl⟩ := List.mem_map.mp member
    exact quiet_scope (by simpa using List.all_eq_true.mp known scope given)
  have text : (scopeLine env scopeTypes).toList =
      '#' :: ((" Intended scope(s): " ++ listRepr (scopeTypes.map (Literals.repr env.printable))).toList ++ ['\n']) := by
    unfold scopeLine
    generalize listRepr (scopeTypes.map (Literals.repr env.printable)) = shown
    simp
  rw [text]
  exact tells_comment quiet.silent

/-- What a rule with documentation keeps of what it was made from. -/
theorem fromOslo_ok {rule : DocumentedRuleDefault} {apiRule : APIRule} (made : APIRule.fromOslo env rule = .ok apiRule) :
    apiRule.toRule = Rule.fromOslo rule.toRuleDefault ∧ apiRule.scopeTypes.all scopes.contains = true ∧
      ∀ operation ∈ apiRule.operations, ∃ given ∈ rule.operations, operation.path = given.path.getD "" := by
  rw [APIRule.fromOslo, APIRule.init] at made
  split at made
  · cases made
  next known =>
  obtain ⟨operations, validated, same⟩ := bind_ok_iff.mp made
  obtain rfl := Except.ok.inj same
  refine ⟨rfl, by simpa using known, fun operation member => ?_⟩
  · obtain ⟨pair, inside, valid⟩ := mem_mapM validated member
    obtain ⟨given, present, expanded⟩ := List.mem_flatMap.mp inside
    refine ⟨given, present, ?_⟩
    have path : operation.path = pair.2 := by
      rw [validateOperation] at valid
      split at valid
      · rw [← Except.ok.inj valid]
      · cases valid
    rw [path]
    rw [operationsOf] at expanded
    split at expanded
    · obtain ⟨method, -, rfl⟩ := List.mem_map.mp expanded
      rfl
    · obtain rfl := List.mem_singleton.mp expanded
      rfl
    · obtain rfl := List.mem_singleton.mp expanded
      rfl

theorem tells_apiRule {rule : DocumentedRuleDefault} {apiRule : APIRule} (made : APIRule.fromOslo env rule = .ok apiRule)
    (shown : Documented (.documented rule)) :
    Tells (apiRule.formatIntoYaml env).toList [(apiRule.name.toList, apiRule.checkStr.toList)] := by
  obtain ⟨own, known, paths⟩ := fromOslo_ok made
  have comment := tells_comment (@description_silent rule.name rule.checkStr _ shown.1)
  have operations : Tells (apiRule.operations.flatMap fun operation => (operationLine operation).toList)
      (apiRule.operations.flatMap fun _ => []) := by
    refine Tells.flatMap fun operation member => tells_operation ?_
    obtain ⟨given, present, same⟩ := paths operation member
    rw [same]
    exact shown.2 given present
  have scopesTell : Tells (scopeLine env apiRule.scopeTypes).toList [] := tells_scopes known
  have whole := ((comment.append operations).append scopesTell).append (tells_entry apiRule.name.toList apiRule.checkStr.toList)
  have text : (apiRule.formatIntoYaml env).toList =
      '#' :: (' ' :: apiRule.description.toList ++ ['\n']) ++
        (apiRule.operations.flatMap fun operation => (operationLine operation).toList) ++ (scopeLine env apiRule.scopeTypes).toList ++
        (Yaml.quote apiRule.name.toList apiRule.checkStr.toList ++ ['\n', '\n']) := by
    simp only [APIRule.formatIntoYaml, String.toList_append, str_toList, String.toList_join, List.flatMap_map]
    simp
  have described : apiRule.description = (Rule.fromOslo rule.toRuleDefault).description := congrArg Rule.description own
  have none : (apiRule.operations.flatMap fun _ => ([] : Dict)) = [] := List.flatMap_eq_nil_iff.mpr fun _ _ => rfl
  rw [none] at whole
  rw [text, described]
  exact whole

/-- The rules of a sample are made of those of the service. -/
structure MadeOf (env : Env) (osloRules : List OsloRule) (rules : Rules) : Prop where
  defaults : ∀ r ∈ rules.1, ∃ rule, .default rule ∈ osloRules ∧ r = Rule.fromOslo rule
  documented : ∀ r ∈ rules.2, ∃ rule, .documented rule ∈ osloRules ∧ APIRule.fromOslo env rule = .ok r

theorem madeOf_addRule {given : List OsloRule} {rules rules' : Rules} {rule : OsloRule} (made : MadeOf env given rules)
    (added : addRule env rules rule = .ok rules') : MadeOf env (given ++ [rule]) rules' := by
  have earlier {r : OsloRule} (member : r ∈ given) : r ∈ given ++ [rule] := List.mem_append_left _ member
  have last : rule ∈ given ++ [rule] := List.mem_append_right _ List.mem_cons_self
  cases rule with
  | documented rule =>
    obtain ⟨apiRule, own, same⟩ := bind_ok_iff.mp added
    obtain rfl := Except.ok.inj same
    refine ⟨fun r member => ?_, fun r member => ?_⟩
    · obtain ⟨rule', inside, from_⟩ := made.defaults r member
      exact ⟨rule', earlier inside, from_⟩
    · rcases List.mem_append.mp member with before | new
      · obtain ⟨rule', inside, from_⟩ := made.documented r before
        exact ⟨rule', earlier inside, from_⟩
      · obtain rfl := List.mem_singleton.mp new
        exact ⟨rule, last, own⟩
  | default rule =>
    obtain rfl := Except.ok.inj added
    refine ⟨fun r member => ?_, fun r member => ?_⟩
    · rcases List.mem_append.mp member with before | new
      · obtain ⟨rule', inside, from_⟩ := made.defaults r before
        exact ⟨rule', earlier inside, from_⟩
      · obtain rfl := List.mem_singleton.mp new
        exact ⟨rule, last, rfl⟩
    · obtain ⟨rule', inside, from_⟩ := made.documented r member
      exact ⟨rule', earlier inside, from_⟩

theorem madeOf_addRules {given osloRules : List OsloRule} {rules rules' : Rules} (made : MadeOf env given rules)
    (added : osloRules.foldlM (addRule env) rules = .ok rules') : MadeOf env (given ++ osloRules) rules' := by
  induction osloRules generalizing given rules with
  | nil =>
    obtain rfl := Except.ok.inj added
    rwa [List.append_nil]
  | cons rule osloRules ih =>
    rw [List.foldlM_cons] at added
    obtain ⟨next, first, rest⟩ := bind_ok_iff.mp added
    have whole := ih (madeOf_addRule made first) rest
    rwa [List.append_assoc, List.singleton_append] at whole

/-- The services have names without breaks. -/
theorem quiet_service {service : String} (supported : service ∈ supportedServiceEps.map Prod.fst) : Quiet service.toList := by
  have all : (supportedServiceEps.map Prod.fst).all (fun s => s.toList.all fun c => !isBreak c && printable c) = true := by
    decide
  intro c member
  have own := List.all_eq_true.mp (List.all_eq_true.mp all service supported) c member
  simpa using own

theorem tells_sample {service : String} {osloRules : List OsloRule} {rules : Rules} (quiet : Quiet service.toList)
    (made : MadeOf env osloRules rules) (comments : ∀ r ∈ osloRules, Documented r) :
    Tells (sample env service rules).toList (entries rules) := by
  have header : Tells ("####################\n# " ++ service ++ "\n####################\n\n").toList [] := by
    have frame : Quiet "###################".toList := by decide
    have blank : Quiet [' '] := by decide
    have whole := (((tells_comment frame.silent).append (tells_comment (blank.append quiet).silent)).append
      (tells_comment frame.silent)).append tells_feed
    have text : ("####################\n# " ++ service ++ "\n####################\n\n").toList =
        '#' :: ("###################".toList ++ ['\n']) ++ '#' :: ([' '] ++ service.toList ++ ['\n']) ++
          '#' :: ("###################".toList ++ ['\n']) ++ ['\n'] := by
      simp
    rw [text]
    exact whole
  have rulesTell : Tells (rules.1.flatMap fun r => r.formatIntoYaml.toList)
      (rules.1.flatMap fun r => [(r.name.toList, r.checkStr.toList)]) := by
    refine Tells.flatMap fun r member => ?_
    obtain ⟨rule, inside, rfl⟩ := made.defaults r member
    exact tells_rule (comments _ inside)
  have apiRulesTell : Tells (rules.2.flatMap fun r => (r.formatIntoYaml env).toList)
      (rules.2.flatMap fun r => [(r.name.toList, r.checkStr.toList)]) := by
    refine Tells.flatMap fun r member => ?_
    obtain ⟨rule, inside, own⟩ := made.documented r member
    exact tells_apiRule own (comments _ inside)
  have whole := (header.append rulesTell).append apiRulesTell
  have text : (sample env service rules).toList = ("####################\n# " ++ service ++ "\n####################\n\n").toList ++
      (rules.1.flatMap fun r => r.formatIntoYaml.toList) ++ rules.2.flatMap fun r => (r.formatIntoYaml env).toList := by
    unfold sample
    simp only [String.toList_append, String.toList_join, List.flatMap_map]
  rw [text, entries, List.map_eq_flatMap, List.map_eq_flatMap]
  exact whole

/-- The files that are written have the samples of the services. -/
theorem generateSample_file {listRulesFuncs : String → Option (List OsloRule)} {files : List (String × String)}
    (written : generateSample env listRulesFuncs = .ok files) {service text : String} (member : (service, text) ∈ files) :
    ∃ eps rules, (service, eps) ∈ supportedServiceEps ∧
      (eps.flatMap fun ep => (listRulesFuncs ep).getD []).foldlM (addRule env) ([], []) = .ok rules ∧
      text = sample env service rules := by
  obtain ⟨⟨service', eps⟩, supported, ran⟩ := mem_mapM written member
  obtain ⟨rules, built, same⟩ := bind_ok_iff.mp ran
  obtain ⟨rfl, rfl⟩ := Prod.mk.inj (Except.ok.inj same)
  exact ⟨eps, rules, supported, built, rfl⟩

variable {ε : Type} {load : List Char → Except ε Document}

/-- Of rules with distinct names, and comments that stay comments: the sample is loaded as the mapping
    from the names to the check strings if these can stand in double quotes as they are; where it is a
    document of the fragment, only if they can. -/
theorem sample_reads_back (loads : Loads load) {service : String} (supported : service ∈ supportedServiceEps.map Prod.fst)
    {osloRules : List OsloRule} {rules : Rules} (built : osloRules.foldlM (addRule env) ([], []) = .ok rules)
    (distinct : ((entries rules).map Prod.fst).Nodup) (comments : ∀ r ∈ osloRules, Documented r) :
    ((∀ item ∈ entries rules, Quotable item) → load (sample env service rules).toList = .ok (document (entries rules))) ∧
      (Yaml.read (sample env service rules).toList ≠ none →
        (load (sample env service rules).toList = .ok (document (entries rules)) ↔ ∀ item ∈ entries rules, Quotable item)) := by
  have none : MadeOf env [] ([], []) :=
    ⟨fun r member => (List.not_mem_nil member).elim, fun r member => (List.not_mem_nil member).elim⟩
  have made : MadeOf env osloRules rules := madeOf_addRules none built
  have tells := tells_sample (quiet_service supported) made comments
  have lines : told (sample env service rules).toList =
      (entries rules).flatMap fun item => told (Yaml.quote item.1 item.2) := by
    have whole := tells.lines []
    rw [List.append_nil] at whole
    exact whole.trans (List.append_nil _)
  have enough (quotable : ∀ item ∈ entries rules, Quotable item) :
      load (sample env service rules).toList = .ok (document (entries rules)) := by
    refine loads _ _ ((Yaml.read_quotes ?_ lines distinct).mpr fun item member => (quotable item member).toWritable)
    rw [tells.legible, List.all_eq_true]
    exact fun item member => (quotable item member).legible
  refine ⟨enough, fun inside => ⟨fun same => ?_, enough⟩⟩
  obtain ⟨d, came⟩ := Option.ne_none_iff_exists'.mp inside
  have all : (sample env service rules).toList.all printable = true := by
    rw [Yaml.read] at came
    split at came
    · next all => exact all
    · cases came
  obtain rfl := Yaml.document_injective (Except.ok.inj (same.symm.trans (loads _ d came)))
  have writable := (Yaml.read_quotes all lines distinct).mp came
  rw [tells.legible, List.all_eq_true] at all
  exact fun item member => ⟨writable item member, all item member⟩

end

/-! ### Samples that are read back, and others -/

/-- A loader of the fragment. -/
def loader (text : List Char) : Except Unit Document :=
  match Yaml.read text with
  | some d => .ok (document d)
  | none => .error ()

theorem loader_loads : Loads loader := by
  intro text d came
  rw [loader, came]

def asciiEnv : Env :=
  { upper := fun s => String.ofList (s.toList.map Char.toUpper), printable := fun _ => false, preamble := "" }

def serversIndex : DocumentedRuleDefault :=
  { name := "servers:index", checkStr := "rule:admin_api", description := some "List servers.\nOf all projects."
    scopeTypes := none, operations := [⟨.str "get", some "/servers"⟩] }
def adminApi : RuleDefault := ⟨"admin_api", "role:admin", none⟩

def computeRules : Rules :=
  ([⟨"admin_api", "role:admin", "No description"⟩],
    [⟨⟨"servers:index", "rule:admin_api", "List servers.\n#Of all projects."⟩, ["project"], [⟨.GET, "/servers"⟩]⟩])

theorem computeRules_read_back : loader (sample asciiEnv "nova" computeRules).toList =
    .ok (.mapping [("admin_api".toList, "role:admin".toList), ("servers:index".toList, "rule:admin_api".toList)]) := by
  have built : [.documented serversIndex, .default adminApi].foldlM (addRule asciiEnv) ([], []) = .ok computeRules := by decide
  refine (sample_reads_back loader_loads (by decide) built (by decide) fun r member => ?_).1 fun item member => ?_
  · rcases List.mem_cons.mp member with rfl | later
    · refine ⟨⟨by decide, sheltered_exempt (by decide)⟩, fun operation member => ?_⟩
      obtain rfl := List.mem_singleton.mp member
      exact ⟨by decide, sheltered_exempt (by decide)⟩
    · obtain rfl := List.mem_singleton.mp later
      exact ⟨by decide, sheltered_exempt (by decide)⟩
  · rcases List.mem_cons.mp member with rfl | later
    · exact ⟨⟨by decide, by decide, by decide⟩, by decide⟩
    · obtain rfl := List.mem_singleton.mp later
      exact ⟨⟨by decide, by decide, by decide⟩, by decide⟩

/-- A description with a carriage return. -/
def injecting : RuleDefault := ⟨"admin_api", "role:admin", some "Admins.\r\"context_is_admin\": \"@\""⟩
def escaping : RuleDefault := ⟨"owner", "user_name:CORP\\admin", none⟩

/-- The description adds a rule that lets everyone pass; of the check string a part is lost. -/
theorem samples_misread :
    (loader (sample asciiEnv "nova" ([Rule.fromOslo injecting], [])).toList =
        .ok (.mapping [("context_is_admin".toList, "@".toList), ("admin_api".toList, "role:admin".toList)]) ∧
      loader (sample asciiEnv "nova" ([Rule.fromOslo injecting], [])).toList ≠
        .ok (document (entries ([Rule.fromOslo injecting], [])))) ∧
    loader (sample asciiEnv "nova" ([Rule.fromOslo escaping], [])).toList =
        .ok (.mapping [("owner".toList, "user_name:CORP\x07dmin".toList)]) ∧
      loader (sample asciiEnv "nova" ([Rule.fromOslo escaping], [])).toList ≠
        .ok (document (entries ([Rule.fromOslo escaping], []))) := by
  have injected : loader (sample asciiEnv "nova" ([Rule.fromOslo injecting], [])).toList =
      .ok (.mapping [("context_is_admin".toList, "@".toList), ("admin_api".toList, "role:admin".toList)]) := by
    decide +kernel
  have escaped : loader (sample asciiEnv "nova" ([Rule.fromOslo escaping], [])).toList =
      .ok (.mapping [("owner".toList, "user_name:CORP\x07dmin".toList)]) := by
    decide +kernel
  rw [injected, escaped]
  exact ⟨⟨rfl, by decide⟩, rfl, by decide⟩

end Skyline.SampleFiles
