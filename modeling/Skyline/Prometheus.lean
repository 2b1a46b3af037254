import Skyline.PortListing

/-!
The answers to Prometheus queries (`api/v1/prometheus.py`). What an expression comes to has one
of four types, and each has a shape of its own; the two handlers read one shape each, a value
of every series or a list of them. A caller without a role sees the series of the own project.
-/
namespace Skyline.Prometheus
open Skyline.Python Skyline.Raising Skyline.Extension Skyline.Ports
open Skyline.Config (Value)
open Skyline.Session (Profile)

/-! ## The code -/

/-- `PrometheusQueryResult` and `PrometheusQueryRangeResult`. -/
structure QueryResult where
  metric : List (String × String)
  value : List Value

structure QueryData where
  resultType : String
  result : List QueryResult

/-- `PrometheusQueryResponse` and `PrometheusQueryRangeResponse`; what is assigned to a field is
    not validated. -/
structure QueryResponse where
  status : String
  errorType : Option Value
  error : Option Value
  warnings : Option Value
  data : Option QueryData

def validationError : Exn := .valueError "validation error"

/-- Pydantic's reading of a `str`. -/
def parseStr : Value → Except Exn String
  | .str s => .ok s
  | _ => .error validationError

/-- Its reading of a `Dict[str, str]`. -/
def parseMetric : Value → Except Exn (List (String × String))
  | .dict items => items.mapM fun item => do
    let text ← parseStr item.2
    return (item.1, text)
  | _ => .error validationError

/-- Its reading of a `List[Any]`. -/
def parseValue : Value → Except Exn (List Value)
  | .list items => .ok items
  | _ => .error validationError

/-- The translation of a series, whose samples are under `key`. -/
def queryResult (key : String) (i : Value) : Except Exn QueryResult := do
  let metric ← itemOf "metric" i
  let value ← itemOf key i
  let metric ← parseMetric metric
  let value ← parseValue value
  return ⟨metric, value⟩

/-- Whether labels name the project of a profile. -/
def ofProject (profile : Profile) (metric : List (String × String)) : Bool :=
  dictGet metric "project_id" == some profile.project.id

def queryData (key : String) (conf : Conf) (profile : Profile) (data : Value) : Except Exn QueryData := do
  let items ← itemOf "result" data
  let items ← iter items
  let result ← items.mapM (queryResult key)
  let result := if isSystemAdminOrReader conf profile then result else result.filter fun i => ofProject profile i.metric
  let resultType ← itemOf "resultType" data
  let resultType ← parseStr resultType
  return ⟨resultType, result⟩

/-- What the two functions do, which differ in the key of the samples. -/
def queryResponse (key : String) (conf : Conf) (resp : Dict) (profile : Profile) : Except Exn QueryResponse := do
  let status ← getitem (dictGet resp "status") "status"
  let status ← parseStr status
  let data ← (match dictGet resp "data" with
    | none => pure none
    | some data => some <$> queryData key conf profile data)
  return {
    status
    errorType := dictGet resp "errorType"
    error := dictGet resp "error"
    warnings := dictGet resp "warnings"
    data }

def getPrometheusQueryResponse : Conf → Dict → Profile → Except Exn QueryResponse := queryResponse "value"

def getPrometheusQueryRangeResponse : Conf → Dict → Profile → Except Exn QueryResponse := queryResponse "values"

/-! ## What Prometheus answers -/

abbrev Labels := List (String × String)

/-- A time and the text of a number. -/
structure Point where
  time : String
  number : String

def Point.json (p : Point) : List Value := [.float p.time, .str p.number]

/-- What a series has at one time: a number, or a native histogram. -/
inductive Sample
  | value (p : Point)
  | histogram (h : Value)

/-- A series with its samples: one, or those over a range of times, of either kind. -/
structure Series (Samples : Type) where
  metric : Labels
  samples : Samples

structure Range where
  values : List Point
  histograms : List Value

inductive Result
  | vector (series : List (Series Sample))
  | matrix (series : List (Series Range))
  | scalar (p : Point)
  | string (p : Point)

structure Response where
  result : Result
  warnings : List String := []

def Sample.json : Sample → Dict
  | value p => [("value", .list p.json)]
  | histogram h => [("histogram", h)]

/-- A kind of samples of which there are none is left out. -/
def Range.json (r : Range) : Dict :=
  (if r.values.isEmpty then [] else [("values", .list (r.values.map fun p => .list p.json))]) ++
    if r.histograms.isEmpty then [] else [("histograms", .list r.histograms)]

def Series.json {Samples : Type} (json : Samples → Dict) (s : Series Samples) : Value :=
  .dict (("metric", .dict (s.metric.map fun label => (label.1, .str label.2))) :: json s.samples)

def Result.resultType : Result → String
  | vector _ => "vector"
  | matrix _ => "matrix"
  | scalar _ => "scalar"
  | string _ => "string"

def Result.json : Result → Value
  | vector series => .list (series.map (Series.json Sample.json))
  | matrix series => .list (series.map (Series.json Range.json))
  | scalar p | string p => .list p.json

/-- The document of a query that succeeded. -/
def Response.json (r : Response) : Dict :=
  [("status", .str "success"), ("data", .dict [("resultType", .str r.result.resultType), ("result", r.result.json)])] ++
    if r.warnings.isEmpty then [] else [("warnings", .list (r.warnings.map .str))]

/-! ## What should be shown -/

/-- The numbers of a series, if it has any. -/
abbrev Numbers := Option (List Value)

def Sample.numbers : Sample → Numbers
  | value p => some p.json
  | histogram _ => none

def Range.numbers (r : Range) : Numbers :=
  if r.values.isEmpty then none else some (r.values.map fun p => .list p.json)

/-- The series of a result, if it is a list of them. -/
def Result.series : Result → Option (List (Series Numbers))
  | vector series => some (series.map fun s => ⟨s.metric, s.samples.numbers⟩)
  | matrix series => some (series.map fun s => ⟨s.metric, s.samples.numbers⟩)
  | scalar _ | string _ => none

def visible (conf : Conf) (profile : Profile) (metric : Labels) : Bool :=
  isSystemAdminOrReader conf profile || ofProject profile metric

/-- An entry has the labels and the numbers of a series. -/
def Translates (s : Series Numbers) (e : QueryResult) : Prop :=
  e.metric = s.metric ∧ ∀ numbers, s.samples = some numbers → e.value = numbers

/-- The function answers, and where the result is a list of series with exactly those that the
    caller may see, in order. -/
def Answers (conf : Conf) (profile : Profile) (result : Result) (answered : Except Exn QueryResponse) : Prop :=
  ∃ answer, answered = .ok answer ∧ ∀ series, result.series = some series → ∃ data, answer.data = some data ∧
    List.Forall₂ Translates (series.filter fun s => visible conf profile s.metric) data.result

/-! ## What is read -/

variable {conf : Conf} {profile : Profile} {key : String}

theorem parseMetric_labels (labels : Labels) :
    parseMetric (.dict (labels.map fun label => (label.1, .str label.2))) = .ok labels := by
  rw [parseMetric, mapM_ok, List.forall₂_map_left_iff]
  exact List.forall₂_same.mpr fun label _ => rfl

/-- A series is translated where it has samples under the key. -/
theorem queryResult_json {Samples : Type} (json : Samples → Dict) (s : Series Samples) (other : key ≠ "metric")
    (none : ∀ entry ∈ json s.samples, entry.1 ≠ "metric") : queryResult key (s.json json) = (do
      let value ← getitem (dictGet (json s.samples) key) key
      let value ← parseValue value
      return ⟨s.metric, value⟩) := by
  have labels : itemOf "metric" (s.json json) = .ok (.dict (s.metric.map fun label => (label.1, .str label.2))) := by
    rw [Series.json, itemOf, ← List.singleton_append, dictGet_append, dictGet_none.mpr none]
    rfl
  have samples : itemOf key (s.json json) = getitem (dictGet (json s.samples) key) key := by
    have absent : dictGet [("metric", Value.dict (s.metric.map fun label => (label.1, .str label.2)))] key = .none := by
      rw [dictGet_none]
      rintro _ member rfl
      rw [List.mem_singleton] at member
      exact other (congrArg Prod.fst member)
    rw [Series.json, itemOf, ← List.singleton_append, dictGet_append, absent, Option.or_none]
  rw [queryResult, labels, samples]
  cases getitem (dictGet (json s.samples) key) key with
  | error e => rfl
  | ok value =>
    show (parseMetric _ >>= fun metric => parseValue value >>= _) = _
    rw [parseMetric_labels]
    rfl

/-- The translation of a series by its numbers. -/
def translated (key : String) (s : Series Numbers) : Except Exn QueryResult :=
  match s.samples with
  | some numbers => .ok ⟨s.metric, numbers⟩
  | none => .error (.keyError key)

theorem queryResult_sample (s : Series Sample) :
    queryResult "value" (s.json Sample.json) = translated "value" ⟨s.metric, s.samples.numbers⟩ := by
  rw [queryResult_json Sample.json s (by decide)]
  · cases s.samples with
    | value p => rfl
    | histogram h => rfl
  · cases s.samples with
    | value p => simp [Sample.json]
    | histogram h => simp [Sample.json]

theorem range_keys (r : Range) : ∀ entry ∈ r.json, entry.1 = "values" ∨ entry.1 = "histograms" := by
  intro entry member
  rw [Range.json] at member
  split at member
  · split at member
    · cases member
    · simp_all
  · split at member
    · simp_all
    · rcases List.mem_append.mp member with first | second
      · simp_all
      · simp_all

theorem queryResult_range (s : Series Range) :
    queryResult "values" (s.json Range.json) = translated "values" ⟨s.metric, s.samples.numbers⟩ := by
  rw [queryResult_json Range.json s (by decide)]
  · rw [translated, Range.numbers, Range.json]
    cases s.samples.values.isEmpty with
    | true =>
      cases s.samples.histograms.isEmpty with
      | true => rfl
      | false => rfl
    | false =>
      cases s.samples.histograms.isEmpty with
      | true => rfl
      | false => rfl
  · intro entry member
    rcases range_keys s.samples entry member with same | same
    · simp [same]
    · simp [same]

/-- The samples of a range are under other keys than the one of an instant. -/
theorem queryResult_other (s : Series Range) : queryResult "value" (s.json Range.json) = .error (.keyError "value") := by
  have none : dictGet s.samples.json "value" = .none := by
    rw [dictGet_none]
    intro entry member
    rcases range_keys s.samples entry member with same | same
    · simp [same]
    · simp [same]
  rw [queryResult_json Range.json s (by decide), none]
  · rfl
  · intro entry member
    rcases range_keys s.samples entry member with same | same
    · simp [same]
    · simp [same]

/-! ## What is answered -/

/-- The entries that a caller gets. -/
def shown (conf : Conf) (profile : Profile) (result : List QueryResult) : List QueryResult :=
  if isSystemAdminOrReader conf profile then result else result.filter fun i => ofProject profile i.metric

/-- The answer is made of the translations of what the result lists. -/
theorem queryResponse_ok_iff (r : Response) {items : List Value} (listed : r.result.json = .list items)
    (answer : QueryResponse) : queryResponse key conf r.json profile = .ok answer ↔
      ∃ result, List.Forall₂ (fun i e => queryResult key i = .ok e) items result ∧
        answer = ⟨"success", none, none, dictGet r.json "warnings", some ⟨r.result.resultType, shown conf profile result⟩⟩ := by
  have fields : dictGet r.json "status" = some (.str "success") ∧ dictGet r.json "errorType" = none ∧
      dictGet r.json "error" = none ∧
        dictGet r.json "data" = some (.dict [("resultType", .str r.result.resultType), ("result", .list items)]) := by
    rw [Response.json, listed]
    cases r.warnings.isEmpty with
    | true => exact ⟨rfl, rfl, rfl, rfl⟩
    | false => exact ⟨rfl, rfl, rfl, rfl⟩
  have data : queryData key conf profile (.dict [("resultType", .str r.result.resultType), ("result", .list items)]) =
      (items.mapM (queryResult key) >>= fun result => .ok ⟨r.result.resultType, shown conf profile result⟩) := rfl
  rw [queryResponse, fields.1, fields.2.1, fields.2.2.1, fields.2.2.2]
  show ((some <$> queryData key conf profile _ : Except Exn (Option QueryData)) >>= _) = _ ↔ _
  rw [data]
  cases translation : items.mapM (queryResult key) with
  | error e =>
    refine iff_of_false (by rintro ⟨⟩) ?_
    rintro ⟨result, all, -⟩
    rw [← mapM_ok, translation] at all
    cases all
  | ok result =>
    constructor
    · rintro ⟨⟩
      exact ⟨result, mapM_ok.mp translation, rfl⟩
    · rintro ⟨other, all, rfl⟩
      rw [← mapM_ok, translation] at all
      cases all
      rfl

/-- There is an answer iff everything that the result lists can be translated. -/
theorem queryResponse_isOk_iff (r : Response) {items : List Value} (listed : r.result.json = .list items) :
    (∃ answer, queryResponse key conf r.json profile = .ok answer) ↔ ∀ i ∈ items, ∃ e, queryResult key i = .ok e := by
  rw [← exists_forall₂]
  constructor
  · rintro ⟨answer, answered⟩
    obtain ⟨result, all, -⟩ := (queryResponse_ok_iff r listed answer).mp answered
    exact ⟨result, all⟩
  · rintro ⟨result, all⟩
    exact ⟨_, (queryResponse_ok_iff r listed _).mpr ⟨result, all, rfl⟩⟩

theorem not_answers (r : Response) {items : List Value} (listed : r.result.json = .list items) {i : Value} {e : Exn}
    (member : i ∈ items) (failed : queryResult key i = .error e) :
    ¬ Answers conf profile r.result (queryResponse key conf r.json profile) := by
  rintro ⟨answer, answered, -⟩
  obtain ⟨entry, done⟩ := (queryResponse_isOk_iff r listed).mp ⟨answer, answered⟩ i member
  rw [failed] at done
  cases done

theorem shown_map {Samples : Type} (series : List (Series Samples)) (f : Series Samples → QueryResult)
    (labels : ∀ s, (f s).metric = s.metric) :
    shown conf profile (series.map f) = (series.filter fun s => visible conf profile s.metric).map f := by
  rw [shown]
  split
  · next role => simp [visible, role]
  · next role => simp [visible, role, List.filter_map, Function.comp_def, labels]

section
variable (conf profile)
variable {Samples : Type} {json : Samples → Dict} {numbers : Samples → Numbers}

/-- A list of series that is read in its own shape is answered iff each has numbers. -/
theorem answers_iff (each : ∀ s : Series Samples, queryResult key (s.json json) = translated key ⟨s.metric, numbers s.samples⟩)
    (r : Response) {series : List (Series Samples)} (listed : r.result.json = .list (series.map (Series.json json)))
    (lists : r.result.series = some (series.map fun s => ⟨s.metric, numbers s.samples⟩)) :
    Answers conf profile r.result (queryResponse key conf r.json profile) ↔
      ∀ s ∈ series, (numbers s.samples).isSome = true := by
  constructor
  · rintro ⟨answer, answered, -⟩ s member
    have done := (queryResponse_isOk_iff r listed).mp ⟨answer, answered⟩ _ (List.mem_map_of_mem member)
    rw [each, translated] at done
    cases has : numbers s.samples with
    | some _ => rfl
    | none =>
      rw [has] at done
      obtain ⟨entry, ⟨⟩⟩ := done
  · intro numbered
    let entry (s : Series Samples) : QueryResult := ⟨s.metric, (numbers s.samples).getD []⟩
    have all : List.Forall₂ (fun i e => queryResult key i = .ok e) (series.map (Series.json json)) (series.map entry) := by
      rw [List.forall₂_map_left_iff, List.forall₂_map_right_iff, List.forall₂_same]
      intro s member
      obtain ⟨own, has⟩ := Option.isSome_iff_exists.mp (numbered s member)
      rw [each, translated, has]
      show Except.ok (⟨s.metric, own⟩ : QueryResult) = .ok ⟨s.metric, (numbers s.samples).getD []⟩
      rw [has]
      rfl
    refine ⟨_, (queryResponse_ok_iff r listed _).mpr ⟨_, all, rfl⟩, fun same found => ⟨_, rfl, ?_⟩⟩
    cases lists.symm.trans found
    rw [shown_map series entry fun _ => rfl, List.filter_map, List.forall₂_map_left_iff, List.forall₂_map_right_iff]
    refine List.forall₂_same.mpr fun s _ => ⟨rfl, fun own has => ?_⟩
    show (numbers s.samples).getD [] = own
    rw [show numbers s.samples = some own from has]
    rfl

end

/-- A query is answered iff it comes to a vector of numbers, or to a matrix without series; a
    query over a range, which comes to a matrix, iff each series has numbers. -/
theorem responses_answer_iff (conf : Conf) (profile : Profile) (r : Response) :
    (Answers conf profile r.result (getPrometheusQueryResponse conf r.json profile) ↔
      (∃ series, r.result = .vector series ∧ ∀ s ∈ series, s.samples.numbers.isSome = true) ∨ r.result = .matrix []) ∧
    ∀ series, r.result = .matrix series →
      (Answers conf profile r.result (getPrometheusQueryRangeResponse conf r.json profile) ↔
        ∀ s ∈ series, s.samples.numbers.isSome = true) := by
  constructor
  · rw [getPrometheusQueryResponse]
    cases result : r.result with
    | vector series =>
      have own := answers_iff conf profile queryResult_sample r (by rw [result]; rfl)
        (by rw [result]; rfl)
      rw [result] at own
      rw [own]
      simp
    | matrix series =>
      have listed : r.result.json = .list (series.map (Series.json Range.json)) := by
        rw [result]
        rfl
      cases series with
      | nil =>
        refine iff_of_true ?_ (.inr rfl)
        refine ⟨_, (queryResponse_ok_iff r listed _).mpr ⟨[], .nil, rfl⟩, fun series found => ⟨_, rfl, ?_⟩⟩
        cases found
        simp [shown]
      | cons s series =>
        rw [← result]
        refine iff_of_false (not_answers r listed List.mem_cons_self (queryResult_other s)) ?_
        rw [result]
        simp
    | scalar p | string p =>
      have listed : r.result.json = .list p.json := by
        rw [result]
        rfl
      rw [← result]
      refine iff_of_false (not_answers r listed (i := .float p.time) (by simp [Point.json]) rfl) ?_
      rw [result]
      simp
  · intro series result
    exact answers_iff conf profile queryResult_range r (by rw [result]; rfl) (by rw [result]; rfl)

/-! ### A member who asks for a number -/

def roles : Conf := ⟨["admin", "system_admin"], ["system_reader"], 604800⟩

def member : Profile where
  keystoneToken := "token"
  region := "RegionOne"
  exp := 0
  uuid := "uuid"
  project := ⟨"web", "web", ⟨"default", "Default"⟩⟩
  user := ⟨"member", "member", ⟨"default", "Default"⟩, none, none⟩
  roles := [⟨"member", "member"⟩]
  keystoneTokenExp := ""
  baseDomains := []
  version := ""

/-- `scalar(1)`. -/
def number : Response := { result := .scalar ⟨"1700000000.0", "1"⟩ }

/-- A series of the member's project, and one of another. -/
def loads : List (Series Range) :=
  [⟨[("project_id", "web")], ⟨[⟨"1700000000.0", "1"⟩], []⟩⟩, ⟨[("project_id", "shop")], ⟨[⟨"1700000000.0", "2"⟩], []⟩⟩]

/-- The two numbers of the scalar are taken for series. -/
theorem scalar_not_answered : ¬ ∀ conf profile (r : Response),
    Answers conf profile r.result (getPrometheusQueryResponse conf r.json profile) ∧ ∀ series, r.result = .matrix series →
      Answers conf profile r.result (getPrometheusQueryRangeResponse conf r.json profile) := by
  intro all
  obtain ⟨⟨answer, answered, -⟩, -⟩ := all roles member number
  have failed : getPrometheusQueryResponse roles number.json member = .error (.exception "indices must be integers") := rfl
  rw [failed] at answered
  cases answered

/-- The range of loads is answered, as an instant it is not. -/
theorem loads_answer_iff :
    Answers roles member (.matrix loads) (getPrometheusQueryRangeResponse roles (Response.json { result := .matrix loads }) member) ∧
      ¬ Answers roles member (.matrix loads) (getPrometheusQueryResponse roles (Response.json { result := .matrix loads }) member) := by
  obtain ⟨instant, range⟩ := responses_answer_iff roles member { result := .matrix loads }
  refine ⟨(range loads rfl).mpr (by decide), fun answers => ?_⟩
  rcases instant.mp answers with ⟨series, other, -⟩ | none
  · cases other
  · cases none

end Skyline.Prometheus
