import Skyline.Extension
import Skyline.Paths
import Skyline.Raising
import Skyline.Urls

/-!
The proxies of nginx for the endpoints of the catalogue (`cmd/generate_nginx.py`). The location of a
proxy has the region and the name that the service's type is mapped to; its URL is the endpoint's
without what names a project or a version at the end of the path.
-/
namespace Skyline.ProxyEndpoints
open Skyline.Python Skyline.Raising Skyline.Paths Skyline.Urls
open Skyline.Extension (dictGet)

/-! ## The code -/

structure Endpoint where
  region : Option String
  serviceId : String
  url : String
  deriving DecidableEq, Repr

structure Service where
  id : String
  type : String
  deriving DecidableEq, Repr

/-- The configuration, how Python makes a text lower case, and the message of the `ValueError` that
    `urlparse` raises for the host of a URL, if it does. -/
structure Conf where
  nginxPrefix : String
  serviceMapping : List (String × String)
  lower : String → String
  checkHost : Urls.Text → Option String

structure ProxyEndpoint where
  part : String
  location : String
  url : String
  host : String
  deriving DecidableEq, Repr

/-- `*[%$](*_id)s`. -/
def templatePattern : Glob := .star :: .oneOf ['%', '$'] :: (literal ['('] ++ .star :: literal "_id)s".toList)

/-- `[0-9]`. -/
def digit : Token := .oneOf "0123456789".toList

/-- `v[0-9]`. -/
def versionPattern : Glob := literal ['v'] ++ [digit]

/-- `v[0-9][.][0-9]`. -/
def pointVersionPattern : Glob := literal ['v'] ++ [digit, .oneOf ['.'], digit]

/-- The text of a path, where the root alone is none. -/
def pathText (p : PurePath) : Paths.Text := if p.str = ['/'] then [] else p.str

/-- The text of `path.parents[i]`, which raises an `IndexError` where there are not so many. -/
def parentText (p : PurePath) (i : Nat) : Except Exn Paths.Text :=
  match p.parent i with
  | some parent => .ok (pathText parent)
  | none => .error (.exception (toString i))

/-- The path of the proxied URL, without the slash at its end. -/
def strippedPath (rawPath : Paths.Text) : Except Exn Paths.Text :=
  let path := PurePath.of rawPath
  if rawPath.isEmpty then .ok []
  else if path.length > 1 then
    if path.matches templatePattern then parentText path 1
    else if path.matches versionPattern || path.matches pointVersionPattern then parentText path 0
    else .ok path.str
  else .ok []

/-- How a region is shown in a text. -/
def shown (region : Option String) : String := region.getD "None"

def key (region : Option String) (serviceType : String) : String := shown region ++ "-" ++ serviceType

/-- The path of the location, without the slash at its end. -/
def place (conf : Conf) (region service : String) : PurePath :=
  (((PurePath.of ['/']).join conf.nginxPrefix.toList).join (conf.lower region).toList).join service.toList

def location (conf : Conf) (region service : String) : String := String.ofList (place conf region service).str ++ "/"

/-- `region.lower()` raises an `AttributeError` where an endpoint is of no region. -/
def regionOf (endpoint : Endpoint) : Except Exn String :=
  match endpoint.region with
  | some region => .ok region
  | none => .error (.attributeError "lower")

def parseUrl (conf : Conf) (endpoint : Endpoint) : Except Exn ParseResult :=
  let rawUrl := urlparse endpoint.url.toList
  match conf.checkHost rawUrl.netloc with
  | none => .ok rawUrl
  | some message => .error (.valueError message)

def makeProxy (conf : Conf) (endpoint : Endpoint) (service : String) : Except Exn ProxyEndpoint := do
  let region ← regionOf endpoint
  let rawUrl ← parseUrl conf endpoint
  let path ← strippedPath rawUrl.path
  let url := { rawUrl with path := path ++ ['/'] }
  return {
    part := "# " ++ region ++ " " ++ service
    location := location conf region service
    url := String.ofList url.geturl
    host := String.ofList url.netloc }

/-- The type of an endpoint's service and what it is mapped to, if it is. -/
def mappedService (conf : Conf) (services : List Service) (endpoint : Endpoint) : Option (String × String) := do
  let serviceType ← dictGet (services.map fun s => (s.id, s.type)) endpoint.serviceId
  let service ← dictGet conf.serviceMapping serviceType
  return (serviceType, service)

def conflict (region : Option String) (serviceType : String) : Exn :=
  .keyError ("Region \"" ++ shown region ++ "\" service type \"" ++ serviceType ++ "\" conflict in endpoints.")

abbrev Proxies : Type := List (String × ProxyEndpoint)

/-- A pass of the loop. -/
def addEndpoint (conf : Conf) (services : List Service) (endpoints : Proxies) (endpoint : Endpoint) : Except Exn Proxies :=
  match mappedService conf services endpoint with
  | none => .ok endpoints
  | some (serviceType, service) =>
    if endpoints.any fun entry => entry.1 == key endpoint.region serviceType then
      .error (conflict endpoint.region serviceType)
    else do
      let proxy ← makeProxy conf endpoint service
      return endpoints ++ [(key endpoint.region serviceType, proxy)]

/-- Whether a text comes before another one or is it. -/
def precedes : List Char → List Char → Bool
  | [], _ => true
  | _ :: _, [] => false
  | c :: cs, d :: ds => Nat.blt c.toNat d.toNat || (c == d && precedes cs ds)

def getProxyEndpoints (conf : Conf) (services : List Service) (endpointsList : List Endpoint) : Except Exn Proxies := do
  let endpoints ← endpointsList.foldlM (addEndpoint conf services) []
  return endpoints.mergeSort fun first second => precedes first.1.toList second.1.toList

/-! ## The path that is wanted -/

/-- A segment with the template of an id. -/
def Template (s : Paths.Text) : Prop :=
  ∃ before sign name, s = before ++ sign :: '(' :: (name ++ "_id)s".toList) ∧ (sign = '%' ∨ sign = '$')

/-- A segment `vN` or `vN.M`. -/
def Version (s : Paths.Text) : Prop :=
  ∃ n ∈ "0123456789".toList, s = ['v', n] ∨ ∃ m ∈ "0123456789".toList, s = ['v', n, '.', m]

theorem matches_end {glob : Glob} {s : Paths.Text} (ends : glob = []) : glob.matches s = true ↔ s = [] := by
  rw [ends, Glob.matches, List.isEmpty_iff]

theorem template_iff {s : Paths.Text} : templatePattern.matches s = true ↔ Template s := by
  have whole : literal "_id)s".toList = literal "_id)s".toList ++ [] := (List.append_nil _).symm
  rw [templatePattern, Glob.matches_star, whole]
  simp only [Glob.matches_oneOf, Glob.matches_literal, Glob.matches_star, matches_end rfl]
  constructor
  · rintro ⟨before, _, rfl, sign, _, rfl, signs, _, rfl, name, _, rfl, _, rfl, rfl⟩
    exact ⟨before, sign, name, by simp, by simpa using signs⟩
  · rintro ⟨before, sign, name, rfl, signs⟩
    exact ⟨before, _, rfl, sign, _, rfl, by simpa using signs, _, rfl, name, _, rfl, [], by simp, rfl⟩

theorem version_iff {s : Paths.Text} :
    (versionPattern.matches s || pointVersionPattern.matches s) = true ↔ Version s := by
  rw [Bool.or_eq_true, versionPattern, pointVersionPattern, Glob.matches_literal, Glob.matches_literal]
  simp only [digit, Glob.matches_oneOf, matches_end rfl, List.mem_singleton]
  constructor
  · rintro (⟨_, rfl, n, _, rfl, isDigit, rfl⟩ | ⟨_, rfl, n, _, rfl, isDigit, _, _, rfl, rfl, m, _, rfl, isDigit', rfl⟩)
    · exact ⟨n, isDigit, .inl rfl⟩
    · exact ⟨n, isDigit, .inr ⟨m, isDigit', rfl⟩⟩
  · rintro ⟨n, isDigit, rfl | ⟨m, isDigit', rfl⟩⟩
    · exact .inl ⟨_, rfl, n, _, rfl, isDigit, rfl⟩
    · exact .inr ⟨_, rfl, n, _, rfl, isDigit, _, _, rfl, rfl, m, _, rfl, isDigit', rfl⟩

instance : DecidablePred Template := fun _ => decidable_of_iff _ template_iff
instance : DecidablePred Version := fun _ => decidable_of_iff _ version_iff

/-- The segments without the last one, where that is of a kind. -/
def dropTrailing (kind : Paths.Text → Prop) [DecidablePred kind] (segs : List Paths.Text) : List Paths.Text :=
  match segs.getLast? with
  | some s => if kind s then segs.dropLast else segs
  | none => []

/-- The segments that are kept: a template at the end goes, and then a version. -/
def kept (segs : List Paths.Text) : List Paths.Text := dropTrailing Version (dropTrailing Template segs)

/-- The path of the proxied URL as it should be: the segments that are kept, each after a slash, and a
    slash at the end. Where the endpoint's path begins with two slashes they may stay. -/
def Wanted (rawPath path : Paths.Text) : Prop :=
  ∃ slashes : Nat, path = List.replicate slashes '/' ++ rooted (kept (segments rawPath)) ++ ['/'] ∧
    (slashes ≠ 0 → rootOf rawPath = ['/', '/'])

/-! ## What is stripped -/

section
variable {raw : Paths.Text} {init names : List Paths.Text} {s : Paths.Text}

theorem dropTrailing_concat (kind : Paths.Text → Prop) [DecidablePred kind] (init : List Paths.Text) (s : Paths.Text) :
    dropTrailing kind (init ++ [s]) = if kind s then init else init ++ [s] := by
  rw [dropTrailing, List.getLast?_concat, List.dropLast_concat]

theorem dropTrailing_part (kind : Paths.Text → Prop) [DecidablePred kind] (segs : List Paths.Text) :
    dropTrailing kind segs <+: segs := by
  rcases List.eq_nil_or_concat segs with rfl | ⟨init, s, rfl⟩
  · exact List.prefix_refl _
  · rw [List.concat_eq_append, dropTrailing_concat]
    split
    · exact List.prefix_append _ _
    · exact List.prefix_refl _

/-- A segment that is of neither kind is kept. -/
theorem mem_dropTrailing {kind : Paths.Text → Prop} [DecidablePred kind] {segs : List Paths.Text} (member : s ∈ segs)
    (other : ¬ kind s) : s ∈ dropTrailing kind segs := by
  rcases List.eq_nil_or_concat segs with rfl | ⟨init, last, rfl⟩
  · cases member
  · rw [List.concat_eq_append] at member ⊢
    rw [dropTrailing_concat]
    split
    · next is =>
      rcases List.mem_append.mp member with early | late
      · exact early
      · obtain rfl := List.mem_singleton.mp late
        exact absurd is other
    · exact member

theorem ne_nil_of_names (names : namesOf raw = init ++ [s]) : raw ≠ [] := by
  rintro rfl
  have none : namesOf [] = [] := rfl
  rw [none] at names
  simp at names

theorem rootOf_rooted (rooted : Rooted raw) (filled : raw ≠ []) : rootOf raw = ['/'] ∨ rootOf raw = ['/', '/'] := by
  cases raw with
  | nil => exact absurd rfl filled
  | cons c rest =>
    obtain rfl := rooted c rfl
    refine (rootOf_cases ('/' :: rest)).resolve_left fun none => ?_
    rw [rootOf.eq_def] at none
    split at none
    · cases none
    · cases none
    · cases none
    · next single => exact single rest rfl

theorem joined_rooted (names : List Paths.Text) : '/' :: PurePath.joined names = if names = [] then ['/'] else rooted names := by
  cases names with
  | nil => rfl
  | cons name names => rfl

theorem rooted_ne (proper : Proper names) : rooted names ≠ ['/'] := by
  intro same
  cases names with
  | nil => cases same
  | cons name names =>
    have none : name ++ rooted names = [] := List.tail_eq_of_cons_eq same
    exact (proper name List.mem_cons_self).1 (List.append_eq_nil_iff.mp none).1

theorem str_single : PurePath.str ⟨['/'], names⟩ = if names = [] then ['/'] else rooted names := joined_rooted names

theorem str_double : PurePath.str ⟨['/', '/'], names⟩ = '/' :: '/' :: PurePath.joined names := rfl

theorem pathText_single (proper : Proper names) : pathText ⟨['/'], names⟩ = rooted names := by
  rw [pathText, str_single]
  cases names with
  | nil => rfl
  | cons name names => rw [if_neg (List.cons_ne_nil name names), if_neg (rooted_ne proper)]

theorem pathText_double : pathText ⟨['/', '/'], names⟩ = '/' :: '/' :: PurePath.joined names := by
  rw [pathText, str_double, if_neg (by simp)]

/-- How a path with a last name is stripped. -/
theorem strippedPath_concat (rooted : Rooted raw) (names : namesOf raw = init ++ [s]) : strippedPath raw =
    if Template s then
      if init = [] then .error (.exception "1") else .ok (pathText ⟨rootOf raw, init.dropLast⟩)
    else if Version s then .ok (pathText ⟨rootOf raw, init⟩)
    else .ok (pathText ⟨rootOf raw, init ++ [s]⟩) := by
  have filled := ne_nil_of_names names
  have root : (rootOf raw).isEmpty = false := by
    rcases rootOf_rooted rooted filled with single | double
    · rw [single]
      rfl
    · rw [double]
      rfl
  have length : (PurePath.of raw).length > 1 := by
    rw [PurePath.length, PurePath.of, names, root]
    simp
  have last : (PurePath.of raw).names.getLast? = some s := by
    rw [PurePath.of, names, List.getLast?_concat]
  have parent : parentText (PurePath.of raw) 0 = .ok (pathText ⟨rootOf raw, init⟩) := by
    rw [parentText, PurePath.parent, PurePath.of, names]
    simp
  rw [strippedPath, if_neg (by simpa using filled), if_pos length, PurePath.matches, PurePath.matches, PurePath.matches, last]
  dsimp only
  by_cases template : Template s
  · rw [if_pos (template_iff.mpr template), if_pos template, parentText, PurePath.parent, PurePath.of, names]
    rcases List.eq_nil_or_concat init with rfl | ⟨early, v, rfl⟩
    · rfl
    · simp
  · rw [if_neg fun found => template (template_iff.mp found), if_neg template]
    by_cases version : Version s
    · rw [if_pos (version_iff.mpr version), if_pos version, parent]
    · rw [if_neg fun found => version (version_iff.mp found), if_neg version, PurePath.of, names]
      have more : PurePath.str ⟨rootOf raw, init ++ [s]⟩ ≠ ['/'] := by
        rcases rootOf_rooted rooted filled with single | double
        · rw [single, str_single, if_neg (by simp)]
          exact rooted_ne (names ▸ namesOf_proper raw)
        · rw [double, str_double]
          simp
      rw [pathText, if_neg more]

/-- A path without a name is stripped to nothing. -/
theorem strippedPath_nil (none : namesOf raw = []) : strippedPath raw = .ok [] := by
  have short : ¬ (PurePath.of raw).length > 1 := by
    rw [PurePath.length, PurePath.of, none]
    cases (rootOf raw).isEmpty with
    | true => simp
    | false => simp
  rw [strippedPath, if_neg short, ite_self]

/-- What is left of a path are names that it begins with; of a template at the end, the name before
    it goes, too. -/
theorem strippedPath_ok (rooted : Rooted raw) (names : namesOf raw = init ++ [s]) {path : Paths.Text}
    (ok : strippedPath raw = .ok path) : ∃ left, left <+: namesOf raw ∧ path = pathText ⟨rootOf raw, left⟩ ∧
      (Template s → ∃ v, init = left ++ [v]) := by
  rw [strippedPath_concat rooted names] at ok
  rw [names]
  by_cases template : Template s
  · rw [if_pos template] at ok
    rcases List.eq_nil_or_concat init with rfl | ⟨early, v, rfl⟩
    · rw [if_pos rfl] at ok
      cases ok
    · rw [List.concat_eq_append, if_neg (by simp), List.dropLast_concat] at ok
      rw [List.concat_eq_append, List.append_assoc]
      exact ⟨early, List.prefix_append _ _, (Except.ok.inj ok).symm, fun _ => ⟨v, rfl⟩⟩
  · rw [if_neg template] at ok
    split at ok
    · exact ⟨init, List.prefix_append _ _, (Except.ok.inj ok).symm, fun is => absurd is template⟩
    · exact ⟨init ++ [s], List.prefix_refl _, (Except.ok.inj ok).symm, fun is => absurd is template⟩

/-- The path that is left has slashes before its segments only where its root is two. -/
theorem pathText_slashes (root : rootOf raw = ['/'] ∨ rootOf raw = ['/', '/']) (proper : Proper names) :
    ∃ slashes : Nat, pathText ⟨rootOf raw, names⟩ = List.replicate slashes '/' ++ rooted names ∧
      (slashes ≠ 0 → rootOf raw = ['/', '/']) := by
  rcases root with single | double
  · refine ⟨0, ?_, fun some => absurd rfl some⟩
    rw [single, pathText_single proper]
    rfl
  · rw [double, pathText_double]
    cases names with
    | nil => exact ⟨2, rfl, fun _ => rfl⟩
    | cons name names => exact ⟨1, rfl, fun _ => rfl⟩

theorem segments_slashes (slashes : Nat) (text : Paths.Text) :
    segments (List.replicate slashes '/' ++ text) = segments text := by
  induction slashes with
  | zero => rfl
  | succ slashes ih => rw [List.replicate_succ, List.cons_append, segments_cons, ih]

/-- The segments of a path that is left. -/
theorem segments_pathText (root : rootOf raw = ['/'] ∨ rootOf raw = ['/', '/']) (proper : Proper names) :
    segments (pathText ⟨rootOf raw, names⟩ ++ ['/']) = names := by
  obtain ⟨slashes, text, -⟩ := pathText_slashes root proper
  rw [segments_concat, text, segments_slashes, segments_rooted proper]

theorem kept_part (segs : List Paths.Text) : kept segs <+: segs :=
  (dropTrailing_part Version _).trans (dropTrailing_part Template segs)

theorem Wanted.segments {path : Paths.Text} (wanted : Wanted raw path) :
    Paths.segments path = kept (Paths.segments raw) := by
  obtain ⟨slashes, rfl, -⟩ := wanted
  rw [segments_concat, segments_slashes, segments_rooted ((segments_proper raw).part (kept_part _))]

/-- A dot is kept. -/
theorem dot_mem_kept {segs : List Paths.Text} (member : ['.'] ∈ segs) : ['.'] ∈ kept segs :=
  mem_dropTrailing (mem_dropTrailing member (by decide)) (by decide)

theorem namesOf_segments (none : ['.'] ∉ segments raw) : namesOf raw = segments raw := by
  rw [namesOf, List.filter_eq_self]
  intro s member
  simpa using fun is : s = ['.'] => none (is ▸ member)

/-- No segment is a dot, and the segment before a template at the end is a version. -/
def Strippable (raw : Paths.Text) : Prop :=
  ['.'] ∉ segments raw ∧ ∀ init s, segments raw = init ++ [s] → Template s → ∃ early v, init = early ++ [v] ∧ Version v

theorem strippedPath_wanted (rooted : Rooted raw) (strippable : Strippable raw) :
    ∃ path, strippedPath raw = .ok path ∧ Wanted raw (path ++ ['/']) := by
  obtain ⟨noDot, before⟩ := strippable
  have names := namesOf_segments noDot
  have proper := segments_proper raw
  rcases List.eq_nil_or_concat (segments raw) with nothing | ⟨init, s, split⟩
  · rw [nothing] at names
    refine ⟨[], strippedPath_nil names, 0, ?_, fun some => absurd rfl some⟩
    rw [nothing]
    rfl
  · rw [List.concat_eq_append] at split
    have filled := ne_nil_of_names (names.trans split)
    have left {names : List Paths.Text} (part : names <+: segments raw) (all : kept (segments raw) = names) :
        Wanted raw (pathText ⟨rootOf raw, names⟩ ++ ['/']) := by
      obtain ⟨slashes, text, root⟩ := pathText_slashes (rootOf_rooted rooted filled) (proper.part part)
      exact ⟨slashes, by rw [text, all], root⟩
    rw [strippedPath_concat rooted (names.trans split)]
    rw [split, kept, dropTrailing_concat] at left
    by_cases template : Template s
    · obtain ⟨early, v, rfl, version⟩ := before init s split template
      rw [if_pos template, dropTrailing_concat, if_pos version] at left
      rw [if_pos template, if_neg (by simp), List.dropLast_concat]
      exact ⟨_, rfl, left (by rw [List.append_assoc]; exact List.prefix_append _ _) rfl⟩
    · rw [if_neg template, dropTrailing_concat] at left
      rw [if_neg template]
      by_cases version : Version s
      · rw [if_pos version] at left ⊢
        exact ⟨_, rfl, left (List.prefix_append _ _) rfl⟩
      · rw [if_neg version] at left ⊢
        exact ⟨_, rfl, left (List.prefix_refl _) rfl⟩

theorem strippable_of_wanted (rooted : Rooted raw) {path : Paths.Text} (ok : strippedPath raw = .ok path)
    (wanted : Wanted raw (path ++ ['/'])) : Strippable raw := by
  have same := wanted.segments
  rcases List.eq_nil_or_concat (namesOf raw) with none | ⟨init, s, names⟩
  · obtain rfl := Except.ok.inj (ok.symm.trans (strippedPath_nil none))
    have noDot : ['.'] ∉ segments raw := by
      intro dot
      have still := dot_mem_kept dot
      rw [← same] at still
      cases still
    refine ⟨noDot, fun init s split _ => ?_⟩
    rw [← namesOf_segments noDot, none] at split
    simp at split
  · rw [List.concat_eq_append] at names
    have filled := ne_nil_of_names names
    obtain ⟨left, part, rfl, before⟩ := strippedPath_ok rooted names ok
    rw [segments_pathText (rootOf_rooted rooted filled) ((namesOf_proper raw).part part)] at same
    have noDot : ['.'] ∉ segments raw := fun member =>
      dot_not_mem raw (part.subset (same ▸ dot_mem_kept member))
    refine ⟨noDot, fun init' s' split template => ?_⟩
    rw [← namesOf_segments noDot, names] at split
    obtain ⟨rfl, rfl⟩ := List.append_singleton_inj.mp split
    obtain ⟨v, rfl⟩ := before template
    rw [← namesOf_segments noDot, names, kept, dropTrailing_concat, if_pos template, dropTrailing_concat] at same
    refine ⟨left, v, rfl, ?_⟩
    by_contra other
    rw [if_neg other] at same
    simp at same

end

/-! ## The loop -/

section
variable {conf : Conf} {services : List Service}

/-- An endpoint whose service is mapped. -/
structure Mapped where
  endpoint : Endpoint
  serviceType : String
  service : String
  deriving DecidableEq, Repr

def Mapped.key (m : Mapped) : String := ProxyEndpoints.key m.endpoint.region m.serviceType

variable (conf services) in
def mapped (endpointsList : List Endpoint) : List Mapped :=
  endpointsList.filterMap fun e => (mappedService conf services e).map fun own => ⟨e, own.1, own.2⟩

variable (conf) in
/-- The pass over an endpoint whose service is mapped. -/
def addMapped (endpoints : Proxies) (m : Mapped) : Except Exn Proxies :=
  if endpoints.any fun entry => entry.1 == m.key then .error (conflict m.endpoint.region m.serviceType)
  else do
    let proxy ← makeProxy conf m.endpoint m.service
    return endpoints ++ [(m.key, proxy)]

theorem mem_mapped {endpointsList : List Endpoint} {m : Mapped} : m ∈ mapped conf services endpointsList ↔
    m.endpoint ∈ endpointsList ∧ mappedService conf services m.endpoint = some (m.serviceType, m.service) := by
  rw [mapped, List.mem_filterMap]
  constructor
  · rintro ⟨e, member, own⟩
    obtain ⟨⟨serviceType, service⟩, found, rfl⟩ := Option.map_eq_some_iff.mp own
    exact ⟨member, found⟩
  · rintro ⟨member, found⟩
    exact ⟨m.endpoint, member, by rw [found]; rfl⟩

/-- The endpoints whose services are not mapped are skipped. -/
theorem foldlM_mapped (endpoints : Proxies) (endpointsList : List Endpoint) :
    endpointsList.foldlM (addEndpoint conf services) endpoints =
      (mapped conf services endpointsList).foldlM (addMapped conf) endpoints := by
  induction endpointsList generalizing endpoints with
  | nil => rfl
  | cons e later ih =>
    rw [List.foldlM_cons, addEndpoint, mapped, List.filterMap_cons]
    cases mappedService conf services e with
    | none => exact ih endpoints
    | some own =>
      rw [Option.map_some, List.foldlM_cons]
      refine congrArg (addMapped conf endpoints ⟨e, own.1, own.2⟩ >>= ·) (funext fun next => ?_)
      exact ih next

/-- The entry of an endpoint. -/
def Entry (conf : Conf) (m : Mapped) (entry : String × ProxyEndpoint) : Prop :=
  entry.1 = m.key ∧ makeProxy conf m.endpoint m.service = .ok entry.2

theorem taken_iff {endpoints : Proxies} {key : String} :
    (endpoints.any fun entry => entry.1 == key) = true ↔ key ∈ endpoints.map Prod.fst := by
  rw [List.any_eq_true, List.mem_map]
  simp only [beq_iff_eq]

/-- A pass enters a proxy under a new key. -/
theorem addMapped_ok {endpoints result : Proxies} {m : Mapped} : addMapped conf endpoints m = .ok result ↔
    m.key ∉ endpoints.map Prod.fst ∧ ∃ proxy, makeProxy conf m.endpoint m.service = .ok proxy ∧
      result = endpoints ++ [(m.key, proxy)] := by
  rw [addMapped]
  by_cases taken : m.key ∈ endpoints.map Prod.fst
  · rw [if_pos (taken_iff.mpr taken)]
    exact iff_of_false (fun ran => by cases ran) fun new => new.1 taken
  · rw [if_neg fun is => taken (taken_iff.mp is), bind_ok_iff]
    constructor
    · rintro ⟨proxy, made, same⟩
      exact ⟨taken, proxy, made, (Except.ok.inj same).symm⟩
    · rintro ⟨-, proxy, made, rfl⟩
      exact ⟨proxy, made, rfl⟩

/-- What the loop comes to: an entry for each endpoint in turn, under keys that are all new. -/
theorem foldlM_ok {ms : List Mapped} {endpoints result : Proxies} : ms.foldlM (addMapped conf) endpoints = .ok result ↔
    (ms.map Mapped.key).Nodup ∧ (∀ m ∈ ms, m.key ∉ endpoints.map Prod.fst) ∧
      ∃ entries, List.Forall₂ (Entry conf) ms entries ∧ result = endpoints ++ entries := by
  induction ms generalizing endpoints with
  | nil =>
    constructor
    · rintro ⟨⟩
      exact ⟨.nil, fun m member => (List.not_mem_nil member).elim, [], .nil, (List.append_nil _).symm⟩
    · rintro ⟨-, -, entries, all, rfl⟩
      obtain rfl := List.forall₂_nil_left_iff.mp all
      rw [List.append_nil]
      rfl
  | cons m ms ih =>
    rw [List.foldlM_cons, bind_ok_iff, List.map_cons, List.nodup_cons]
    constructor
    · rintro ⟨next, pass, later⟩
      obtain ⟨new, proxy, made, rfl⟩ := addMapped_ok.mp pass
      obtain ⟨nodup, news, entries, all, rfl⟩ := ih.mp later
      simp only [List.map_append, List.mem_append, List.map_cons, List.map_nil, List.mem_singleton, not_or] at news
      refine ⟨⟨?_, nodup⟩, ?_, (m.key, proxy) :: entries, .cons ⟨rfl, made⟩ all, by rw [List.append_assoc]; rfl⟩
      · intro again
        obtain ⟨m', member, same⟩ := List.mem_map.mp again
        exact (news m' member).2 same
      · intro m' member
        rcases List.mem_cons.mp member with rfl | later
        · exact new
        · exact (news m' later).1
    · rintro ⟨⟨new, nodup⟩, news, entries, all, rfl⟩
      obtain ⟨⟨key, proxy⟩, entries, ⟨rfl, made⟩, rest, rfl⟩ := List.forall₂_cons_left_iff.mp all
      refine ⟨endpoints ++ [(m.key, proxy)], addMapped_ok.mpr ⟨news m List.mem_cons_self, proxy, made, rfl⟩,
        ih.mpr ⟨nodup, fun m' member => ?_, entries, rest, by rw [List.append_assoc]; rfl⟩⟩
      simp only [List.map_append, List.mem_append, List.map_cons, List.map_nil, List.mem_singleton, not_or]
      exact ⟨news m' (List.mem_cons_of_mem m member), fun same => new (same ▸ List.mem_map_of_mem member)⟩

/-- What is returned: the entries of the endpoints, in the order of their keys. -/
theorem getProxyEndpoints_ok {endpointsList : List Endpoint} {result : Proxies} :
    getProxyEndpoints conf services endpointsList = .ok result ↔
      ((mapped conf services endpointsList).map Mapped.key).Nodup ∧
        ∃ entries, List.Forall₂ (Entry conf) (mapped conf services endpointsList) entries ∧
          result = entries.mergeSort fun first second => precedes first.1.toList second.1.toList := by
  rw [getProxyEndpoints, bind_ok_iff, foldlM_mapped]
  constructor
  · rintro ⟨endpoints, looped, same⟩
    obtain ⟨nodup, -, entries, all, entered⟩ := foldlM_ok.mp looped
    exact ⟨nodup, entries, all, by rw [← Except.ok.inj same, entered, List.nil_append]⟩
  · rintro ⟨nodup, entries, all, rfl⟩
    exact ⟨entries, foldlM_ok.mpr ⟨nodup, fun m _ => List.not_mem_nil, entries, all, rfl⟩, rfl⟩

/-- Each endpoint that is mapped has its entry in the result. -/
theorem entry_mem {endpointsList : List Endpoint} {result : Proxies}
    (ran : getProxyEndpoints conf services endpointsList = .ok result) {m : Mapped}
    (member : m ∈ mapped conf services endpointsList) : ∃ entry ∈ result, Entry conf m entry := by
  obtain ⟨-, entries, all, rfl⟩ := getProxyEndpoints_ok.mp ran
  obtain ⟨i, within, rfl⟩ := List.mem_iff_getElem.mp member
  exact ⟨_, List.mem_mergeSort.mpr (List.getElem_mem (all.length_eq ▸ within)), all.get within (all.length_eq ▸ within)⟩

theorem makeProxy_ok {e : Endpoint} {service : String} {proxy : ProxyEndpoint} : makeProxy conf e service = .ok proxy ↔
    ∃ region path, e.region = some region ∧ conf.checkHost (urlparse e.url.toList).netloc = none ∧
      strippedPath (urlparse e.url.toList).path = .ok path ∧ proxy =
        ⟨"# " ++ region ++ " " ++ service, location conf region service,
          String.ofList (ParseResult.geturl { urlparse e.url.toList with path := path ++ ['/'] }),
          String.ofList (urlparse e.url.toList).netloc⟩ := by
  rw [makeProxy, regionOf, bind_ok_iff]
  constructor
  · rintro ⟨region, named, rest⟩
    obtain ⟨url, parsed, rest⟩ := bind_ok_iff.mp rest
    obtain ⟨path, stripped, same⟩ := bind_ok_iff.mp rest
    rw [parseUrl] at parsed
    split at parsed
    · next checked =>
      obtain rfl := Except.ok.inj parsed
      refine ⟨region, path, ?_, checked, stripped, (Except.ok.inj same).symm⟩
      split at named
      · next given =>
        rw [given, Except.ok.inj named]
      · cases named
    · cases parsed
  · rintro ⟨region, path, given, checked, stripped, rfl⟩
    refine ⟨region, by rw [given], bind_ok_iff.mpr ⟨_, ?_, bind_ok_iff.mpr ⟨path, stripped, rfl⟩⟩⟩
    rw [parseUrl, checked]

end

/-! ## Endpoints that are stripped correctly -/

/-- The URL of the proxy is the endpoint's with the path that it should have. -/
def Stripped (e : Endpoint) (proxy : ProxyEndpoint) : Prop :=
  ∃ path, Wanted (urlparse e.url.toList).path path ∧
    proxy.url = String.ofList (ParseResult.geturl { urlparse e.url.toList with path := path })

section
variable {conf : Conf} {services : List Service} {e : Endpoint}

theorem slashes_head (slashes : Nat) (segs : List Paths.Text) :
    ∃ rest, List.replicate slashes '/' ++ rooted segs ++ ['/'] = '/' :: rest := by
  cases slashes with
  | zero =>
    cases segs with
    | nil => exact ⟨[], rfl⟩
    | cons s segs => exact ⟨_, rfl⟩
  | succ slashes => exact ⟨_, rfl⟩

theorem Wanted.head {raw path : Paths.Text} (wanted : Wanted raw path) : ∃ rest, path = '/' :: rest := by
  obtain ⟨slashes, rfl, -⟩ := wanted
  exact slashes_head slashes _

theorem strippedPath_head {raw path : Paths.Text} (rooted : Rooted raw) (ok : strippedPath raw = .ok path) :
    ∃ rest, path ++ ['/'] = '/' :: rest := by
  rcases List.eq_nil_or_concat (namesOf raw) with none | ⟨init, s, names⟩
  · obtain rfl := Except.ok.inj (ok.symm.trans (strippedPath_nil none))
    exact ⟨[], rfl⟩
  · rw [List.concat_eq_append] at names
    have filled := ne_nil_of_names names
    obtain ⟨left, part, rfl, -⟩ := strippedPath_ok rooted names ok
    obtain ⟨slashes, text, -⟩ := pathText_slashes (rootOf_rooted rooted filled) ((namesOf_proper raw).part part)
    rw [text]
    exact slashes_head slashes left

/-- The proxy that is made of an absolute URL has the URL that it should have iff the path is strippable. -/
theorem stripped_iff {service : String} {proxy : ProxyEndpoint} (absolute : Absolute (urlparse e.url.toList))
    (made : makeProxy conf e service = .ok proxy) : Stripped e proxy ↔ Strippable (urlparse e.url.toList).path := by
  obtain ⟨region, path, -, -, stripped, rfl⟩ := makeProxy_ok.mp made
  have rooted := urlparse_rooted absolute.2
  constructor
  · rintro ⟨path', wanted, same⟩
    obtain ⟨rest, begins⟩ := strippedPath_head rooted stripped
    obtain ⟨rest', rfl⟩ := wanted.head
    change String.ofList (ParseResult.geturl { urlparse e.url.toList with path := path ++ ['/'] }) = _ at same
    rw [begins] at same
    obtain rfl := geturl_path_injective absolute (String.ofList_injective same)
    exact strippable_of_wanted rooted stripped (begins ▸ wanted)
  · intro strippable
    obtain ⟨path', again, wanted⟩ := strippedPath_wanted rooted strippable
    obtain rfl := Except.ok.inj (again.symm.trans stripped)
    exact ⟨_, wanted, rfl⟩

/-- Of an absolute endpoint that is mapped: the loop does not raise on it and enters a proxy with the
    URL that it should have iff its key is new, it is of a region, its host is let pass and its path
    is strippable. In what is returned it has such a proxy iff its path is strippable. -/
theorem endpoint_stripped_iff {serviceType service : String}
    (own : mappedService conf services e = some (serviceType, service)) (absolute : Absolute (urlparse e.url.toList)) :
    (∀ endpoints, (∃ proxy, addEndpoint conf services endpoints e = .ok (endpoints ++ [(key e.region serviceType, proxy)]) ∧
        Stripped e proxy) ↔ key e.region serviceType ∉ endpoints.map Prod.fst ∧ e.region.isSome = true ∧
          conf.checkHost (urlparse e.url.toList).netloc = none ∧ Strippable (urlparse e.url.toList).path) ∧
      ∀ endpointsList result, e ∈ endpointsList → getProxyEndpoints conf services endpointsList = .ok result →
        ∃ proxy, (key e.region serviceType, proxy) ∈ result ∧
          (Stripped e proxy ↔ Strippable (urlparse e.url.toList).path) := by
  refine ⟨fun endpoints => ?_, fun endpointsList result member ran => ?_⟩
  · have pass : addEndpoint conf services endpoints e = addMapped conf endpoints ⟨e, serviceType, service⟩ := by
      rw [addEndpoint, own]
      rfl
    simp only [pass, addMapped_ok]
    constructor
    · rintro ⟨proxy, ⟨new, proxy', made, same⟩, stripped⟩
      obtain ⟨-, rfl⟩ := Prod.mk.inj (List.cons.inj (List.append_cancel_left same)).1
      obtain ⟨region, path, given, checked, -, -⟩ := makeProxy_ok.mp made
      exact ⟨new, by rw [given]; rfl, checked, (stripped_iff absolute made).mp stripped⟩
    · rintro ⟨new, given, checked, strippable⟩
      obtain ⟨region, given⟩ := Option.isSome_iff_exists.mp given
      obtain ⟨path, stripped, -⟩ := strippedPath_wanted (urlparse_rooted absolute.2) strippable
      have made : makeProxy conf e service = .ok _ := makeProxy_ok.mpr ⟨region, path, given, checked, stripped, rfl⟩
      exact ⟨_, ⟨new, _, made, rfl⟩, (stripped_iff absolute made).mpr strippable⟩
  · obtain ⟨⟨_, proxy⟩, entered, rfl, made⟩ := entry_mem ran (m := ⟨e, serviceType, service⟩) (mem_mapped.mpr ⟨member, own⟩)
    exact ⟨proxy, entered, stripped_iff absolute made⟩

end

/-! ### Endpoints with a project in their paths -/

def openstack : Conf :=
  { nginxPrefix := "/api/openstack", serviceMapping := [("compute", "nova")]
    lower := fun s => String.ofList (s.toList.map Char.toLower), checkHost := fun _ => none }
def computeServices : List Service := [⟨"c1", "compute"⟩]

def versioned : Endpoint := ⟨some "RegionOne", "c1", "http://nova:8774/v2.1/%(tenant_id)s"⟩
def bare : Endpoint := ⟨some "RegionOne", "c1", "http://nova:8774/%(tenant_id)s"⟩
def unversioned : Endpoint := ⟨some "RegionOne", "c1", "http://cloud/compute/$(tenant_id)s"⟩

/-- A proxy of the whole host. -/
def rootProxy : ProxyEndpoint := ⟨"# RegionOne nova", "/api/openstack/regionone/nova/", "http://cloud/", "cloud"⟩

theorem versioned_stripped : ∃ proxy,
    addEndpoint openstack computeServices [] versioned = .ok [("RegionOne-compute", proxy)] ∧ Stripped versioned proxy := by
  have own : mappedService openstack computeServices versioned = some ("compute", "nova") := by decide
  have absolute : Absolute (urlparse versioned.url.toList) := by decide
  have split : segments (urlparse versioned.url.toList).path = ["v2.1".toList] ++ ["%(tenant_id)s".toList] := by decide
  refine ((endpoint_stripped_iff own absolute).1 []).mpr ⟨List.not_mem_nil, rfl, rfl, ?_, fun init s same _ => ?_⟩
  · rw [split]
    decide
  · obtain ⟨rfl, -⟩ := List.append_singleton_inj.mp (split.symm.trans same)
    exact ⟨[], _, rfl, by decide⟩

/-- The template alone raises an `IndexError`; with a name before it, that is stripped, too. -/
theorem templates_not_stripped :
    (mappedService openstack computeServices bare = some ("compute", "nova") ∧ Absolute (urlparse bare.url.toList) ∧
      getProxyEndpoints openstack computeServices [bare] = .error (.exception "1")) ∧
    mappedService openstack computeServices unversioned = some ("compute", "nova") ∧
      Absolute (urlparse unversioned.url.toList) ∧
      getProxyEndpoints openstack computeServices [unversioned] = .ok [("RegionOne-compute", rootProxy)] ∧
      ¬ Stripped unversioned rootProxy := by
  have absolute : Absolute (urlparse unversioned.url.toList) := by decide
  have made : makeProxy openstack unversioned "nova" = .ok rootProxy := by decide
  refine ⟨⟨by decide, by decide, by decide⟩, by decide, absolute, ?_, fun stripped => ?_⟩
  · refine getProxyEndpoints_ok.mpr ⟨List.nodup_singleton _, [("RegionOne-compute", rootProxy)],
      .cons ⟨rfl, made⟩ .nil, (List.mergeSort_singleton _).symm⟩
  · obtain ⟨-, before⟩ := (stripped_iff absolute made).mp stripped
    have split : segments (urlparse unversioned.url.toList).path = ["compute".toList] ++ ["$(tenant_id)s".toList] := by decide
    obtain ⟨early, v, same, version⟩ := before _ _ split (by decide)
    obtain ⟨-, rfl⟩ := List.append_singleton_inj.mp (show [] ++ ["compute".toList] = early ++ [v] from same)
    exact absurd version (by decide)

end Skyline.ProxyEndpoints
