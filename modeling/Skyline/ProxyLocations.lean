import Skyline.ProxyEndpoints

/-!
The locations of the proxies. The loop keeps the regions and types apart, as they are written, while
a location has the region in lower case and the name that the type is mapped to: two proxies that
the loop keeps apart can have one location.
-/
namespace Skyline.ProxyLocations
open Skyline.Python Skyline.Raising Skyline.Paths Skyline.Urls Skyline.ProxyEndpoints

/-! ## The specification -/

/-- The loop raises for a conflict, or every endpoint that is mapped has its proxy, and no two proxies
    have one location. -/
def Separate (conf : Conf) (services : List Service) (endpointsList : List Endpoint) : Prop :=
  match getProxyEndpoints conf services endpointsList with
  | .error e => ∃ region serviceType, e = conflict region serviceType
  | .ok result => (result.map fun entry => entry.2.location).Nodup ∧
      ∀ m ∈ mapped conf services endpointsList, ∃ entry ∈ result, Entry conf m entry

/-- The path has one name, a template. -/
def BareTemplate (raw : Paths.Text) : Prop := rootOf raw ≠ [] ∧ ∃ s, namesOf raw = [s] ∧ Template s

/-- A proxy can be made of the endpoint. -/
structure Readable (conf : Conf) (e : Endpoint) : Prop where
  region : e.region.isSome = true
  host : conf.checkHost (urlparse e.url.toList).netloc = none
  path : ¬ BareTemplate (urlparse e.url.toList).path

/-- The path of an endpoint's location: the region in lower case and the name of the service, after
    the prefix. -/
def placeOf (conf : Conf) (m : Mapped) : PurePath := place conf (shown m.endpoint.region) m.service

/-- An endpoint is reached with the region and the type of one before it. -/
def Conflicting (conf : Conf) (ms : List Mapped) : Prop :=
  ∃ before m after, ms = before ++ m :: after ∧ (before.map Mapped.key).Nodup ∧
    (∀ m' ∈ before, Readable conf m'.endpoint) ∧ m.key ∈ before.map Mapped.key

/-- A text with one name. -/
def Plain (text : Paths.Text) : Prop := rootOf text = [] ∧ namesOf text = [text]

/-! ## Proxies that cannot be made -/

section
variable {conf : Conf} {services : List Service}

theorem matches_iff {p : PurePath} {glob : Glob} :
    p.matches glob = true ↔ ∃ s, p.names.getLast? = some s ∧ glob.matches s = true := by
  rw [PurePath.matches]
  cases p.names.getLast? with
  | none => simp
  | some s => simp

theorem parentText_isOk {p : PurePath} {i : Nat} : (∃ text, parentText p i = .ok text) ↔ i < p.names.length := by
  rw [parentText, PurePath.parent]
  by_cases within : i < p.names.length
  · rw [if_pos within]
    exact iff_of_true ⟨_, rfl⟩ within
  · rw [if_neg within]
    refine iff_of_false ?_ within
    rintro ⟨text, same⟩
    cases same

theorem length_of {raw : Paths.Text} : (PurePath.of raw).length > 1 ↔
    namesOf raw ≠ [] ∧ ¬ ((namesOf raw).length = 1 ∧ rootOf raw = []) := by
  rw [PurePath.length, PurePath.of, ← List.length_pos_iff, ← List.isEmpty_iff]
  cases (rootOf raw).isEmpty with
  | true => simp; omega
  | false => simp

theorem strippedPath_isOk {raw : Paths.Text} : (∃ path, strippedPath raw = .ok path) ↔ ¬ BareTemplate raw := by
  rw [strippedPath]
  by_cases empty : raw.isEmpty = true
  · rw [if_pos empty]
    rw [List.isEmpty_iff] at empty
    subst empty
    exact iff_of_true ⟨_, rfl⟩ fun bare => bare.1 rfl
  · rw [if_neg empty]
    by_cases long : (PurePath.of raw).length > 1
    · rw [if_pos long]
      obtain ⟨filled, more⟩ := length_of.mp long
      by_cases template : (PurePath.of raw).matches templatePattern = true
      · rw [if_pos template, parentText_isOk]
        obtain ⟨s, last, is⟩ := matches_iff.mp template
        change (namesOf raw).getLast? = some s at last
        show 1 < (namesOf raw).length ↔ _
        constructor
        · rintro two ⟨-, t, single, -⟩
          rw [single] at two
          exact absurd two (by simp)
        · intro other
          by_contra short
          have single : (namesOf raw).length = 1 := by
            have some := List.length_pos_iff.mpr filled
            omega
          obtain ⟨t, single'⟩ := List.length_eq_one_iff.mp single
          rw [single'] at last
          obtain rfl := Option.some.inj last
          exact other ⟨fun none => more ⟨single, none⟩, t, single', template_iff.mp is⟩
      · rw [if_neg template]
        refine iff_of_true ?_ ?_
        · split
          · exact parentText_isOk.mpr (List.length_pos_iff.mpr filled)
          · exact ⟨_, rfl⟩
        · rintro ⟨-, s, single, is⟩
          refine template (matches_iff.mpr ⟨s, ?_, template_iff.mpr is⟩)
          rw [PurePath.of, single]
          rfl
    · rw [if_neg long]
      refine iff_of_true ⟨_, rfl⟩ ?_
      rintro ⟨root, s, single, -⟩
      exact long (length_of.mpr ⟨by rw [single]; exact List.cons_ne_nil _ _, fun only => root only.2⟩)

theorem strippedPath_error {raw : Paths.Text} {region : Option String} {serviceType : String} :
    strippedPath raw ≠ .error (conflict region serviceType) := by
  have parent (p : PurePath) (i : Nat) : parentText p i ≠ .error (conflict region serviceType) := by
    rw [parentText]
    split
    · exact fun same => by cases same
    · exact fun same => by cases same
  rw [strippedPath]
  split
  · exact fun same => by cases same
  · split
    · split
      · exact parent _ 1
      · split
        · exact parent _ 0
        · exact fun same => by cases same
    · exact fun same => by cases same

theorem makeProxy_isOk {e : Endpoint} {service : String} :
    (∃ proxy, makeProxy conf e service = .ok proxy) ↔ Readable conf e := by
  simp only [makeProxy_ok]
  constructor
  · rintro ⟨proxy, region, path, given, checked, stripped, -⟩
    exact ⟨by rw [given]; rfl, checked, strippedPath_isOk.mp ⟨path, stripped⟩⟩
  · rintro ⟨given, checked, other⟩
    obtain ⟨region, given⟩ := Option.isSome_iff_exists.mp given
    obtain ⟨path, stripped⟩ := strippedPath_isOk.mpr other
    exact ⟨_, region, path, given, checked, stripped, rfl⟩

/-- What is raised where a proxy cannot be made is no conflict. -/
theorem makeProxy_error {e : Endpoint} {service : String} {x : Exn} (raised : makeProxy conf e service = .error x)
    (region : Option String) (serviceType : String) : x ≠ conflict region serviceType := by
  rintro rfl
  rw [makeProxy, bind_error_iff] at raised
  rcases raised with unnamed | ⟨_, -, raised⟩
  · rw [regionOf] at unnamed
    split at unnamed
    · cases unnamed
    · cases unnamed
  rcases bind_error_iff.mp raised with refused | ⟨url, -, raised⟩
  · rw [parseUrl] at refused
    split at refused
    · cases refused
    · cases refused
  rcases bind_error_iff.mp raised with short | ⟨path, -, raised⟩
  · exact absurd short strippedPath_error
  · cases raised

/-! ## The loop -/

/-- A pass raises for a conflict iff the key is taken. -/
theorem addMapped_conflict {endpoints : Proxies} {m : Mapped} :
    (∃ region serviceType, addMapped conf endpoints m = .error (conflict region serviceType)) ↔
      m.key ∈ endpoints.map Prod.fst := by
  rw [addMapped]
  by_cases taken : m.key ∈ endpoints.map Prod.fst
  · rw [if_pos (taken_iff.mpr taken)]
    exact iff_of_true ⟨_, _, rfl⟩ taken
  · rw [if_neg fun is => taken (taken_iff.mp is)]
    refine iff_of_false ?_ taken
    rintro ⟨region, serviceType, raised⟩
    rcases bind_error_iff.mp raised with unmade | ⟨proxy, -, entered⟩
    · exact makeProxy_error unmade region serviceType rfl
    · cases entered

/-- The keys of what the loop has entered. -/
theorem keys_entered {ms : List Mapped} {entries : Proxies} (all : List.Forall₂ (Entry conf) ms entries) :
    entries.map Prod.fst = ms.map Mapped.key := by
  induction all with
  | nil => rfl
  | cons first _ ih => rw [List.map_cons, List.map_cons, first.1, ih]

/-- The endpoints can be entered iff a proxy can be made of each. -/
theorem enterable_iff {ms : List Mapped} :
    (∃ entries, List.Forall₂ (Entry conf) ms entries) ↔ ∀ m ∈ ms, Readable conf m.endpoint := by
  rw [exists_forall₂]
  refine forall₂_congr fun m _ => ?_
  rw [← makeProxy_isOk]
  constructor
  · rintro ⟨⟨_, proxy⟩, -, made⟩
    exact ⟨proxy, made⟩
  · rintro ⟨proxy, made⟩
    exact ⟨(m.key, proxy), rfl, made⟩

/-- The loop raises for a conflict iff an endpoint is reached with the region and the type of one before. -/
theorem getProxyEndpoints_conflict {endpointsList : List Endpoint} :
    (∃ region serviceType, getProxyEndpoints conf services endpointsList = .error (conflict region serviceType)) ↔
      Conflicting conf (mapped conf services endpointsList) := by
  simp only [getProxyEndpoints, bind_error_iff, foldlM_mapped]
  constructor
  · rintro ⟨region, serviceType, raised | ⟨_, -, sorted⟩⟩
    · obtain ⟨before, m, after, next, split, ran, raised⟩ := foldlM_error.mp raised
      obtain ⟨nodup, -, _, all, rfl⟩ := foldlM_ok.mp ran
      have taken := addMapped_conflict.mp ⟨region, serviceType, raised⟩
      rw [keys_entered all] at taken
      exact ⟨before, m, after, split, nodup, enterable_iff.mp ⟨next, all⟩, taken⟩
    · cases sorted
  · rintro ⟨before, m, after, split, nodup, readable, taken⟩
    obtain ⟨entries, all⟩ := enterable_iff.mpr readable
    rw [← keys_entered all] at taken
    obtain ⟨region, serviceType, raised⟩ := addMapped_conflict.mpr taken
    have ran := foldlM_ok.mpr ⟨nodup, fun m _ => List.not_mem_nil, entries, all, (List.nil_append entries).symm⟩
    exact ⟨region, serviceType, .inl (foldlM_error.mpr ⟨before, m, after, entries, split, ran, raised⟩)⟩

theorem Conflicting.repeated {ms : List Mapped} (conflicting : Conflicting conf ms) : ¬ (ms.map Mapped.key).Nodup := by
  obtain ⟨before, m, after, rfl, -, -, again⟩ := conflicting
  rw [List.map_append, List.map_cons, List.nodup_append]
  intro ⟨_, _, apart⟩
  exact apart m.key again m.key List.mem_cons_self rfl

/-! ## The locations -/

theorem place_valid (region service : String) : (place conf region service).Valid :=
  (((PurePath.of_valid _).join _).join _).join _

theorem location_injective {region region' service service' : String}
    (same : location conf region service = location conf region' service') :
    place conf region service = place conf region' service' := by
  have texts := congrArg String.toList same
  simp only [location, String.toList_append, String.toList_ofList] at texts
  exact PurePath.str_injective (place_valid region service) (place_valid region' service') (List.append_cancel_right texts)

/-- The locations are those of the endpoints. -/
theorem locations_entered {ms : List Mapped} {entries : Proxies} (all : List.Forall₂ (Entry conf) ms entries) :
    (entries.map fun entry => entry.2.location) =
      ms.map fun m => location conf (shown m.endpoint.region) m.service := by
  induction all with
  | nil => rfl
  | @cons m entry _ _ first _ ih =>
    obtain ⟨region, path, given, -, -, proxy⟩ := makeProxy_ok.mp first.2
    rw [List.map_cons, List.map_cons, ih, proxy, given]
    rfl

/-- No two locations are the same iff no two paths of theirs are. -/
theorem locations_nodup {ms : List Mapped} :
    (ms.map fun m => location conf (shown m.endpoint.region) m.service).Nodup ↔ (ms.map (placeOf conf)).Nodup := by
  rw [List.Nodup, List.Nodup, List.pairwise_map, List.pairwise_map]
  refine List.Pairwise.iff fun m m' => not_congr ⟨location_injective, fun same => ?_⟩
  change place conf _ _ = place conf _ _ at same
  rw [location, same, location]

/-- The path of a location that has plain names is told apart by them. -/
theorem place_plain {region region' service service' : String} (plain : Plain (conf.lower region).toList)
    (plain' : Plain (conf.lower region').toList) (plainService : Plain service.toList) (plainService' : Plain service'.toList) :
    place conf region service = place conf region' service' ↔
      conf.lower region = conf.lower region' ∧ service = service' := by
  have names {region service : String} (plain : Plain (conf.lower region).toList) (plainService : Plain service.toList) :
      place conf region service = ⟨((PurePath.of ['/']).join conf.nginxPrefix.toList).root,
        ((PurePath.of ['/']).join conf.nginxPrefix.toList).names ++ [(conf.lower region).toList] ++ [service.toList]⟩ := by
    rw [place, PurePath.join, plainService.1, PurePath.join, plain.1, plain.2, plainService.2]
    rfl
  rw [names plain plainService, names plain' plainService', PurePath.mk.injEq, List.append_singleton_inj,
    List.append_singleton_inj, String.toList_inj, String.toList_inj]
  simp

theorem separate_iff {endpointsList : List Endpoint} : Separate conf services endpointsList ↔
    Conflicting conf (mapped conf services endpointsList) ∨
      ((mapped conf services endpointsList).map Mapped.key).Nodup ∧
      (∀ m ∈ mapped conf services endpointsList, Readable conf m.endpoint) ∧
      ((mapped conf services endpointsList).map (placeOf conf)).Nodup := by
  rw [← getProxyEndpoints_conflict, Separate]
  cases ran : getProxyEndpoints conf services endpointsList with
  | error x =>
    simp only [Except.error.injEq]
    refine (or_iff_left ?_).symm
    rintro ⟨nodup, readable, -⟩
    obtain ⟨entries, all⟩ := enterable_iff.mpr readable
    rw [getProxyEndpoints_ok.mpr ⟨nodup, entries, all, rfl⟩] at ran
    cases ran
  | ok result =>
    obtain ⟨nodup, entries, all, sorted⟩ := getProxyEndpoints_ok.mp ran
    have perm : result.Perm entries := sorted ▸ List.mergeSort_perm entries _
    have locations : (result.map fun entry => entry.2.location).Nodup ↔
        ((mapped conf services endpointsList).map (placeOf conf)).Nodup := by
      rw [(perm.map _).nodup_iff, locations_entered all, locations_nodup]
    rw [or_iff_right (by rintro ⟨_, _, ⟨⟩⟩)]
    dsimp only
    rw [locations]
    constructor
    · rintro ⟨apart, -⟩
      exact ⟨nodup, enterable_iff.mp ⟨entries, all⟩, apart⟩
    · rintro ⟨-, -, apart⟩
      exact ⟨apart, fun m member => entry_mem ran member⟩

variable (conf services) in
/-- The proxies are as they should be iff an endpoint is reached with the region and the type of one
    before it, or no two have one region and type, a proxy can be made of each, and no two have one
    path after the prefix: of plain names, one region in lower case and one name of the service. -/
theorem locations_separate_iff (endpointsList : List Endpoint) :
    (Separate conf services endpointsList ↔ Conflicting conf (mapped conf services endpointsList) ∨
      ((mapped conf services endpointsList).map Mapped.key).Nodup ∧
      (∀ m ∈ mapped conf services endpointsList, Readable conf m.endpoint) ∧
      ((mapped conf services endpointsList).map (placeOf conf)).Nodup) ∧
    ∀ m m' : Mapped, (∀ n ∈ [m, m'], Plain (conf.lower (shown n.endpoint.region)).toList ∧ Plain n.service.toList) →
      (placeOf conf m = placeOf conf m' ↔
        conf.lower (shown m.endpoint.region) = conf.lower (shown m'.endpoint.region) ∧ m.service = m'.service) := by
  refine ⟨separate_iff, fun m m' plain => ?_⟩
  obtain ⟨region, service⟩ := plain m (by simp)
  obtain ⟨region', service'⟩ := plain m' (by simp)
  exact place_plain region region' service service'

end

/-! ### Regions that differ in their case, and types that are mapped to one name -/

def inRegion (region : String) : Endpoint := ⟨some region, "c1", "http://nova:8774/v2.1"⟩

theorem inRegion_readable (region : String) : Readable openstack (inRegion region) := by
  refine ⟨rfl, rfl, ?_⟩
  rintro ⟨-, s, single, template⟩
  have names : namesOf (urlparse "http://nova:8774/v2.1".toList).path = ["v2.1".toList] := by decide
  obtain rfl := (List.cons.inj (names.symm.trans single)).1
  exact absurd template (by decide)

theorem regions_separate : Separate openstack computeServices [inRegion "RegionOne", inRegion "RegionTwo"] := by
  refine (locations_separate_iff openstack computeServices _).1.mpr (.inr ⟨by decide, fun m member => ?_, by decide⟩)
  rcases List.mem_cons.mp (mem_mapped.mp member).1 with is | later
  · rw [is]
    exact inRegion_readable _
  · rw [List.mem_singleton.mp later]
    exact inRegion_readable _

def volumes : Conf := { openstack with serviceMapping := [("volumev2", "cinder"), ("volumev3", "cinder")] }
def volumeServices : List Service := [⟨"v2", "volumev2"⟩, ⟨"v3", "volumev3"⟩]
def volumeEndpoints : List Endpoint :=
  [⟨some "RegionOne", "v2", "http://cinder/v2"⟩, ⟨some "RegionOne", "v3", "http://cinder/v3"⟩]

/-- Both of the locations are `/api/openstack/regionone/nova/`; both are `/api/openstack/regionone/cinder/`. -/
theorem locations_collide :
    ¬ Separate openstack computeServices [inRegion "RegionOne", inRegion "regionone"] ∧
      ¬ Separate volumes volumeServices volumeEndpoints := by
  constructor
  · intro separate
    rcases separate_iff.mp separate with conflicting | ⟨-, -, apart⟩
    · exact conflicting.repeated (by decide)
    · exact absurd apart (by decide +kernel)
  · intro separate
    rcases separate_iff.mp separate with conflicting | ⟨-, -, apart⟩
    · exact conflicting.repeated (by decide)
    · exact absurd apart (by decide +kernel)

end Skyline.ProxyLocations
