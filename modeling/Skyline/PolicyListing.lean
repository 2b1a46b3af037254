import Skyline.Policy
import Skyline.Session

/-!
The listing of policies and the check of some of them. Both endpoints work the user's context
and the target out for themselves; the listing names a rule `service:rule`, and the check
takes such a name apart at its first colon. An enforcer looks for its policy file whenever it
authorizes. While the file does not change it comes to the same rules every time, so that a
check agrees with an earlier listing whatever was authorized in between.

The enforcers share one cache of the files that they have read, in which each has the entry
of its own file. Reading through the cache and parsing what is read belong to the policy
library and are parameters.
-/
namespace Skyline.PolicyListing
open Skyline.Checks Skyline.Effects Skyline.Policy Skyline.Python
open Skyline.Session (Profile)

/-! ## Dictionaries -/

inductive Value
  | none
  | bool (b : Bool)
  | str (s : String)
  | strs (ss : List String)
  deriving DecidableEq, Repr

abbrev Dict : Type := List (String × Value)

/-- `d[key] = value`. -/
def setitem (d : Dict) (key : String) (value : Value) : Dict :=
  if d.any (·.1 == key) then d.map fun item => if item.1 == key then (key, value) else item else d ++ [(key, value)]

/-- `d.update(other)`. -/
def update (d other : Dict) : Dict := other.foldl (fun d item => setitem d item.1 item.2) d

/-! ## What is asked of Keystone -/

structure Conf where
  policyFilePath : String
  policyFileSuffix : String
  systemAdminRoles : List String
  systemReaderRoles : List String
  enforceNewDefaults : Bool

/-- What `UserContext` reads of an `AccessInfoV3`. -/
structure Access where
  authToken : Option String
  userId : Option String
  projectId : Option String
  domainId : Option String
  userDomainId : Option String
  projectDomainId : Option String
  username : Option String
  projectName : Option String
  domainName : Option String
  userDomainName : Option String
  projectDomainName : Option String
  /-- The scopes of the system that the token is for. -/
  system : Option (List (String × Bool))
  roleIds : List String
  roleNames : List String

def optional (s : Option String) : Value := (s.map Value.str).getD .none

/-- `getattr(access, "system") and getattr(access, "system", {}).get("all", False)`. -/
def Access.allSystem (access : Access) : Bool := ((access.system.getD []).lookup "all").getD false

/-- `UserContext.__init__`. -/
def userContext (conf : Conf) (access : Access) : Dict :=
  [("auth_token", optional access.authToken),
   ("user_id", optional access.userId),
   ("project_id", optional access.projectId),
   ("tenant_id", optional access.projectId),
   ("domain_id", optional access.domainId),
   ("user_domain_id", optional access.userDomainId),
   ("project_domain_id", optional access.projectDomainId),
   ("username", optional access.username),
   ("project_name", optional access.projectName),
   ("domain_name", optional access.domainName),
   ("user_domain_name", optional access.userDomainName),
   ("project_domain_name", optional access.projectDomainName),
   ("system_scope", .str (if access.allSystem then "all" else "")),
   ("role_ids", .strs access.roleIds),
   ("roles", .strs access.roleNames),
   ("is_admin", .bool (conf.systemAdminRoles.any access.roleNames.contains)),
   ("is_reader_admin", .bool (conf.systemReaderRoles.any access.roleNames.contains))]

/-- What Keystone answers a request. -/
structure Keystone where
  generateSession : Except Exn Unit
  getAccess : Except Exn Access
  getSystemScopeAccess : Except Exn Access

/-- Keystone refuses the token, or cannot be reached: no privilege to access the system scope. -/
def keystoneUnauthorized : Exn := .callFailed "keystoneauth1.exceptions.http.Unauthorized"
def keystoneInternalServerError : Exn := .callFailed "keystoneauth1.exceptions.http.InternalServerError"

/-- The user's context, with the system scope that Keystone grants. -/
def contextOf (conf : Conf) (keystone : Keystone) : Except Exn Dict := do
  keystone.generateSession
  let access ← keystone.getAccess
  let context := userContext conf access
  match keystone.getSystemScopeAccess with
  | .ok systemScopeAccess =>
    return setitem context "system_scope"
      (if systemScopeAccess.allSystem then .str "all" else (context.lookup "system_scope").getD .none)
  | .error e => if e = keystoneUnauthorized ∨ e = keystoneInternalServerError then return context else .error e

/-- `_generate_target`. -/
def generateTarget (conf : Conf) (profile : Profile) : Dict :=
  let userId := Value.str profile.user.id
  let projectId := Value.str profile.project.id
  let projectDomainId := Value.str profile.project.domain.id
  [("user_id", userId),
   ("project_id", projectId),
   ("enforce_new_defaults", .bool conf.enforceNewDefaults),
   ("tenant", projectId),
   ("trust.trustor_user_id", userId),
   ("target.user.id", userId),
   ("target.user.domain_id", .str profile.user.domain.id),
   ("target.project.domain_id", projectDomainId),
   ("target.project.id", projectId),
   ("target.trust.trustor_user_id", userId),
   ("target.trust.trustee_user_id", userId),
   ("target.token.user_id", userId),
   ("target.domain.id", projectDomainId),
   ("target.domain_id", projectDomainId),
   ("target.credential.user_id", userId),
   ("target.role.domain_id", projectDomainId),
   ("target.group.domain_id", projectDomainId),
   ("target.limit.domain.id", projectDomainId),
   ("target.limit.project_id", projectDomainId),
   ("target.limit.project.domain_id", projectDomainId),
   ("target.container.project_id", projectId),
   ("target.secret.project_id", projectId),
   ("target.order.project_id", projectId),
   ("target.secret.creator_id", userId),
   ("allocation.owner", projectId),
   ("node.lessee", projectId),
   ("node.owner", projectId),
   ("member_id", projectId),
   ("owner", projectId),
   ("domain_id", projectDomainId),
   ("tenant_id", projectId)]

/-! ## Policy files on disk -/

variable {Test File Cache : Type}

/-- The parts of the policy library that an enforcer calls. -/
structure Library (Test File Cache : Type) where
  /-- `_cache_handler.read_cached_file`, with the entry of the file in the cache: whether the
      file was read again, and its content. -/
  readCachedFile : Cache → File → Except Exn (Bool × String) × Cache
  /-- `policy.Rules.load`. -/
  load : String → Except Exn (RuleMap Test)
  /-- How a test evaluates on the rule that is asked for, the target and the credentials. -/
  eval : String → Dict → Dict → Test → Except Exn Bool
  /-- How deep calls may nest. -/
  limit : Nat

/-- A file that has not changed since it was read is read with the same outcome, and not as one
    that has changed. -/
structure Rereads (readCachedFile : Cache → File → Except Exn (Bool × String) × Cache) : Prop where
  ok : ∀ cache file reloaded data cache', readCachedFile cache file = (.ok (reloaded, data), cache') →
    ∃ again, readCachedFile cache' file = (.ok (again, data), cache') ∧ (again = true → reloaded = true)
  error : ∀ cache file e cache', readCachedFile cache file = (.error e, cache') →
    ∃ e', readCachedFile cache' file = (.error e', cache')

/-- The configuration, the library and the files of the directories. -/
structure Host (Test File Cache : Type) where
  conf : Conf
  library : Library Test File Cache
  /-- What is at a path, if that can be found out. -/
  disk : (directory name : String) → Except Exn (Option File)

/-- An enforcer, with the entry of its file in the cache. -/
structure Entry (Test Cache : Type) where
  enforcer : Enforcer Test
  cache : Cache

section
variable (host : Host Test File Cache)

/-- What an enforcer finds when it looks for its policy file, and what is in the cache then. -/
def policyFile (service : String) (cache : Cache) : PolicyFile Test × Cache :=
  match host.disk host.conf.policyFilePath (service ++ "_" ++ host.conf.policyFileSuffix) with
  | .error e => (.unreadable e, cache)
  | .ok none => (.absent, cache)
  | .ok (some file) =>
    match host.library.readCachedFile cache file with
    | (.error e, cache) => (.unreadable e, cache)
    | (.ok (reloaded, data), cache) =>
      -- a content that cannot be parsed leaves the rules as they are, parsed or not
      match host.library.load data with
      | .error e => (.unreadable e, cache)
      | .ok rules => (.read reloaded rules, cache)

/-- The enforcer once it has looked for its file. -/
def Entry.loaded (entry : Entry Test Cache) : Entry Test Cache :=
  let (file, cache) := policyFile host entry.enforcer.service entry.cache
  ⟨entry.enforcer.loaded file, cache⟩

/-- `Enforcer.authorize`, which looks at the disk. -/
def Entry.authorize (rule : String) (target context : Dict) : Eff (Entry Test Cache) Exn Bool := fun entry =>
  let (file, cache) := policyFile host entry.enforcer.service entry.cache
  let (result, enforcer) := Policy.authorize host.library.eval host.library.limit file rule target context entry.enforcer
  (result, ⟨enforcer, cache⟩)

/-- What the rules in force say. -/
abbrev permits : Enforcer Test → String → Dict → Dict → Bool := Policy.permits host.library.eval host.library.limit

theorem Entry.authorize_run (rule : String) (target context : Dict) (entry : Entry Test Cache) :
    Entry.authorize host rule target context entry =
      (.ok (permits host (entry.loaded host).enforcer rule target context), entry.loaded host) :=
  congrArg (fun r => (r.1, Entry.mk r.2 (policyFile host entry.enforcer.service entry.cache).2))
    (Policy.authorize_run (policyFile host entry.enforcer.service entry.cache).1 rule target context entry.enforcer)

variable {host}

@[simp] theorem loaded_service (e : Enforcer Test) (file : PolicyFile Test) : (e.loaded file).service = e.service := by
  cases file with
  | absent => rfl
  | unreadable _ => rfl
  | read reloaded rules =>
    simp only [Enforcer.loaded, loadRules, Eff.modify_run]
    split <;> rfl

/-- A file that is no longer found changed is not loaded again, unless it has no rules. -/
theorem loaded_read_again (e : Enforcer Test) {reloaded again : Bool} (rules : RuleMap Test)
    (unchanged : again = true → reloaded = true) :
    (e.loaded (.read reloaded rules)).loaded (.read again rules) = e.loaded (.read reloaded rules) := by
  simp only [Enforcer.loaded, loadRules, Eff.modify_run]
  by_cases loads : (reloaded || e.fileRules.isEmpty) = true
  · simp only [if_pos loads]
    split
    · rfl
    · rfl
  · simp only [if_neg loads]
    refine if_neg fun changed => loads ?_
    rcases Bool.or_eq_true_iff.mp changed with reads | empty
    · rw [unchanged reads, Bool.true_or]
    · rw [empty, Bool.or_true]

theorem policyFile_again (rereads : Rereads host.library.readCachedFile) {service : String} {cache cache' : Cache}
    {file : PolicyFile Test} (first : policyFile host service cache = (file, cache')) (e : Enforcer Test) :
    ∃ file', policyFile host service cache' = (file', cache') ∧ (e.loaded file).loaded file' = e.loaded file := by
  unfold policyFile at first
  cases there : host.disk host.conf.policyFilePath (service ++ "_" ++ host.conf.policyFileSuffix) with
  | error x =>
    rw [there] at first
    cases first
    exact ⟨.unreadable x, by simp only [policyFile, there], rfl⟩
  | ok found =>
    rw [there] at first
    cases found with
    | none =>
      cases first
      exact ⟨.absent, by simp only [policyFile, there], rfl⟩
    | some onDisk =>
      rcases reads : host.library.readCachedFile cache onDisk with ⟨read, cache₁⟩
      simp only [reads] at first
      cases read with
      | error x =>
        cases first
        obtain ⟨y, again⟩ := rereads.error _ _ _ _ reads
        exact ⟨.unreadable y, by simp only [policyFile, there, again], rfl⟩
      | ok read =>
        obtain ⟨reloaded, data⟩ := read
        obtain ⟨anew, again, unchanged⟩ := rereads.ok _ _ _ _ _ reads
        cases parsed : host.library.load data with
        | error x =>
          simp only [parsed] at first
          cases first
          exact ⟨.unreadable x, by simp only [policyFile, there, again, parsed], rfl⟩
        | ok rules =>
          simp only [parsed] at first
          cases first
          exact ⟨.read anew rules, by simp only [policyFile, there, again, parsed], loaded_read_again e rules unchanged⟩

/-- An enforcer that looks for its file again while this does not change keeps its rules. -/
theorem Entry.loaded_again (rereads : Rereads host.library.readCachedFile) (entry : Entry Test Cache) :
    (entry.loaded host).loaded host = entry.loaded host := by
  rcases first : policyFile host entry.enforcer.service entry.cache with ⟨file, cache⟩
  obtain ⟨file', again, same⟩ := policyFile_again rereads first entry.enforcer
  simp only [Entry.loaded, first, loaded_service, again, same]

end

/-! ## The endpoints -/

/-- `ENFORCER`. -/
abbrev Enforcers (Test Cache : Type) : Type := String → Option (Entry Test Cache)

/-- `schemas.Policy`. -/
structure Policy where
  rule : String
  allowed : Bool
  deriving DecidableEq, Repr

/-- `policy_rule.split(":", 1)`, of which there may be no second part. -/
def splitRule (policyRule : String) : String × Option String :=
  match policyRule.toList.dropWhile (· != ':') with
  | [] => (policyRule, none)
  | _ :: rule => (String.ofList (policyRule.toList.takeWhile (· != ':')), some (String.ofList rule))

/-- The services of `SUPPORTED_SERVICE_EPS`. -/
def supportedServices : List String :=
  ["barbican", "cinder", "designate", "glance", "heat", "ironic", "ironic_inspector", "keystone", "magnum", "manila",
    "masakari", "neutron", "nova", "octavia", "panko", "placement", "trove", "zun"]

section
variable (host : Host Test File Cache)

/-- `ENFORCER[service].authorize`. -/
def authorize (service rule : String) (target context : Dict) : Eff (Enforcers Test Cache) Exn Bool := fun enforcers =>
  match enforcers service with
  | none => (.error (.keyError service), enforcers)
  | some entry =>
    let (result, entry) := Entry.authorize host rule target context entry
    (result, Function.update enforcers service (some entry))

/-- What the listing has of a service: its rules in the order of their map. -/
def listService (target context : Dict) (service : String) : Eff (Enforcers Test Cache) Exn (List Policy) := do
  let found ← Eff.gets fun enforcers => enforcers service
  let entry ← Eff.lift (getitem found service)
  Eff.collect entry.enforcer.rules fun rule => do
    let allowed ← authorize host service rule.1 target context
    return ⟨service ++ ":" ++ rule.1, allowed⟩

def listPolicies (services : List String) (keystone : Keystone) (profile : Profile) :
    Eff (Enforcers Test Cache) Exn (List Policy) := do
  let context ← Eff.lift (contextOf host.conf keystone)
  let target := generateTarget host.conf profile
  let results ← Eff.collect services fun service =>
    Eff.attempt (listService host target context service) fun _ => pure []
  return results.flatten

def checkPolicy (target context : Dict) (policyRule : String) : Eff (Enforcers Test Cache) Exn Policy := do
  let rule ← Eff.lift (match (splitRule policyRule).2 with
    | some rule => .ok rule
    | none => .error (.exception "list index out of range"))
  let allowed ← authorize host (splitRule policyRule).1 rule target context
  return ⟨policyRule, allowed⟩

def checkPolicies (rules : List String) (targets : Option (List (String × String))) (keystone : Keystone)
    (profile : Profile) : Eff (Enforcers Test Cache) Exn (List Policy) := do
  let context ← Eff.lift (contextOf host.conf keystone)
  let target := update (generateTarget host.conf profile) ((targets.getD []).map fun item => (item.1, .str item.2))
  Eff.attempt (Eff.collect rules (checkPolicy host target context)) fun e => Eff.raise (.httpException 403 e.str)

/-- The enforcers after any number of authorizations. -/
inductive Later (enforcers : Enforcers Test Cache) : Enforcers Test Cache → Prop
  | now : Later enforcers enforcers
  | authorized {reached : Enforcers Test Cache} (service rule : String) (target context : Dict) :
      Later enforcers reached → Later enforcers (authorize host service rule target context reached).2

/-! ## The rules in force -/

/-- The enforcers as they are once they have looked for their files. -/
def inForce (enforcers : Enforcers Test Cache) : Enforcers Test Cache := fun service =>
  (enforcers service).map (Entry.loaded host)

end

section
variable {host : Host Test File Cache} {enforcers : Enforcers Test Cache} {service : String} {entry : Entry Test Cache}

/-- An authorization goes by the rules in force, and keeps them. -/
theorem authorize_run (rereads : Rereads host.library.readCachedFile) (there : inForce host enforcers service = some entry)
    (rule : String) (target context : Dict) :
    ∃ after, authorize host service rule target context enforcers =
        (.ok (permits host entry.enforcer rule target context), after) ∧
      inForce host after = inForce host enforcers := by
  obtain ⟨old, present, rfl⟩ := Option.map_eq_some_iff.mp there
  refine ⟨Function.update enforcers service (some (old.loaded host)), ?_, ?_⟩
  · simp only [authorize, present, Entry.authorize_run]
  · funext other
    by_cases same : other = service
    · subst same
      simp only [inForce, Function.update_self, present, Option.map_some, Entry.loaded_again rereads]
    · simp only [inForce, Function.update_of_ne same]

theorem later_inForce (rereads : Rereads host.library.readCachedFile) {later : Enforcers Test Cache}
    (reached : Later host enforcers later) : inForce host later = inForce host enforcers := by
  induction reached with
  | now => rfl
  | @authorized reached service rule target context _ ih =>
    cases present : reached service with
    | none => simpa only [authorize, present] using ih
    | some old =>
      have found : inForce host reached service = some (old.loaded host) := by
        simp only [inForce, present, Option.map_some]
      obtain ⟨after, ran, kept⟩ := authorize_run rereads found rule target context
      rw [ran]
      exact kept.trans ih

variable (host) in
/-- What the rules in force say of the rules of a service. -/
def policiesOf (rules : Enforcers Test Cache) (target context : Dict) (service : String) : List Policy :=
  match rules service with
  | none => []
  | some entry =>
    entry.enforcer.rules.map fun rule => ⟨service ++ ":" ++ rule.1, permits host entry.enforcer rule.1 target context⟩

theorem listService_run (rereads : Rereads host.library.readCachedFile) (target context : Dict) (service : String) :
    ∃ after, Eff.attempt (listService host target context service) (fun _ => pure []) enforcers =
        (.ok (policiesOf host (inForce host enforcers) target context service), after) ∧
      inForce host after = inForce host enforcers := by
  cases present : enforcers service with
  | none =>
    have missing : inForce host enforcers service = none := by simp only [inForce, present, Option.map_none]
    refine ⟨enforcers, ?_, rfl⟩
    simp only [listService, Eff.attempt_run, Eff.bind_run, Eff.gets_run, Eff.lift_run, present, getitem, policiesOf,
      missing]
    rfl
  | some old =>
    have found : inForce host enforcers service = some (old.loaded host) := by
      simp only [inForce, present, Option.map_some]
    have rules : (old.loaded host).enforcer.rules = old.enforcer.rules := by
      simp only [Entry.loaded, loaded_rules]
    have each : ∀ rule ∈ old.enforcer.rules, ∀ e, inForce host e = inForce host enforcers →
        ∃ after, (do
            let allowed ← authorize host service rule.1 target context
            return ⟨service ++ ":" ++ rule.1, allowed⟩ : Eff (Enforcers Test Cache) Exn Policy) e =
          (.ok ⟨service ++ ":" ++ rule.1, permits host (old.loaded host).enforcer rule.1 target context⟩, after) ∧
        inForce host after = inForce host enforcers := by
      intro rule _ e same
      rw [← same] at found
      obtain ⟨after, ran, kept⟩ := authorize_run rereads found rule.1 target context
      rw [Eff.bind_ok ran]
      exact ⟨after, rfl, kept.trans same⟩
    obtain ⟨after, ran, kept⟩ := Eff.collect_ok each rfl
    refine ⟨after, ?_, kept⟩
    rw [policiesOf, found]
    dsimp only
    rw [rules]
    refine Eff.attempt_ok _ ?_
    rw [listService, Eff.bind_ok (Eff.gets_run _ _), present]
    exact ran

variable (enforcers) in
theorem listPolicies_run (rereads : Rereads host.library.readCachedFile) (services : List String) {keystone : Keystone}
    {context : Dict} (known : contextOf host.conf keystone = .ok context) (profile : Profile) :
    ∃ after, listPolicies host services keystone profile enforcers =
        (.ok (services.flatMap (policiesOf host (inForce host enforcers) (generateTarget host.conf profile) context)), after) ∧
      inForce host after = inForce host enforcers := by
  have each : ∀ service ∈ services, ∀ e, inForce host e = inForce host enforcers →
      ∃ after, Eff.attempt (listService host (generateTarget host.conf profile) context service) (fun _ => pure []) e =
          (.ok (policiesOf host (inForce host enforcers) (generateTarget host.conf profile) context service), after) ∧
        inForce host after = inForce host enforcers := by
    intro service _ e same
    rw [← same]
    exact listService_run rereads (generateTarget host.conf profile) context service
  obtain ⟨after, ran, kept⟩ := Eff.collect_ok each rfl
  refine ⟨after, ?_, kept⟩
  rw [listPolicies, known, Eff.bind_ok (Eff.lift_run _ _)]
  exact (Eff.bind_ok ran).trans rfl

/-! ## The check agrees -/

/-- A name that was put together is taken apart at the colon behind the service. -/
theorem splitRule_named (plain : ':' ∉ service.toList) (rule : String) :
    splitRule (service ++ ":" ++ rule) = (service, some rule) := by
  have letters : (service ++ ":" ++ rule).toList = service.toList ++ ':' :: rule.toList := by simp
  have others : ∀ c ∈ service.toList, (c != ':') = true := by
    intro c member
    simpa using ne_of_mem_of_not_mem member plain
  rw [splitRule, letters, List.dropWhile_append_of_pos others, List.takeWhile_append_of_pos others]
  simp

theorem checkPolicy_run (rereads : Rereads host.library.readCachedFile) {services : List String}
    (plain : ∀ service ∈ services, ':' ∉ service.toList) {target context : Dict} {p : Policy}
    (listed : p ∈ services.flatMap (policiesOf host (inForce host enforcers) target context)) :
    ∃ after, checkPolicy host target context p.rule enforcers = (.ok p, after) ∧
      inForce host after = inForce host enforcers := by
  obtain ⟨service, member, own⟩ := List.mem_flatMap.mp listed
  cases found : inForce host enforcers service with
  | none =>
    simp only [policiesOf, found] at own
    cases own
  | some entry =>
    simp only [policiesOf, found] at own
    obtain ⟨rule, _, rfl⟩ := List.mem_map.mp own
    obtain ⟨after, ran, kept⟩ := authorize_run rereads found rule.1 target context
    refine ⟨after, ?_, kept⟩
    rw [checkPolicy, splitRule_named (plain service member), Eff.bind_ok (Eff.lift_run _ _), Eff.bind_ok ran]
    rfl

/-- What a listing has said, a check says again, whatever was authorized in between. -/
theorem checkPolicies_agrees (rereads : Rereads host.library.readCachedFile) {services : List String}
    (plain : ∀ service ∈ services, ':' ∉ service.toList) {keystone : Keystone} {profile : Profile} {listed asked : List Policy}
    {after later : Enforcers Test Cache} (listing : listPolicies host services keystone profile enforcers = (.ok listed, after))
    (reached : Later host after later) (known : asked ⊆ listed) :
    (checkPolicies host (asked.map (·.rule)) none keystone profile later).1 = .ok asked := by
  cases opened : contextOf host.conf keystone with
  | error e =>
    rw [listPolicies, opened, Eff.bind_error (Eff.lift_run _ _)] at listing
    cases listing
  | ok context =>
    obtain ⟨_, ran, kept⟩ := listPolicies_run enforcers rereads services opened profile
    rw [listing] at ran
    cases ran
    have same := (later_inForce rereads reached).trans kept
    have each : ∀ p ∈ asked, ∀ e, inForce host e = inForce host enforcers →
        ∃ after, checkPolicy host (generateTarget host.conf profile) context p.rule e = (.ok p, after) ∧
          inForce host after = inForce host enforcers := by
      intro p member e unchanged
      rw [← unchanged] at known ⊢
      exact checkPolicy_run rereads plain (known member)
    obtain ⟨_, ran, -⟩ := Eff.collect_ok each same
    rw [checkPolicies, opened, Eff.bind_ok (Eff.lift_run _ _), Eff.collect_map]
    exact (congrArg Prod.fst (Eff.attempt_ok _ ran)).trans (congrArg Except.ok (List.map_id asked))

end
/-! ## A service with a policy file -/

/-- A file with the time of its last change and what reading it gives. -/
structure Stamped where
  mtime : Nat
  content : Except Exn String

/-- Reads a file that is newer than what is in the cache. -/
def readNewer (cache : Option (Nat × String)) (file : Stamped) :
    Except Exn (Bool × String) × Option (Nat × String) :=
  if cache.all (·.1 < file.mtime) then
    match file.content with
    | .ok data => (.ok (true, data), some (file.mtime, data))
    | .error e => (.error e, cache)
  else (.ok (false, (cache.map (·.2)).getD ""), cache)

theorem readNewer_rereads : Rereads readNewer := by
  constructor
  · intro cache file reloaded data cache' first
    by_cases newer : cache.all (·.1 < file.mtime) = true
    · cases found : file.content with
      | error e =>
        simp only [readNewer, if_pos newer, found] at first
        cases first
      | ok data =>
        simp only [readNewer, if_pos newer, found] at first
        cases first
        exact ⟨false, by simp [readNewer], fun _ => rfl⟩
    · simp only [readNewer, if_neg newer] at first
      cases first
      exact ⟨false, by simp only [readNewer, if_neg newer], id⟩
  · intro cache file e cache' first
    by_cases newer : cache.all (·.1 < file.mtime) = true
    · cases found : file.content with
      | error e =>
        simp only [readNewer, if_pos newer, found] at first
        cases first
        exact ⟨e, by simp only [readNewer, if_pos newer, found]⟩
      | ok data =>
        simp only [readNewer, if_pos newer, found] at first
        cases first
    · simp only [readNewer, if_neg newer] at first
      cases first

/-- The names of the roles among the credentials. -/
def roleNames (context : Dict) : List String :=
  match context.lookup "roles" with
  | some (.strs names) => names
  | _ => []

/-- A host whose only policy file lets everyone discover what Masakari has. -/
def discoverable : Host String Stamped (Option (Nat × String)) where
  conf := ⟨"/etc/skyline/policy", "policy.yaml", ["admin"], [], false⟩
  library := {
    readCachedFile := readNewer
    load := fun _ => .ok [("os_masakari_api:extensions:discoverable", .not (.rule "admin_api"))]
    eval := fun rule target context => hasRole rule target (roleNames context)
    limit := 1000 }
  disk directory name :=
    .ok (if directory == "/etc/skyline/policy" && name == "masakari_policy.yaml" then some ⟨1, .ok "discoverable"⟩ else none)

def onlyMasakari : Enforcers String (Option (Nat × String)) := fun service =>
  if service = "masakari" then some ⟨masakari, none⟩ else none

def memberAccess : Access :=
  ⟨some "token", some "user", some "project", none, some "default", some "default", some "member", some "project",
    none, some "Default", some "Default", none, ["role-id"], ["member"]⟩

/-- Keystone lets the user in, but not to the system scope. -/
def letIn : Keystone := ⟨.ok (), .ok memberAccess, .error keystoneUnauthorized⟩

/-- The listing has the file's rule and the registered one, and so has a check of both the other
    way round. -/
theorem discoverable_agrees : (checkPolicies discoverable
    ["masakari:os_masakari_api:extensions:discoverable", "masakari:admin_api"] none letIn Session.member
    (listPolicies discoverable supportedServices letIn Session.member onlyMasakari).2).1 =
      .ok [⟨"masakari:os_masakari_api:extensions:discoverable", true⟩, ⟨"masakari:admin_api", false⟩] := by
  have listing : (listPolicies discoverable supportedServices letIn Session.member onlyMasakari).1 =
      .ok [⟨"masakari:admin_api", false⟩, ⟨"masakari:os_masakari_api:extensions:discoverable", true⟩] := rfl
  have plain : ∀ service ∈ supportedServices, ':' ∉ service.toList := by decide
  have known : [(⟨"masakari:os_masakari_api:extensions:discoverable", true⟩ : Policy), ⟨"masakari:admin_api", false⟩] ⊆
      [⟨"masakari:admin_api", false⟩, ⟨"masakari:os_masakari_api:extensions:discoverable", true⟩] := by decide
  exact checkPolicies_agrees readNewer_rereads plain (Prod.ext listing rfl) .now known

end Skyline.PolicyListing
