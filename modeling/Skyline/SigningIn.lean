import Skyline.Authenticity
import Skyline.KeystoneApi

/-!
Signing in at a Keystone that knows its users, their projects and the tokens that it gave
out: whom `login` and `websso` let in and to which project, when `switch_project` changes
it, and as whom the requests that follow are served.
-/
namespace Skyline.SigningIn
open Skyline.Python Skyline.Effects Skyline.Effects.Eff Skyline.Runs Skyline.Raising
open Skyline.Session Skyline.Middleware Skyline.Login Skyline.SessionCookie Skyline.KeystoneApi

/-! ## A Keystone -/

/-- What Keystone keeps: accounts, tokens, users, and the projects that a user has a role in. -/
structure Realm where
  /-- The user of a domain, a name and a password. -/
  account : String → String → String → Option String
  tokens : String → Option TokenData
  users : String → Option UserData
  projects : String → List ProjectData
  /-- Every project has an id, and so has every user. -/
  named : ∀ user, ∀ p ∈ projects user, p.id ≠ ""
  nobody : users "" = none

namespace Realm
variable (realm : Realm) (user : String)

def defaultProject : Option String := (realm.users user).bind UserData.defaultProjectId

def memberships : List (String × ProjectEntry) := (realm.projects user).map ProjectData.entry

def enabledProjects : List (String × ProjectEntry) := (realm.memberships user).filter fun p => p.2.enabled

def Enabled (project : String) : Prop := project ∈ (realm.enabledProjects user).map Prod.fst

instance (project : String) : Decidable (realm.Enabled user project) := inferInstanceAs (Decidable (_ ∈ _))

/-- The project that a user works in after signing in: the default one, where it is enabled
    and the user has a role in it, and the first such project otherwise. -/
def home : Option String :=
  match (realm.defaultProject user).filter fun project => decide (realm.Enabled user project) with
  | some project => some project
  | none => (realm.enabledProjects user).head?.map Prod.fst

/-- The token belongs to the user. -/
def Owns (token : String) : Prop := ∃ data, realm.tokens token = some data ∧ data.userId = user

/-- The token belongs to the user and is good for the project. -/
def Scoped (project token : String) : Prop :=
  ∃ data p, realm.tokens token = some data ∧ data.userId = user ∧ data.project = some p ∧ p.id = project

/-- Who is who in the realm. -/
def directory : Authenticity.Directory where
  owner token := (realm.tokens token).map TokenData.userId
  account := realm.account
  session user token := ∃ project, realm.Enabled user project ∧ realm.Scoped user project token

end Realm

/-- An API that answers for the realm: it checks a password, says of a token whose it is,
    lists the projects of a user, and scopes a token to those of them that are enabled. -/
structure Serves (realm : Realm) (api : Api) : Prop where
  system : ∃ token, api.systemToken = .ok token
  password : ∀ {domain username password user}, realm.account domain username password = some user →
    ∃ token, api.passwordToken (some domain) (some username) (some password) = .ok token ∧ realm.Owns user token
  wrongPassword : ∀ {domain username password}, realm.account domain username password = none →
    ∃ e, api.passwordToken (some domain) (some username) (some password) = .error e
  reissued : ∀ {user token}, realm.Owns user token → ∃ again, api.tokenToken token = .ok again ∧ realm.Owns user again
  known : ∀ {token data}, realm.tokens token = some data → ∃ found, realm.users data.userId = some found
  token : ∀ {system token data}, api.systemToken = .ok system → realm.tokens token = some data →
    ∃ text, api.token system token = .ok ⟨200, text, .ok data⟩
  unknownToken : ∀ {system token}, api.systemToken = .ok system → realm.tokens token = none →
    ∃ resp, api.token system token = .ok resp ∧ resp.statusCode ≠ 200
  user : ∀ {system user data}, api.systemToken = .ok system → realm.users user = some data →
    data.id = user ∧ ∃ text, api.user system user = .ok ⟨200, text, .ok data⟩
  projects : ∀ {user token}, realm.Owns user token →
    ∃ text, api.projects token "/auth/projects" = .ok ⟨200, text, .ok (realm.projects user)⟩
  stranger : ∀ {token path}, realm.tokens token = none →
    ∃ resp, api.projects token path = .ok resp ∧ resp.statusCode ≠ 200
  userProjects : ∀ {system user}, api.systemToken = .ok system →
    ∃ text, api.projects system ("/users/" ++ user ++ "/projects") = .ok ⟨200, text, .ok (realm.projects user)⟩
  scopes : ∀ {user token project}, realm.Owns user token → realm.Enabled user project →
    ∃ rescoped, api.scopedToken token project = .ok rescoped ∧ realm.Scoped user project rescoped
  refuses : ∀ {token project}, (∀ user, realm.Owns user token → ¬ realm.Enabled user project) →
    ∃ e, api.scopedToken token project = .error e

/-- Whatever else a handler calls goes through. -/
structure Up (others : Env) : Prop where
  systemSession : others.systemSession = .ok ()
  endpoints : ∀ region, ∃ endpoints, others.getEndpoints region = .ok endpoints
  session : ∀ profile, others.generateSession profile = .ok ()
  activity : ∀ category message result, others.createActivity category message result = .ok ()

variable {realm : Realm} {api : Api} {conf : Conf} {dep : Deployment} {others : Env}
  {region user project token : String} {table : RevokedTable}

/-! ## What Keystone is asked -/

theorem Realm.Scoped.owns (good : realm.Scoped user project token) : realm.Owns user token := by
  obtain ⟨data, p, is, owner, _, _⟩ := good
  exact ⟨data, is, owner⟩

theorem Realm.Owns.unique {other : String} (owns : realm.Owns user token) (owned : realm.Owns other token) :
    user = other := by
  obtain ⟨data, is, rfl⟩ := owns
  obtain ⟨data', is', rfl⟩ := owned
  rw [Option.some.inj (is.symm.trans is')]

theorem getTokenData_ok (serves : Serves realm api) {data : TokenData} (is : realm.tokens token = some data) :
    getTokenData api token = .ok data := by
  obtain ⟨system, admin⟩ := serves.system
  obtain ⟨text, told⟩ := serves.token admin is
  simp [getTokenData, admin, told, bind, Except.bind]

theorem getTokenData_error (serves : Serves realm api) (unknown : realm.tokens token = none) :
    ∃ e, getTokenData api token = .error e := by
  obtain ⟨system, admin⟩ := serves.system
  obtain ⟨resp, told, refused⟩ := serves.unknownToken admin unknown
  exact ⟨_, by simp [getTokenData, admin, told, refused, bind, Except.bind, throw, throwThe, MonadExceptOf.throw]; rfl⟩

theorem getUser_ok (serves : Serves realm api) {data : UserData} (is : realm.users user = some data) :
    getUser api user = .ok data := by
  obtain ⟨system, admin⟩ := serves.system
  obtain ⟨-, text, told⟩ := serves.user admin is
  simp [getUser, admin, told, bind, Except.bind]

theorem getProjects_ok (serves : Serves realm api) : getProjects api user = .ok (realm.memberships user) := by
  obtain ⟨system, admin⟩ := serves.system
  obtain ⟨text, told⟩ : ∃ text, api.projects system ("/users/" ++ user ++ "/projects") =
    .ok ⟨200, text, .ok (realm.projects user)⟩ := serves.userProjects admin
  simp [getProjects, admin, told, Realm.memberships, bind, Except.bind, pure, Except.pure]

/-- The default project of a user is looked up, whether the user is given or found by a session. -/
theorem getDefaultProjectId_ok (serves : Serves realm api) {system : String} {session : Except Exn String}
    {userId : Option String} {found : UserData} (admin : api.systemToken = .ok system)
    (owner : defaultProjectOwner api system session userId = .ok (some user)) (is : realm.users user = some found) :
    getDefaultProjectId api session userId = .ok (realm.defaultProject user) := by
  obtain ⟨-, text, told⟩ := serves.user admin is
  simp [getDefaultProjectId, admin, owner, told, Realm.defaultProject, is, bind, Except.bind, pure, Except.pure]

theorem sessionDefault_ok (serves : Serves realm api) (owns : realm.Owns user token) :
    api.keystone.getDefaultProjectId region token = .ok (realm.defaultProject user) := by
  obtain ⟨system, admin⟩ := serves.system
  obtain ⟨again, renewed, data, is, owner⟩ := serves.reissued owns
  obtain ⟨text, told⟩ := serves.token admin is
  obtain ⟨found, registered⟩ := serves.known is
  subst owner
  refine getDefaultProjectId_ok serves admin ?_ registered
  simp [defaultProjectOwner, Option.filter, renewed, told, bind, Except.bind, pure, Except.pure]

theorem userDefault_ok (serves : Serves realm api) {found : UserData} (is : realm.users user = some found) :
    (api.env others).getDefaultProjectId region user = .ok (realm.defaultProject user) := by
  obtain ⟨system, admin⟩ := serves.system
  have real : truthy user = true := by
    refine bne_iff_ne.mpr ?_
    rintro rfl
    rw [realm.nobody] at is
    cases is
  refine getDefaultProjectId_ok serves admin ?_ is
  simp [defaultProjectOwner, Option.filter, real, pure, Except.pure]

theorem listProjects_ok (serves : Serves realm api) (owns : realm.Owns user token) :
    listProjects api.keystone token = .ok (realm.memberships user) := by
  obtain ⟨text, told⟩ := serves.projects owns
  simp [listProjects, Api.keystone, told, listing, Realm.memberships, bind, Except.bind, pure, Except.pure]

theorem listProjects_error (serves : Serves realm api) (unknown : realm.tokens token = none) :
    ∃ e, listProjects api.keystone token = .error e := by
  have asked (path : String) : ∃ resp, api.projects token path = .ok resp ∧ resp.statusCode ≠ 200 := serves.stranger unknown
  obtain ⟨first, told, refused⟩ := asked "/auth/projects"
  obtain ⟨second, told', refused'⟩ := asked "/projects"
  refine ⟨.exception ("Failed to get projects: " ++ toString second.statusCode ++ " " ++ second.text), ?_⟩
  simp [listProjects, Api.keystone, told, told', listing, refused, refused', bind, Except.bind, pure, Except.pure, throw,
    throwThe, MonadExceptOf.throw]

/-! ## The profile of a session -/

/-- The session is one of the user in the project, and lists what there is to switch to. -/
structure SignedIn (realm : Realm) (user project : String) (profile : Profile) : Prop where
  good : realm.Scoped user project profile.keystoneToken
  named : profile.user.id = user
  within : profile.project.id = project
  projects : profile.projects = some (realm.memberships user)
  default : profile.defaultProjectId = realm.defaultProject user

theorem generateProfile_scoped (conf : Conf) (region : String) (serves : Serves realm api) (up : Up others) (good : realm.Scoped user project token)
    (exp : Option Int) (uuidValue : Option String) :
    ∃ profile, generateProfile conf (api.env others) token region exp uuidValue = .ok profile ∧
      profile.keystoneToken = token ∧ profile.user.id = user ∧ profile.project.id = project := by
  obtain ⟨data, p, is, rfl, within, rfl⟩ := good
  obtain ⟨found, registered⟩ := serves.known is
  obtain ⟨system, admin⟩ := serves.system
  have identity : tokenIdentity (api.env others) token region = .ok (data, found.toUserInfo) := by
    simp [tokenIdentity, up.systemSession, Api.env, getTokenData_ok serves is, getUser_ok serves registered, bind, Except.bind,
      pure, Except.pure, Functor.map, Except.map]
  simp only [generateProfile, identity, within, getitem]
  exact ⟨_, rfl, rfl, (serves.user admin registered).1, rfl⟩

theorem patchProfile_ok (serves : Serves realm api) (up : Up others) {profile : Profile} {found : UserData}
    (is : realm.users user = some found) (member : realm.memberships user ≠ []) (named : profile.user.id = user) :
    ∃ endpoints, patchProfile (api.env others) profile =
      .ok { profile with
        endpoints := some endpoints, projects := some (realm.memberships user)
        defaultProjectId := realm.defaultProject user } := by
  obtain ⟨endpoints, listed⟩ := up.endpoints profile.region
  have systemSession : (api.env others).systemSession = .ok () := up.systemSession
  have catalogue : (api.env others).getEndpoints profile.region = .ok endpoints := listed
  have projects : (api.env others).getProjects profile.region user = .ok (realm.memberships user) := getProjects_ok serves
  have listed : (realm.memberships user).isEmpty = false := by simpa using member
  have default : (api.env others).getDefaultProjectId profile.region user = .ok (realm.defaultProject user) :=
    userDefault_ok serves is
  refine ⟨endpoints, ?_⟩
  simp [patchProfile, patchedProfile, profileProjects, named, catalogue, projects, listed, default, systemSession, bind,
    Except.bind, pure, Except.pure]

theorem Realm.Enabled.member (enabled : realm.Enabled user project) : realm.memberships user ≠ [] := by
  intro none
  simp [Realm.Enabled, Realm.enabledProjects, none] at enabled

/-- A token that is scoped to a project makes a session of its user there. -/
theorem scoped_signedIn (conf : Conf) (region : String) (serves : Serves realm api) (up : Up others) (owns : realm.Owns user token)
    (enabled : realm.Enabled user project) :
    ∃ profile, (do
      let projectScopeToken ← (api.env others).projectScopeToken token region project
      let profile ← generateProfile conf (api.env others) projectScopeToken region none none
      patchProfile (api.env others) profile) = .ok profile ∧ SignedIn realm user project profile := by
  obtain ⟨rescoped, given, good⟩ := serves.scopes owns enabled
  obtain ⟨profile, generated, same, named, within⟩ := generateProfile_scoped conf region serves up good
    none none
  obtain ⟨data, is, owner⟩ := good.owns
  obtain ⟨found, registered⟩ := serves.known is
  rw [owner] at registered
  obtain ⟨endpoints, patched⟩ := patchProfile_ok serves up registered enabled.member named
  have scope : (api.env others).projectScopeToken token region project = .ok rescoped := given
  refine ⟨_, by rw [scope]; exact bind_ok_iff.mpr ⟨rescoped, rfl, bind_ok_iff.mpr ⟨profile, generated, patched⟩⟩, ?_⟩
  exact ⟨by rw [same]; exact good, named, within, rfl, rfl⟩

theorem home_enabled (home : realm.home user = some project) : realm.Enabled user project := by
  unfold Realm.home at home
  split at home
  · next default chosen =>
    cases home
    exact of_decide_eq_true (Option.filter_eq_some_iff.mp chosen).2
  · obtain ⟨first, among, rfl⟩ := Option.map_eq_some_iff.mp home
    exact List.mem_map_of_mem (List.mem_of_mem_head? among)

theorem home_eq_none : realm.home user = none ↔ realm.enabledProjects user = [] := by
  unfold Realm.home
  split
  · next default chosen =>
    have enabled : realm.Enabled user default := of_decide_eq_true (Option.filter_eq_some_iff.mp chosen).2
    refine iff_of_false (fun none => by cases none) fun empty => ?_
    simp [Realm.Enabled, empty] at enabled
  · simp

/-- Every project of a user has an id, so that the default one is not passed over for it. -/
theorem chosenProject {default first : String} (enabled : realm.Enabled user default) :
    orElse (some default) first = default := by
  obtain ⟨entry, among, rfl⟩ := List.mem_map.mp enabled
  obtain ⟨p, member, rfl⟩ := List.mem_map.mp (List.mem_filter.mp among).1
  simp [orElse, truthy, ProjectData.entry, realm.named user p member]

theorem scopedProfile_signedIn (conf : Conf) (region : String) (serves : Serves realm api) (up : Up others) (owns : realm.Owns user token)
    (home : realm.home user = some project) :
    ∃ profile, scopedProfile conf (api.env others) region token (realm.enabledProjects user) (realm.defaultProject user) =
      .ok profile ∧ SignedIn realm user project profile := by
  cases listed : realm.enabledProjects user with
  | nil =>
    rw [home_eq_none.mpr listed] at home
    cases home
  | cons first rest =>
    have chosen : orElse ((realm.defaultProject user).filter fun i => ((first :: rest).map Prod.fst).contains i) first.1 =
        project := by
      have same : ((realm.defaultProject user).filter fun i => ((first :: rest).map Prod.fst).contains i) =
          (realm.defaultProject user).filter fun i => decide (realm.Enabled user i) := by
        simp only [Realm.Enabled, listed, List.contains_eq_mem]
      rw [same]
      unfold Realm.home at home
      split at home
      · next default found =>
        cases home
        rw [found]
        exact chosenProject (of_decide_eq_true (Option.filter_eq_some_iff.mp found).2)
      · next none =>
        rw [none]
        simpa [orElse, listed] using home
    obtain ⟨profile, made, signed⟩ := scoped_signedIn conf region serves up owns (home_enabled home)
    rw [← chosen] at made
    exact ⟨profile, made, signed⟩

theorem getProjectsAndUnscopeToken_enabled (serves : Serves realm api) (owns : realm.Owns user token)
    {domain username password unscoped : Option String}
    (given : unscoped.filter truthy = some token ∨
      unscoped.filter truthy = none ∧ api.keystone.getToken domain username password = .ok token) :
    getProjectsAndUnscopeToken api.keystone region domain username password unscoped true =
      if (realm.enabledProjects user).isEmpty then
        .error (.exception "You are not authorized for any projects or domains.")
      else .ok (realm.enabledProjects user, token, realm.defaultProject user) := by
  have default : api.keystone.getDefaultProjectId region token = .ok (realm.defaultProject user) :=
    sessionDefault_ok serves owns
  have enabled : (realm.memberships user).filter (fun p => p.2.enabled) = realm.enabledProjects user := rfl
  rcases given with given | ⟨given, asked⟩
  · simp only [getProjectsAndUnscopeToken, given, bind, Except.bind, listProjects_ok serves owns, if_true, enabled, default,
      pure, Except.pure, throw, throwThe, MonadExceptOf.throw]
  · simp only [getProjectsAndUnscopeToken, given, asked, bind, Except.bind, listProjects_ok serves owns, if_true, enabled,
      default, pure, Except.pure, throw, throwThe, MonadExceptOf.throw]

/-- A user with a project to work in has a session there, by a password or by a token. -/
theorem signIn_ok (conf : Conf) (region : String) (domain username password : Option String) (serves : Serves realm api)
    (up : Up others) (owns : realm.Owns user token) (home : realm.home user = some project) {unscoped : Option String}
    (given : unscoped.filter truthy = some token ∨
      unscoped.filter truthy = none ∧ api.keystone.getToken domain username password = .ok token) :
    ∃ profile, getProjectsAndUnscopeToken api.keystone region domain username password unscoped true =
        .ok (realm.enabledProjects user, token, realm.defaultProject user) ∧
      scopedProfile conf (api.env others) region token (realm.enabledProjects user) (realm.defaultProject user) =
        .ok profile ∧ SignedIn realm user project profile := by
  have inhabited : (realm.enabledProjects user).isEmpty = false := by
    cases listed : realm.enabledProjects user with
    | nil =>
      rw [home_eq_none.mpr listed] at home
      cases home
    | cons => rfl
  obtain ⟨profile, made, signed⟩ := scopedProfile_signedIn conf region serves up owns home
  exact ⟨profile, by rw [getProjectsAndUnscopeToken_enabled serves owns given, inhabited]; rfl, made, signed⟩

theorem signIn_error (region : String) (domain username password : Option String) (serves : Serves realm api)
    (owns : realm.Owns user token) (home : realm.home user = none) {unscoped : Option String}
    (given : unscoped.filter truthy = some token ∨
      unscoped.filter truthy = none ∧ api.keystone.getToken domain username password = .ok token) :
    ∃ e, getProjectsAndUnscopeToken api.keystone region domain username password unscoped true = .error e := by
  rw [getProjectsAndUnscopeToken_enabled serves owns given, home_eq_none.mp home]
  exact ⟨_, rfl⟩

/-! ## The requests of a session -/

/-- Until a session ends or is revoked, the requests that come with it on a guarded path are
    served as those of the user in the project. -/
def ServedAs (realm : Realm) (conf : Conf) (user project : String) (session : Payload) : Prop :=
  ∀ (api : Api) (others : Env) (table : RevokedTable) (path : String) (cookies : String → Option Text)
    (authorization : Option String) (callNext : Handler), Serves realm api → Up others → others.database = .ok () →
    ¬ session.exp < others.now → checkToken table session.uuid = false → ignored path = false →
      ∃ profile : Profile, profile.user.id = user ∧ profile.project.id = project ∧
        ∃ state : RequestState, state.profile = some profile ∧
          validateToken conf (api.env others) ⟨path, carrying conf session cookies, authorization⟩ callNext table =
            (callNext state >>= fun response => pure (withRenewal conf state response)) table

theorem served_as {session : Payload} (good : realm.Scoped user project session.keystoneToken) :
    ServedAs realm conf user project session := by
  intro api others table path cookies authorization callNext serves up database lasting fresh guarded
  obtain ⟨profile, generated, -, named, within⟩ := generateProfile_scoped conf session.region serves up
    good (some session.exp) (some session.uuid)
  have present := sessionCookie_carrying conf session cookies path authorization
  exact ⟨profile, named, within, _, rfl,
    validateToken_admits ⟨path, _, authorization⟩ callNext guarded present lasting database fresh generated⟩

/-- The response opens a session of the user in the project. -/
def Opens (realm : Realm) (conf : Conf) (user project : String) (response : Response) : Prop :=
  ∃ profile, SignedIn realm user project profile ∧ ServedAs realm conf user project profile.toPayload ∧
    ∃ cookie ∈ response.cookies, cookie.name = conf.sessionName ∧ cookie.value = profile.toJWTPayload conf

theorem opens_session {response : Response} {profile : Profile} (signed : SignedIn realm user project profile)
    {cookie : SetCookie} (among : cookie ∈ response.cookies) (named : cookie.name = conf.sessionName)
    (value : cookie.value = profile.toJWTPayload conf) : Opens realm conf user project response :=
  ⟨profile, signed, served_as signed.good, cookie, among, named, value⟩

/-- The profile of a login is the one of its user in the home project. -/
theorem loginProfile_ok (serves : Serves realm api) (up : Up others) (dep : Deployment) {credential : Credential}
    (account : realm.account credential.domain credential.username credential.password = some user)
    (home : realm.home user = some project) :
    ∃ profile, loginProfile dep (api.env others) api.keystone credential = .ok profile ∧
      SignedIn realm user project profile := by
  have untokened : (none : Option String).filter truthy = none := rfl
  obtain ⟨token, given, owns⟩ := serves.password account
  obtain ⟨profile, found, made, signed⟩ := signIn_ok dep.toConf
    (orElse credential.region dep.defaultRegion) _ _ _ serves up owns home (.inr ⟨untokened, given⟩)
  exact ⟨profile, bind_ok_iff.mpr ⟨_, found, made⟩, signed⟩

theorem loginProfile_error (serves : Serves realm api) (others : Env) (dep : Deployment) {credential : Credential}
    (refused : (realm.account credential.domain credential.username credential.password).bind realm.home = none) :
    ∃ e, loginProfile dep (api.env others) api.keystone credential = .error e := by
  have untokened : (none : Option String).filter truthy = none := rfl
  cases account : realm.account credential.domain credential.username credential.password with
  | none =>
    obtain ⟨e, wrong⟩ := serves.wrongPassword account
    refine ⟨e, bind_error_iff.mpr (.inl ?_)⟩
    exact bind_error_iff.mpr (.inl wrong)
  | some user =>
    rw [account] at refused
    obtain ⟨token, given, owns⟩ := serves.password account
    obtain ⟨e, homeless⟩ := signIn_error (orElse credential.region dep.defaultRegion) _ _ _ serves owns refused
      (.inr ⟨untokened, given⟩)
    exact ⟨e, bind_error_iff.mpr (.inl homeless)⟩

theorem login_opens (serves : Serves realm api) (up : Up others) (dep : Deployment) (credential : Credential)
    (table : RevokedTable)
    (account : realm.account credential.domain credential.username credential.password = some user)
    (home : realm.home user = some project) :
    ∃ response, login dep (api.env others) api.keystone credential table = (.ok response, table) ∧
      response.status = 200 ∧ Opens realm dep.toConf user project response := by
  obtain ⟨profile, signedIn, signed⟩ := loginProfile_ok serves up dep account home
  refine ⟨⟨200, .profile profile, sessionCookies dep.toConf profile⟩, ?_, rfl,
    opens_session signed List.mem_cons_self rfl rfl⟩
  have session : (api.env others).generateSession profile = .ok () := up.session profile
  have activity : (api.env others).createActivity "login" ("User " ++ profile.user.name ++ " logged in successfully.")
    "success" = .ok () := up.activity _ _ _
  simp [login, bind_run, attempt_run, signedIn, session, activity]

theorem login_refused (serves : Serves realm api) (others : Env) (dep : Deployment) (credential : Credential)
    (table : RevokedTable)
    (refused : (realm.account credential.domain credential.username credential.password).bind realm.home = none) :
    login dep (api.env others) api.keystone credential table =
      (.error (.httpException 401 "Invalid credentials or unauthorized"), table) := by
  obtain ⟨e, failed⟩ := loginProfile_error serves others dep refused
  simp [login, bind_run, attempt_run, failed, raise]

/-- A login opens a session in the home project of the user whose password it has, and is
    refused where there is no such user or no project to work in. -/
theorem login_answer (serves : Serves realm api) (up : Up others) (dep : Deployment) (credential : Credential)
    (table : RevokedTable) :
    (∀ user project, realm.account credential.domain credential.username credential.password = some user →
      realm.home user = some project →
        ∃ response, login dep (api.env others) api.keystone credential table = (.ok response, table) ∧
          response.status = 200 ∧ Opens realm dep.toConf user project response) ∧
    ((realm.account credential.domain credential.username credential.password).bind realm.home = none →
      login dep (api.env others) api.keystone credential table =
        (.error (.httpException 401 "Invalid credentials or unauthorized"), table)) :=
  ⟨fun _ _ account home => login_opens serves up dep credential table account home,
    login_refused serves others dep credential table⟩

/-- So does a token that comes through SSO. -/
theorem websso_answer (serves : Serves realm api) (up : Up others) (dep : Deployment) {token : String} (real : token ≠ "")
    (table : RevokedTable) :
    (∀ user project, realm.Owns user token → realm.home user = some project →
      ∃ response, websso dep (api.env others) api.keystone token table = (.ok response, table) ∧
        response.status = 302 ∧ Opens realm dep.toConf user project response) ∧
    ((∀ user, realm.Owns user token → realm.home user = none) →
      websso dep (api.env others) api.keystone token table =
        (.error (.httpException 401 "SSO authentication failed"), table)) := by
  have given : (some token).filter truthy = some token := by
    simp [Option.filter, truthy, real]
  constructor
  · intro user project owns home
    obtain ⟨profile, found, made, signed⟩ := signIn_ok dep.toConf dep.ssoRegion none none none serves up owns home (.inl given)
    have signedIn : webssoProfile dep (api.env others) api.keystone token = .ok profile :=
      bind_ok_iff.mpr ⟨_, found, made⟩
    refine ⟨⟨302, .content (dep.nextjsUrl ++ "/auth/sso-callback"), webssoCookies dep.toConf profile⟩, ?_, rfl,
      opens_session signed List.mem_cons_self rfl rfl⟩
    simp [websso, bind_run, attempt_run, signedIn]
  · intro refused
    have failed : ∃ e, webssoProfile dep (api.env others) api.keystone token = .error e := by
      cases is : realm.tokens token with
      | none =>
        obtain ⟨e, stranger⟩ := listProjects_error serves is
        refine ⟨e, bind_error_iff.mpr (.inl ?_)⟩
        simp [getProjectsAndUnscopeToken, given, stranger, bind, Except.bind, pure, Except.pure]
      | some data =>
        have owns : realm.Owns data.userId token := ⟨data, is, rfl⟩
        obtain ⟨e, homeless⟩ := signIn_error dep.ssoRegion none none none serves owns (refused _ owns) (.inl given)
        exact ⟨e, bind_error_iff.mpr (.inl homeless)⟩
    obtain ⟨e, failed⟩ := failed
    simp [websso, bind_run, attempt_run, failed, raise]

/-! ## Switching projects -/

theorem generateProfile_error (conf : Conf) (region : String) (serves : Serves realm api) (up : Up others)
    (exp : Option Int) (uuidValue : Option String) (unfit : ∀ user project, ¬ realm.Scoped user project token) :
    ∃ e, generateProfile conf (api.env others) token region exp uuidValue = .error e := by
  have systemSession : (api.env others).systemSession = .ok () := up.systemSession
  cases is : realm.tokens token with
  | none =>
    obtain ⟨e, unknown⟩ := getTokenData_error serves is
    have tokenData : (api.env others).tokenData token region = .error e := unknown
    exact ⟨.httpException 401 "Authentication failed", by
      simp [generateProfile, tokenIdentity, systemSession, tokenData, bind, Except.bind]⟩
  | some data =>
    obtain ⟨found, registered⟩ := serves.known is
    have tokenData : (api.env others).tokenData token region = .ok data := getTokenData_ok serves is
    have userInfo : (api.env others).getUser data.userId region = .ok found.toUserInfo := by
      simp [Api.env, getUser_ok serves registered, Functor.map, Except.map]
    cases within : data.project with
    | none =>
      exact ⟨.keyError "project", by
        simp [generateProfile, tokenIdentity, systemSession, tokenData, userInfo, within, getitem, bind, Except.bind, pure,
          Except.pure]⟩
    | some p => exact absurd ⟨data, p, is, rfl, within, rfl⟩ (unfit data.userId p.id)

/-- A profile says whose its token is, and for which project. -/
theorem generateProfile_sound (serves : Serves realm api) (up : Up others) {exp : Option Int} {uuidValue : Option String}
    {profile : Profile} (generated : generateProfile conf (api.env others) token region exp uuidValue = .ok profile) :
    realm.Scoped profile.user.id profile.project.id token := by
  by_cases fit : ∃ user project, realm.Scoped user project token
  · obtain ⟨user, project, good⟩ := fit
    obtain ⟨profile', same, -, named, within⟩ := generateProfile_scoped conf region serves up good exp uuidValue
    cases same.symm.trans generated
    rw [named, within]
    exact good
  · obtain ⟨e, failed⟩ := generateProfile_error conf region serves up exp uuidValue
      fun user project good => fit ⟨user, project, good⟩
    cases failed.symm.trans generated

/-- The token of a header is good for some project of the user. -/
def Presents (realm : Realm) (user : String) (authorization : Option String) : Prop :=
  ∃ token current, authorization.filter truthy = some token ∧ realm.Scoped user current token

theorem getProfileFromHeader_error (conf : Conf) (serves : Serves realm api) (up : Up others) {authorization : Option String}
    (unfit : ∀ user, ¬ Presents realm user authorization) :
    ∃ detail, getProfileFromHeader conf (api.env others) authorization = .error (.httpException 401 detail) := by
  unfold getProfileFromHeader
  cases given : authorization.filter truthy with
  | none => exact ⟨_, rfl⟩
  | some token =>
    obtain ⟨e, failed⟩ := generateProfile_error conf conf.defaultRegion serves up none none
      fun user project good => unfit user ⟨token, project, given, good⟩
    simp only [failed]
    exact ⟨_, rfl⟩

theorem projectScopeToken_error {e : Exn} {profile : Profile} {projectId : String}
    (refused : (api.env others).projectScopeToken profile.keystoneToken profile.region projectId = .error e) :
    switchedProfile conf (api.env others) profile projectId = .error e :=
  bind_error_iff.mpr (.inl refused)

theorem presents_profile (serves : Serves realm api) (up : Up others) (conf : Conf) {authorization : Option String}
    {token current : String} (given : authorization.filter truthy = some token) (good : realm.Scoped user current token) :
    ∃ profile, getProfileFromHeader conf (api.env others) authorization = .ok profile ∧ profile.keystoneToken = token := by
  obtain ⟨profile, generated, same, -, -⟩ := generateProfile_scoped conf conf.defaultRegion serves
    up good none none
  exact ⟨profile, by simp [getProfileFromHeader, given, generated], same⟩

theorem switchProject_opens (serves : Serves realm api) (up : Up others) (conf : Conf) {authorization : Option String}
    (presents : Presents realm user authorization) (enabled : realm.Enabled user project) :
    ∃ response, switchProject conf (api.env others) authorization project = .ok response ∧
      response.status = 200 ∧ Opens realm conf user project response := by
  obtain ⟨token, current, given, good⟩ := presents
  obtain ⟨profile, known, rfl⟩ := presents_profile serves up conf given good
  obtain ⟨newProfile, switched, signed⟩ := scoped_signedIn conf profile.region serves up good.owns
    enabled
  refine ⟨⟨200, .profile newProfile, sessionCookies conf newProfile⟩, ?_, rfl,
    opens_session signed List.mem_cons_self rfl rfl⟩
  have tried : switchedProfile conf (api.env others) profile project = .ok newProfile := switched
  simp [switchProject, known, tried, bind, Except.bind]

/-- A switch opens a session in the project for the user whose token for any project it
    has, where that user has a role in the project and it is enabled, and is refused
    otherwise. A token that is not for a project does not do. -/
theorem switchProject_answer (serves : Serves realm api) (up : Up others) (conf : Conf) (authorization : Option String)
    (projectId : String) :
    (∀ user, Presents realm user authorization → realm.Enabled user projectId →
      ∃ response, switchProject conf (api.env others) authorization projectId = .ok response ∧
        response.status = 200 ∧ Opens realm conf user projectId response) ∧
    ((∀ user, Presents realm user authorization → ¬ realm.Enabled user projectId) →
      ∃ detail, switchProject conf (api.env others) authorization projectId = .error (.httpException 401 detail)) := by
  constructor
  · intro user presents enabled
    exact switchProject_opens serves up conf presents enabled
  · intro refused
    by_cases fit : ∃ user, Presents realm user authorization
    · obtain ⟨user, token, current, given, good⟩ := fit
      obtain ⟨profile, known, rfl⟩ := presents_profile serves up conf given good
      have unable : ∀ other, realm.Owns other profile.keystoneToken → ¬ realm.Enabled other projectId := by
        intro other owns
        exact good.owns.unique owns ▸ refused user ⟨_, current, given, good⟩
      obtain ⟨e, denied⟩ := serves.refuses unable
      have tried : switchedProfile conf (api.env others) profile projectId = .error e := projectScopeToken_error denied
      exact ⟨"Project switch failed", by simp [switchProject, known, tried, bind, Except.bind]⟩
    · obtain ⟨detail, unknown⟩ := getProfileFromHeader_error conf serves up fun user presents => fit ⟨user, presents⟩
      exact ⟨detail, by simp [switchProject, unknown, bind, Except.bind]⟩

/-! ## The session of a browser -/

theorem serves_honest (serves : Serves realm api) :
    Authenticity.Honest realm.directory (api.env others) api.keystone where
  getToken := by
    intro domain username password token given
    cases account : realm.account domain username password with
    | none =>
      obtain ⟨e, wrong⟩ := serves.wrongPassword account
      cases wrong.symm.trans given
    | some user =>
      obtain ⟨token', right, data, is, rfl⟩ := serves.password account
      cases right.symm.trans given
      exact ⟨_, account, by simp [Realm.directory, is]⟩
  projectScopeToken := by
    intro token region projectId rescoped given
    by_cases able : ∃ user, realm.Owns user token ∧ realm.Enabled user projectId
    · obtain ⟨user, owns, enabled⟩ := able
      obtain ⟨rescoped', right, good⟩ := serves.scopes owns enabled
      cases right.symm.trans given
      obtain ⟨data, is, rfl⟩ := owns
      exact ⟨_, by simp [Realm.directory, is], projectId, enabled, good⟩
    · obtain ⟨e, denied⟩ := serves.refuses fun user owns enabled => able ⟨user, owns, enabled⟩
      cases denied.symm.trans given

/-- What is served is answered by the Keystone of the realm. -/
def Asking (realm : Realm) : Label → Prop
  | .serve _ _ handlerEnv keystone =>
    ∃ api others, Serves realm api ∧ handlerEnv = Api.env api others ∧ keystone = api.keystone
  | _ => True

theorem asking_honest {a : Label} (asking : Asking realm a) : Authenticity.HonestService realm.directory a := by
  cases a with
  | serve flight env handlerEnv keystone =>
    obtain ⟨api, others, serves, rfl, rfl⟩ := asking
    exact serves_honest serves
  | _ => trivial

/-- In whatever order the requests of the browsers are served and their responses arrive, the
    session that one of them comes to hold is of a user whose password, or a token of whom, it
    has sent, with a token for an enabled project of that user; and it is served as such until
    it ends. -/
theorem session_served (realm : Realm) (dep : Deployment) (n : Nat) (table : RevokedTable) (past : List (Nat × Label))
    (s : Authenticity.Shared) (run : (Authenticity.sharing dep n table).Run (fun _ a => Asking realm a.2) past s) (i : Nat)
    (b : Authenticity.Browser) (there : s.browsers[i]? = some b) (c : SetCookie) (held : b.cookie = some c) (now : Int)
    (p : Payload) (session : parseAccessToken dep.toConf now c.value = .ok p) :
    ∃ user project, Authenticity.Proved realm.directory (Authenticity.ownSteps past i) user ∧ realm.Enabled user project ∧
      realm.Scoped user project p.keystoneToken ∧ ServedAs realm dep.toConf user project p := by
  obtain ⟨user, ⟨project, enabled, good⟩, proved⟩ := Authenticity.session_authentic realm.directory dep n table past s
    (run.imp fun _ _ => asking_honest) i b there c held now p session
  exact ⟨user, project, proved, enabled, good, served_as good⟩

/-! ## One user with one project -/

def ownProject : Project := ⟨"project", "web", ⟨"default", "Default"⟩⟩

def tokenOf (userId : String) (project : Option Project) : TokenData := ⟨userId, ⟨"default", "Default"⟩, project, [], ""⟩

def userNamed (id name : String) : UserData := ⟨⟨id, name, none, none⟩, none⟩

/-- The user "owner", and the one that the server itself is. -/
def ownRealm : Realm where
  account domain username password :=
    if domain = "default" ∧ username = "owner" ∧ password = "secret" then some "user" else none
  tokens token :=
    if token = "keystone-token" then some (tokenOf "user" none)
    else if token = "scoped-project" then some (tokenOf "user" (some ownProject))
    else if token = "system-token" then some (tokenOf "skyline" none)
    else none
  users id :=
    if id = "user" then some (userNamed "user" "owner") else if id = "skyline" then some (userNamed "skyline" "skyline")
    else none
  projects user := if user = "user" then [⟨"project", "web", some true, none, none⟩] else []
  named user p member := by
    split at member
    · obtain rfl := List.mem_singleton.mp member
      decide
    · cases member
  nobody := rfl

def ownApi : Api where
  systemToken := .ok "system-token"
  passwordToken domain username password :=
    if domain = some "default" ∧ username = some "owner" ∧ password = some "secret" then .ok "keystone-token"
    else .error (.exception "The request you have made requires authentication.")
  tokenToken token := .ok token
  scopedToken token projectId :=
    if (token = "keystone-token" ∨ token = "scoped-project") ∧ projectId = "project" then .ok "scoped-project"
    else .error (.exception "Unauthorized")
  token _ subject :=
    match ownRealm.tokens subject with
    | some data => .ok ⟨200, "", .ok data⟩
    | none => .ok ⟨404, "", .error (.exception "Not Found")⟩
  user _ id :=
    match ownRealm.users id with
    | some data => .ok ⟨200, "", .ok data⟩
    | none => .ok ⟨404, "", .error (.exception "Not Found")⟩
  projects token path :=
    match ownRealm.tokens token with
    | some data =>
      if path = "/auth/projects" then .ok ⟨200, "", .ok (ownRealm.projects data.userId)⟩
      else if path = "/users/user/projects" then .ok ⟨200, "", .ok (ownRealm.projects "user")⟩
      else .ok ⟨200, "", .ok []⟩
    | none => .ok ⟨401, "", .error (.exception "Unauthorized")⟩

theorem own_tokens {token : String} {data : TokenData} (is : ownRealm.tokens token = some data) :
    token = "keystone-token" ∧ data = tokenOf "user" none ∨
      token = "scoped-project" ∧ data = tokenOf "user" (some ownProject) ∨
        token = "system-token" ∧ data = tokenOf "skyline" none := by
  simp only [ownRealm] at is
  split at is
  · next same => exact .inl ⟨same, (Option.some.inj is).symm⟩
  · split at is
    · next same => exact .inr (.inl ⟨same, (Option.some.inj is).symm⟩)
    · split at is
      · next same => exact .inr (.inr ⟨same, (Option.some.inj is).symm⟩)
      · cases is

theorem own_enabled {user project : String} : ownRealm.Enabled user project ↔ user = "user" ∧ project = "project" := by
  by_cases owner : user = "user" <;>
    simp [Realm.Enabled, Realm.enabledProjects, Realm.memberships, ownRealm, owner, ProjectData.entry]

theorem own_path {user : String} (same : "/users/" ++ user ++ "/projects" = "/users/user/projects") : user = "user" := by
  have chars := congrArg String.toList same
  simp only [String.toList_append] at chars
  have middle : user.toList = "user".toList :=
    List.append_cancel_left (List.append_cancel_right (chars : "/users/".toList ++ user.toList ++ "/projects".toList =
      "/users/".toList ++ "user".toList ++ "/projects".toList))
  exact String.toList_injective middle

theorem own_listing (user : String) : "/users/" ++ user ++ "/projects" ≠ "/auth/projects" := by
  intro same
  have chars := congrArg String.toList same
  simp only [String.toList_append] at chars
  cases chars

theorem ownApi_serves : Serves ownRealm ownApi where
  system := ⟨_, rfl⟩
  password := by
    intro domain username password user account
    simp only [ownRealm] at account
    split at account
    · next right =>
      obtain ⟨rfl, rfl, rfl⟩ := right
      cases account
      exact ⟨"keystone-token", rfl, _, rfl, rfl⟩
    · cases account
  wrongPassword := by
    intro domain username password account
    simp only [ownRealm] at account
    split at account
    · cases account
    · next wrong => exact ⟨_, if_neg fun right => wrong (by simpa using right)⟩
  reissued owns := ⟨_, rfl, owns⟩
  known := by
    intro token data is
    rcases own_tokens is with ⟨rfl, rfl⟩ | ⟨rfl, rfl⟩ | ⟨rfl, rfl⟩ <;> exact ⟨_, rfl⟩
  token := by
    intro system token data _ is
    exact ⟨"", by simp [ownApi, is]⟩
  unknownToken := by
    intro system token _ unknown
    exact ⟨⟨404, "", .error (.exception "Not Found")⟩, by simp [ownApi, unknown], by decide⟩
  user := by
    intro system user data _ is
    refine ⟨?_, "", by simp [ownApi, is]⟩
    simp only [ownRealm] at is
    split at is
    · next same => cases is; exact same.symm
    · split at is
      · next same => cases is; exact same.symm
      · cases is
  projects := by
    rintro user token ⟨data, is, rfl⟩
    exact ⟨"", by simp [ownApi, is]⟩
  stranger := by
    intro token path unknown
    exact ⟨⟨401, "", .error (.exception "Unauthorized")⟩, by simp [ownApi, unknown], by decide⟩
  userProjects := by
    intro system user admin
    cases admin
    have known : ownRealm.tokens "system-token" = some (tokenOf "skyline" none) := rfl
    refine ⟨"", ?_⟩
    simp only [ownApi, known, own_listing, if_false]
    split
    · next same => rw [own_path same]
    · next other =>
      have stranger : user ≠ "user" := fun same => other (by rw [same]; rfl)
      simp [ownRealm, stranger]
  scopes := by
    rintro user token project ⟨data, is, owner⟩ enabled
    obtain ⟨rfl, rfl⟩ := own_enabled.mp enabled
    refine ⟨"scoped-project", if_pos ⟨?_, rfl⟩, tokenOf "user" (some ownProject), ownProject, rfl, rfl, rfl, rfl⟩
    rcases own_tokens is with ⟨rfl, rfl⟩ | ⟨rfl, rfl⟩ | ⟨rfl, rfl⟩
    · exact .inl rfl
    · exact .inr rfl
    · exact absurd owner (by decide)
  refuses := by
    intro token project unable
    refine ⟨_, if_neg ?_⟩
    rintro ⟨rfl | rfl, rfl⟩
    · exact unable "user" ⟨_, rfl, rfl⟩ (own_enabled.mpr ⟨rfl, rfl⟩)
    · exact unable "user" ⟨_, rfl, rfl⟩ (own_enabled.mpr ⟨rfl, rfl⟩)

theorem willing_up (now : Int) (uuid4 : String) : Up (willing now uuid4) where
  systemSession := rfl
  endpoints _ := ⟨_, rfl⟩
  session _ := rfl
  activity _ _ _ := rfl

def ownCredential : Credential := ⟨none, "default", "owner", "secret"⟩

theorem owner_logs_in :
    ∃ response, login site (ownApi.env (willing 0 "uuid")) ownApi.keystone ownCredential [] = (.ok response, []) ∧
      response.status = 200 ∧ Opens ownRealm site.toConf "user" "project" response :=
  (login_answer ownApi_serves (willing_up 0 "uuid") site ownCredential []).1 "user" "project" rfl rfl

example :
    ∃ response, websso site (ownApi.env (willing 0 "uuid")) ownApi.keystone "keystone-token" [] = (.ok response, []) ∧
      response.status = 302 ∧ Opens ownRealm site.toConf "user" "project" response :=
  (websso_answer ownApi_serves (willing_up 0 "uuid") site (by decide) []).1 "user" "project" ⟨_, rfl, rfl⟩ rfl

theorem owner_switches :
    ∃ response, switchProject registered (ownApi.env (willing 0 "uuid")) (some "scoped-project") "project" = .ok response ∧
      response.status = 200 ∧ Opens ownRealm registered "user" "project" response :=
  (switchProject_answer ownApi_serves (willing_up 0 "uuid") registered _ _).1 "user"
    ⟨"scoped-project", "project", rfl, _, _, rfl, rfl, rfl, rfl⟩ (own_enabled.mpr ⟨rfl, rfl⟩)

def ownEnv : Env := ownApi.env (willing 0 "first-uuid")

def sendsCredential : Label := .send signingIn.endpoint true (fun _ => none) none

/-- The steps of two browsers, the second of which signs in while the first waits, newest first. -/
def signsIn : List (Nat × Label) :=
  [(1, .receive 0), (1, .serve 0 (willing 0 "uuid") ownEnv ownApi.keystone), (0, sendsCredential), (1, sendsCredential)]

theorem own_session_served :
    ∃ user project, Authenticity.Proved ownRealm.directory (Authenticity.ownSteps signsIn 1) user ∧
      ownRealm.Enabled user project ∧ ownRealm.Scoped user project ownSession.keystoneToken ∧
        ServedAs ownRealm registered user project ownSession := by
  have sent : (Authenticity.sharing site 2 []).Run (fun _ a => Asking ownRealm a.2) _
      ⟨[⟨none, []⟩, ⟨none, [.sent signingIn]⟩], []⟩ := .step (a := (1, sendsCredential)) .start (by trivial) rfl
  have both := sent.step (a := (0, sendsCredential)) (by trivial) rfl
  have served := both.step (a := (1, .serve 0 (willing 0 "uuid") ownEnv ownApi.keystone))
    (by exact ⟨ownApi, _, ownApi_serves, rfl, rfl⟩) rfl
  have back := served.step (a := (1, .receive 0)) (by trivial) rfl
  exact session_served ownRealm site 2 [] signsIn _ back 1 ⟨some ownCookie, []⟩ rfl ownCookie rfl 0 ownSession rfl

end Skyline.SigningIn
