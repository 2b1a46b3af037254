import Skyline.Login
import Skyline.Raising
import Skyline.Runs

/-!
The session cookie that a browser holds. Signing in with a password or through SSO
(`login` and `websso` in `api/v1/login.py`), logging out, switching projects and the
renewal in the middleware are all that write it. A browser may have several requests
under way, each sent with the cookie that it held then, and their responses come back in
any order.
-/
namespace Skyline.SessionCookie
open Skyline.Python Skyline.Effects Skyline.Effects.Eff Skyline.Runs Skyline.Raising
open Skyline.Session Skyline.Middleware Skyline.Login

/-! ## Signing in -/

/-- The options that signing in reads besides, and where the frontend is. -/
structure Deployment extends Conf where
  ssoRegion : String
  nextjsUrl : String

structure Credential where
  region : Option String
  domain : String
  username : String
  password : String

structure ProjectsResponse where
  statusCode : Nat
  text : String
  projects : List (String × ProjectEntry)

/-- What Keystone answers to who signs in. -/
structure Keystone where
  /-- `session.get_token()` of a session for a domain, a name and a password. -/
  getToken : Option String → Option String → Option String → Except Exn String
  /-- `GET` below the Keystone URL with a token. -/
  get : String → String → Except Exn ProjectsResponse
  /-- `_get_default_project_id`, of the session of a token, in a region. -/
  getDefaultProjectId : String → String → Except Exn (Option String)

def listProjects (keystone : Keystone) (unscopeToken : String) : Except Exn (List (String × ProjectEntry)) := do
  let resp ← keystone.get "/auth/projects" unscopeToken
  if resp.statusCode = 200 then return resp.projects
  else do
    let resp ← keystone.get "/projects" unscopeToken
    if resp.statusCode = 200 then return resp.projects
    else throw (.exception ("Failed to get projects: " ++ toString resp.statusCode ++ " " ++ resp.text))

/-- `_get_projects_and_unscope_token`. -/
def getProjectsAndUnscopeToken (keystone : Keystone) (region : String) (domain username password token : Option String)
    (projectEnabled : Bool) : Except Exn (List (String × ProjectEntry) × String × Option String) := do
  let unscopeToken ← match token.filter truthy with
    | some token => pure token
    | none => keystone.getToken domain username password
  let projects ← listProjects keystone unscopeToken
  let projectScope := if projectEnabled then projects.filter (fun p => p.2.enabled) else projects
  if projectScope.isEmpty then throw (.exception "You are not authorized for any projects or domains.")
  let defaultProjectId ← keystone.getDefaultProjectId region unscopeToken
  return (projectScope, unscopeToken, defaultProjectId)

/-- The profile for the default project where it is among the projects, and for the first
    of them otherwise. -/
def scopedProfile (conf : Conf) (env : Env) (region keystoneToken : String)
    (projectScope : List (String × ProjectEntry)) (defaultProjectId : Option String) : Except Exn Profile := do
  let defaultProjectId := defaultProjectId.filter (fun i => (projectScope.map Prod.fst).contains i)
  let first ← getitem projectScope.head? "0"
  let projectScopeToken ← env.projectScopeToken keystoneToken region (orElse defaultProjectId first.1)
  let profile ← generateProfile conf env projectScopeToken region none none
  patchProfile env profile

section
variable (dep : Deployment) (env : Env) (keystone : Keystone)

def loginProfile (credential : Credential) : Except Exn Profile := do
  let region := orElse credential.region dep.defaultRegion
  let (projectScope, unscopeToken, defaultProjectId) ← getProjectsAndUnscopeToken keystone region
    (some credential.domain) (some credential.username) (some credential.password) none true
  scopedProfile dep.toConf env region unscopeToken projectScope defaultProjectId

def login (credential : Credential) : Eff RevokedTable Exn Response := do
  let profile ← attempt (lift (loginProfile dep env keystone credential))
    (fun _ => raise (.httpException 401 "Invalid credentials or unauthorized"))
  lift (env.generateSession profile)
  lift (env.createActivity "login" ("User " ++ profile.user.name ++ " logged in successfully.") "success")
  pure ⟨200, .profile profile, sessionCookies dep.toConf profile⟩

def webssoProfile (token : String) : Except Exn Profile := do
  let (projectScope, _, defaultProjectId) ←
    getProjectsAndUnscopeToken keystone dep.ssoRegion none none none (some token) true
  scopedProfile dep.toConf env dep.ssoRegion token projectScope defaultProjectId

/-- The cookies of `websso`, which the redirect of another site has to bring along. -/
def webssoCookies (conf : Conf) (profile : Profile) : List SetCookie :=
  (sessionCookies conf profile).map (fun c => { c with samesite := "lax" })

/-- `websso`; the content of its response is where it redirects to. -/
def websso (token : String) : Eff RevokedTable Exn Response := do
  let profile ← attempt (lift (webssoProfile dep env keystone token))
    (fun _ => raise (.httpException 401 "SSO authentication failed"))
  pure ⟨302, .content (dep.nextjsUrl ++ "/auth/sso-callback"), webssoCookies dep.toConf profile⟩

end

/-! ## Requests of a browser -/

inductive Endpoint
  | login (credential : Credential)
  | websso (token : String)
  | logout (body : Option LogoutBody)
  | switchProject (projectId : String)
  /-- Any other path, and its handler, which sets no cookie. -/
  | other (path : String) (handler : RequestState → Eff RevokedTable Exn (Nat × Body))

def Endpoint.path : Endpoint → String
  | .login _ => apiPrefix ++ "/login"
  | .websso _ => apiPrefix ++ "/websso"
  | .logout _ => apiPrefix ++ "/logout"
  | .switchProject projectId => apiPrefix ++ "/switch_project/" ++ projectId
  | .other path _ => path

structure Call where
  endpoint : Endpoint
  /-- The cookies that are sent with it. -/
  cookies : String → Option Text
  authorization : Option String

def Call.request (q : Call) : Request := ⟨q.endpoint.path, q.cookies, q.authorization⟩

section
variable (dep : Deployment) (env handlerEnv : Env) (keystone : Keystone)

/-- The handler of a request, with what the framework makes of its HTTP exceptions. -/
def Call.handler (q : Call) : Handler := fun state =>
  match q.endpoint with
  | .login credential => attempt (login dep handlerEnv keystone credential) (fun e => answer (.error e))
  | .websso token => attempt (websso dep handlerEnv keystone token) (fun e => answer (.error e))
  | .logout body => logout dep.toConf handlerEnv body state
  | .switchProject projectId => answer (switchProject dep.toConf handlerEnv q.authorization projectId)
  | .other _ handler => do
    let (status, body) ← handler state
    pure ⟨status, body, []⟩

/-- A request behind the middleware, where the middleware and the handler each read the
    clock and ask Keystone for themselves. -/
def Call.serve (q : Call) : Eff RevokedTable Exn Response :=
  validateToken dep.toConf env q.request (q.handler dep handlerEnv keystone)

end

/-- What becomes of the session cookie with the `Set-Cookie` headers of a response. -/
def received (conf : Conf) (browser : Option SetCookie) (cookies : List SetCookie) : Option SetCookie :=
  cookies.foldl (fun held c =>
    if c.name = conf.sessionName then if c.maxAge = some 0 then none else some c else held) browser

inductive Flight
  | sent (call : Call)
  | answered (response : Response)

structure State where
  /-- The session cookie of the browser. -/
  browser : Option SetCookie
  flights : List Flight
  table : RevokedTable

inductive Label
  /-- A request, with or without the session cookie, and with others. -/
  | send (endpoint : Endpoint) (attached : Bool) (others : String → Option Text) (authorization : Option String)
  | serve (flight : Nat) (env handlerEnv : Env) (keystone : Keystone)
  | receive (flight : Nat)

/-- The cookies of a request that a browser sends. -/
def State.cookies (conf : Conf) (s : State) (attached : Bool) (others : String → Option Text) (name : String) :
    Option Text :=
  if name = conf.sessionName then if attached then s.browser.map SetCookie.value else none else others name

def serverError : Response := ⟨500, .content "Internal Server Error", []⟩

def step (dep : Deployment) (s : State) : Label → Option (Unit × State)
  | .send endpoint attached others authorization =>
    let call : Call := ⟨endpoint, s.cookies dep.toConf attached others, authorization⟩
    some ((), { s with flights := s.flights ++ [.sent call] })
  | .serve i env handlerEnv keystone =>
    match s.flights[i]? with
    | some (.sent call) =>
      let (result, table) := call.serve dep env handlerEnv keystone s.table
      let response := match result with
        | .ok response => response
        | .error _ => serverError
      some ((), { s with flights := s.flights.set i (.answered response), table := table })
    | _ => none
  | .receive i =>
    match s.flights[i]? with
    | some (.answered response) =>
      some ((), { s with
        browser := received dep.toConf s.browser response.cookies, flights := s.flights.eraseIdx i })
    | _ => none

/-- The runs of a browser, from one that holds no session. -/
def browsing (dep : Deployment) (table : RevokedTable) : System State Label Unit where
  init := ⟨none, [], table⟩
  step := step dep

/-! ## The cookie and its protection -/

/-- `HttpOnly`, a `SameSite` value, and `Secure` where TLS is on. -/
structure Protected (conf : Conf) (c : SetCookie) : Prop where
  httponly : c.httponly = true
  samesite : c.samesite ≠ ""
  secure : conf.sslEnabled = true → c.secure = true

/-- The session cookie of a request is valid, and about to expire. -/
def Due (conf : Conf) (env : Env) (request : Request) (table : RevokedTable) : Prop :=
  ∃ payloadStr token, sessionCookie conf request = some payloadStr ∧
    parseAccessToken conf env.now payloadStr = .ok token ∧ env.database = .ok () ∧
    checkToken table token.uuid = false ∧ (∃ profile, generateProfileByToken conf env token = .ok profile) ∧
    expOr conf env.now (some token.exp) - env.now ≤ conf.accessTokenRenew

/-- No request is served that comes, on a path that the middleware guards, with a session
    cookie that is due for renewal. -/
def Unrenewed (dep : Deployment) (s : State) : Label → Prop
  | .serve i env _ _ => ∀ call : Call, s.flights[i]? = some (.sent call) →
      ignored call.endpoint.path = true ∨ ¬ Due dep.toConf env call.request s.table
  | _ => True

/-! ## What a response sets -/

/-- A request opens a session with the profile. -/
inductive Makes (dep : Deployment) (env : Env) (keystone : Keystone) (authorization : Option String) :
    Endpoint → Profile → Prop
  | login {credential : Credential} {profile : Profile} :
      loginProfile dep env keystone credential = .ok profile → Makes dep env keystone authorization (.login credential) profile
  | websso {token : String} {profile : Profile} :
      webssoProfile dep env keystone token = .ok profile → Makes dep env keystone authorization (.websso token) profile
  | switchProject {projectId : String} {profile newProfile : Profile} :
      getProfileFromHeader dep.toConf env authorization = .ok profile →
      switchedProfile dep.toConf env profile projectId = .ok newProfile →
      Makes dep env keystone authorization (.switchProject projectId) newProfile

/-- A property of the cookies that the handlers set for a request: of a deletion, and of the
    cookies of a session that it opens. -/
structure Sets (dep : Deployment) (env : Env) (keystone : Keystone) (call : Call) (Q : SetCookie → Prop) : Prop where
  deleted : Q (deleteCookie dep.sessionName)
  opened : ∀ profile, Makes dep env keystone call.authorization call.endpoint profile →
    ∀ c ∈ sessionCookies dep.toConf profile, Q c ∧ Q { c with samesite := "lax" }

section
variable {dep : Deployment} {conf : Conf} {env handlerEnv : Env} {keystone : Keystone} {response : Response}
  {table table' : RevokedTable} {Q : SetCookie → Prop} {call : Call}

theorem answer_error_cookies {e : Exn} (answered : answer (.error e) table = (.ok response, table')) :
    response.cookies = [] := by
  cases e with
  | httpException statusCode detail =>
    cases answered
    rfl
  | _ => cases answered

/-- What the framework makes of an exception of a handler sets nothing. -/
theorem guarded_cookies {m : Eff RevokedTable Exn Response}
    (answered : attempt m (fun e => answer (.error e)) table = (.ok response, table')) :
    m table = (.ok response, table') ∨ response.cookies = [] := by
  rcases of_attempt_ok answered with body | ⟨e, s, _, handled⟩
  · exact .inl body
  · exact .inr (answer_error_cookies handled)

theorem login_cookies {credential : Credential}
    (answered : login dep env keystone credential table = (.ok response, table')) :
    ∃ profile, loginProfile dep env keystone credential = .ok profile ∧
      response.cookies = sessionCookies dep.toConf profile := by
  obtain ⟨profile, s₁, made, rest₁⟩ := of_bind_ok answered
  obtain ⟨_, s₂, _, rest₂⟩ := of_bind_ok rest₁
  obtain ⟨_, s₃, _, rest₃⟩ := of_bind_ok rest₂
  cases rest₃
  rcases of_attempt_ok made with body | ⟨e, s, _, handled⟩
  · exact ⟨profile, (of_lift_ok body).1, rfl⟩
  · cases handled

theorem websso_cookies {token : String} (answered : websso dep env keystone token table = (.ok response, table')) :
    ∃ profile, webssoProfile dep env keystone token = .ok profile ∧
      response.cookies = webssoCookies dep.toConf profile := by
  obtain ⟨profile, s₁, made, rest₁⟩ := of_bind_ok answered
  cases rest₁
  rcases of_attempt_ok made with body | ⟨e, s, _, handled⟩
  · exact ⟨profile, (of_lift_ok body).1, rfl⟩
  · cases handled

theorem logout_cookies {body : Option LogoutBody} {state : RequestState}
    (answered : logout conf env body state table = (.ok response, table')) :
    response.cookies = [deleteCookie conf.sessionName] := by
  cases session : getJWTPayload conf state with
  | some payload =>
    simp only [logout, session] at answered
    obtain ⟨_, s₁, _, rest₁⟩ := of_bind_ok answered
    cases rest₁
    rfl
  | none =>
    cases given : body.bind LogoutBody.keystoneToken with
    | none =>
      simp only [logout, session, given] at answered
      cases answered
      rfl
    | some keystoneToken =>
      simp only [logout, session, given] at answered
      split at answered
      · obtain ⟨_, s₁, _, rest₁⟩ := of_bind_ok answered
        cases rest₁
        rfl
      · cases answered
        rfl

theorem switchProject_cookies {authorization : Option String} {projectId : String}
    (switched : switchProject conf env authorization projectId = .ok response) :
    ∃ profile newProfile, getProfileFromHeader conf env authorization = .ok profile ∧
      switchedProfile conf env profile projectId = .ok newProfile ∧ response.cookies = sessionCookies conf newProfile := by
  obtain ⟨profile, known, rest⟩ := bind_ok_iff.mp switched
  cases tried : switchedProfile conf env profile projectId with
  | error e =>
    rw [tried] at rest
    cases rest
  | ok newProfile =>
    rw [tried] at rest
    cases rest
    exact ⟨profile, newProfile, known, tried, rfl⟩

/-- What a handler sets is a deletion or belongs to a session that the request opens. -/
theorem handler_sets (sets : Sets dep handlerEnv keystone call Q) {state : RequestState}
    (answered : call.handler dep handlerEnv keystone state table = (.ok response, table')) :
    ∀ c ∈ response.cookies, Q c := by
  obtain ⟨deleted, opened⟩ := sets
  have silent (none : response.cookies = []) : ∀ c ∈ response.cookies, Q c := by
    rw [none]
    exact fun c member => by cases member
  unfold Call.handler at answered
  cases endpoint : call.endpoint with
  | login credential =>
    rw [endpoint] at answered opened
    rcases guarded_cookies answered with own | none
    · obtain ⟨profile, made, cookies⟩ := login_cookies own
      rw [cookies]
      exact fun c member => (opened profile (.login made) c member).1
    · exact silent none
  | websso token =>
    rw [endpoint] at answered opened
    rcases guarded_cookies answered with own | none
    · obtain ⟨profile, made, cookies⟩ := websso_cookies own
      rw [cookies]
      intro c member
      obtain ⟨strict, among, rfl⟩ := List.mem_map.mp member
      exact (opened profile (.websso made) strict among).2
    · exact silent none
  | logout body =>
    rw [endpoint] at answered
    rw [logout_cookies answered]
    exact fun c member => List.mem_singleton.mp member ▸ deleted
  | switchProject projectId =>
    rw [endpoint] at answered opened
    have answered : answer (switchProject dep.toConf handlerEnv call.authorization projectId) table =
      (.ok response, table') := answered
    cases switched : switchProject dep.toConf handlerEnv call.authorization projectId with
    | error e =>
      rw [switched] at answered
      exact silent (answer_error_cookies answered)
    | ok response' =>
      rw [switched] at answered
      cases answered
      obtain ⟨profile, newProfile, known, made, cookies⟩ := switchProject_cookies switched
      rw [cookies]
      exact fun c member => (opened newProfile (.switchProject known made) c member).1
  | other path handler =>
    rw [endpoint] at answered
    obtain ⟨⟨status, body⟩, s₁, _, rest₁⟩ := of_bind_ok answered
    cases rest₁
    exact silent rfl

/-- What comes back with a response is what the handler sets, and the cookies of a renewal. -/
theorem serve_sets (sets : Sets dep handlerEnv keystone call Q)
    (renewed : ∀ state s payload, admission dep.toConf env call.request table = (.ok (.ok state), s) →
      state.renewal = some payload → ∀ c ∈ renewalCookies dep.toConf payload, Q c)
    (answered : call.serve dep env handlerEnv keystone table = (.ok response, table')) :
    ∀ c ∈ response.cookies, Q c := by
  unfold Call.serve at answered
  by_cases free : ignored call.endpoint.path = true
  · rw [validateToken_ignored call.request free] at answered
    exact handler_sets sets answered
  · have guarded : ignored call.request.path = false := by
      simpa [Call.request] using free
    simp only [validateToken, guarded, Bool.false_eq_true, if_false] at answered
    obtain ⟨result, s, admitted, rest⟩ := of_bind_ok answered
    cases result with
    | error refused =>
      cases rest
      obtain ⟨detail, rfl⟩ := admission_refused admitted
      exact fun c member => by cases member
    | ok state =>
      obtain ⟨inner, t, called, wrapped⟩ := of_bind_ok rest
      cases wrapped
      have own := handler_sets sets called
      rw [withRenewal]
      cases renewal : state.renewal with
      | none => exact own
      | some payload =>
        intro c member
        rcases List.mem_append.mp member with before | new
        · exact own c before
        · exact renewed state s payload admitted renewal c new

/-- The cookie that a browser comes to hold has what each session cookie of the response has
    that is not a deletion. -/
theorem received_keeps {browser : Option SetCookie} {cookies : List SetCookie}
    (each : ∀ c ∈ cookies, c.name = conf.sessionName → c.maxAge = some 0 ∨ Q c)
    (before : ∀ c, browser = some c → Q c) : ∀ c, received conf browser cookies = some c → Q c := by
  unfold received
  induction cookies generalizing browser with
  | nil => exact before
  | cons first rest ih =>
    rw [List.foldl_cons]
    refine ih (fun c later => each c (List.mem_cons_of_mem first later)) ?_
    intro c held
    by_cases named : first.name = conf.sessionName
    · rw [if_pos named] at held
      rcases each first List.mem_cons_self named with gone | kept
      · rw [if_pos gone] at held
        cases held
      · split at held
        · cases held
        · exact Option.some.inj held ▸ kept
    · rw [if_neg named] at held
      exact before c held

/-! ## The protection of what is set -/

/-- The session cookie, if this is it, is a deletion or protected. -/
def Safe (conf : Conf) (c : SetCookie) : Prop := c.name = conf.sessionName → c.maxAge = some 0 ∨ Protected conf c

theorem safe_sets (own : dep.sessionName ≠ timeExpiredKey) : Sets dep handlerEnv keystone call (Safe dep.toConf) where
  deleted _ := .inl rfl
  opened profile _ c member := by
    rcases List.mem_pair.mp member with rfl | rfl
    · have strict : "strict" ≠ "" := by decide
      have lax : "lax" ≠ "" := by decide
      exact ⟨fun _ => .inr ⟨rfl, strict, id⟩, fun _ => .inr ⟨rfl, lax, id⟩⟩
    · exact ⟨fun named => absurd named.symm own, fun named => absurd named.symm own⟩

/-- A request that the middleware lets through is not renewed, unless its cookie is due. -/
theorem admitted_undue {request : Request} {state : RequestState}
    (admitted : admission conf env request table = (.ok (.ok state), table')) (undue : ¬ Due conf env request table) :
    state.renewal = none := by
  unfold admission at admitted
  cases present : sessionCookie conf request with
  | none =>
    rw [present] at admitted
    cases admitted
    rfl
  | some payloadStr =>
    rw [present] at admitted
    rcases of_attempt_ok admitted with body | ⟨e, s, _, handled⟩
    · obtain ⟨token, profile, parsed, up, fresh, generated, rfl⟩ := authenticate_ok body
      have exp : profile.exp = expOr conf env.now (some token.exp) :=
        congrArg Payload.exp (generateProfile_ok generated)
      refine if_neg fun late => undue ⟨payloadStr, token, present, parsed, up, fresh, ⟨profile, generated⟩, ?_⟩
      rw [← exp]
      exact late
    · cases handled

theorem serve_safe (own : dep.sessionName ≠ timeExpiredKey)
    (unrenewed : ignored call.endpoint.path = true ∨ ¬ Due dep.toConf env call.request table)
    (answered : call.serve dep env handlerEnv keystone table = (.ok response, table')) :
    ∀ c ∈ response.cookies, Safe dep.toConf c := by
  rcases unrenewed with free | undue
  · rw [Call.serve, validateToken_ignored call.request free] at answered
    exact handler_sets (safe_sets own) answered
  · refine serve_sets (safe_sets own) (fun state s payload admitted renewal => ?_) answered
    rw [admitted_undue admitted undue] at renewal
    cases renewal

/-- A response that renews the session leaves its cookie without protection. -/
theorem renewal_exposes (own : dep.sessionName ≠ timeExpiredKey) {call : Call}
    (guarded : ignored call.endpoint.path = false) (due : Due dep.toConf env call.request table)
    (answered : call.serve dep env handlerEnv keystone table = (.ok response, table')) (browser : Option SetCookie) :
    ∃ c, received dep.toConf browser response.cookies = some c ∧ ¬ Protected dep.toConf c := by
  obtain ⟨payloadStr, token, present, parsed, up, fresh, ⟨profile, generated⟩, late⟩ := due
  have exp : profile.exp = expOr dep.toConf env.now (some token.exp) :=
    congrArg Payload.exp (generateProfile_ok generated)
  rw [← exp] at late
  obtain ⟨payload, renewed⟩ : ∃ payload, renewedPayload dep.toConf env.now profile = some payload :=
    ⟨_, if_pos late⟩
  have guarded : ignored call.request.path = false := guarded
  have admitted : authenticate dep.toConf env payloadStr table =
      (.ok (.ok { profile := some profile, renewal := some payload }), table) := by
    simp [authenticate, bind_run, parsed, up, fresh, generated, renewed]
  simp only [Call.serve, validateToken, guarded, Bool.false_eq_true, if_false, admission, present] at answered
  rw [bind_ok (attempt_ok _ admitted)] at answered
  obtain ⟨inner, s, _, wrapped⟩ := of_bind_ok answered
  cases wrapped
  refine ⟨{ name := dep.sessionName, value := payload.toJWTPayload dep.toConf }, ?_, fun kept => ?_⟩
  · simp [withRenewal, received, renewalCookies, own.symm]
  · cases kept.httponly

/-- The cookie of the browser, and what is on its way to it. -/
structure Guarded (conf : Conf) (s : State) : Prop where
  browser : ∀ c, s.browser = some c → Protected conf c
  flights : ∀ response, .answered response ∈ s.flights → ∀ c ∈ response.cookies, Safe conf c

theorem step_guarded (own : dep.sessionName ≠ timeExpiredKey) {s s' : State} {a : Label} {e : Unit}
    (guarded : Guarded dep.toConf s) (unrenewed : Unrenewed dep s a) (stepped : step dep s a = some (e, s')) :
    Guarded dep.toConf s' := by
  cases a with
  | send endpoint attached others authorization =>
    cases stepped
    refine ⟨guarded.browser, fun response member => ?_⟩
    rcases List.mem_append.mp member with old | new
    · exact guarded.flights response old
    · cases List.mem_singleton.mp new
  | serve i env handlerEnv keystone =>
    simp only [step] at stepped
    split at stepped
    · next call there =>
      rcases ran : call.serve dep env handlerEnv keystone s.table with ⟨result, table⟩
      rw [ran] at stepped
      cases stepped
      refine ⟨guarded.browser, fun response member => ?_⟩
      rcases List.mem_or_eq_of_mem_set member with old | new
      · exact guarded.flights response old
      · cases new
        cases result with
        | ok response => exact serve_safe own (unrenewed call there) ran
        | error e => exact fun c member => by cases member
    · cases stepped
  | receive i =>
    simp only [step] at stepped
    split at stepped
    · next response there =>
      cases stepped
      exact ⟨received_keeps (guarded.flights response (List.mem_of_getElem? there)) guarded.browser,
        fun other member => guarded.flights other (List.mem_of_mem_eraseIdx member)⟩
    · cases stepped

end

/-- In every run in which no cookie is renewed, the session cookie stays protected. -/
theorem session_cookie_protected (dep : Deployment) (table : RevokedTable) (own : dep.sessionName ≠ timeExpiredKey)
    (past : List Unit) (s : State) (run : (browsing dep table).Run (Unrenewed dep) past s) :
    ∀ c, s.browser = some c → Protected dep.toConf c := by
  have initial : Guarded dep.toConf (browsing dep table).init := {
    browser := fun c held => by cases held
    flights := fun response member => by cases member }
  have guarded := run.invariant (I := fun _ s => Guarded dep.toConf s) initial fun _ _ _ _ _ inv unrenewed stepped =>
    step_guarded own inv unrenewed stepped
  exact guarded.browser

/-! ## A login and a visit -/

def site : Deployment := { registered with ssoRegion := "RegionOne", nextjsUrl := "http://localhost:3000" }

/-- A Keystone that lets everyone in. -/
def obliging : Keystone where
  getToken _ _ _ := .ok "keystone-token"
  get _ _ := .ok ⟨200, "", [("project", ⟨"web", true, none, ""⟩)]⟩
  getDefaultProjectId _ _ := .ok none

/-- The session of a login at 0. -/
def ownSession : Payload := ⟨"scoped-project", "RegionOne", 3600, "first-uuid"⟩

def ownCookie : SetCookie where
  name := "session"
  value := ownSession.toJWTPayload registered
  httponly := true
  secure := true
  samesite := "strict"

def instances : Endpoint := .other "/api/v1/instances" fun _ => pure (200, .content "instances")

def visit : Call := ⟨instances, carrying registered ownSession (fun _ => none), none⟩

def signingIn : Call where
  endpoint := .login ⟨none, "default", "owner", "secret"⟩
  cookies := State.cookies registered ⟨none, [], []⟩ true (fun _ => none)
  authorization := none

theorem loggedIn : (browsing site []).Run (Unrenewed site) [(), (), ()] ⟨some ownCookie, [], []⟩ := by
  have sent : (browsing site []).Run (Unrenewed site) [()] ⟨none, [.sent signingIn], []⟩ :=
    .step (a := .send signingIn.endpoint true (fun _ => none) none) .start (by trivial) rfl
  have served := sent.step (a := .serve 0 (willing 0 "uuid") (willing 0 "first-uuid") obliging) ?_ rfl
  · exact served.step (a := .receive 0) (by trivial) rfl
  · rintro call ⟨⟩
    exact .inl (by decide)

/-- A visit a minute after the login leaves the cookie protected. -/
theorem early_visit_protected : ∃ s, (browsing site []).Run (Unrenewed site) [(), (), (), (), (), ()] s ∧
    (∀ c, s.browser = some c → Protected registered c) ∧ s.browser = some ownCookie := by
  have sent : (browsing site []).Run (Unrenewed site) [(), (), (), ()] ⟨some ownCookie, [.sent visit], []⟩ :=
    loggedIn.step (a := .send instances true (fun _ => none) none) (by trivial) rfl
  have served := sent.step (a := .serve 0 (willing 60 "uuid") (willing 60 "uuid") obliging) ?_ rfl
  · have back := served.step (a := .receive 0) (by trivial) rfl
    exact ⟨_, back, session_cookie_protected site [] (by decide) _ _ back, rfl⟩
  · rintro call ⟨⟩
    refine .inr ?_
    rintro ⟨payloadStr, token, present, parsed, _, _, _, due⟩
    rw [carrying_session present parsed] at due
    exact absurd due (by decide)

/-- Half an hour before the session ends a visit leaves it without protection. -/
theorem late_visit_unprotected :
    ¬ ∀ (dep : Deployment) (table : RevokedTable), dep.sessionName ≠ timeExpiredKey →
      ∀ past s, (browsing dep table).AnyRun past s → ∀ c, s.browser = some c → Protected dep.toConf c := by
  intro always
  have sent : (browsing site []).AnyRun [(), (), (), ()] ⟨some ownCookie, [.sent visit], []⟩ :=
    loggedIn.anyRun.step (a := .send instances true (fun _ => none) none) trivial rfl
  have served := sent.step (a := .serve 0 (willing 1800 "uuid") (willing 1800 "uuid") obliging) trivial rfl
  have back := served.step (a := .receive 0) trivial rfl
  have kept := always site [] (by decide) _ _ back _ rfl
  cases kept.httponly

end Skyline.SessionCookie
