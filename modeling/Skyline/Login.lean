import Skyline.Middleware

/-!
Logging out and switching projects (`api/v1/login.py`), each behind the middleware
that every request goes through. The path of `logout` is one that the middleware
ignores; `switch_project` is not, so its response may carry the cookies of a
renewed token after its own.
-/
namespace Skyline.Login
open Skyline.Python Skyline.Effects Skyline.Effects.Eff Skyline.Session Skyline.Middleware

/-! ## The handlers -/

def getJWTPayload (conf : Conf) (state : RequestState) : Option Text :=
  state.profile.map (fun profile => profile.toJWTPayload conf)

structure LogoutBody where
  keystoneToken : Option String
  region : Option String

/-- What `logout` tries for the session of a payload: it revokes the token in Keystone,
    and after that in the database. -/
def revokeSession (conf : Conf) (env : Env) (payload : Text) : Eff RevokedTable Exn Unit := do
  let token ← lift (parseAccessToken conf env.now payload)
  let profile ← lift (generateProfileByToken conf env token)
  lift (env.generateSession profile)
  lift (env.keystoneRevoke profile token.keystoneToken)
  lift env.database
  modify (fun table => revokeToken table profile.uuid profile.exp)
  lift (env.createActivity "logout" ("User " ++ profile.user.name ++ " logged out successfully.") "success")

/-- What `logout` tries for a Keystone token in the body. -/
def invalidateToken (conf : Conf) (env : Env) (keystoneToken : String) (region : Option String) :
    Eff RevokedTable Exn Unit := do
  lift env.systemSession
  lift (env.invalidate (orElse region conf.defaultRegion) keystoneToken)

/-- `logout`. Nothing that fails on the way shows in its answer. -/
def logout (conf : Conf) (env : Env) (body : Option LogoutBody) (state : RequestState) :
    Eff RevokedTable Exn Response := do
  match getJWTPayload conf state with
  | some payload => attempt (revokeSession conf env payload) (fun _ => pure ())
  | none =>
    match body.bind LogoutBody.keystoneToken with
    | some keystoneToken =>
      if truthy keystoneToken then
        attempt (invalidateToken conf env keystoneToken (body.bind LogoutBody.region)) (fun _ => pure ())
      else pure ()
    | none => pure ()
  pure ⟨200, .message "Logout OK", [deleteCookie conf.sessionName]⟩

def logoutRequest (cookies : String → Option Text) (authorization : Option String) : Request where
  path := apiPrefix ++ "/logout"
  cookies := cookies
  authorization := authorization

def postLogout (conf : Conf) (env : Env) (cookies : String → Option Text) (authorization : Option String)
    (body : Option LogoutBody) : Eff RevokedTable Exn Response :=
  validateToken conf env (logoutRequest cookies authorization) (logout conf env body)

def getProfileFromHeader (conf : Conf) (env : Env) (authorization : Option String) : Except Exn Profile :=
  match authorization.filter truthy with
  | none => .error (.httpException 401 "Authorization header missing")
  | some token =>
    match generateProfile conf env token conf.defaultRegion none none with
    | .ok profile => .ok profile
    | .error e => .error (.httpException 401 e.str)

def profileProjects (env : Env) (profile : Profile) : Except Exn (List (String × ProjectEntry) × Option String) := do
  let projects ← env.getProjects profile.region profile.user.id
  if projects.isEmpty then env.tokenProjects profile.region profile.keystoneToken
  else do
    env.systemSession
    let defaultProjectId ← env.getDefaultProjectId profile.region profile.user.id
    return (projects, defaultProjectId)

def patchedProfile (env : Env) (profile : Profile) : Except Exn Profile := do
  let endpoints ← env.getEndpoints profile.region
  let (projects, defaultProjectId) ← profileProjects env profile
  return { profile with
    endpoints := some endpoints, projects := some projects, defaultProjectId := defaultProjectId }

def patchProfile (env : Env) (profile : Profile) : Except Exn Profile :=
  match patchedProfile env profile with
  | .ok patched => .ok patched
  | .error _ => .error (.httpException 401 "Authentication failed")

/-- The `try` part of `switch_project`: the profile for the project. -/
def switchedProfile (conf : Conf) (env : Env) (profile : Profile) (projectId : String) : Except Exn Profile := do
  let projectScopeToken ← env.projectScopeToken profile.keystoneToken profile.region projectId
  let newProfile ← generateProfile conf env projectScopeToken profile.region none none
  patchProfile env newProfile

def sessionCookies (conf : Conf) (profile : Profile) : List SetCookie :=
  [{ name := conf.sessionName, value := profile.toJWTPayload conf, httponly := true, secure := conf.sslEnabled
     samesite := "strict" },
    { name := timeExpiredKey, value := .plain (toString profile.exp), httponly := false, secure := conf.sslEnabled
      samesite := "strict" }]

def switchProject (conf : Conf) (env : Env) (authorization : Option String) (projectId : String) :
    Except Exn Response := do
  let profile ← getProfileFromHeader conf env authorization
  match switchedProfile conf env profile projectId with
  | .error _ => .error (.httpException 401 "Project switch failed")
  | .ok newProfile => .ok ⟨200, .profile newProfile, sessionCookies conf newProfile⟩

def switchRequest (cookies : String → Option Text) (authorization : Option String) (projectId : String) : Request where
  path := apiPrefix ++ "/switch_project/" ++ projectId
  cookies := cookies
  authorization := authorization

/-- `POST /switch_project/{project_id}`, where the middleware and the handler each read
    the clock and ask Keystone for themselves. -/
def postSwitchProject (conf : Conf) (env handlerEnv : Env) (cookies : String → Option Text)
    (authorization : Option String) (projectId : String) : Eff RevokedTable Exn Response :=
  validateToken conf env (switchRequest cookies authorization projectId)
    (fun _ => answer (switchProject conf handlerEnv authorization projectId))

/-! ## Logging out -/

theorem logout_ignored (cookies : String → Option Text) (authorization : Option String) :
    ignored (logoutRequest cookies authorization).path = true := by
  change ignored (apiPrefix ++ "/logout") = true
  decide

theorem invalidateToken_readOnly (conf : Conf) (env : Env) (keystoneToken : String) (region : Option String) :
    ReadOnly (invalidateToken conf env keystoneToken region) :=
  .bind (.lift _) fun _ => .lift _

/-- Without a profile in its state, a logout leaves the revoked tokens as they are,
    whatever Keystone answers. -/
theorem logout_stateless (conf : Conf) (env : Env) (body : Option LogoutBody) (table : RevokedTable) :
    logout conf env body {} table =
      (.ok ⟨200, .message "Logout OK", [deleteCookie conf.sessionName]⟩, table) := by
  simp only [logout, getJWTPayload, Option.map_none]
  cases body.bind LogoutBody.keystoneToken with
  | none => rfl
  | some keystoneToken =>
    cases given : truthy keystoneToken with
    | false => simp [given]
    | true =>
      simp only [given, if_true, bind_run, attempt_ignore, invalidateToken_readOnly conf env keystoneToken _ table]
      rfl

theorem postLogout_run (conf : Conf) (env : Env) (cookies : String → Option Text) (authorization : Option String)
    (body : Option LogoutBody) (table : RevokedTable) :
    postLogout conf env cookies authorization body table =
      (.ok ⟨200, .message "Logout OK", [deleteCookie conf.sessionName]⟩, table) := by
  rw [postLogout, validateToken_ignored _ (logout_ignored cookies authorization), logout_stateless]

/-- Every later request with a cookie of the session is refused, on any path that the
    middleware guards: whatever the table has gained, whenever the request comes,
    whatever Keystone answers and whatever handler is asked for. -/
def Ended (conf : Conf) (table : RevokedTable) (since : Int) (uuid : String) : Prop :=
  ∀ (later : RevokedTable) (env : Env) (session : Payload) (others : String → Option Text) (path : String)
    (authorization : Option String) (callNext : Handler), (∀ r ∈ table, r ∈ later) → since ≤ env.now →
    session.uuid = uuid → ignored path = false →
      ∃ response table', validateToken conf env ⟨path, carrying conf session others, authorization⟩ callNext later =
        (.ok response, table') ∧ response.status = 401

/-- A session that has not been revoked goes on: a renewed cookie gets through. -/
theorem not_ended {conf : Conf} {table : RevokedTable} {session : Payload}
    (unrevoked : checkToken table session.uuid = false) (since : Int) : ¬ Ended conf table since session.uuid := by
  intro ended
  -- a renewed cookie, presented the very second from which requests are to be refused
  obtain ⟨renewed, same, exp⟩ : ∃ renewed : Payload, renewed.uuid = session.uuid ∧ renewed.exp = since :=
    ⟨{ session with exp := since }, rfl, rfl⟩
  let request : Request := ⟨"/api/v1/instances", carrying conf renewed (fun _ => none), none⟩
  let callNext : Handler := fun _ => pure ⟨200, .content "instances", []⟩
  have guarded : ignored "/api/v1/instances" = false := by decide
  have present : sessionCookie conf request = some (renewed.toJWTPayload conf) := sessionCookie_carrying ..
  have lasting : ¬ renewed.exp < (willing since "uuid").now := by simp [willing, exp]
  have fresh : checkToken table renewed.uuid = false := by rw [same, unrevoked]
  obtain ⟨response, table', answered, status⟩ := ended table (willing since "uuid") renewed (fun _ => none)
    "/api/v1/instances" none callNext (fun r => id) (Int.le_refl _) same guarded
  have granted := validateToken_admits request callNext guarded present lasting rfl fresh
    (willing_generates conf since renewed "uuid")
  cases granted.symm.trans answered
  simp at status

/-- A logout ends the session exactly when it had been revoked before: the logout
    itself adds nothing. -/
theorem logout_ends_iff (conf : Conf) (env : Env) (session : Payload) (others : String → Option Text)
    (authorization : Option String) (body : Option LogoutBody) (table : RevokedTable) :
    ∃ response table',
      postLogout conf env (carrying conf session others) authorization body table = (.ok response, table') ∧
        response.body = .message "Logout OK" ∧
          (Ended conf table' env.now session.uuid ↔ checkToken table session.uuid = true) := by
  refine ⟨_, _, postLogout_run conf env _ authorization body table, rfl, ?_⟩
  constructor
  · intro ended
    by_contra unrevoked
    exact not_ended (by simpa using unrevoked) env.now ended
  · intro revoked later laterEnv again others path authorization callNext grows _ same guarded
    have present := sessionCookie_carrying conf again others path authorization
    obtain ⟨response, refused, status⟩ := validateToken_revoked ⟨path, _, authorization⟩ callNext guarded present
      (checkToken_mono grows (same ▸ revoked))
    exact ⟨response, later, refused, status⟩

/-- A session that logs out a minute after its login goes on. -/
theorem logout_not_ended :
    ¬ ∀ (conf : Conf) (env : Env) (session : Payload) (others : String → Option Text) (authorization : Option String)
      (body : Option LogoutBody) (table : RevokedTable) (response : Response) (table' : RevokedTable),
        postLogout conf env (carrying conf session others) authorization body table = (.ok response, table') →
          response.body = .message "Logout OK" → Ended conf table' env.now session.uuid := by
  intro always
  exact not_ended rfl _ (always registered (willing 60 "second-uuid") loginSession (fun _ => none) none none [] _ _
    (postLogout_run registered _ _ none none []) rfl)

/-! ## Switching projects -/

theorem switch_guarded (cookies : String → Option Text) (authorization : Option String) (projectId : String) :
    ignored (switchRequest cookies authorization projectId).path = false := by
  simp only [switchRequest, ignored, ignoreUrls, List.any_cons, List.any_nil, startswith, apiPrefix,
    String.toList_append]
  rfl

theorem patchProfile_payload {env : Env} {profile patched : Profile} (ok : patchProfile env profile = .ok patched) :
    patched.toPayload = profile.toPayload := by
  unfold patchProfile at ok
  cases tried : patchedProfile env profile with
  | error e =>
    rw [tried] at ok
    cases ok
  | ok same =>
    rw [tried] at ok
    cases ok
    unfold patchedProfile at tried
    cases endpoints : env.getEndpoints profile.region with
    | error e =>
      rw [endpoints] at tried
      cases tried
    | ok found =>
      cases projects : profileProjects env profile with
      | error e =>
        rw [endpoints, projects] at tried
        cases tried
      | ok pair =>
        rw [endpoints, projects] at tried
        cases tried
        rfl

/-- A switch names its new session by the random source. -/
theorem switchedProfile_uuid {conf : Conf} {env : Env} {profile newProfile : Profile} {projectId : String}
    (ok : switchedProfile conf env profile projectId = .ok newProfile) : newProfile.uuid = env.uuid4 := by
  unfold switchedProfile at ok
  cases token : env.projectScopeToken profile.keystoneToken profile.region projectId with
  | error e =>
    rw [token] at ok
    cases ok
  | ok projectScopeToken =>
    cases generated : generateProfile conf env projectScopeToken profile.region none none with
    | error e =>
      simp [token, generated, bind, Except.bind] at ok
    | ok profile' =>
      simp only [token, generated, bind, Except.bind] at ok
      have payload := (patchProfile_payload ok).trans (generateProfile_ok generated)
      rw [payload]
      rfl

theorem getProfileFromHeader_error {conf : Conf} {env : Env} {authorization : Option String} {e : Exn}
    (refused : getProfileFromHeader conf env authorization = .error e) : ∃ detail, e = .httpException 401 detail := by
  unfold getProfileFromHeader at refused
  split at refused
  · cases refused
    exact ⟨_, rfl⟩
  · split at refused
    · cases refused
    · cases refused
      exact ⟨_, rfl⟩

theorem switchProject_ok {conf : Conf} {env : Env} {authorization : Option String} {projectId : String}
    {response : Response} {table table' : RevokedTable}
    (answered : answer (switchProject conf env authorization projectId) table = (.ok response, table'))
    (granted : response.status = 200) :
    ∃ profile newProfile, switchedProfile conf env profile projectId = .ok newProfile ∧
      response = ⟨200, .profile newProfile, sessionCookies conf newProfile⟩ := by
  unfold switchProject at answered
  cases known : getProfileFromHeader conf env authorization with
  | error e =>
    obtain ⟨detail, rfl⟩ := getProfileFromHeader_error known
    simp only [known, bind, Except.bind] at answered
    cases answered
    simp at granted
  | ok profile =>
    cases switched : switchedProfile conf env profile projectId with
    | error e =>
      simp only [known, switched, bind, Except.bind] at answered
      cases answered
      simp at granted
    | ok newProfile =>
      simp only [known, switched, bind, Except.bind] at answered
      cases answered
      exact ⟨profile, newProfile, switched, rfl⟩

/-- The session of a switch is not one that was there before. -/
structure FreshUuid (conf : Conf) (env handlerEnv : Env) (request : Request) : Prop where
  reads : handlerEnv.uuid4 ≠ env.uuid4
  cookie : ∀ payloadStr token, sessionCookie conf request = some payloadStr →
    parseAccessToken conf env.now payloadStr = .ok token → token.uuid ≠ handlerEnv.uuid4

/-- The session cookie of a request, if it has one, is not due for renewal. -/
def NotDue (conf : Conf) (env : Env) (request : Request) : Prop :=
  ∀ payloadStr token, sessionCookie conf request = some payloadStr →
    parseAccessToken conf env.now payloadStr = .ok token →
      conf.accessTokenRenew < expOr conf env.now (some token.exp) - env.now

/-- The browser holds the session of a profile, and its expiry. -/
def Holds (conf : Conf) (response : Response) (profile : Profile) : Prop :=
  held response conf.sessionName = some (profile.toJWTPayload conf) ∧
    held response timeExpiredKey = some (.plain (toString profile.exp))

/-- The handler's own cookies are the ones that the browser holds, unless one name is
    used for both. -/
theorem holds_sessionCookies (conf : Conf) (profile : Profile) :
    Holds conf ⟨200, .profile profile, sessionCookies conf profile⟩ profile ↔ conf.sessionName ≠ timeExpiredKey := by
  by_cases same : conf.sessionName = timeExpiredKey
  · simp [Holds, held, sessionCookies, same, Profile.toJWTPayload, Payload.toJWTPayload]
  · have other : timeExpiredKey ≠ conf.sessionName := fun h => same h.symm
    simp [Holds, held, sessionCookies, same, other]

/-- A renewed token of another session takes the place of the handler's. -/
theorem not_holds_renewed (conf : Conf) {state : RequestState} (response : Response) {payload : Payload}
    {profile : Profile} (renewed : state.renewal = some payload) (other : payload.uuid ≠ profile.uuid) :
    ¬ Holds conf (withRenewal conf state response) profile := by
  intro holds
  have shown := holds.1
  by_cases same : conf.sessionName = timeExpiredKey
  · simp [withRenewal, renewed, held, renewalCookies, List.filter_append, same, Profile.toJWTPayload,
      Payload.toJWTPayload] at shown
  · have different : timeExpiredKey ≠ conf.sessionName := fun h => same h.symm
    simp only [withRenewal, renewed, held, renewalCookies, List.filter_append, different, Profile.toJWTPayload,
      beq_self_eq_true, beq_iff_eq, List.filter_cons_of_pos, List.filter_cons_of_neg, List.filter_nil,
      not_false_eq_true, List.getLast?_append, List.getLast?_singleton, Option.some_or, Option.map_some,
      Option.some.injEq, toJWTPayload_inj] at shown
    exact other (congrArg Payload.uuid shown)

theorem admitted_renewal {conf : Conf} {env handlerEnv : Env} {request : Request} {table : RevokedTable}
    {state : RequestState} (admitted : Admitted conf env request table state)
    (fresh : FreshUuid conf env handlerEnv request) :
    (NotDue conf env request ∧ state.renewal = none) ∨
      ¬ NotDue conf env request ∧ ∃ payload, state.renewal = some payload ∧ payload.uuid ≠ handlerEnv.uuid4 := by
  rcases admitted with ⟨absent, rfl⟩ | ⟨payloadStr, token, profile, present, parsed, _, generated, rfl⟩
  · exact .inl ⟨fun payloadStr token present => by simp [absent] at present, rfl⟩
  · have payload := generateProfile_ok generated
    have exp : profile.exp = expOr conf env.now (some token.exp) := congrArg Payload.exp payload
    have uuid : profile.uuid = orElse (some token.uuid) env.uuid4 := congrArg Payload.uuid payload
    by_cases due : profile.exp - env.now ≤ conf.accessTokenRenew
    · refine .inr ⟨fun notDue => ?_, _, if_pos due, ?_⟩
      · have later := notDue payloadStr token present parsed
        omega
      · change profile.uuid ≠ handlerEnv.uuid4
        rw [uuid]
        simp only [orElse]
        split
        · exact fresh.cookie payloadStr token present parsed
        · exact fun same => fresh.reads same.symm
    · refine .inl ⟨fun payloadStr' token' present' parsed' => ?_, by simp only [renewedPayload, due, if_false]⟩
      obtain rfl : payloadStr = payloadStr' := Option.some.inj (present.symm.trans present')
      obtain rfl : token = token' := Except.ok.inj (parsed.symm.trans parsed')
      omega

/-- After a successful switch the browser holds the session of the new profile
    exactly when the cookie that came with the request is not due for renewal (and
    the session cookie has a name of its own). -/
theorem switch_kept_iff {conf : Conf} {env handlerEnv : Env} {cookies : String → Option Text}
    {authorization : Option String} {projectId : String} {table table' : RevokedTable} {response : Response}
    (answered : postSwitchProject conf env handlerEnv cookies authorization projectId table = (.ok response, table'))
    (granted : response.status = 200)
    (fresh : FreshUuid conf env handlerEnv (switchRequest cookies authorization projectId)) :
    ∃ newProfile, response.body = .profile newProfile ∧
      (Holds conf response newProfile ↔ conf.sessionName ≠ timeExpiredKey ∧
        NotDue conf env (switchRequest cookies authorization projectId)) := by
  have guarded := switch_guarded cookies authorization projectId
  obtain ⟨state, inner, admitted, called, rfl⟩ := validateToken_ok guarded answered (by simp [granted])
  obtain ⟨profile, newProfile, switched, rfl⟩ := switchProject_ok called (by simpa using granted)
  have uuid := switchedProfile_uuid switched
  rcases admitted_renewal admitted fresh with ⟨notDue, none⟩ | ⟨due, payload, renewed, other⟩
  · refine ⟨newProfile, by simp [withRenewal, none], ?_⟩
    simp only [withRenewal, none, holds_sessionCookies, notDue, and_true]
  · refine ⟨newProfile, by simp [withRenewal, renewed], ?_⟩
    have lost := not_holds_renewed conf ⟨200, .profile newProfile, sessionCookies conf newProfile⟩ renewed (uuid ▸ other)
    simp [lost, due]

/-- A switch with the cookie of a login at 0, at a later time. -/
def switchAt (now : Int) : Except Exn Response × RevokedTable :=
  postSwitchProject registered (willing now "second-uuid") (willing now "third-uuid")
    (carrying registered loginSession (fun _ => none)) (some "keystone-token") "other" []

def otherProfile (now : Int) : Profile :=
  { willingProfile registered now ⟨"scoped-other", "RegionOne", 0, "third-uuid"⟩ "third-uuid" with
    endpoints := some []
    projects := some [("project", ⟨"web", true, none, ""⟩)] }

/-- What the switch answers while the cookie lasts: the answer of the handler, and the
    cookies of a renewal when there is one. -/
theorem switchAt_run (now : Int) (lasting : ¬ 3600 < now) : switchAt now =
    (.ok (withRenewal registered
      { renewal := renewedPayload registered now (willingProfile registered now loginSession "second-uuid") }
      ⟨200, .profile (otherProfile now), sessionCookies registered (otherProfile now)⟩), []) := by
  have guarded := switch_guarded (carrying registered loginSession (fun _ => none)) (some "keystone-token") "other"
  have fresh : checkToken [] loginSession.uuid = false := rfl
  have present := sessionCookie_carrying registered loginSession (fun _ => none)
    (apiPrefix ++ "/switch_project/" ++ "other") (some "keystone-token")
  exact validateToken_admits _ _ guarded present lasting rfl fresh
    (willing_generates registered now loginSession "second-uuid")

theorem switchAt_fresh (now : Int) : FreshUuid registered (willing now "second-uuid") (willing now "third-uuid")
    (switchRequest (carrying registered loginSession (fun _ => none)) (some "keystone-token") "other") where
  reads := by simp [willing]
  cookie payloadStr token present parsed := by
    rw [carrying_session present parsed]
    simp [willing, loginSession]

/-- A minute after the login the switch is kept. -/
theorem early_switch_kept : ∃ response newProfile, switchAt 60 = (.ok response, []) ∧
    response.body = .profile newProfile ∧ Holds registered response newProfile := by
  have answered := switchAt_run 60 (by decide)
  obtain ⟨newProfile, body, kept⟩ := switch_kept_iff answered (by simp) (switchAt_fresh 60)
  refine ⟨_, newProfile, answered, body, kept.mpr ⟨by decide, ?_⟩⟩
  intro payloadStr token present parsed
  rw [carrying_session present parsed]
  decide

/-- Half an hour before the session ends it is renewed, and the switch is undone. -/
theorem late_switch_undone :
    ¬ ∀ (conf : Conf) (env handlerEnv : Env) (cookies : String → Option Text) (authorization : Option String)
      (projectId : String) (table table' : RevokedTable) (response : Response) (newProfile : Profile),
        postSwitchProject conf env handlerEnv cookies authorization projectId table = (.ok response, table') →
          response.status = 200 → response.body = .profile newProfile → Holds conf response newProfile := by
  intro always
  have answered := switchAt_run 1800 (by decide)
  have renewed : renewedPayload registered 1800 (willingProfile registered 1800 loginSession "second-uuid") =
      some { loginSession with exp := 5400 } := rfl
  refine not_holds_renewed registered _ renewed ?_
    (always _ _ _ _ _ _ _ _ _ (otherProfile 1800) answered (by simp) rfl)
  decide

end Skyline.Login
