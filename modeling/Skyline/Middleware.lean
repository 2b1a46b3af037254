import Skyline.Session

/-!
The middleware that every request goes through (`validate_token` in `main.py`) and
the `Set-Cookie` headers of its response. The middleware lets some paths through
untouched, refuses a cookie that does not verify, and after the handler has
answered appends the cookies of a renewed token.
-/
namespace Skyline.Middleware
open Skyline.Python Skyline.Effects Skyline.Effects.Eff Skyline.Session

/-! ## Responses and their cookies -/

def apiPrefix : String := "/api/v1"
def timeExpiredKey : String := "time_expired"
def errMsgTokenRevoked : String := "The token has revoked."
def errMsgTokenExpired : String := "The token has expired."

/-- A `Set-Cookie` header, for the path `/`. -/
structure SetCookie where
  name : String
  value : Text
  maxAge : Option Int := none
  httponly : Bool := false
  secure : Bool := false
  samesite : String := "lax"
  deriving DecidableEq, Repr

def deleteCookie (name : String) : SetCookie := { name := name, value := .plain "", maxAge := some 0 }

inductive Body
  | detail (detail : String)
  | message (message : String)
  | profile (profile : Profile)
  | content (content : String)
  deriving DecidableEq, Repr

structure Response where
  status : Nat
  body : Body
  cookies : List SetCookie
  deriving DecidableEq, Repr

/-- What the framework makes of a handler's result. -/
def answer : Except Exn Response → Eff RevokedTable Exn Response
  | .ok response => pure response
  | .error (.httpException statusCode detail) => pure ⟨statusCode, .detail detail, []⟩
  | .error e => raise e

/-- The value of a cookie that a browser holds after a response: its last
    `Set-Cookie` wins. -/
def held (response : Response) (name : String) : Option Text :=
  ((response.cookies.filter (fun c => c.name == name)).getLast?).map SetCookie.value

/-! ## Requests -/

structure Request where
  path : String
  cookies : String → Option Text
  authorization : Option String := none

/-- What the middleware leaves in `request.state` for the handler, and for itself: the
    profile of the session, and the payload of a token that renews it. -/
structure RequestState where
  profile : Option Profile := none
  renewal : Option Payload := none

/-- The cookies of a browser that holds a session, among others. -/
def carrying (conf : Conf) (session : Payload) (others : String → Option Text) (name : String) : Option Text :=
  if name = conf.sessionName then some (session.toJWTPayload conf) else others name

/-- A handler, with everything that is behind the middleware. -/
abbrev Handler := RequestState → Eff RevokedTable Exn Response

/-! ## The middleware -/

def ignoreUrls : List String :=
  [apiPrefix ++ "/login", apiPrefix ++ "/logout", apiPrefix ++ "/signup", apiPrefix ++ "/websso", "/static", "/docs",
    apiPrefix ++ "/openapi.json", "/favicon.ico", apiPrefix ++ "/sso", apiPrefix ++ "/contrib/keystone_endpoints",
    apiPrefix ++ "/contrib/regions", apiPrefix ++ "/limits"]

/-- Whether a path starts with one that is ignored. -/
def ignored (path : String) : Bool := ignoreUrls.any (startswith path)

def sessionCookie (conf : Conf) (request : Request) : Option Text :=
  (request.cookies conf.sessionName).filter Text.truthy

/-- The payload that renews a session that is about to expire. -/
def renewedPayload (conf : Conf) (currentTime : Int) (profile : Profile) : Option Payload :=
  if profile.exp - currentTime ≤ conf.accessTokenRenew then
    some ⟨profile.keystoneToken, profile.region, currentTime + conf.accessTokenExpire, profile.uuid⟩
  else none

def unauthorized (detail : String) : Response := ⟨401, .detail detail, []⟩

/-- The `try` part of the middleware; `.error` is a response that it returns at once. -/
def authenticate (conf : Conf) (env : Env) (payloadStr : Text) :
    Eff RevokedTable Exn (Except Response RequestState) := do
  let token ← lift (parseAccessToken conf env.now payloadStr)
  lift env.database
  let revoked ← gets (fun table => checkToken table token.uuid)
  if revoked then pure (.error (unauthorized errMsgTokenRevoked))
  else do
    let profile ← lift (generateProfileByToken conf env token)
    pure (.ok { profile := some profile, renewal := renewedPayload conf env.now profile })

/-- The `except` parts of the middleware, in their order. -/
def refusal : Exn → Response
  | .expiredSignatureError => unauthorized errMsgTokenExpired
  | .jwtError _ => unauthorized "Invalid token"
  | _ => unauthorized "Session expired or invalid. Please log in again."

def renewalCookies (conf : Conf) (payload : Payload) : List SetCookie :=
  [{ name := conf.sessionName, value := payload.toJWTPayload conf },
    { name := timeExpiredKey, value := .plain (toString payload.exp) }]

def withRenewal (conf : Conf) (state : RequestState) (response : Response) : Response :=
  match state.renewal with
  | some payload => { response with cookies := response.cookies ++ renewalCookies conf payload }
  | none => response

/-- What the middleware makes of the session cookie. -/
def admission (conf : Conf) (env : Env) (request : Request) : Eff RevokedTable Exn (Except Response RequestState) :=
  match sessionCookie conf request with
  | some payloadStr => attempt (authenticate conf env payloadStr) (fun e => pure (.error (refusal e)))
  | none => pure (.ok {})

def validateToken (conf : Conf) (env : Env) (request : Request) (callNext : Handler) : Eff RevokedTable Exn Response :=
  if ignored request.path then callNext {}
  else do
    let admitted ← admission conf env request
    match admitted with
    | .error response => pure response
    | .ok state => do
      let response ← callNext state
      pure (withRenewal conf state response)

/-! ## What the middleware decides -/

variable {conf : Conf} {env : Env} {request : Request} {callNext : Handler} {table : RevokedTable}

theorem refusal_unauthorized (e : Exn) : ∃ detail, refusal e = unauthorized detail := by
  cases e <;> exact ⟨_, rfl⟩

theorem refusal_status (e : Exn) : (refusal e).status = 401 := by
  obtain ⟨detail, same⟩ := refusal_unauthorized e
  rw [same]
  rfl

theorem sessionCookie_carrying (conf : Conf) (session : Payload) (others : String → Option Text) (path : String)
    (authorization : Option String) :
    sessionCookie conf ⟨path, carrying conf session others, authorization⟩ = some (session.toJWTPayload conf) := by
  simp [sessionCookie, carrying, Payload.toJWTPayload, Text.truthy, Option.filter]

theorem carrying_session {session token : Payload} {others : String → Option Text} {path : String}
    {authorization : Option String} {payloadStr : Text} {now : Int}
    (present : sessionCookie conf ⟨path, carrying conf session others, authorization⟩ = some payloadStr)
    (parsed : parseAccessToken conf now payloadStr = .ok token) : token = session := by
  rw [sessionCookie_carrying, Option.some.injEq] at present
  subst present
  rw [parseAccessToken_toJWTPayload] at parsed
  split at parsed
  · cases parsed
  · exact (Except.ok.inj parsed).symm

theorem authenticate_readOnly (payloadStr : Text) : ReadOnly (authenticate conf env payloadStr) :=
  .bind (.lift _) fun _ => .bind (.lift _) fun _ => .bind (.gets _) fun _ =>
    .ite (.pure _) (.bind (.lift _) fun _ => .pure _)

theorem admission_readOnly : ReadOnly (admission conf env request) := by
  unfold admission
  split
  · exact .attempt (authenticate_readOnly _) fun _ => .pure _
  · exact .pure _

theorem authenticate_refused {payloadStr : Text} {response : Response} {table' : RevokedTable}
    (refused : authenticate conf env payloadStr table = (.ok (.error response), table')) :
    ∃ detail, response = unauthorized detail := by
  obtain ⟨token, s₁, parsed, rest₁⟩ := of_bind_ok refused
  obtain ⟨_, s₂, up, rest₂⟩ := of_bind_ok rest₁
  obtain ⟨revoked, s₃, checked, rest₃⟩ := of_bind_ok rest₂
  cases revoked with
  | true =>
    cases rest₃
    exact ⟨_, rfl⟩
  | false =>
    obtain ⟨profile, s₄, generated, rest₄⟩ := of_bind_ok rest₃
    cases rest₄

theorem authenticate_ok {payloadStr : Text} {state : RequestState} {table' : RevokedTable}
    (admitted : authenticate conf env payloadStr table = (.ok (.ok state), table')) :
    ∃ token profile, parseAccessToken conf env.now payloadStr = .ok token ∧ env.database = .ok () ∧
      checkToken table token.uuid = false ∧ generateProfileByToken conf env token = .ok profile ∧
      state = { profile := some profile, renewal := renewedPayload conf env.now profile } := by
  obtain ⟨token, s₁, parsed, rest₁⟩ := of_bind_ok admitted
  obtain ⟨_, s₂, up, rest₂⟩ := of_bind_ok rest₁
  obtain ⟨revoked, s₃, checked, rest₃⟩ := of_bind_ok rest₂
  obtain ⟨tokenIs, rfl⟩ := of_lift_ok parsed
  obtain ⟨connected, rfl⟩ := of_lift_ok up
  obtain ⟨checkedIs, rfl⟩ := of_gets_ok checked
  cases revoked with
  | true => cases rest₃
  | false =>
    obtain ⟨profile, s₄, generated, rest₄⟩ := of_bind_ok rest₃
    cases rest₄
    exact ⟨token, profile, tokenIs, connected, checkedIs, (of_lift_ok generated).1, rfl⟩

theorem admission_refused {response : Response} {table' : RevokedTable}
    (refused : admission conf env request table = (.ok (.error response), table')) :
    ∃ detail, response = unauthorized detail := by
  unfold admission at refused
  cases present : sessionCookie conf request with
  | some payloadStr =>
    rw [present] at refused
    rcases of_attempt_ok refused with body | ⟨e, s, _, handled⟩
    · exact authenticate_refused body
    · cases handled
      exact refusal_unauthorized e
  | none =>
    rw [present] at refused
    cases refused

/-- What the middleware knows of a request that it lets through. -/
def Admitted (conf : Conf) (env : Env) (request : Request) (table : RevokedTable) (state : RequestState) : Prop :=
  sessionCookie conf request = none ∧ state = {} ∨
    ∃ payloadStr token profile, sessionCookie conf request = some payloadStr ∧
      parseAccessToken conf env.now payloadStr = .ok token ∧ checkToken table token.uuid = false ∧
      generateProfileByToken conf env token = .ok profile ∧
      state = { profile := some profile, renewal := renewedPayload conf env.now profile }

theorem admission_ok {state : RequestState} {table' : RevokedTable}
    (admitted : admission conf env request table = (.ok (.ok state), table')) : Admitted conf env request table state := by
  unfold admission at admitted
  cases present : sessionCookie conf request with
  | some payloadStr =>
    rw [present] at admitted
    rcases of_attempt_ok admitted with body | ⟨e, s, _, handled⟩
    · obtain ⟨token, profile, parsed, _, fresh, generated, same⟩ := authenticate_ok body
      exact .inr ⟨payloadStr, token, profile, present, parsed, fresh, generated, same⟩
    · cases handled
  | none =>
    rw [present] at admitted
    cases admitted
    exact .inl ⟨present, rfl⟩

theorem authenticate_revoked (conf : Conf) (env : Env) {session : Payload} (revoked : checkToken table session.uuid = true) :
    ∃ response, (attempt (authenticate conf env (session.toJWTPayload conf)) fun e => pure (.error (refusal e))) table =
      (.ok (.error response), table) ∧ response.status = 401 := by
  rw [attempt_run]
  unfold authenticate
  by_cases expired : session.exp < env.now
  · refine ⟨refusal .expiredSignatureError, ?_, rfl⟩
    rw [bind_run, parseAccessToken_toJWTPayload]
    simp [expired]
  · cases up : env.database with
    | error e =>
      refine ⟨refusal e, ?_, refusal_status e⟩
      simp [bind_run, parseAccessToken_toJWTPayload, expired]
    | ok =>
      refine ⟨unauthorized errMsgTokenRevoked, ?_, rfl⟩
      simp [bind_run, parseAccessToken_toJWTPayload, expired, revoked]

/-- A request with a cookie of a revoked session is refused, outside the ignored
    paths. -/
theorem validateToken_revoked (request : Request) (callNext : Handler) {session : Payload} (guarded : ignored request.path = false)
    (present : sessionCookie conf request = some (session.toJWTPayload conf))
    (revoked : checkToken table session.uuid = true) :
    ∃ response, validateToken conf env request callNext table = (.ok response, table) ∧ response.status = 401 := by
  obtain ⟨response, refused, status⟩ := authenticate_revoked conf env revoked
  refine ⟨response, ?_, status⟩
  simp [validateToken, guarded, admission, present, bind_run, refused]

theorem validateToken_ignored (request : Request) (free : ignored request.path = true) :
    validateToken conf env request callNext = callNext {} := by
  simp [validateToken, free]

/-- A request that is answered past the middleware has been admitted, and its
    response carries the cookies of the renewal. -/
theorem validateToken_ok {response : Response} {table' : RevokedTable} (guarded : ignored request.path = false)
    (answered : validateToken conf env request callNext table = (.ok response, table'))
    (granted : response.status ≠ 401) :
    ∃ state inner, Admitted conf env request table state ∧ callNext state table = (.ok inner, table') ∧
      response = withRenewal conf state inner := by
  simp only [validateToken, guarded, Bool.false_eq_true, if_false] at answered
  obtain ⟨result, s, admitted, rest⟩ := of_bind_ok answered
  obtain rfl : s = table := admission_readOnly.same admitted
  cases result with
  | error refused =>
    cases rest
    obtain ⟨detail, rfl⟩ := admission_refused admitted
    exact absurd rfl granted
  | ok state =>
    obtain ⟨inner, t, called, wrapped⟩ := of_bind_ok rest
    cases wrapped
    exact ⟨state, inner, admission_ok admitted, called, rfl⟩

/-- A cookie that verifies, of a session that is not revoked and that Keystone knows,
    is admitted. -/
theorem authenticate_admits {session : Payload} {profile : Profile} (lasting : ¬ session.exp < env.now)
    (up : env.database = .ok ()) (fresh : checkToken table session.uuid = false)
    (generated : generateProfileByToken conf env session = .ok profile) :
    authenticate conf env (session.toJWTPayload conf) table =
      (.ok (.ok { profile := some profile, renewal := renewedPayload conf env.now profile }), table) := by
  simp [authenticate, bind_run, parseAccessToken_toJWTPayload, lasting, up, fresh, generated]

theorem validateToken_admits (request : Request) (callNext : Handler) {session : Payload} {profile : Profile}
    (guarded : ignored request.path = false)
    (present : sessionCookie conf request = some (session.toJWTPayload conf)) (lasting : ¬ session.exp < env.now)
    (up : env.database = .ok ()) (fresh : checkToken table session.uuid = false)
    (generated : generateProfileByToken conf env session = .ok profile) :
    validateToken conf env request callNext table =
      (callNext { profile := some profile, renewal := renewedPayload conf env.now profile } >>= fun response =>
        pure (withRenewal conf { profile := some profile, renewal := renewedPayload conf env.now profile } response))
          table := by
  simp [validateToken, guarded, admission, present, bind_run, attempt_run, authenticate_admits lasting up fresh generated]

@[simp] theorem withRenewal_status (conf : Conf) (state : RequestState) (response : Response) :
    (withRenewal conf state response).status = response.status := by
  unfold withRenewal
  split <;> rfl

end Skyline.Middleware
