import Skyline.Raising
import Skyline.SessionCookie

/-!
How long a session lasts. A cookie says until when it is good, and the middleware renews
it where it is used near its end: a session that is used often enough goes on for as long
as Keystone stands by its token, and one that is left alone ends.
-/
namespace Skyline.SlidingSession
open Skyline.Python Skyline.Effects Skyline.Effects.Eff Skyline.Raising Skyline.Runs Skyline.Session Skyline.Middleware
open Skyline.Login
open Skyline.SessionCookie (Deployment Keystone Credential login received)

/-! ## Leases -/

/-- Until when something is held that is prolonged to a whole term where it is used in the
    margin before its end. -/
def prolonged (term margin now expires : Int) : Int := if expires - now ≤ margin then now + term else expires

section
variable {term margin now expires last : Int}

/-- After a use, the lease outlasts the margin. -/
theorem margin_le_prolonged (short : margin ≤ term) : now + margin ≤ prolonged term margin now expires := by
  unfold prolonged
  split <;> omega

end

/-! ## Visits of a browser -/

/-- A request of the browser, with what the middleware is answered. -/
structure Visit where
  path : String
  /-- Behind the middleware, a handler that sets no cookie. -/
  handler : RequestState → Eff RevokedTable Exn (Nat × Body)
  others : String → Option Text
  authorization : Option String
  env : Env

/-- A browser that makes its requests one at a time. -/
structure State where
  browser : Option SetCookie
  /-- When it was answered last. -/
  last : Int
  table : RevokedTable

def Visit.answers (v : Visit) : Handler := fun state => do
  let (status, body) ← v.handler state
  pure ⟨status, body, []⟩

def State.cookies (conf : Conf) (s : State) (others : String → Option Text) (name : String) : Option Text :=
  if name = conf.sessionName then s.browser.map SetCookie.value else others name

def State.request (conf : Conf) (s : State) (v : Visit) : Request := ⟨v.path, s.cookies conf v.others, v.authorization⟩

def visited (conf : Conf) (s : State) (v : Visit) : Response × State :=
  match validateToken conf v.env (s.request conf v) v.answers s.table with
  | (.ok response, table) => (response, ⟨received conf s.browser response.cookies, v.env.now, table⟩)
  | (.error _, table) => (SessionCookie.serverError, { s with table })

/-- The visits of a browser after its login. -/
def visits (conf : Conf) (s : State) : System State Visit Response where
  init := s
  step s v := some (visited conf s v)

/-- The browser once the answer to its login has come. -/
def entered (dep : Deployment) (env : Env) (response : Response) (table : RevokedTable) : State :=
  ⟨received dep.toConf none response.cookies, env.now, table⟩

/-! ## What a visit does to the session -/

section
variable {conf : Conf} {s : State} {v : Visit} {session : Payload} {expires : Int}

/-- The browser has the cookie of the session, which is good until then. -/
def Holds (conf : Conf) (session : Payload) (expires : Int) (browser : Option SetCookie) : Prop :=
  ∃ c, browser = some c ∧ c.value = ({ session with exp := expires } : Payload).toJWTPayload conf

theorem received_pair (own : conf.sessionName ≠ timeExpiredKey) {first second : SetCookie} (session : first.name = conf.sessionName)
    (expired : second.name = timeExpiredKey) (lasting : first.maxAge = none) (browser : Option SetCookie) :
    received conf browser [first, second] = some first := by
  simp [received, session, expired, lasting, own.symm]

theorem request_carrying (holds : Holds conf session expires s.browser) :
    s.request conf v = ⟨v.path, carrying conf { session with exp := expires } v.others, v.authorization⟩ := by
  obtain ⟨c, held, value⟩ := holds
  have cookies : s.cookies conf v.others = carrying conf { session with exp := expires } v.others := by
    funext name
    simp [State.cookies, carrying, held, value]
  rw [State.request, cookies]

/-- Keystone stands by the token of the session, and the database can be asked. -/
structure Vouched (conf : Conf) (env : Env) (session : Payload) : Prop where
  database : env.database = .ok ()
  token : ∀ exp, ∃ profile, generateProfileByToken conf env { session with exp } = .ok profile

/-- A visit before the session ends is answered by its handler, for the user of the session,
    and prolongs the session where it is near its end. -/
theorem visited_served (own : conf.sessionName ≠ timeExpiredKey) (named : session.uuid ≠ "")
    (holds : Holds conf session expires s.browser) (proper : expires ≠ 0) (guarded : ignored v.path = false)
    (live : v.env.now ≤ expires) (vouched : Vouched conf v.env session) (fresh : checkToken s.table session.uuid = false) :
    ∃ state profile, state.profile = some profile ∧ profile.toPayload = { session with exp := expires } ∧
      ∀ status body table, v.handler state s.table = (.ok (status, body), table) →
        (visited conf s v).1.status = status ∧ (visited conf s v).1.body = body ∧
          (visited conf s v).2.last = v.env.now ∧ (visited conf s v).2.table = table ∧
          Holds conf session (prolonged conf.accessTokenExpire conf.accessTokenRenew v.env.now expires)
            (visited conf s v).2.browser := by
  obtain ⟨profile, generated⟩ := vouched.token expires
  have payload : profile.toPayload = { session with exp := expires } := by
    rw [generateProfile_ok generated]
    simp [expOr, proper, orElse, truthy, named]
  refine ⟨⟨some profile, renewedPayload conf v.env.now profile⟩, profile, rfl, payload, fun status body table answered => ?_⟩
  have exp : profile.exp = expires := congrArg Payload.exp payload
  have present := sessionCookie_carrying conf { session with exp := expires } v.others v.path v.authorization
  have served : validateToken conf v.env (s.request conf v) v.answers s.table =
      (.ok (withRenewal conf ⟨some profile, renewedPayload conf v.env.now profile⟩ ⟨status, body, []⟩), table) := by
    rw [request_carrying holds, validateToken_admits _ v.answers guarded present (Int.not_lt.mpr live) vouched.database fresh
      generated]
    simp [Visit.answers, bind_run, answered]
  rw [visited, served]
  by_cases near : expires - v.env.now ≤ conf.accessTokenRenew
  · have renewal : renewedPayload conf v.env.now profile = some { session with exp := v.env.now + conf.accessTokenExpire } := by
      rw [renewedPayload, exp, if_pos near, payload]
    rw [renewal, prolonged, if_pos near]
    refine ⟨rfl, rfl, rfl, rfl, _, received_pair own rfl rfl rfl s.browser, rfl⟩
  · have renewal : renewedPayload conf v.env.now profile = none := by
      rw [renewedPayload, exp, if_neg near]
    rw [renewal, prolonged, if_neg near]
    exact ⟨rfl, rfl, rfl, rfl, holds⟩

/-- What sets a cookie in the answer to a visit is a renewal. -/
theorem visit_cookies {request : Request} {response : Response} {table table' : RevokedTable}
    (answered : validateToken conf v.env request v.answers table = (.ok response, table')) : response.cookies = [] ∨
      ∃ payload, payload.exp = v.env.now + conf.accessTokenExpire ∧ response.cookies = renewalCookies conf payload := by
  have plain {state : RequestState} {inner : Response} {t t' : RevokedTable} (called : v.answers state t = (.ok inner, t')) :
      inner.cookies = [] := by
    obtain ⟨_, _, _, rest⟩ := of_bind_ok called
    cases rest
    rfl
  by_cases free : ignored request.path = true
  · rw [validateToken_ignored request free] at answered
    exact .inl (plain answered)
  · simp only [validateToken, free, Bool.false_eq_true, if_false] at answered
    obtain ⟨result, t, admitted, rest⟩ := of_bind_ok answered
    cases result with
    | error refused =>
      cases rest
      obtain ⟨detail, rfl⟩ := admission_refused admitted
      exact .inl rfl
    | ok state =>
      obtain ⟨inner, t', called, wrapped⟩ := of_bind_ok rest
      cases wrapped
      have renewal : ∀ payload ∈ state.renewal, payload.exp = v.env.now + conf.accessTokenExpire := by
        rcases admission_ok admitted with ⟨-, rfl⟩ | ⟨_, _, profile, _, _, _, _, rfl⟩
        · exact fun _ renewed => by cases renewed
        · intro payload renewed
          simp only [renewedPayload] at renewed
          split at renewed
          · cases renewed
            rfl
          · cases renewed
      cases renewed : state.renewal with
      | none => exact .inl (by simp [withRenewal, renewed, plain called])
      | some payload => exact .inr ⟨payload, renewal payload renewed, by simp [withRenewal, renewed, plain called]⟩

/-- The browser has a session that is good for a term after the last answer at most. -/
def Lasting (conf : Conf) (s : State) : Prop :=
  ∃ c payload, s.browser = some c ∧ c.value = Payload.toJWTPayload conf payload ∧
    payload.exp ≤ s.last + conf.accessTokenExpire

theorem visited_lasting (own : conf.sessionName ≠ timeExpiredKey) (lasting : Lasting conf s) (later : s.last ≤ v.env.now) :
    Lasting conf (visited conf s v).2 := by
  unfold visited
  split
  · next response table served =>
    rcases visit_cookies served with none | ⟨payload, exp, renewed⟩
    · obtain ⟨c, payload, held, value, exp⟩ := lasting
      refine ⟨c, payload, by rw [none]; exact held, value, ?_⟩
      show payload.exp ≤ v.env.now + conf.accessTokenExpire
      omega
    · refine ⟨_, payload, by rw [renewed]; exact received_pair own rfl rfl rfl s.browser, rfl, ?_⟩
      exact Int.le_of_eq exp
  · exact lasting

/-- A visit after the session has ended is refused. -/
theorem visited_refused (lasting : Lasting conf s) (guarded : ignored v.path = false)
    (idle : s.last + conf.accessTokenExpire < v.env.now) : (visited conf s v).1.status = 401 ∧
      (visited conf s v).2.browser = s.browser := by
  obtain ⟨c, payload, held, value, exp⟩ := lasting
  have present : sessionCookie conf (s.request conf v) = some (payload.toJWTPayload conf) := by
    simp [sessionCookie, State.request, State.cookies, held, value, Payload.toJWTPayload, Text.truthy, Option.filter]
  have expired : parseAccessToken conf v.env.now (payload.toJWTPayload conf) = .error .expiredSignatureError := by
    rw [parseAccessToken_toJWTPayload, if_pos (by omega)]
  have served : validateToken conf v.env (s.request conf v) v.answers s.table =
      (.ok (refusal .expiredSignatureError), s.table) := by
    have refused : attempt (authenticate conf v.env (payload.toJWTPayload conf)) (fun e => pure (.error (refusal e))) s.table =
        (.ok (.error (refusal .expiredSignatureError)), s.table) := by
      simp [attempt_run, authenticate, bind_run, expired]
    have guarded : ignored (s.request conf v).path = false := guarded
    simp [validateToken, guarded, admission, present, bind_run, refused]
  rw [visited, served]
  exact ⟨rfl, rfl⟩

end

/-! ## Sessions over their visits -/

/-- A visit soon after the last answer, to a handler that answers and does not end the session. -/
structure Prompt (conf : Conf) (session : Payload) (s : State) (v : Visit) : Prop where
  guarded : ignored v.path = false
  later : s.last ≤ v.env.now
  soon : v.env.now ≤ s.last + conf.accessTokenRenew
  vouched : Vouched conf v.env session
  answers : ∀ state table, checkToken table session.uuid = false →
    ∃ status body after, v.handler state table = (.ok (status, body), after) ∧ checkToken after session.uuid = false

/-- The visit is answered by its handler, for the user of the session. -/
def Served (conf : Conf) (session : Payload) (s : State) (v : Visit) : Prop :=
  ∃ (state : RequestState) (profile : Profile) (status : Nat) (body : Body) (after : RevokedTable),
    state.profile = some profile ∧ profile.toPayload = { session with exp := profile.exp } ∧
      v.handler state s.table = (.ok (status, body), after) ∧
      (visited conf s v).1.status = status ∧ (visited conf s v).1.body = body

/-- A session that outlasts the margin for renewal. -/
structure Kept (conf : Conf) (session : Payload) (s : State) : Prop where
  started : 0 < s.last
  fresh : checkToken s.table session.uuid = false
  holds : ∃ expires, s.last ≤ expires ∧ s.last + conf.accessTokenRenew ≤ expires ∧ Holds conf session expires s.browser

section
variable {conf : Conf} {s : State} {v : Visit} {session : Payload}

theorem prompt_served (own : conf.sessionName ≠ timeExpiredKey) (named : session.uuid ≠ "")
    (short : conf.accessTokenRenew ≤ conf.accessTokenExpire) (lasts : 0 ≤ conf.accessTokenExpire)
    (kept : Kept conf session s) (prompt : Prompt conf session s v) :
    Served conf session s v ∧ Kept conf session (visited conf s v).2 := by
  obtain ⟨expires, ahead, enough, holds⟩ := kept.holds
  have started := kept.started
  have later := prompt.later
  have live : v.env.now ≤ expires := Int.le_trans prompt.soon enough
  obtain ⟨state, profile, known, payload, served⟩ := visited_served own named holds (by omega) prompt.guarded live
    prompt.vouched kept.fresh
  obtain ⟨status, body, after, answered, fresh⟩ := prompt.answers state s.table kept.fresh
  obtain ⟨statusIs, bodyIs, last, table, held⟩ := served status body after answered
  refine ⟨⟨state, profile, status, body, after, known, by rw [payload], answered, statusIs, bodyIs⟩, ?_, ?_, _, ?_, ?_, held⟩
  · omega
  · rw [table]
    exact fresh
  · rw [last, prolonged]
    split <;> omega
  · rw [last]
    exact margin_le_prolonged short

theorem login_opens {dep : Deployment} {env : Env} {keystone : Keystone} {credential : Credential} {response : Response}
    {table table' : RevokedTable} (opened : login dep env keystone credential table = (.ok response, table')) :
    table' = table ∧ ∃ profile : Profile, response.body = .profile profile ∧
      response.cookies = sessionCookies dep.toConf profile ∧ profile.exp = env.now + dep.accessTokenExpire ∧
      profile.uuid = env.uuid4 := by
  obtain ⟨profile, s₁, made, rest₁⟩ := of_bind_ok opened
  obtain ⟨_, s₂, ready, rest₂⟩ := of_bind_ok rest₁
  obtain ⟨_, s₃, recorded, rest₃⟩ := of_bind_ok rest₂
  obtain ⟨-, rfl⟩ := of_lift_ok ready
  obtain ⟨-, rfl⟩ := of_lift_ok recorded
  cases rest₃
  rcases of_attempt_ok made with body | ⟨e, s, _, handled⟩
  · obtain ⟨signedIn, rfl⟩ := of_lift_ok body
    obtain ⟨_, -, scope⟩ := bind_ok_iff.mp signedIn
    obtain ⟨first, -, rest⟩ := bind_ok_iff.mp scope
    obtain ⟨rescoped, -, rest⟩ := bind_ok_iff.mp rest
    obtain ⟨unpatched, generated, patched⟩ := bind_ok_iff.mp rest
    have payload := (patchProfile_payload patched).trans (generateProfile_ok generated)
    exact ⟨rfl, profile, rfl, rfl, congrArg Payload.exp payload, congrArg Payload.uuid payload⟩
  · cases handled

end

/-- From a login on, every visit of a browser is served that is answered soon after the visit
    before it was, however long the session has been going on; and a visit is refused that
    comes a whole term after the last answer. -/
theorem session_slides (dep : Deployment) (env : Env) (keystone : Keystone) (credential : Credential) (response : Response)
    (table table' : RevokedTable) (own : dep.sessionName ≠ timeExpiredKey) (short : dep.accessTokenRenew ≤ dep.accessTokenExpire)
    (lasts : 0 ≤ dep.accessTokenExpire) (started : 0 < env.now) (named : env.uuid4 ≠ "")
    (fresh : checkToken table env.uuid4 = false)
    (opened : login dep env keystone credential table = (.ok response, table')) :
    ∃ profile : Profile, response.body = .profile profile ∧
      (∀ past s, (visits dep.toConf (entered dep env response table')).Run (Prompt dep.toConf profile.toPayload) past s →
        ∀ v, Prompt dep.toConf profile.toPayload s v → Served dep.toConf profile.toPayload s v) ∧
      ∀ past s, (visits dep.toConf (entered dep env response table')).Run (fun s v => s.last ≤ v.env.now) past s →
        ∀ v, ignored v.path = false → s.last + dep.accessTokenExpire < v.env.now →
          (visited dep.toConf s v).1.status = 401 ∧ (visited dep.toConf s v).2.browser = s.browser := by
  obtain ⟨rfl, profile, body, cookies, exp, uuid⟩ := login_opens opened
  have entering : (entered dep env response table').browser = (sessionCookies dep.toConf profile).head? := by
    rw [entered, cookies]
    exact received_pair own rfl rfl rfl none
  refine ⟨profile, body, fun past s run v prompt => ?_, fun past s run v guarded idle => ?_⟩
  · rw [← uuid] at named fresh
    have initial : Kept dep.toConf profile.toPayload (entered dep env response table') := by
      refine ⟨started, fresh, profile.exp, ?_, ?_, _, entering, rfl⟩
      · show env.now ≤ profile.exp
        omega
      · show env.now + dep.accessTokenRenew ≤ profile.exp
        omega
    have kept : Kept dep.toConf profile.toPayload s := by
      refine System.Run.invariant (I := fun _ s => Kept dep.toConf profile.toPayload s) initial ?_ run
      intro _ s v _ s' kept prompt stepped
      obtain rfl : (visited dep.toConf s v).2 = s' := congrArg Prod.snd (Option.some.inj stepped)
      exact (prompt_served own named short lasts kept prompt).2
    exact (prompt_served own named short lasts kept prompt).1
  · have initial : Lasting dep.toConf (entered dep env response table') :=
      ⟨_, profile.toPayload, entering, rfl, Int.le_of_eq exp⟩
    have lasting : Lasting dep.toConf s := by
      refine System.Run.invariant (I := fun _ s => Lasting dep.toConf s) initial ?_ run
      intro _ s v _ s' lasting later stepped
      obtain rfl : (visited dep.toConf s v).2 = s' := congrArg Prod.snd (Option.some.inj stepped)
      exact visited_lasting own lasting later
    exact visited_refused lasting guarded idle

/-! ## Half an hour between the visits -/

/-- A look at the instances, at some time. -/
def lookAt (now : Int) : Visit where
  path := "/api/v1/instances"
  handler _ := pure (200, .content "instances")
  others _ := none
  authorization := none
  env := willing now "uuid"

theorem lookAt_prompt (session : Payload) {s : State} {now : Int} (later : s.last ≤ now) (soon : now ≤ s.last + 1800) :
    Prompt registered session s (lookAt now) where
  guarded := by
    show ignored "/api/v1/instances" = false
    decide
  later := later
  soon := soon
  vouched := ⟨rfl, fun _ => ⟨_, rfl⟩⟩
  answers _ table fresh := ⟨200, .content "instances", table, rfl, fresh⟩

def loginAnswer : Response :=
  match (login SessionCookie.site (willing 1 "first-uuid") SessionCookie.obliging ⟨none, "default", "owner", "secret"⟩ []).1 with
  | .ok response => response
  | .error _ => SessionCookie.serverError

/-- Two visits keep the session of a login going past the end of its first cookie. -/
theorem late_visit_served : ∃ (profile : Profile) (s : State), loginAnswer.body = .profile profile ∧ profile.exp = 3601 ∧
    s.last = 3000 ∧ Served registered profile.toPayload s (lookAt 4000) := by
  obtain ⟨profile, body, served, -⟩ := session_slides SessionCookie.site (willing 1 "first-uuid") SessionCookie.obliging
    ⟨none, "default", "owner", "secret"⟩ loginAnswer [] [] (by decide) (by decide) (by decide) (by decide) (by decide) rfl rfl
  have exp : profile.exp = 3601 := by
    obtain rfl := Body.profile.inj body
    rfl
  have first : (visits registered (entered SessionCookie.site (willing 1 "first-uuid") loginAnswer [])).Run
      (Prompt registered profile.toPayload) [_] _ :=
    .step (a := lookAt 1700) .start (lookAt_prompt _ (by decide) (by decide)) rfl
  have second := first.step (a := lookAt 3000) (lookAt_prompt _ (by decide) (by decide)) rfl
  exact ⟨profile, _, body, exp, rfl, served _ _ second _ (lookAt_prompt _ (by decide) (by decide))⟩

end Skyline.SlidingSession
