import Skyline.Raising
import Skyline.SessionCookie

/-!
Whose session a browser holds. A session cookie carries a token of Keystone, and every way to
get one goes through a token that Keystone gave out before: for a name and a password, for a
token that came through SSO or in a header, or for the session that is renewed. So the user
of a session has proved to be that user in a request of the browser, however the requests of
all browsers and their responses overtake each other.
-/
namespace Skyline.Authenticity
open Skyline.Python Skyline.Effects Skyline.Effects.Eff Skyline.Runs Skyline.Raising
open Skyline.Session Skyline.Middleware Skyline.Login Skyline.SessionCookie

/-! ## Who is who -/

/-- What Keystone knows of its tokens and of its users. -/
structure Directory where
  /-- The user that a token was issued to. -/
  owner : String → Option String
  /-- The user whose name in a domain, and whose password, these are. -/
  account : String → String → String → Option String
  /-- The sessions of a user may have this token. -/
  session : String → String → Prop

variable (directory : Directory)

/-- Keystone gives a token for a name and a password to the user that these belong to, and one
    for a project to the user that has shown a token. -/
structure Honest (handlerEnv : Env) (keystone : Keystone) : Prop where
  getToken : ∀ {domain username password token},
    keystone.getToken (some domain) (some username) (some password) = .ok token →
      ∃ user, directory.account domain username password = some user ∧ directory.owner token = some user
  projectScopeToken : ∀ {token region projectId rescoped}, handlerEnv.projectScopeToken token region projectId = .ok rescoped →
    ∃ user, directory.owner token = some user ∧ directory.session user rescoped

/-- What is served is answered by an honest Keystone. -/
def HonestService : Label → Prop
  | .serve _ _ handlerEnv keystone => Honest directory handlerEnv keystone
  | _ => True

/-- A request has the password of a user, or a token. -/
def Proves (user : String) (authorization : Option String) : Endpoint → Prop
  | .login credential => directory.account credential.domain credential.username credential.password = some user
  | .websso token => directory.owner token = some user
  | .switchProject _ => ∃ token, authorization = some token ∧ directory.owner token = some user
  | _ => False

/-- The user has been proved by a request that was sent. -/
def Proved (past : List Label) (user : String) : Prop :=
  ∃ endpoint attached others authorization, Label.send endpoint attached others authorization ∈ past ∧
    Proves directory user authorization endpoint

/-- Every session that the text of a cookie stands for is of a user with the property. -/
def Vouched (conf : Conf) (proved : String → Prop) (value : Text) : Prop :=
  ∀ now p, parseAccessToken conf now value = .ok p → ∃ user, directory.session user p.keystoneToken ∧ proved user

variable {directory} {dep : Deployment} {conf : Conf} {env handlerEnv : Env} {keystone : Keystone} {response : Response}
  {table table' : RevokedTable} {proved proved' : String → Prop}

/-! ## The cookies of a response -/

theorem vouched_plain (text : String) : Vouched directory conf proved (.plain text) := by
  intro now p parsed
  cases parsed

/-- A cookie that was made here stands for the payload that it was made from. -/
theorem vouched_payload {payload : Payload}
    (own : ∃ user, directory.session user payload.keystoneToken ∧ proved user) :
    Vouched directory conf proved (payload.toJWTPayload conf) := by
  intro now p parsed
  rw [parseAccessToken_toJWTPayload] at parsed
  split at parsed
  · cases parsed
  · cases parsed
    exact own

theorem Vouched.imp {value : Text} (weaker : ∀ user, proved user → proved' user)
    (vouched : Vouched directory conf proved value) : Vouched directory conf proved' value := by
  intro now p parsed
  obtain ⟨user, own, known⟩ := vouched now p parsed
  exact ⟨user, own, weaker user known⟩

/-- The profiles that are made for a token of a user have a token of the same user. -/
theorem scoped_owner (honest : Honest directory handlerEnv keystone) {token region projectId rescoped : String}
    {profile patched : Profile} (given : handlerEnv.projectScopeToken token region projectId = .ok rescoped)
    (generated : generateProfile conf handlerEnv rescoped region none none = .ok profile)
    (ok : patchProfile handlerEnv profile = .ok patched) :
    ∃ user, directory.owner token = some user ∧ directory.session user patched.keystoneToken := by
  obtain ⟨user, own, same⟩ := honest.projectScopeToken given
  have payload := (patchProfile_payload ok).trans (generateProfile_ok generated)
  exact ⟨user, own, by rw [congrArg Payload.keystoneToken payload]; exact same⟩

theorem scopedProfile_owner (honest : Honest directory handlerEnv keystone) {token region : String} {profile : Profile}
    {projectScope : List (String × ProjectEntry)} {defaultProjectId : Option String}
    (made : scopedProfile conf handlerEnv region token projectScope defaultProjectId = .ok profile) :
    ∃ user, directory.owner token = some user ∧ directory.session user profile.keystoneToken := by
  obtain ⟨first, _, rest⟩ := bind_ok_iff.mp made
  obtain ⟨rescoped, given, rest⟩ := bind_ok_iff.mp rest
  obtain ⟨generated, made, ok⟩ := bind_ok_iff.mp rest
  exact scoped_owner honest given made ok

/-- The unscoped token of a password is the one that Keystone gave for it. -/
theorem getToken_of_password {region : String} {domain username password : Option String} {projectEnabled : Bool}
    {projectScope : List (String × ProjectEntry)} {unscopeToken : String} {defaultProjectId : Option String}
    (found : getProjectsAndUnscopeToken keystone region domain username password none projectEnabled =
      .ok (projectScope, unscopeToken, defaultProjectId)) : keystone.getToken domain username password = .ok unscopeToken := by
  obtain ⟨token, given, rest⟩ := bind_ok_iff.mp found
  obtain ⟨projects, _, rest⟩ := bind_ok_iff.mp rest
  dsimp only at rest
  generalize (if projectEnabled then _ else projects) = scope at rest
  split at rest
  · cases rest
  · obtain ⟨_, _, rest⟩ := bind_ok_iff.mp rest
    cases rest
    exact given

theorem getProfileFromHeader_token {authorization : Option String} {profile : Profile}
    (known : getProfileFromHeader conf env authorization = .ok profile) : authorization = some profile.keystoneToken := by
  unfold getProfileFromHeader at known
  split at known
  · cases known
  · next token given =>
    split at known
    · next profile' generated =>
      cases known
      rw [congrArg Payload.keystoneToken (generateProfile_ok generated)]
      exact (Option.filter_eq_some_iff.mp given).1
    · cases known

/-- The session that a request opens is of a user whom the request proves. -/
theorem makes_owner (honest : Honest directory handlerEnv keystone) {authorization : Option String} {endpoint : Endpoint}
    {profile : Profile} (makes : Makes dep handlerEnv keystone authorization endpoint profile) :
    ∃ user, directory.session user profile.keystoneToken ∧ Proves directory user authorization endpoint := by
  cases makes with
  | login made =>
    obtain ⟨⟨projectScope, unscopeToken, defaultProjectId⟩, found, scope⟩ := bind_ok_iff.mp made
    obtain ⟨user, account, owner⟩ := honest.getToken (getToken_of_password found)
    obtain ⟨user', own, same⟩ := scopedProfile_owner honest scope
    rw [owner] at own
    cases own
    exact ⟨user, same, account⟩
  | websso made =>
    obtain ⟨⟨projectScope, unscopeToken, defaultProjectId⟩, _, scope⟩ := bind_ok_iff.mp made
    obtain ⟨user, own, same⟩ := scopedProfile_owner honest scope
    exact ⟨user, same, own⟩
  | switchProject known made =>
    -- a switch goes by the token of its header, whatever the session is that comes with it
    obtain ⟨scopedToken, rescoped, rest⟩ := bind_ok_iff.mp made
    obtain ⟨generated, made, ok⟩ := bind_ok_iff.mp rest
    obtain ⟨user, own, same⟩ := scoped_owner honest rescoped made ok
    exact ⟨user, same, _, getProfileFromHeader_token known, own⟩

theorem vouched_sets (honest : Honest directory handlerEnv keystone) {call : Call}
    (proves : ∀ user, Proves directory user call.authorization call.endpoint → proved user) :
    Sets dep handlerEnv keystone call fun c => Vouched directory dep.toConf proved c.value where
  deleted := vouched_plain _
  opened profile makes c member := by
    obtain ⟨user, same, known⟩ := makes_owner honest makes
    rcases List.mem_pair.mp member with rfl | rfl
    · have own : Vouched directory dep.toConf proved (profile.toJWTPayload dep.toConf) :=
        vouched_payload ⟨user, same, proves user known⟩
      exact ⟨own, own⟩
    · exact ⟨vouched_plain _, vouched_plain _⟩

/-- A renewed session has the token of the one that the request came with. -/
theorem renewal_vouched {request : Request} {state : RequestState} {payload : Payload}
    (admitted : Admitted conf env request table state) (renewal : state.renewal = some payload)
    (session : ∀ value, request.cookies conf.sessionName = some value → Vouched directory conf proved value) :
    ∀ c ∈ renewalCookies conf payload, Vouched directory conf proved c.value := by
  rcases admitted with ⟨_, rfl⟩ | ⟨payloadStr, token, profile, present, parsed, _, generated, rfl⟩
  · cases renewal
  · have attached : request.cookies conf.sessionName = some payloadStr := (Option.filter_eq_some_iff.mp present).1
    have own := session payloadStr attached env.now token parsed
    have same : profile.keystoneToken = token.keystoneToken := by
      rw [congrArg Payload.keystoneToken (generateProfile_ok generated)]
    have renewed : renewedPayload conf env.now profile = some payload := renewal
    rw [renewedPayload] at renewed
    split at renewed
    · cases renewed
      intro c member
      rcases List.mem_pair.mp member with rfl | rfl
      · exact vouched_payload (by dsimp only; rwa [same])
      · exact vouched_plain _
    · cases renewed

theorem serve_vouched (honest : Honest directory handlerEnv keystone) {call : Call}
    (session : ∀ value, call.request.cookies dep.sessionName = some value → Vouched directory dep.toConf proved value)
    (proves : ∀ user, Proves directory user call.authorization call.endpoint → proved user)
    (answered : call.serve dep env handlerEnv keystone table = (.ok response, table')) :
    ∀ c ∈ response.cookies, Vouched directory dep.toConf proved c.value :=
  serve_sets (vouched_sets honest proves)
    (fun _ _ _ admitted renewal => renewal_vouched (admission_ok admitted) renewal session) answered

/-! ## Runs -/

variable (directory) in
/-- The sessions that a browser holds, that it sends and that come back to it are of users
    who have been proved, and so is whoever a request on its way proves. -/
structure Genuine (conf : Conf) (proved : String → Prop) (s : State) : Prop where
  browser : ∀ c, s.browser = some c → Vouched directory conf proved c.value
  attached : ∀ call, .sent call ∈ s.flights → ∀ value, call.cookies conf.sessionName = some value →
    Vouched directory conf proved value
  claimed : ∀ call, .sent call ∈ s.flights → ∀ user, Proves directory user call.authorization call.endpoint → proved user
  answers : ∀ response, .answered response ∈ s.flights → ∀ c ∈ response.cookies, Vouched directory conf proved c.value

theorem Genuine.imp {s : State} (weaker : ∀ user, proved user → proved' user) (genuine : Genuine directory conf proved s) :
    Genuine directory conf proved' s where
  browser c held := (genuine.browser c held).imp weaker
  attached call member value present := (genuine.attached call member value present).imp weaker
  claimed call member user proves := weaker user (genuine.claimed call member user proves)
  answers response member c among := (genuine.answers response member c among).imp weaker

theorem genuine_send {s : State} {endpoint : Endpoint} {attached : Bool} {others : String → Option Text}
    {authorization : Option String} (genuine : Genuine directory conf proved s)
    (proves : ∀ user, Proves directory user authorization endpoint → proved user) :
    Genuine directory conf proved
      { s with flights := s.flights ++ [.sent ⟨endpoint, s.cookies conf attached others, authorization⟩] } where
  browser := genuine.browser
  attached call member value present := by
    rcases List.mem_append.mp member with old | new
    · exact genuine.attached call old value present
    · cases List.mem_singleton.mp new
      simp only [State.cookies, if_true] at present
      split at present
      · obtain ⟨c, held, rfl⟩ := Option.map_eq_some_iff.mp present
        exact genuine.browser c held
      · cases present
  claimed call member user known := by
    rcases List.mem_append.mp member with old | new
    · exact genuine.claimed call old user known
    · cases List.mem_singleton.mp new
      exact proves user known
  answers response member := by
    rcases List.mem_append.mp member with old | new
    · exact genuine.answers response old
    · cases List.mem_singleton.mp new

theorem genuine_serve {s : State} {i : Nat} (genuine : Genuine directory conf proved s)
    (vouched : ∀ c ∈ response.cookies, Vouched directory conf proved c.value) :
    Genuine directory conf proved { s with flights := s.flights.set i (.answered response), table := table } where
  browser := genuine.browser
  attached call member := by
    rcases List.mem_or_eq_of_mem_set member with old | new
    · exact genuine.attached call old
    · cases new
  claimed call member := by
    rcases List.mem_or_eq_of_mem_set member with old | new
    · exact genuine.claimed call old
    · cases new
  answers other member := by
    rcases List.mem_or_eq_of_mem_set member with old | new
    · exact genuine.answers other old
    · cases new
      exact vouched

theorem genuine_receive {s : State} {i : Nat} (genuine : Genuine directory conf proved s)
    (there : s.flights[i]? = some (.answered response)) :
    Genuine directory conf proved
      { s with browser := received conf s.browser response.cookies, flights := s.flights.eraseIdx i } where
  browser := received_keeps (fun c member _ => .inr (genuine.answers response (List.mem_of_getElem? there) c member))
    genuine.browser
  attached call member := genuine.attached call (List.mem_of_mem_eraseIdx member)
  claimed call member := genuine.claimed call (List.mem_of_mem_eraseIdx member)
  answers other member := genuine.answers other (List.mem_of_mem_eraseIdx member)

theorem step_genuine {s s' : State} {a : Label} {past : List Label}
    (genuine : Genuine directory dep.toConf (Proved directory past) s) (honest : HonestService directory a)
    (stepped : step dep s a = some ((), s')) : Genuine directory dep.toConf (Proved directory (a :: past)) s' := by
  have grown : Genuine directory dep.toConf (Proved directory (a :: past)) s :=
    genuine.imp fun user ⟨endpoint, attached, others, authorization, member, known⟩ =>
      ⟨endpoint, attached, others, authorization, List.mem_cons_of_mem a member, known⟩
  cases a with
  | send endpoint attached others authorization =>
    cases stepped
    exact genuine_send grown fun user known => ⟨endpoint, attached, others, authorization, List.mem_cons_self, known⟩
  | serve i env handlerEnv keystone =>
    simp only [step] at stepped
    split at stepped
    · next call there =>
      have member := List.mem_of_getElem? there
      rcases ran : call.serve dep env handlerEnv keystone s.table with ⟨result, table⟩
      rw [ran] at stepped
      cases stepped
      refine genuine_serve grown ?_
      cases result with
      | ok response => exact serve_vouched honest (grown.attached call member) (grown.claimed call member) ran
      | error e => exact fun c among => by cases among
    · cases stepped
  | receive i =>
    simp only [step] at stepped
    split at stepped
    · next response there =>
      cases stepped
      exact genuine_receive grown there
    · cases stepped

/-! ## Browsers that share a deployment -/

/-- A browser with the requests that it has sent. -/
structure Browser where
  cookie : Option SetCookie
  flights : List Flight

/-- The browsers of a deployment. Their requests share the table of revoked tokens. -/
structure Shared where
  browsers : List Browser
  table : RevokedTable

/-- What the steps of one browser read and write. -/
def Shared.view (s : Shared) (b : Browser) : State := ⟨b.cookie, b.flights, s.table⟩

/-- Some number of browsers that hold no session, each of which may take the next step. -/
def sharing (dep : Deployment) (n : Nat) (table : RevokedTable) : System Shared (Nat × Label) (Nat × Label) where
  init := ⟨List.replicate n ⟨none, []⟩, table⟩
  step s a := do
    let b ← s.browsers[a.1]?
    let (_, t) ← step dep (s.view b) a.2
    return (a, ⟨s.browsers.set a.1 ⟨t.browser, t.flights⟩, t.table⟩)

theorem sharing_step {n : Nat} {s s' : Shared} {a e : Nat × Label} (stepped : (sharing dep n table).step s a = some (e, s')) :
    e = a ∧ ∃ b t, s.browsers[a.1]? = some b ∧ step dep (s.view b) a.2 = some ((), t) ∧
      s' = ⟨s.browsers.set a.1 ⟨t.browser, t.flights⟩, t.table⟩ := by
  simp only [sharing, Option.bind_eq_bind, Option.bind_eq_some_iff] at stepped
  obtain ⟨b, there, ⟨⟨⟩, t⟩, browsed, same⟩ := stepped
  cases same
  exact ⟨rfl, b, t, there, browsed, rfl⟩

/-- The steps of one of the browsers. -/
def ownSteps (past : List (Nat × Label)) (i : Nat) : List Label := (past.filter (·.1 == i)).map Prod.snd

theorem ownSteps_self (past : List (Nat × Label)) (i : Nat) (a : Label) : ownSteps ((i, a) :: past) i = a :: ownSteps past i := by
  simp [ownSteps]

theorem ownSteps_other {i j : Nat} (other : j ≠ i) (past : List (Nat × Label)) (a : Label) :
    ownSteps ((j, a) :: past) i = ownSteps past i := by
  simp [ownSteps, other]

/-- No session depends on what is revoked. -/
theorem Genuine.view {proved : String → Prop} {s t : Shared} {b : Browser}
    (genuine : Genuine directory conf proved (s.view b)) : Genuine directory conf proved (t.view b) :=
  ⟨genuine.browser, genuine.attached, genuine.claimed, genuine.answers⟩

variable (directory dep) in
/-- Each browser only has sessions of the users that it has itself proved to be. -/
def EachGenuine (past : List (Nat × Label)) (s : Shared) : Prop :=
  ∀ i b, s.browsers[i]? = some b → Genuine directory dep.toConf (Proved directory (ownSteps past i)) (s.view b)

theorem step_eachGenuine {n : Nat} {s s' : Shared} {a e : Nat × Label} {past : List (Nat × Label)}
    (genuine : EachGenuine directory dep past s) (honest : HonestService directory a.2)
    (stepped : (sharing dep n table).step s a = some (e, s')) : EachGenuine directory dep (e :: past) s' := by
  obtain ⟨rfl, b, t, there, browsed, rfl⟩ := sharing_step stepped
  obtain ⟨i, a⟩ := e
  intro j c here
  by_cases same : i = j
  · subst same
    obtain ⟨within, -⟩ := List.getElem?_eq_some_iff.mp there
    rw [List.getElem?_set_self within] at here
    cases here
    rw [ownSteps_self]
    exact step_genuine (genuine i b there) honest browsed
  · rw [List.getElem?_set_ne same] at here
    rw [ownSteps_other same]
    exact (genuine j c here).view

variable (directory dep) in
/-- In whatever order the requests of all browsers are served and their responses arrive, a
    session that a browser comes to hold is of a user whose password, or a token of whom,
    that browser has sent. -/
theorem session_authentic (n : Nat) (table : RevokedTable) (past : List (Nat × Label)) (s : Shared)
    (run : (sharing dep n table).Run (fun _ a => HonestService directory a.2) past s) (i : Nat) (b : Browser)
    (there : s.browsers[i]? = some b) (c : SetCookie) (held : b.cookie = some c) (now : Int) (p : Payload)
    (session : parseAccessToken dep.toConf now c.value = .ok p) :
    ∃ user, directory.session user p.keystoneToken ∧ Proved directory (ownSteps past i) user := by
  have initial : EachGenuine directory dep [] (sharing dep n table).init := by
    intro i b there
    obtain rfl := List.eq_of_mem_replicate (List.mem_of_getElem? there)
    exact {
      browser := fun c held => by cases held
      attached := fun call member => by cases member
      claimed := fun call member => by cases member
      answers := fun response member => by cases member }
  have genuine := run.invariant initial fun past s a e s' inv honest stepped => step_eachGenuine inv honest stepped
  exact (genuine i b there).browser c held now p session

end Skyline.Authenticity
