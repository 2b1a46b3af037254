import Skyline.Cloud
import Skyline.SigningIn

/-!
The log of what users do (`client/openstack/activity.py`, `api/v1/logs.py` and the handlers
that write to it). A login and a logout are recorded with the token of a session of the
user; whoever works in a project may read its log, with the tokens in it, and a token is
all that `switch_project` asks for.
-/
namespace Skyline.ActivityLog
open Skyline.Python Skyline.Effects Skyline.Effects.Eff Skyline.Runs Skyline.Raising
open Skyline.Session Skyline.Middleware Skyline.Login Skyline.SessionCookie Skyline.KeystoneApi Skyline.SigningIn
open Skyline.Cloud (ActivityRecord)

/-! ## The table -/

/-- A row of `user_activity`. -/
structure Activity extends ActivityRecord where
  id : Nat
  timestamp : Int
  deriving DecidableEq, Repr

abbrev ActivityTable := List Activity

/-- The id that the database gives to the next row. -/
def nextId (table : ActivityTable) : Nat := (table.map Activity.id).foldr max 0 + 1

def createActivityRecord (table : ActivityTable) (record : ActivityRecord) (time : Int) : ActivityTable :=
  table ++ [{ record with id := nextId table, timestamp := time }]

/-- `ORDER BY timestamp DESC`, where rows of one second stay in their order. -/
def newestFirst (rows : List Activity) : List Activity := rows.mergeSort fun a b => decide (b.timestamp ≤ a.timestamp)

def getActivityRecordsByUser (table : ActivityTable) (userId : String) : List Activity :=
  newestFirst (table.filter fun a => a.userId == userId)

def getActivityRecordsByProject (table : ActivityTable) (projectId : String) : List Activity :=
  newestFirst (table.filter fun a => a.projectId == projectId)

/-! ## Reading the log -/

section
variable (conf : Conf) (env : Env) (table : ActivityTable)

/-- `get_profile` of `api/deps.py`. -/
def getProfile (state : RequestState) (authorization : Option String) : Except Exn Profile :=
  match state.profile with
  | some profile => .ok profile
  | none =>
    match authorization.filter truthy with
    | some token => getProfileFromHeader conf env (some token)
    | none => .error (.httpException 401 "Profile not found in request state")

def listActivities (state : RequestState) (authorization : Option String) : Except Exn (List Activity) := do
  let profile ← getProfile conf env state authorization
  match env.database with
  | .ok () => return getActivityRecordsByUser table profile.user.id
  | .error e => throw (.httpException 500 e.str)

def getProjectLogs (authorization : Option String) : Except Exn (List Activity) := do
  let profile ← getProfileFromHeader conf env authorization
  env.database
  return getActivityRecordsByProject table profile.project.id

def getUserLogs (authorization : Option String) : Except Exn (List Activity) := do
  let profile ← getProfileFromHeader conf env authorization
  env.database
  return getActivityRecordsByUser table profile.user.id

end

/-! ## Writing to it -/

/-- What a session of `generate_session` says of itself: its token, its user and its project. -/
structure Access where
  token : String
  userId : String
  projectId : String
  deriving DecidableEq, Repr

/-- What writing to the log depends on. -/
structure Desk where
  /-- The session for a token and a project, once Keystone has been asked for it. -/
  access : String → String → Except Exn Access
  database : Except Exn Unit
  time : Int

def Desk.generateSession (desk : Desk) (profile : Profile) : Except Exn Access :=
  desk.access profile.keystoneToken profile.project.id

def record (desk : Desk) (record : ActivityRecord) : Eff ActivityTable Exn Unit := do
  lift desk.database
  modify fun table => createActivityRecord table record desk.time

def createActivity (desk : Desk) (session : Access) (category message statusResult : String) :
    Eff ActivityTable Exn Unit :=
  attempt (record desk ⟨session.userId, session.projectId, category, message, statusResult, session.token⟩)
    fun e => raise (.httpException 500 e.str)

/-- `login`, with what it records. -/
def login (dep : Deployment) (env : Env) (keystone : Keystone) (desk : Desk) (credential : Credential) :
    Eff ActivityTable Exn Response := do
  let profile ← attempt (lift (loginProfile dep env keystone credential))
    fun _ => raise (.httpException 401 "Invalid credentials or unauthorized")
  let session ← lift (desk.generateSession profile)
  createActivity desk session "login" ("User " ++ profile.user.name ++ " logged in successfully.") "success"
  pure ⟨200, .profile profile, sessionCookies dep.toConf profile⟩

/-- What `logout` tries for the session of a payload. -/
def revokeSession (conf : Conf) (env : Env) (desk : Desk) (payload : Text) : Eff ActivityTable Exn Unit := do
  let token ← lift (parseAccessToken conf env.now payload)
  let profile ← lift (generateProfileByToken conf env token)
  let session ← lift (desk.generateSession profile)
  lift (env.keystoneRevoke profile token.keystoneToken)
  lift env.database
  createActivity desk session "logout" ("User " ++ profile.user.name ++ " logged out successfully.") "success"

/-- A handler that has Nova do something with a server of the caller, and records it
    without a token. -/
def actOnServer (desk : Desk) (nova : Profile → String → Except Exn Unit) (category done failure instanceId : String)
    (profile : Profile) : Eff ActivityTable Exn Unit := do
  let _ ← lift (desk.generateSession profile)
  attempt (do
    lift (nova profile instanceId)
    record desk ⟨profile.user.id, profile.project.id, category, "인스턴스 '" ++ instanceId ++ "' " ++ done, "success", ""⟩)
    fun _ => raise (.httpException 500 failure)

def startInstance (desk : Desk) (startServer : Profile → String → Except Exn Unit) (instanceId : String) (profile : Profile) :
    Eff ActivityTable Exn Unit :=
  actOnServer desk startServer "인스턴스 시작" "시작" "Failed to start instance" instanceId profile

def stopInstance (desk : Desk) (stopServer : Profile → String → Except Exn Unit) (instanceId : String) (profile : Profile) :
    Eff ActivityTable Exn Unit :=
  actOnServer desk stopServer "인스턴스 정지" "정지" "Failed to stop instance" instanceId profile

/-- `reboot_instance`, for a `reboot_type`. -/
def rebootInstance (desk : Desk) (rebootServer : String → Profile → String → Except Exn Unit) (rebootType instanceId : String)
    (profile : Profile) : Eff ActivityTable Exn Unit :=
  actOnServer desk (rebootServer rebootType) "인스턴스 재시작" ("재시작 (타입: " ++ rebootType ++ ")")
    "Failed to reboot instance" instanceId profile

/-! ## Signing in, as it was -/

/-- What a handler of `login.py` depends on, for a session of the profile and the log as it is. -/
def Desk.env (desk : Desk) (env : Env) (table : ActivityTable) (profile : Profile) : Env :=
  { env with
    generateSession := fun profile => desk.generateSession profile >>= fun _ => pure ()
    createActivity := fun category message statusResult => do
      let session ← desk.generateSession profile
      (createActivity desk session category message statusResult table).1 }

/-- Apart from its record, a login is what it is without one. -/
theorem login_record (dep : Deployment) (env : Env) (keystone : Keystone) (desk : Desk) {credential : Credential}
    {profile : Profile} (signedIn : loginProfile dep env keystone credential = .ok profile) (table : ActivityTable)
    (revoked : RevokedTable) :
    SessionCookie.login dep (desk.env env table profile) keystone credential revoked =
      ((login dep env keystone desk credential table).1, revoked) := by
  have same : loginProfile dep (desk.env env table profile) keystone credential = .ok profile := signedIn
  cases session : desk.generateSession profile with
  | error e =>
    have opened : (desk.env env table profile).generateSession profile = .error e := by
      simp [Desk.env, session, bind, Except.bind]
    simp [SessionCookie.login, login, bind_run, attempt_run, same, signedIn, opened, session]
  | ok access =>
    have opened : (desk.env env table profile).generateSession profile = .ok () := by
      simp [Desk.env, session, bind, Except.bind, pure, Except.pure]
    have recorded (category message statusResult : String) : (desk.env env table profile).createActivity category message
        statusResult = (createActivity desk access category message statusResult table).1 := by
      simp [Desk.env, session, bind, Except.bind]
    rcases wrote : createActivity desk access "login" ("User " ++ profile.user.name ++ " logged in successfully.") "success"
      table with ⟨r, after⟩
    simp only [SessionCookie.login, login, bind_run, attempt_run, lift_run, same, signedIn, opened, session, recorded, wrote]
    cases r with
    | ok _ => rfl
    | error e => rfl

/-! ## Runs of the deployment -/

/-- Whatever session Keystone gives for a token and a project is its user's, in the project. -/
structure Grants (realm : Realm) (desk : Desk) : Prop where
  good : ∀ {user token project access}, realm.Owns user token → desk.access token project = .ok access →
    access.token ≠ "" ∧ access.userId = user ∧ access.projectId = project ∧ realm.Scoped user project access.token

inductive Action
  | start | stop
  | reboot (rebootType : String)
  deriving DecidableEq

inductive Label
  | login (api : Api) (others : Env) (desk : Desk) (dep : Deployment) (credential : Credential)
  /-- A logout with the payload of a session. -/
  | logout (api : Api) (others : Env) (desk : Desk) (conf : Conf) (payload : Text)
  | act (api : Api) (others : Env) (desk : Desk) (conf : Conf) (authorization : Option String) (action : Action)
    (nova : Profile → String → Except Exn Unit) (instanceId : String)
  /-- A record of another handler, which stores no token. -/
  | note (entry : ActivityRecord) (time : Int)

/-- Who has been let in where, and who has asked to leave. -/
inductive Event
  | entered (user project : String)
  | left (user project : String)
  | other
  deriving DecidableEq

def entry : Except Exn Response → Event
  | .ok ⟨_, .profile profile, _⟩ => .entered profile.user.id profile.project.id
  | _ => .other

/-- The session that a logout comes with. -/
def leaving (conf : Conf) (env : Env) (payload : Text) : Event :=
  match parseAccessToken conf env.now payload >>= generateProfileByToken conf env with
  | .ok profile => .left profile.user.id profile.project.id
  | .error _ => .other

def Action.run (desk : Desk) (nova : Profile → String → Except Exn Unit) (instanceId : String) (profile : Profile) :
    Action → Eff ActivityTable Exn Unit
  | .start => startInstance desk nova instanceId profile
  | .stop => stopInstance desk nova instanceId profile
  | .reboot rebootType => rebootInstance desk (fun _ => nova) rebootType instanceId profile

def step (table : ActivityTable) : Label → Option (Event × ActivityTable)
  | .login api others desk dep credential =>
    let (result, table) := login dep (api.env others) api.keystone desk credential table
    some (entry result, table)
  | .logout api others desk conf payload =>
    some (leaving conf (api.env others) payload, (revokeSession conf (api.env others) desk payload table).2)
  | .act api others desk conf authorization action nova instanceId =>
    match getProfileFromHeader conf (api.env others) authorization with
    | .ok profile => some (.other, (action.run desk nova instanceId profile table).2)
    | .error _ => some (.other, table)
  | .note entry time => some (.other, createActivityRecord table entry time)

/-- What is done at the console, from an empty log. -/
def console : System ActivityTable Label Event where
  init := []
  step := step

/-- Keystone answers for the realm. -/
def Serving (realm : Realm) : Label → Prop
  | .login api others desk _ _ | .logout api others desk _ _ | .act api others desk _ _ _ _ _ =>
    Serves realm api ∧ Up others ∧ Grants realm desk
  | .note entry _ => entry.token = ""

/-! ## What the log holds -/

/-- The log keeps a token of whoever has been let in, and no others than of who has been let in
    or has left. -/
structure Kept (realm : Realm) (past : List Event) (table : ActivityTable) : Prop where
  caused : ∀ a ∈ table, a.token = "" ∨ a.token ≠ "" ∧ realm.Scoped a.userId a.projectId a.token ∧
    (.entered a.userId a.projectId ∈ past ∨ .left a.userId a.projectId ∈ past)
  recorded : ∀ user project, .entered user project ∈ past →
    ∃ a ∈ table, a.userId = user ∧ a.projectId = project ∧ a.token ≠ "" ∧ realm.Scoped user project a.token

section
variable {realm : Realm} {desk : Desk} {table table' : ActivityTable} {past : List Event}

theorem record_run (desk : Desk) (table : ActivityTable) (entry : ActivityRecord) :
    (record desk entry table).2 = table ∨
    (record desk entry table).1 = .ok () ∧ (record desk entry table).2 = createActivityRecord table entry desk.time := by
  cases up : desk.database with
  | ok => exact .inr (by simp [record, bind_run, up])
  | error e => exact .inl (by simp [record, bind_run, up])

/-- An attempt to record leaves the log as it is, or is done and adds a row. -/
theorem createActivity_run (session : Access) (category message statusResult : String) {r : Except Exn Unit}
    (ran : createActivity desk session category message statusResult table = (r, table')) :
    table' = table ∧ (∃ e, r = .error e) ∨ r = .ok () ∧ table' = createActivityRecord table
      ⟨session.userId, session.projectId, category, message, statusResult, session.token⟩ desk.time := by
  cases up : desk.database with
  | ok =>
    simp only [createActivity, record, attempt_run, bind_run, lift_run, up] at ran
    cases ran
    exact .inr ⟨rfl, rfl⟩
  | error e =>
    simp only [createActivity, record, attempt_run, bind_run, lift_run, up] at ran
    cases ran
    exact .inl ⟨rfl, _, rfl⟩

theorem mem_createActivityRecord {a : Activity} {entry : ActivityRecord} {time : Int} :
    a ∈ createActivityRecord table entry time ↔
      a ∈ table ∨ a = { entry with id := nextId table, timestamp := time } := by
  simp [createActivityRecord]

theorem Kept.mono {event : Event} (kept : Kept realm past table) (nobody : ∀ user project, event ≠ .entered user project) :
    Kept realm (event :: past) table where
  caused a member := by
    rcases kept.caused a member with none | ⟨some, good, entered | left⟩
    · exact .inl none
    · exact .inr ⟨some, good, .inl (List.mem_cons_of_mem _ entered)⟩
    · exact .inr ⟨some, good, .inr (List.mem_cons_of_mem _ left)⟩
  recorded user project entered := by
    rcases List.mem_cons.mp entered with same | before
    · exact absurd same.symm (nobody user project)
    · exact kept.recorded user project before

/-- A row without a token changes nothing. -/
theorem Kept.note {entry : ActivityRecord} (kept : Kept realm past table) (blank : entry.token = "") (time : Int) :
    Kept realm past (createActivityRecord table entry time) where
  caused a member := by
    rcases mem_createActivityRecord.mp member with old | rfl
    · exact kept.caused a old
    · exact .inl blank
  recorded user project entered := by
    obtain ⟨a, member, is⟩ := kept.recorded user project entered
    exact ⟨a, mem_createActivityRecord.mpr (.inl member), is⟩

/-- A row with the token of a session of who is let in, or leaves. -/
theorem Kept.sign {event : Event} {session : Access} {user project : String} (kept : Kept realm past table)
    (signs : event = .entered user project ∨ event = .left user project) (real : session.token ≠ "")
    (named : session.userId = user) (within : session.projectId = project) (good : realm.Scoped user project session.token)
    (category message statusResult : String) (time : Int) :
    Kept realm (event :: past) (createActivityRecord table
      ⟨session.userId, session.projectId, category, message, statusResult, session.token⟩ time) where
  caused a member := by
    rcases mem_createActivityRecord.mp member with old | rfl
    · rcases kept.caused a old with none | ⟨some, good, entered | left⟩
      · exact .inl none
      · exact .inr ⟨some, good, .inl (List.mem_cons_of_mem _ entered)⟩
      · exact .inr ⟨some, good, .inr (List.mem_cons_of_mem _ left)⟩
    · subst named within
      refine .inr ⟨real, good, ?_⟩
      rcases signs with rfl | rfl
      · exact .inl List.mem_cons_self
      · exact .inr List.mem_cons_self
  recorded user' project' entered := by
    rcases List.mem_cons.mp entered with same | before
    · rcases signs with rfl | rfl
      · cases same
        exact ⟨_, mem_createActivityRecord.mpr (.inr rfl), named, within, real, good⟩
      · cases same
    · obtain ⟨a, member, is⟩ := kept.recorded user' project' before
      exact ⟨a, mem_createActivityRecord.mpr (.inl member), is⟩

theorem loginProfile_sound {api : Api} {others : Env} (serves : Serves realm api) (up : Up others) {dep : Deployment}
    {credential : Credential} {profile : Profile}
    (signedIn : loginProfile dep (api.env others) api.keystone credential = .ok profile) :
    realm.Scoped profile.user.id profile.project.id profile.keystoneToken := by
  cases found : (realm.account credential.domain credential.username credential.password).bind realm.home with
  | none =>
    obtain ⟨e, failed⟩ := loginProfile_error serves others dep found
    cases failed.symm.trans signedIn
  | some project =>
    obtain ⟨user, account, home⟩ := Option.bind_eq_some_iff.mp found
    obtain ⟨profile', same, signed⟩ := loginProfile_ok serves up dep account home
    cases same.symm.trans signedIn
    rw [signed.named, signed.within]
    exact signed.good

theorem login_kept {api : Api} {others : Env} (serves : Serves realm api) (up : Up others) (grants : Grants realm desk)
    (kept : Kept realm past table) (dep : Deployment) (credential : Credential) {r : Except Exn Response}
    (ran : login dep (api.env others) api.keystone desk credential table = (r, table')) :
    Kept realm (entry r :: past) table' := by
  cases signedIn : loginProfile dep (api.env others) api.keystone credential with
  | error e =>
    simp only [login, bind_run, attempt_run, lift_run, signedIn] at ran
    cases ran
    exact kept.mono nofun
  | ok profile =>
    cases opened : desk.generateSession profile with
    | error e =>
      simp only [login, bind_run, attempt_run, lift_run, signedIn, opened] at ran
      cases ran
      exact kept.mono nofun
    | ok session =>
      have good := loginProfile_sound serves up signedIn
      obtain ⟨real, named, within, fits⟩ := grants.good good.owns opened
      rcases wrote : createActivity desk session "login" ("User " ++ profile.user.name ++ " logged in successfully.") "success"
        table with ⟨r', after⟩
      simp only [login, bind_run, attempt_run, lift_run, signedIn, opened, wrote] at ran
      rcases createActivity_run session _ _ _ wrote with ⟨rfl, e, rfl⟩ | ⟨rfl, rfl⟩
      · cases ran
        exact kept.mono nofun
      · cases ran
        exact kept.sign (.inl rfl) real named within fits _ _ _ _

theorem revokeSession_kept {api : Api} {others : Env} (serves : Serves realm api) (up : Up others) (grants : Grants realm desk)
    (kept : Kept realm past table) (conf : Conf) (payload : Text) :
    Kept realm (leaving conf (api.env others) payload :: past)
      (revokeSession conf (api.env others) desk payload table).2 := by
  have unmoved : Kept realm (leaving conf (api.env others) payload :: past) table := by
    refine kept.mono fun user project => ?_
    unfold leaving
    split <;> exact nofun
  cases parsed : parseAccessToken conf (api.env others).now payload with
  | error e => simpa [revokeSession, bind_run, parsed] using unmoved
  | ok token =>
    cases generated : generateProfileByToken conf (api.env others) token with
    | error e => simpa [revokeSession, bind_run, parsed, generated] using unmoved
    | ok profile =>
      cases opened : desk.generateSession profile with
      | error e => simpa [revokeSession, bind_run, parsed, generated, opened] using unmoved
      | ok session =>
        cases revoked : (api.env others).keystoneRevoke profile token.keystoneToken with
        | error e => simpa [revokeSession, bind_run, parsed, generated, opened, revoked] using unmoved
        | ok _ =>
          cases up' : (api.env others).database with
          | error e => simpa [revokeSession, bind_run, parsed, generated, opened, revoked, up'] using unmoved
          | ok _ =>
            have good := generateProfile_sound serves up generated
            have same : profile.keystoneToken = token.keystoneToken := by
              rw [generateProfile_ok generated]
            rw [← same] at good
            obtain ⟨real, named, within, fits⟩ := grants.good good.owns opened
            have left : leaving conf (api.env others) payload = .left profile.user.id profile.project.id := by
              simp [leaving, parsed, generated, bind, Except.bind]
            rcases wrote : createActivity desk session "logout" ("User " ++ profile.user.name ++ " logged out successfully.")
              "success" table with ⟨r, after⟩
            have ran : (revokeSession conf (api.env others) desk payload table).2 = after := by
              simp [revokeSession, bind_run, parsed, generated, opened, revoked, up', wrote]
            rw [ran]
            rcases createActivity_run session _ _ _ wrote with ⟨rfl, -⟩ | ⟨-, rfl⟩
            · exact unmoved
            · exact kept.sign (.inr left) real named within fits _ _ _ _

theorem actOnServer_kept (kept : Kept realm past table) (nova : Profile → String → Except Exn Unit)
    (category done failure instanceId : String) (profile : Profile) :
    Kept realm past (actOnServer desk nova category done failure instanceId profile table).2 := by
  cases opened : desk.generateSession profile with
  | error e => simpa [actOnServer, bind_run, opened] using kept
  | ok session =>
    cases asked : nova profile instanceId with
    | error e => simpa [actOnServer, bind_run, attempt_run, opened, asked, raise] using kept
    | ok _ =>
      have ran : (actOnServer desk nova category done failure instanceId profile table).2 = (record desk
          ⟨profile.user.id, profile.project.id, category, "인스턴스 '" ++ instanceId ++ "' " ++ done, "success", ""⟩ table).2 := by
        simp only [actOnServer, bind_run, attempt_run, lift_run, opened, asked]
        split <;> simp [*, raise]
      rw [ran]
      rcases record_run desk table _ with same | ⟨-, more⟩
      · rw [same]
        exact kept
      · rw [more]
        exact kept.note rfl desk.time

theorem step_kept {a : Label} {event : Event} (serving : Serving realm a) (kept : Kept realm past table)
    (stepped : step table a = some (event, table')) : Kept realm (event :: past) table' := by
  cases a with
  | login api others desk dep credential =>
    obtain ⟨serves, up, grants⟩ := serving
    cases stepped
    exact login_kept serves up grants kept dep credential rfl
  | logout api others desk conf payload =>
    obtain ⟨serves, up, grants⟩ := serving
    cases stepped
    exact revokeSession_kept serves up grants kept conf payload
  | act api others desk conf authorization action nova instanceId =>
    simp only [step] at stepped
    split at stepped
    · next profile _ =>
      cases stepped
      refine Kept.mono ?_ nofun
      cases action with
      | start | stop | reboot _ => exact actOnServer_kept kept _ _ _ _ instanceId profile
    · cases stepped
      exact kept.mono nofun
  | note entry time =>
    cases stepped
    exact (kept.note serving time).mono nofun

theorem mem_newestFirst {rows : List Activity} {a : Activity} : a ∈ newestFirst rows ↔ a ∈ rows :=
  (List.mergeSort_perm rows _).mem_iff

/-- Rows of a project are listed to whoever comes with a token for it. -/
theorem getProjectLogs_ok {api : Api} {others : Env} (serves : Serves realm api) (up : Up others)
    (database : others.database = .ok ()) (conf : Conf) (table : ActivityTable) {authorization : Option String}
    {token reader project : String} (given : authorization.filter truthy = some token)
    (good : realm.Scoped reader project token) :
    ∃ rows, getProjectLogs conf (api.env others) table authorization = .ok rows ∧
      ∀ a, a ∈ rows ↔ a ∈ table ∧ a.projectId = project := by
  obtain ⟨profile, generated, -, -, within⟩ := generateProfile_scoped conf conf.defaultRegion serves up good none none
  have known : getProfileFromHeader conf (api.env others) authorization = .ok profile := by
    simp [getProfileFromHeader, given, generated]
  have connected : (api.env others).database = .ok () := database
  refine ⟨getActivityRecordsByProject table profile.project.id, ?_, fun a => ?_⟩
  · simp [getProjectLogs, known, connected, bind, Except.bind, pure, Except.pure]
  · rw [getActivityRecordsByProject, mem_newestFirst, List.mem_filter, beq_iff_eq, within]

theorem run_kept (run : console.Run (fun _ a => Serving realm a) past table) : Kept realm past table := by
  have empty : Kept realm [] [] := {
    caused := fun a member => by cases member
    recorded := fun user project entered => by cases entered }
  refine System.Run.invariant (I := Kept realm) empty ?_ run
  intro _ _ _ _ _ kept serving stepped
  exact step_kept serving kept stepped

/-- Rows by user give away no token but those of that user. -/
theorem Kept.own (kept : Kept realm past table) {userId : String} {a : Activity}
    (listed : a ∈ getActivityRecordsByUser table userId) :
    a.userId = userId ∧ (a.token ≠ "" → realm.Scoped userId a.projectId a.token) := by
  rw [getActivityRecordsByUser, mem_newestFirst, List.mem_filter, beq_iff_eq] at listed
  obtain ⟨there, rfl⟩ := listed
  refine ⟨rfl, fun real => ?_⟩
  rcases kept.caused a there with none | ⟨-, good, -⟩
  · exact absurd none real
  · exact good

theorem getUserLogs_own (run : console.Run (fun _ a => Serving realm a) past table) {conf : Conf} {env : Env}
    {authorization : Option String} {rows : List Activity}
    (listed : getUserLogs conf env table authorization = .ok rows) :
    ∃ profile, getProfileFromHeader conf env authorization = .ok profile ∧
      ∀ a ∈ rows, a.userId = profile.user.id ∧ (a.token ≠ "" → realm.Scoped profile.user.id a.projectId a.token) := by
  obtain ⟨profile, known, listed⟩ := bind_ok_iff.mp listed
  obtain ⟨-, -, listed⟩ := bind_ok_iff.mp listed
  cases listed
  exact ⟨profile, known, fun a member => (run_kept run).own member⟩

theorem listActivities_own (run : console.Run (fun _ a => Serving realm a) past table) {conf : Conf} {env : Env}
    {state : RequestState} {authorization : Option String} {rows : List Activity}
    (listed : listActivities conf env table state authorization = .ok rows) :
    ∃ profile, getProfile conf env state authorization = .ok profile ∧
      ∀ a ∈ rows, a.userId = profile.user.id ∧ (a.token ≠ "" → realm.Scoped profile.user.id a.projectId a.token) := by
  obtain ⟨profile, known, listed⟩ := bind_ok_iff.mp listed
  refine ⟨profile, known, fun a member => ?_⟩
  split at listed
  · cases listed
    exact (run_kept run).own member
  · cases listed

end

/-- Whoever works in a project can read its log, in which the only tokens are of those who came
    to work there; and with the token of anyone who did, can open a session as that user, in
    every project of that user. -/
theorem log_gives_away (realm : Realm) (past : List Event) (table : ActivityTable)
    (run : console.Run (fun _ a => Serving realm a) past table) (api : Api) (others : Env) (serves : Serves realm api)
    (up : Up others) (database : others.database = .ok ()) (conf : Conf) (authorization : Option String)
    (token reader project : String) (given : authorization.filter truthy = some token)
    (good : realm.Scoped reader project token) :
    ∃ rows, getProjectLogs conf (api.env others) table authorization = .ok rows ∧
      (∀ a ∈ rows, a.token ≠ "" → realm.Scoped a.userId project a.token ∧
        (.entered a.userId project ∈ past ∨ .left a.userId project ∈ past)) ∧
      ∀ user, .entered user project ∈ past → ∃ a ∈ rows, a.userId = user ∧
        ∀ other, realm.Enabled user other →
          ∃ response, switchProject conf (api.env others) (some a.token) other = .ok response ∧
            response.status = 200 ∧ Opens realm conf user other response := by
  have kept := run_kept run
  obtain ⟨rows, listed, among⟩ := getProjectLogs_ok serves up database conf table given good
  refine ⟨rows, listed, fun a member real => ?_, fun user entered => ?_⟩
  · obtain ⟨there, rfl⟩ := (among a).mp member
    rcases kept.caused a there with none | ⟨-, good, caused⟩
    · exact absurd none real
    · exact ⟨good, caused⟩
  · obtain ⟨a, there, rfl, within, real, good⟩ := kept.recorded user project entered
    have presents : Presents realm a.userId (some a.token) := by
      refine ⟨a.token, project, ?_, good⟩
      simp [Option.filter, truthy, real]
    exact ⟨a, (among a).mpr ⟨there, within⟩, rfl, fun other enabled =>
      switchProject_opens serves up conf presents enabled⟩

/-! ## The log of one project -/

def ownDesk : Desk where
  access token project :=
    if (token = "keystone-token" ∨ token = "scoped-project") ∧ project = "project" then
      .ok ⟨"scoped-project", "user", "project"⟩
    else .error (.exception "Unauthorized")
  database := .ok ()
  time := 0

theorem ownDesk_grants : Grants ownRealm ownDesk where
  good := by
    rintro user token project access ⟨data, is, rfl⟩ given
    simp only [ownDesk] at given
    split at given
    · next fits =>
      cases given
      obtain ⟨known, rfl⟩ := fits
      have named : data.userId = "user" := by
        rcases own_tokens is with ⟨-, rfl⟩ | ⟨-, rfl⟩ | ⟨rfl, -⟩
        · rfl
        · rfl
        · exact absurd known (by decide)
      rw [named]
      exact ⟨by decide, rfl, rfl, _, _, rfl, rfl, rfl, rfl⟩
    · cases given

/-- The log of the project has the token of its user, from a login. -/
theorem own_log_gives_away : ∃ table, console.Run (fun _ a => Serving ownRealm a) [.entered "user" "project"] table ∧
    ∃ rows, getProjectLogs registered ownEnv table (some "scoped-project") = .ok rows ∧
      ∃ a ∈ rows, a.userId = "user" ∧ ∃ response, switchProject registered ownEnv (some a.token) "project" = .ok response ∧
        Opens ownRealm registered "user" "project" response := by
  have run : console.Run (fun _ a => Serving ownRealm a) [.entered "user" "project"] _ :=
    .step (a := .login ownApi (willing 0 "first-uuid") ownDesk site ownCredential) .start
      (by exact ⟨ownApi_serves, willing_up 0 "first-uuid", ownDesk_grants⟩) rfl
  obtain ⟨rows, listed, -, given⟩ := log_gives_away ownRealm _ _ run ownApi (willing 0 "first-uuid") ownApi_serves
    (willing_up 0 "first-uuid") rfl registered (some "scoped-project") "scoped-project" "user" "project" rfl
    ⟨_, _, rfl, rfl, rfl, rfl⟩
  obtain ⟨a, member, named, opens⟩ := given "user" List.mem_cons_self
  obtain ⟨response, switched, -, opened⟩ := opens "project" (own_enabled.mpr ⟨rfl, rfl⟩)
  exact ⟨_, run, rows, listed, a, member, named, response, switched, opened⟩

end Skyline.ActivityLog
