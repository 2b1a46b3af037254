import Skyline.SessionCookie

/-!
What the server asks Keystone for over HTTP: `client/openstack/keystone.py`, `get_projects`
and `get_project_scope_token` of `client/openstack/system.py`, and `_get_default_project_id`
of `api/v1/login.py`. A handler sees all of it as one Keystone, which is what the functions
here make of its answers.
-/
namespace Skyline.KeystoneApi
open Skyline.Python Skyline.Session Skyline.SessionCookie

/-! ## Answers -/

/-- An answer of Keystone, with what `resp.json()` gives. -/
structure Reply (α : Type) where
  statusCode : Nat
  text : String
  json : Except Exn α

/-- A project in a list of them, where the last three fields may be missing. -/
structure ProjectData where
  id : String
  name : String
  enabled : Option Bool
  domainId : Option String
  description : Option String

/-- The object that a project in a list is made into. -/
def ProjectData.entry (p : ProjectData) : String × ProjectEntry :=
  (p.id, ⟨p.name, p.enabled.getD true, p.domainId, p.description.getD ""⟩)

structure UserData extends UserInfo where
  defaultProjectId : Option String

/-- Keystone, as sessions and `httpx` reach it. A `GET` has the token that it is sent with
    before the path or the id that it asks for. -/
structure Api where
  /-- `session.get_token()` of the session of the system user. -/
  systemToken : Except Exn String
  /-- `session.get_token()` of a session for a domain, a name and a password. -/
  passwordToken : Option String → Option String → Option String → Except Exn String
  /-- `session.get_token()` of a session for a token. -/
  tokenToken : String → Except Exn String
  /-- `session.get_token()` of a session for a token and a project. -/
  scopedToken : String → String → Except Exn String
  /-- `GET /auth/tokens`, with the token that is asked about. -/
  token : String → String → Except Exn (Reply TokenData)
  /-- `GET /users/{id}`. -/
  user : String → String → Except Exn (Reply UserData)
  /-- `GET` of a path that lists projects, with its `projects`, where it has any. -/
  projects : String → String → Except Exn (Reply (List ProjectData))

section
variable (api : Api)

def getTokenData (token : String) : Except Exn TokenData := do
  let authToken ← api.systemToken
  let resp ← api.token authToken token
  if resp.statusCode = 200 then resp.json
  else throw (.exception ("Failed to get token data: " ++ toString resp.statusCode ++ " " ++ resp.text))

def getUser (id : String) : Except Exn UserData := do
  let authToken ← api.systemToken
  let resp ← api.user authToken id
  if resp.statusCode = 200 then resp.json
  else throw (.exception ("Failed to get user " ++ id ++ ": " ++ toString resp.statusCode ++ " " ++ resp.text))

def getProjects (user : String) : Except Exn (List (String × ProjectEntry)) := do
  let authToken ← api.systemToken
  let resp ← api.projects authToken ("/users/" ++ user ++ "/projects")
  if resp.statusCode = 200 then do
    let projectsData ← resp.json
    return projectsData.map ProjectData.entry
  else return []

def getProjectScopeToken (keystoneToken projectId : String) : Except Exn String :=
  api.scopedToken keystoneToken projectId

/-- The user whose default project is asked for: the one given, else the one of the session. -/
def defaultProjectOwner (systemToken : String) (session : Except Exn String) (userId : Option String) :
    Except Exn (Option String) :=
  match userId.filter truthy with
  | some userId => pure (some userId)
  | none => do
    let token ← session
    let resp ← api.token systemToken token
    if resp.statusCode = 200 then do
      let tokenData ← resp.json
      return some tokenData.userId
    else return none

/-- `_get_default_project_id`, of a session and what its `get_token()` gives. -/
def getDefaultProjectId (session : Except Exn String) (userId : Option String) : Except Exn (Option String) := do
  let systemToken ← api.systemToken
  match ← defaultProjectOwner api systemToken session userId with
  | none => return none
  | some userId => do
    let resp ← api.user systemToken userId
    if resp.statusCode = 200 then do
      let userData ← resp.json
      return userData.defaultProjectId
    else return none

/-! ## The Keystone of a handler -/

/-- A list of projects, as `_get_projects_and_unscope_token` reads it. -/
def listing (resp : Reply (List ProjectData)) : Except Exn ProjectsResponse :=
  if resp.statusCode = 200 then do
    let projectsData ← resp.json
    return ⟨resp.statusCode, resp.text, projectsData.map ProjectData.entry⟩
  else return ⟨resp.statusCode, resp.text, []⟩

/-- What signing in asks for. -/
def Api.keystone : Keystone where
  getToken := api.passwordToken
  get path token := do
    let resp ← api.projects token path
    listing resp
  getDefaultProjectId _ token := getDefaultProjectId api (api.tokenToken token) none

/-- What the rest of a handler asks for, beside what it asks others than Keystone. -/
def Api.env (others : Env) : Env :=
  { others with
    tokenData := fun token _ => getTokenData api token
    getUser := fun id _ => UserData.toUserInfo <$> getUser api id
    projectScopeToken := fun token _ projectId => getProjectScopeToken api token projectId
    getProjects := fun _ user => getProjects api user
    tokenProjects := fun region token => do
      let (projects, _, defaultProjectId) ←
        getProjectsAndUnscopeToken api.keystone region none none none (some token) false
      return (projects, defaultProjectId)
    getDefaultProjectId := fun _ user => getDefaultProjectId api api.systemToken (some user) }

end

end Skyline.KeystoneApi
