import Skyline.Effects
import Skyline.Python

/-!
Sessions: the payload of the session cookie and its JWT (`schemas/login.py`), the
profile that Keystone gives for it (`core/security.py`), and the table of revoked
tokens (`db/api.py`). A JWT is kept symbolic: its text is the key and the claims it
was made from, so only who has the key can make one that verifies.
-/
namespace Skyline.Session
open Skyline.Python Skyline.Effects

/-- The options that sessions read, of the groups `default` and `openstack`. -/
structure Conf where
  sessionName : String
  secretKey : String
  accessTokenExpire : Int
  accessTokenRenew : Int
  sslEnabled : Bool
  defaultRegion : String
  baseDomains : List String
  /-- `version.version_string()`. -/
  version : String

/-! ## Payloads and tokens -/

structure Payload where
  keystoneToken : String
  region : String
  exp : Int
  uuid : String
  deriving DecidableEq, Repr

/-- The claims of a JWT that are read here, where it has them. -/
structure Claims where
  keystoneToken : Option String
  region : Option String
  exp : Option Int
  uuid : Option String
  deriving DecidableEq, Repr

/-- The text of a cookie. -/
inductive Text
  | jwt (key : String) (claims : Claims)
  | plain (text : String)
  deriving DecidableEq, Repr

def Text.truthy : Text → Bool
  | .jwt _ _ => true
  | .plain text => Python.truthy text

def Payload.toDict (p : Payload) : Claims := ⟨some p.keystoneToken, some p.region, some p.exp, some p.uuid⟩

def Payload.toJWTPayload (conf : Conf) (p : Payload) : Text := .jwt conf.secretKey p.toDict

/-- `jose.jwt.decode`, which looks at the signature and then at the expiry. -/
def jwtDecode (key : String) (now : Int) : Text → Except Exn Claims
  | .jwt k claims =>
    if k = key then
      match claims.exp with
      | some exp => if exp < now then .error .expiredSignatureError else .ok claims
      | none => .ok claims
    else .error (.jwtError "Signature verification failed.")
  | .plain _ => .error (.jwtError "Not enough segments")

def parseAccessToken (conf : Conf) (now : Int) (token : Text) : Except Exn Payload := do
  let payload ← jwtDecode conf.secretKey now token
  let keystoneToken ← getitem payload.keystoneToken "keystone_token"
  let region ← getitem payload.region "region"
  let exp ← getitem payload.exp "exp"
  let uuid ← getitem payload.uuid "uuid"
  return { keystoneToken, region, exp, uuid }

/-- A token made here is read back until it expires. -/
theorem parseAccessToken_toJWTPayload (conf : Conf) (now : Int) (p : Payload) :
    parseAccessToken conf now (p.toJWTPayload conf) =
      if p.exp < now then .error .expiredSignatureError else .ok p := by
  by_cases expired : p.exp < now <;>
    simp [parseAccessToken, jwtDecode, Payload.toJWTPayload, Payload.toDict, getitem, expired, bind, Except.bind,
      pure, Except.pure]

theorem toJWTPayload_inj {conf : Conf} {p q : Payload} : p.toJWTPayload conf = q.toJWTPayload conf ↔ p = q := by
  cases p
  cases q
  simp [Payload.toJWTPayload, Payload.toDict]

/-! ## Profiles -/

structure Domain where
  id : String
  name : String
  deriving DecidableEq, Repr

structure Role where
  id : String
  name : String
  deriving DecidableEq, Repr

structure Project where
  id : String
  name : String
  domain : Domain
  deriving DecidableEq, Repr

structure User where
  id : String
  name : String
  domain : Domain
  email : Option String
  description : Option String
  deriving DecidableEq, Repr

structure ProjectEntry where
  name : String
  enabled : Bool
  domainId : Option String
  description : String
  deriving DecidableEq, Repr

/-- `schemas.Profile`, a payload with what Keystone knows about it. -/
structure Profile extends Payload where
  project : Project
  user : User
  roles : List Role
  keystoneTokenExp : String
  baseDomains : List String
  endpoints : Option (List (String × String)) := none
  projects : Option (List (String × ProjectEntry)) := none
  defaultProjectId : Option String := none
  version : String
  deriving DecidableEq, Repr

def Profile.toJWTPayload (conf : Conf) (profile : Profile) : Text := profile.toPayload.toJWTPayload conf

/-- What `get_token_data` returns of a token; an unscoped one has no project. -/
structure TokenData where
  userId : String
  userDomain : Domain
  project : Option Project
  roles : List Role
  expiresAt : String

structure UserInfo where
  id : String
  name : String
  email : Option String
  description : Option String

/-- What the clock, the random source, the database and Keystone answer while one
    part of a request is served. -/
structure Env where
  /-- `int(time.time())`. -/
  now : Int
  /-- `uuid.uuid4().hex`. -/
  uuid4 : String
  /-- Whether a database call goes through. -/
  database : Except Exn Unit
  systemSession : Except Exn Unit
  /-- `get_token_data`, of a token in a region. -/
  tokenData : String → String → Except Exn TokenData
  getUser : String → String → Except Exn UserInfo
  generateSession : Profile → Except Exn Unit
  /-- `revoke_token` of `client/openstack/keystone.py`, with the token to revoke. -/
  keystoneRevoke : Profile → String → Except Exn Unit
  /-- `create_activity`, with its category, message and result. -/
  createActivity : String → String → String → Except Exn Unit
  /-- `get_endpoint` and `session.invalidate` for a region and a token. -/
  invalidate : String → String → Except Exn Unit
  /-- `get_project_scope_token`, of a token in a region for a project. -/
  projectScopeToken : String → String → String → Except Exn String
  getEndpoints : String → Except Exn (List (String × String))
  /-- `get_projects`, in a region for a user. -/
  getProjects : String → String → Except Exn (List (String × ProjectEntry))
  /-- The projects and the default project that `_get_projects_and_unscope_token` finds
      in a region for a token. -/
  tokenProjects : String → String → Except Exn (List (String × ProjectEntry) × Option String)
  /-- `_get_default_project_id`, in a region for a user. -/
  getDefaultProjectId : String → String → Except Exn (Option String)

/-- `exp or int(time.time()) + CONF.default.access_token_expire`. -/
def expOr (conf : Conf) (now : Int) (exp : Option Int) : Int :=
  match exp with
  | some e => if e = 0 then now + conf.accessTokenExpire else e
  | none => now + conf.accessTokenExpire

/-- The `try` part of `generate_profile`. -/
def tokenIdentity (env : Env) (keystoneToken region : String) : Except Exn (TokenData × UserInfo) := do
  env.systemSession
  let tokenData ← env.tokenData keystoneToken region
  let userInfo ← env.getUser tokenData.userId region
  return (tokenData, userInfo)

def generateProfile (conf : Conf) (env : Env) (keystoneToken region : String) (exp : Option Int)
    (uuidValue : Option String) : Except Exn Profile :=
  match tokenIdentity env keystoneToken region with
  | .error _ => .error (.httpException 401 "Authentication failed")
  | .ok (tokenData, userInfo) => do
    let project ← getitem tokenData.project "project"
    return {
      keystoneToken := keystoneToken
      region := region
      project := project
      user := ⟨userInfo.id, userInfo.name, tokenData.userDomain, userInfo.email, userInfo.description⟩
      roles := tokenData.roles
      keystoneTokenExp := tokenData.expiresAt
      baseDomains := conf.baseDomains
      version := conf.version
      exp := expOr conf env.now exp
      uuid := orElse uuidValue env.uuid4 }

def generateProfileByToken (conf : Conf) (env : Env) (token : Payload) : Except Exn Profile :=
  generateProfile conf env token.keystoneToken token.region (some token.exp) (some token.uuid)

theorem generateProfile_ok {conf : Conf} {env : Env} {keystoneToken region : String} {exp : Option Int}
    {uuidValue : Option String} {profile : Profile}
    (generated : generateProfile conf env keystoneToken region exp uuidValue = .ok profile) :
    profile.toPayload = ⟨keystoneToken, region, expOr conf env.now exp, orElse uuidValue env.uuid4⟩ := by
  unfold generateProfile at generated
  split at generated
  · cases generated
  · next tokenData userInfo _ =>
    cases named : tokenData.project with
    | none =>
      rw [named] at generated
      cases generated
    | some project =>
      rw [named] at generated
      cases generated
      rfl

/-! ## Revoked tokens -/

structure RevokedToken where
  uuid : String
  expire : Int
  deriving DecidableEq, Repr

/-- `RevokedToken`, whose index on `uuid` is not unique. -/
abbrev RevokedTable := List RevokedToken

def checkToken (table : RevokedTable) (tokenId : String) : Bool :=
  0 < (table.filter (fun r => r.uuid == tokenId)).length

def revokeToken (table : RevokedTable) (tokenId : String) (expire : Int) : RevokedTable :=
  table ++ [⟨tokenId, expire⟩]

def purgeRevokedToken (table : RevokedTable) (time : Int) : RevokedTable :=
  let now := time - 1
  table.filter (fun r => !(r.expire < now))

theorem checkToken_iff {table : RevokedTable} {tokenId : String} :
    checkToken table tokenId = true ↔ ∃ r ∈ table, r.uuid = tokenId := by
  simp [checkToken, List.length_pos_iff_exists_mem]

theorem mem_revokeToken {table : RevokedTable} {tokenId : String} {expire : Int} {r : RevokedToken} :
    r ∈ revokeToken table tokenId expire ↔ r ∈ table ∨ r = ⟨tokenId, expire⟩ := by
  simp [revokeToken]

theorem mem_purgeRevokedToken {table : RevokedTable} {time : Int} {r : RevokedToken} :
    r ∈ purgeRevokedToken table time ↔ r ∈ table ∧ time - 1 ≤ r.expire := by
  simp [purgeRevokedToken]

theorem checkToken_mono {table table' : RevokedTable} {tokenId : String} (grows : ∀ r ∈ table, r ∈ table')
    (revoked : checkToken table tokenId = true) : checkToken table' tokenId = true := by
  obtain ⟨r, member, same⟩ := checkToken_iff.mp revoked
  exact checkToken_iff.mpr ⟨r, grows r member, same⟩

/-! ## A deployment -/

/-- The options as they are registered. -/
def registered : Conf where
  sessionName := "session"
  secretKey := "aCtmgbcUqYUy_HNVg5BDXCaeJgJQzHJXwqbXr0Nmb2o"
  accessTokenExpire := 3600
  accessTokenRenew := 1800
  sslEnabled := true
  defaultRegion := "RegionOne"
  baseDomains := ["heat_user_domain"]
  version := "1.0.0"

def loginSession : Payload := ⟨"keystone-token", "RegionOne", 3600, "first-uuid"⟩

/-- A world in which Keystone knows every token. -/
def willing (now : Int) (uuid4 : String) : Env where
  now := now
  uuid4 := uuid4
  database := .ok ()
  systemSession := .ok ()
  tokenData _ _ := .ok ⟨"user", ⟨"default", "Default"⟩, some ⟨"project", "web", ⟨"default", "Default"⟩⟩, [], ""⟩
  getUser i _ := .ok ⟨i, "owner", none, none⟩
  generateSession _ := .ok ()
  keystoneRevoke _ _ := .ok ()
  createActivity _ _ _ := .ok ()
  invalidate _ _ := .ok ()
  projectScopeToken _ _ projectId := .ok ("scoped-" ++ projectId)
  getEndpoints _ := .ok []
  getProjects _ _ := .ok [("project", ⟨"web", true, none, ""⟩)]
  tokenProjects _ _ := .ok ([], none)
  getDefaultProjectId _ _ := .ok none

def willingProfile (conf : Conf) (now : Int) (session : Payload) (uuid4 : String) : Profile where
  keystoneToken := session.keystoneToken
  region := session.region
  exp := expOr conf now (some session.exp)
  uuid := orElse (some session.uuid) uuid4
  project := ⟨"project", "web", ⟨"default", "Default"⟩⟩
  user := ⟨"user", "owner", ⟨"default", "Default"⟩, none, none⟩
  roles := []
  keystoneTokenExp := ""
  baseDomains := conf.baseDomains
  version := conf.version

theorem willing_generates (conf : Conf) (now : Int) (session : Payload) (uuid4 : String) :
    generateProfileByToken conf (willing now uuid4) session = .ok (willingProfile conf now session uuid4) := rfl

/-- A member of the project, with no role in the system. -/
def member : Profile := willingProfile registered 0 loginSession "member-uuid"

end Skyline.Session
