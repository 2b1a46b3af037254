import Skyline.Python
import Skyline.Services

/-!
Signup. `create_user` creates a project and sets its quotas, creates a user, assigns two
roles and adds a security group, each with a call to another service. There is no
transaction over these calls: where one fails, the function deletes what it has created so
far. A rollback is a call too, and what it raises leaves the function. A call takes effect
and is answered with the status of success, or it takes no effect and is answered with
another status or raises.
-/
namespace Skyline.Signup
open Skyline.Effects Skyline.Programs Skyline.Python
open Skyline.Services (Backend Delivery)

/-! ## Calls -/

structure SignupRequest where
  username : String
  password : String
  name : String
  email : String
  deriving DecidableEq, Repr

/-- The options that `create_user` reads. -/
structure Options where
  memberRoleId : String
  adminUserId : String
  adminRoleId : String
  novaQuotaInstances : Int
  novaQuotaCores : Int
  novaQuotaRam : Int
  cinderQuotaGigabytes : Int
  portforwardVmInternalIps : List String
  defaultRegion : String

structure ProjectPayload where
  name : String
  description : String
  domainId : String
  enabled : Bool
  deriving DecidableEq, Repr

structure UserPayload where
  name : String
  description : String
  domainId : String
  password : String
  defaultProjectId : String
  email : String
  deriving DecidableEq, Repr

structure SecurityGroupRule where
  sgId : String
  direction : String
  remoteIpPrefix : String
  protocol : Option String
  projectId : String
  deriving DecidableEq, Repr

/-- The functions whose first step is to ask the system session for its token. -/
inductive Caller
  | createUser
  | deleteProject (projectId : String)
  | deleteUser (userId : String)
  deriving DecidableEq, Repr

inductive Call
  | getToken (caller : Caller)
  | postProject (payload : ProjectPayload)
  | updateNovaQuotas (projectId : String) (instances cores ram : Int)
  | updateCinderQuotas (projectId : String) (gigabytes : Int)
  | postUser (payload : UserPayload)
  | putRole (projectId userId roleId : String)
  | postSecurityGroup (region name description projectId : String)
  | postSecurityGroupRule (region : String) (rule : SecurityGroupRule)
  | deleteProject (projectId : String)
  | deleteUser (userId : String)
  deriving DecidableEq, Repr

/-- A response of Keystone; the identifier is that of a project or user it has created. -/
structure Response where
  statusCode : Nat
  text : String
  id : String
  deriving DecidableEq, Repr

abbrev Call.Answer : Call → Type
  | postProject _ | postUser _ | putRole _ _ _ | deleteProject _ | deleteUser _ => Response
  | getToken _ | updateNovaQuotas _ _ _ _ | updateCinderQuotas _ _ | postSecurityGroupRule _ _ => Unit
  | postSecurityGroup _ _ _ _ => String

/-- The status with which Keystone says that a request took effect. -/
def Call.success : Call → Nat
  | postProject _ | postUser _ => 201
  | _ => 204

inductive Outcome (success : Nat)
  | succeeds
  | replies (statusCode : Nat) (text : String) (other : statusCode ≠ success)
  | raises (e : Exn)

structure Env where
  /-- What becomes of a call that was made `n` times before. -/
  outcome : (c : Call) → Nat → Outcome c.success
  /-- The identifiers of the project and the user that Keystone creates, and of the group. -/
  projectId : {id : String // truthy id = true}
  userId : {id : String // truthy id = true}
  sgId : String

/-- The answer of a call that took effect. -/
def Env.succeeded (env : Env) : (c : Call) → c.Answer
  | .postProject _ => ⟨201, "", env.projectId⟩
  | .postUser _ => ⟨201, "", env.userId⟩
  | .putRole _ _ _ | .deleteProject _ | .deleteUser _ => ⟨204, "", ""⟩
  | .getToken _ | .updateNovaQuotas _ _ _ _ | .updateCinderQuotas _ _ | .postSecurityGroupRule _ _ => ()
  | .postSecurityGroup _ _ _ _ => env.sgId

/-- What comes of another status: the requests to Keystone return it, and the client
    libraries of the other services raise. -/
def replied (statusCode : Nat) (text : String) : (c : Call) → Except Exn c.Answer
  | .postProject _ | .postUser _ | .putRole _ _ _ | .deleteProject _ | .deleteUser _ => .ok ⟨statusCode, text, ""⟩
  | .getToken _ | .updateNovaQuotas _ _ _ _ | .updateCinderQuotas _ _ | .postSecurityGroupRule _ _
  | .postSecurityGroup _ _ _ _ => .error (.exception text)

/-- A call that raises is not carried out. -/
def Outcome.delivery {success : Nat} : Outcome success → Delivery Exn
  | succeeds | replies .. => .answered
  | raises e => .refused e

/-- What comes of a call that was made `n` times before, and the calls that took effect then. -/
def Env.perform (env : Env) (n : Nat) (done : List Call) (c : Call) : Except Exn c.Answer × List Call :=
  match env.outcome c n with
  | .succeeds => (.ok (env.succeeded c), done ++ [c])
  | .replies statusCode text _ => (replied statusCode text c, done)
  | .raises e => (.error e, done)

def Env.backend (env : Env) : Backend Call.Answer Exn (List Call) where
  delivery c n := (env.outcome c n).delivery
  perform := env.perform

abbrev World : Type := Services.World Call (List Call)

/-- The calls that took effect. -/
abbrev World.done (w : World) : List Call := w.state

@[simp] theorem World.done_mk (done calls : List Call) : World.done ⟨done, calls⟩ = done := rfl

def World.start : World := ⟨[], []⟩

abbrev serve (env : Env) (c : Call) : Eff World Exn c.Answer := env.backend.serve c

abbrev Remote : Type → Type := Program Call.Answer Exn

def getToken (caller : Caller) : Remote Unit := Program.remote (Call.getToken caller)
def postProject (payload : ProjectPayload) : Remote Response := Program.remote (Call.postProject payload)
def postUser (payload : UserPayload) : Remote Response := Program.remote (Call.postUser payload)
def putRole (projectId userId roleId : String) : Remote Response := Program.remote (Call.putRole projectId userId roleId)

/-! ## Rollbacks -/

/-- Sends a request to delete something, with a token of its own. The status of the
    response is looked at, and nothing is done about it. -/
def deleteResource (caller : Caller) (request : Remote Response) : Remote Unit := do
  getToken caller
  let _ ← request
  return ()

def deleteProject (projectId : String) : Remote Unit :=
  deleteResource (.deleteProject projectId) (Program.remote (Call.deleteProject projectId))

def deleteUser (userId : String) : Remote Unit :=
  deleteResource (.deleteUser userId) (Program.remote (Call.deleteUser userId))

/-- `if id: delete(id)`, for a variable that may be `None`. -/
def ifTruthy (id : Option String) (delete : String → Remote Unit) : Remote Unit :=
  match id with
  | some id => if truthy id then delete id else pure ()
  | none => pure ()

/-- The handler at the end of `create_user`, with the variables as they are when a step raises. -/
def rollback (newProjectId newUserId : Option String) (e : Exn) : Remote (Bool × String) := do
  ifTruthy newUserId deleteUser
  ifTruthy newProjectId deleteProject
  return (false, e.str)

/-- What a part of the body of `create_user` comes to: a value to go on with, or an early
    return. -/
abbrev Part (α : Type) : Type := Except (Bool × String) α

/-- Runs a part inside the handler. -/
def during {α : Type} (newProjectId newUserId : Option String) (part : Remote (Part α)) : Remote (Part α) :=
  Program.attempt part fun e => do return .error (← rollback newProjectId newUserId e)

/-! ## The parts of `create_user` -/

def projectPayload (user : SignupRequest) : ProjectPayload where
  name := user.username ++ "-project"
  description := "Project for " ++ user.username
  domainId := "default"
  enabled := true

def userPayload (user : SignupRequest) (newProjectId : String) : UserPayload where
  name := user.username
  description := user.name
  domainId := "default"
  password := user.password
  defaultProjectId := newProjectId
  email := user.email

def createProject (user : SignupRequest) : Remote (Part String) := do
  let projectResp ← postProject (projectPayload user)
  if projectResp.statusCode ≠ 201 then return .error (false, "Failed to create project: " ++ projectResp.text)
  return .ok projectResp.id

/-- `update_quotas` of `nova.py` and of `cinder.py`. -/
def updateQuotas (m : Remote Unit) : Remote Unit := Program.attempt m fun e => Program.raise (.httpException 500 e.str)

def novaQuotas (options : Options) (projectId : String) : Call :=
  .updateNovaQuotas projectId options.novaQuotaInstances options.novaQuotaCores options.novaQuotaRam

def cinderQuotas (options : Options) (projectId : String) : Call :=
  .updateCinderQuotas projectId options.cinderQuotaGigabytes

def updateBothQuotas (options : Options) (newProjectId : String) : Remote (Part Unit) := do
  updateQuotas (Program.remote (novaQuotas options newProjectId))
  updateQuotas (Program.remote (cinderQuotas options newProjectId))
  return .ok ()

def setQuotas (options : Options) (newProjectId : String) : Remote (Part Unit) :=
  Program.attempt (updateBothQuotas options newProjectId) fun e => do
    deleteProject newProjectId
    return .error (false, "Failed to set quotas: " ++ e.str)

/-- `if not condition: raise Exception(message)`. -/
def require (condition : Bool) (message : String) : Remote Unit :=
  if condition then pure () else Program.raise (.exception message)

def createAccount (user : SignupRequest) (newProjectId : String) : Remote (Part String) := do
  let userResp ← postUser (userPayload user newProjectId)
  require (userResp.statusCode = 201) ("Failed to create user: " ++ userResp.text)
  return .ok userResp.id

/-- Puts an assignment of a role, and checks the status of the response. -/
def assignRole (failure projectId userId roleId : String) : Remote Unit := do
  let resp ← putRole projectId userId roleId
  require (resp.statusCode = 204) (failure ++ resp.text)

def assignRoles (options : Options) (newProjectId newUserId : String) : Remote (Part Unit) := do
  require (truthy options.memberRoleId) "Member role ID is not configured."
  assignRole "Failed to assign member role to user: " newProjectId newUserId options.memberRoleId
  require (truthy options.adminUserId && truthy options.adminRoleId) "Admin user ID or admin role ID is not configured."
  assignRole "Failed to assign admin role to admin user: " newProjectId options.adminUserId options.adminRoleId
  return .ok ()

/-- `create_security_group_rule` with the protocol `any` and no ports. -/
def createSecurityGroupRule (options : Options) (sgId direction remoteIpPrefix newProjectId : String) : Remote Unit :=
  Program.remote (Call.postSecurityGroupRule options.defaultRegion ⟨sgId, direction, remoteIpPrefix, none, newProjectId⟩)

def createSecurityGroup (options : Options) (newProjectId : String) : Remote Unit :=
  Program.attempt (do
    let sgId : String ← Program.remote (Call.postSecurityGroup options.defaultRegion "all-internal-allow"
      "Allow traffic only from port forwarding VMs" newProjectId)
    Program.forEach options.portforwardVmInternalIps fun vmIp =>
      createSecurityGroupRule options sgId "ingress" (vmIp ++ "/32") newProjectId
    createSecurityGroupRule options sgId "egress" "0.0.0.0/0" newProjectId) fun _ => pure ()

/-- The rest of `create_user` after the roles, and so on back to its beginning; a part that
    has returned early ends it. -/
def afterRoles (options : Options) (newProjectId : String) : Part Unit → Remote (Bool × String)
  | .error result => pure result
  | .ok () => do
    createSecurityGroup options newProjectId
    return (true, "User, project, and roles created successfully.")

def afterAccount (options : Options) (newProjectId : String) : Part String → Remote (Bool × String)
  | .error result => pure result
  | .ok newUserId =>
    during (some newProjectId) (some newUserId) (assignRoles options newProjectId newUserId) >>=
      afterRoles options newProjectId

def afterQuotas (options : Options) (user : SignupRequest) (newProjectId : String) : Part Unit → Remote (Bool × String)
  | .error result => pure result
  | .ok () => during (some newProjectId) none (createAccount user newProjectId) >>= afterAccount options newProjectId

def afterProject (options : Options) (user : SignupRequest) : Part String → Remote (Bool × String)
  | .error result => pure result
  | .ok newProjectId =>
    during (some newProjectId) none (setQuotas options newProjectId) >>= afterQuotas options user newProjectId

def createUser (options : Options) (user : SignupRequest) : Remote (Bool × String) := do
  getToken .createUser
  during none none (createProject user) >>= afterProject options user

end Skyline.Signup
