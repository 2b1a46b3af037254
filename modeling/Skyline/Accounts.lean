import Skyline.SigningIn
import Skyline.Signup
import Skyline.Threads

/-!
The accounts of the console. `POST /signup` has Keystone make a project, a user and two role
assignments, one call after the other, and deletes what it has made where a call fails;
`POST /change-password` has it set a password. Requests overlap: the calls of one come between
those of another, and some are lost. Whoever is told that the signup succeeded can log in to
a project of their own, and who had an account before still has it as it was.
-/
namespace Skyline.Accounts
open Skyline.Python Skyline.Effects Skyline.Programs Skyline.Runs Skyline.Threads Skyline.Signup
open Skyline.Session (TokenData)
open Skyline.KeystoneApi (UserData ProjectData)
open Skyline.SigningIn (Realm)

/-! ## The requests -/

structure ChangePasswordBody where
  originalPassword : String
  password : String
  deriving DecidableEq, Repr

inductive Call
  | signup (c : Signup.Call)
  /-- `POST /users/{user_id}/password`, with the token of the user. -/
  | postPassword (userId keystoneToken : String) (body : ChangePasswordBody)
  deriving DecidableEq

abbrev Call.Answer : Call → Type
  | signup c => c.Answer
  | postPassword _ _ _ => Response

abbrev Remote : Type → Type := Program Call.Answer Exn

def ofSignup {α : Type} (m : Signup.Remote α) : Remote α := m.lift Call.signup fun _ a => a

/-- What an endpoint makes of `success, msg`. -/
def answer : Bool × String → Remote String
  | (true, msg) => pure msg
  | (false, msg) => Program.raise (.httpException 400 msg)

def signup (options : Options) (user : SignupRequest) : Remote String := ofSignup (createUser options user) >>= answer

def changePassword (userId keystoneToken : String) (body : ChangePasswordBody) : Remote (Bool × String) := do
  let resp : Response ← Program.remote (Call.postPassword userId keystoneToken body)
  if resp.statusCode = 204 then return (true, "Password changed successfully.")
  if resp.statusCode = 401 then return (false, "Current password is incorrect.")
  if resp.statusCode = 403 then return (false, "Permission denied.")
  return (false, "Failed to change password: " ++ resp.text)

/-- `change_user_password`, of the user and the token in the profile. -/
def changeUserPassword (userId keystoneToken : String) (body : ChangePasswordBody) : Remote String :=
  changePassword userId keystoneToken body >>= answer

inductive Job
  | signup (user : SignupRequest)
  | changePassword (userId keystoneToken : String) (body : ChangePasswordBody)
  deriving DecidableEq

def program (options : Options) : Job → Remote String
  | .signup user => Accounts.signup options user
  | .changePassword userId keystoneToken body => changeUserPassword userId keystoneToken body

/-! ## Keystone -/

abbrev Id : Type := {id : String // truthy id = true}

structure User where
  id : Id
  name : String
  domainId : String
  password : String
  defaultProjectId : Option String
  email : String
  description : String

structure Project where
  id : Id
  name : String
  domainId : String
  description : String
  enabled : Bool

structure Assignment where
  projectId : String
  userId : String
  roleId : String

structure Keystone where
  users : List User
  projects : List Project
  assignments : List Assignment

namespace Keystone

/-- No user of the domain has the name. -/
def Free (k : Keystone) (payload : UserPayload) : Prop :=
  ¬ ∃ u ∈ k.users, u.domainId = payload.domainId ∧ u.name = payload.name

def withUser (k : Keystone) (id : Id) (payload : UserPayload) : Keystone :=
  { k with users := k.users ++ [⟨id, payload.name, payload.domainId, payload.password, some payload.defaultProjectId,
    payload.email, payload.description⟩] }

def withProject (k : Keystone) (id : Id) (payload : ProjectPayload) : Keystone :=
  { k with projects := k.projects ++ [⟨id, payload.name, payload.domainId, payload.description, payload.enabled⟩] }

def withAssignment (k : Keystone) (a : Assignment) : Keystone := { k with assignments := k.assignments ++ [a] }

def withoutUser (k : Keystone) (id : String) : Keystone :=
  { k with
    users := k.users.filter fun u => u.id.1 ≠ id
    assignments := k.assignments.filter fun a => a.userId ≠ id }

def withoutProject (k : Keystone) (id : String) : Keystone :=
  { k with
    projects := k.projects.filter fun p => p.id.1 ≠ id
    assignments := k.assignments.filter fun a => a.projectId ≠ id }

def withPassword (k : Keystone) (id password : String) : Keystone :=
  { k with users := k.users.map fun u => if u.id.1 = id then { u with password } else u }

end Keystone

/-- Calls that change neither projects nor users nor roles. -/
def Call.SparesKeystone : Call → Prop
  | .signup (.postProject _) | .signup (.postUser _) | .signup (.putRole _ _ _) | .signup (.deleteProject _)
  | .signup (.deleteUser _) | .postPassword _ _ _ => False
  | _ => True

/-- What is relied on of Keystone: what it does with a call, and answers. What a call makes gets
    the id `id`. -/
structure KeystoneService where
  perform (k : Keystone) (id : Id) : (c : Call) → c.Answer × Keystone
  /-- A user that is made has a name of its own in its domain. -/
  postUser {k id payload} {resp : Response} {k'} : perform k id (.signup (.postUser payload)) = (resp, k') →
    (resp.statusCode = 201 ∧ resp.id = id ∧ k.Free payload ∧ k' = k.withUser id payload) ∨
      (resp.statusCode ≠ 201 ∧ k' = k)
  postProject {k id payload} {resp : Response} {k'} : perform k id (.signup (.postProject payload)) = (resp, k') →
    (resp.statusCode = 201 ∧ resp.id = id ∧ k' = k.withProject id payload) ∨ (resp.statusCode ≠ 201 ∧ k' = k)
  putRole {k id projectId userId roleId} {resp : Response} {k'} :
    perform k id (.signup (.putRole projectId userId roleId)) = (resp, k') →
      (resp.statusCode = 204 ∧ k' = k.withAssignment ⟨projectId, userId, roleId⟩) ∨ (resp.statusCode ≠ 204 ∧ k' = k)
  deleteUser {k id userId} {resp : Response} {k'} : perform k id (.signup (.deleteUser userId)) = (resp, k') →
    k' = k.withoutUser userId ∨ k' = k
  deleteProject {k id projectId} {resp : Response} {k'} :
    perform k id (.signup (.deleteProject projectId)) = (resp, k') → k' = k.withoutProject projectId ∨ k' = k
  postPassword {k id userId keystoneToken body} {resp : Response} {k'} :
    perform k id (.postPassword userId keystoneToken body) = (resp, k') → k' = k.withPassword userId body.password ∨ k' = k
  spares {k id c} : c.SparesKeystone → (perform k id c).2 = k

/-- What becomes of a call. -/
inductive Fate
  | answered
  /-- It is carried out, and its answer does not arrive. -/
  | lost (e : Exn)
  /-- It is not carried out, and raises or is answered with a status of failure. -/
  | raises (e : Exn)
  | refused (statusCode : Nat) (text : String) (failure : 400 ≤ statusCode)

structure Env where
  fate : Nat → Fate
  /-- What is made by the call of a number is given this id. -/
  newId : Nat → Id
  service : KeystoneService

structure World where
  keystone : Keystone
  /-- The number of the next call. -/
  calls : Nat

/-- What a status of failure comes to. -/
def refusal (statusCode : Nat) (text : String) : (c : Call) → Except Exn c.Answer
  | .signup c => replied statusCode text c
  | .postPassword _ _ _ => .ok ⟨statusCode, text, ""⟩

def serve (env : Env) (c : Call) : Eff World Exn c.Answer := fun w =>
  let (a, keystone) := env.service.perform w.keystone (env.newId w.calls) c
  match env.fate w.calls with
  | .answered => (.ok a, ⟨keystone, w.calls + 1⟩)
  | .lost e => (.error e, ⟨keystone, w.calls + 1⟩)
  | .raises e => (.error e, ⟨w.keystone, w.calls + 1⟩)
  | .refused statusCode text _ => (refusal statusCode text c, ⟨w.keystone, w.calls + 1⟩)

abbrev Work : Type := Thread Job Call.Answer Exn String
abbrev Works : Type := Pool World Job Call.Answer Exn String

/-- All the ways in which the calls of the requests interleave. -/
def requests (env : Env) (options : Options) (k : Keystone) : System Works (Label Job) (Label Job) :=
  pool (serve env) (program options) ⟨k, 0⟩

/-! ## Keystone as it is documented -/

namespace Keystone

def addUser (k : Keystone) (id : Id) (payload : UserPayload) : Response × Keystone :=
  if ∃ u ∈ k.users, u.domainId = payload.domainId ∧ u.name = payload.name then (⟨409, "Conflict", ""⟩, k)
  else (⟨201, "", id⟩, k.withUser id payload)

/-- The names of projects are unique in a domain, too. -/
def addProject (k : Keystone) (id : Id) (payload : ProjectPayload) : Response × Keystone :=
  if ∃ p ∈ k.projects, p.domainId = payload.domainId ∧ p.name = payload.name then (⟨409, "Conflict", ""⟩, k)
  else (⟨201, "", id⟩, k.withProject id payload)

def assign (k : Keystone) (projectId userId roleId : String) : Response × Keystone :=
  if (∃ p ∈ k.projects, p.id.1 = projectId) ∧ ∃ u ∈ k.users, u.id.1 = userId then
    (⟨204, "", ""⟩, k.withAssignment ⟨projectId, userId, roleId⟩)
  else (⟨404, "Not Found", ""⟩, k)

/-- The password of a user is set where the old one is right. -/
def setPassword (k : Keystone) (id : String) (body : ChangePasswordBody) : Response × Keystone :=
  if ∃ u ∈ k.users, u.id.1 = id ∧ u.password = body.originalPassword then (⟨204, "", ""⟩, k.withPassword id body.password)
  else (⟨401, "Unauthorized", ""⟩, k)

def perform (k : Keystone) (id : Id) : (c : Call) → c.Answer × Keystone
  | .signup (.postProject payload) => k.addProject id payload
  | .signup (.postUser payload) => k.addUser id payload
  | .signup (.putRole projectId userId roleId) => k.assign projectId userId roleId
  | .signup (.deleteProject projectId) => (⟨204, "", ""⟩, k.withoutProject projectId)
  | .signup (.deleteUser userId) => (⟨204, "", ""⟩, k.withoutUser userId)
  | .signup (.getToken _) | .signup (.updateNovaQuotas _ _ _ _) | .signup (.updateCinderQuotas _ _)
  | .signup (.postSecurityGroupRule _ _) => ((), k)
  | .signup (.postSecurityGroup _ _ _ _) => (id.1, k)
  | .postPassword userId _ body => k.setPassword userId body

end Keystone

def documentedKeystone : KeystoneService where
  perform := Keystone.perform
  postUser {k id payload _ _} performed := by
    change k.addUser id payload = _ at performed
    unfold Keystone.addUser at performed
    split at performed
    · cases performed
      exact .inr ⟨by decide, rfl⟩
    · next free =>
      cases performed
      exact .inl ⟨rfl, rfl, free, rfl⟩
  postProject {k id payload _ _} performed := by
    change k.addProject id payload = _ at performed
    unfold Keystone.addProject at performed
    split at performed
    · cases performed
      exact .inr ⟨by decide, rfl⟩
    · cases performed
      exact .inl ⟨rfl, rfl, rfl⟩
  putRole {k _ projectId userId roleId _ _} performed := by
    change k.assign projectId userId roleId = _ at performed
    unfold Keystone.assign at performed
    split at performed
    · cases performed
      exact .inl ⟨rfl, rfl⟩
    · cases performed
      exact .inr ⟨by decide, rfl⟩
  deleteUser performed := .inl (congrArg Prod.snd performed).symm
  deleteProject performed := .inl (congrArg Prod.snd performed).symm
  postPassword {k _ userId _ body _ _} performed := by
    change k.setPassword userId body = _ at performed
    unfold Keystone.setPassword at performed
    split at performed
    · cases performed
      exact .inl rfl
    · cases performed
      exact .inr rfl
  spares {_ _ c} spares := by
    cases c with
    | signup c => cases c <;> first | rfl | exact spares.elim
    | postPassword _ _ _ => exact spares.elim

/-! ## What signing in sees of it -/

def User.data (u : User) : UserData := ⟨⟨u.id, u.name, some u.email, some u.description⟩, u.defaultProjectId⟩

def Project.data (p : Project) : ProjectData := ⟨p.id, p.name, some p.enabled, some p.domainId, some p.description⟩

namespace Keystone

def account (k : Keystone) (domainId name password : String) : Option User :=
  k.users.find? fun u => u.domainId = domainId ∧ u.name = name ∧ u.password = password

/-- The projects that a user has a role in. -/
def projectsOf (k : Keystone) (userId : String) : List Project :=
  k.projects.filter fun p => ∃ a ∈ k.assignments, a.projectId = p.id ∧ a.userId = userId

/-- The realm of the users and projects, with the ids of the domains of each name and the tokens
    given out. -/
def realm (k : Keystone) (domains : String → Option String) (tokens : String → Option TokenData) : Realm where
  account domain name password := do
    let domainId ← domains domain
    let u ← k.account domainId name password
    return u.id
  tokens := tokens
  users userId := (k.users.find? fun u => u.id = userId).map User.data
  projects userId := (k.projectsOf userId).map Project.data
  named userId p member := by
    obtain ⟨q, _, rfl⟩ := List.mem_map.mp member
    intro empty
    have nonempty := q.id.2
    rw [show q.id.1 = "" from empty] at nonempty
    cases nonempty
  nobody := by
    rw [Option.map_eq_none_iff, List.find?_eq_none]
    intro u _ empty
    have nonempty := u.id.2
    rw [of_decide_eq_true empty] at nonempty
    cases nonempty

end Keystone

/-! ## The phases of a request -/

inductive Phase
  /-- A signup whose project is not there. -/
  | asking (user : SignupRequest)
  | housed (user : SignupRequest) (projectId : String)
  | registered (user : SignupRequest) (projectId userId : String)
  /-- The user has the role of a member. -/
  | member (user : SignupRequest) (projectId userId : String)
  | undoing (projectId : String) (userId : Option String)
  | changing (userId : String) (body : ChangePasswordBody)

/-- What a signup has done in a phase, and what it makes of the answers. -/
def making (options : Options) : Protocol Signup.Call.Answer Exn Phase where
  may
    | .asking user, c => c = .getToken .createUser ∨ c = .postProject (projectPayload user)
    | .housed user projectId, c => c = novaQuotas options projectId ∨ c = cinderQuotas options projectId ∨
      c = .postUser (userPayload user projectId) ∨ c = .getToken (.deleteProject projectId)
    | .registered _ projectId userId, c => c = .putRole projectId userId options.memberRoleId ∨
      c = .getToken (.deleteUser userId) ∨ c = .getToken (.deleteProject projectId)
    | .member _ projectId userId, c => c = .putRole projectId options.adminUserId options.adminRoleId ∨
      c = .getToken (.deleteUser userId) ∨ c = .getToken (.deleteProject projectId) ∨
        (∃ region name description, c = .postSecurityGroup region name description projectId) ∨
          ∃ region rule, c = .postSecurityGroupRule region rule
    | .undoing projectId userId, c => c = .getToken (.deleteProject projectId) ∨ c = .deleteProject projectId ∨
      ∃ i ∈ userId, c = .getToken (.deleteUser i) ∨ c = .deleteUser i
    | .changing _ _, _ => False
  next
    | .asking user, .postProject _, .ok (resp : Response) =>
      if resp.statusCode = 201 then .housed user resp.id else .asking user
    | .housed user projectId, .postUser _, .ok (resp : Response) =>
      if resp.statusCode = 201 then .registered user projectId resp.id else .housed user projectId
    | .housed _ projectId, .getToken _, _ => .undoing projectId none
    | .registered user projectId userId, .putRole _ _ _, .ok (resp : Response) =>
      if resp.statusCode = 204 then .member user projectId userId else .registered user projectId userId
    | .registered _ projectId userId, .getToken _, _ => .undoing projectId (some userId)
    | .member _ projectId userId, .getToken _, _ => .undoing projectId (some userId)
    | q, _, _ => q

def steps (options : Options) : Protocol Call.Answer Exn Phase where
  may
    | q, .signup c => (making options).may q c
    | .changing userId body, .postPassword i _ b => i = userId ∧ b = body
    | _, _ => False
  next
    | q, .signup c, r => (making options).next q c r
    | q, _, _ => q

def begun : Job → Phase
  | .signup user => .asking user
  | .changePassword userId _ body => .changing userId body

/-- A signup that succeeds has got as far as the roles. -/
def Fits : Job → Except Exn String → Phase → Prop
  | .signup user, .ok _, q => ∃ projectId userId, q = .member user projectId userId
  | _, _, _ => True

/-! ## Requests keep to their phases -/

section
variable {options : Options} {q : Phase} {projectId : String} {userId : Option String}

variable (options) in
/-- A rollback may begin. -/
def Leaving (projectId : String) (userId : Option String) (q : Phase) : Prop :=
  ∀ caller, caller = .deleteProject projectId ∨ (∃ i ∈ userId, caller = .deleteUser i) →
    (making options).may q (.getToken caller) ∧
      ∀ r, (making options).next q (.getToken caller) r = .undoing projectId userId

theorem leaving_housed (user : SignupRequest) (projectId : String) :
    Leaving options projectId none (.housed user projectId) := by
  rintro _ (rfl | ⟨_, none, _⟩)
  · exact ⟨.inr (.inr (.inr rfl)), fun _ => rfl⟩
  · cases none

theorem leaving_registered (user : SignupRequest) (projectId userId : String) :
    Leaving options projectId (some userId) (.registered user projectId userId) := by
  rintro _ (rfl | ⟨_, same, rfl⟩)
  · exact ⟨.inr (.inr rfl), fun _ => rfl⟩
  · obtain rfl := Option.mem_some_iff.mp same
    exact ⟨.inr (.inl rfl), fun _ => rfl⟩

theorem leaving_member (user : SignupRequest) (projectId userId : String) :
    Leaving options projectId (some userId) (.member user projectId userId) := by
  rintro _ (rfl | ⟨_, same, rfl⟩)
  · exact ⟨.inr (.inr (.inl rfl)), fun _ => rfl⟩
  · obtain rfl := Option.mem_some_iff.mp same
    exact ⟨.inr (.inl rfl), fun _ => rfl⟩

theorem leaving_undoing (projectId : String) (userId : Option String) :
    Leaving options projectId userId (.undoing projectId userId) := by
  rintro _ (rfl | ⟨i, among, rfl⟩)
  · exact ⟨.inl rfl, fun _ => rfl⟩
  · exact ⟨.inr (.inr ⟨i, among, .inl rfl⟩), fun _ => rfl⟩

theorem undoing_follows {α : Type} {m : Signup.Remote α} {post : Except Exn α → Phase → Prop}
    (uses : m.Uses ((making options).may (.undoing projectId userId))) (fits : ∀ r, post r (.undoing projectId userId)) :
    Follows (making options) post m (.undoing projectId userId) :=
  .of_uses (fun _ may => may) (fun _ _ _ => rfl) uses fits

/-- A rollback that is left to begin still may, and one that has begun may go on. -/
theorem deleteResource_follows {caller : Caller} {request : Signup.Remote Response}
    (leaving : Leaving options projectId userId q)
    (known : caller = .deleteProject projectId ∨ ∃ i ∈ userId, caller = .deleteUser i)
    (uses : request.Uses ((making options).may (.undoing projectId userId))) :
    Follows (making options) (fun _ q => Leaving options projectId userId q) (deleteResource caller request) q := by
  obtain ⟨may, next⟩ := leaving caller known
  refine .bind (.remote may fun r => ?_)
  rw [next]
  cases r with
  | error e => exact leaving_undoing projectId userId
  | ok _ => exact undoing_follows (.bind uses fun _ => .pure ()) fun _ => leaving_undoing projectId userId

theorem ifTruthy_follows {id : Option String} {delete : String → Signup.Remote Unit}
    (leaving : Leaving options projectId userId q)
    (deletes : ∀ i ∈ id, Follows (making options) (fun _ q => Leaving options projectId userId q) (delete i) q) :
    Follows (making options) (fun _ q => Leaving options projectId userId q) (ifTruthy id delete) q := by
  cases id with
  | none => exact leaving
  | some i => exact .ite (fun _ => deletes i rfl) fun _ => leaving

/-- What ends the signup is no success. -/
def Unsuccessful : Except Exn (Bool × String) → Phase → Prop
  | .ok (success, _), _ => success = false
  | .error _, _ => True

theorem rollback_follows (leaving : Leaving options projectId userId q) (e : Exn) :
    Follows (making options) Unsuccessful (rollback (some projectId) userId e) q := by
  refine .bind ((ifTruthy_follows leaving fun i among => ?_).weaken fun r q leaving => ?_)
  · exact deleteResource_follows leaving (.inr ⟨i, among, rfl⟩) (.remote (.inr (.inr ⟨i, among, .inr rfl⟩)))
  · cases r with
    | error e => exact trivial
    | ok _ =>
      refine .bind ((ifTruthy_follows leaving fun i among => ?_).weaken fun r q _ => ?_)
      · obtain rfl := Option.mem_some_iff.mp among
        exact deleteResource_follows leaving (.inl rfl) (.remote (.inr (.inl rfl)))
      · cases r with
        | error e => exact trivial
        | ok _ => exact .pure rfl

/-- A part that is run through has come to a phase, and one that is not ends the signup. -/
def Reached {α : Type} (good : α → Phase → Prop) : Except Exn (Signup.Part α) → Phase → Prop
  | .ok (.ok a), q => good a q
  | .ok (.error (success, _)), _ => success = false
  | .error _, _ => True

/-- Where the part raises, there is something to roll back. -/
def Held (options : Options) {α : Type} (good : α → Phase → Prop) (projectId : String) (userId : Option String) :
    Except Exn (Signup.Part α) → Phase → Prop
  | .ok v, q => Reached good (.ok v) q
  | .error _, q => Leaving options projectId userId q

variable {α : Type} {good : α → Phase → Prop} {user : SignupRequest}

theorem during_follows {part : Signup.Remote (Signup.Part α)}
    (body : Follows (making options) (Held options good projectId userId) part q) :
    Follows (making options) (Reached good) (during (some projectId) userId part) q := by
  refine .attempt (body.weaken fun r q held => ?_)
  cases r with
  | ok v => exact held
  | error e =>
    refine .bind ((rollback_follows held e).weaken fun r q unsuccessful => ?_)
    cases r with
    | ok _ => exact .pure unsuccessful
    | error _ => exact trivial

theorem require_follows {post : Except Exn Unit → Phase → Prop} {condition : Bool} {message : String}
    (holds : condition = true → post (.ok ()) q) (fails : condition = false → post (.error (.exception message)) q) :
    Follows (making options) post (require condition message) q :=
  .ite (fun true => .pure (holds true)) fun other => .raise (fails (Bool.eq_false_iff.mpr other))

theorem createProject_follows (user : SignupRequest) : Follows (making options) (Reached fun projectId q =>
    q = .housed user projectId) (during none none (createProject user)) (.asking user) := by
  refine .attempt (.bind (.remote (.inr rfl) fun r => ?_))
  cases r with
  | error e => exact .pure rfl
  | ok resp =>
    refine .ite (fun _ => .pure rfl) fun created => .pure ?_
    exact if_pos (not_not.mp created)

theorem updateQuotas_follows {c : Signup.Call} {m : Signup.Remote Unit}
    (quotas : c = novaQuotas options projectId ∨ c = cinderQuotas options projectId) (only : m.Uses (· = c)) :
    Follows (making options) (fun _ q => q = .housed user projectId) (updateQuotas m) (.housed user projectId) := by
  have uses : (updateQuotas m).Uses (· = c) := .attempt only fun _ => .raise _
  refine .of_uses ?_ ?_ uses fun _ => rfl
  · rintro _ rfl
    exact quotas.imp_right .inl
  · rintro _ r rfl
    rcases quotas with rfl | rfl <;> rfl

theorem setQuotas_follows (user : SignupRequest) (projectId : String) : Follows (making options)
    (Reached fun _ q => q = .housed user projectId) (during (some projectId) none (setQuotas options projectId))
    (.housed user projectId) := by
  have failed (e : Exn) : Follows (making options) (Held options (fun (_ : Unit) q => q = .housed user projectId) projectId none)
      (do deleteProject projectId; return .error (false, "Failed to set quotas: " ++ e.str)) (.housed user projectId) := by
    refine .bind ((deleteResource_follows (leaving_housed user projectId) (.inl rfl) (.remote (.inr (.inl rfl)))).weaken ?_)
    intro r q leaving
    cases r with
    | ok _ => exact .pure rfl
    | error e => exact leaving
  refine during_follows (.attempt (.bind ((updateQuotas_follows (.inl rfl) (.remote rfl)).weaken fun r q same => ?_)))
  obtain rfl := same
  cases r with
  | error e => exact failed e
  | ok _ =>
    refine .bind ((updateQuotas_follows (.inr rfl) (.remote rfl)).weaken fun r q same => ?_)
    obtain rfl := same
    cases r with
    | error e => exact failed e
    | ok _ => exact .pure rfl

theorem createAccount_follows (user : SignupRequest) (projectId : String) : Follows (making options)
    (Reached fun userId q => q = .registered user projectId userId)
    (during (some projectId) none (createAccount user projectId)) (.housed user projectId) := by
  refine during_follows (.bind (.remote (.inr (.inr (.inl rfl))) fun r => ?_))
  cases r with
  | error e => exact leaving_housed user projectId
  | ok resp =>
    refine .bind (require_follows (fun created => ?_) fun refused => ?_)
    · exact .pure (if_pos (of_decide_eq_true created))
    · show Leaving options projectId none (if _ then _ else _)
      rw [if_neg (of_decide_eq_false refused)]
      exact leaving_housed user projectId

theorem assignRole_follows (failure projectId userId roleId : String) {post : Except Exn Unit → Phase → Prop}
    (may : (making options).may q (.putRole projectId userId roleId))
    (assigned : ∀ resp : Response, resp.statusCode = 204 →
      post (.ok ()) ((making options).next q (.putRole projectId userId roleId) (.ok resp)))
    (refused : ∀ resp : Response, resp.statusCode ≠ 204 → ∀ e,
      post (.error e) ((making options).next q (.putRole projectId userId roleId) (.ok resp)))
    (failed : ∀ e, post (.error e) ((making options).next q (.putRole projectId userId roleId) (.error e))) :
    Follows (making options) post (assignRole failure projectId userId roleId) q := by
  refine .bind (.remote may fun r => ?_)
  cases r with
  | error e => exact failed e
  | ok resp =>
    exact require_follows (fun taken => assigned resp (of_decide_eq_true taken)) fun other =>
      refused resp (of_decide_eq_false other) _

theorem assignRoles_follows (user : SignupRequest) (projectId userId : String) : Follows (making options)
    (Reached fun _ q => q = .member user projectId userId)
    (during (some projectId) (some userId) (assignRoles options projectId userId)) (.registered user projectId userId) := by
  have leaving : Leaving options projectId (some userId) (.registered user projectId userId) :=
    leaving_registered user projectId userId
  have leavingMember : Leaving options projectId (some userId) (.member user projectId userId) :=
    leaving_member user projectId userId
  refine during_follows (.bind (require_follows (fun _ => ?_) fun _ => leaving))
  refine .bind (assignRole_follows _ _ _ _ (.inl rfl) (fun resp taken => ?_) (fun resp other e => ?_) fun _ => leaving)
  swap
  · show Leaving options projectId (some userId) (if _ then _ else _)
    rw [if_neg other]
    exact leaving
  rw [show (making options).next (.registered user projectId userId) (.putRole projectId userId options.memberRoleId)
    (.ok resp) = .member user projectId userId from if_pos taken]
  refine .bind (require_follows (fun _ => ?_) fun _ => leavingMember)
  exact .bind (assignRole_follows _ _ _ _ (.inl rfl) (fun _ _ => .pure rfl) (fun _ _ _ => leavingMember) fun _ => leavingMember)

theorem createSecurityGroup_follows (user : SignupRequest) (projectId userId : String) : Follows (making options)
    (fun r q => r = .ok () ∧ q = .member user projectId userId) (createSecurityGroup options projectId)
    (.member user projectId userId) := by
  have uses : (do
      let sgId : String ← Program.remote (Signup.Call.postSecurityGroup options.defaultRegion "all-internal-allow"
        "Allow traffic only from port forwarding VMs" projectId)
      Program.forEach options.portforwardVmInternalIps fun vmIp =>
        createSecurityGroupRule options sgId "ingress" (vmIp ++ "/32") projectId
      createSecurityGroupRule options sgId "egress" "0.0.0.0/0" projectId : Signup.Remote Unit).Uses fun c =>
        (∃ region name description, c = .postSecurityGroup region name description projectId) ∨
          ∃ region rule, c = .postSecurityGroupRule region rule :=
    .bind (.remote (.inl ⟨_, _, _, rfl⟩)) fun _ =>
      .bind (.forEach fun _ => .remote (.inr ⟨_, _, rfl⟩)) fun _ => .remote (.inr ⟨_, _, rfl⟩)
  refine .attempt (.of_uses (fun c among => Or.inr (Or.inr (Or.inr among))) ?_ uses fun r => ?_)
  · rintro _ r (⟨_, _, _, rfl⟩ | ⟨_, _, rfl⟩) <;> rfl
  · cases r with
    | ok _ => exact ⟨rfl, rfl⟩
    | error _ => exact ⟨rfl, rfl⟩

/-- What a signup that ends has come to. -/
def Ends (user : SignupRequest) : Except Exn (Bool × String) → Phase → Prop
  | .ok (true, _), q => ∃ projectId userId, q = .member user projectId userId
  | _, _ => True

theorem part_follows {part : Signup.Remote (Signup.Part α)} {k : Signup.Part α → Signup.Remote (Bool × String)}
    (returns : ∀ r, k (.error r) = pure r) (first : Follows (making options) (Reached good) part q)
    (second : ∀ a q, good a q → Follows (making options) (Ends user) (k (.ok a)) q) :
    Follows (making options) (Ends user) (part >>= k) q := by
  refine .bind (first.weaken fun r q reached => ?_)
  match r, reached with
  | .error _, _ => exact trivial
  | .ok (.ok a), reached => exact second a q reached
  | .ok (.error (true, _)), unsuccessful => cases unsuccessful
  | .ok (.error (false, message)), _ =>
    show Follows (making options) (Ends user) (k (.error (false, message))) q
    rw [returns]
    exact .pure trivial

theorem createUser_follows (user : SignupRequest) :
    Follows (making options) (Ends user) (createUser options user) (.asking user) := by
  refine .bind (.remote (.inl rfl) fun r => ?_)
  cases r with
  | error e => exact trivial
  | ok _ =>
    refine part_follows (fun _ => rfl) (createProject_follows user) ?_
    rintro projectId _ rfl
    refine part_follows (fun _ => rfl) (setQuotas_follows user projectId) ?_
    rintro _ _ rfl
    refine part_follows (fun _ => rfl) (createAccount_follows user projectId) ?_
    rintro userId _ rfl
    refine part_follows (fun _ => rfl) (assignRoles_follows user projectId userId) ?_
    rintro _ _ rfl
    refine .bind ((createSecurityGroup_follows user projectId userId).weaken ?_)
    rintro _ _ ⟨rfl, rfl⟩
    exact .pure ⟨projectId, userId, rfl⟩

end

theorem ofSignup_follows {options : Options} {α : Type} {post : Except Exn α → Phase → Prop} {m : Signup.Remote α}
    {q : Phase} (follows : Follows (making options) post m q) : Follows (steps options) post (ofSignup m) q := by
  have may : ∀ q c, (making options).may q c → (steps options).may q (.signup c) := fun _ _ may => may
  refine Follows.lift may (fun q c r => ?_) follows
  cases r <;> rfl

theorem program_follows (options : Options) (job : Job) :
    Follows (steps options) (Fits job) (program options job) (begun job) := by
  cases job with
  | signup user =>
    refine .bind ((ofSignup_follows (createUser_follows user)).weaken fun r q ends => ?_)
    match r, ends with
    | .error _, _ => exact trivial
    | .ok (false, message), _ => exact .raise trivial
    | .ok (true, message), ends => exact .pure ends
  | changePassword userId keystoneToken body =>
    have answered (r : Except Exn String) (q : Phase) : Fits (.changePassword userId keystoneToken body) r q := by
      cases r <;> exact trivial
    have uses : (changeUserPassword userId keystoneToken body).Uses ((steps options).may (.changing userId body)) := by
      refine .bind (.bind (.remote ⟨rfl, rfl⟩) fun resp => .ite (.pure _) (.ite (.pure _) (.ite (.pure _) (.pure _)))) ?_
      rintro ⟨success, message⟩
      cases success with
      | true => exact .pure _
      | false => exact .raise _
    refine .of_uses (fun _ may => may) (fun c r may => ?_) uses fun r => answered r _
    cases c with
    | signup c => exact may.elim
    | postPassword i keystoneToken b => rfl

end Skyline.Accounts
