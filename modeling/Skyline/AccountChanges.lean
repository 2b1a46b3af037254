import Skyline.Accounts

/-!
What a call of a request changes at Keystone. It deletes only what the request owns, it
gives roles only in the project of the request, and everything else stays but for a password
that is set (`Keeps`). So what a request has had made stays as long as it does not roll it back
(`Made`), and what was there before the requests is still there (`Grown`).
-/
namespace Skyline.Accounts
open Skyline.Python Skyline.Effects Skyline.Programs Skyline.Threads Skyline.Signup

/-! ## What a call changes -/

/-- A project or user that the call deletes. -/
def Call.deletes : Call → Option String
  | .signup (.deleteProject id) | .signup (.deleteUser id) => some id
  | _ => none

/-- The call asks for the password of a user to be set to this one. -/
def Call.Sets (c : Call) (userId password : String) : Prop :=
  ∃ keystoneToken body, c = .postPassword userId keystoneToken body ∧ body.password = password

/-- Everything is still there but what has the id, and but for passwords that were changed. -/
structure Keeps (changed : String → String → Prop) (gone : Option String) (k k' : Keystone) : Prop where
  project : ∀ p ∈ k.projects, p.id.1 ∉ gone → p ∈ k'.projects
  user : ∀ u ∈ k.users, u.id.1 ∉ gone → ∃ password, { u with password } ∈ k'.users ∧
    (password = u.password ∨ changed u.id password)
  assignment : ∀ a ∈ k.assignments, a.projectId ∉ gone → a.userId ∉ gone → a ∈ k'.assignments

section
variable {service : KeystoneService} {k k' : Keystone} {changed asked asked' : String → String → Prop} {gone : Option String}
  {id : Id} {c : Call}

theorem Keeps.refl (changed : String → String → Prop) (gone : Option String) (k : Keystone) : Keeps changed gone k k :=
  ⟨fun _ there _ => there, fun u there _ => ⟨u.password, there, .inl rfl⟩, fun _ there _ _ => there⟩

theorem withUser_keeps (payload : UserPayload) : Keeps changed gone k (k.withUser id payload) :=
  ⟨fun _ there _ => there, fun u there _ => ⟨u.password, List.mem_append_left _ there, .inl rfl⟩, fun _ there _ _ => there⟩

theorem withProject_keeps (payload : ProjectPayload) : Keeps changed gone k (k.withProject id payload) :=
  ⟨fun _ there _ => List.mem_append_left _ there, fun u there _ => ⟨u.password, there, .inl rfl⟩, fun _ there _ _ => there⟩

theorem withAssignment_keeps (a : Assignment) : Keeps changed gone k (k.withAssignment a) :=
  ⟨fun _ there _ => there, fun u there _ => ⟨u.password, there, .inl rfl⟩, fun _ there _ _ => List.mem_append_left _ there⟩

theorem mem_without {α : Type} {f : α → String} {xs : List α} {x : α} {i : String} (there : x ∈ xs)
    (other : f x ∉ some i) : x ∈ xs.filter fun x => f x ≠ i :=
  List.mem_filter.mpr ⟨there, decide_eq_true fun same => other (Option.mem_some_iff.mpr same.symm)⟩

theorem withoutUser_keeps (userId : String) : Keeps changed (some userId) k (k.withoutUser userId) :=
  ⟨fun _ there _ => there, fun u there other => ⟨u.password, mem_without there other, .inl rfl⟩,
    fun _ there _ other => mem_without there other⟩

theorem withoutProject_keeps (projectId : String) : Keeps changed (some projectId) k (k.withoutProject projectId) :=
  ⟨fun _ there other => mem_without there other, fun u there _ => ⟨u.password, there, .inl rfl⟩,
    fun _ there other _ => mem_without there other⟩

theorem withPassword_keeps {userId password : String} (known : changed userId password) :
    Keeps changed gone k (k.withPassword userId password) := by
  refine ⟨fun p there _ => there, fun u there _ => ?_, fun a there _ _ => there⟩
  by_cases same : u.id.1 = userId
  · exact ⟨password, List.mem_map.mpr ⟨u, there, if_pos same⟩, .inr (by rw [same]; exact known)⟩
  · exact ⟨u.password, List.mem_map.mpr ⟨u, there, if_neg same⟩, .inl rfl⟩

theorem perform_keeps (service : KeystoneService) (k : Keystone) (id : Id) (c : Call) :
    Keeps c.Sets c.deletes k (service.perform k id c).2 := by
  by_cases spares : c.SparesKeystone
  · rw [service.spares spares]
    exact .refl _ _ k
  match c, spares with
  | .signup (.postProject payload), _ =>
    rcases performed : service.perform k id (.signup (.postProject payload)) with ⟨resp, k'⟩
    rcases service.postProject performed with ⟨_, _, rfl⟩ | ⟨_, rfl⟩
    · exact withProject_keeps payload
    · exact .refl _ _ k'
  | .signup (.postUser payload), _ =>
    rcases performed : service.perform k id (.signup (.postUser payload)) with ⟨resp, k'⟩
    rcases service.postUser performed with ⟨_, _, _, rfl⟩ | ⟨_, rfl⟩
    · exact withUser_keeps payload
    · exact .refl _ _ k'
  | .signup (.putRole projectId userId roleId), _ =>
    rcases performed : service.perform k id (.signup (.putRole projectId userId roleId)) with ⟨resp, k'⟩
    rcases service.putRole performed with ⟨_, rfl⟩ | ⟨_, rfl⟩
    · exact withAssignment_keeps _
    · exact .refl _ _ k'
  | .signup (.deleteProject projectId), _ =>
    rcases performed : service.perform k id (.signup (.deleteProject projectId)) with ⟨resp, k'⟩
    rcases service.deleteProject performed with rfl | rfl
    · exact withoutProject_keeps projectId
    · exact .refl _ _ k'
  | .signup (.deleteUser userId), _ =>
    rcases performed : service.perform k id (.signup (.deleteUser userId)) with ⟨resp, k'⟩
    rcases service.deleteUser performed with rfl | rfl
    · exact withoutUser_keeps userId
    · exact .refl _ _ k'
  | .postPassword userId keystoneToken body, _ =>
    rcases performed : service.perform k id (.postPassword userId keystoneToken body) with ⟨resp, k'⟩
    rcases service.postPassword performed with rfl | rfl
    · exact withPassword_keeps ⟨keystoneToken, body, rfl, rfl⟩
    · exact .refl _ _ k'
  | .signup (.getToken _), spares | .signup (.updateNovaQuotas _ _ _ _), spares
  | .signup (.updateCinderQuotas _ _), spares | .signup (.postSecurityGroupRule _ _), spares
  | .signup (.postSecurityGroup _ _ _ _), spares => exact absurd trivial spares

/-! ## What a request has made -/

/-- The ids of what a signup has had made. -/
def Phase.owns : Phase → List String
  | .asking _ | .changing _ _ => []
  | .housed _ projectId => [projectId]
  | .registered _ projectId userId | .member _ projectId userId => [projectId, userId]
  | .undoing projectId userId => projectId :: userId.toList

/-- The user that a signup has had made. -/
def Phase.user : Phase → Option String
  | .registered _ _ userId | .member _ _ userId => some userId
  | .undoing _ userId => userId
  | .asking _ | .housed _ _ | .changing _ _ => none

def Houses (k : Keystone) (projectId : String) : Prop := ∃ p ∈ k.projects, p.id.1 = projectId ∧ p.enabled = true

/-- The user is there as it was asked for, with the password of the signup or one that was set. -/
def Knows (asked : String → String → Prop) (k : Keystone) (user : SignupRequest) (projectId userId : String) : Prop :=
  ∃ u ∈ k.users, u.id.1 = userId ∧ u.name = user.username ∧ u.domainId = "default" ∧ u.defaultProjectId = some projectId ∧
    (u.password = user.password ∨ asked userId u.password)

def Employs (k : Keystone) (projectId userId : String) : Prop :=
  ∃ a ∈ k.assignments, a.projectId = projectId ∧ a.userId = userId

/-- What is there in a phase. -/
def Made (asked : String → String → Prop) (k : Keystone) : Phase → Prop
  | .asking _ | .undoing _ _ => True
  | .housed _ projectId => Houses k projectId
  | .registered user projectId userId => Houses k projectId ∧ Knows asked k user projectId userId
  | .member user projectId userId =>
    Houses k projectId ∧ Knows asked k user projectId userId ∧ Employs k projectId userId
  | .changing userId body => asked userId body.password

theorem Houses.kept {projectId : String} (houses : Houses k projectId) (keeps : Keeps changed gone k k')
    (other : projectId ∉ gone) : Houses k' projectId := by
  obtain ⟨p, there, rfl, enabled⟩ := houses
  exact ⟨p, keeps.project p there other, rfl, enabled⟩

theorem Knows.kept {user : SignupRequest} {projectId userId : String} (knows : Knows asked k user projectId userId)
    (keeps : Keeps changed gone k k') (other : userId ∉ gone) (more : ∀ i password, asked i password → asked' i password)
    (known : ∀ i password, changed i password → asked' i password) : Knows asked' k' user projectId userId := by
  obtain ⟨u, there, rfl, name, domain, default, password⟩ := knows
  obtain ⟨new, there', changed⟩ := keeps.user u there other
  refine ⟨_, there', rfl, name, domain, default, ?_⟩
  rcases changed with rfl | changed
  · exact password.imp_right (more _ _)
  · exact .inr (known _ _ changed)

theorem Employs.kept {projectId userId : String} (employs : Employs k projectId userId) (keeps : Keeps changed gone k k')
    (project : projectId ∉ gone) (user : userId ∉ gone) : Employs k' projectId userId := by
  obtain ⟨a, there, rfl, rfl⟩ := employs
  exact ⟨a, keeps.assignment a there project user, rfl, rfl⟩

/-- What a request has made stays where nothing of it is deleted. -/
theorem Made.kept {q : Phase} (made : Made asked k q) (keeps : Keeps changed gone k k') (others : ∀ i ∈ q.owns, i ∉ gone)
    (more : ∀ i password, asked i password → asked' i password)
    (known : ∀ i password, changed i password → asked' i password) : Made asked' k' q := by
  cases q with
  | asking _ | undoing _ _ => exact trivial
  | housed _ projectId => exact Houses.kept made keeps (others projectId List.mem_cons_self)
  | registered _ projectId userId =>
    have project := others projectId List.mem_cons_self
    have user := others userId (List.mem_cons_of_mem _ List.mem_cons_self)
    exact ⟨made.1.kept keeps project, made.2.kept keeps user more known⟩
  | member _ projectId userId =>
    have project := others projectId List.mem_cons_self
    have user := others userId (List.mem_cons_of_mem _ List.mem_cons_self)
    exact ⟨made.1.kept keeps project, made.2.1.kept keeps user more known, made.2.2.kept keeps project user⟩
  | changing userId body => exact more _ _ made

/-! ## A call that comes back -/

/-- How a call may come back, and what it leaves. -/
inductive Comes (service : KeystoneService) (k : Keystone) (id : Id) (c : Call) : Except Exn c.Answer → Keystone → Prop
  | answered {a : c.Answer} {k' : Keystone} : service.perform k id c = (a, k') → Comes service k id c (.ok a) k'
  | lost (e : Exn) : Comes service k id c (.error e) (service.perform k id c).2
  | raises (e : Exn) : Comes service k id c (.error e) k
  | refused (statusCode : Nat) (text : String) (failure : 400 ≤ statusCode) :
    Comes service k id c (refusal statusCode text c) k

theorem serve_comes (env : Env) (c : Call) (w : World) :
    Comes env.service w.keystone (env.newId w.calls) c (serve env c w).1 (serve env c w).2.keystone ∧
      (serve env c w).2.calls = w.calls + 1 := by
  unfold serve
  dsimp only
  split
  · exact ⟨.answered rfl, rfl⟩
  · exact ⟨.lost _, rfl⟩
  · exact ⟨.raises _, rfl⟩
  · next failure _ => exact ⟨.refused _ _ failure, rfl⟩

theorem Comes.keeps {r : Except Exn c.Answer} (comes : Comes service k id c r k') : Keeps c.Sets c.deletes k k' := by
  cases comes with
  | answered performed =>
    obtain rfl : (service.perform k id c).2 = k' := congrArg Prod.snd performed
    exact perform_keeps service k id c
  | lost _ => exact perform_keeps service k id c
  | raises _ | refused _ _ _ => exact .refl _ _ k

variable {options : Options} {user : SignupRequest} {projectId userId : String}

/-- A request has come from a phase to another: what it has made is there, and what it owns it
    owned before or was given by this call. -/
structure Advances (asked : String → String → Prop) (k : Keystone) (id : Id) (q q' : Phase) : Prop where
  made : Made asked k q'
  owns : ∀ i ∈ q'.owns, i ∈ q.owns ∨ i = id
  user : ∀ i ∈ q.user, i ∈ q'.user

theorem Advances.stays {q : Phase} (made : Made asked k q) : Advances asked k id q q :=
  ⟨made, fun _ => .inl, fun _ same => same⟩

theorem asking_next {r : Except Exn (Call.signup (.postProject (projectPayload user))).Answer}
    (comes : Comes service k id (.signup (.postProject (projectPayload user))) r k') :
    Advances asked k' id (.asking user)
      ((steps options).next (.asking user) (.signup (.postProject (projectPayload user))) r) := by
  have stays (k : Keystone) : Advances asked k id (.asking user) (.asking user) := .stays trivial
  cases comes with
  | lost _ | raises _ => exact stays _
  | refused statusCode text failure =>
    show Advances asked k id (.asking user) (if statusCode = 201 then _ else _)
    rw [if_neg (by omega)]
    exact stays _
  | @answered resp _ performed =>
    show Advances asked k' id (.asking user) (if resp.statusCode = 201 then .housed user resp.id else .asking user)
    rcases service.postProject performed with ⟨created, named, rfl⟩ | ⟨failed, rfl⟩
    · rw [if_pos created, named]
      exact ⟨⟨_, List.mem_append_right _ (List.mem_singleton_self _), rfl, rfl⟩,
        fun i among => .inr (List.mem_singleton.mp among), fun _ same => same⟩
    · rw [if_neg failed]
      exact stays k'

theorem housed_next {r : Except Exn (Call.signup (.postUser (userPayload user projectId))).Answer}
    (comes : Comes service k id (.signup (.postUser (userPayload user projectId))) r k') (houses : Houses k' projectId) :
    Advances asked k' id (.housed user projectId)
      ((steps options).next (.housed user projectId) (.signup (.postUser (userPayload user projectId))) r) := by
  have stays : Advances asked k' id (.housed user projectId) (.housed user projectId) :=
    ⟨houses, fun _ => .inl, fun _ same => same⟩
  cases comes with
  | lost _ | raises _ => exact stays
  | refused statusCode text failure =>
    show Advances asked k id (.housed user projectId) (if statusCode = 201 then _ else _)
    rw [if_neg (by omega)]
    exact stays
  | @answered resp _ performed =>
    show Advances asked k' id (.housed user projectId)
      (if resp.statusCode = 201 then .registered user projectId resp.id else .housed user projectId)
    rcases service.postUser performed with ⟨created, named, -, rfl⟩ | ⟨failed, rfl⟩
    · rw [if_pos created, named]
      have new {u : User} : u ∈ k.users ++ [u] := List.mem_append_right _ (List.mem_singleton_self u)
      refine ⟨⟨houses, _, new, rfl, rfl, rfl, rfl, .inl rfl⟩, fun i among => ?_, nofun⟩
      exact (List.mem_cons.mp among).imp List.mem_singleton.mpr List.mem_singleton.mp
    · rw [if_neg failed]
      exact stays

theorem registered_next {roleId : String} {r : Except Exn (Call.signup (.putRole projectId userId roleId)).Answer}
    (comes : Comes service k id (.signup (.putRole projectId userId roleId)) r k')
    (made : Made asked k' (.registered user projectId userId)) :
    Advances asked k' id (.registered user projectId userId)
      ((steps options).next (.registered user projectId userId) (.signup (.putRole projectId userId roleId)) r) := by
  have stays : Advances asked k' id _ _ := .stays made
  cases comes with
  | lost _ | raises _ => exact stays
  | refused statusCode text failure =>
    show Advances asked k id (.registered user projectId userId) (if statusCode = 204 then _ else _)
    rw [if_neg (by omega)]
    exact stays
  | @answered resp _ performed =>
    show Advances asked k' id (.registered user projectId userId)
      (if resp.statusCode = 204 then .member user projectId userId else .registered user projectId userId)
    rcases service.putRole performed with ⟨assigned, rfl⟩ | ⟨failed, rfl⟩
    · rw [if_pos assigned]
      exact ⟨⟨made.1, made.2, _, List.mem_append_right _ (List.mem_singleton_self _), rfl, rfl⟩, fun _ => .inl,
        fun _ same => same⟩
    · rw [if_neg failed]
      exact stays

theorem made_next {q : Phase} {r : Except Exn c.Answer} (may : (steps options).may q c) (comes : Comes service k id c r k')
    (made : Made asked k q) (more : ∀ i password, asked i password → asked' i password)
    (known : ∀ i password, c.Sets i password → asked' i password) : Advances asked' k' id q ((steps options).next q c r) := by
  have keeps := comes.keeps
  have stays (nothing : c.deletes = none) : Made asked' k' q :=
    made.kept keeps (fun i _ => by rw [nothing]; nofun) more known
  match q, c with
  | .asking user, .signup c =>
    rcases may with rfl | rfl
    · exact ⟨trivial, fun _ => .inl, fun _ same => same⟩
    · exact asking_next comes
  | .housed user projectId, .signup c =>
    rcases may with rfl | rfl | rfl | rfl
    · exact .stays (stays rfl)
    · exact .stays (stays rfl)
    · exact housed_next comes (stays rfl)
    · exact ⟨trivial, fun _ => .inl, fun _ same => same⟩
  | .registered user projectId userId, .signup c =>
    rcases may with rfl | rfl | rfl
    · exact registered_next comes (stays rfl)
    · exact ⟨trivial, fun _ => .inl, fun _ same => same⟩
    · exact ⟨trivial, fun _ => .inl, fun _ same => same⟩
  | .member user projectId userId, .signup c =>
    rcases may with rfl | rfl | rfl | ⟨_, _, _, rfl⟩ | ⟨_, _, rfl⟩
    · exact .stays (stays rfl)
    · exact ⟨trivial, fun _ => .inl, fun _ same => same⟩
    · exact ⟨trivial, fun _ => .inl, fun _ same => same⟩
    · exact .stays (stays rfl)
    · exact .stays (stays rfl)
  | .undoing projectId userId, .signup c => exact ⟨trivial, fun _ => .inl, fun _ same => same⟩
  | .changing userId body, .postPassword _ _ _ => exact .stays (stays rfl)
  | .changing _ _, .signup _ => exact may.elim

/-- Only what the request owns is deleted. -/
theorem may_deletes {q : Phase} (may : (steps options).may q c) : ∀ i ∈ c.deletes, i ∈ q.owns := by
  match q, c with
  | .asking user, .signup c =>
    rcases may with rfl | rfl <;> nofun
  | .housed user projectId, .signup c =>
    rcases may with rfl | rfl | rfl | rfl <;> nofun
  | .registered user projectId userId, .signup c =>
    rcases may with rfl | rfl | rfl <;> nofun
  | .member user projectId userId, .signup c =>
    rcases may with rfl | rfl | rfl | ⟨_, _, _, rfl⟩ | ⟨_, _, rfl⟩ <;> nofun
  | .undoing projectId userId, .signup c =>
    rcases may with rfl | rfl | ⟨i, among, rfl | rfl⟩
    · nofun
    · rintro _ ⟨rfl⟩
      exact List.mem_cons_self
    · nofun
    · rintro _ ⟨rfl⟩
      exact List.mem_cons_of_mem _ (Option.mem_toList.mpr among)
  | .changing userId body, .postPassword _ _ _ => nofun
  | .changing _ _, .signup _ => exact may.elim

/-- Roles are assigned in the project that the request owns, to its user and to the administrator. -/
theorem may_assigns {q : Phase} {projectId userId roleId : String}
    (may : (steps options).may q (.signup (.putRole projectId userId roleId))) :
    projectId ∈ q.owns ∧ (userId ∈ q.user ∨ userId = options.adminUserId) := by
  match q with
  | .asking user => rcases may with same | same <;> cases same
  | .housed user projectId => rcases may with same | same | same | same <;> cases same
  | .registered user projectId userId =>
    rcases may with same | same | same
    · cases same
      exact ⟨List.mem_cons_self, .inl rfl⟩
    · cases same
    · cases same
  | .member user projectId userId =>
    rcases may with same | same | same | ⟨_, _, _, same⟩ | ⟨_, _, same⟩
    · cases same
      exact ⟨List.mem_cons_self, .inr rfl⟩
    all_goals cases same
  | .undoing projectId userId => rcases may with same | same | ⟨i, among, same | same⟩ <;> cases same
  | .changing _ _ => exact may.elim

theorem user_owns {q : Phase} : ∀ i ∈ q.user, i ∈ q.owns := by
  cases q with
  | asking _ | housed _ _ | changing _ _ => exact fun _ none => by cases none
  | registered _ projectId userId | member _ projectId userId =>
    rintro _ ⟨rfl⟩
    exact List.mem_cons_of_mem _ List.mem_cons_self
  | undoing projectId userId => exact fun i same => List.mem_cons_of_mem _ (Option.mem_toList.mpr same)

/-- Every assignment was there before, or is made by the call. -/
theorem perform_assignments : ∀ a ∈ (service.perform k id c).2.assignments, a ∈ k.assignments ∨
    ∃ roleId, c = .signup (.putRole a.projectId a.userId roleId) := by
  intro a
  by_cases spares : c.SparesKeystone
  · rw [service.spares spares]
    exact .inl
  match c, spares with
  | .signup (.putRole projectId userId roleId), _ =>
    rcases performed : service.perform k id (.signup (.putRole projectId userId roleId)) with ⟨resp, k'⟩
    rcases service.putRole performed with ⟨_, rfl⟩ | ⟨_, rfl⟩
    · intro there
      refine (List.mem_append.mp there).imp_right fun new => ?_
      obtain rfl := List.mem_singleton.mp new
      exact ⟨roleId, rfl⟩
    · exact .inl
  | .signup (.deleteProject projectId), _ =>
    rcases performed : service.perform k id (.signup (.deleteProject projectId)) with ⟨resp, k'⟩
    rcases service.deleteProject performed with rfl | rfl
    · exact fun there => .inl (List.mem_of_mem_filter there)
    · exact .inl
  | .signup (.deleteUser userId), _ =>
    rcases performed : service.perform k id (.signup (.deleteUser userId)) with ⟨resp, k'⟩
    rcases service.deleteUser performed with rfl | rfl
    · exact fun there => .inl (List.mem_of_mem_filter there)
    · exact .inl
  | .signup (.postProject payload), _ =>
    rcases performed : service.perform k id (.signup (.postProject payload)) with ⟨resp, k'⟩
    rcases service.postProject performed with ⟨_, _, rfl⟩ | ⟨_, rfl⟩ <;> exact .inl
  | .signup (.postUser payload), _ =>
    rcases performed : service.perform k id (.signup (.postUser payload)) with ⟨resp, k'⟩
    rcases service.postUser performed with ⟨_, _, _, rfl⟩ | ⟨_, rfl⟩ <;> exact .inl
  | .postPassword userId keystoneToken body, _ =>
    rcases performed : service.perform k id (.postPassword userId keystoneToken body) with ⟨resp, k'⟩
    rcases service.postPassword performed with rfl | rfl <;> exact .inl
  | .signup (.getToken _), spares | .signup (.updateNovaQuotas _ _ _ _), spares
  | .signup (.updateCinderQuotas _ _), spares | .signup (.postSecurityGroupRule _ _), spares
  | .signup (.postSecurityGroup _ _ _ _), spares => exact absurd trivial spares

theorem Comes.assignments {r : Except Exn c.Answer} (comes : Comes service k id c r k') : ∀ a ∈ k'.assignments,
    a ∈ k.assignments ∨ ∃ roleId, c = .signup (.putRole a.projectId a.userId roleId) := by
  cases comes with
  | answered performed =>
    obtain rfl : (service.perform k id c).2 = k' := congrArg Prod.snd performed
    exact perform_assignments
  | lost _ => exact perform_assignments
  | raises _ | refused _ _ _ => exact fun _ => .inl

end

/-! ## What was there before -/

/-- The ids that Keystone gives out are not those of anything that it has. -/
structure Fresh (env : Env) (k : Keystone) : Prop where
  injective : Function.Injective env.newId
  user : ∀ n, ∀ u ∈ k.users, u.id ≠ env.newId n
  project : ∀ n, ∀ p ∈ k.projects, p.id ≠ env.newId n
  assignment : ∀ n, ∀ a ∈ k.assignments, a.projectId ≠ env.newId n ∧ a.userId ≠ env.newId n

/-- Users have ids of their own, and names of their own in each domain. -/
def Distinct (users : List User) : Prop :=
  users.Pairwise fun u v => u.id ≠ v.id ∧ ¬ (u.domainId = v.domainId ∧ u.name = v.name)

instance (users : List User) : Decidable (Distinct users) := inferInstanceAs (Decidable (List.Pairwise _ _))

/-- One of the ids that were given out in the calls so far. -/
def Env.New (env : Env) (n : Nat) (id : String) : Prop := ∃ m < n, id = env.newId m

/-- What has come of what was there: it is all there but for passwords, and what is new belongs to
    new users, or gives the administrator a role in a project. -/
structure Grown (env : Env) (options : Options) (k₀ : Keystone) (asked : String → String → Prop) (n : Nat) (k : Keystone) :
    Prop where
  kept : Keeps asked none k₀ k
  users : ∀ u ∈ k.users, env.New n u.id ∨ ∃ u₀ ∈ k₀.users, ∃ password, u = { u₀ with password } ∧
    (password = u₀.password ∨ asked u.id password)
  projects : ∃ more, k.projects = k₀.projects ++ more ∧ ∀ p ∈ more, env.New n p.id
  assignments : ∀ a ∈ k.assignments, a ∈ k₀.assignments ∨
    env.New n a.projectId ∧ (env.New n a.userId ∨ a.userId = options.adminUserId)
  distinct : Distinct k.users

section
variable {env : Env} {options : Options} {k₀ k k' : Keystone} {asked asked' changed : String → String → Prop} {n : Nat}
  {gone : Option String}

theorem Env.New.mono {id : String} (new : env.New n id) : env.New (n + 1) id := by
  obtain ⟨m, before, rfl⟩ := new
  exact ⟨m, Nat.lt_succ_of_lt before, rfl⟩

theorem Keeps.trans (first : Keeps asked none k₀ k) (second : Keeps changed gone k k')
    (users : ∀ u ∈ k₀.users, u.id.1 ∉ gone) (projects : ∀ p ∈ k₀.projects, p.id.1 ∉ gone)
    (assignments : ∀ a ∈ k₀.assignments, a.projectId ∉ gone ∧ a.userId ∉ gone)
    (known : ∀ i password, changed i password → asked i password) : Keeps asked none k₀ k' := by
  refine ⟨fun p there _ => second.project p (first.project p there nofun) (projects p there), fun u there _ => ?_,
    fun a there _ _ => ?_⟩
  swap
  · obtain ⟨project, user⟩ := assignments a there
    exact second.assignment a (first.assignment a there nofun nofun) project user
  obtain ⟨password, there', before⟩ := first.user u there nofun
  obtain ⟨password', there'', after⟩ := second.user _ there' (users u there)
  refine ⟨password', there'', ?_⟩
  rcases after with rfl | after
  · exact before
  · exact .inr (known _ _ after)

theorem Grown.imp (grown : Grown env options k₀ asked n k) (more : ∀ i password, asked i password → asked' i password) :
    Grown env options k₀ asked' n k := by
  refine ⟨⟨grown.kept.project, fun u there other => ?_, grown.kept.assignment⟩, fun u there => ?_, grown.projects,
    grown.assignments, grown.distinct⟩
  · obtain ⟨password, there', changed⟩ := grown.kept.user u there other
    exact ⟨password, there', changed.imp_right (more _ _)⟩
  · refine (grown.users u there).imp_right ?_
    rintro ⟨u₀, there₀, password, same, changed⟩
    exact ⟨u₀, there₀, password, same, changed.imp_right (more _ _)⟩

theorem Grown.later (grown : Grown env options k₀ asked n k) : Grown env options k₀ asked (n + 1) k := by
  obtain ⟨projects, same, new⟩ := grown.projects
  exact ⟨grown.kept, fun u there => (grown.users u there).imp_left .mono,
    ⟨projects, same, fun p among => (new p among).mono⟩,
    fun a there => (grown.assignments a there).imp_right (.imp .mono (.imp_left .mono)), grown.distinct⟩

theorem Grown.fresh (grown : Grown env options k₀ asked n k) (fresh : Fresh env k₀) {u : User} (there : u ∈ k.users) :
    u.id ≠ env.newId n := by
  rcases grown.users u there with ⟨m, before, same⟩ | ⟨u₀, there₀, password, rfl, _⟩
  · intro again
    have : m = n := fresh.injective (Subtype.ext (same.symm.trans (congrArg Subtype.val again)))
    omega
  · exact fresh.user n u₀ there₀

theorem perform_kept (grown : Grown env options k₀ asked n k) (fresh : Fresh env k₀) {c : Call} {q : Phase}
    (may : (steps options).may q c) (owns : ∀ i ∈ q.owns, env.New n i)
    (known : ∀ i password, c.Sets i password → asked i password) :
    Keeps asked none k₀ (env.service.perform k (env.newId n) c).2 := by
  have apart : ∀ i ∈ c.deletes, ∃ m, i = env.newId m := by
    intro i deleted
    obtain ⟨m, _, same⟩ := owns i (may_deletes may i deleted)
    exact ⟨m, same⟩
  refine grown.kept.trans (perform_keeps env.service k (env.newId n) c) ?_ ?_ ?_ known
  · intro u there deleted
    obtain ⟨m, same⟩ := apart _ deleted
    exact fresh.user m u there (Subtype.ext same)
  · intro p there deleted
    obtain ⟨m, same⟩ := apart _ deleted
    exact fresh.project m p there (Subtype.ext same)
  · intro a there
    constructor
    · intro deleted
      obtain ⟨m, same⟩ := apart _ deleted
      exact (fresh.assignment m a there).1 same
    · intro deleted
      obtain ⟨m, same⟩ := apart _ deleted
      exact (fresh.assignment m a there).2 same

theorem withUser_grown (grown : Grown env options k₀ asked n k) (fresh : Fresh env k₀) {payload : UserPayload}
    (free : k.Free payload) (kept : Keeps asked none k₀ (k.withUser (env.newId n) payload)) :
    Grown env options k₀ asked (n + 1) (k.withUser (env.newId n) payload) := by
  have before := grown.later
  refine ⟨kept, fun u there => ?_, before.projects, before.assignments, ?_⟩
  · rcases List.mem_append.mp there with old | new
    · exact before.users u old
    · obtain rfl := List.mem_singleton.mp new
      exact .inl ⟨n, Nat.lt_succ_self n, rfl⟩
  · refine List.pairwise_append.mpr ⟨grown.distinct, List.pairwise_singleton _ _, fun u there v new => ?_⟩
    obtain rfl := List.mem_singleton.mp new
    exact ⟨grown.fresh fresh there, fun same => free ⟨u, there, same⟩⟩

theorem withProject_grown (grown : Grown env options k₀ asked n k) {payload : ProjectPayload}
    (kept : Keeps asked none k₀ (k.withProject (env.newId n) payload)) :
    Grown env options k₀ asked (n + 1) (k.withProject (env.newId n) payload) := by
  have before := grown.later
  refine ⟨kept, before.users, ?_, before.assignments, before.distinct⟩
  obtain ⟨more, same, new⟩ := before.projects
  refine ⟨more ++ [_], (congrArg (· ++ _) same).trans (List.append_assoc _ _ _),
    List.forall_mem_append.mpr ⟨new, fun p among => ?_⟩⟩
  obtain rfl := List.mem_singleton.mp among
  exact ⟨n, Nat.lt_succ_self n, rfl⟩

theorem withAssignment_grown (grown : Grown env options k₀ asked n k) {a : Assignment}
    (assigned : env.New n a.projectId ∧ (env.New n a.userId ∨ a.userId = options.adminUserId))
    (kept : Keeps asked none k₀ (k.withAssignment a)) : Grown env options k₀ asked (n + 1) (k.withAssignment a) := by
  have before := grown.later
  refine ⟨kept, before.users, before.projects, fun b there => ?_, before.distinct⟩
  rcases List.mem_append.mp there with old | new
  · exact before.assignments b old
  · obtain rfl := List.mem_singleton.mp new
    exact .inr (assigned.imp .mono (.imp_left .mono))

theorem withoutUser_grown (grown : Grown env options k₀ asked n k) {userId : String}
    (kept : Keeps asked none k₀ (k.withoutUser userId)) :
    Grown env options k₀ asked (n + 1) (k.withoutUser userId) := by
  have before := grown.later
  exact ⟨kept, fun u there => before.users u (List.mem_of_mem_filter there), before.projects,
    fun a there => before.assignments a (List.mem_of_mem_filter there), before.distinct.filter _⟩

theorem withoutProject_grown (grown : Grown env options k₀ asked n k) (fresh : Fresh env k₀) {projectId : String}
    (new : env.New n projectId) (kept : Keeps asked none k₀ (k.withoutProject projectId)) :
    Grown env options k₀ asked (n + 1) (k.withoutProject projectId) := by
  have before := grown.later
  refine ⟨kept, before.users, ?_, fun a there => before.assignments a (List.mem_of_mem_filter there), before.distinct⟩
  obtain ⟨more, same, news⟩ := before.projects
  obtain ⟨m, _, rfl⟩ := new
  refine ⟨more.filter fun p => p.id.1 ≠ env.newId m, ?_, fun p among => news p (List.mem_of_mem_filter among)⟩
  show k.projects.filter _ = _
  rw [same, List.filter_append, List.filter_eq_self.mpr]
  intro p there
  exact decide_eq_true fun same => fresh.project m p there (Subtype.ext same)

theorem withPassword_grown (grown : Grown env options k₀ asked n k) {userId password : String}
    (known : asked userId password) (kept : Keeps asked none k₀ (k.withPassword userId password)) :
    Grown env options k₀ asked (n + 1) (k.withPassword userId password) := by
  have before := grown.later
  refine ⟨kept, fun u there => ?_, before.projects, before.assignments, ?_⟩
  · obtain ⟨v, there', rfl⟩ := List.mem_map.mp there
    by_cases same : v.id.1 = userId
    · rw [if_pos same]
      refine (before.users v there').imp_right ?_
      rintro ⟨u₀, there₀, _, rfl, _⟩
      exact ⟨u₀, there₀, password, rfl, .inr (by rw [same]; exact known)⟩
    · rw [if_neg same]
      exact before.users v there'
  · refine List.pairwise_map.mpr (grown.distinct.imp fun {u v} apart => ?_)
    by_cases first : u.id.1 = userId <;> by_cases second : v.id.1 = userId <;> simpa [first, second] using apart

theorem perform_grown {c : Call} (grown : Grown env options k₀ asked n k) (fresh : Fresh env k₀) {q : Phase}
    (may : (steps options).may q c) (owns : ∀ i ∈ q.owns, env.New n i)
    (known : ∀ i password, c.Sets i password → asked i password) :
    Grown env options k₀ asked (n + 1) (env.service.perform k (env.newId n) c).2 := by
  have kept := perform_kept grown fresh may owns known
  have later := grown.later
  by_cases spares : c.SparesKeystone
  · rw [env.service.spares spares]
    exact later
  rcases performed : env.service.perform k (env.newId n) c with ⟨a, k'⟩
  rw [performed] at kept
  match c, spares with
  | .signup (.postProject payload), _ =>
    rcases env.service.postProject performed with ⟨_, _, rfl⟩ | ⟨_, rfl⟩
    · exact withProject_grown grown kept
    · exact later
  | .signup (.postUser payload), _ =>
    rcases env.service.postUser performed with ⟨_, _, free, rfl⟩ | ⟨_, rfl⟩
    · exact withUser_grown grown fresh free kept
    · exact later
  | .signup (.putRole projectId userId roleId), _ =>
    rcases env.service.putRole performed with ⟨_, rfl⟩ | ⟨_, rfl⟩
    · obtain ⟨project, user⟩ := may_assigns may
      exact withAssignment_grown grown ⟨owns _ project, user.imp_left fun same => owns _ (user_owns _ same)⟩ kept
    · exact later
  | .signup (.deleteProject projectId), _ =>
    rcases env.service.deleteProject performed with rfl | rfl
    · exact withoutProject_grown grown fresh (owns _ (may_deletes may _ rfl)) kept
    · exact later
  | .signup (.deleteUser userId), _ =>
    rcases env.service.deleteUser performed with rfl | rfl
    · exact withoutUser_grown grown kept
    · exact later
  | .postPassword userId keystoneToken body, _ =>
    rcases env.service.postPassword performed with rfl | rfl
    · exact withPassword_grown grown (known _ _ ⟨_, _, rfl, rfl⟩) kept
    · exact later
  | .signup (.getToken _), spares | .signup (.updateNovaQuotas _ _ _ _), spares
  | .signup (.updateCinderQuotas _ _), spares | .signup (.postSecurityGroupRule _ _), spares
  | .signup (.postSecurityGroup _ _ _ _), spares => exact absurd trivial spares

theorem Comes.grown {c : Call} {r : Except Exn c.Answer} (comes : Comes env.service k (env.newId n) c r k')
    (grown : Grown env options k₀ asked n k) (fresh : Fresh env k₀) {q : Phase} (may : (steps options).may q c)
    (owns : ∀ i ∈ q.owns, env.New n i) (more : ∀ i password, asked i password → asked' i password)
    (known : ∀ i password, c.Sets i password → asked' i password) : Grown env options k₀ asked' (n + 1) k' := by
  have performed := perform_grown (grown.imp more) fresh may owns known
  cases comes with
  | answered came =>
    rw [came] at performed
    exact performed
  | lost _ => exact performed
  | raises _ | refused _ _ _ => exact (grown.imp more).later

end

end Skyline.Accounts
