import Mathlib.Data.List.Pairwise
import Skyline.AccountChanges
import Skyline.Realms

/-!
Signing up and logging in. However the requests for accounts overlap and whichever of their
calls fail, a user who was told that the signup succeeded can log in to a project of their own
(`signed_up_logs_in`), and who had an account before can log in as before (`accounts_kept`).
-/
namespace Skyline.Accounts
open Skyline.Python Skyline.Effects Skyline.Programs Skyline.Runs Skyline.Threads Skyline.Signup
open Skyline.Session (RevokedTable TokenData)
open Skyline.SessionCookie (Credential Deployment login)
open Skyline.KeystoneApi (Api)
open Skyline.SigningIn (Realm Serves Up Opens Issues spell read read_spell login_opens login_refused)

/-! ## Overlapping requests -/

/-- Some request asks for the password of a user to be set to this one. -/
def Asked (threads : List Work) (userId password : String) : Prop :=
  ∃ t ∈ threads, ∃ keystoneToken body, t.job = .changePassword userId keystoneToken body ∧ body.password = password

/-- The phase of a request. -/
abbrev stage (options : Options) (t : Work) : Phase := phase (steps options) begun t

structure Sound (env : Env) (options : Options) (k₀ : Keystone) (p : Works) : Prop where
  grown : Grown env options k₀ (Asked p.threads) p.state.calls p.state.keystone
  made : ∀ t ∈ p.threads, Made (Asked p.threads) p.state.keystone (stage options t)
  issued : ∀ t ∈ p.threads, ∀ i ∈ (stage options t).owns, env.New p.state.calls i
  /-- What a request owns no other does. -/
  apart : ∀ {i j : Nat} {t u : Work}, p.threads[i]? = some t → p.threads[j]? = some u →
    ∀ x ∈ (stage options t).owns, x ∈ (stage options u).owns → i = j
  /-- In its project only its user and the administrator have a role. -/
  own : ∀ t ∈ p.threads, ∀ a ∈ p.state.keystone.assignments, a.projectId ∈ (stage options t).owns →
    a.userId ∈ (stage options t).user ∨ a.userId = options.adminUserId

section
variable {env : Env} {options : Options} {k₀ : Keystone} {p : Works}

theorem sound_start (distinct : Distinct k₀.users) : Sound env options k₀ ⟨⟨k₀, 0⟩, []⟩ where
  grown := by
    refine ⟨.refl _ _ k₀, fun u there => .inr ⟨u, there, u.password, rfl, .inl rfl⟩, ⟨[], (List.append_nil _).symm, ?_⟩,
      fun _ => .inl, distinct⟩
    exact fun _ none => absurd none List.not_mem_nil
  made _ none := absurd none List.not_mem_nil
  issued _ none := absurd none List.not_mem_nil
  apart none := by simp at none
  own _ none := absurd none List.not_mem_nil

theorem asked_append {userId password : String} (t : Work) (asked : Asked p.threads userId password) :
    Asked (p.threads ++ [t]) userId password := by
  obtain ⟨u, member, rest⟩ := asked
  exact ⟨u, List.mem_append_left _ member, rest⟩

theorem asked_set {userId password : String} {i : Nat} {t t' : Work} (there : p.threads[i]? = some t) (same : t'.job = t.job)
    (asked : Asked p.threads userId password) : Asked (p.threads.set i t') userId password := by
  obtain ⟨u, member, keystoneToken, body, job, set⟩ := asked
  rcases mem_set_of_mem t' there member with rfl | still
  · exact ⟨t', moved_mem_set t' there, keystoneToken, body, same.trans job, set⟩
  · exact ⟨u, still, keystoneToken, body, job, set⟩

theorem sound_started (sound : Sound env options k₀ p) (job : Job) :
    Sound env options k₀ { p with threads := p.threads ++ [⟨job, [], program options job⟩] } := by
  have nothing : (begun job).owns = [] := by cases job <;> rfl
  have more : ∀ i password, Asked p.threads i password → Asked (p.threads ++ [⟨job, [], program options job⟩]) i password :=
    fun _ _ => asked_append _
  refine ⟨sound.grown.imp more, ?_, ?_, ?_, ?_⟩
  · refine List.forall_mem_append.mpr ⟨fun t member => ?_, fun t member => ?_⟩
    · exact (sound.made t member).kept (.refl (fun _ _ => False) none _) (fun _ _ => nofun) more fun _ _ => False.elim
    · obtain rfl := List.mem_singleton.mp member
      cases job with
      | signup user => exact trivial
      | changePassword userId keystoneToken body =>
        exact ⟨_, List.mem_append_right _ (List.mem_singleton_self _), keystoneToken, body, rfl, rfl⟩
  · refine List.forall_mem_append.mpr ⟨sound.issued, fun t member i owned => ?_⟩
    obtain rfl := List.mem_singleton.mp member
    change i ∈ (begun job).owns at owned
    rw [nothing] at owned
    cases owned
  · intro i j t u first second x owned owned'
    have old {i : Nat} {t : Work} (there : (p.threads ++ [⟨job, [], program options job⟩])[i]? = some t)
        (owned : x ∈ (stage options t).owns) : p.threads[i]? = some t := by
      rw [List.getElem?_append] at there
      split at there
      · exact there
      · obtain rfl := List.mem_singleton.mp (List.mem_of_getElem? there)
        change x ∈ (begun job).owns at owned
        rw [nothing] at owned
        cases owned
    exact sound.apart (old first owned) (old second owned') x owned owned'
  · refine List.forall_mem_append.mpr ⟨sound.own, fun t member a _ owned => ?_⟩
    obtain rfl := List.mem_singleton.mp member
    change a.projectId ∈ (begun job).owns at owned
    rw [nothing] at owned
    cases owned

theorem may_sets {q : Phase} {userId keystoneToken : String} {body : ChangePasswordBody}
    (may : (steps options).may q (.postPassword userId keystoneToken body)) : q = .changing userId body := by
  match q with
  | .changing _ _ =>
    obtain ⟨rfl, rfl⟩ := may
    rfl
  | .asking _ | .housed _ _ | .registered _ _ _ | .member _ _ _ | .undoing _ _ => exact may.elim

theorem sound_advanced (fresh : Fresh env k₀) (sound : Sound env options k₀ p) {i : Nat} {t : Work} {c : Call} (rest : Remote String)
    (there : p.threads[i]? = some t) (may : (steps options).may (stage options t) c) :
    Sound env options k₀ ⟨(serve env c p.state).2, p.threads.set i (t.came c (serve env c p.state).1 rest)⟩ := by
  obtain ⟨comes, counted⟩ := serve_comes env c p.state
  have member := List.mem_of_getElem? there
  have owns := sound.issued t member
  have more : ∀ j password, Asked p.threads j password →
      Asked (p.threads.set i (t.came c (serve env c p.state).1 rest)) j password := fun _ _ => asked_set there rfl
  have known : ∀ j password, c.Sets j password →
      Asked (p.threads.set i (t.came c (serve env c p.state).1 rest)) j password := by
    rintro j _ ⟨keystoneToken, body, rfl, rfl⟩
    have made := sound.made t member
    rw [may_sets may] at made
    exact more _ _ made
  have advances := made_next may comes (sound.made t member) more known
  have moved {j : Nat} {u : Work} (here : (p.threads.set i (t.came c (serve env c p.state).1 rest))[j]? = some u) :
      j = i ∧ u = t.came c (serve env c p.state).1 rest ∨ j ≠ i ∧ p.threads[j]? = some u := by
    by_cases same : j = i
    · subst same
      obtain ⟨within, _⟩ := List.getElem?_eq_some_iff.mp there
      rw [List.getElem?_set_self within] at here
      exact .inl ⟨rfl, (Option.some.inj here).symm⟩
    · rw [List.getElem?_set_ne (Ne.symm same)] at here
      exact .inr ⟨same, here⟩
  have news : ∀ x, x ∈ (stage options t).owns ∨ x = env.newId p.state.calls → env.New (p.state.calls + 1) x := by
    rintro x (old | rfl)
    · exact (owns x old).mono
    · exact ⟨_, Nat.lt_succ_self _, rfl⟩
  refine ⟨?_, ?_, ?_, ?_, ?_⟩
  · rw [counted]
    exact comes.grown sound.grown fresh may owns more known
  · intro u member'
    obtain ⟨j, here⟩ := List.getElem?_of_mem member'
    rcases moved here with ⟨-, rfl⟩ | ⟨other, here⟩
    · exact advances.made
    · refine (sound.made u (List.mem_of_getElem? here)).kept comes.keeps (fun x owned deleted => ?_) more known
      exact other (sound.apart here there x owned (may_deletes may x deleted))
  · intro u member' x owned
    rw [counted]
    obtain ⟨j, here⟩ := List.getElem?_of_mem member'
    rcases moved here with ⟨-, rfl⟩ | ⟨-, here⟩
    · exact news x (advances.owns x owned)
    · exact (sound.issued u (List.mem_of_getElem? here) x owned).mono
  · -- What is new is owned by nobody else.
    have alone {j : Nat} {u : Work} (other : j ≠ i) (here : p.threads[j]? = some u) :
        ∀ x ∈ (stage options u).owns, x ∉ (stage options (t.came c (serve env c p.state).1 rest)).owns := by
      intro x owned owned'
      rcases advances.owns x owned' with old | rfl
      · exact other (sound.apart here there x owned old)
      · obtain ⟨m, before, same⟩ := sound.issued u (List.mem_of_getElem? here) _ owned
        have : p.state.calls = m := fresh.injective (Subtype.ext same)
        omega
    intro j j' u u' here here' x owned owned'
    rcases moved here with ⟨rfl, rfl⟩ | ⟨other, old⟩ <;> rcases moved here' with ⟨rfl, rfl⟩ | ⟨other', old'⟩
    · rfl
    · exact absurd owned (alone other' old' x owned')
    · exact absurd owned' (alone other old x owned)
    · exact sound.apart old old' x owned owned'
  · intro u member' a assigned owned
    obtain ⟨j, here⟩ := List.getElem?_of_mem member'
    rcases moved here with ⟨-, rfl⟩ | ⟨other, still⟩
    · rcases comes.assignments a assigned with old | ⟨roleId, rfl⟩
      · rcases advances.owns _ owned with owned | new
        · exact (sound.own t member a old owned).imp_left (advances.user _)
        · rcases sound.grown.assignments a old with old | ⟨⟨m, before, same⟩, -⟩
          · exact absurd new (fresh.assignment _ a old).1
          · have : p.state.calls = m := fresh.injective (Subtype.ext (new.symm.trans same))
            omega
      · exact (may_assigns may).2.imp_left (advances.user _)
    · rcases comes.assignments a assigned with old | ⟨roleId, rfl⟩
      · exact sound.own u (List.mem_of_getElem? still) a old owned
      · exact absurd (sound.apart still there _ owned (may_assigns may).1) other

theorem requests_sound (fresh : Fresh env k₀) (distinct : Distinct k₀.users) {past : List (Label Job)}
    (run : (requests env options k₀).AnyRun past p) :
    Sound env options k₀ p ∧ ∀ t ∈ p.threads, Orderly (steps options) begun Fits t :=
  guarded_invariant (program_follows options) (sound_start distinct) (fun _ job sound _ => sound_started sound job)
    (fun _ _ _ _ rest sound there _ may _ => sound_advanced fresh sound rest there may) run

end

/-! ## Logging in -/

/-- A login with the credentials opens a session of the user in the project. -/
def LogsIn (realm : Realm) (credential : Credential) (userId projectId : String) : Prop :=
  ∀ (dep : Deployment) (api : Api) (others : Session.Env) (table : RevokedTable), Serves realm api → Up others →
    ∃ response, login dep (api.env others) api.keystone credential table = (.ok response, table) ∧
      response.status = 200 ∧ Opens realm dep.toConf userId projectId response

def TurnedAway (realm : Realm) (credential : Credential) : Prop :=
  ∀ (dep : Deployment) (api : Api) (others : Session.Env) (table : RevokedTable), Serves realm api → Up others →
    login dep (api.env others) api.keystone credential table =
      (.error (.httpException 401 "Invalid credentials or unauthorized"), table)

section
variable {k : Keystone} {u v : User} {domains : String → Option String} {tokens : String → Option TokenData}
  {credential : Credential}

theorem Distinct.eq (distinct : Distinct k.users) (first : u ∈ k.users) (second : v ∈ k.users)
    (same : u.id = v.id ∨ u.domainId = v.domainId ∧ u.name = v.name) : u = v := by
  by_contra other
  have symmetric : Std.Symm fun u v : User => u.id ≠ v.id ∧ ¬ (u.domainId = v.domainId ∧ u.name = v.name) :=
    ⟨fun _ _ apart => ⟨apart.1.symm, fun same => apart.2 ⟨same.1.symm, same.2.symm⟩⟩⟩
  have apart := List.Pairwise.forall distinct first second other
  exact same.elim apart.1 apart.2

theorem account_right (distinct : Distinct k.users) (there : u ∈ k.users) :
    k.account u.domainId u.name u.password = some u := by
  cases found : k.account u.domainId u.name u.password with
  | none => exact absurd (List.find?_eq_none.mp found u there) (by simp)
  | some v =>
    have same : v.domainId = u.domainId ∧ v.name = u.name ∧ v.password = u.password := by
      simpa using List.find?_some found
    rw [distinct.eq there (List.mem_of_find?_eq_some found) (.inr ⟨same.1.symm, same.2.1.symm⟩)]

theorem account_wrong (distinct : Distinct k.users) (there : u ∈ k.users) {password : String} (wrong : password ≠ u.password) :
    k.account u.domainId u.name password = none := by
  refine List.find?_eq_none.mpr fun v there' right => ?_
  have same := of_decide_eq_true right
  rw [distinct.eq there there' (.inr ⟨same.1.symm, same.2.1.symm⟩)] at wrong
  exact wrong same.2.2.symm

/-- Who has the name and the password of a user logs in as that user, and who has another
    password does not. -/
theorem credentials_decide (distinct : Distinct k.users) (there : u ∈ k.users) {projectId : String}
    (home : (k.realm domains tokens).home u.id = some projectId) (domain : domains credential.domain = some u.domainId)
    (name : credential.username = u.name) :
    (credential.password = u.password → LogsIn (k.realm domains tokens) credential u.id projectId) ∧
      (credential.password ≠ u.password → TurnedAway (k.realm domains tokens) credential) := by
  have account : (k.realm domains tokens).account credential.domain credential.username credential.password =
      (k.account u.domainId u.name credential.password).map fun u => u.id.1 := by
    simp only [Keystone.realm, domain, name]
    show (k.account u.domainId u.name credential.password).bind _ = _
    cases k.account u.domainId u.name credential.password <;> rfl
  constructor
  · intro right dep api others table serves up
    rw [right, account_right distinct there] at account
    exact login_opens serves up dep credential table (by rw [right]; exact account) home
  · intro wrong dep api others table serves up
    rw [account_wrong distinct there wrong] at account
    exact login_refused serves others dep credential table (by rw [account]; rfl)

theorem users_of (distinct : Distinct k.users) (there : u ∈ k.users) :
    (k.realm domains tokens).users u.id = some u.data := by
  show (k.users.find? fun v => v.id.1 = u.id.1).map User.data = some u.data
  cases found : k.users.find? fun v => v.id.1 = u.id.1 with
  | none => exact absurd (List.find?_eq_none.mp found u there) (by simp)
  | some v =>
    have same : v.id = u.id := Subtype.ext (by simpa using List.find?_some found)
    rw [distinct.eq there (List.mem_of_find?_eq_some found) (.inl same.symm)]
    rfl

/-- The default project is the home of its user where it is enabled and the user has a role in it. -/
theorem home_of (distinct : Distinct k.users) (there : u ∈ k.users) {projectId : String}
    (default : u.defaultProjectId = some projectId) (houses : Houses k projectId) (employs : Employs k projectId u.id) :
    (k.realm domains tokens).home u.id = some projectId := by
  obtain ⟨p, member, rfl, enabled⟩ := houses
  obtain ⟨a, assigned, project, user⟩ := employs
  have works : p ∈ k.projectsOf u.id :=
    List.mem_filter.mpr ⟨member, decide_eq_true ⟨a, assigned, project, user⟩⟩
  have admitted : (k.realm domains tokens).Enabled u.id p.id := by
    refine List.mem_map.mpr ⟨p.data.entry, List.mem_filter.mpr ⟨?_, enabled⟩, rfl⟩
    exact List.mem_map_of_mem (List.mem_map_of_mem works)
  have preferred : (k.realm domains tokens).defaultProject u.id = some p.id.1 := by
    rw [Realm.defaultProject, users_of distinct there]
    exact default
  rw [Realm.home, preferred, Option.filter_some, if_pos (decide_eq_true admitted)]

end

section
variable {env : Env} {options : Options} {k₀ : Keystone} {p : Works}

/-- However the requests overlap and whichever of their calls fail, a user who was told that the
    signup succeeded logs in, with the password of the signup or the one that it was changed to
    and with no other, to a project where nobody else but the administrator has a role. -/
theorem signed_up_logs_in (fresh : Fresh env k₀) (distinct : Distinct k₀.users) {past : List (Label Job)}
    (run : (requests env options k₀).AnyRun past p) {t : Work} (member : t ∈ p.threads) {user : SignupRequest}
    (job : t.job = .signup user) {message : String} (done : t.rest = .done (.ok message))
    (domains : String → Option String) (tokens : String → Option TokenData) :
    ∃ projectId userId password, (password = user.password ∨ Asked p.threads userId password) ∧
      (∀ a ∈ p.state.keystone.assignments, a.projectId = projectId → a.userId = userId ∨ a.userId = options.adminUserId) ∧
      ∀ credential : Credential, domains credential.domain = some "default" → credential.username = user.username →
        (credential.password = password → LogsIn (p.state.keystone.realm domains tokens) credential userId projectId) ∧
        (credential.password ≠ password → TurnedAway (p.state.keystone.realm domains tokens) credential) := by
  obtain ⟨sound, orderly⟩ := requests_sound fresh distinct run
  obtain ⟨r, ended, fits⟩ := (orderly t member).ended (by rw [Thread.upcoming, done])
  rw [done] at ended
  cases ended
  rw [job] at fits
  obtain ⟨projectId, userId, phase⟩ : ∃ projectId userId, stage options t = .member user projectId userId := fits
  have made := sound.made t member
  have own := sound.own t member
  rw [phase] at made own
  obtain ⟨houses, ⟨u, there, rfl, name, domain, default, password⟩, employs⟩ := made
  refine ⟨projectId, u.id, u.password, password, fun a assigned within => ?_, fun credential named username => ?_⟩
  · refine (own a assigned (by rw [within]; exact List.mem_cons_self)).imp_left fun same => ?_
    exact (Option.mem_some_iff.mp same).symm
  · refine credentials_decide sound.grown.distinct there (home_of sound.grown.distinct there default houses employs) ?_ ?_
    · rw [named, domain]
    · rw [username, name]

/-! ## The accounts of others -/

theorem home_congr {realm realm' : Realm} {userId : String} (users : realm.users userId = realm'.users userId)
    (projects : realm.projects userId = realm'.projects userId) : realm.home userId = realm'.home userId := by
  have memberships : realm.memberships userId = realm'.memberships userId := congrArg (List.map _) projects
  have enabledProjects : realm.enabledProjects userId = realm'.enabledProjects userId := congrArg (List.filter _) memberships
  have enabled (project : String) : realm.Enabled userId project ↔ realm'.Enabled userId project := by
    rw [Realm.Enabled, Realm.Enabled, enabledProjects]
  have default : realm.defaultProject userId = realm'.defaultProject userId := by
    rw [Realm.defaultProject, Realm.defaultProject, users]
  simp only [Realm.home, default, enabled, enabledProjects]

/-- Who was there before works in the projects of before, unless it is the administrator. -/
theorem projectsOf_grown {env : Env} {options : Options} {k₀ k : Keystone} {asked : String → String → Prop} {n : Nat}
    (grown : Grown env options k₀ asked n k) (fresh : Fresh env k₀) {u : User} (there : u ∈ k₀.users)
    (other : u.id.1 ≠ options.adminUserId) : k.projectsOf u.id = k₀.projectsOf u.id := by
  obtain ⟨more, same, new⟩ := grown.projects
  have before : ∀ a ∈ k.assignments, a.userId = u.id → a ∈ k₀.assignments := by
    intro a assigned user
    refine (grown.assignments a assigned).resolve_right ?_
    rintro ⟨-, ⟨m, -, newUser⟩ | admin⟩
    · exact fresh.user m u there (Subtype.ext (user.symm.trans newUser))
    · exact other (user.symm.trans admin)
  have none : more.filter (fun p => ∃ a ∈ k.assignments, a.projectId = p.id ∧ a.userId = u.id) = [] := by
    refine List.filter_eq_nil_iff.mpr fun p among works => ?_
    obtain ⟨a, assigned, project, user⟩ := of_decide_eq_true works
    obtain ⟨m, -, newProject⟩ := new p among
    exact (fresh.assignment m a (before a assigned user)).1 (project.trans newProject)
  rw [Keystone.projectsOf, same, List.filter_append, none, List.append_nil]
  refine List.filter_congr fun p _ => decide_eq_decide.mpr ⟨?_, ?_⟩
  · rintro ⟨a, assigned, project, user⟩
    exact ⟨a, before a assigned user, project, user⟩
  · rintro ⟨a, assigned, project, user⟩
    exact ⟨a, grown.kept.assignment a assigned nofun nofun, project, user⟩

/-- Who had an account before has it still, with the same home: the password is the one of before,
    or one that a request asked for to be set for this user. -/
theorem accounts_kept (fresh : Fresh env k₀) (distinct : Distinct k₀.users) {past : List (Label Job)}
    (run : (requests env options k₀).AnyRun past p) {u : User} (there : u ∈ k₀.users) (other : u.id.1 ≠ options.adminUserId)
    (domains : String → Option String) (tokens tokens' : String → Option TokenData) :
    (p.state.keystone.realm domains tokens').home u.id = (k₀.realm domains tokens).home u.id ∧
      ∃ password, (password = u.password ∨ Asked p.threads u.id password) ∧
        ∀ (credential : Credential) (projectId : String), domains credential.domain = some u.domainId →
          credential.username = u.name → (k₀.realm domains tokens).home u.id = some projectId →
            (credential.password = password → LogsIn (p.state.keystone.realm domains tokens') credential u.id projectId) ∧
            (credential.password ≠ password → TurnedAway (p.state.keystone.realm domains tokens') credential) := by
  obtain ⟨sound, -⟩ := requests_sound fresh distinct run
  have grown := sound.grown
  obtain ⟨password, still, changed⟩ := grown.kept.user u there nofun
  have home : (p.state.keystone.realm domains tokens').home u.id = (k₀.realm domains tokens).home u.id := by
    refine home_congr ?_ ?_
    · rw [users_of distinct there]
      exact users_of (u := { u with password }) grown.distinct still
    · exact congrArg (List.map Project.data) (projectsOf_grown grown fresh there other)
  refine ⟨home, password, changed, fun credential projectId domain name here => ?_⟩
  exact credentials_decide grown.distinct still (home.trans here) domain name

end

/-! ## A Keystone that gives out tokens -/

namespace Keystone

/-- A text is the token that it spells, for the users that are there. -/
def tokens (k : Keystone) (text : String) : Option TokenData :=
  let (user, project) := read text.toList
  if ∃ u ∈ k.users, u.id.1 = String.ofList user then
    some ⟨String.ofList user, ⟨"default", "Default"⟩,
      project.map fun project => ⟨String.ofList project, "", ⟨"default", "Default"⟩⟩, [], ""⟩
  else none

def issue (userId : String) : String := String.ofList (spell userId.toList none)
def scope (userId projectId : String) : String := String.ofList (spell userId.toList (some projectId.toList))

variable {k : Keystone} {domains : String → Option String} {tokens' : String → Option TokenData}

theorem tokens_known {text : String} {data : TokenData} (is : k.tokens text = some data) : ∃ u ∈ k.users, u.id.1 = data.userId := by
  simp only [tokens] at is
  split at is
  · next there =>
    cases is
    exact there
  · cases is

theorem tokens_spell {u : User} (there : u ∈ k.users) (project : Option (List Char)) :
    ∃ data, k.tokens (String.ofList (spell u.id.1.toList project)) = some data ∧ data.userId = u.id ∧
      data.project = project.map fun project => ⟨String.ofList project, "", ⟨"default", "Default"⟩⟩ := by
  have known : ∃ v ∈ k.users, v.id.1 = u.id.1 := ⟨u, there, rfl⟩
  simp only [tokens, String.toList_ofList, read_spell, String.ofList_toList, if_pos known]
  exact ⟨_, rfl, rfl, rfl⟩

theorem account_known {domain name password userId : String}
    (account : (k.realm domains tokens').account domain name password = some userId) : ∃ u ∈ k.users, u.id.1 = userId := by
  obtain ⟨domainId, _, rest⟩ := Option.bind_eq_some_iff.mp account
  obtain ⟨u, found, same⟩ := Option.bind_eq_some_iff.mp rest
  cases same
  exact ⟨u, List.mem_of_find?_eq_some found, rfl⟩

/-- Where anybody has an account, there is an API that answers for the realm. -/
theorem served (distinct : Distinct k.users) {u : User} (there : u ∈ k.users) :
    Serves (k.realm domains k.tokens) ((k.realm domains k.tokens).api (issue u.id) issue scope) := by
  refine Issues.serves ⟨?_, fun account => ?_, fun owns _ => ?_, fun is => ?_, fun is => ?_⟩
  · obtain ⟨data, is, _⟩ := tokens_spell there none
    exact ⟨data, is⟩
  · obtain ⟨v, member, rfl⟩ := account_known account
    obtain ⟨data, is, owner, _⟩ := tokens_spell member none
    exact ⟨data, is, owner⟩
  · obtain ⟨data, is, rfl⟩ := owns
    obtain ⟨v, member, same⟩ := tokens_known is
    rw [← same]
    obtain ⟨data', is', owner, project⟩ := tokens_spell member (some _)
    exact ⟨data', _, is', owner, project, String.ofList_toList⟩
  · obtain ⟨v, member, same⟩ := tokens_known is
    exact ⟨v.data, by rw [← same]; exact users_of distinct member⟩
  · obtain ⟨v, found, rfl⟩ := Option.map_eq_some_iff.mp is
    show v.id.1 = _
    simpa using List.find?_some found

end Keystone

/-! ## Alice signs up where Bob has an account -/

def bob : User := ⟨⟨"bob", rfl⟩, "bob", "default", "secret", some "web", "bob@example.org", "Bob"⟩

def admin : User := ⟨⟨"admin", rfl⟩, "admin", "default", "root", none, "admin@example.org", ""⟩

def bobsKeystone : Keystone := ⟨[admin, bob], [⟨⟨"web", rfl⟩, "web", "default", "", true⟩], [⟨"web", "bob", "member"⟩]⟩

def unary (n : Nat) : Id := ⟨String.ofList (List.replicate (n + 1) 'x'), by simp [truthy, List.replicate_succ]⟩

/-- Every call is answered. -/
def answering : Env := ⟨fun _ => .answered, unary, documentedKeystone⟩

theorem unary_ne {n : Nat} {id : Id} (other : id.1.toList.head? ≠ some 'x') : id ≠ unary n := by
  rintro rfl
  simp [unary, List.replicate_succ] at other

theorem answering_fresh : Fresh answering bobsKeystone where
  injective n m same := by
    have texts := congrArg (fun id : Id => id.1.toList.length) same
    simpa [answering, unary] using texts
  user n u there := by
    rcases List.mem_pair.mp there with rfl | rfl <;> exact unary_ne (by decide)
  project n p there := by
    obtain rfl := List.mem_singleton.mp there
    exact unary_ne (by decide)
  assignment n a there := by
    obtain rfl := List.mem_singleton.mp there
    have other (id : Id) (apart : id.1.toList.head? ≠ some 'x') : id.1 ≠ answering.newId n :=
      fun same => unary_ne apart (Subtype.ext same)
    exact ⟨other ⟨"web", rfl⟩ (by decide), other ⟨"bob", rfl⟩ (by decide)⟩

def alice : SignupRequest := ⟨"alice", "password", "Alice", "alice@example.org"⟩

def console : Options := ⟨"member", "admin", "admin-role", 10, 4, 6144, 100, ["192.168.0.10"], "RegionOne"⟩

/-- The one request is a signup of Alice's, and has succeeded. -/
def succeeded (p : Works) : Bool :=
  match p.threads with
  | [t] => t.job == .signup alice && match t.rest with
    | .done (.ok _) => true
    | _ => false
  | _ => false

theorem alice_signs_up : ∃ past p, (requests answering console bobsKeystone).AnyRun past p ∧ succeeded p = true :=
  (requests answering console bobsKeystone).exec_reaches (fun _ _ => True)
    (.start (.signup alice) :: List.replicate 10 (.advance 0)) (by decide)

theorem succeeded_signup {p : Works} (yes : succeeded p = true) :
    ∃ t message, p.threads = [t] ∧ t.job = .signup alice ∧ t.rest = .done (.ok message) := by
  unfold succeeded at yes
  split at yes
  · next t one =>
    rw [Bool.and_eq_true, beq_iff_eq] at yes
    obtain ⟨job, ended⟩ := yes
    split at ended
    · next message done => exact ⟨t, message, one, job, done⟩
    · cases ended
  · cases yes

/-- There is one domain. -/
def oneDomain (name : String) : Option String := if name = "Default" then some "default" else none

theorem alice_logs_in : ∃ past p api response projectId userId, (requests answering console bobsKeystone).AnyRun past p ∧
    Serves (p.state.keystone.realm oneDomain p.state.keystone.tokens) api ∧
      login SessionCookie.site (api.env (Session.willing 0 "uuid")) api.keystone ⟨none, "Default", "alice", "password"⟩ [] =
        (.ok response, []) ∧
      Opens (p.state.keystone.realm oneDomain p.state.keystone.tokens) SessionCookie.site.toConf userId projectId response := by
  obtain ⟨past, p, run, yes⟩ := alice_signs_up
  obtain ⟨t, message, one, job, done⟩ := succeeded_signup yes
  have member : t ∈ p.threads := by rw [one]; exact List.mem_singleton_self t
  obtain ⟨projectId, userId, password, same, _, logins⟩ :=
    signed_up_logs_in answering_fresh (by decide) run member job done oneDomain p.state.keystone.tokens
  have unchanged : ¬ Asked p.threads userId password := by
    rintro ⟨u, among, _, _, other, _⟩
    rw [one] at among
    obtain rfl := List.mem_singleton.mp among
    rw [job] at other
    cases other
  obtain ⟨sound, -⟩ := requests_sound answering_fresh (by decide) run
  obtain ⟨_, still, _⟩ := sound.grown.kept.user bob (List.mem_cons_of_mem _ (List.mem_singleton_self _)) nofun
  have serves : Serves (p.state.keystone.realm oneDomain p.state.keystone.tokens) _ :=
    Keystone.served sound.grown.distinct still
  have right : "password" = password := (same.resolve_right unchanged).symm
  obtain ⟨response, answered, _, opens⟩ := (logins ⟨none, "Default", "alice", "password"⟩ rfl rfl).1 right
    SessionCookie.site _ _ [] serves (SigningIn.willing_up 0 "uuid")
  exact ⟨past, p, _, response, projectId, userId, run, serves, answered, opens⟩

theorem bob_keeps_account : ∃ past p, (requests answering console bobsKeystone).AnyRun past p ∧ succeeded p = true ∧
    (p.state.keystone.realm oneDomain p.state.keystone.tokens).home "bob" = some "web" := by
  obtain ⟨past, p, run, yes⟩ := alice_signs_up
  obtain ⟨home, _⟩ := accounts_kept answering_fresh (by decide) run (List.mem_cons_of_mem _ (List.mem_singleton_self bob)) (by decide)
    oneDomain (fun _ => none) p.state.keystone.tokens
  exact ⟨past, p, run, yes, home.trans (by decide)⟩

end Skyline.Accounts
