import Skyline.SigningIn

/-!
Keystones that signing in works with. Where users are given tokens of their own, and tokens for
the projects that they may work in, an API answers for the realm (`Issues.serves`), so that
what is proved of every API that does is proved of something. Tokens can be spelled for any
user and project (`read_spell`).
-/
namespace Skyline.SigningIn
open Skyline.Python Skyline.Session Skyline.KeystoneApi

/-! ## An API of a realm -/

section
variable (realm : Realm) (system : String) (issue : String → String) (scope : String → String → String)

/-- The user in a path `/users/{user}/projects`. -/
def userOfPath (path : String) : String := String.ofList ((path.toList.drop 7).take (path.length - 16))

def found {α : Type} : Option α → Except Exn (Reply α)
  | some data => .ok ⟨200, "", .ok data⟩
  | none => .ok ⟨404, "Not Found", .error (.exception "Not Found")⟩

/-- The system user has one token, a user is given one by the first function, and the second
    scopes it to a project. -/
def Realm.api : Api where
  systemToken := .ok system
  passwordToken
    | some domain, some username, some password =>
      match realm.account domain username password with
      | some user => .ok (issue user)
      | none => .error (.exception "Unauthorized")
    | _, _, _ => .error (.exception "Unauthorized")
  tokenToken token := .ok token
  scopedToken token projectId :=
    match realm.tokens token with
    | some data => if realm.Enabled data.userId projectId then .ok (scope data.userId projectId) else .error (.exception "Unauthorized")
    | none => .error (.exception "Unauthorized")
  token _ token := found (realm.tokens token)
  user _ id := found (realm.users id)
  projects token path := found ((realm.tokens token).map fun data =>
    realm.projects (if path = "/auth/projects" then data.userId else userOfPath path))

/-- The tokens are those of their users. -/
structure Issues : Prop where
  system : ∃ data, realm.tokens system = some data
  issue : ∀ {domain username password user}, realm.account domain username password = some user → realm.Owns user (issue user)
  scope : ∀ {token user project}, realm.Owns user token → realm.Enabled user project → realm.Scoped user project (scope user project)
  known : ∀ {token data}, realm.tokens token = some data → ∃ found, realm.users data.userId = some found
  named : ∀ {user data}, realm.users user = some data → data.id = user

end

variable {realm : Realm} {system : String} {issue : String → String} {scope : String → String → String}

theorem userOfPath_users (user : String) : userOfPath ("/users/" ++ user ++ "/projects") = user := by
  have length : ("/users/" ++ user ++ "/projects").length - 16 = user.toList.length := by
    simp only [String.length_append, String.length_toList]
    have : "/users/".length = 7 := rfl
    have : "/projects".length = 9 := rfl
    omega
  have rest : ("/users/" ++ user ++ "/projects").toList.drop 7 = user.toList ++ "/projects".toList := by
    rw [String.toList_append, String.toList_append, List.append_assoc]
    rfl
  rw [userOfPath, length, rest, List.take_left, String.ofList_toList]

theorem Issues.serves (issues : Issues realm system issue scope) : Serves realm (realm.api system issue scope) where
  system := ⟨system, rfl⟩
  password account := ⟨_, by simp only [Realm.api, account], issues.issue account⟩
  wrongPassword account := ⟨_, by simp only [Realm.api, account]; rfl⟩
  reissued owns := ⟨_, rfl, owns⟩
  known := issues.known
  token _ is := ⟨"", by simp only [Realm.api, is]; rfl⟩
  unknownToken _ unknown := ⟨_, by simp only [Realm.api, unknown]; rfl, by decide⟩
  user _ is := ⟨issues.named is, "", by simp only [Realm.api, is]; rfl⟩
  projects := by
    rintro user token ⟨data, is, rfl⟩
    exact ⟨"", by simp only [Realm.api, is]; rfl⟩
  stranger unknown := ⟨_, by simp only [Realm.api, unknown]; rfl, by decide⟩
  userProjects := by
    rintro _ user ⟨rfl⟩
    obtain ⟨data, is⟩ := issues.system
    refine ⟨"", ?_⟩
    simp only [Realm.api, is, Option.map_some, own_listing, if_false, userOfPath_users]
    rfl
  scopes := by
    rintro user token project ⟨data, is, rfl⟩ enabled
    exact ⟨_, by simp only [Realm.api, is, enabled, if_true], issues.scope ⟨data, is, rfl⟩ enabled⟩
  refuses := by
    intro token project unable
    cases is : realm.tokens token with
    | none => exact ⟨_, by simp only [Realm.api, is]; rfl⟩
    | some data => exact ⟨_, by simp only [Realm.api, is, unable data.userId ⟨data, is, rfl⟩, if_false]; rfl⟩

/-! ## Tokens that spell out what they are for -/

/-- A text for a user, and for a project if any. -/
def spell : List Char → Option (List Char) → List Char
  | [], none => []
  | [], some project => 'p' :: project
  | c :: user, project => 'u' :: c :: spell user project

def read : List Char → List Char × Option (List Char)
  | 'u' :: c :: rest => (c :: (read rest).1, (read rest).2)
  | 'p' :: project => ([], some project)
  | _ => ([], none)

theorem read_spell (user : List Char) (project : Option (List Char)) : read (spell user project) = (user, project) := by
  induction user with
  | nil => cases project <;> rfl
  | cons c user ih => rw [spell, read, ih]

end Skyline.SigningIn
