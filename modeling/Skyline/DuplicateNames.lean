import Mathlib.Computability.RegularExpressions
import Skyline.UniqueNames

/-!
The check for a server of the same name. `create_instance` asks Nova for the servers whose
name matches `^name$` as a regular expression, and looks among these for one that has the
name. So it finds a name that is taken just where the name matches itself.
-/
namespace Skyline.DuplicateNames
open Skyline.Effects Skyline.Programs Skyline.Python Skyline.Services Skyline.Tables
open Skyline.Provisioning Skyline.UniqueNames

variable {env : Env} {w : World Call State}

/-- The request is answered with a conflict. -/
def Conflicts {α : Type} (r : Except Exn α) : Prop := ∃ detail, r = .error (.httpException 409 detail)

theorem serve_ok (answered : ∀ c n, env.delivery c n = .answered) {c : Call} {a : Answer c} {s : State}
    (performed : perform env (w.calls.count c) w.state c = (.ok a, s)) :
    env.backend.serve c w = (.ok a, ⟨s, w.calls ++ [c]⟩) :=
  Backend.serve_ok (answered _ _) performed

theorem cloud_ok (answered : ∀ c n, env.delivery c n = .answered) {c : Cloud.Call} {a : Cloud.Answer c} {s : State}
    (performed : perform env (w.calls.count (.cloud c)) w.state (.cloud c) = (.ok a, s)) :
    (ofCloud (Program.remote c)).run env.backend.serve w = (.ok a, ⟨s, w.calls ++ [.cloud c]⟩) := by
  have served := serve_ok answered performed
  show ((env.backend.serve (.cloud c) w).1.map id, (env.backend.serve (.cloud c) w).2) = _
  rw [served]
  rfl

/-- A request whose calls all get through is answered by what Nova lists for the pattern. -/
theorem createInstance_run (answered : ∀ c n, env.delivery c n = .answered) (request : Request) :
    Conflicts ((createInstance request.inst request.profile).run env.backend.serve w).1 ↔
      (listServers env w.state request.session (some request.pattern) request.project).any
        (fun server => server.name == request.inst.name) = true := by
  have opened : (ofCloud (Clients.sessionOf request.profile)).run env.backend.serve w =
      (.ok request.session, ⟨w.state, w.calls ++ [.cloud (.generateSession request.profile.keystoneToken request.project)]⟩) := by
    rw [Clients.sessionOf, Cloud.generateSession, ofCloud_call env]
    exact Eff.bind_ok (serve_ok answered rfl)
  generalize w.calls ++ [Call.cloud (.generateSession _ _)] = calls at opened
  have listed : (novaListServers request.session (some request.pattern) request.project).run env.backend.serve ⟨w.state, calls⟩ =
      (.ok (listServers env w.state request.session (some request.pattern) request.project),
        ⟨w.state, calls ++ [.listServers request.session (some request.pattern) request.project]⟩) := by
    have served := serve_ok (w := ⟨w.state, calls⟩) answered
      (c := .listServers request.session (some request.pattern) request.project) rfl
    rw [novaListServers, Program.run_attempt]
    exact Eff.attempt_ok _ served
  rw [createInstance, Program.run_bind, Eff.bind_ok opened]
  show Conflicts (((novaListServers request.session (some request.pattern) request.project >>= _ : Remote _).run
    env.backend.serve) _).1 ↔ _
  rw [Program.run_bind, Eff.bind_ok listed, Program.run_ite]
  split
  · next taken => exact iff_of_true ⟨_, rfl⟩ taken
  · next free =>
    refine iff_of_false ?_ free
    generalize calls ++ [Call.listServers _ _ _] = later
    have issued : (Program.remote Call.uuid4 : Remote String).run env.backend.serve ⟨w.state, later⟩ =
        (.ok (env.uuid4 (later.count .uuid4)), ⟨w.state, later ++ [.uuid4]⟩) :=
      serve_ok (w := ⟨w.state, later⟩) answered rfl
    rw [Program.run_bind, Eff.bind_ok issued, Program.run_bind, Cloud.database,
      Eff.bind_ok (cloud_ok answered rfl)]
    rintro ⟨detail, conflict⟩
    cases conflict

/-- What Nova lists for the pattern has the name where a server of the project does and the name
    matches itself. -/
theorem listServers_any_iff (ownProject : ∀ keystoneToken projectId, env.mayUse keystoneToken projectId projectId = true)
    (request : Request) :
    (listServers env w.state request.session (some request.pattern) request.project).any
        (fun server => server.name == request.inst.name) = true ↔
      Taken w.state request.project request.inst.name ∧ env.nameMatches request.pattern request.inst.name = true := by
  have sees : env.cloud.sees request.session request.project = true := ownProject _ _
  rw [List.any_eq_true]
  constructor
  · rintro ⟨listed, member, named⟩
    obtain ⟨server, selected, rfl⟩ := List.mem_map.mp (env.serverService.lists.mem_iff.mp member)
    obtain ⟨there, shown⟩ := Table.mem_select.mp selected
    have same : w.state.names server.id = request.inst.name := by simpa using named
    simp only [Option.all_some, Bool.and_eq_true, beq_iff_eq, same] at shown
    exact ⟨⟨server, there, shown.1.2, same⟩, shown.2⟩
  · rintro ⟨⟨server, there, ours, named⟩, itself⟩
    refine ⟨_, env.serverService.lists.mem_iff.mpr (List.mem_map.mpr ⟨server, Table.mem_select.mpr ⟨there, ?_⟩, rfl⟩), ?_⟩
    · simp [sees, ours, named, itself]
    · simp [named]

/-- The check is exact where the name matches itself, or no server has it. -/
theorem createInstance_conflicts_iff (answered : ∀ c n, env.delivery c n = .answered)
    (ownProject : ∀ keystoneToken projectId, env.mayUse keystoneToken projectId projectId = true) (request : Request) :
    (Conflicts ((createInstance request.inst request.profile).run env.backend.serve w).1 ↔
        Taken w.state request.project request.inst.name) ↔
      (Taken w.state request.project request.inst.name → env.nameMatches request.pattern request.inst.name = true) := by
  rw [createInstance_run answered, listServers_any_iff ownProject]
  exact and_iff_left_iff_imp

/-! ## Names as regular expressions -/

open RegularExpression in
/-- An expression of characters, each of which may be followed by `*`, `+` or `?`. The other
    operators are not read as such. -/
def expression : List Char → RegularExpression Char
  | [] => 1
  | c :: '*' :: rest => (char c).star * expression rest
  | c :: '+' :: rest => char c * (char c).star * expression rest
  | c :: '?' :: rest => (1 + char c) * expression rest
  | c :: rest => char c * expression rest

/-- Whether a name is one of those that the pattern between `^` and `$` describes. -/
def nameMatches (pattern name : String) : Bool :=
  match pattern.toList with
  | '^' :: body => body.getLast? == some '$' && (expression body.dropLast).rmatch name.toList
  | _ => false

/-- The characters that make the one before them optional, or let it repeat. -/
def repeats (c : Char) : Bool := c == '*' || c == '+' || c == '?'

open RegularExpression in
theorem expression_plain {name : List Char} (plain : name.all (!repeats ·) = true) :
    (expression name).rmatch name = true := by
  fun_induction expression name with
  | case1 => rfl
  | case2 c rest ih => simp [repeats] at plain
  | case3 c rest ih => simp [repeats] at plain
  | case4 c rest ih => simp [repeats] at plain
  | case5 c rest star plus optional ih =>
    have later : (expression rest).rmatch rest = true := ih (by simp_all)
    exact (mul_rmatch_iff _ _ _).mpr ⟨[c], rest, rfl, (char_rmatch_iff _ _).mpr rfl, later⟩

/-- A name without such characters matches itself. -/
theorem nameMatches_plain {name : String} (plain : name.toList.all (!repeats ·) = true) :
    nameMatches ("^" ++ name ++ "$") name = true := by
  have split : ("^" ++ name ++ "$").toList = '^' :: (name.toList ++ ['$']) := by simp
  rw [nameMatches, split]
  simp [expression_plain plain]

/-- An environment as `serving`, whose Nova lists the servers that an expression describes. -/
def searching : Env where
  __ := serving
  nameMatches := nameMatches

/-- The projects of `settled`, whose servers all have one name. -/
def named (name : String) : World Call State where
  state := { settled.state with names := fun _ => name }
  calls := []

/-- So the check is exact for a name that is no expression. -/
theorem plain_conflicts_iff {request : Request} (plain : request.inst.name.toList.all (!repeats ·) = true) :
    Conflicts ((createInstance request.inst request.profile).run searching.backend.serve w).1 ↔
      Taken w.state request.project request.inst.name :=
  (createInstance_conflicts_iff (fun _ _ => rfl) (fun _ _ => beq_self_eq_true _) request).mpr fun _ =>
    nameMatches_plain plain

theorem web_conflicts_iff :
    (Conflicts ((createInstance web Session.member).run searching.backend.serve (named "web")).1 ↔
        Taken (named "web").state "project" "web") ↔
      (Taken (named "web").state "project" "web" → searching.nameMatches "^web$" "web" = true) :=
  createInstance_conflicts_iff (fun _ _ => rfl) (fun _ _ => beq_self_eq_true _) ⟨web, Session.member⟩

/-- A name `a+b` does not match itself, as `a+` are letters `a`: a second server of the name is
    accepted. -/
theorem sum_taken_twice : ¬ ∀ (w : World Call State) (request : Request),
    Conflicts ((createInstance request.inst request.profile).run searching.backend.serve w).1 ↔
      Taken w.state request.project request.inst.name := by
  intro holds
  have taken : Taken (named "a+b").state "project" "a+b" := by decide
  obtain ⟨detail, conflict⟩ := (holds (named "a+b") ⟨{ web with name := "a+b" }, Session.member⟩).mpr taken
  have accepted : ((createInstance { web with name := "a+b" } Session.member).run searching.backend.serve (named "a+b")).1.toBool =
      true := by decide
  rw [conflict] at accepted
  cases accepted

end Skyline.DuplicateNames
