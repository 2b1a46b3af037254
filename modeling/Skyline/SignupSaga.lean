import Skyline.Signup

/-!
What a signup leaves behind. A signup that succeeds has made everything that it was asked
for, and one that does not has tried to delete all it made (`Saga`), with one exception:
where a step fails after the user was created, the project is only rolled back if the
rollback of the user comes back first (`createUser_saga`).

The proof follows the parts of `create_user`. Each takes effect and is run through, or it is
abandoned with the rollback that belongs to it; the calls made from a state on are bounded
by what the program may call (`Extends`).
-/
namespace Skyline.Signup
open Skyline.Effects Skyline.Programs Skyline.Python
open Skyline.Services (Backend)

/-! ## What becomes of a call -/

def Outcome.taken {success : Nat} : Outcome success → Bool
  | succeeds => true
  | replies .. | raises _ => false

def Outcome.raising {success : Nat} : Outcome success → Bool
  | raises _ => true
  | succeeds | replies .. => false

def World.took (w : World) (c : Call) : World := ⟨w.done ++ [c], w.calls ++ [c]⟩
def World.asked (w : World) (c : Call) : World := ⟨w.done, w.calls ++ [c]⟩

section
variable {env : Env} {w w' : World} {c : Call}

theorem serve_succeeds (outcome : env.outcome c (w.calls.count c) = .succeeds) :
    serve env c w = (.ok (env.succeeded c), w.took c) := by
  simp [Backend.serve, Env.backend, Env.perform, outcome, Outcome.delivery, World.took]

theorem serve_replies {statusCode : Nat} {text : String} {other : statusCode ≠ c.success}
    (outcome : env.outcome c (w.calls.count c) = .replies statusCode text other) :
    serve env c w = (replied statusCode text c, w.asked c) := by
  simp [Backend.serve, Env.backend, Env.perform, outcome, Outcome.delivery, World.asked]

theorem serve_raised {e : Exn} (outcome : env.outcome c (w.calls.count c) = .raises e) :
    serve env c w = (.error e, w.asked c) := by
  simp [Backend.serve, Env.backend, outcome, Outcome.delivery, World.asked]

theorem serve_taken (taken : (env.outcome c (w.calls.count c)).taken = true) :
    serve env c w = (.ok (env.succeeded c), w.took c) := by
  cases outcome : env.outcome c (w.calls.count c) with
  | succeeds => exact serve_succeeds outcome
  | replies _ _ _ => simp [outcome, Outcome.taken] at taken
  | raises _ => simp [outcome, Outcome.taken] at taken

variable (env) in
theorem serve_untaken (untaken : ¬ (env.outcome c (w.calls.count c)).taken = true) :
    ∃ r, serve env c w = (r, w.asked c) ∧
      ((∃ e, r = .error e) ∨ ∃ statusCode text, statusCode ≠ c.success ∧ r = replied statusCode text c) := by
  cases outcome : env.outcome c (w.calls.count c) with
  | succeeds => exact absurd (by rw [outcome]; rfl) untaken
  | replies statusCode text other => exact ⟨_, serve_replies outcome, .inr ⟨statusCode, text, other, rfl⟩⟩
  | raises e => exact ⟨_, serve_raised outcome, .inl ⟨e, rfl⟩⟩

theorem mem_serve_calls : c ∈ (serve env c w).2.calls := by
  rw [Backend.serve_calls]
  exact List.mem_append_right _ (List.mem_singleton_self c)

variable (env) in
/-- A request to Keystone comes back, unless it raises. -/
theorem serve_returns {c : Call} (raising : ¬ (env.outcome c (w.calls.count c)).raising = true)
    (http : ∀ statusCode text, ∃ a, replied statusCode text c = .ok a) : ∃ a w', serve env c w = (.ok a, w') := by
  cases outcome : env.outcome c (w.calls.count c) with
  | succeeds => exact ⟨_, _, serve_succeeds outcome⟩
  | replies statusCode text other =>
    obtain ⟨a, same⟩ := http statusCode text
    rw [serve_replies outcome, same]
    exact ⟨a, _, rfl⟩
  | raises e => exact absurd (by rw [outcome]; rfl) raising

variable (env) in
theorem serve_raises (raising : (env.outcome c (w.calls.count c)).raising = true) :
    ∃ e, serve env c w = (.error e, w.asked c) := by
  cases outcome : env.outcome c (w.calls.count c) with
  | succeeds => simp [outcome, Outcome.raising] at raising
  | replies _ _ _ => simp [outcome, Outcome.raising] at raising
  | raises e => exact ⟨e, serve_raised outcome⟩

/-- The world has gone on from another by calls of a kind. -/
def Extends (allowed : Call → Prop) (w w' : World) : Prop :=
  ∃ calls done, w'.calls = w.calls ++ calls ∧ w'.done = w.done ++ done ∧ (∀ c ∈ calls, allowed c) ∧
    ∀ c ∈ done, c ∈ calls

theorem Extends.refl (allowed : Call → Prop) (w : World) : Extends allowed w w := ⟨[], [], by simp, by simp, by simp, by simp⟩

theorem Extends.trans {allowed : Call → Prop} {w₁ w₂ w₃ : World} (first : Extends allowed w₁ w₂)
    (second : Extends allowed w₂ w₃) : Extends allowed w₁ w₃ := by
  obtain ⟨calls, done, hc, hd, all, made⟩ := first
  obtain ⟨calls', done', hc', hd', all', made'⟩ := second
  refine ⟨calls ++ calls', done ++ done', by rw [hc', hc, List.append_assoc], by rw [hd', hd, List.append_assoc], ?_, ?_⟩
  · exact List.forall_mem_append.mpr ⟨all, all'⟩
  · exact List.forall_mem_append.mpr ⟨fun c member => List.mem_append_left _ (made c member),
      fun c member => List.mem_append_right _ (made' c member)⟩

theorem Extends.weaken {allowed allowed' : Call → Prop} (weaker : ∀ c, allowed c → allowed' c)
    (extends' : Extends allowed w w') : Extends allowed' w w' := by
  obtain ⟨calls, done, hc, hd, all, made⟩ := extends'
  exact ⟨calls, done, hc, hd, fun c member => weaker c (all c member), made⟩

theorem serve_extends {allowed : Call → Prop} (permitted : allowed c) : Extends allowed w (serve env c w).2 := by
  cases outcome : env.outcome c (w.calls.count c) with
  | succeeds =>
    rw [serve_succeeds outcome]
    exact ⟨[c], [c], rfl, rfl, by simpa using permitted, by simp⟩
  | replies _ _ _ =>
    rw [serve_replies outcome]
    exact ⟨[c], [], rfl, (List.append_nil _).symm, by simpa using permitted, by simp⟩
  | raises _ =>
    rw [serve_raised outcome]
    exact ⟨[c], [], rfl, (List.append_nil _).symm, by simpa using permitted, by simp⟩

variable (env) in
theorem run_extends {allowed : Call → Prop} {α : Type} {m : Remote α} (uses : m.Uses allowed) :
    Extends allowed w (m.run (serve env) w).2 := by
  have each : ∀ c, allowed c → Eff.Keeps (Extends allowed w) (serve env c) :=
    fun _ permitted _ before => before.trans (serve_extends permitted)
  exact Program.run_keeps each uses w (.refl allowed w)

theorem Extends.mem_calls {allowed : Call → Prop} (extends' : Extends allowed w w') (member : c ∈ w.calls) :
    c ∈ w'.calls := by
  obtain ⟨calls, done, hc, -⟩ := extends'
  rw [hc]
  exact List.mem_append_left _ member

theorem Extends.mem_done {allowed : Call → Prop} (extends' : Extends allowed w w') (member : c ∈ w.done) :
    c ∈ w'.done := by
  obtain ⟨calls, done, -, hd, -⟩ := extends'
  rw [hd]
  exact List.mem_append_left _ member

theorem Extends.of_calls {allowed : Call → Prop} (extends' : Extends allowed w w') (member : c ∈ w'.calls) :
    c ∈ w.calls ∨ allowed c := by
  obtain ⟨calls, done, hc, -, all, -⟩ := extends'
  rw [hc] at member
  exact (List.mem_append.mp member).imp_right (all c)

theorem Extends.of_done {allowed : Call → Prop} (extends' : Extends allowed w w') (member : c ∈ w'.done) :
    c ∈ w.done ∨ allowed c := by
  obtain ⟨calls, done, -, hd, all, made⟩ := extends'
  rw [hd] at member
  exact (List.mem_append.mp member).imp_right fun later => all c (made c later)

end

/-! ## What a signup leaves -/

/-- A rollback was begun, and it sent its request unless it was given no token. -/
def Attempted (w : World) (caller : Caller) (delete : Call) : Prop :=
  .getToken caller ∈ w.calls ∧ (.getToken caller ∈ w.done → delete ∈ w.calls)

/-- A delete was attempted for every project and every user that was created. -/
structure Compensated (env : Env) (w : World) : Prop where
  project : ∀ payload, .postProject payload ∈ w.done →
    Attempted w (.deleteProject env.projectId) (.deleteProject env.projectId)
  user : ∀ payload, .postUser payload ∈ w.done → Attempted w (.deleteUser env.userId) (.deleteUser env.userId)

/-- Only what was created is deleted. -/
structure OwnDeletes (env : Env) (w : World) : Prop where
  project : ∀ id : String, .deleteProject id ∈ w.calls → id = env.projectId ∧ ∃ payload, .postProject payload ∈ w.done
  user : ∀ id : String, .deleteUser id ∈ w.calls → id = env.userId ∧ ∃ payload, .postUser payload ∈ w.done

structure Complete (env : Env) (options : Options) (user : SignupRequest) (w : World) : Prop where
  project : .postProject (projectPayload user) ∈ w.done
  user : .postUser (userPayload user env.projectId) ∈ w.done
  memberRole : .putRole env.projectId env.userId options.memberRoleId ∈ w.done
  adminRole : .putRole env.projectId options.adminUserId options.adminRoleId ∈ w.done
  novaQuotas : Signup.novaQuotas options env.projectId ∈ w.done
  cinderQuotas : Signup.cinderQuotas options env.projectId ∈ w.done

/-- A signup that succeeds is complete, and one that does not has tried to delete what it
    created; neither deletes anything else. -/
def Saga (env : Env) (options : Options) (user : SignupRequest) : Prop :=
  let (r, w) := (createUser options user).run (serve env) .start
  OwnDeletes env w ∧
    match r with
    | .ok (true, _) => Complete env options user w
    | _ => Compensated env w

/-- The calls that rollbacks make. -/
def Call.undoes : Call → Bool
  | getToken (.deleteProject _) | getToken (.deleteUser _) | deleteProject _ | deleteUser _ => true
  | _ => false

/-- Nothing that was created remains where the calls of the rollbacks took effect. -/
theorem Compensated.none_remains {env : Env} {w : World} (compensated : Compensated env w)
    (effective : ∀ c ∈ w.calls, c.undoes = true → c ∈ w.done) :
    (∀ payload, .postProject payload ∈ w.done → .deleteProject env.projectId ∈ w.done) ∧
      ∀ payload, .postUser payload ∈ w.done → .deleteUser env.userId ∈ w.done := by
  constructor
  · intro payload made
    obtain ⟨begun, sent⟩ := compensated.project payload made
    exact effective _ (sent (effective _ begun rfl)) rfl
  · intro payload made
    obtain ⟨begun, sent⟩ := compensated.user payload made
    exact effective _ (sent (effective _ begun rfl)) rfl

section
variable (env : Env) (options : Options) (user : SignupRequest)

/-- The call takes effect the first time it is made. -/
def Env.Takes (c : Call) : Prop := (env.outcome c 0).taken = true

/-- The quotas of the new project are set. -/
def QuotasSet : Prop :=
  env.Takes (novaQuotas options env.projectId) ∧ env.Takes (cinderQuotas options env.projectId)

/-- The signup gets as far as to create the user. -/
def UserCreated : Prop :=
  env.Takes (.getToken .createUser) ∧ env.Takes (.postProject (projectPayload user)) ∧ QuotasSet env options ∧
    env.Takes (.postUser (userPayload user env.projectId))

/-- Both roles are configured and their assignments take effect. -/
def RolesAssigned : Prop :=
  let member := Call.putRole env.projectId env.userId options.memberRoleId
  let admin := Call.putRole env.projectId options.adminUserId options.adminRoleId
  truthy options.memberRoleId = true ∧ env.Takes member ∧ truthy options.adminUserId = true ∧
    truthy options.adminRoleId = true ∧ (env.outcome admin ([member].count admin)).taken = true

/-- The rollback of the user gets its token, and its request does not raise. -/
def RollsUserBack : Prop :=
  env.Takes (.getToken (.deleteUser env.userId)) ∧ (env.outcome (.deleteUser env.userId) 0).raising = false

end

/-- The calls that are made once the project is there, and the user or not. -/
def Call.After (env : Env) (userThere : Prop) : Call → Prop
  | postProject _ | postUser _ | getToken .createUser => False
  | deleteProject id | getToken (.deleteProject id) => id = env.projectId
  | deleteUser id | getToken (.deleteUser id) => userThere ∧ id = env.userId
  | _ => True

section
variable {env : Env} {w w' : World} {userThere : Prop}

theorem deleteProject_after : (deleteProject env.projectId).Uses (Call.After env userThere) :=
  .bind (.remote rfl) fun _ => .bind (.remote rfl) fun _ => .pure ()

theorem deleteUser_after (there : userThere) : (deleteUser env.userId).Uses (Call.After env userThere) :=
  .bind (.remote ⟨there, rfl⟩) fun _ => .bind (.remote ⟨there, rfl⟩) fun _ => .pure ()

/-- Whatever comes back, asking for a token and then sending a request is an attempt. -/
theorem deleteResource_attempts {caller : Caller} {c : Call} {request : Remote Response}
    (sends : ∀ v, c ∈ (request.run (serve env) v).2.calls) (only : request.Uses (· = c))
    (before : .getToken caller ∈ w.done → c ∈ w.calls) :
    Attempted ((deleteResource caller request).run (serve env) w).2 caller c := by
  have sending : ∀ v, ((request.run (serve env) >>= fun _ => pure ()) v).2 = (request.run (serve env) v).2 :=
    fun v => Eff.bind_pure_state _ (fun _ => ()) v
  rw [deleteResource, Program.run_bind]
  by_cases taken : (env.outcome (.getToken caller) (w.calls.count (.getToken caller))).taken = true
  · have token : (getToken caller).run (serve env) w = (.ok (), w.took (.getToken caller)) := serve_taken taken
    have after := run_extends env (w := w.took (.getToken caller)) only
    rw [Eff.bind_ok token, Program.run_bind]
    show Attempted ((request.run (serve env) >>= fun _ => pure ()) _).2 caller c
    rw [sending]
    exact ⟨after.mem_calls (by simp [World.took]), fun _ => sends _⟩
  · obtain ⟨r, ran, failed⟩ := serve_untaken env taken
    have token : ∃ e, (getToken caller).run (serve env) w = (.error e, w.asked (.getToken caller)) := by
      rcases failed with ⟨e, rfl⟩ | ⟨statusCode, text, -, rfl⟩
      · exact ⟨e, ran⟩
      · exact ⟨_, ran⟩
    obtain ⟨e, token⟩ := token
    rw [Eff.bind_error token]
    exact ⟨by simp [World.asked], fun old => List.mem_append_left _ (before old)⟩

theorem deleteResource_only {caller : Caller} {c : Call} {request : Remote Response} (only : request.Uses (· = c)) :
    Extends (fun d => d = .getToken caller ∨ d = c) w ((deleteResource caller request).run (serve env) w).2 :=
  run_extends env (.bind (.remote (.inl rfl)) fun _ => .bind (only.mono fun _ => .inr) fun _ => .pure ())

variable (env w) in
theorem deleteProject_only (id : String) : Extends (fun c => c = .getToken (.deleteProject id) ∨ c = .deleteProject id) w
    ((deleteProject id).run (serve env) w).2 :=
  deleteResource_only (.remote rfl)

variable (env w) in
theorem deleteUser_only (id : String) : Extends (fun c => c = .getToken (.deleteUser id) ∨ c = .deleteUser id) w
    ((deleteUser id).run (serve env) w).2 :=
  deleteResource_only (.remote rfl)

variable (env) in
theorem deleteProject_attempts {id : String} (before : .getToken (.deleteProject id) ∈ w.done → .deleteProject id ∈ w.calls) :
    Attempted ((deleteProject id).run (serve env) w).2 (.deleteProject id) (.deleteProject id) :=
  deleteResource_attempts (fun _ => mem_serve_calls) (.remote rfl) before

theorem deleteUser_attempts {id : String} (before : .getToken (.deleteUser id) ∈ w.done → .deleteUser id ∈ w.calls) :
    Attempted ((deleteUser id).run (serve env) w).2 (.deleteUser id) (.deleteUser id) :=
  deleteResource_attempts (fun _ => mem_serve_calls) (.remote rfl) before

/-- A part that ends the signup without success. -/
def Abandoned {α : Type} : Except Exn (Part α) → Prop
  | .ok (.ok _) => False
  | .ok (.error (success, _)) => success = false
  | .error _ => True

theorem rollback_run (newProjectId newUserId : Option String) (e : Exn) :
    (rollback newProjectId newUserId e).run (serve env) = (ifTruthy newUserId deleteUser).run (serve env) >>= fun _ =>
      (ifTruthy newProjectId deleteProject).run (serve env) >>= fun _ => pure (false, e.str) := by
  rw [rollback, Program.run_bind]
  congr 1
  funext _
  rw [Program.run_bind]
  rfl

theorem rollback_unsuccessful {newProjectId newUserId : Option String} {e : Exn} {success : Bool} {message : String}
    (ran : (rollback newProjectId newUserId e).run (serve env) w = (.ok (success, message), w')) : success = false := by
  rw [rollback_run] at ran
  obtain ⟨_, w₁, _, ran⟩ := Eff.of_bind_ok ran
  obtain ⟨_, w₂, _, ran⟩ := Eff.of_bind_ok ran
  cases ran
  rfl

theorem during_failed {α : Type} {part : Remote (Part α)} (newProjectId newUserId : Option String) {e : Exn}
    (failed : part.run (serve env) w = (.error e, w')) :
    Abandoned ((during newProjectId newUserId part).run (serve env) w).1 ∧
      ((during newProjectId newUserId part).run (serve env) w).2 =
        ((rollback newProjectId newUserId e).run (serve env) w').2 := by
  have handled : (during newProjectId newUserId part).run (serve env) w =
      ((rollback newProjectId newUserId e).run (serve env) >>= fun r => pure (.error r)) w' := by
    rw [during, Program.run_attempt, Eff.attempt_run, failed]
    exact congrFun (Program.run_bind _ _ _) w'
  rw [handled, Eff.bind_run]
  rcases ran : (rollback newProjectId newUserId e).run (serve env) w' with ⟨r, w₁⟩
  rcases r with e' | ⟨success, message⟩
  · exact ⟨trivial, rfl⟩
  · exact ⟨rollback_unsuccessful ran, rfl⟩

theorem during_ok {α : Type} {part : Remote (Part α)} (newProjectId newUserId : Option String) {v : Part α}
    (ran : part.run (serve env) w = (.ok v, w')) :
    (during newProjectId newUserId part).run (serve env) w = (.ok v, w') := by
  rw [during, Program.run_attempt, Eff.attempt_run, ran]

theorem rollback_project (e : Exn) : ((rollback (some env.projectId) none e).run (serve env) w).2 =
    ((deleteProject env.projectId).run (serve env) w).2 := by
  rw [rollback_run]
  show (((ifTruthy (some env.projectId) deleteProject).run (serve env) >>= fun _ => pure _) w).2 = _
  rw [Eff.bind_pure_state, ifTruthy, if_pos env.projectId.2]

/-! ### The quotas -/

theorem updateQuotas_taken {c : Call} {m : Remote Unit} (ran : m.run (serve env) w = (.ok (), w.took c)) :
    (updateQuotas m).run (serve env) w = (.ok (), w.took c) := by
  rw [updateQuotas, Program.run_attempt, Eff.attempt_run, ran]

theorem updateQuotas_untaken {c : Call} {m : Remote Unit} {e : Exn} (ran : m.run (serve env) w = (.error e, w.asked c)) :
    (updateQuotas m).run (serve env) w = (.error (.httpException 500 e.str), w.asked c) := by
  rw [updateQuotas, Program.run_attempt, Eff.attempt_run, ran]
  rfl

variable (env) in
/-- A call of a client library takes effect, or raises. -/
theorem library_run {c : Call} (library : ∀ statusCode text, ∃ e, replied statusCode text c = .error e) :
    (env.outcome c (w.calls.count c)).taken = true ∧ serve env c w = (.ok (env.succeeded c), w.took c) ∨
      ¬ (env.outcome c (w.calls.count c)).taken = true ∧ ∃ e, serve env c w = (.error e, w.asked c) := by
  by_cases taken : (env.outcome c (w.calls.count c)).taken = true
  · exact .inl ⟨taken, serve_taken taken⟩
  · obtain ⟨r, ran, ⟨e, rfl⟩ | ⟨statusCode, text, -, rfl⟩⟩ := serve_untaken env taken
    · exact .inr ⟨taken, e, ran⟩
    · obtain ⟨e, same⟩ := library statusCode text
      exact .inr ⟨taken, e, by rw [ran, same]⟩

section
variable {options : Options} {user : SignupRequest}

theorem setQuotas_uses : (setQuotas options env.projectId).Uses (Call.After env userThere) :=
  .attempt (.bind (.attempt (.remote trivial) fun _ => .raise _) fun _ =>
    .bind (.attempt (.remote trivial) fun _ => .raise _) fun _ => .pure _) fun _ =>
    .bind deleteProject_after fun _ => .pure _

theorem ifTruthy_uses {allowed : Call → Prop} {id : Option String} {delete : String → Remote Unit}
    (uses : ∀ i ∈ id, (delete i).Uses allowed) : (ifTruthy id delete).Uses allowed := by
  cases id with
  | none => exact .pure ()
  | some i => exact .ite (uses i rfl) (.pure ())

theorem setQuotas_during_uses :
    (during (some env.projectId) none (setQuotas options env.projectId)).Uses (Call.After env userThere) := by
  refine .attempt setQuotas_uses fun e => .bind (.bind (.pure ()) fun _ => .bind (ifTruthy_uses fun i member => ?_) fun _ =>
    .pure _) fun _ => .pure _
  obtain rfl := Option.mem_some_iff.mp member
  exact deleteProject_after

theorem updateBothQuotas_run (nova : w.calls.count (novaQuotas options env.projectId) = 0)
    (cinder : w.calls.count (cinderQuotas options env.projectId) = 0) :
    (QuotasSet env options ∧ (updateBothQuotas options env.projectId).run (serve env) w =
        (.ok (.ok ()), (w.took (novaQuotas options env.projectId)).took (cinderQuotas options env.projectId))) ∨
      ¬ QuotasSet env options ∧ ∃ e w', (updateBothQuotas options env.projectId).run (serve env) w = (.error e, w') ∧
        ∀ c ∈ w'.done, c ∈ w.done ∨ c = novaQuotas options env.projectId := by
  have other : (w.took (novaQuotas options env.projectId)).calls.count (cinderQuotas options env.projectId) = 0 := by
    rw [World.took, List.count_append, cinder]
    rfl
  rcases library_run env (w := w) (c := novaQuotas options env.projectId) fun _ _ => ⟨_, rfl⟩ with
    ⟨set, ran⟩ | ⟨unset, e, ran⟩
  · rw [nova] at set
    have first := updateQuotas_taken (m := Program.remote (novaQuotas options env.projectId)) ran
    rcases library_run env (w := w.took (novaQuotas options env.projectId))
      (c := cinderQuotas options env.projectId) fun _ _ => ⟨_, rfl⟩ with ⟨set', ran'⟩ | ⟨unset', e, ran'⟩
    · rw [other] at set'
      have second := updateQuotas_taken (m := Program.remote (cinderQuotas options env.projectId)) ran'
      refine .inl ⟨⟨set, set'⟩, ?_⟩
      rw [updateBothQuotas, Program.run_bind, Eff.bind_ok first, Program.run_bind, Eff.bind_ok second]
      rfl
    · rw [other] at unset'
      have second := updateQuotas_untaken (m := Program.remote (cinderQuotas options env.projectId)) ran'
      refine .inr ⟨fun both => unset' both.2, .httpException 500 e.str,
        (w.took (novaQuotas options env.projectId)).asked (cinderQuotas options env.projectId), ?_, ?_⟩
      · rw [updateBothQuotas, Program.run_bind, Eff.bind_ok first, Program.run_bind, Eff.bind_error second]
      · simp [World.took, World.asked]
  · rw [nova] at unset
    have first := updateQuotas_untaken (m := Program.remote (novaQuotas options env.projectId)) ran
    refine .inr ⟨fun both => unset both.1, .httpException 500 e.str, w.asked (novaQuotas options env.projectId), ?_, ?_⟩
    · rw [updateBothQuotas, Program.run_bind, Eff.bind_error first]
    · exact fun _ member => .inl member

theorem setQuotas_set (nova : w.calls.count (novaQuotas options env.projectId) = 0)
    (cinder : w.calls.count (cinderQuotas options env.projectId) = 0) (set : QuotasSet env options) :
    (during (some env.projectId) none (setQuotas options env.projectId)).run (serve env) w =
      (.ok (.ok ()), (w.took (novaQuotas options env.projectId)).took (cinderQuotas options env.projectId)) := by
  obtain ⟨-, ran⟩ := (updateBothQuotas_run nova cinder).resolve_right fun unset => unset.1 set
  refine during_ok _ _ ?_
  rw [setQuotas, Program.run_attempt, Eff.attempt_run, ran]

/-- Where the quotas cannot be set, the project is rolled back, and once more where that
    raises. -/
theorem setQuotas_unset (nova : w.calls.count (novaQuotas options env.projectId) = 0)
    (cinder : w.calls.count (cinderQuotas options env.projectId) = 0)
    (token : .getToken (.deleteProject env.projectId) ∉ w.done) (unset : ¬ QuotasSet env options) :
    let out := (during (some env.projectId) none (setQuotas options env.projectId)).run (serve env) w
    Abandoned out.1 ∧ Attempted out.2 (.deleteProject env.projectId) (.deleteProject env.projectId) := by
  obtain ⟨-, e, w₁, ran, done⟩ := (updateBothQuotas_run nova cinder).resolve_left fun set => unset set.1
  have fresh : .getToken (.deleteProject env.projectId) ∉ w₁.done := by
    intro member
    rcases done _ member with old | same
    · exact token old
    · cases same
  have attempted := deleteProject_attempts env (w := w₁) fun old => absurd old fresh
  have handled : (setQuotas options env.projectId).run (serve env) w =
      ((deleteProject env.projectId).run (serve env) >>= fun _ =>
        pure (Except.error (false, "Failed to set quotas: " ++ e.str))) w₁ := by
    rw [setQuotas, Program.run_attempt, Eff.attempt_run, ran]
    exact congrFun (Program.run_bind _ _ _) w₁
  rcases rolled : (deleteProject env.projectId).run (serve env) w₁ with ⟨r, w₂⟩
  rw [rolled] at attempted
  cases r with
  | ok u =>
    rw [Eff.bind_ok rolled] at handled
    have out := during_ok (some env.projectId) none handled
    rw [out]
    exact ⟨rfl, attempted⟩
  | error e' =>
    rw [Eff.bind_error rolled] at handled
    have out := during_failed (some env.projectId) none handled
    refine ⟨out.1, ?_⟩
    rw [out.2, rollback_project]
    exact deleteProject_attempts env attempted.2

/-! ### The requests to Keystone -/

theorem require_true {condition : Bool} {message : String} (holds : condition = true) :
    (require condition message).run (serve env) w = (.ok (), w) := by
  rw [require, if_pos holds]
  rfl

theorem require_false {condition : Bool} {message : String} (fails : condition = false) :
    (require condition message).run (serve env) w = (.error (.exception message), w) := by
  rw [require, if_neg (by simp [fails])]
  rfl

theorem createProject_taken (count : w.calls.count (.postProject (projectPayload user)) = 0)
    (taken : env.Takes (.postProject (projectPayload user))) : (during none none (createProject user)).run (serve env) w =
      (.ok (.ok env.projectId), w.took (.postProject (projectPayload user))) := by
  have posted : (postProject (projectPayload user)).run (serve env) w =
      (.ok ⟨201, "", env.projectId⟩, w.took (.postProject (projectPayload user))) :=
    serve_taken (c := .postProject (projectPayload user)) (by rwa [count])
  refine during_ok _ _ ?_
  rw [createProject, Program.run_bind, Eff.bind_ok posted]
  rfl

theorem createProject_untaken (count : w.calls.count (.postProject (projectPayload user)) = 0)
    (untaken : ¬ env.Takes (.postProject (projectPayload user))) : ∃ message,
      (during none none (createProject user)).run (serve env) w =
        (.ok (.error (false, message)), w.asked (.postProject (projectPayload user))) := by
  obtain ⟨r, posted, failed⟩ := serve_untaken env (w := w) (c := .postProject (projectPayload user))
    (by rwa [count])
  rcases failed with ⟨e, rfl⟩ | ⟨statusCode, text, other, rfl⟩
  · have raised : (createProject user).run (serve env) w = (.error e, w.asked (.postProject (projectPayload user))) := by
      rw [createProject, Program.run_bind]
      exact Eff.bind_error posted
    refine ⟨e.str, ?_⟩
    rw [during, Program.run_attempt, Eff.attempt_run, raised]
    rfl
  · have posted : (postProject (projectPayload user)).run (serve env) w =
        (.ok ⟨statusCode, text, ""⟩, w.asked (.postProject (projectPayload user))) := posted
    refine ⟨"Failed to create project: " ++ text, during_ok _ _ ?_⟩
    rw [createProject, Program.run_bind, Eff.bind_ok posted]
    have refused : statusCode ≠ 201 := other
    simp only [refused, ne_eq, not_false_eq_true, if_true]
    rfl

theorem createAccount_taken {projectId : String} (count : w.calls.count (.postUser (userPayload user projectId)) = 0)
    (taken : env.Takes (.postUser (userPayload user projectId))) :
    (createAccount user projectId).run (serve env) w =
      (.ok (.ok env.userId), w.took (.postUser (userPayload user projectId))) := by
  have posted : (postUser (userPayload user projectId)).run (serve env) w =
      (.ok ⟨201, "", env.userId⟩, w.took (.postUser (userPayload user projectId))) :=
    serve_taken (c := .postUser (userPayload user projectId)) (by rwa [count])
  rw [createAccount, Program.run_bind, Eff.bind_ok posted]
  rfl

theorem createAccount_untaken {projectId : String} (count : w.calls.count (.postUser (userPayload user projectId)) = 0)
    (untaken : ¬ env.Takes (.postUser (userPayload user projectId))) : ∃ e,
      (createAccount user projectId).run (serve env) w = (.error e, w.asked (.postUser (userPayload user projectId))) := by
  obtain ⟨r, posted, failed⟩ := serve_untaken env (w := w) (c := .postUser (userPayload user projectId))
    (by rwa [count])
  rcases failed with ⟨e, rfl⟩ | ⟨statusCode, text, other, rfl⟩
  · refine ⟨e, ?_⟩
    rw [createAccount, Program.run_bind]
    exact Eff.bind_error posted
  · have posted : (postUser (userPayload user projectId)).run (serve env) w =
        (.ok ⟨statusCode, text, ""⟩, w.asked (.postUser (userPayload user projectId))) := posted
    have refused : statusCode ≠ 201 := other
    refine ⟨.exception ("Failed to create user: " ++ text), ?_⟩
    rw [createAccount, Program.run_bind, Eff.bind_ok posted, Program.run_bind]
    exact Eff.bind_error (require_false (by simpa using refused))

variable (env) in
theorem assignRole_run (failure projectId userId roleId : String) {n : Nat}
    (count : w.calls.count (.putRole projectId userId roleId) = n) :
    (env.outcome (.putRole projectId userId roleId) n).taken = true ∧
        (assignRole failure projectId userId roleId).run (serve env) w =
          (.ok (), w.took (.putRole projectId userId roleId)) ∨
      ¬ (env.outcome (.putRole projectId userId roleId) n).taken = true ∧
        ∃ e, (assignRole failure projectId userId roleId).run (serve env) w =
          (.error e, w.asked (.putRole projectId userId roleId)) := by
  rw [assignRole, Program.run_bind]
  by_cases taken : (env.outcome (.putRole projectId userId roleId) n).taken = true
  · have put := serve_taken (c := .putRole projectId userId roleId) (w := w) (by rwa [count])
    refine .inl ⟨taken, ?_⟩
    rw [Eff.bind_ok (m := (putRole projectId userId roleId).run (serve env)) put]
    rfl
  · obtain ⟨r, put, ⟨e, rfl⟩ | ⟨statusCode, text, other, rfl⟩⟩ :=
      serve_untaken env (w := w) (c := .putRole projectId userId roleId) (by rwa [count])
    · exact .inr ⟨taken, e, Eff.bind_error put⟩
    · have other : statusCode ≠ 204 := other
      refine .inr ⟨taken, .exception (failure ++ text), ?_⟩
      rw [Eff.bind_ok (m := (putRole projectId userId roleId).run (serve env)) put]
      exact require_false (by simpa using other)

theorem assignRoles_run (member : w.calls.count (.putRole env.projectId env.userId options.memberRoleId) = 0)
    (admin : w.calls.count (.putRole env.projectId options.adminUserId options.adminRoleId) = 0) :
    (RolesAssigned env options ∧ (assignRoles options env.projectId env.userId).run (serve env) w =
        (.ok (.ok ()), (w.took (.putRole env.projectId env.userId options.memberRoleId)).took
          (.putRole env.projectId options.adminUserId options.adminRoleId))) ∨
      ¬ RolesAssigned env options ∧ ∃ e w', (assignRoles options env.projectId env.userId).run (serve env) w = (.error e, w') := by
  rw [assignRoles, Program.run_bind]
  by_cases configured : truthy options.memberRoleId = true
  swap
  · have raised : (require (truthy options.memberRoleId) "Member role ID is not configured.").run (serve env) w = _ :=
      require_false (Bool.eq_false_iff.mpr configured)
    exact .inr ⟨fun assigned => configured assigned.1, _, _, Eff.bind_error raised⟩
  rw [Eff.bind_ok (require_true configured), Program.run_bind]
  rcases assignRole_run env "Failed to assign member role to user: " _ _ _ member with
    ⟨taken, put⟩ | ⟨untaken, e, put⟩
  swap
  · exact .inr ⟨fun assigned => untaken assigned.2.1, e, _, Eff.bind_error put⟩
  rw [Eff.bind_ok put, Program.run_bind]
  by_cases admins : (truthy options.adminUserId && truthy options.adminRoleId) = true
  swap
  · have raised : (require (truthy options.adminUserId && truthy options.adminRoleId)
        "Admin user ID or admin role ID is not configured.").run (serve env)
          (w.took (.putRole env.projectId env.userId options.memberRoleId)) = _ :=
      require_false (Bool.eq_false_iff.mpr admins)
    exact .inr ⟨fun assigned => admins (by simp [assigned.2.2.1, assigned.2.2.2.1]), _, _, Eff.bind_error raised⟩
  have count : (w.took (.putRole env.projectId env.userId options.memberRoleId)).calls.count
      (.putRole env.projectId options.adminUserId options.adminRoleId) =
        [Call.putRole env.projectId env.userId options.memberRoleId].count
          (.putRole env.projectId options.adminUserId options.adminRoleId) := by
    rw [World.took, List.count_append, admin, Nat.zero_add]
  rw [Eff.bind_ok (require_true admins), Program.run_bind]
  rcases assignRole_run env "Failed to assign admin role to admin user: " _ _ _ count with
    ⟨taken', put'⟩ | ⟨untaken', e, put'⟩
  · rw [Eff.bind_ok put']
    rw [Bool.and_eq_true] at admins
    exact .inl ⟨⟨configured, taken, admins.1, admins.2, taken'⟩, rfl⟩
  · exact .inr ⟨fun assigned => untaken' assigned.2.2.2.2, e, _, Eff.bind_error put'⟩

theorem assignRoles_uses {userId : String} :
    (assignRoles options env.projectId userId).Uses (fun c => ∃ p u r, c = .putRole p u r) := by
  have required : ∀ condition message, (require condition message).Uses (fun c => ∃ p u r, c = .putRole p u r) :=
    fun _ _ => .ite (.pure ()) (.raise _)
  have assigned : ∀ failure p u r, (assignRole failure p u r).Uses (fun c => ∃ p u r, c = .putRole p u r) :=
    fun _ _ _ _ => .bind (.remote ⟨_, _, _, rfl⟩) fun _ => required _ _
  exact .bind (required _ _) fun _ => .bind (assigned _ _ _ _) fun _ => .bind (required _ _) fun _ =>
    .bind (assigned _ _ _ _) fun _ => .pure _

/-! ### The rollback of a user -/

/-- The user's rollback returns exactly where it gets its token and its request does not
    raise. -/
theorem deleteUser_returns (token : w.calls.count (.getToken (.deleteUser env.userId)) = 0)
    (delete : w.calls.count (.deleteUser env.userId) = 0) :
    RollsUserBack env ↔ ((deleteUser env.userId).run (serve env) w).1 = .ok () := by
  rw [deleteUser, deleteResource, Program.run_bind]
  rcases library_run env (w := w) (c := .getToken (.deleteUser env.userId)) fun _ _ => ⟨_, rfl⟩ with
    ⟨taken, got⟩ | ⟨untaken, e, got⟩
  · have count : (w.took (.getToken (.deleteUser env.userId))).calls.count (.deleteUser env.userId) = 0 := by
      rw [World.took, List.count_append, delete]
      rfl
    rw [token] at taken
    rw [Eff.bind_ok (m := (getToken (.deleteUser env.userId)).run (serve env)) got, Program.run_bind]
    cases raising : (env.outcome (.deleteUser env.userId) 0).raising with
    | false =>
      obtain ⟨resp, w₁, sent⟩ := serve_returns env (w := w.took (.getToken (.deleteUser env.userId)))
        (c := .deleteUser env.userId) (by rw [count, raising]; exact Bool.false_ne_true) fun _ _ => ⟨_, rfl⟩
      refine ⟨fun _ => ?_, fun _ => ⟨taken, raising⟩⟩
      rw [Eff.bind_ok (m := Program.run (serve env) (Program.remote (Call.deleteUser env.userId))) sent]
      rfl
    | true =>
      obtain ⟨e, sent⟩ := serve_raises env (w := w.took (.getToken (.deleteUser env.userId)))
        (c := .deleteUser env.userId) (by rw [count, raising])
      rw [Eff.bind_error (m := Program.run (serve env) (Program.remote (Call.deleteUser env.userId))) sent]
      refine ⟨fun rolls => ?_, fun returned => by cases returned⟩
      exact absurd (raising.symm.trans rolls.2) (by simp)
  · rw [token] at untaken
    rw [Eff.bind_error (m := (getToken (.deleteUser env.userId)).run (serve env)) got]
    exact ⟨fun rolls => absurd rolls.1 untaken, fun returned => by cases returned⟩

theorem rollback_both (e : Exn) : ((rollback (some env.projectId) (some env.userId) e).run (serve env) w).2 =
    match (deleteUser env.userId).run (serve env) w with
    | (.ok (), w') => ((deleteProject env.projectId).run (serve env) w').2
    | (.error _, w') => w' := by
  rw [rollback_run, ifTruthy, if_pos env.userId.2, Eff.bind_run]
  rcases (deleteUser env.userId).run (serve env) w with ⟨r, w'⟩
  cases r with
  | ok u =>
    dsimp only
    rw [Eff.bind_pure_state, ifTruthy, if_pos env.projectId.2]
  | error e' => rfl

/-! ### The whole signup -/

/-- A part that is abandoned ends the signup, in the state that it leaves. -/
theorem abandoned_run {α : Type} {part : Remote (Part α)} {k : Part α → Remote (Bool × String)}
    (returns : ∀ r, k (.error r) = pure r) (abandoned : Abandoned (part.run (serve env) w).1) :
    (∀ message, ((part >>= k).run (serve env) w).1 ≠ .ok (true, message)) ∧
      ((part >>= k).run (serve env) w).2 = (part.run (serve env) w).2 := by
  rw [Program.run_bind, Eff.bind_run]
  rcases ran : part.run (serve env) w with ⟨r, w'⟩
  rw [ran] at abandoned
  rcases r with e | ⟨success, message⟩ | v
  · exact ⟨nofun, rfl⟩
  · obtain rfl : success = false := abandoned
    dsimp only
    rw [returns]
    exact ⟨nofun, rfl⟩
  · exact abandoned.elim

theorem saga_unsuccessful
    (unsuccessful : ∀ message, ((createUser options user).run (serve env) .start).1 ≠ .ok (true, message)) :
    Saga env options user ↔ OwnDeletes env ((createUser options user).run (serve env) .start).2 ∧
      Compensated env ((createUser options user).run (serve env) .start).2 := by
  unfold Saga
  rcases ran : (createUser options user).run (serve env) .start with ⟨r, w⟩
  rw [ran] at unsuccessful
  rcases r with e | ⟨success, message⟩
  · exact Iff.rfl
  · cases success with
    | false => exact Iff.rfl
    | true => exact absurd rfl (unsuccessful message)

theorem ownDeletes_extends (after : Extends (Call.After env userThere) w w')
    (projects : ∀ id, .deleteProject id ∉ w.calls) (users : ∀ id, .deleteUser id ∉ w.calls)
    (project : ∃ payload, .postProject payload ∈ w.done) (user : userThere → ∃ payload, .postUser payload ∈ w.done) :
    OwnDeletes env w' := by
  constructor
  · intro id member
    obtain ⟨payload, made⟩ := project
    exact ⟨(after.of_calls member).resolve_left (projects id), payload, after.mem_done made⟩
  · intro id member
    obtain ⟨there, rfl⟩ := (after.of_calls member).resolve_left (users id)
    obtain ⟨payload, made⟩ := user there
    exact ⟨rfl, payload, after.mem_done made⟩

/-- Once the project is there and the user is not, and its rollback was attempted. -/
theorem project_rolled_back (after : Extends (Call.After env False) w w') (deletes : ∀ id, .deleteProject id ∉ w.calls)
    (users : ∀ id, .deleteUser id ∉ w.calls) (project : ∃ payload, .postProject payload ∈ w.done)
    (user : ∀ payload, .postUser payload ∉ w.done)
    (attempted : Attempted w' (.deleteProject env.projectId) (.deleteProject env.projectId)) :
    OwnDeletes env w' ∧ Compensated env w' := by
  refine ⟨ownDeletes_extends after deletes users project False.elim, fun _ _ => attempted, fun payload made => ?_⟩
  rcases after.of_done made with old | later
  · exact absurd old (user payload)
  · exact later.elim

theorem saga_of_run {r : Except Exn (Bool × String)} (ran : (createUser options user).run (serve env) .start = (r, w))
    (unsuccessful : ∀ message, r ≠ .ok (true, message)) (both : OwnDeletes env w ∧ Compensated env w) :
    Saga env options user :=
  (saga_unsuccessful (by rwa [ran])).mpr (by rwa [ran])

/-- Where nothing was created, nothing needs to be rolled back. -/
theorem nothing_created (deletes : ∀ id, .deleteProject id ∉ w.calls) (users : ∀ id, .deleteUser id ∉ w.calls)
    (project : ∀ payload, .postProject payload ∉ w.done) (user : ∀ payload, .postUser payload ∉ w.done) :
    OwnDeletes env w ∧ Compensated env w :=
  ⟨⟨fun id member => absurd member (deletes id), fun id member => absurd member (users id)⟩,
    ⟨fun payload made => absurd made (project payload), fun payload made => absurd made (user payload)⟩⟩

section
variable (env options user)

def begun : World := World.start.took (.getToken .createUser)
def projectThere : World := begun.took (.postProject (projectPayload user))

def quotasThere : World :=
  ((projectThere user).took (novaQuotas options env.projectId)).took (cinderQuotas options env.projectId)

def accountThere : World := (quotasThere env options user).took (.postUser (userPayload user env.projectId))

end

theorem createUser_begun (token : env.Takes (.getToken .createUser)) :
    (createUser options user).run (serve env) .start =
      (during none none (createProject user) >>= afterProject options user).run (serve env) begun := by
  have got : (getToken .createUser).run (serve env) .start = (.ok (), begun) := serve_taken (c := .getToken .createUser) token
  rw [createUser, Program.run_bind, Eff.bind_ok got]

theorem createUser_projectThere (token : env.Takes (.getToken .createUser))
    (project : env.Takes (.postProject (projectPayload user))) : (createUser options user).run (serve env) .start =
      (during (some env.projectId) none (setQuotas options env.projectId) >>= afterQuotas options user env.projectId).run
        (serve env) (projectThere user) := by
  rw [createUser_begun token, Program.run_bind,
    Eff.bind_ok (createProject_taken (by simp [begun, World.took, World.start]) project)]
  rfl

theorem createUser_quotasThere (token : env.Takes (.getToken .createUser))
    (project : env.Takes (.postProject (projectPayload user))) (quotas : QuotasSet env options) :
    (createUser options user).run (serve env) .start =
      (during (some env.projectId) none (createAccount user env.projectId) >>= afterAccount options env.projectId).run
        (serve env) (quotasThere env options user) := by
  rw [createUser_projectThere token project, Program.run_bind, Eff.bind_ok (setQuotas_set
    (by simp [projectThere, begun, World.took, World.start, novaQuotas])
    (by simp [projectThere, begun, World.took, World.start, cinderQuotas]) quotas)]
  rfl

theorem count_account : (quotasThere env options user).calls.count (.postUser (userPayload user env.projectId)) = 0 := by
  simp [quotasThere, projectThere, begun, World.took, World.start, novaQuotas, cinderQuotas]

theorem createUser_accountThere (created : UserCreated env options user) :
    (createUser options user).run (serve env) .start =
      (during (some env.projectId) (some env.userId) (assignRoles options env.projectId env.userId) >>=
        afterRoles options env.projectId).run (serve env) (accountThere env options user) := by
  obtain ⟨token, project, quotas, account⟩ := created
  rw [createUser_quotasThere token project quotas, Program.run_bind,
    Eff.bind_ok (during_ok _ _ (createAccount_taken count_account account))]
  rfl

theorem saga_without_token (token : ¬ env.Takes (.getToken .createUser)) : Saga env options user := by
  obtain ⟨-, e, got⟩ := (library_run env (w := .start) (c := .getToken .createUser) fun _ _ => ⟨_, rfl⟩).resolve_left
    fun taken => token taken.1
  have ran : (createUser options user).run (serve env) .start = (.error e, World.start.asked (.getToken .createUser)) := by
    rw [createUser, Program.run_bind]
    exact Eff.bind_error got
  refine saga_of_run ran nofun (nothing_created ?_ ?_ ?_ ?_) <;> simp [World.asked, World.start]

theorem saga_without_project (token : env.Takes (.getToken .createUser))
    (project : ¬ env.Takes (.postProject (projectPayload user))) : Saga env options user := by
  obtain ⟨message, posted⟩ := createProject_untaken (w := begun) (by simp [begun, World.took, World.start]) project
  have ran : (createUser options user).run (serve env) .start =
      (.ok (false, message), begun.asked (.postProject (projectPayload user))) := by
    rw [createUser_begun token, Program.run_bind, Eff.bind_ok posted]
    rfl
  refine saga_of_run ran nofun (nothing_created ?_ ?_ ?_ ?_) <;> simp [World.asked, World.took, begun, World.start]

theorem saga_without_quotas (token : env.Takes (.getToken .createUser))
    (project : env.Takes (.postProject (projectPayload user))) (quotas : ¬ QuotasSet env options) :
    Saga env options user := by
  obtain ⟨abandoned, attempted⟩ := setQuotas_unset (w := projectThere user)
    (by simp [projectThere, begun, World.took, World.start, novaQuotas])
    (by simp [projectThere, begun, World.took, World.start, cinderQuotas])
    (by simp [projectThere, begun, World.took, World.start]) quotas
  obtain ⟨unsuccessful, same⟩ := abandoned_run (k := afterQuotas options user env.projectId) (fun _ => rfl) abandoned
  rw [← createUser_projectThere token project] at unsuccessful same
  have after : Extends (Call.After env False) (projectThere user)
      ((during (some env.projectId) none (setQuotas options env.projectId)).run (serve env) (projectThere user)).2 :=
    run_extends env setQuotas_during_uses
  refine (saga_unsuccessful unsuccessful).mpr ?_
  rw [same]
  refine project_rolled_back after ?_ ?_ ⟨projectPayload user, ?_⟩ ?_ attempted <;>
    simp [projectThere, begun, World.took, World.start]

theorem saga_without_account (token : env.Takes (.getToken .createUser))
    (project : env.Takes (.postProject (projectPayload user))) (quotas : QuotasSet env options)
    (account : ¬ env.Takes (.postUser (userPayload user env.projectId))) : Saga env options user := by
  obtain ⟨e, failed⟩ := createAccount_untaken count_account account
  obtain ⟨abandoned, rolled⟩ := during_failed (some env.projectId) none failed
  obtain ⟨unsuccessful, same⟩ := abandoned_run (k := afterAccount options env.projectId) (fun _ => rfl) abandoned
  rw [← createUser_quotasThere token project quotas] at unsuccessful same
  refine (saga_unsuccessful unsuccessful).mpr ?_
  rw [same, rolled, rollback_project]
  refine project_rolled_back (run_extends env deleteProject_after) ?_ ?_ ⟨projectPayload user, ?_⟩ ?_
    (deleteProject_attempts env ?_) <;>
    simp [quotasThere, projectThere, begun, World.took, World.asked, World.start, novaQuotas, cinderQuotas]

/-- The security group is added, or not; the signup goes on. -/
theorem createSecurityGroup_run : ∃ w', (createSecurityGroup options env.projectId).run (serve env) w = (.ok (), w') ∧
    Extends (Call.After env userThere) w w' := by
  have uses : (createSecurityGroup options env.projectId).Uses (Call.After env userThere) :=
    .attempt (.bind (.remote trivial) fun _ => .bind (.forEach fun _ => .remote trivial) fun _ => .remote trivial)
      fun _ => .pure ()
  have goesOn : ((createSecurityGroup options env.projectId).run (serve env) w).1 = .ok () := by
    rw [createSecurityGroup, Program.run_attempt]
    exact congrArg Prod.fst (Eff.attempt_ignore _ w)
  exact ⟨_, Prod.ext goesOn rfl, run_extends env uses⟩

section
variable (env options user)

def rolesThere : World :=
  ((accountThere env options user).took (.putRole env.projectId env.userId options.memberRoleId)).took
    (.putRole env.projectId options.adminUserId options.adminRoleId)

end

theorem count_member :
    (accountThere env options user).calls.count (.putRole env.projectId env.userId options.memberRoleId) = 0 := by
  simp [accountThere, quotasThere, projectThere, begun, World.took, World.start, novaQuotas, cinderQuotas]

theorem count_admin :
    (accountThere env options user).calls.count (.putRole env.projectId options.adminUserId options.adminRoleId) = 0 := by
  simp [accountThere, quotasThere, projectThere, begun, World.took, World.start, novaQuotas, cinderQuotas]

theorem saga_complete (created : UserCreated env options user) (assigned : RolesAssigned env options) :
    Saga env options user := by
  obtain ⟨-, roles⟩ := (assignRoles_run count_member count_admin).resolve_right fun unassigned => unassigned.1 assigned
  obtain ⟨w', group, after⟩ : ∃ w', (createSecurityGroup options env.projectId).run (serve env)
      (rolesThere env options user) = (.ok (), w') ∧ Extends (Call.After env True) (rolesThere env options user) w' :=
    createSecurityGroup_run
  have ran : (createUser options user).run (serve env) .start =
      (.ok (true, "User, project, and roles created successfully."), w') := by
    rw [createUser_accountThere created, Program.run_bind, Eff.bind_ok (during_ok _ _ roles), afterRoles, Program.run_bind]
    exact Eff.bind_ok group
  rw [Saga, ran]
  refine ⟨ownDeletes_extends after ?_ ?_ ⟨projectPayload user, ?_⟩ fun _ => ⟨userPayload user env.projectId, ?_⟩, ?_⟩
  case refine_5 => constructor <;> refine after.mem_done ?_ <;>
    simp [rolesThere, accountThere, quotasThere, projectThere, begun, World.took]
  all_goals simp [rolesThere, accountThere, quotasThere, projectThere, begun, World.took, World.start, novaQuotas,
    cinderQuotas]

theorem account_undoes_nothing {c : Call} (undoes : c.undoes = true) : c ∉ (accountThere env options user).calls := by
  intro member
  simp only [accountThere, quotasThere, projectThere, begun, World.took, World.start, novaQuotas, cinderQuotas,
    List.nil_append, List.cons_append, List.mem_cons, List.not_mem_nil, or_false] at member
  rcases member with rfl | rfl | rfl | rfl | rfl <;> cases undoes

/-! ### When the roles fail -/

section
variable (roles : Extends (fun c => ∃ p u r, c = .putRole p u r) (accountThere env options user) w)
include roles

theorem roles_undo_nothing {c : Call} (undoes : c.undoes = true) : c ∉ w.calls ∧ c ∉ w.done := by
  have apart : ¬ ∃ p u r, c = .putRole p u r := by
    rintro ⟨_, _, _, rfl⟩
    cases undoes
  exact ⟨fun member => (roles.of_calls member).elim (account_undoes_nothing undoes) apart,
    fun member => (roles.of_done member).elim (account_undoes_nothing undoes) apart⟩

/-- Where the rollback of the user raises, the project is never rolled back. -/
theorem project_stranded {e : Exn} (ran : (deleteUser env.userId).run (serve env) w = (.error e, w')) :
    ¬ Compensated env w' := by
  have only := deleteUser_only env w env.userId
  rw [ran] at only
  intro compensated
  have made : .postProject (projectPayload user) ∈ w'.done :=
    only.mem_done (roles.mem_done (by simp [accountThere, quotasThere, projectThere, begun, World.took]))
  rcases only.of_calls (compensated.project _ made).1 with old | same | same
  · exact (roles_undo_nothing roles rfl).1 old
  · cases same
  · cases same

/-- Where it does not, both are rolled back. -/
theorem both_rolled_back {u : Unit} (ran : (deleteUser env.userId).run (serve env) w = (.ok u, w')) :
    OwnDeletes env ((deleteProject env.projectId).run (serve env) w').2 ∧
      Compensated env ((deleteProject env.projectId).run (serve env) w').2 := by
  have only := deleteUser_only env w env.userId
  have rolledUser : Attempted ((deleteUser env.userId).run (serve env) w).2 (.deleteUser env.userId) (.deleteUser env.userId) :=
    deleteUser_attempts fun old => absurd old (roles_undo_nothing roles rfl).2
  have after : Extends (Call.After env True) (accountThere env options user) ((deleteUser env.userId).run (serve env) w).2 :=
    (roles.weaken (by rintro _ ⟨_, _, _, rfl⟩; exact trivial)).trans (run_extends env (deleteUser_after trivial))
  rw [ran] at only rolledUser after
  have rolledProject : Attempted ((deleteProject env.projectId).run (serve env) w').2 (.deleteProject env.projectId)
      (.deleteProject env.projectId) := by
    refine deleteProject_attempts env fun old => ?_
    rcases only.of_done old with old | same | same
    · exact absurd old (roles_undo_nothing roles rfl).2
    · cases same
    · cases same
  have last := deleteProject_only env w' env.projectId
  refine ⟨ownDeletes_extends (after.trans (run_extends env deleteProject_after)) (fun id => account_undoes_nothing rfl)
    (fun id => account_undoes_nothing rfl) ⟨projectPayload user, ?_⟩ fun _ => ⟨userPayload user env.projectId, ?_⟩,
    fun _ _ => rolledProject, fun _ _ => ⟨last.mem_calls rolledUser.1, fun token => ?_⟩⟩
  · simp [accountThere, quotasThere, projectThere, begun, World.took]
  · simp [accountThere, quotasThere, projectThere, begun, World.took]
  · rcases last.of_done token with old | same | same
    · exact last.mem_calls (rolledUser.2 old)
    · cases same
    · cases same

end

/-- Where the roles of a user that was created are not assigned, all depends on the rollback
    of the user: where that raises, the project is never rolled back. -/
theorem saga_without_roles (created : UserCreated env options user) (unassigned : ¬ RolesAssigned env options) :
    Saga env options user ↔ RollsUserBack env := by
  obtain ⟨-, e, w, failed⟩ := (assignRoles_run count_member count_admin).resolve_left fun assigned => unassigned assigned.1
  obtain ⟨abandoned, rolled⟩ := during_failed (some env.projectId) (some env.userId) failed
  obtain ⟨unsuccessful, same⟩ := abandoned_run (k := afterRoles options env.projectId) (fun _ => rfl) abandoned
  rw [← createUser_accountThere created] at unsuccessful same
  rw [saga_unsuccessful unsuccessful, same, rolled, rollback_both]
  have roles : Extends (fun c => ∃ p u r, c = .putRole p u r) (accountThere env options user) w := by
    rw [show w = ((assignRoles options env.projectId env.userId).run (serve env) (accountThere env options user)).2 by
      rw [failed]]
    exact run_extends env assignRoles_uses
  rw [deleteUser_returns (List.count_eq_zero_of_not_mem (roles_undo_nothing roles rfl).1)
    (List.count_eq_zero_of_not_mem (roles_undo_nothing roles rfl).1)]
  rcases ran : (deleteUser env.userId).run (serve env) w with ⟨r, w₁⟩
  cases r with
  | error e' => exact iff_of_false (fun both => project_stranded roles ran both.2) (by rintro ⟨⟩)
  | ok u => exact iff_of_true (both_rolled_back roles ran) rfl

/-- A signup leaves nothing behind exactly when, where the user was created and a later step
    fails, the rollback of the user does not raise. -/
theorem createUser_saga : Saga env options user ↔
    (UserCreated env options user → ¬ RolesAssigned env options → RollsUserBack env) := by
  by_cases created : UserCreated env options user
  · by_cases assigned : RolesAssigned env options
    · exact ⟨fun _ _ unassigned => absurd assigned unassigned, fun _ => saga_complete created assigned⟩
    · rw [saga_without_roles created assigned]
      exact ⟨fun rolls _ _ => rolls, fun rolls => rolls created assigned⟩
  · refine ⟨fun _ there => absurd there created, fun _ => ?_⟩
    by_cases token : env.Takes (.getToken .createUser)
    · by_cases project : env.Takes (.postProject (projectPayload user))
      · by_cases quotas : QuotasSet env options
        · exact saga_without_account token project quotas fun account => created ⟨token, project, quotas, account⟩
        · exact saga_without_quotas token project quotas
      · exact saga_without_project token project
    · exact saga_without_token token

end
end

/-! ## A rollback that raises -/

def options : Options where
  memberRoleId := "member"
  adminUserId := "admin"
  adminRoleId := "admin-role"
  novaQuotaInstances := 10
  novaQuotaCores := 4
  novaQuotaRam := 6144
  cinderQuotaGigabytes := 100
  portforwardVmInternalIps := ["192.168.0.10"]
  defaultRegion := "RegionOne"

def request : SignupRequest := ⟨"alice", "password", "Alice", "alice@example.org"⟩

/-- Keystone refuses to assign roles, and cannot be reached when the user is to be deleted. -/
def refusing : Env where
  outcome
    | .putRole _ _ _, _ => .replies 403 "Forbidden" (by simp [Call.success])
    | .deleteUser _, _ => .raises .networkError
    | _, _ => .succeeds
  projectId := ⟨"project", rfl⟩
  userId := ⟨"user", rfl⟩
  sgId := "sg"

/-- The rollback of the user raises, and the project stays. -/
theorem createUser_strands : ¬ ∀ env options user, Saga env options user := by
  intro always
  have saga := always refusing options request
  have ran : ((createUser options request).run (serve refusing) .start).1 = .error .networkError := rfl
  rw [saga_unsuccessful (by rw [ran]; nofun)] at saga
  have attempted := saga.2.project ⟨"alice-project", "Project for alice", "default", true⟩ (by decide)
  exact absurd attempted.1 (by decide)

end Skyline.Signup
