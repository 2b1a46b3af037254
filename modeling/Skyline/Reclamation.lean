import Skyline.ProxyCleanup
import Skyline.Services

/-!
Two ways to delete an instance, and what they leave of its rules and volumes. The endpoint
(`delete_instance` of `api/v1/instance.py`) cleans up the rules of the Proxy and of Neutron
first, and leaves a task for the background that deletes the volumes once the server is
gone (`_delete_volumes_after_instance`). The scheduler (`_delete_instance` of
`utils/lifecycle_scheduler.py`) asks Nova to delete the server, records it, and does no
more. So they leave the same just where there was nothing to clean up.

The scheduler cannot connect to Nova (`connectionArgs_fails`); here it is said what it would
do if it could. How the status of a volume develops is the environment's choice.
-/
namespace Skyline.Reclamation
open Skyline.Python Skyline.Tables Skyline.Effects Skyline.Programs Skyline.Retries Skyline.Services Skyline.Neutron
  Skyline.Cloud Skyline.Clients Skyline.InstanceDeletion Skyline.DeletionFailure Skyline.ProxyCleanup
open Skyline.Session (Profile)

/-! ## Cinder -/

structure Volume where
  id : String
  projectId : String
  deriving DecidableEq, Repr

abbrev Volumes := Table Volume Volume.id

inductive CinderCall
  /-- `volumes.get`, of which the status is read. -/
  | get (session : KeystoneSession) (volumeId : String)
  | delete (session : KeystoneSession) (volumeId : String)
  deriving DecidableEq, Repr

abbrev CinderAnswer : CinderCall → Type
  | .get _ _ => String
  | .delete _ _ => Unit

abbrev CinderRemote : Type → Type := Program CinderAnswer Exn

def findVolume (sees : String → Bool) (volumes : Volumes) (volumeId : String) : Except Exn Volume :=
  match volumes.find volumeId with
  | some volume => if sees volume.projectId then .ok volume else .error notFound
  | none => .error notFound

/-- What is relied on of Cinder, where a volume has the status `now`. -/
structure CinderService where
  perform (sees : String → Bool) (now : String) (volumes : Volumes) : (c : CinderCall) → Except Exn (CinderAnswer c) × Volumes
  get {sees now volumes session volumeId} : perform sees now volumes (.get session volumeId) =
    ((findVolume sees volumes volumeId).map fun _ => now, volumes)
  deletes {sees now volumes session volumeId volume} : findVolume sees volumes volumeId = .ok volume →
    perform sees now volumes (.delete session volumeId) = (.ok (), volumes.delete volumeId)
  deletesNone {sees now volumes session volumeId e} : findVolume sees volumes volumeId = .error e →
    ∃ e', perform sees now volumes (.delete session volumeId) = (.error e', volumes)

/-- The services, and what becomes of their calls. -/
structure Env where
  cloud : Cloud.Env
  cinderService : CinderService
  cinder : CinderCall → Nat → Services.Delivery Exn
  /-- The status that a volume has when it is asked for the `n`-th time. -/
  volumeStatus : String → Nat → String

def CinderCall.session : CinderCall → KeystoneSession
  | .get session _ | .delete session _ => session

def CinderCall.volumeId : CinderCall → String
  | .get _ volumeId | .delete _ volumeId => volumeId

def Env.backend (env : Env) : Backend CinderAnswer Exn Volumes where
  delivery := env.cinder
  perform n volumes c :=
    env.cinderService.perform (env.cloud.sees c.session) (env.volumeStatus c.volumeId n) volumes c

/-- The exception that the functions of `client/openstack/cinder.py` make of another. -/
def cinderError (e : Exn) : Exn := .httpException (if e = notFound then 404 else 500) e.str

def getVolume (session : KeystoneSession) (volumeId : String) : CinderRemote String :=
  .attempt (.remote (CinderCall.get session volumeId)) fun e => .raise (cinderError e)

/-- `cinder.delete_volume`, which deletes no volume that is attached. -/
def deleteVolume (session : KeystoneSession) (volumeId : String) : CinderRemote Unit :=
  .attempt (do
    let status ← .remote (CinderCall.get session volumeId)
    if status = "in-use" then
      .raise (.httpException 400 "Cannot delete volume that is attached to an instance. Detach it first.")
    else .remote (CinderCall.delete session volumeId))
  fun e => .raise (cinderError e)

/-! ## The task in the background -/

/-- Waits until Nova does not know the server any more, for `attempts` polls at most. -/
def awaitGone (session : KeystoneSession) (instanceId : String) : Nat → Remote Unit
  | 0 => pure ()
  | attempts + 1 => do
    let there ← .attempt (do
      let _ ← nova session (.getServer instanceId)
      return true) fun _ => pure false
    if there then awaitGone session instanceId attempts else pure ()

/-- Waits until the volume is available or cannot be seen, for `attempts` polls at most. -/
def awaitAvailable (session : KeystoneSession) (volumeId : String) : Nat → CinderRemote Unit
  | 0 => pure ()
  | attempts + 1 => do
    let status ← .attempt (some <$> getVolume session volumeId) fun _ => pure none
    if status.all (· = "available") then pure () else awaitAvailable session volumeId attempts

/-- The pass of the task's loop over one volume. -/
def removeVolume (session : KeystoneSession) (volumeId : String) : CinderRemote Unit :=
  .attempt (do
    awaitAvailable session volumeId 12
    deleteVolume session volumeId)
  fun _ => pure ()

def removeVolumes (session : KeystoneSession) (volumeIds : List String) : CinderRemote Unit :=
  Program.forEach volumeIds (removeVolume session)

/-! ## The two deletions -/

/-- Nova, Neutron, the Proxy and the database, and Cinder. -/
structure Site where
  world : Cloud.World
  cinder : Services.World CinderCall Volumes

abbrev OnSite := Eff Site Exn

def onCloud {α : Type} (env : Env) (m : Remote α) : OnSite α := fun s =>
  ((m.run (serve env.cloud) s.world).1, { s with world := (m.run (serve env.cloud) s.world).2 })

def onCinder {α : Type} (env : Env) (m : CinderRemote α) : OnSite α := fun s =>
  ((m.run env.backend.serve s.cinder).1, { s with cinder := (m.run env.backend.serve s.cinder).2 })

/-- `_delete_volumes_after_instance`. -/
def deleteVolumesAfterInstance (env : Env) (task : VolumeTask) : OnSite Unit := do
  onCloud env (awaitGone task.session task.instanceId 24)
  onCinder env (removeVolumes task.session task.volumeIds)

/-- `delete_instance` and then the tasks that it left for the background. -/
def deletion (env : Env) (instanceId : String) (profile : Profile) : OnSite Unit := do
  let tasks ← onCloud env (deleteInstance instanceId profile)
  Eff.forEach tasks (deleteVolumesAfterInstance env)

/-- `_delete_instance`, once it has its connection. -/
def forceDelete (instanceId _projectId : String) : Remote Bool :=
  .attempt (do
    nova .system (.deleteServer instanceId)
    return true)
  fun _ => pure false

def recordDeleted (instanceId : String) (s : Site) : Site :=
  { s with world := { s.world with state := { s.world.cloud with
    lifecycle := Lifecycle.updateInstanceLifecycleDeleted s.world.cloud.lifecycle instanceId } } }

/-- What the scheduler does with an overdue row outside the admin project. -/
def reclamation (env : Env) (row : Lifecycle.Row) : OnSite Unit := do
  let deleted ← onCloud env (forceDelete row.instanceId row.projectId)
  if deleted then Eff.modify (recordDeleted row.instanceId) else pure ()

/-- The same rules of the Proxy and of Neutron and the same volumes are left. -/
structure Alike (one other : Site) : Prop where
  proxy : ∀ r : Proxy.Rule, r ∈ one.world.cloud.proxy ↔ r ∈ other.world.cloud.proxy
  neutron : ∀ pf : PortForwarding,
    pf ∈ one.world.cloud.neutron.portForwardings ↔ pf ∈ other.world.cloud.neutron.portForwardings
  volumes : ∀ v : Volume, v ∈ one.cinder.state ↔ v ∈ other.cinder.state

/-! ## What there is to clean up -/

/-- How many polls the wait for a volume makes, from the `k`-th on. -/
def polls (env : Env) (volumeId : String) : (attempts k : Nat) → Nat
  | 0, _ => 0
  | attempts + 1, k => if env.volumeStatus volumeId k = "available" then 1 else polls env volumeId attempts (k + 1) + 1

/-- Whether one of so many passes over a volume finds it free when it comes to delete it. -/
def freed (env : Env) (volumeId : String) : (passes k : Nat) → Bool
  | 0, _ => false
  | passes + 1, k => env.volumeStatus volumeId (k + polls env volumeId 12 k) != "in-use" ||
      freed env volumeId passes (k + polls env volumeId 12 k + 1)

/-- The task takes the volume from Cinder. -/
def CinderCleans (env : Env) (session : KeystoneSession) (volumeIds : List String) (w : Services.World CinderCall Volumes)
    (v : Volume) : Prop :=
  env.cloud.sees session v.projectId = true ∧
    freed env v.id (volumeIds.count v.id) (w.calls.count (.get session v.id)) = true

/-- No rule and no volume is one that the deletion by a user takes away. -/
structure NothingToClean (env : Env) (profile : Profile) (server : Server) (s : Site) : Prop where
  proxy : ∀ r ∈ s.world.cloud.proxy, ¬ Addressed s.world.cloud.proxy server.id r.ruleId
  neutron : ∀ pf ∈ s.world.cloud.neutron.portForwardings,
    clearedIp env.cloud (ownSession profile) s.world server.id ≠ some pf.internalIpAddress
  volumes : ∀ v ∈ s.cinder.state, ¬ CinderCleans env (ownSession profile) server.volumes s.cinder v

/-- Every call gets through, and the Proxy refuses none. -/
structure AllSucceed (env : Env) : Prop where
  cloud : ∀ c n, env.cloud.delivery c n = .answered
  proxy : ∀ request n, env.cloud.proxyRefuses request n = none
  cinder : ∀ c n, env.cinder c n = .answered

/-! ## What the task leaves of the volumes -/

section
variable {env : Env} {session : KeystoneSession} {volumeId : String} {v : Volume}
  {w w' : Services.World CinderCall Volumes}

theorem findVolume_seen (member : v ∈ w.state) (sees : env.cloud.sees session v.projectId = true) :
    findVolume (env.cloud.sees session) w.state v.id = .ok v := by
  rw [findVolume, Table.find_eq_some.mpr ⟨member, rfl⟩]
  simp [sees]

theorem get_state {n : Nat} {s : Volumes} : (env.backend.perform n s (.get session volumeId)).2 = s :=
  congrArg Prod.snd env.cinderService.get

theorem delete_state {n : Nat} {s : Volumes} (found : findVolume (env.cloud.sees session) s volumeId = .ok v) :
    (env.backend.perform n s (.delete session volumeId)).2 = s.delete volumeId :=
  congrArg Prod.snd (env.cinderService.deletes found)

theorem refused_state {n : Nat} {s : Volumes} {e : Exn} (missing : findVolume (env.cloud.sees session) s volumeId = .error e) :
    (env.backend.perform n s (.delete session volumeId)).2 = s := by
  obtain ⟨e', refused⟩ : ∃ e', env.backend.perform n s (.delete session volumeId) = (.error e', s) :=
    env.cinderService.deletesNone missing
  rw [refused]

theorem get_served (answered : ∀ c n, env.cinder c n = .answered) (member : v ∈ w.state)
    (sees : env.cloud.sees session v.projectId = true) : env.backend.serve (.get session v.id) w =
      (.ok (env.volumeStatus v.id (w.calls.count (.get session v.id))), ⟨w.state, w.calls ++ [.get session v.id]⟩) := by
  refine Backend.serve_ok (answered _ _) (env.cinderService.get.trans ?_)
  simp only [CinderCall.session, CinderCall.volumeId, findVolume_seen member sees, Except.map]

theorem awaitAvailable_run (answered : ∀ c n, env.cinder c n = .answered) (member : v ∈ w.state)
    (sees : env.cloud.sees session v.projectId = true) (attempts : Nat) :
    ∃ t, (awaitAvailable session v.id attempts).run env.backend.serve w = (.ok (), t) ∧ t.state = w.state ∧
      t.calls.count (.get session v.id) = w.calls.count (.get session v.id) +
        polls env v.id attempts (w.calls.count (.get session v.id)) := by
  induction attempts generalizing w with
  | zero => exact ⟨w, rfl, rfl, rfl⟩
  | succ attempts ih =>
    have served := get_served answered member sees
    have polled : (Program.attempt (some <$> getVolume session v.id) fun _ => pure none).run env.backend.serve w =
        (.ok (some (env.volumeStatus v.id (w.calls.count (.get session v.id)))),
          ⟨w.state, w.calls ++ [.get session v.id]⟩) := by
      have mapped : (some <$> getVolume session v.id : CinderRemote (Option String)) =
          getVolume session v.id >>= fun status => pure (some status) := rfl
      rw [mapped, Program.run_attempt, Eff.attempt_run, Program.run_bind, getVolume, Program.run_attempt, Eff.bind_run,
        Eff.attempt_run, Program.run_remote, served]
      rfl
    rw [awaitAvailable, Program.run_bind, Eff.bind_ok polled, Program.run_ite, polls]
    by_cases available : env.volumeStatus v.id (w.calls.count (.get session v.id)) = "available"
    · rw [if_pos (by simpa using available), if_pos available]
      exact ⟨_, rfl, rfl, by simp⟩
    · rw [if_neg (by simpa using available), if_neg available]
      obtain ⟨t, ran, state, count⟩ := ih (w := ⟨w.state, w.calls ++ [.get session v.id]⟩) member
      refine ⟨t, ran, state, count.trans ?_⟩
      rw [List.count_append, List.count_singleton_self, Nat.add_assoc, Nat.add_comm 1]

/-- A pass over a volume takes it away, unless it is attached when it comes to delete it. -/
theorem removeVolume_own (answered : ∀ c n, env.cinder c n = .answered) (member : v ∈ w.state)
    (sees : env.cloud.sees session v.projectId = true) :
    ∃ t, (removeVolume session v.id).run env.backend.serve w = (.ok (), t) ∧
      if env.volumeStatus v.id (w.calls.count (.get session v.id) +
          polls env v.id 12 (w.calls.count (.get session v.id))) = "in-use" then
        t.state = w.state ∧ t.calls.count (.get session v.id) = w.calls.count (.get session v.id) +
          polls env v.id 12 (w.calls.count (.get session v.id)) + 1
      else v ∉ t.state := by
  obtain ⟨t, waited, state, count⟩ := awaitAvailable_run answered member sees 12
  rw [← state] at member
  have served := get_served answered member sees
  rw [removeVolume, Program.run_attempt, Eff.attempt_run, Program.run_bind, Eff.bind_ok waited, deleteVolume,
    Program.run_attempt, Eff.attempt_run, Program.run_bind, Program.run_remote, Eff.bind_ok served, ← count,
    Program.run_ite]
  by_cases attached : env.volumeStatus v.id (t.calls.count (.get session v.id)) = "in-use"
  · rw [if_pos attached]
    refine ⟨_, rfl, ?_⟩
    rw [if_pos attached]
    exact ⟨state, by simp⟩
  · have gone : env.backend.serve (.delete session v.id) ⟨t.state, t.calls ++ [.get session v.id]⟩ =
        (.ok (), ⟨t.state.delete v.id, t.calls ++ [.get session v.id] ++ [.delete session v.id]⟩) :=
      Backend.serve_ok (answered _ _) (env.cinderService.deletes (findVolume_seen member sees))
    rw [if_neg attached, Program.run_remote, gone]
    refine ⟨_, rfl, ?_⟩
    rw [if_neg attached]
    exact fun there => (Table.mem_delete.mp there).2 rfl

theorem removeVolume_uses (session : KeystoneSession) (volumeId : String) :
    (removeVolume session volumeId).Uses fun c => c = .get session volumeId ∨ c = .delete session volumeId := by
  refine .attempt (.bind ?_ fun _ => .attempt (.bind (.remote (.inl rfl)) fun _ =>
    .ite (.raise _) (.remote (.inr rfl))) fun _ => .raise _) fun _ => .pure ()
  generalize 12 = attempts
  induction attempts with
  | zero => exact .pure ()
  | succ attempts ih =>
    exact .bind (.attempt (.map (.attempt (.remote (.inl rfl)) fun _ => .raise _)) fun _ => .pure none) fun _ =>
      .ite (.pure ()) ih

variable (env) in
theorem removeVolume_goesOn (session : KeystoneSession) (volumeId : String) :
    NeverRaises ((removeVolume session volumeId).run env.backend.serve) := by
  intro w
  obtain ⟨t, ran⟩ : ∃ t, (removeVolume session volumeId).run env.backend.serve w = (.ok (), t) := by
    rw [removeVolume, Program.run_attempt]
    exact ⟨_, Eff.attempt_ignore _ w⟩
  rw [ran]

/-- A pass over another volume, or over one that the session does not see, leaves a volume. -/
theorem removeVolume_spares (spared : volumeId ≠ v.id ∨ env.cloud.sees session v.projectId = false)
    (w : Services.World CinderCall Volumes) :
    v ∈ ((removeVolume session volumeId).run env.backend.serve w).2.state ↔ v ∈ w.state := by
  refine iff_of_eq (Program.run_keeps (I := fun s : Services.World CinderCall Volumes => (v ∈ s.state) = (v ∈ w.state))
    (fun c own => Backend.serve_keeps (I := fun s : Volumes => (v ∈ s) = (v ∈ w.state)) fun n s there => ?_)
    (removeVolume_uses session volumeId) w rfl)
  rw [← there]
  rcases own with rfl | rfl
  · rw [get_state]
  · cases found : findVolume (env.cloud.sees session) s volumeId with
    | ok volume =>
      rw [delete_state found, Table.mem_delete, eq_iff_iff, and_iff_left_iff_imp]
      rintro member rfl
      rcases spared with other | unseen
      · exact other rfl
      · rw [findVolume, Table.find_eq_some.mpr ⟨member, rfl⟩] at found
        simp [unseen] at found
    | error e => rw [refused_state found]

/-- What is not there is not made. -/
theorem removeVolumes_absent (volumeIds : List String) (absent : v ∉ w.state) :
    v ∉ ((removeVolumes session volumeIds).run env.backend.serve w).2.state := by
  refine Program.run_keeps (I := fun s : Services.World CinderCall Volumes => v ∉ s.state)
    (fun c _ => Backend.serve_keeps (I := fun s : Volumes => v ∉ s) fun n s gone => ?_) (Program.uses_any _) w absent
  cases c with
  | get _ _ =>
    rw [get_state]
    exact gone
  | delete session volumeId =>
    cases found : findVolume (env.cloud.sees session) s volumeId with
    | ok volume =>
      rw [delete_state found]
      exact fun there => gone (Table.mem_delete.mp there).1
    | error e =>
      rw [refused_state found]
      exact gone

/-- The passes leave a volume that the session sees where each of those over it finds it attached. -/
theorem removeVolumes_seen (answered : ∀ c n, env.cinder c n = .answered) (member : v ∈ w.state)
    (sees : env.cloud.sees session v.projectId = true) (volumeIds : List String) :
    v ∈ ((removeVolumes session volumeIds).run env.backend.serve w).2.state ↔
      freed env v.id (volumeIds.count v.id) (w.calls.count (.get session v.id)) = false := by
  induction volumeIds generalizing w with
  | nil => exact iff_of_true member rfl
  | cons volumeId volumeIds ih =>
    have first := removeVolume_goesOn env session volumeId w
    rw [removeVolumes, Program.forEach, Program.run_bind, Eff.bind_ok first]
    by_cases same : volumeId = v.id
    · subst same
      obtain ⟨t, ran, left⟩ := removeVolume_own answered member sees
      rw [ran, List.count_cons_self, freed]
      split at left
      · next attached =>
        obtain ⟨state, count⟩ := left
        rw [← state] at member
        refine (ih member).trans ?_
        rw [count]
        simp [attached]
      · next free =>
        exact iff_of_false (removeVolumes_absent volumeIds left) (by simp [free])
    · have there : v ∈ ((removeVolume session volumeId).run env.backend.serve w).2.state :=
        (removeVolume_spares (.inl same) w).mpr member
      have count := Backend.uses_count (c := .get session v.id) (removeVolume_uses session volumeId) first
        (by simpa using Ne.symm same)
      refine (ih there).trans ?_
      rw [count, List.count_cons_of_ne same]

/-- The task leaves the volumes that it had but those that it takes. -/
theorem removeVolumes_mem (answered : ∀ c n, env.cinder c n = .answered) (volumeIds : List String)
    (w : Services.World CinderCall Volumes) (v : Volume) :
    v ∈ ((removeVolumes session volumeIds).run env.backend.serve w).2.state ↔
      v ∈ w.state ∧ ¬ CinderCleans env session volumeIds w v := by
  by_cases member : v ∈ w.state
  · rw [and_iff_right member, CinderCleans]
    cases sees : env.cloud.sees session v.projectId with
    | true => simpa using removeVolumes_seen answered member sees volumeIds
    | false =>
      refine iff_of_true ?_ (by simp)
      rw [removeVolumes, Program.run_forEach]
      exact Eff.forEach_invariant (I := fun s : Services.World CinderCall Volumes => v ∈ s.state)
        (fun volumeId _ s there => (removeVolume_spares (.inr sees) s).mpr there) member
  · exact iff_of_false (removeVolumes_absent volumeIds member) fun both => member both.1

end

/-! ## What the two deletions leave -/

section
variable {env : Env} {instanceId : String} {profile : Profile} {server : Server}

theorem deleteInstance_completes (succeed : AllSucceed env) {w : Cloud.World}
    (visible : findServer (env.cloud.sees (ownSession profile)) w.cloud.servers instanceId = .ok server) :
    ∃ t, (deleteInstance instanceId profile).run (serve env.cloud) w =
      (.ok (if server.volumes ≠ [] then [⟨ownSession profile, instanceId, server.volumes⟩] else []), t) := by
  obtain ⟨w₁, same, servers, _⟩ := prepared (succeed.cloud _ _) instanceId
  have arrived : (upcoming env.cloud w₁ (.nova (ownSession profile) (.deleteServer instanceId))).arrives = true := by
    rw [upcoming, succeed.cloud]
    rfl
  rw [← servers] at visible
  obtain ⟨r, t, ran, _, alternatives⟩ := finish_accepted profile ⟨visible, succeed.cloud _ _, arrived⟩
  obtain ⟨r', guarded, results⟩ := guarded_run ran
  rcases alternatives with ⟨_, tasks, _⟩ | ⟨stops, _⟩
  · refine ⟨t, ?_⟩
    rw [same, guarded, (results _).mpr tasks]
  · exact absurd ⟨succeed.cloud _ _, succeed.cloud _ _⟩ stops

theorem awaitGone_reads (session : KeystoneSession) (instanceId : String) (attempts : Nat) :
    (awaitGone session instanceId attempts).Uses Call.Reads := by
  induction attempts with
  | zero => exact .pure ()
  | succ attempts ih =>
    refine .bind (.attempt (.bind ?_ fun _ => .pure true) fun _ => .pure false) fun _ => .ite ih (.pure ())
    exact .remote (c := Call.nova session (.getServer instanceId)) trivial

variable (env) in
theorem awaitGone_goesOn (session : KeystoneSession) (instanceId : String) (attempts : Nat) (w : Cloud.World) :
    ∃ t, (awaitGone session instanceId attempts).run (serve env.cloud) w = (.ok (), t) := by
  induction attempts generalizing w with
  | zero => exact ⟨w, rfl⟩
  | succ attempts ih =>
    obtain ⟨there, t, polled⟩ : ∃ there t, (Program.attempt (do
        let _ ← nova session (.getServer instanceId)
        return true) fun _ => pure false).run (serve env.cloud) w = (.ok there, t) := by
      rw [Program.run_attempt, Eff.attempt_run]
      split
      · exact ⟨_, _, rfl⟩
      · exact ⟨_, _, rfl⟩
    rw [awaitGone, Program.run_bind, Eff.bind_ok polled, Program.run_ite]
    split
    · exact ih t
    · exact ⟨t, rfl⟩

theorem onCloud_ran {α : Type} {m : Remote α} {r : Except Exn α} {s : Site} {t : Cloud.World}
    (ran : m.run (serve env.cloud) s.world = (r, t)) : onCloud env m s = (r, { s with world := t }) := by
  rw [onCloud, ran]

variable (env) in
theorem deleteVolumesAfterInstance_run (task : VolumeTask) (s : Site) :
    ((deleteVolumesAfterInstance env task) s).2.world.cloud = s.world.cloud ∧
      ((deleteVolumesAfterInstance env task) s).2.cinder =
        ((removeVolumes task.session task.volumeIds).run env.backend.serve s.cinder).2 := by
  obtain ⟨t, ran⟩ := awaitGone_goesOn env task.session task.instanceId 24 s.world
  rw [deleteVolumesAfterInstance, Eff.bind_ok (onCloud_ran ran)]
  exact ⟨reads_keep env.cloud (awaitGone_reads task.session task.instanceId 24) ran, rfl⟩

/-- What is left when a user has deleted an instance and the background is done. -/
theorem deletion_leaves (succeed : AllSucceed env) (s : Site)
    (visible : findServer (env.cloud.sees (ownSession profile)) s.world.cloud.servers instanceId = .ok server) :
    (∀ r, r ∈ (deletion env instanceId profile s).2.world.cloud.proxy ↔
      r ∈ s.world.cloud.proxy ∧ ¬ Addressed s.world.cloud.proxy instanceId r.ruleId) ∧
    (∀ pf, pf ∈ (deletion env instanceId profile s).2.world.cloud.neutron.portForwardings ↔
      pf ∈ s.world.cloud.neutron.portForwardings ∧
        clearedIp env.cloud (ownSession profile) s.world instanceId ≠ some pf.internalIpAddress) ∧
    ∀ v, v ∈ (deletion env instanceId profile s).2.cinder.state ↔
      v ∈ s.cinder.state ∧ ¬ CinderCleans env (ownSession profile) server.volumes s.cinder v := by
  obtain ⟨t, ran⟩ := deleteInstance_completes succeed visible
  have told : Told env.cloud s.world instanceId := by
    refine ⟨Proxy.byVm s.world.cloud.proxy instanceId, ?_⟩
    simp [listed, tried, listing, succeed.cloud, succeed.proxy, env.cloud.proxyService.byVm, handleResponse]
  have proxy : ∀ r, r ∈ t.cloud.proxy ↔
      r ∈ s.world.cloud.proxy ∧ ¬ Addressed s.world.cloud.proxy instanceId r.ruleId := by
    intro r
    rw [deleteInstance_proxy ran]
    refine and_congr_right fun member => not_congr ?_
    rw [proxyCleans_iff (fun _ _ _ => ⟨succeed.cloud _ _, succeed.proxy _ _⟩) member, and_iff_right told]
  have neutron := fun pf => deleteInstance_mem (fun _ _ _ => succeed.cloud _ _) ran pf
  rw [deletion, Eff.bind_ok (onCloud_ran ran)]
  by_cases some : server.volumes ≠ []
  · rw [if_pos some]
    obtain ⟨cloud, cinder⟩ := deleteVolumesAfterInstance_run env ⟨ownSession profile, instanceId, server.volumes⟩
      { s with world := t }
    rw [Eff.forEach_singleton_state, cloud, cinder]
    exact ⟨proxy, neutron, removeVolumes_mem succeed.cinder server.volumes s.cinder⟩
  · rw [if_neg some]
    refine ⟨proxy, neutron, fun v => (and_iff_left ?_).symm⟩
    rw [not_not.mp some]
    simp [CinderCleans, freed]

theorem forceDelete_uses (instanceId projectId : String) :
    (forceDelete instanceId projectId).Uses (· = .nova .system (.deleteServer instanceId)) :=
  .attempt (.bind (.remote rfl) fun _ => .pure true) fun _ => .pure false

/-- The scheduler leaves the rules and the volumes as they were, whatever comes of its calls. -/
theorem reclamation_leaves (env : Env) (row : Lifecycle.Row) (s : Site) :
    (reclamation env row s).2.world.cloud.proxy = s.world.cloud.proxy ∧
      (reclamation env row s).2.world.cloud.neutron = s.world.cloud.neutron ∧
      (reclamation env row s).2.cinder = s.cinder := by
  rcases ran : (forceDelete row.instanceId row.projectId).run (serve env.cloud) s.world with ⟨r, t⟩
  have uses := forceDelete_uses row.instanceId row.projectId
  have proxy : t.cloud.proxy = s.world.cloud.proxy :=
    sparesProxy_keep (uses.mono fun c same => by rw [same]; exact trivial) ran
  have neutron : t.cloud.neutron = s.world.cloud.neutron :=
    sparesNeutron_keep env.cloud (uses.mono fun c same => by rw [same]; exact trivial) ran
  cases r with
  | error e =>
    rw [reclamation, Eff.bind_error (onCloud_ran ran)]
    exact ⟨proxy, neutron, rfl⟩
  | ok deleted =>
    rw [reclamation, Eff.bind_ok (onCloud_ran ran)]
    cases deleted with
    | true => exact ⟨proxy, neutron, rfl⟩
    | false => exact ⟨proxy, neutron, rfl⟩

/-- Where all calls succeed, the scheduler's deletion of an instance leaves the same rules and
    volumes as a user's deletion iff there was nothing to clean up. -/
theorem reclamation_alike_iff (env : Env) (succeed : AllSucceed env) (profile : Profile) (row : Lifecycle.Row)
    (server : Server) (s : Site)
    (visible : findServer (env.cloud.sees (ownSession profile)) s.world.cloud.servers row.instanceId = .ok server) :
    Alike (reclamation env row s).2 (deletion env row.instanceId profile s).2 ↔ NothingToClean env profile server s := by
  obtain ⟨sameProxy, sameNeutron, sameCinder⟩ := reclamation_leaves env row s
  obtain ⟨proxy, neutron, volumes⟩ := deletion_leaves succeed s visible
  obtain ⟨_, named⟩ := findServer_ok visible
  rw [← named] at proxy neutron volumes ⊢
  constructor
  · intro alike
    refine ⟨fun r member => ?_, fun pf member => ?_, fun v member => ?_⟩
    · exact ((proxy r).mp ((alike.proxy r).mp (by rwa [sameProxy]))).2
    · exact ((neutron pf).mp ((alike.neutron pf).mp (by rwa [sameNeutron]))).2
    · exact ((volumes v).mp ((alike.volumes v).mp (by rwa [sameCinder]))).2
  · intro nothing
    refine ⟨fun r => ?_, fun pf => ?_, fun v => ?_⟩
    · rw [proxy, sameProxy]
      exact (and_iff_left_of_imp (nothing.proxy r)).symm
    · rw [neutron, sameNeutron]
      exact (and_iff_left_of_imp (nothing.neutron pf)).symm
    · rw [volumes, sameCinder]
      exact (and_iff_left_of_imp (nothing.volumes v)).symm

/-- A cycle in which `_delete_instance` has its connection, as the services are. -/
def connected (env : Env) (s : Site) : Lifecycle.Env where
  mail _ := .ok true
  deleteInstance instanceId projectId :=
    { deleted := match ((forceDelete instanceId projectId).run (serve env.cloud) s.world).1 with
        | .ok deleted => deleted
        | .error _ => false
      calls := [instanceId] }
  recordSent _ := .ok ()
  recordDeleted _ := .ok ()

/-- The scheduler's loop does to the lifecycle table what is said of one row here. -/
theorem reclaimRow_reclamation (env : Env) {adminProjectId : Option String} {row : Lifecycle.Row}
    (other : Lifecycle.exempt adminProjectId row.projectId = false) (s : Site) :
    (Lifecycle.reclaimRow (connected env s) adminProjectId row ⟨s.world.cloud.lifecycle, [], []⟩).2.table =
      (reclamation env row s).2.world.cloud.lifecycle := by
  rcases ran : (forceDelete row.instanceId row.projectId).run (serve env.cloud) s.world with ⟨r, t⟩
  have same : t.cloud.lifecycle = s.world.cloud.lifecycle := by
    have each : ∀ c : Call, c = .nova .system (.deleteServer row.instanceId) →
        Eff.Keeps (fun w => w.cloud.lifecycle = s.world.cloud.lifecycle) (serve env.cloud c) := by
      rintro _ rfl
      exact serve_keeps env.cloud (I := fun cloud => cloud.lifecycle = s.world.cloud.lifecycle) fun _ _ same => same
    have kept := Program.run_keeps each (forceDelete_uses row.instanceId row.projectId) s.world rfl
    rw [ran] at kept
    exact kept
  rw [Lifecycle.reclaimRow, if_neg (by simp [other])]
  cases r with
  | error e =>
    rw [reclamation, Eff.bind_error (onCloud_ran ran), same]
    simp [connected, ran, Eff.bind_run]
  | ok deleted =>
    rw [reclamation, Eff.bind_ok (onCloud_ran ran)]
    cases deleted with
    | true => simp [connected, ran, Eff.bind_run, recordDeleted, same]
    | false => simp [connected, ran, Eff.bind_run, same]

end

/-! ## Two tenants -/

def documentedCinder : CinderService where
  perform sees now volumes
    | .get _ volumeId => ((findVolume sees volumes volumeId).map fun _ => now, volumes)
    | .delete _ volumeId =>
      match findVolume sees volumes volumeId with
      | .ok _ => (.ok (), volumes.delete volumeId)
      | .error e => (.error e, volumes)
  get := rfl
  deletes found := by simp only [found]
  deletesNone {_ _ _ _ _ e} missing := ⟨e, by simp only [missing]⟩

/-- Every call goes through, and volumes are available when they are asked for. -/
def willing : Env where
  cloud := obliging
  cinderService := documentedCinder
  cinder _ _ := .answered
  volumeStatus _ _ := "available"

/-- The row of an instance that was warned about at 100 and never extended. -/
def overdueRow : Lifecycle.Row :=
  { Lifecycle.newRow "our-vm" "web" "user" "project" "user@example.org" 0 100 with
    emailStatus := .sent, emailSentAt := some 100 }

def ourServer : Server := ⟨"our-vm", "project", [("net", [⟨"10.0.0.5", "fixed"⟩])], []⟩

/-- The two tenants, one of whose instances is overdue. -/
def expired : Site where
  world := ⟨{ twoTenants with lifecycle := ⟨[overdueRow], List.nodup_singleton _⟩ }, []⟩
  cinder := ⟨Table.empty, []⟩

theorem expired_alike : Alike (reclamation willing overdueRow expired).2
    (deletion willing overdueRow.instanceId Session.member expired).2 ↔
      NothingToClean willing Session.member ourServer expired :=
  reclamation_alike_iff willing ⟨fun _ _ => rfl, fun _ _ => rfl, fun _ _ => rfl⟩ Session.member overdueRow ourServer
    expired rfl

/-- The scheduler leaves a rule in Neutron that a user's deletion takes away. -/
theorem overdue_rule_left : ¬ ∀ (env : Env) (profile : Profile) (row : Lifecycle.Row) (server : Server) (s : Site)
    (deadline : Int), AllSucceed env →
      findServer (env.cloud.sees (ownSession profile)) s.world.cloud.servers row.instanceId = .ok server →
      row ∈ Lifecycle.listInstanceLifecyclesAwaitingReply s.world.cloud.lifecycle deadline →
      Alike (reclamation env row s).2 (deletion env row.instanceId profile s).2 := by
  intro always
  have succeed : AllSucceed willing := ⟨fun _ _ => rfl, fun _ _ => rfl, fun _ _ => rfl⟩
  have visible : findServer (willing.cloud.sees (ownSession Session.member)) expired.world.cloud.servers overdueRow.instanceId =
      .ok ourServer := rfl
  have alike := always willing Session.member overdueRow ourServer expired 604900 succeed visible List.mem_cons_self
  have left : (⟨"our-rule", "fip", "our-port", "10.0.0.5", 22, 10022, "tcp"⟩ : PortForwarding) ∈
      (reclamation willing overdueRow expired).2.world.cloud.neutron.portForwardings := List.mem_cons_self
  exact ((deletion_leaves succeed expired visible).2.1 _).mp ((alike.neutron _).mp left) |>.2 rfl

end Skyline.Reclamation
