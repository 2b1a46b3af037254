import Skyline.Reclamation
import Skyline.Traces

/-!
What the background task that deletes the volumes of a deleted instance asks for, whatever
it is answered. Each wait ends after so many polls, an exception ends no more than the wait
or the volume that it came up in, and so each volume of the list is asked to be deleted
once, in the order of the list. `cinder.delete_volume` reads the status of a volume right
before it deletes it, and deletes none that is attached.
-/
namespace Skyline.VolumeCleanup
open Skyline.Effects Skyline.Programs Skyline.Python Skyline.Threads
open Skyline.Cloud (KeystoneSession Server)
open Skyline.Reclamation (CinderAnswer CinderCall)

/-! ## The task and the clients it calls -/

inductive TaskCall
  /-- `nova.get_server`. -/
  | getServer (instanceId : String)
  /-- `cinder.get_volume`, of which the status is read. -/
  | getVolume (volumeId : String)
  /-- `cinder.delete_volume`. -/
  | deleteVolume (volumeId : String)
  deriving DecidableEq, Repr

abbrev TaskAnswer : TaskCall → Type
  | .getServer _ => Server
  | .getVolume _ => String
  | .deleteVolume _ => Unit

abbrev Task : Type → Type := Program TaskAnswer Exn

/-- Waits until Nova does not know the server any more, for `attempts` polls at most. -/
def awaitGone (instanceId : String) : Nat → Task Unit
  | 0 => pure ()
  | attempts + 1 => do
    let there ← .attempt (do
      let _ ← .remote (TaskCall.getServer instanceId)
      return true) fun _ => pure false
    if there then awaitGone instanceId attempts else pure ()

/-- Waits until the volume is available or cannot be seen, for `attempts` polls at most. -/
def awaitAvailable (volumeId : String) : Nat → Task Unit
  | 0 => pure ()
  | attempts + 1 => do
    let status ← .attempt (some <$> .remote (TaskCall.getVolume volumeId)) fun _ => pure none
    if status.all (· = "available") then pure () else awaitAvailable volumeId attempts

/-- The pass of the loop over one volume. -/
def removeVolume (volumeId : String) : Task Unit :=
  .attempt (do
    awaitAvailable volumeId 12
    .remote (TaskCall.deleteVolume volumeId))
  fun _ => pure ()

/-- `_delete_volumes_after_instance`. -/
def deleteVolumesAfterInstance (instanceId : String) (volumeIds : List String) : Task Unit := do
  awaitGone instanceId 24
  Program.forEach volumeIds removeVolume

/-! ## What the task asks for -/

abbrev TaskEvent : Type := Event TaskAnswer Exn

/-- Only so many polls, all of one thing. -/
def Polls (c : TaskCall) (limit : Nat) (events : List TaskEvent) : Prop :=
  events.length ≤ limit ∧ ∀ e ∈ events, e.1 = c

/-- What is asked for in the pass over a volume: its status a few times, and its deletion. -/
def Pass (volumeId : String) (events : List TaskEvent) : Prop :=
  ∃ polls result, events = polls ++ [⟨.deleteVolume volumeId, result⟩] ∧ Polls (.getVolume volumeId) 12 polls

/-- After a few polls of the server, a pass over each volume of the list, in order. -/
def CleansUp (instanceId : String) (volumeIds : List String) (events : List TaskEvent) : Prop :=
  ∃ polls passes, events = polls ++ passes.flatten ∧ Polls (.getServer instanceId) 24 polls ∧
    List.Forall₂ Pass volumeIds passes

/-- The volume that a call asks to be deleted. -/
def TaskCall.deletes : TaskCall → Option String
  | deleteVolume volumeId => some volumeId
  | getServer _ | getVolume _ => none

def deletions (events : List TaskEvent) : List String := events.filterMap fun e => e.1.deletes

theorem Polls.deletions {c : TaskCall} {limit : Nat} {events : List TaskEvent} (polls : Polls c limit events)
    (asks : c.deletes = none) : deletions events = [] :=
  List.filterMap_eq_nil_iff.mpr fun e member => by rw [polls.2 e member, asks]

/-- The task asks for the deletion of each entry of the list, once and in order. -/
theorem CleansUp.deletions {instanceId : String} {volumeIds : List String} {events : List TaskEvent}
    (cleansUp : CleansUp instanceId volumeIds events) : deletions events = volumeIds := by
  obtain ⟨polls, passes, rfl, few, each⟩ := cleansUp
  rw [VolumeCleanup.deletions, List.filterMap_append, ← VolumeCleanup.deletions, few.deletions rfl, List.nil_append]
  induction each with
  | nil => rfl
  | cons pass _ ih =>
    obtain ⟨polls, result, rfl, few⟩ := pass
    have waited := few.deletions rfl
    rw [VolumeCleanup.deletions] at waited
    rw [List.flatten_cons, List.filterMap_append, ih, List.filterMap_append, waited]
    rfl

theorem awaitGone_polls (instanceId : String) (attempts : Nat) (past : List TaskEvent) :
    Follows history (fun r now => r = .ok () ∧ ∃ polls, now = past ++ polls ∧ Polls (.getServer instanceId) attempts polls)
      (awaitGone instanceId attempts) past := by
  induction attempts generalizing past with
  | zero => exact .pure ⟨rfl, [], by simp, by simp [Polls]⟩
  | succ attempts ih =>
    refine .bind (.attempt (.bind (.remote trivial fun r => ?_)))
    cases r with
    | error e =>
      refine .pure ⟨rfl, [⟨_, .error e⟩], rfl, by simp, by simp⟩
    | ok server =>
      refine (ih _).weaken fun r now ended => ?_
      obtain ⟨ok, polls, rfl, few, all⟩ := ended
      refine ⟨ok, ⟨_, .ok server⟩ :: polls, by simp [history], by simpa using few, ?_⟩
      simpa using all

theorem awaitAvailable_polls (volumeId : String) (attempts : Nat) (past : List TaskEvent) :
    Follows history (fun r now => r = .ok () ∧ ∃ polls, now = past ++ polls ∧ Polls (.getVolume volumeId) attempts polls)
      (awaitAvailable volumeId attempts) past := by
  induction attempts generalizing past with
  | zero => exact .pure ⟨rfl, [], by simp, by simp [Polls]⟩
  | succ attempts ih =>
    refine .bind (.attempt (.bind (.remote trivial fun r => ?_)))
    cases r with
    | error e => exact .pure ⟨rfl, [⟨_, .error e⟩], rfl, by simp, by simp⟩
    | ok status =>
      refine .ite (fun _ => .pure ⟨rfl, [⟨_, .ok status⟩], rfl, by simp, by simp⟩) fun _ => ?_
      refine (ih _).weaken fun r now ended => ?_
      obtain ⟨ok, polls, rfl, few, all⟩ := ended
      exact ⟨ok, ⟨_, .ok status⟩ :: polls, by simp [history], by simpa using few, by simpa using all⟩

theorem removeVolume_pass (volumeId : String) (past : List TaskEvent) :
    Follows history (fun r now => r = .ok () ∧ ∃ pass, now = past ++ pass ∧ Pass volumeId pass)
      (removeVolume volumeId) past := by
  refine .attempt (.bind ((awaitAvailable_polls volumeId 12 past).weaken fun r now waited => ?_))
  obtain ⟨rfl, polls, rfl, few⟩ := waited
  refine .remote trivial fun r => ?_
  have passed : ∃ pass, past ++ polls ++ [⟨.deleteVolume volumeId, r⟩] = past ++ pass ∧ Pass volumeId pass :=
    ⟨polls ++ [⟨.deleteVolume volumeId, r⟩], List.append_assoc _ _ _, polls, r, rfl, few⟩
  cases r with
  | ok _ => exact ⟨rfl, passed⟩
  | error e => exact .pure ⟨rfl, passed⟩

theorem deleteVolumesAfterInstance_follows (instanceId : String) (volumeIds : List String) :
    Follows history (fun r events => r = .ok () ∧ CleansUp instanceId volumeIds events)
      (deleteVolumesAfterInstance instanceId volumeIds) [] := by
  refine .bind ((awaitGone_polls instanceId 24 []).weaken fun r polls waited => ?_)
  obtain ⟨rfl, _, rfl, few⟩ := waited
  -- after the passes over some volumes, those over the others are to come
  refine (Follows.forEach (I := fun rest now => ∃ before passes, volumeIds = before ++ rest ∧
    now = polls ++ passes.flatten ∧ List.Forall₂ Pass before passes) (fun volumeId rest now inv => ?_) volumeIds
    ⟨[], [], rfl, by simp, .nil⟩).weaken fun r now ended => ?_
  · obtain ⟨before, passes, rfl, rfl, each⟩ := inv
    refine (removeVolume_pass volumeId _).weaken fun r now passed => ?_
    obtain ⟨ok, pass, rfl, own⟩ := passed
    exact ⟨ok, before ++ [volumeId], passes ++ [pass], by simp, by simp, List.rel_append each (.cons own .nil)⟩
  · obtain ⟨ok, before, passes, same, rfl, each⟩ := ended
    rw [same, List.append_nil]
    exact ⟨ok, polls, passes, rfl, few, each⟩

/-! ## What the clients ask for -/

/-- A call of one of the services behind the clients. -/
inductive SiteCall
  | cloud (c : Cloud.Call)
  | cinder (c : CinderCall)

abbrev SiteAnswer : SiteCall → Type
  | .cloud c => Cloud.Answer c
  | .cinder c => CinderAnswer c

/-- What the clients do for the task. -/
def client (session : KeystoneSession) : (c : TaskCall) → Program SiteAnswer Exn (TaskAnswer c)
  | .getServer instanceId => (Cloud.nova session (.getServer instanceId)).lift .cloud fun _ => id
  | .getVolume volumeId => (Reclamation.getVolume session volumeId).lift .cinder fun _ => id
  | .deleteVolume volumeId => (Reclamation.deleteVolume session volumeId).lift .cinder fun _ => id

/-- A volume that has been read with a status. -/
structure Reading where
  session : KeystoneSession
  volumeId : String
  status : String

/-- A volume is deleted only where it has just been read, and not as attached. -/
def reading : Protocol CinderAnswer Exn (Option Reading) where
  may
    | _, .get _ _ => True
    | last, .delete session volumeId => ∃ status, last = some ⟨session, volumeId, status⟩ ∧ status ≠ "in-use"
  next
    | _, .get session volumeId, .ok status => some ⟨session, volumeId, status⟩
    | _, _, _ => none

/-- The same, among calls of the other services. -/
def siteReading : Protocol SiteAnswer Exn (Option Reading) where
  may
    | _, .cloud _ => True
    | last, .cinder c => reading.may last c
  next
    | _, .cloud _, _ => none
    | last, .cinder c, r => reading.next last c r

/-- No volume is deleted that has not just been read with another status than `in-use`. -/
def SparesAttached (events : List (Event SiteAnswer Exn)) : Prop :=
  ∀ earlier later session volumeId result, events = earlier ++ ⟨.cinder (.delete session volumeId), result⟩ :: later →
    ∃ before status, earlier = before ++ [⟨.cinder (.get session volumeId), .ok status⟩] ∧ status ≠ "in-use"

theorem getVolume_reads (session : KeystoneSession) (volumeId : String) (q : Option Reading) :
    Follows reading (fun _ _ => True) (Reclamation.getVolume session volumeId) q := by
  refine .attempt (.remote trivial fun r => ?_)
  cases r with
  | ok _ => exact trivial
  | error e => exact .raise trivial

theorem deleteVolume_reads (session : KeystoneSession) (volumeId : String) (q : Option Reading) :
    Follows reading (fun _ _ => True) (Reclamation.deleteVolume session volumeId) q := by
  refine .attempt (.bind (.remote trivial fun r => ?_))
  cases r with
  | error e => exact .raise trivial
  | ok status =>
    refine .ite (fun _ => .raise (.raise trivial)) fun free => .remote ⟨status, rfl, free⟩ fun r => ?_
    cases r with
    | ok _ => exact trivial
    | error e => exact .raise trivial

theorem lift_reads {α : Type} {m : Program CinderAnswer Exn α} {q : Option Reading}
    (follows : Follows reading (fun _ _ => True) m q) :
    Follows siteReading (fun _ _ => True) (m.lift .cinder fun _ => id) q := by
  have permitted : ∀ q c, reading.may q c → siteReading.may q (.cinder c) := fun _ _ may => may
  have alike : ∀ q c (r : Except Exn (CinderAnswer c)), siteReading.next q (.cinder c) r = reading.next q c (r.map id) := by
    intro q c r
    cases r with
    | ok _ => rfl
    | error e => rfl
  exact follows.lift permitted alike

theorem client_reads (session : KeystoneSession) (c : TaskCall) (q : Option Reading) :
    Follows siteReading (fun _ _ => True) (client session c) q := by
  cases c with
  | getServer instanceId => exact ⟨trivial, fun _ => trivial⟩
  | getVolume volumeId => exact lift_reads (getVolume_reads session volumeId q)
  | deleteVolume volumeId => exact lift_reads (deleteVolume_reads session volumeId q)

/-- A reading is what the last call has come back with. -/
theorem after_reading {events : List (Event SiteAnswer Exn)} {session : KeystoneSession} {volumeId status : String}
    (read : after siteReading none events = some ⟨session, volumeId, status⟩) :
    ∃ before, events = before ++ [⟨.cinder (.get session volumeId), .ok status⟩] := by
  rcases List.eq_nil_or_concat events with rfl | ⟨before, last, rfl⟩
  · cases read
  · rw [List.concat_eq_append, after, List.foldl_append] at read
    obtain ⟨c, r⟩ := last
    cases c with
    | cloud c => cases read
    | cinder c =>
      cases c with
      | delete _ _ => cases read
      | get _ _ =>
        cases r with
        | error e => cases read
        | ok _ =>
          cases read
          exact ⟨before, List.concat_eq_append⟩

/-! ## The task with its clients -/

section
variable (env : Reclamation.Env) (session : KeystoneSession)

/-- The clients, on the services of the site. -/
def clients (c : TaskCall) : Eff Reclamation.Site Exn (TaskAnswer c) :=
  match c with
  | .getServer instanceId => Reclamation.onCloud env (Cloud.nova session (.getServer instanceId))
  | .getVolume volumeId => Reclamation.onCinder env (Reclamation.getVolume session volumeId)
  | .deleteVolume volumeId => Reclamation.onCinder env (Reclamation.deleteVolume session volumeId)

section
variable {α β : Type}

theorem onCloud_bind (m : Cloud.Remote α) (f : α → Cloud.Remote β) : Reclamation.onCloud env (m >>= f) =
    Reclamation.onCloud env m >>= fun a => Reclamation.onCloud env (f a) := by
  have zoomed := Eff.zoom_bind Reclamation.Site.world (fun world s => { s with world })
    (fun _ _ => rfl) (fun _ _ _ => rfl) (m.run (Cloud.serve env.cloud)) fun a => (f a).run (Cloud.serve env.cloud)
  rw [← Program.run_bind] at zoomed
  exact zoomed

theorem onCloud_attempt (m : Cloud.Remote α) (h : Exn → Cloud.Remote α) : Reclamation.onCloud env (.attempt m h) =
    (Reclamation.onCloud env m).attempt fun e => Reclamation.onCloud env (h e) := by
  have zoomed := Eff.zoom_attempt Reclamation.Site.world (fun world s => { s with world })
    (fun _ _ => rfl) (fun _ _ _ => rfl) (m.run (Cloud.serve env.cloud)) fun e => (h e).run (Cloud.serve env.cloud)
  rw [← Program.run_attempt] at zoomed
  exact zoomed

theorem onCinder_bind (m : Reclamation.CinderRemote α) (f : α → Reclamation.CinderRemote β) :
    Reclamation.onCinder env (m >>= f) = Reclamation.onCinder env m >>= fun a => Reclamation.onCinder env (f a) := by
  have zoomed := Eff.zoom_bind Reclamation.Site.cinder (fun cinder s => { s with cinder })
    (fun _ _ => rfl) (fun _ _ _ => rfl) (m.run env.backend.serve) fun a => (f a).run env.backend.serve
  rw [← Program.run_bind] at zoomed
  exact zoomed

theorem onCinder_attempt (m : Reclamation.CinderRemote α) (h : Exn → Reclamation.CinderRemote α) :
    Reclamation.onCinder env (.attempt m h) =
      (Reclamation.onCinder env m).attempt fun e => Reclamation.onCinder env (h e) := by
  have zoomed := Eff.zoom_attempt Reclamation.Site.cinder (fun cinder s => { s with cinder })
    (fun _ _ => rfl) (fun _ _ _ => rfl) (m.run env.backend.serve) fun e => (h e).run env.backend.serve
  rw [← Program.run_attempt] at zoomed
  exact zoomed

end

theorem awaitGone_refines (instanceId : String) (attempts : Nat) :
    Reclamation.onCloud env (Reclamation.awaitGone session instanceId attempts) =
      (awaitGone instanceId attempts).run (clients env session) := by
  induction attempts with
  | zero => rfl
  | succ attempts ih =>
    rw [awaitGone, Reclamation.awaitGone, onCloud_bind, onCloud_attempt, onCloud_bind, Program.run_bind,
      Program.run_attempt, Program.run_bind]
    congr 1
    funext there
    cases there with
    | true => exact ih
    | false => rfl

theorem awaitAvailable_refines (volumeId : String) (attempts : Nat) :
    Reclamation.onCinder env (Reclamation.awaitAvailable session volumeId attempts) =
      (awaitAvailable volumeId attempts).run (clients env session) := by
  induction attempts with
  | zero => rfl
  | succ attempts ih =>
    have polled : Reclamation.onCinder env (some <$> Reclamation.getVolume session volumeId) =
        (some <$> .remote (TaskCall.getVolume volumeId) : Task (Option String)).run (clients env session) := by
      have mapped : (some <$> .remote (TaskCall.getVolume volumeId) : Task (Option String)) =
          .remote (TaskCall.getVolume volumeId) >>= fun status => pure (some status) := rfl
      rw [mapped, Program.run_bind]
      exact onCinder_bind env (Reclamation.getVolume session volumeId) fun status => pure (some status)
    rw [awaitAvailable, Reclamation.awaitAvailable, onCinder_bind, onCinder_attempt, Program.run_bind,
      Program.run_attempt, polled]
    congr 1
    funext status
    rw [Program.run_ite, ← ih]
    split
    · rfl
    · rfl

theorem removeVolumes_refines (volumeIds : List String) :
    Reclamation.onCinder env (Reclamation.removeVolumes session volumeIds) =
      (Program.forEach volumeIds removeVolume).run (clients env session) := by
  induction volumeIds with
  | nil => rfl
  | cons volumeId volumeIds ih =>
    have passed : Reclamation.onCinder env (Reclamation.removeVolume session volumeId) =
        (removeVolume volumeId).run (clients env session) := by
      rw [removeVolume, Reclamation.removeVolume, onCinder_attempt, onCinder_bind, Program.run_attempt,
        Program.run_bind, awaitAvailable_refines]
      rfl
    rw [Reclamation.removeVolumes, Program.forEach, onCinder_bind, passed, Program.forEach, Program.run_bind, ← ih]
    rfl

/-- The task does on the site what it does with its clients there. -/
theorem deleteVolumesAfterInstance_refines (task : InstanceDeletion.VolumeTask) :
    Reclamation.deleteVolumesAfterInstance env task =
      (deleteVolumesAfterInstance task.instanceId task.volumeIds).run (clients env task.session) := by
  rw [deleteVolumesAfterInstance, Reclamation.deleteVolumesAfterInstance, awaitGone_refines, removeVolumes_refines,
    Program.run_bind]

end

/-- The task ends without an exception and asks for what it should, whatever it is answered; and
    whatever the services answer its clients, they delete no volume that they read as attached. -/
theorem deleteVolumesAfterInstance_cleansUp (instanceId : String) (volumeIds : List String) :
    (∀ {σ : Type} (clients : (c : TaskCall) → Eff σ Exn (TaskAnswer c)) (s : σ),
      ((deleteVolumesAfterInstance instanceId volumeIds).run clients s).1 = .ok () ∧
        CleansUp instanceId volumeIds (trace clients (deleteVolumesAfterInstance instanceId volumeIds) s) ∧
          deletions (trace clients (deleteVolumesAfterInstance instanceId volumeIds) s) = volumeIds) ∧
      ∀ {σ : Type} (services : (c : SiteCall) → Eff σ Exn (SiteAnswer c)) (session : KeystoneSession) (s : σ),
        ((expand (client session) (deleteVolumesAfterInstance instanceId volumeIds)).run services s).1 = .ok () ∧
          SparesAttached (trace services (expand (client session) (deleteVolumesAfterInstance instanceId volumeIds)) s) := by
  have follows := deleteVolumesAfterInstance_follows instanceId volumeIds
  constructor
  · intro σ clients s
    obtain ⟨ended, cleansUp⟩ := follows.happened clients s
    exact ⟨ended, cleansUp, cleansUp.deletions⟩
  · intro σ services session s
    refine ⟨?_, fun earlier later owner volumeId result happened => ?_⟩
    · rw [run_expand]
      exact (follows.happened (fun c => (client session c).run services) s).1
    have reads := Follows.expand (client_reads session) (deleteVolumesAfterInstance instanceId volumeIds) none
    obtain ⟨status, last, free⟩ := reads.permits services s happened
    obtain ⟨before, read⟩ := after_reading last
    exact ⟨before, status, read, free⟩

end Skyline.VolumeCleanup
