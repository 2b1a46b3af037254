import Skyline.Provisioning

/-!
Volumes that provisioning leaves behind. The bootable volume is made first, and nothing
that fails after it takes it away again: one handler around all of it writes a line to
the log. So a volume that Cinder made stays without a server unless everything up to the
creation of the server goes well.
-/
namespace Skyline.VolumeLeak
open Skyline.Effects Skyline.Programs Skyline.Python Skyline.Tables Skyline.Services Skyline.Provisioning
open Skyline.Session (Profile)
open Skyline.Cloud (KeystoneSession)

/-- If no server was created, no volume is left that was not there before. -/
def LeaksNone (before after : State) : Prop :=
  after.cloud.servers = before.cloud.servers → ∀ v ∈ after.volumes, v ∈ before.volumes

/-! ## When the volume and the server are made -/

section
variable (env : Env) (conf : Conf) (lib : Lib) (session : KeystoneSession) (inst : InstanceCreate) (w : World Call State)

abbrev volumeCall : Call :=
  .createVolume session (inst.name ++ "-root") (inst.volumeSize.getD 0) (inst.imageId.getD "")

/-- The id that Cinder gives the volume. -/
def volumeId : String := env.newVolumeId (volumeCall session inst) (w.calls.count (volumeCall session inst))

def password : String := env.tokenUrlsafe (w.calls.count .tokenUrlsafe)

/-- The creation of the server, from the volume. -/
abbrev serverCall : Call :=
  .createServer session (serverRequest lib inst (password env w) conf.novaDefaultImageForVolumeBoot
    (some (volumeId env session inst w)))

/-- Whether one of up to `attempts` polls, from the `k`-th on, finds the volume available
    before one fails or finds it in error. -/
def becomesAvailable (id : String) : (attempts k : Nat) → Bool
  | 0, _ => false
  | attempts + 1, k => env.delivery (.getVolumeStatus session id) k = .answered &&
      (env.volumeStatus id k = "available" ||
        (env.volumeStatus id k != "error" && becomesAvailable id attempts (k + 1)))

/-- Cinder makes the volume of the request. -/
structure MakesVolume : Prop where
  token : env.backend.upcoming w .tokenUrlsafe = .answered
  size : inst.volumeSize.getD 0 ≠ 0
  image : truthy? inst.imageId = true
  arrives : (env.backend.upcoming w (volumeCall session inst)).arrives = true
  fresh : ∀ v ∈ w.state.volumes, v.id ≠ volumeId env session inst w

/-- Nova makes the server, once the volume has been made: Cinder's answer comes back, the
    volume becomes available in time, and the creation of the server gets through. -/
structure MakesServer : Prop where
  answered : env.backend.upcoming w (volumeCall session inst) = .answered
  visible : env.cloud.sees session (env.projectOf session) = true
  available : becomesAvailable env session (volumeId env session inst w) 120
    (w.calls.count (.getVolumeStatus session (volumeId env session inst w))) = true
  arrives : (env.backend.upcoming w (serverCall env conf lib session inst w)).arrives = true
  fresh : ∀ server ∈ w.state.cloud.servers, server.id ≠
    env.newServerId (serverCall env conf lib session inst w) (w.calls.count (serverCall env conf lib session inst w))

end

/-! ## What provisioning does to volumes and servers -/

def MakesNoVolume : Call → Prop
  | .createVolume _ _ _ _ => False
  | _ => True

section
variable {env : Env} {conf : Conf} {lib : Lib} {session : KeystoneSession} {inst : InstanceCreate}
  {w w' : World Call State}

theorem makesNoVolume_keep {α : Type} {m : Remote α} {r : Except Exn α} (uses : m.Uses MakesNoVolume)
    (ran : m.run env.backend.serve w = (r, w')) : w'.state.volumes = w.state.volumes := by
  have each : ∀ c : Call, MakesNoVolume c →
      Eff.Keeps (fun s : World Call State => s.state.volumes = w.state.volumes) (env.backend.serve c) := by
    intro c none
    refine Backend.serve_keeps (I := fun s : State => s.volumes = w.state.volumes) fun n s same => ?_
    cases c with
    | createServer session request =>
      dsimp only [Env.backend, perform, createServer]
      rcases env.serverService.creation s _ request.name with ⟨_, _, made⟩ | ⟨_, none⟩
      · rw [made]
        exact same
      · rw [none]
        exact same
    | createInstanceLifecycle record =>
      dsimp only [Env.backend, perform, insertLifecycle]
      split <;> exact same
    | createVolume _ _ _ _ => exact none.elim
    | _ => exact same
  have kept := Program.run_keeps each uses w rfl
  rw [ran] at kept
  exact kept

theorem sparesServers_keep {α : Type} {m : Remote α} {r : Except Exn α} (uses : m.Uses Call.SparesServers)
    (ran : m.run env.backend.serve w = (r, w')) : w'.state.cloud.servers = w.state.cloud.servers := by
  have each : ∀ c : Call, c.SparesServers →
      Eff.Keeps (fun s : World Call State => s.state.cloud.servers = w.state.cloud.servers) (env.backend.serve c) := by
    intro c spares
    refine Backend.serve_keeps (I := fun s : State => s.cloud.servers = w.state.cloud.servers) fun n s same => ?_
    exact (perform_sparesServers _ _ _ spares).1.trans same
  have kept := Program.run_keeps each uses w rfl
  rw [ran] at kept
  exact kept

theorem networks_spares {serverId : String} {c : Call} (networks : c.Networks serverId) :
    MakesNoVolume c ∧ c.SparesServers := by
  refine ⟨?_, networks_spare networks⟩
  rcases networks with waits | ⟨payload, _, rfl⟩
  · cases c with
    | createVolume _ _ _ _ => exact waits.elim
    | _ => exact trivial
  · exact trivial

theorem registers_spares {serverId : String} {c : Call} (registers : c.Registers serverId) :
    MakesNoVolume c ∧ c.SparesServers := by
  refine ⟨?_, registers_spare registers⟩
  cases c with
  | createVolume _ _ _ _ => exact registers.elim
  | _ => exact trivial

/-- What provisioning does with the server that was made. -/
def rest (conf : Conf) (lib : Lib) (profile : Profile) (inst : InstanceCreate) (serverId : String) : Remote Unit := do
  setupInstanceNetworking serverId inst.name profile inst.additionalPorts
  registerLifecycle conf lib profile serverId inst.name

theorem rest_spares (conf : Conf) (lib : Lib) (profile : Profile) (inst : InstanceCreate) (serverId : String) :
    (rest conf lib profile inst serverId).Uses fun c => MakesNoVolume c ∧ c.SparesServers :=
  .bind ((setupInstanceNetworking_networks serverId inst.name profile inst.additionalPorts).mono fun _ =>
    networks_spares) fun _ => (registerLifecycle_registers conf lib profile serverId inst.name).mono fun _ =>
      registers_spares

variable (env conf lib session) in
/-- Provisioning leaves the volumes and the servers that booting leaves. -/
theorem provisionInstance_state (profile : Profile) (inst : InstanceCreate) (w : World Call State) :
    ((provisionInstance conf lib session profile inst).run env.backend.serve w).2.state.volumes =
        ((boot conf lib session inst).run env.backend.serve w).2.state.volumes ∧
      ((provisionInstance conf lib session profile inst).run env.backend.serve w).2.state.cloud.servers =
        ((boot conf lib session inst).run env.backend.serve w).2.state.cloud.servers := by
  have same : ∀ serverId, (do
      setupInstanceNetworking serverId inst.name profile inst.additionalPorts
      registerLifecycle conf lib profile serverId inst.name) = rest conf lib profile inst serverId := fun _ => rfl
  rw [provisionInstance, Program.ignoring, Program.run_attempt, Program.run_bind]
  simp only [same]
  rcases booted : (boot conf lib session inst).run env.backend.serve w with ⟨r, t⟩
  cases r with
  | error e =>
    rw [Eff.attempt_run, Eff.bind_error booted]
    exact ⟨rfl, rfl⟩
  | ok serverId =>
    rcases ran : (rest conf lib profile inst serverId).run env.backend.serve t with ⟨r, u⟩
    have volumes := makesNoVolume_keep ((rest_spares conf lib profile inst serverId).mono fun _ => And.left) ran
    have servers := sparesServers_keep ((rest_spares conf lib profile inst serverId).mono fun _ => And.right) ran
    rw [Eff.attempt_run, Eff.bind_ok booted, ran]
    cases r with
    | ok _ => exact ⟨volumes, servers⟩
    | error _ => exact ⟨volumes, servers⟩

/-! ## The volume -/

variable (env session) in
theorem poll_ok {id : String} {volume : Volume} {w : World Call State} (there : w.state.volumes.find id = some volume)
    (volStatus : String) :
    ((cinderGetVolumeStatus session id).run env.backend.serve w).1 = .ok volStatus ↔
      env.backend.upcoming w (.getVolumeStatus session id) = .answered ∧
        env.cloud.sees session volume.projectId = true ∧
        env.volumeStatus id (w.calls.count (.getVolumeStatus session id)) = volStatus := by
  rw [cinderGetVolumeStatus, Program.run_attempt]
  refine (Eff.attempt_raise_ok _ _ w volStatus).trans ?_
  rw [Program.run_remote, Backend.serve_result]
  refine and_congr_right fun _ => ?_
  refine env.volumeService.statusOf.trans (and_congr_left fun _ => ?_)
  rw [there]
  constructor
  · rintro ⟨_, ⟨⟩, seen⟩
    exact seen
  · exact fun seen => ⟨volume, rfl, seen⟩

theorem poll_frame {id : String} {w w' : World Call State} {r : Except Exn String}
    (ran : (cinderGetVolumeStatus session id).run env.backend.serve w = (r, w')) : w'.state = w.state ∧
      w'.calls.count (.getVolumeStatus session id) = w.calls.count (.getVolumeStatus session id) + 1 := by
  rw [cinderGetVolumeStatus, Program.run_attempt] at ran
  have served := Eff.attempt_raise_state ((Program.remote (Call.getVolumeStatus session id : Call)).run env.backend.serve)
    (fun e => .httpException (if e = Neutron.notFound then 404 else 500) e.str) w
  have same : w' = (env.backend.serve (.getVolumeStatus session id) w).2 := (congrArg Prod.snd ran).symm.trans served
  rw [same]
  refine ⟨?_, Backend.count_served w⟩
  rw [Backend.serve_state]
  split
  · rfl
  · rfl

variable (env) in
/-- The wait for a volume that the session sees ends well just where the volume becomes
    available in time. -/
theorem awaitAvailable_ok {id : String} {volume : Volume} (seen : env.cloud.sees session volume.projectId = true)
    (attempts : Nat) {w : World Call State} (there : w.state.volumes.find id = some volume) :
    ((awaitAvailable session id attempts).run env.backend.serve w).1 = .ok () ↔
      becomesAvailable env session id attempts (w.calls.count (.getVolumeStatus session id)) = true := by
  induction attempts generalizing w with
  | zero => exact ⟨nofun, nofun⟩
  | succ attempts ih =>
    have poll := poll_ok env session there
    rcases ran : (cinderGetVolumeStatus session id).run env.backend.serve w with ⟨r, w₁⟩
    obtain ⟨state, count⟩ := poll_frame ran
    rw [ran] at poll
    rw [awaitAvailable, Program.run_bind, becomesAvailable]
    cases r with
    | error e =>
      have unanswered : env.delivery (.getVolumeStatus session id) (w.calls.count (.getVolumeStatus session id)) ≠
          .answered := fun answered => nomatch (poll _).mpr ⟨answered, seen, rfl⟩
      rw [Eff.bind_error ran]
      simp [unanswered]
    | ok volStatus =>
      obtain ⟨answered, _, same⟩ := (poll volStatus).mp rfl
      rw [Backend.upcoming] at answered
      have answered : env.delivery (.getVolumeStatus session id) (w.calls.count (.getVolumeStatus session id)) =
          .answered := answered
      rw [Eff.bind_ok ran, Program.run_ite, Program.run_ite, answered, same]
      by_cases available : volStatus = "available"
      · simp [available, Program.run_pure]
      · by_cases broken : volStatus = "error"
        · simp [broken, Program.raise, Program.run]
        · rw [if_neg available, if_neg broken, ih (by rw [state, there]), count]
          simp [available, broken]

theorem awaitAvailable_unseen {id : String} {volume : Volume} (attempts : Nat) {w : World Call State}
    (unseen : ¬ env.cloud.sees session volume.projectId = true) (there : w.state.volumes.find id = some volume) :
    ((awaitAvailable session id (attempts + 1)).run env.backend.serve w).1 ≠ .ok () := by
  have poll := poll_ok env session there
  rcases ran : (cinderGetVolumeStatus session id).run env.backend.serve w with ⟨r, w₁⟩
  rw [ran] at poll
  rw [awaitAvailable, Program.run_bind]
  cases r with
  | error e =>
    rw [Eff.bind_error ran]
    exact nofun
  | ok volStatus => exact absurd ((poll volStatus).mp rfl).2.1 unseen

theorem createVolume_fresh {n : Nat} {s : State} {name imageRef : String} {size : Int}
    (fresh : ∀ v ∈ s.volumes, v.id ≠ env.newVolumeId (.createVolume session name size imageRef) n) :
    ∃ volumes volume, createVolume env n s session name size imageRef =
        (.ok (env.newVolumeId (.createVolume session name size imageRef) n), { s with volumes }) ∧
      volume.id = env.newVolumeId (.createVolume session name size imageRef) n ∧
      volume.projectId = env.projectOf session ∧ volume ∈ volumes := by
  obtain ⟨volumes, inserted⟩ := Table.insert_of_fresh (t := s.volumes) (r := ⟨_, env.projectOf session, name, size, imageRef⟩)
    fresh
  refine ⟨volumes, ⟨_, env.projectOf session, name, size, imageRef⟩, ?_, rfl, rfl, (Table.mem_insert inserted).mpr (.inr rfl)⟩
  rw [createVolume, env.volumeService.creates inserted]

theorem createVolume_taken {n : Nat} {s : State} {name imageRef : String} {size : Int}
    (taken : ¬ ∀ v ∈ s.volumes, v.id ≠ env.newVolumeId (.createVolume session name size imageRef) n) :
    (createVolume env n s session name size imageRef).2 = s := by
  have none := Table.insert_of_taken (t := s.volumes) (r := ⟨_, env.projectOf session, name, size, imageRef⟩) taken
  obtain ⟨e, refused⟩ := env.volumeService.createsNone none
  rw [createVolume, refused]

theorem createServer_fresh {n : Nat} {s : State} {request : ServerCreate}
    (fresh : ∀ server ∈ s.cloud.servers, server.id ≠ env.newServerId (.createServer session request) n) :
    ∃ server ∈ (createServer env n s session request).2.cloud.servers, server ∉ s.cloud.servers := by
  obtain ⟨servers, inserted⟩ := Table.insert_of_fresh (t := s.cloud.servers) (r := ⟨_, env.projectOf session,
    env.addresses (.createServer session request) n, request.vda.toList⟩) fresh
  refine ⟨⟨env.newServerId (.createServer session request) n, env.projectOf session,
    env.addresses (.createServer session request) n, request.vda.toList⟩, ?_, fun old => fresh _ old rfl⟩
  rw [createServer, env.serverService.creates inserted]
  exact (Table.mem_insert inserted).mpr (.inr rfl)

theorem createServer_taken {n : Nat} {s : State} {request : ServerCreate}
    (taken : ¬ ∀ server ∈ s.cloud.servers, server.id ≠ env.newServerId (.createServer session request) n) :
    (createServer env n s session request).2 = s := by
  have none := Table.insert_of_taken (t := s.cloud.servers) (r := ⟨_, env.projectOf session,
    env.addresses (.createServer session request) n, request.vda.toList⟩) taken
  obtain ⟨e, refused⟩ := env.serverService.createsNone none
  rw [createServer, refused]

variable (env session) in
/-- What becomes of the creation of a volume. -/
theorem cinderCreateVolume_state (name : String) (size : Int) (imageRef : String) (w : World Call State) :
    ((cinderCreateVolume session name size imageRef).run env.backend.serve w).2.state =
      if (env.backend.upcoming w (.createVolume session name size imageRef)).arrives then
        (createVolume env (w.calls.count (.createVolume session name size imageRef)) w.state session name size
          imageRef).2
      else w.state := by
  rw [cinderCreateVolume, Program.run_attempt]
  have served := Eff.attempt_raise_state
    ((Program.remote (Call.createVolume session name size imageRef : Call)).run env.backend.serve)
    (fun e => .httpException (if e = unauthorized then 401 else 500) e.str) w
  refine (congrArg World.state served).trans ?_
  rw [Program.run_remote, Backend.serve_state]
  rfl

variable (env session) in
theorem cinderCreateVolume_ok (name : String) (size : Int) (imageRef : String) (w : World Call State) (id : String) :
    ((cinderCreateVolume session name size imageRef).run env.backend.serve w).1 = .ok id ↔
      env.backend.upcoming w (.createVolume session name size imageRef) = .answered ∧
        (createVolume env (w.calls.count (.createVolume session name size imageRef)) w.state session name size
          imageRef).1 = .ok id := by
  rw [cinderCreateVolume, Program.run_attempt]
  refine (Eff.attempt_raise_ok _ _ w id).trans ?_
  rw [Program.run_remote, Backend.serve_result]
  rfl

/-! ## Booting -/

/-- What booting does once it has a volume. -/
def bootWith (conf : Conf) (lib : Lib) (session : KeystoneSession) (inst : InstanceCreate) (drawn volumeId : String) :
    Remote String := do
  awaitAvailable session volumeId 120
  novaCreateServer session (serverRequest lib inst drawn conf.novaDefaultImageForVolumeBoot (some volumeId))

theorem bootWith_makesNoVolume (conf : Conf) (lib : Lib) (session : KeystoneSession) (inst : InstanceCreate)
    (drawn volumeId : String) : (bootWith conf lib session inst drawn volumeId).Uses MakesNoVolume := by
  refine .bind ((awaitAvailable_polls session volumeId 120).mono ?_) fun _ => .remote trivial
  rintro _ rfl
  exact trivial

variable (conf lib session) in
/-- Once the password has been drawn, an instance with a volume is booted from it. -/
theorem boot_from_volume (drawn : env.backend.upcoming w .tokenUrlsafe = .answered) (sized : inst.volumeSize.getD 0 ≠ 0)
    (imaged : truthy? inst.imageId = true) : ∃ w₁, w₁.state = w.state ∧
      (∀ c, c ≠ .tokenUrlsafe → w₁.calls.count c = w.calls.count c) ∧
      (boot conf lib session inst).run env.backend.serve w = ((do
        let volumeId ← cinderCreateVolume session (inst.name ++ "-root") (inst.volumeSize.getD 0) (inst.imageId.getD "")
        bootWith conf lib session inst (password env w) volumeId : Remote String).run env.backend.serve w₁) := by
  have token : env.backend.serve .tokenUrlsafe w = (.ok (password env w), ⟨w.state, w.calls ++ [.tokenUrlsafe]⟩) :=
    Backend.serve_answered drawn
  refine ⟨⟨w.state, w.calls ++ [.tokenUrlsafe]⟩, rfl, fun c other => ?_, ?_⟩
  · rw [List.count_append, List.count_singleton, if_neg (by simpa using Ne.symm other), Nat.add_zero]
  · rw [boot, Program.run_bind, Program.run_remote, Eff.bind_ok token]
    simp only [if_pos sized, bootFromVolume, if_pos imaged]
    rfl

theorem cinderCreateVolume_unmade {w₁ : World Call State} (none : ¬ MakesVolume env session inst w)
    (drawn : env.backend.upcoming w .tokenUrlsafe = .answered) (sized : inst.volumeSize.getD 0 ≠ 0)
    (imaged : truthy? inst.imageId = true) (state₁ : w₁.state = w.state)
    (counts₁ : ∀ c, c ≠ .tokenUrlsafe → w₁.calls.count c = w.calls.count c) :
    ((cinderCreateVolume session (inst.name ++ "-root") (inst.volumeSize.getD 0) (inst.imageId.getD "")).run
      env.backend.serve w₁).2.state = w.state := by
  have count := counts₁ (volumeCall session inst) (by rintro ⟨⟩)
  rw [cinderCreateVolume_state, Backend.upcoming, count, state₁]
  split
  · next arrived =>
    rw [createVolume_taken fun fresh => none ⟨drawn, sized, imaged, arrived, fresh⟩]
  · rfl

theorem boot_makesNoVolume (without : ¬ (inst.volumeSize.getD 0 ≠ 0 ∧ truthy? inst.imageId = true)) :
    (boot conf lib session inst).Uses MakesNoVolume := by
  refine .bind (.remote trivial) fun drawn => ?_
  by_cases sized : inst.volumeSize.getD 0 ≠ 0
  · have imageless : ¬ truthy? inst.imageId = true := fun imaged => without ⟨sized, imaged⟩
    simp only [if_pos sized, bootFromVolume, if_neg imageless]
    exact .raise _
  · simp only [if_neg sized]
    exact .ite (.remote trivial) (.raise _)

/-- Without a volume that Cinder makes, there is no new volume. -/
theorem boot_makes_none (none : ¬ MakesVolume env session inst w) :
    ((boot conf lib session inst).run env.backend.serve w).2.state.volumes = w.state.volumes := by
  by_cases with_volume : inst.volumeSize.getD 0 ≠ 0 ∧ truthy? inst.imageId = true
  · by_cases drawn : env.backend.upcoming w .tokenUrlsafe = .answered
    · obtain ⟨w₁, state₁, counts₁, same⟩ :=
        boot_from_volume conf lib session drawn with_volume.1 with_volume.2
      have unmade := cinderCreateVolume_unmade none drawn with_volume.1 with_volume.2 state₁ counts₁
      rw [same, Program.run_bind]
      rcases ran : (cinderCreateVolume session (inst.name ++ "-root") (inst.volumeSize.getD 0)
        (inst.imageId.getD "")).run env.backend.serve w₁ with ⟨r, w₂⟩
      rw [ran] at unmade
      cases r with
      | error e => rw [Eff.bind_error ran, unmade]
      | ok volumeId =>
        rw [Eff.bind_ok ran]
        rcases booted : (bootWith conf lib session inst (password env w) volumeId).run env.backend.serve w₂ with ⟨r, t⟩
        rw [makesNoVolume_keep (bootWith_makesNoVolume conf lib session inst _ volumeId) booted, unmade]
    · rcases ran : env.backend.serve .tokenUrlsafe w with ⟨r, w₁⟩
      have state : w₁.state.volumes = w.state.volumes :=
        makesNoVolume_keep (m := (Program.remote Call.tokenUrlsafe : Remote String)) (.remote trivial) ran
      cases r with
      | error e => rw [boot, Program.run_bind, Program.run_remote, Eff.bind_error ran, state]
      | ok p => exact absurd (Backend.serve_result.mp (congrArg Prod.fst ran)).1 drawn
  · rcases ran : (boot conf lib session inst).run env.backend.serve w with ⟨r, t⟩
    exact makesNoVolume_keep (boot_makesNoVolume with_volume) ran

theorem cinderCreateVolume_asks (session : KeystoneSession) (name : String) (size : Int) (imageRef : String) :
    (cinderCreateVolume session name size imageRef).Uses (· = .createVolume session name size imageRef) :=
  .attempt (.remote rfl) fun _ => .raise _

/-- What becomes of the creation of a server. -/
theorem novaCreateServer_state (request : ServerCreate) (w : World Call State) :
    ((novaCreateServer session request).run env.backend.serve w).2.state =
      if (env.backend.upcoming w (.createServer session request)).arrives then
        (createServer env (w.calls.count (.createServer session request)) w.state session request).2
      else w.state := by
  rw [novaCreateServer, Program.run_remote, Backend.serve_state]
  rfl

/-- It leaves the servers as they are, unless it gets there and the id is fresh. -/
theorem novaCreateServer_servers (request : ServerCreate) (w : World Call State) :
    ((novaCreateServer session request).run env.backend.serve w).2.state.cloud.servers = w.state.cloud.servers ↔
      ¬ ((env.backend.upcoming w (.createServer session request)).arrives = true ∧ ∀ server ∈ w.state.cloud.servers,
        server.id ≠ env.newServerId (.createServer session request) (w.calls.count (.createServer session request))) := by
  rw [novaCreateServer_state]
  by_cases arrived : (env.backend.upcoming w (.createServer session request)).arrives = true
  · rw [if_pos arrived, and_iff_right arrived]
    by_cases fresh : ∀ server ∈ w.state.cloud.servers, server.id ≠ env.newServerId (.createServer session request)
        (w.calls.count (.createServer session request))
    · obtain ⟨server, created, new⟩ := createServer_fresh fresh
      refine iff_of_false (fun same => ?_) (not_not_intro fresh)
      rw [same] at created
      exact new created
    · rw [createServer_taken fresh]
      exact iff_of_true rfl fresh
  · rw [if_neg arrived]
    exact iff_of_true rfl fun both => arrived both.1

/-- Where the volume has been made, the server is made as well iff the wait for the volume
    ends well and the creation of the server gets through. -/
theorem bootWith_makes {w₂ : World Call State} {volume : Volume}
    (answered : env.backend.upcoming w (volumeCall session inst) = .answered)
    (counts : ∀ c, c ≠ .tokenUrlsafe → c ≠ volumeCall session inst → w₂.calls.count c = w.calls.count c)
    (servers₂ : w₂.state.cloud.servers = w.state.cloud.servers)
    (there : w₂.state.volumes.find (volumeId env session inst w) = some volume)
    (owned : volume.projectId = env.projectOf session) :
    ((bootWith conf lib session inst (password env w) (volumeId env session inst w)).run env.backend.serve
        w₂).2.state.cloud.servers = w.state.cloud.servers ↔ ¬ MakesServer env conf lib session inst w := by
  have awaiting : (awaitAvailable session (volumeId env session inst w) 120).Uses Call.SparesServers := by
    refine (awaitAvailable_polls session _ 120).mono ?_
    rintro _ rfl
    exact trivial
  rw [bootWith, Program.run_bind]
  rcases ran₃ : (awaitAvailable session (volumeId env session inst w) 120).run env.backend.serve w₂ with ⟨r₃, w₃⟩
  have servers₃ : w₃.state.cloud.servers = w.state.cloud.servers := by
    rw [sparesServers_keep awaiting ran₃, servers₂]
  by_cases seen : env.cloud.sees session (env.projectOf session) = true
  · rw [← owned] at seen
    have ended := awaitAvailable_ok env seen 120 there
    rw [ran₃, counts (.getVolumeStatus session (volumeId env session inst w)) nofun nofun] at ended
    cases r₃ with
    | error e =>
      rw [Eff.bind_error ran₃]
      exact iff_of_true servers₃ fun makes => nomatch ended.mpr makes.available
    | ok =>
      have count : w₃.calls.count (serverCall env conf lib session inst w) =
          w.calls.count (serverCall env conf lib session inst w) := by
        rw [Backend.uses_count (awaitAvailable_polls session _ 120) ran₃ (c := serverCall env conf lib session inst w) nofun,
          counts (serverCall env conf lib session inst w) nofun nofun]
      have coming : env.backend.upcoming w₃ (serverCall env conf lib session inst w) =
          env.backend.upcoming w (serverCall env conf lib session inst w) := by
        rw [Backend.upcoming, Backend.upcoming, count]
      rw [Eff.bind_ok ran₃, ← servers₃, novaCreateServer_servers, coming, count, servers₃]
      exact not_congr ⟨fun made => ⟨answered, owned ▸ seen, ended.mp rfl, made.1, made.2⟩,
        fun makes => ⟨makes.arrives, makes.fresh⟩⟩
  · rw [← owned] at seen
    have ended := awaitAvailable_unseen 119 seen there
    rw [ran₃] at ended
    cases r₃ with
    | error e =>
      rw [Eff.bind_error ran₃]
      exact iff_of_true servers₃ fun makes => seen (owned ▸ makes.visible)
    | ok => exact absurd rfl ended

variable (conf lib) in
/-- The volume that Cinder makes stays, and the server is there as well iff it is made too. -/
theorem boot_makes (makes : MakesVolume env session inst w) :
    (∃ v ∈ ((boot conf lib session inst).run env.backend.serve w).2.state.volumes, v ∉ w.state.volumes) ∧
      (((boot conf lib session inst).run env.backend.serve w).2.state.cloud.servers = w.state.cloud.servers ↔
        ¬ MakesServer env conf lib session inst w) := by
  obtain ⟨w₁, state₁, counts₁, same⟩ :=
    boot_from_volume conf lib session makes.token makes.size makes.image
  obtain ⟨volumes, volume, created, named, owned, member⟩ := createVolume_fresh makes.fresh
  have count := counts₁ (volumeCall session inst) (by rintro ⟨⟩)
  have arrived := makes.arrives
  have state := cinderCreateVolume_state env session (inst.name ++ "-root")
    (inst.volumeSize.getD 0) (inst.imageId.getD "") w₁
  have ok := cinderCreateVolume_ok env session (inst.name ++ "-root") (inst.volumeSize.getD 0)
    (inst.imageId.getD "") w₁
  rw [Backend.upcoming] at arrived
  rw [Backend.upcoming, count, state₁, created] at ok
  rw [Backend.upcoming, count, state₁, created, if_pos arrived] at state
  rw [same, Program.run_bind]
  rcases ran₂ : (cinderCreateVolume session (inst.name ++ "-root") (inst.volumeSize.getD 0)
    (inst.imageId.getD "")).run env.backend.serve w₁ with ⟨r₂, w₂⟩
  rw [ran₂] at ok state
  have new : volume ∉ w.state.volumes := fun old => makes.fresh volume old named
  cases r₂ with
  | error e =>
    rw [Eff.bind_error ran₂]
    refine ⟨⟨volume, ?_, new⟩, iff_of_true ?_ fun made => ?_⟩
    · rw [state]
      exact member
    · rw [state]
    · cases (ok _).mpr ⟨made.answered, rfl⟩
  | ok id =>
    obtain ⟨answered, given⟩ := (ok id).mp rfl
    obtain rfl : volumeId env session inst w = id := Except.ok.inj given
    rw [Eff.bind_ok ran₂]
    refine ⟨⟨volume, ?_, new⟩, ?_⟩
    · rcases booted : (bootWith conf lib session inst (password env w) (volumeId env session inst w)).run
        env.backend.serve w₂ with ⟨r, t⟩
      rw [makesNoVolume_keep (bootWith_makesNoVolume conf lib session inst _ _) booted, state]
      exact member
    · refine bootWith_makes answered (fun c drawn other => ?_) (by rw [state]) ?_ owned
      · rw [Backend.uses_count (cinderCreateVolume_asks session _ _ _) ran₂ other, counts₁ c drawn]
      · rw [state]
        exact Table.find_eq_some.mpr ⟨member, named⟩

end

/-- Provisioning leaves no volume without a server iff Nova makes the server of every
    volume that Cinder makes. -/
theorem provisionInstance_leaksNone_iff (env : Env) (conf : Conf) (lib : Lib) (session : KeystoneSession)
    (profile : Profile) (inst : InstanceCreate) (w : World Call State) :
    LeaksNone w.state ((provisionInstance conf lib session profile inst).run env.backend.serve w).2.state ↔
      (MakesVolume env session inst w → MakesServer env conf lib session inst w) := by
  obtain ⟨volumes, servers⟩ := provisionInstance_state env conf lib session profile inst w
  rw [LeaksNone, volumes, servers]
  by_cases makes : MakesVolume env session inst w
  · obtain ⟨⟨v, there, new⟩, created⟩ := boot_makes conf lib makes
    rw [created]
    constructor
    · intro leaksNone _
      by_contra unmade
      exact new (leaksNone unmade v there)
    · intro condition unmade
      exact absurd (condition makes) unmade
  · rw [boot_makes_none makes]
    exact iff_of_true (fun _ _ there => there) fun made => absurd made makes

/-! ## A poll that fails -/

/-- An environment in which every call goes through, but Cinder cannot be asked for a volume. -/
def unpolled : Env :=
  { serving with
    delivery := fun c _ =>
      match c with
      | .getVolumeStatus _ _ => .refused (.callFailed "timeout")
      | _ => .answered }

/-- Where the first poll fails, the volume stays and no server is made. -/
theorem provisionInstance_leaks : ¬ ∀ (env : Env) (conf : Conf) (lib : Lib) (session : KeystoneSession)
    (profile : Profile) (inst : InstanceCreate) (w : World Call State),
    LeaksNone w.state ((provisionInstance conf lib session profile inst).run env.backend.serve w).2.state := by
  intro always
  have leaksNone := always unpolled defaults ascii memberSession Session.member web settled
  have volumes : ((provisionInstance defaults ascii memberSession Session.member web).run unpolled.backend.serve
      settled).2.state.volumes.rows = [⟨"volume-0", "project", "web-root", 10, "image"⟩] := rfl
  have servers : ((provisionInstance defaults ascii memberSession Session.member web).run unpolled.backend.serve
      settled).2.state.cloud.servers = settled.state.cloud.servers := rfl
  have left := leaksNone servers ⟨"volume-0", "project", "web-root", 10, "image"⟩ (by
    rw [Table.mem_rows, volumes]
    exact List.mem_singleton_self _)
  exact Table.not_mem_empty _ left

end Skyline.VolumeLeak
