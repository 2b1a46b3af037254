import Skyline.Forwards
import Skyline.VolumeLeak

/-!
What the background task of a request for an instance makes. Whatever becomes of its calls,
it only adds to what is there, and in one order: the root volume, the server, the rules of
the Proxy that lead to the server, and its lifecycle row. Each of them is the one that the
request asks for, and where everything goes through, all of them are made.
-/
namespace Skyline.Provisioned
open Skyline.Effects Skyline.Programs Skyline.Python Skyline.Tables Skyline.Services Skyline.Provisioning
open Skyline.Session (Profile)
open Skyline.Cloud (KeystoneSession ownSession)
open Skyline.Config (Value)
open Skyline.VolumeLeak (volumeCall volumeId password becomesAvailable)
open Skyline.Forwards (becomesActive showsAddresses addressSeen addressFound statusCall addressCall)

/-! ## Additions -/

/-- Rows, by the table that they are added to. -/
structure Added where
  volumes : List Volume := []
  servers : List Cloud.Server := []
  rules : List Proxy.Rule := []
  lifecycle : List Lifecycle.Row := []

def Added.append (first second : Added) : Added where
  volumes := first.volumes ++ second.volumes
  servers := first.servers ++ second.servers
  rules := first.rules ++ second.rules
  lifecycle := first.lifecycle ++ second.lifecycle

/-- A state has the rows of another one, with some more at the ends of its tables, and new
    servers have the name; everything else is as it was. -/
structure Adds (name : String) (before after : State) (added : Added) : Prop where
  volumes : after.volumes.rows = before.volumes.rows ++ added.volumes
  servers : after.cloud.servers.rows = before.cloud.servers.rows ++ added.servers
  rules : after.cloud.proxy.rows = before.cloud.proxy.rows ++ added.rules
  lifecycle : after.cloud.lifecycle.rows = before.cloud.lifecycle.rows ++ added.lifecycle
  names : after.names = added.servers.foldl (fun names server => Function.update names server.id name) before.names
  neutron : after.cloud.neutron = before.cloud.neutron
  activities : after.cloud.activities = before.cloud.activities
  settings : after.settings = before.settings

section
variable {name : String} {s t u : State} {first second : Added}

theorem Adds.none (name : String) (s : State) : Adds name s s {} :=
  ⟨(List.append_nil _).symm, (List.append_nil _).symm, (List.append_nil _).symm, (List.append_nil _).symm, rfl, rfl, rfl, rfl⟩

theorem Adds.of_same (same : t = s) : Adds name s t {} := same ▸ .none name s

theorem Adds.append (added : Adds name s t first) (more : Adds name t u second) : Adds name s u (first.append second) where
  volumes := by rw [more.volumes, added.volumes, List.append_assoc]; rfl
  servers := by rw [more.servers, added.servers, List.append_assoc]; rfl
  rules := by rw [more.rules, added.rules, List.append_assoc]; rfl
  lifecycle := by rw [more.lifecycle, added.lifecycle, List.append_assoc]; rfl
  names := by rw [more.names, added.names, Added.append, List.foldl_append]
  neutron := more.neutron.trans added.neutron
  activities := more.activities.trans added.activities
  settings := more.settings.trans added.settings

end

/-! ## Rules for the bodies of POSTs -/

/-- Rules for bodies, in their order, of which each has been made so many times. -/
inductive Forwarded (least most : Nat) : List ForwardPayload → List Proxy.Rule → Prop
  | nil : Forwarded least most [] []
  | cons {payload : ForwardPayload} {payloads : List ForwardPayload} {copies rules : List Proxy.Rule}
      (atLeast : least ≤ copies.length) (atMost : copies.length ≤ most)
      (each : ∀ r ∈ copies, ∃ choice, r = payload.rule choice) (others : Forwarded least most payloads rules) :
      Forwarded least most (payload :: payloads) (copies ++ rules)

section
variable {env : Env} {name : String}

variable (env name) in
/-- A POST that gets there adds its rule. -/
theorem post_adds (payload : ForwardPayload) (w : World Call State) :
    ∃ copies, Adds name w.state (env.backend.serve (.post payload) w).2.state { rules := copies } ∧ copies.length ≤ 1 ∧
      (∀ r ∈ copies, ∃ choice, r = payload.rule choice) ∧
      ((env.backend.upcoming w (.post payload)).arrives = true → copies.length = 1) := by
  rw [Backend.serve_state]
  by_cases arrived : (env.delivery (.post payload) (w.calls.count (.post payload))).arrives = true
  · rw [if_pos (by exact arrived)]
    refine ⟨[payload.rule (env.choose w.state.cloud.proxy payload (w.calls.count (.post payload))).1], ?_, Nat.le_refl 1,
      fun r made => ⟨_, List.mem_singleton.mp made⟩, fun _ => rfl⟩
    exact { Adds.none name w.state with rules := rfl }
  · rw [if_neg (by exact arrived)]
    exact ⟨[], .none name w.state, Nat.zero_le 1, (fun r made => nomatch made), fun arrives => absurd arrives arrived⟩

variable (env name) in
/-- With its retries, a POST makes a rule for each try at most. -/
theorem retried_adds (payload : ForwardPayload) (tries : Nat) (w : World Call State) :
    ∃ copies, Adds name w.state (Eff.retry (· == .networkError) .retryError tries
        (env.backend.serve (.post payload)) w).2.state { rules := copies } ∧ copies.length ≤ tries ∧
      (∀ r ∈ copies, ∃ choice, r = payload.rule choice) := by
  induction tries generalizing w with
  | zero => exact ⟨[], .none name w.state, Nat.le_refl 0, (fun r made => nomatch made)⟩
  | succ tries ih =>
    obtain ⟨copies, added, few, each, -⟩ := post_adds env name payload w
    rw [Eff.retry, Eff.attempt_run]
    rcases sent : env.backend.serve (.post payload) w with ⟨r, w₁⟩
    rw [sent] at added
    cases r with
    | ok response => exact ⟨copies, added, Nat.le_trans few (Nat.succ_le_succ (Nat.zero_le _)), each⟩
    | error e =>
      dsimp only
      split
      · obtain ⟨more, later, fewer, others⟩ := ih w₁
        refine ⟨copies ++ more, added.append later, ?_, fun r made => ?_⟩
        · rw [List.length_append]
          omega
        · rcases List.mem_append.mp made with old | new
          · exact each r old
          · exact others r new
      · exact ⟨copies, added, Nat.le_trans few (Nat.succ_le_succ (Nat.zero_le _)), each⟩

variable (env name) in
theorem forward_adds (payload : ForwardPayload) (w : World Call State) :
    ∃ copies, Adds name w.state ((forward payload).run env.backend.serve w).2.state { rules := copies } ∧
      copies.length ≤ 3 ∧ (∀ r ∈ copies, ∃ choice, r = payload.rule choice) ∧
      (env.backend.upcoming w (.post payload) = .answered → 1 ≤ copies.length ∧ copies.length ≤ 1) := by
  rw [Forwards.forward_run, callPortforwardApi, Program.run_retry, Program.run_remote]
  by_cases answered : env.backend.upcoming w (.post payload) = .answered
  · obtain ⟨copies, added, few, each, arrived⟩ := post_adds env name payload w
    have one := arrived (by rw [answered]; rfl)
    have served : env.backend.serve (.post payload) w = _ := Backend.serve_answered answered
    rw [served] at added
    rw [Eff.retry, Eff.attempt_ok _ served]
    exact ⟨copies, added, Nat.le_trans few (by decide), each, fun _ => ⟨Nat.le_of_eq one.symm, few⟩⟩
  · obtain ⟨copies, added, few, each⟩ := retried_adds env name payload 3 w
    exact ⟨copies, added, few, each, fun now => absurd now answered⟩

/-- Whatever the world, a forward adds so many copies of its rule. -/
def Copies (env : Env) (name : String) (least most : Nat) : Prop :=
  ∀ payload (w : World Call State), ∃ copies,
    Adds name w.state ((forward payload).run env.backend.serve w).2.state { rules := copies } ∧
      least ≤ copies.length ∧ copies.length ≤ most ∧ ∀ r ∈ copies, ∃ choice, r = payload.rule choice

theorem copies_few (env : Env) (name : String) : Copies env name 0 3 := by
  intro payload w
  obtain ⟨copies, added, few, each, -⟩ := forward_adds env name payload w
  exact ⟨copies, added, Nat.zero_le _, few, each⟩

/-- The bodies of a list are sent one after the other, whatever becomes of them. -/
theorem forwards_add {least most : Nat} (each : Copies env name least most)
    (payloads : List ForwardPayload) (w : World Call State) :
    ∃ rules, Adds name w.state ((Program.forEach payloads forward).run env.backend.serve w).2.state { rules := rules } ∧
      Forwarded least most payloads rules := by
  rw [Program.run_forEach]
  induction payloads generalizing w with
  | nil => exact ⟨[], .none name w.state, .nil⟩
  | cons payload payloads ih =>
    obtain ⟨copies, added, atLeast, atMost, made⟩ := each payload w
    have sent : (forward payload).run env.backend.serve w =
        (.ok (), ((callPortforwardApi payload).run env.backend.serve w).2) := Forwards.forward_run payload w
    rw [Eff.forEach_cons, Eff.bind_ok sent]
    obtain ⟨rules, later, others⟩ := ih ((callPortforwardApi payload).run env.backend.serve w).2
    rw [sent] at added
    exact ⟨copies ++ rules, added.append later, .cons atLeast atMost made others⟩

end

/-! ## What a request asks for -/

section
variable (env : Env) (conf : Conf) (lib : Lib) (session : KeystoneSession) (inst : InstanceCreate) (w : World Call State)

/-- The request is for an instance with a volume. -/
abbrev Sized : Prop := inst.volumeSize.getD 0 ≠ 0

def rootVolume : Volume where
  id := volumeId env session inst w
  projectId := env.projectOf session
  name := inst.name ++ "-root"
  size := inst.volumeSize.getD 0
  imageRef := inst.imageId.getD ""

/-- The volumes of the request: its root volume, where it asks for one. -/
def rootVolumes : List Volume := if Sized inst then [rootVolume env session inst w] else []

/-- What the server is created with. -/
def bootRequest : ServerCreate :=
  if Sized inst then serverRequest lib inst (password env w) conf.novaDefaultImageForVolumeBoot
    (some (volumeId env session inst w))
  else serverRequest lib inst (password env w) (inst.imageId.getD "") none

abbrev bootCall : Call := .createServer session (bootRequest env conf lib session inst w)

/-- What Nova makes of the `n`-th call for a server. -/
def serverOf (request : ServerCreate) (n : Nat) : Cloud.Server where
  id := env.newServerId (.createServer session request) n
  projectId := env.projectOf session
  addresses := env.addresses (.createServer session request) n
  volumes := request.vda.toList

def newServer : Cloud.Server :=
  serverOf env session (bootRequest env conf lib session inst w) (w.calls.count (bootCall env conf lib session inst w))

end

section
variable (conf : Conf) (lib : Lib) (profile : Profile)

/-- Whether the instances of a project are managed. -/
def managed (settings : String → Option Value) : Bool :=
  ((settings "instance_lifecycle_enabled").map lib.truth).getD conf.instanceLifecycleEnabled &&
    profile.project.name != conf.systemProject

def lifetimeDays (settings : String → Option Value) : Except Exn Int :=
  ((settings "instance_lifetime_days").map lib.int).getD (.ok conf.instanceLifetimeDays)

/-- The lifecycle row of an instance that lives for so many days from now on. -/
def lifecycleRow (serverId instanceName : String) (now days : Int) : Lifecycle.Row :=
  Lifecycle.newRow serverId instanceName profile.user.id profile.project.id (orElse profile.user.email "") now
    (now + days * 86400)

end

/-! ## Attempts -/

/-- What comes of an attempt to make something of an id: nothing is made and it fails, or it
    is made, which the caller may or may not get to know. -/
def Attempted {α : Type} (name : String) (before : State) (id : α) (made : Added) (out : Except Exn α × World Call State) :
    Prop :=
  (Adds name before out.2.state {} ∧ ∃ e, out.1 = .error e) ∨
    (Adds name before out.2.state made ∧ ((∃ e, out.1 = .error e) ∨ out.1 = .ok id))

section
variable {env : Env} {conf : Conf} {lib : Lib} {session : KeystoneSession} {inst : InstanceCreate} {w : World Call State}
  {name : String}

/-- A call that makes something, or refuses to and leaves everything as it is. -/
theorem serve_attempted {c : Call} {id : Answer c} {made : Added} (w : World Call State)
    (performs : (∃ e, perform env (w.calls.count c) w.state c = (.error e, w.state)) ∨
      ∃ s, perform env (w.calls.count c) w.state c = (.ok id, s) ∧ Adds name w.state s made) :
    Attempted name w.state id made (env.backend.serve c w) := by
  have delivered : env.backend.delivery = env.delivery := rfl
  have performed : env.backend.perform = perform env := rfl
  rw [Backend.serve, delivered, performed]
  cases env.delivery c (w.calls.count c) with
  | refused e => exact .inl ⟨.none name w.state, e, rfl⟩
  | lost e =>
    rcases performs with ⟨_, same⟩ | ⟨s, same, added⟩
    · exact .inl ⟨.of_same (congrArg Prod.snd same), e, rfl⟩
    · exact .inr ⟨by rw [same]; exact added, .inl ⟨e, rfl⟩⟩
  | answered =>
    rcases performs with ⟨e, same⟩ | ⟨s, same, added⟩
    · exact .inl ⟨.of_same (congrArg Prod.snd same), e, congrArg Prod.fst same⟩
    · exact .inr ⟨by rw [same]; exact added, .inr (congrArg Prod.fst same)⟩

theorem Attempted.raising {α : Type} {before : State} {id : α} {made : Added} {m : Remote α} (f : Exn → Exn)
    (attempted : Attempted name before id made (m.run env.backend.serve w)) :
    Attempted name before id made ((Program.attempt m fun e => .raise (f e)).run env.backend.serve w) := by
  rw [Program.run_attempt, Eff.attempt_run]
  rcases ran : m.run env.backend.serve w with ⟨r, w'⟩
  rw [ran] at attempted
  cases r with
  | ok a => exact attempted
  | error e =>
    rcases attempted with ⟨none, -⟩ | ⟨added, -⟩
    · exact .inl ⟨none, f e, rfl⟩
    · exact .inr ⟨added, .inl ⟨f e, rfl⟩⟩

variable (env session name) in
theorem cinderCreateVolume_attempted (size : Int) (imageRef : String) (w : World Call State) {id : String}
    (given : env.newVolumeId (.createVolume session name size imageRef)
      (w.calls.count (.createVolume session name size imageRef)) = id) (serverName : String) :
    Attempted serverName w.state id { volumes := [⟨id, env.projectOf session, name, size, imageRef⟩] }
      ((cinderCreateVolume session name size imageRef).run env.backend.serve w) := by
  subst given
  refine Attempted.raising _ (serve_attempted w ?_)
  dsimp only [perform, createVolume]
  rcases env.volumeService.creation w.state.volumes _ with ⟨volumes, inserted, made⟩ | ⟨_, none⟩
  · rw [made]
    exact .inr ⟨_, rfl, { Adds.none serverName w.state with volumes := Table.insert_rows inserted }⟩
  · rw [none]
    exact .inl ⟨_, rfl⟩

variable (env session) in
theorem novaCreateServer_attempted (request : ServerCreate) (w : World Call State) {n : Nat}
    (asked : w.calls.count (.createServer session request) = n) :
    Attempted request.name w.state (serverOf env session request n).id { servers := [serverOf env session request n] }
      ((novaCreateServer session request).run env.backend.serve w) := by
  subst asked
  refine serve_attempted w ?_
  dsimp only [perform, createServer]
  rcases env.serverService.creation w.state _ request.name with ⟨servers, inserted, made⟩ | ⟨_, none⟩
  · rw [made]
    exact .inr ⟨_, rfl, { Adds.none request.name w.state with servers := Table.insert_rows inserted, names := rfl }⟩
  · rw [none]
    exact .inl ⟨_, rfl⟩

theorem createInstanceLifecycle_ok {record : LifecycleRecord}
    (answered : env.backend.upcoming w (.createInstanceLifecycle record) = .answered)
    (fresh : ∀ row ∈ w.state.cloud.lifecycle, row.instanceId ≠ record.instanceId) :
    ((createInstanceLifecycle record).run env.backend.serve w).1 = .ok () := by
  obtain ⟨lifecycle, inserted⟩ := Table.insert_of_fresh (t := w.state.cloud.lifecycle)
    (r := Lifecycle.newRow record.instanceId record.instanceName record.userId record.projectId record.userEmail
      record.createdAt record.expiresAt) fresh
  refine Backend.serve_result.mpr ⟨answered, ?_⟩
  simp only [Env.backend, perform, insertLifecycle, Lifecycle.createInstanceLifecycle, inserted]

variable (env name) in
theorem createInstanceLifecycle_attempted (record : LifecycleRecord) (w : World Call State) :
    Attempted name w.state () { lifecycle := [Lifecycle.newRow record.instanceId record.instanceName record.userId
        record.projectId record.userEmail record.createdAt record.expiresAt] }
      ((createInstanceLifecycle record).run env.backend.serve w) := by
  refine serve_attempted w ?_
  dsimp only [perform, insertLifecycle]
  split
  · next lifecycle inserted =>
    exact .inr ⟨_, rfl, { Adds.none name w.state with lifecycle := Table.insert_rows inserted }⟩
  · exact .inl ⟨_, rfl⟩

end

/-! ## Booting -/

/-- What comes of booting. -/
inductive Booted (env : Env) (conf : Conf) (lib : Lib) (session : KeystoneSession) (inst : InstanceCreate)
    (w : World Call State) : Except Exn String → World Call State → Prop
  | nothing {e : Exn} {w' : World Call State} (added : Adds inst.name w.state w'.state {}) :
      Booted env conf lib session inst w (.error e) w'
  /-- The root volume stays without a server. -/
  | volume {e : Exn} {w' : World Call State} (sized : Sized inst) (imaged : truthy? inst.imageId = true)
      (added : Adds inst.name w.state w'.state { volumes := rootVolumes env session inst w }) :
      Booted env conf lib session inst w (.error e) w'
  /-- The server is there, but the answer of Nova was lost. -/
  | lost {e : Exn} {w' : World Call State} (imaged : truthy? inst.imageId = true)
      (added : Adds inst.name w.state w'.state
        { volumes := rootVolumes env session inst w, servers := [newServer env conf lib session inst w] }) :
      Booted env conf lib session inst w (.error e) w'
  | server {w' : World Call State} (imaged : truthy? inst.imageId = true)
      (added : Adds inst.name w.state w'.state
        { volumes := rootVolumes env session inst w, servers := [newServer env conf lib session inst w] }) :
      Booted env conf lib session inst w (.ok (newServer env conf lib session inst w).id) w'

section
variable {env : Env} {conf : Conf} {lib : Lib} {session : KeystoneSession} {inst : InstanceCreate} {w w₁ w₂ : World Call State}

variable (env session) in
theorem awaitAvailable_state (id : String) (attempts : Nat) (w : World Call State) :
    ((awaitAvailable session id attempts).run env.backend.serve w).2.state = w.state := by
  refine Program.run_keeps (I := fun t => t.state = w.state) ?_ (awaitAvailable_polls session id attempts) w rfl
  rintro _ rfl t same
  rw [Backend.serve_state, same]
  split <;> rfl

/-- The server is made from the volumes that there are by then. -/
theorem novaCreateServer_booted (imaged : truthy? inst.imageId = true)
    (added : Adds inst.name w.state w₂.state { volumes := rootVolumes env session inst w })
    (count : w₂.calls.count (bootCall env conf lib session inst w) = w.calls.count (bootCall env conf lib session inst w))
    {r : Except Exn String} {w' : World Call State}
    (ran : (novaCreateServer session (bootRequest env conf lib session inst w)).run env.backend.serve w₂ = (r, w')) :
    Booted env conf lib session inst w r w' := by
  have named : (bootRequest env conf lib session inst w).name = inst.name := by
    unfold bootRequest
    split <;> rfl
  have attempted := novaCreateServer_attempted env session (bootRequest env conf lib session inst w) w₂ count
  rw [ran, named] at attempted
  rcases attempted with ⟨none, e, rfl⟩ | ⟨made, ⟨e, rfl⟩ | rfl⟩
  · by_cases sized : Sized inst
    · exact .volume sized imaged (by simpa [Added.append] using added.append none)
    · rw [rootVolumes, if_neg sized] at added
      exact .nothing (by simpa [Added.append] using added.append none)
  · exact .lost imaged (by simpa [Added.append, newServer] using added.append made)
  · exact .server imaged (by simpa [Added.append, newServer] using added.append made)

theorem bootWith_booted (sized : Sized inst) (imaged : truthy? inst.imageId = true)
    (added : Adds inst.name w.state w₂.state { volumes := rootVolumes env session inst w })
    (count : w₂.calls.count (bootCall env conf lib session inst w) = w.calls.count (bootCall env conf lib session inst w))
    {r : Except Exn String} {w' : World Call State}
    (ran : (VolumeLeak.bootWith conf lib session inst (password env w) (volumeId env session inst w)).run
      env.backend.serve w₂ = (r, w')) : Booted env conf lib session inst w r w' := by
  rw [VolumeLeak.bootWith, Program.run_bind] at ran
  have state := awaitAvailable_state env session (volumeId env session inst w) 120 w₂
  rcases waited : (awaitAvailable session (volumeId env session inst w) 120).run env.backend.serve w₂ with ⟨r₃, w₃⟩
  rw [waited] at state
  rw [← state] at added
  cases r₃ with
  | error e =>
    rw [Eff.bind_error waited] at ran
    cases ran
    exact .volume sized imaged added
  | ok _ =>
    have asked : serverRequest lib inst (password env w) conf.novaDefaultImageForVolumeBoot
        (some (volumeId env session inst w)) = bootRequest env conf lib session inst w := by
      rw [bootRequest, if_pos sized]
    rw [Eff.bind_ok waited, asked] at ran
    have counted : w₃.calls.count (bootCall env conf lib session inst w) =
        w₂.calls.count (bootCall env conf lib session inst w) :=
      Backend.uses_count (awaitAvailable_polls session _ 120) waited (by rintro ⟨⟩)
    exact novaCreateServer_booted imaged added (counted.trans count) ran

variable (conf lib session) in
/-- Once the password has been drawn, an instance without a volume is booted from its image. -/
theorem boot_from_image (drawn : env.backend.upcoming w .tokenUrlsafe = .answered) (unsized : ¬ Sized inst)
    (imaged : truthy? inst.imageId = true) : ∃ w₁, w₁.state = w.state ∧
      (∀ c, c ≠ .tokenUrlsafe → w₁.calls.count c = w.calls.count c) ∧
      (boot conf lib session inst).run env.backend.serve w =
        (novaCreateServer session (bootRequest env conf lib session inst w)).run env.backend.serve w₁ := by
  have token : env.backend.serve .tokenUrlsafe w = (.ok (password env w), ⟨w.state, w.calls ++ [.tokenUrlsafe]⟩) :=
    Backend.serve_answered drawn
  refine ⟨⟨w.state, w.calls ++ [.tokenUrlsafe]⟩, rfl, fun c other => ?_, ?_⟩
  · rw [List.count_append, List.count_singleton, if_neg (by simpa using Ne.symm other), Nat.add_zero]
  · rw [boot, Program.run_bind, Program.run_remote, Eff.bind_ok token, bootRequest, if_neg unsized]
    simp only [if_neg unsized, bootFromImage, if_pos imaged]

variable (conf lib session) in
/-- Without a password or an image, nothing is made. -/
theorem boot_nothing (without : ¬ (env.backend.upcoming w .tokenUrlsafe = .answered ∧ truthy? inst.imageId = true)) :
    ∃ e w', (boot conf lib session inst).run env.backend.serve w = (.error e, w') ∧ w'.state = w.state := by
  have state : (env.backend.serve .tokenUrlsafe w).2.state = w.state := by
    rw [Backend.serve_state]
    split <;> rfl
  rw [boot, Program.run_bind, Program.run_remote]
  rcases ran : env.backend.serve .tokenUrlsafe w with ⟨r, w₁⟩
  rw [ran] at state
  cases r with
  | error e =>
    rw [Eff.bind_error ran]
    exact ⟨e, w₁, rfl, state⟩
  | ok drawn =>
    have answered := (Backend.serve_result.mp (congrArg Prod.fst ran)).1
    have imageless : ¬ truthy? inst.imageId = true := fun imaged => without ⟨answered, imaged⟩
    rw [Eff.bind_ok ran]
    by_cases sized : Sized inst
    · simp only [if_pos sized, bootFromVolume, if_neg imageless]
      exact ⟨_, w₁, rfl, state⟩
    · simp only [if_neg sized, bootFromImage, if_neg imageless]
      exact ⟨_, w₁, rfl, state⟩

/-- Whatever becomes of its calls, booting makes a volume, and then a server, or it stops before. -/
theorem boot_booted {r : Except Exn String} {w' : World Call State}
    (ran : (boot conf lib session inst).run env.backend.serve w = (r, w')) : Booted env conf lib session inst w r w' := by
  by_cases ready : env.backend.upcoming w .tokenUrlsafe = .answered ∧ truthy? inst.imageId = true
  · obtain ⟨drawn, imaged⟩ := ready
    by_cases sized : Sized inst
    · obtain ⟨w₁, state₁, counts₁, same⟩ := VolumeLeak.boot_from_volume conf lib session drawn sized imaged
      have given : env.newVolumeId (volumeCall session inst) (w₁.calls.count (volumeCall session inst)) =
          volumeId env session inst w := by
        rw [counts₁ (volumeCall session inst) (by rintro ⟨⟩)]
        rfl
      have attempted := cinderCreateVolume_attempted env session (inst.name ++ "-root") (inst.volumeSize.getD 0)
        (inst.imageId.getD "") w₁ given inst.name
      have root : [rootVolume env session inst w] = rootVolumes env session inst w := by rw [rootVolumes, if_pos sized]
      rw [same, Program.run_bind] at ran
      rcases made : (cinderCreateVolume session (inst.name ++ "-root") (inst.volumeSize.getD 0)
        (inst.imageId.getD "")).run env.backend.serve w₁ with ⟨r₂, w₂⟩
      rw [made, state₁] at attempted
      rcases attempted with ⟨none, e, rfl⟩ | ⟨added, ⟨e, rfl⟩ | rfl⟩
      · rw [Eff.bind_error made] at ran
        cases ran
        exact .nothing none
      · rw [Eff.bind_error made] at ran
        cases ran
        exact .volume sized imaged (root ▸ added)
      · rw [Eff.bind_ok made] at ran
        refine bootWith_booted sized imaged (root ▸ added) ?_ ran
        have counted : w₂.calls.count (bootCall env conf lib session inst w) =
            w₁.calls.count (bootCall env conf lib session inst w) :=
          Backend.uses_count (VolumeLeak.cinderCreateVolume_asks session _ _ _) made (by rintro ⟨⟩)
        exact counted.trans (counts₁ _ (by rintro ⟨⟩))
    · obtain ⟨w₁, state₁, counts₁, same⟩ := boot_from_image conf lib session drawn sized imaged
      rw [same] at ran
      refine novaCreateServer_booted imaged ?_ (counts₁ _ (by rintro ⟨⟩)) ran
      rw [rootVolumes, if_neg sized, state₁]
      exact .none inst.name w.state
  · obtain ⟨e, w₁, same, state⟩ := boot_nothing conf lib session ready
    rw [same] at ran
    cases ran
    exact .nothing (.of_same state)

end

/-! ## Networking and registration -/


section
variable {env : Env} {conf : Conf} {lib : Lib} {profile : Profile} {name : String} {w w' : World Call State}

/-- The address that networking finds is the first fixed one of the server. -/
theorem addressFound_server {server : Cloud.Server} {ip : String} (there : server ∈ w.state.cloud.servers)
    (found : addressFound env profile server.id w = some ip) :
    Clients.firstFixedIp server.addresses = some ip ∧ truthy ip = true := by
  unfold addressFound at found
  split at found
  · unfold addressSeen at found
    split at found
    · next other seen =>
      split at found
      · obtain ⟨first, long⟩ := Option.filter_eq_some_iff.mp found
        obtain ⟨member, same⟩ := Cloud.findServer_ok seen
        rw [Table.eq_of_key there member same.symm]
        exact ⟨first, long⟩
      · cases found
    · cases found
  · cases found

variable (profile) in
theorem setup_adds {least most : Nat} (each : Copies env name least most)
    (serverId serverName : String) (additionalPorts : Option (List PortForwardingRule)) (w : World Call State) :
    ∃ rules, Adds name w.state
        ((setupInstanceNetworking serverId serverName profile additionalPorts).run env.backend.serve w).2.state
        { rules := rules } ∧
      match addressFound env profile serverId w with
      | some ip => Forwarded least most (payloads serverId serverName ip additionalPorts) rules
      | none => rules = [] := by
  cases found : addressFound env profile serverId w with
  | none => exact ⟨[], .of_same (Forwards.setup_none found), rfl⟩
  | some ip =>
    obtain ⟨w₁, state, -, same⟩ := Forwards.setup_some serverName additionalPorts found
    obtain ⟨rules, added, forwarded⟩ := forwards_add each (payloads serverId serverName ip additionalPorts) w₁
    rw [same, ← state]
    exact ⟨rules, added, forwarded⟩

variable (env) in
/-- A call that changes nothing fails, or gives what there is to what comes after it. -/
theorem read_run {c : Call} (reads : ∀ n s, (perform env n s c).2 = s) {α : Type} (f : Answer c → Remote α)
    (w : World Call State) : ∃ w₁, w₁.state = w.state ∧ (∀ d, c ≠ d → w₁.calls.count d = w.calls.count d) ∧
      ((∃ e, (Program.remote c >>= f : Remote α).run env.backend.serve w = (.error e, w₁) ∧
          ∀ a, (perform env (w.calls.count c) w.state c).1 = .ok a → env.backend.upcoming w c ≠ .answered) ∨
        ∃ a, (perform env (w.calls.count c) w.state c).1 = .ok a ∧
          (Program.remote c >>= f : Remote α).run env.backend.serve w = (f a).run env.backend.serve w₁) := by
  have state : (env.backend.serve c w).2.state = w.state := by
    rw [Backend.serve_state]
    split
    · exact reads _ _
    · rfl
  have counts : ∀ d, c ≠ d → (env.backend.serve c w).2.calls.count d = w.calls.count d :=
    fun d other => Backend.count_other other w
  have result (a : Answer c) : (env.backend.serve c w).1 = .ok a ↔ _ := Backend.serve_result
  rcases served : env.backend.serve c w with ⟨r, w₁⟩
  rw [served] at state counts result
  refine ⟨w₁, state, counts, ?_⟩
  rw [Program.run_bind, Program.run_remote]
  cases r with
  | error e => exact .inl ⟨e, Eff.bind_error served, fun a given answered => nomatch (result a).mpr ⟨answered, given⟩⟩
  | ok a => exact .inr ⟨a, ((result a).mp rfl).2, Eff.bind_ok served⟩

/-- What registration does with a server whose project is managed. -/
def recording (conf : Conf) (lib : Lib) (profile : Profile) (serverId instanceName : String) : Remote Unit := do
  let lifetimeRow ← .remote (Call.getSetting "instance_lifetime_days" : Call)
  let lifetimeDays ← .done ((lifetimeRow.map lib.int).getD (.ok conf.instanceLifetimeDays))
  let nowTs ← .remote (Call.time : Call)
  createInstanceLifecycle {
    instanceId := serverId
    instanceName := instanceName
    userId := profile.user.id
    projectId := profile.project.id
    userEmail := orElse profile.user.email ""
    createdAt := nowTs
    expiresAt := nowTs + lifetimeDays * 86400 }

variable (env conf lib profile name) in
/-- The row is inserted, unless something stands in its way. -/
theorem recording_adds (serverId instanceName : String) (w : World Call State) :
    ∃ rows, Adds name w.state ((recording conf lib profile serverId instanceName).run env.backend.serve w).2.state
        { lifecycle := rows } ∧
      (rows = [] ∨ ∃ days, lifetimeDays conf lib w.state.settings = .ok days ∧
        rows = [lifecycleRow profile serverId instanceName (env.time (w.calls.count .time)) days]) ∧
      ((∀ c n, ¬ c.Waits → env.delivery c n = .answered) → (∀ row ∈ w.state.cloud.lifecycle, row.instanceId ≠ serverId) →
        (∃ days, lifetimeDays conf lib w.state.settings = .ok days) → rows ≠ []) := by
  rw [recording]
  obtain ⟨w₁, state₁, counts₁, ⟨e, ran, unanswered⟩ | ⟨lifetime, known, ran⟩⟩ :=
    read_run env (c := .getSetting "instance_lifetime_days") (fun _ _ => rfl) _ w
  · exact ⟨[], .of_same (by rw [ran]; exact state₁), .inl rfl, fun answered => (unanswered _ rfl (answered _ _ id)).elim⟩
  · obtain rfl : lifetime = w.state.settings "instance_lifetime_days" := (Except.ok.inj known).symm
    have parses : ((w.state.settings "instance_lifetime_days").map lib.int).getD (.ok conf.instanceLifetimeDays) =
      lifetimeDays conf lib w.state.settings := rfl
    rw [ran, parses, Program.run_bind]
    cases parsed : lifetimeDays conf lib w.state.settings with
    | error e => exact ⟨[], .of_same state₁, .inl rfl, fun _ _ given => nomatch given⟩
    | ok days =>
      rw [Eff.bind_ok (show (Program.done (.ok days) : Remote Int).run env.backend.serve w₁ = (.ok days, w₁) from rfl)]
      obtain ⟨w₂, state₂, counts₂, ⟨e, ran₂, unanswered⟩ | ⟨now, known₂, ran₂⟩⟩ :=
        read_run env (c := .time) (fun _ _ => rfl) _ w₁
      · exact ⟨[], .of_same (by rw [ran₂]; exact state₂.trans state₁), .inl rfl,
          fun answered => (unanswered _ rfl (answered _ _ id)).elim⟩
      · obtain rfl : now = env.time (w.calls.count .time) := by
          rw [← counts₁ .time (by rintro ⟨⟩)]
          exact (Except.ok.inj known₂).symm
        have attempted := createInstanceLifecycle_attempted env name ⟨serverId, instanceName, profile.user.id,
          profile.project.id, orElse profile.user.email "", env.time (w.calls.count .time),
          env.time (w.calls.count .time) + days * 86400⟩ w₂
        rw [ran₂, ← state₁, ← state₂]
        rcases attempted with ⟨none, e, failed⟩ | ⟨added, -⟩
        · refine ⟨[], none, .inl rfl, fun answered fresh _ => ?_⟩
          exact nomatch failed.symm.trans (createInstanceLifecycle_ok (answered _ _ id) fresh)
        · exact ⟨_, added, .inr ⟨days, rfl, rfl⟩, fun _ _ _ => List.cons_ne_nil _ _⟩

variable (env conf lib profile name) in
/-- The registration of a server gives it a lifecycle row at most, where instances of its
    project are managed, and it does where nothing stands in its way. -/
theorem registerLifecycle_adds (serverId instanceName : String) (w : World Call State) :
    ∃ rows, Adds name w.state
        ((registerLifecycle conf lib profile serverId instanceName).run env.backend.serve w).2.state { lifecycle := rows } ∧
      (rows = [] ∨ managed conf lib profile w.state.settings = true ∧ ∃ days,
        lifetimeDays conf lib w.state.settings = .ok days ∧
          rows = [lifecycleRow profile serverId instanceName (env.time (w.calls.count .time)) days]) ∧
      ((∀ c n, ¬ c.Waits → env.delivery c n = .answered) → (∀ row ∈ w.state.cloud.lifecycle, row.instanceId ≠ serverId) →
        (∃ days, lifetimeDays conf lib w.state.settings = .ok days) → managed conf lib profile w.state.settings = true →
          rows ≠ []) := by
  have unfolded : registerLifecycle conf lib profile serverId instanceName = .ignoring (do
      let lcEnabledRow ← .remote (Call.getSetting "instance_lifecycle_enabled" : Call)
      if ((lcEnabledRow.map lib.truth).getD conf.instanceLifecycleEnabled) = true ∧ profile.project.name ≠ conf.systemProject
        then recording conf lib profile serverId instanceName else pure ()) := rfl
  rw [unfolded, Program.run_ignoring]
  obtain ⟨w₁, state₁, counts₁, ⟨e, ran, unanswered⟩ | ⟨enabled, known, ran⟩⟩ :=
    read_run env (c := .getSetting "instance_lifecycle_enabled") (fun _ _ => rfl) _ w
  · exact ⟨[], .of_same (by rw [ran]; exact state₁), .inl rfl, fun answered => (unanswered _ rfl (answered _ _ id)).elim⟩
  · obtain rfl : enabled = w.state.settings "instance_lifecycle_enabled" := (Except.ok.inj known).symm
    have manages : (((w.state.settings "instance_lifecycle_enabled").map lib.truth).getD conf.instanceLifecycleEnabled = true ∧
        profile.project.name ≠ conf.systemProject) ↔ managed conf lib profile w.state.settings = true := by
      simp [managed]
    rw [ran, Program.run_ite]
    by_cases under : managed conf lib profile w.state.settings = true
    · obtain ⟨rows, added, row, recorded⟩ := recording_adds env conf lib profile name serverId
        instanceName w₁
      rw [if_pos (manages.mpr under)]
      rw [state₁] at added row recorded
      rw [counts₁ .time (by rintro ⟨⟩)] at row
      exact ⟨rows, added, row.imp_right fun made => ⟨under, made⟩, fun answered fresh given _ => recorded answered fresh given⟩
    · rw [if_neg (mt manages.mp under)]
      exact ⟨[], .of_same state₁, .inl rfl, fun _ _ _ manages => absurd manages under⟩

end

/-! ## What provisioning makes -/

/-- How far provisioning gets. -/
inductive Made (env : Env) (conf : Conf) (lib : Lib) (session : KeystoneSession) (profile : Profile) (inst : InstanceCreate)
    (w : World Call State) : Added → Prop
  | nothing : Made env conf lib session profile inst w {}
  | volume (sized : Sized inst) (imaged : truthy? inst.imageId = true) :
      Made env conf lib session profile inst w { volumes := rootVolumes env session inst w }
  /-- Each POST has made up to three rules, and the row may be missing. -/
  | server {rules : List Proxy.Rule} {rows : List Lifecycle.Row} (imaged : truthy? inst.imageId = true)
      (forwarded : rules = [] ∨ ∃ ip, Clients.firstFixedIp (newServer env conf lib session inst w).addresses = some ip ∧
        truthy ip = true ∧
        Forwarded 0 3 (payloads (newServer env conf lib session inst w).id inst.name ip inst.additionalPorts) rules)
      (registered : rows = [] ∨ managed conf lib profile w.state.settings = true ∧ ∃ days,
        lifetimeDays conf lib w.state.settings = .ok days ∧ rows =
          [lifecycleRow profile (newServer env conf lib session inst w).id inst.name (env.time (w.calls.count .time)) days]) :
      Made env conf lib session profile inst w {
        volumes := rootVolumes env session inst w
        servers := [newServer env conf lib session inst w]
        rules := rules
        lifecycle := rows }

/-- Calls of booting. -/
def Asks : Call → Prop
  | .tokenUrlsafe | .createVolume _ _ _ _ | .getVolumeStatus _ _ | .createServer _ _ => True
  | _ => False

section
variable {env : Env} {conf : Conf} {lib : Lib} {session : KeystoneSession} {profile : Profile} {inst : InstanceCreate}
  {w w₁ : World Call State}

theorem boot_asks (conf : Conf) (lib : Lib) (session : KeystoneSession) (inst : InstanceCreate) :
    (boot conf lib session inst).Uses Asks := by
  have waiting (id : String) : (awaitAvailable session id 120).Uses Asks := by
    refine (awaitAvailable_polls session id 120).mono ?_
    rintro _ rfl
    exact trivial
  refine .bind (.remote trivial) fun drawn => .ite (.ite ?_ (.raise _)) (.ite (.remote trivial) (.raise _))
  exact .bind (.attempt (.remote trivial) fun _ => .raise _) fun id => .bind (waiting id) fun _ => .remote trivial

variable (env profile w) in
theorem setup_ok (serverId serverName : String) (additionalPorts : Option (List PortForwardingRule))
    (opens : env.backend.upcoming w (.cloud (.generateSession profile.keystoneToken profile.project.id)) = .answered) :
    ((setupInstanceNetworking serverId serverName profile additionalPorts).run env.backend.serve w).1 = .ok () := by
  have opened := (Forwards.sessionOf_result env profile w (.user profile.keystoneToken profile.project.id)).mpr ⟨opens, rfl⟩
  rcases ran : (ofCloud (Clients.sessionOf profile)).run env.backend.serve w with ⟨r, w₁⟩
  rw [ran] at opened
  obtain rfl : r = .ok _ := opened
  rw [setupInstanceNetworking, Program.run_bind, Eff.bind_ok ran, Program.run_ignoring]

variable (profile inst) in
/-- What provisioning adds once there is a server. -/
theorem rest_adds {name : String} {least most : Nat} (each : Copies env name least most)
    (conf : Conf) (lib : Lib) (serverId : String) (w : World Call State) :
    ∃ rules rows, Adds name w.state ((VolumeLeak.rest conf lib profile inst serverId).run env.backend.serve w).2.state
        { rules := rules, lifecycle := rows } ∧
      (match addressFound env profile serverId w with
        | some ip => Forwarded least most (payloads serverId inst.name ip inst.additionalPorts) rules
        | none => rules = []) ∧
      (rows = [] ∨ managed conf lib profile w.state.settings = true ∧ ∃ days,
        lifetimeDays conf lib w.state.settings = .ok days ∧
          rows = [lifecycleRow profile serverId inst.name (env.time (w.calls.count .time)) days]) ∧
      ((∀ c n, ¬ c.Waits → env.delivery c n = .answered) →
        env.backend.upcoming w (.cloud (.generateSession profile.keystoneToken profile.project.id)) = .answered →
          (∀ row ∈ w.state.cloud.lifecycle, row.instanceId ≠ serverId) →
            (∃ days, lifetimeDays conf lib w.state.settings = .ok days) →
              managed conf lib profile w.state.settings = true → rows ≠ []) := by
  obtain ⟨rules, added, forwarded⟩ := setup_adds profile each serverId inst.name inst.additionalPorts w
  have ends := setup_ok env profile w serverId inst.name inst.additionalPorts
  rcases ran : (setupInstanceNetworking serverId inst.name profile inst.additionalPorts).run env.backend.serve w with ⟨r, w₁⟩
  have counted : w₁.calls.count .time = w.calls.count .time := by
    refine Backend.uses_count (setupInstanceNetworking_networks serverId inst.name profile inst.additionalPorts) ran ?_
    rintro (waits | ⟨_, _, ⟨⟩⟩)
    exact waits
  rw [ran] at added ends
  rw [VolumeLeak.rest, Program.run_bind]
  cases r with
  | error e =>
    rw [Eff.bind_error ran]
    exact ⟨rules, [], added, forwarded, .inl rfl, fun _ opens => nomatch ends opens⟩
  | ok _ =>
    obtain ⟨rows, registered, row, makes⟩ := registerLifecycle_adds env conf lib profile name serverId
      inst.name w₁
    have lifecycle : w₁.state.cloud.lifecycle = w.state.cloud.lifecycle :=
      Table.ext_rows (added.lifecycle.trans (List.append_nil _))
    rw [counted, added.settings] at row
    rw [added.settings, lifecycle] at makes
    rw [Eff.bind_ok ran]
    exact ⟨rules, rows, by simpa [Added.append] using added.append registered, forwarded, row,
      fun answered _ => makes answered⟩

theorem server_there {added : Added} (adds : Adds inst.name w.state w₁.state added)
    (made : newServer env conf lib session inst w ∈ added.servers) :
    newServer env conf lib session inst w ∈ w₁.state.cloud.servers := by
  rw [Table.mem_rows, adds.servers]
  exact List.mem_append_right _ made

/-- Whatever becomes of its calls, provisioning adds a volume, a server with it, rules that
    lead to the server, and its lifecycle row, in this order, or stops before; it changes
    nothing else. -/
theorem provisionInstance_makes (env : Env) (conf : Conf) (lib : Lib) (session : KeystoneSession) (profile : Profile)
    (inst : InstanceCreate) (w : World Call State) :
    ∃ added, Made env conf lib session profile inst w added ∧ Adds inst.name w.state
      ((provisionInstance conf lib session profile inst).run env.backend.serve w).2.state added := by
  have unfolded : provisionInstance conf lib session profile inst =
    .ignoring (boot conf lib session inst >>= VolumeLeak.rest conf lib profile inst) := rfl
  rw [unfolded, Program.run_ignoring, Program.run_bind]
  rcases booted : (boot conf lib session inst).run env.backend.serve w with ⟨r, w₁⟩
  have counted₁ : w₁.calls.count .time = w.calls.count .time := Backend.uses_count (boot_asks conf lib session inst) booted id
  cases boot_booted booted with
  | nothing added =>
    rw [Eff.bind_error booted]
    exact ⟨_, .nothing, added⟩
  | volume sized imaged added =>
    rw [Eff.bind_error booted]
    exact ⟨_, .volume sized imaged, added⟩
  | lost imaged added =>
    rw [Eff.bind_error booted]
    exact ⟨_, .server imaged (.inl rfl) (.inl rfl), added⟩
  | server imaged added =>
    obtain ⟨rules, rows, later, forwarded, registered, -⟩ := rest_adds profile inst (copies_few env inst.name) conf
      lib (newServer env conf lib session inst w).id w₁
    rw [counted₁, added.settings] at registered
    rw [Eff.bind_ok booted]
    refine ⟨_, .server imaged ?_ registered, by simpa [Added.append] using added.append later⟩
    cases found : addressFound env profile (newServer env conf lib session inst w).id w₁ with
    | none =>
      rw [found] at forwarded
      exact .inl forwarded
    | some ip =>
      rw [found] at forwarded
      obtain ⟨first, long⟩ := addressFound_server (server_there added (List.mem_singleton_self _)) found
      exact .inr ⟨ip, first, long, forwarded⟩

end

/-! ## Where nothing stands in the way -/

/-- Nothing stands in the way of a request: its calls go through (but for those that wait for
    the server), the volume becomes available and the server active in time, the server gets
    this address, and all ids are fresh. -/
structure Unhindered (env : Env) (conf : Conf) (lib : Lib) (profile : Profile) (inst : InstanceCreate) (w : World Call State)
    (session : KeystoneSession) (ip : String) (days : Int) : Prop where
  answered : ∀ c n, ¬ c.Waits → env.delivery c n = .answered
  opens : env.backend.upcoming w (.cloud (.generateSession profile.keystoneToken profile.project.id)) = .answered
  visible : env.cloud.sees session (env.projectOf session) = true
  imaged : truthy? inst.imageId = true
  volumeFresh : ∀ v ∈ rootVolumes env session inst w, ∀ other ∈ w.state.volumes, other.id ≠ v.id
  available : ∀ v ∈ rootVolumes env session inst w,
    becomesAvailable env session v.id 120 (w.calls.count (.getVolumeStatus session v.id)) = true
  serverFresh : ∀ other ∈ w.state.cloud.servers, other.id ≠ (newServer env conf lib session inst w).id
  active : becomesActive env session (newServer env conf lib session inst w).id 60
    (w.calls.count (statusCall session (newServer env conf lib session inst w).id)) = true
  shown : showsAddresses env session (newServer env conf lib session inst w).id 10
    (w.calls.count (addressCall session (newServer env conf lib session inst w).id)) = true
  first : Clients.firstFixedIp (newServer env conf lib session inst w).addresses = some ip
  long : truthy ip = true
  rowFresh : ∀ row ∈ w.state.cloud.lifecycle, row.instanceId ≠ (newServer env conf lib session inst w).id
  lifetime : lifetimeDays conf lib w.state.settings = .ok days

section
variable {env : Env} {conf : Conf} {lib : Lib} {profile : Profile} {inst : InstanceCreate} {w w₁ : World Call State}
  {session : KeystoneSession} {ip : String} {days : Int}

theorem createServer_ok {request : ServerCreate} {n : Nat} {s : State}
    (fresh : ∀ other ∈ s.cloud.servers, other.id ≠ (serverOf env session request n).id) :
    (createServer env n s session request).1 = .ok (serverOf env session request n).id := by
  obtain ⟨servers, inserted⟩ := Table.insert_of_fresh (t := s.cloud.servers) (r := serverOf env session request n) fresh
  have inserted : s.cloud.servers.insert ⟨env.newServerId (.createServer session request) n, env.projectOf session,
    env.addresses (.createServer session request) n, request.vda.toList⟩ = some servers := inserted
  rw [createServer, env.serverService.creates inserted]
  rfl

theorem Unhindered.upcoming (unhindered : Unhindered env conf lib profile inst w session ip days) (w : World Call State)
    {c : Call} (works : ¬ c.Waits) : env.backend.upcoming w c = .answered := unhindered.answered c _ works

theorem Unhindered.copies (unhindered : Unhindered env conf lib profile inst w session ip days) :
    Copies env inst.name 1 1 := by
  intro payload v
  obtain ⟨copies, added, -, each, once⟩ := forward_adds env inst.name payload v
  obtain ⟨atLeast, atMost⟩ := once (unhindered.upcoming v id)
  exact ⟨copies, added, atLeast, atMost, each⟩

theorem Unhindered.creates (unhindered : Unhindered env conf lib profile inst w session ip days)
    (servers : w₁.state.cloud.servers = w.state.cloud.servers)
    (counted : w₁.calls.count (bootCall env conf lib session inst w) = w.calls.count (bootCall env conf lib session inst w)) :
    ((novaCreateServer session (bootRequest env conf lib session inst w)).run env.backend.serve w₁).1 =
      .ok (newServer env conf lib session inst w).id := by
  refine Backend.serve_result.mpr ⟨unhindered.upcoming w₁ id, ?_⟩
  show (createServer env (w₁.calls.count (bootCall env conf lib session inst w)) w₁.state session _).1 = _
  rw [counted]
  exact createServer_ok (by rw [servers]; exact unhindered.serverFresh)

theorem Unhindered.bootsWith (unhindered : Unhindered env conf lib profile inst w session ip days) (sized : Sized inst)
    {volume : Volume} (owned : volume.projectId = env.projectOf session)
    (there : w₁.state.volumes.find (volumeId env session inst w) = some volume)
    (servers : w₁.state.cloud.servers = w.state.cloud.servers)
    (counts : ∀ c, c ≠ .tokenUrlsafe → c ≠ volumeCall session inst → w₁.calls.count c = w.calls.count c) :
    ((VolumeLeak.bootWith conf lib session inst (password env w) (volumeId env session inst w)).run
      env.backend.serve w₁).1 = .ok (newServer env conf lib session inst w).id := by
  have member : rootVolume env session inst w ∈ rootVolumes env session inst w := by
    rw [rootVolumes, if_pos sized]
    exact List.mem_singleton_self _
  have asked : serverRequest lib inst (password env w) conf.novaDefaultImageForVolumeBoot
      (some (volumeId env session inst w)) = bootRequest env conf lib session inst w := by
    rw [bootRequest, if_pos sized]
  have waits := VolumeLeak.awaitAvailable_ok env (by rw [owned]; exact unhindered.visible) 120 there
  rw [counts (.getVolumeStatus session (volumeId env session inst w)) (by rintro ⟨⟩) (by rintro ⟨⟩)] at waits
  have ended := waits.mpr (unhindered.available _ member)
  have state := awaitAvailable_state env session (volumeId env session inst w) 120 w₁
  rcases ran : (awaitAvailable session (volumeId env session inst w) 120).run env.backend.serve w₁ with ⟨r, w₂⟩
  rw [ran] at ended state
  obtain rfl : r = .ok () := ended
  have counted : w₂.calls.count (bootCall env conf lib session inst w) =
      w₁.calls.count (bootCall env conf lib session inst w) :=
    Backend.uses_count (awaitAvailable_polls session _ 120) ran (by rintro ⟨⟩)
  rw [VolumeLeak.bootWith, Program.run_bind, Eff.bind_ok ran, asked]
  exact unhindered.creates (by rw [state, servers]) (counted.trans (counts _ (by rintro ⟨⟩) (by rintro ⟨⟩)))

theorem Unhindered.boots (unhindered : Unhindered env conf lib profile inst w session ip days) :
    ((boot conf lib session inst).run env.backend.serve w).1 = .ok (newServer env conf lib session inst w).id := by
  have drawn : env.backend.upcoming w .tokenUrlsafe = .answered := unhindered.upcoming w id
  by_cases sized : Sized inst
  · obtain ⟨w₁, state₁, counts₁, same⟩ := VolumeLeak.boot_from_volume conf lib session drawn sized unhindered.imaged
    have member : rootVolume env session inst w ∈ rootVolumes env session inst w := by
      rw [rootVolumes, if_pos sized]
      exact List.mem_singleton_self _
    obtain ⟨volumes, volume, created, named, owned, there⟩ := VolumeLeak.createVolume_fresh
      (unhindered.volumeFresh _ member)
    have counted := counts₁ (volumeCall session inst) (by rintro ⟨⟩)
    have ok := (VolumeLeak.cinderCreateVolume_ok env session (inst.name ++ "-root") (inst.volumeSize.getD 0)
      (inst.imageId.getD "") w₁ (volumeId env session inst w)).mpr
      ⟨unhindered.upcoming w₁ id, by rw [counted, state₁, created]; rfl⟩
    have state := VolumeLeak.cinderCreateVolume_state env session (inst.name ++ "-root") (inst.volumeSize.getD 0)
      (inst.imageId.getD "") w₁
    rw [unhindered.upcoming w₁ id, Delivery.arrives, if_pos rfl, counted, state₁, created] at state
    rcases made : (cinderCreateVolume session (inst.name ++ "-root") (inst.volumeSize.getD 0)
      (inst.imageId.getD "")).run env.backend.serve w₁ with ⟨r, w₂⟩
    rw [made] at ok state
    obtain rfl : r = .ok _ := ok
    replace state : w₂.state = { w.state with volumes } := state
    rw [same, Program.run_bind, Eff.bind_ok made]
    refine unhindered.bootsWith sized owned ?_ (by rw [state]) fun c drawn other => ?_
    · rw [state]
      exact Table.find_eq_some.mpr ⟨there, named⟩
    · rw [Backend.uses_count (VolumeLeak.cinderCreateVolume_asks session _ _ _) made other, counts₁ c drawn]
  · obtain ⟨w₁, state₁, counts₁, same⟩ := boot_from_image conf lib session drawn sized unhindered.imaged
    rw [same]
    exact unhindered.creates (by rw [state₁]) (counts₁ _ (by rintro ⟨⟩))

theorem Unhindered.opened (unhindered : Unhindered env conf lib profile inst w session ip days)
    (counts : ∀ c : Call, ¬ Asks c → w₁.calls.count c = w.calls.count c) :
    env.backend.upcoming w₁ (.cloud (.generateSession profile.keystoneToken profile.project.id)) = .answered := by
  rw [Backend.upcoming, counts _ id]
  exact unhindered.opens

theorem Unhindered.addressed (unhindered : Unhindered env conf lib profile inst w (ownSession profile) ip days)
    (there : newServer env conf lib (ownSession profile) inst w ∈ w₁.state.cloud.servers)
    (counts : ∀ c : Call, ¬ Asks c → w₁.calls.count c = w.calls.count c) :
    addressFound env profile (newServer env conf lib (ownSession profile) inst w).id w₁ = some ip := by
  have found : Cloud.findServer (env.cloud.sees (ownSession profile)) w₁.state.cloud.servers
      (newServer env conf lib (ownSession profile) inst w).id = .ok (newServer env conf lib (ownSession profile) inst w) := by
    rw [Cloud.findServer, Table.find_eq_some.mpr ⟨there, rfl⟩]
    exact if_pos unhindered.visible
  have active := unhindered.active
  have shown := unhindered.shown
  rw [← counts _ id] at active shown
  rw [addressFound, if_pos (unhindered.opened counts), addressSeen, found]
  simp only [active, shown, Bool.and_self, if_true, unhindered.first, Option.filter_some, unhindered.long]

/-- The task of a request that is accepted acts for whoever made it. -/
theorem createInstance_task {accepted : Accepted} {task : Task}
    (requested : ((createInstance inst profile).run env.backend.serve w).1 = .ok (accepted, task)) :
    task = ⟨ownSession profile, profile, inst, accepted.requestId⟩ := by
  rcases ran : (createInstance inst profile).run env.backend.serve w with ⟨r, w'⟩
  rw [ran] at requested
  obtain rfl : r = .ok (accepted, task) := requested
  rw [createInstance, Program.run_bind] at ran
  obtain ⟨session, w₁, opened, rest⟩ := Eff.of_bind_ok ran
  obtain ⟨-, rfl⟩ := (Forwards.sessionOf_result env profile w session).mp (congrArg Prod.fst opened)
  rw [Program.run_bind] at rest
  obtain ⟨servers, w₂, -, rest⟩ := Eff.of_bind_ok rest
  rw [Program.run_ite] at rest
  split at rest
  · cases rest
  · rw [Program.run_bind] at rest
    obtain ⟨requestId, w₃, -, rest⟩ := Eff.of_bind_ok rest
    rw [Program.run_bind] at rest
    obtain ⟨_, w₄, -, rest⟩ := Eff.of_bind_ok rest
    cases rest
    rfl

/-- Where nothing stands in the way, the task of a request that was accepted makes exactly
    what was asked for, whatever came between: the root volume, the server, one rule for each
    port in order, and the lifecycle row of a project whose instances are managed. -/
theorem provisionInstance_delivers (env : Env) (conf : Conf) (lib : Lib) (inst : InstanceCreate) (profile : Profile)
    (before w : World Call State) (accepted : Accepted) (task : Task) (ip : String) (days : Int)
    (requested : ((createInstance inst profile).run env.backend.serve before).1 = .ok (accepted, task))
    (unhindered : Unhindered env conf lib profile inst w (ownSession profile) ip days) :
    ∃ rules, Forwarded 1 1
        (payloads (newServer env conf lib (ownSession profile) inst w).id inst.name ip inst.additionalPorts) rules ∧
      Adds inst.name w.state
        ((provisionInstance conf lib task.session task.profile task.inst).run env.backend.serve w).2.state {
          volumes := rootVolumes env (ownSession profile) inst w
          servers := [newServer env conf lib (ownSession profile) inst w]
          rules := rules
          lifecycle := if managed conf lib profile w.state.settings then
            [lifecycleRow profile (newServer env conf lib (ownSession profile) inst w).id inst.name
              (env.time (w.calls.count .time)) days] else [] } := by
  obtain rfl := createInstance_task requested
  have unfolded : provisionInstance conf lib (ownSession profile) profile inst =
    .ignoring (boot conf lib (ownSession profile) inst >>= VolumeLeak.rest conf lib profile inst) := rfl
  rw [unfolded, Program.run_ignoring, Program.run_bind]
  have boots := unhindered.boots
  rcases booted : (boot conf lib (ownSession profile) inst).run env.backend.serve w with ⟨r, w₁⟩
  have counts : ∀ c : Call, ¬ Asks c → w₁.calls.count c = w.calls.count c :=
    fun c other => Backend.uses_count (boot_asks conf lib (ownSession profile) inst) booted other
  rw [booted] at boots
  obtain rfl : r = .ok _ := boots
  obtain ⟨imaged, added⟩ : truthy? inst.imageId = true ∧ Adds inst.name w.state w₁.state {
      volumes := rootVolumes env (ownSession profile) inst w
      servers := [newServer env conf lib (ownSession profile) inst w] } := by
    cases boot_booted booted with
    | server imaged added => exact ⟨imaged, added⟩
  obtain ⟨rules, rows, later, forwarded, registered, makes⟩ := rest_adds profile inst unhindered.copies conf lib
    (newServer env conf lib (ownSession profile) inst w).id w₁
  have lifecycle : w₁.state.cloud.lifecycle = w.state.cloud.lifecycle :=
    Table.ext_rows (added.lifecycle.trans (List.append_nil _))
  rw [unhindered.addressed (server_there added (List.mem_singleton_self _)) counts] at forwarded
  rw [counts .time id, added.settings] at registered
  rw [added.settings, lifecycle] at makes
  rw [Eff.bind_ok booted]
  refine ⟨rules, forwarded, ?_⟩
  have row : rows = if managed conf lib profile w.state.settings then
      [lifecycleRow profile (newServer env conf lib (ownSession profile) inst w).id inst.name
        (env.time (w.calls.count .time)) days] else [] := by
    rcases registered with none | ⟨under, days', parsed, same⟩
    · have unmanaged : ¬ managed conf lib profile w.state.settings = true := fun under =>
        makes unhindered.answered (unhindered.opened counts) unhindered.rowFresh ⟨days, unhindered.lifetime⟩ under none
      rw [if_neg unmanaged, none]
    · obtain rfl : days' = days := Except.ok.inj (parsed.symm.trans unhindered.lifetime)
      rw [if_pos under, same]
  rw [← row]
  simpa [Added.append] using added.append later

end

theorem web_unhindered : Unhindered serving defaults ascii Session.member web settled (ownSession Session.member) "10.0.0.9"
    30 where
  answered _ _ _ := rfl
  opens := rfl
  visible := by decide
  imaged := by decide
  volumeFresh _ _ other member := (Table.not_mem_empty other member).elim
  available v member := by
    rw [List.mem_singleton.mp member]
    rfl
  serverFresh := by decide
  active := rfl
  shown := rfl
  first := rfl
  long := by decide
  rowFresh := by decide
  lifetime := rfl

theorem web_delivered :
    ∃ rules, Forwarded 1 1 (payloads "server-0" "web" "10.0.0.9" (some [⟨⟨80, by decide⟩, ⟨8080, by decide⟩, .tcp⟩])) rules ∧
      Adds "web" settled.state
        ((provisionInstance defaults ascii memberSession Session.member web).run serving.backend.serve settled).2.state {
          volumes := [⟨"volume-0", "project", "web-root", 10, "image"⟩]
          servers := [⟨"server-0", "project", [("net", [⟨"10.0.0.9", "fixed"⟩])], ["volume-0"]⟩]
          rules := rules
          lifecycle := [lifecycleRow Session.member "server-0" "web" 1700000000 30] } :=
  provisionInstance_delivers serving defaults ascii web Session.member settled settled ⟨"request-0", "PENDING", "web"⟩
    ⟨ownSession Session.member, Session.member, web, "request-0"⟩ "10.0.0.9" 30 rfl web_unhindered

end Skyline.Provisioned
