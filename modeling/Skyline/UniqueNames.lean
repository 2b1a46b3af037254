import Skyline.Provisioning
import Skyline.Threads

/-!
The names of a project's servers. `create_instance` refuses a name that a server of the
project has, and leaves it to a background task to make the server, minutes later: until
then nothing keeps the name. So two requests for one name may both find it free, and both
tasks make their server.

The name is given to Nova as a regular expression, `^name$`. Where the name does not match
itself, because an operator is in it, the servers that have it are not even listed.
-/
namespace Skyline.UniqueNames
open Skyline.Effects Skyline.Programs Skyline.Python Skyline.Runs Skyline.Services Skyline.Tables Skyline.Threads
open Skyline.Provisioning
open Skyline.Cloud (KeystoneSession ownSession)

/-! ## Requests with their tasks -/

structure Request where
  inst : InstanceCreate
  profile : Session.Profile

def Request.session (request : Request) : KeystoneSession := ownSession request.profile

def Request.project (request : Request) : String := request.profile.project.id

def Request.pattern (request : Request) : String := "^" ++ request.inst.name ++ "$"

/-- A request, and once it has been answered its task. -/
def create (conf : Conf) (lib : Lib) (request : Request) : Remote Unit := do
  let answered ← createInstance request.inst request.profile
  provisionInstance conf lib answered.2.session answered.2.profile answered.2.inst

abbrev Creating : Type := Thread Request Answer Exn Unit
abbrev Requests : Type := Pool (World Call State) Request Answer Exn Unit

/-- All the ways in which requests and their tasks interleave. -/
def requests (env : Env) (conf : Conf) (lib : Lib) (w : World Call State) :
    System Requests (Label Request) (Label Request) :=
  pool env.backend.serve (create conf lib) w

/-- A server of the project has the name. -/
def Taken (s : State) (project name : String) : Prop :=
  ∃ server ∈ s.cloud.servers, server.projectId = project ∧ s.names server.id = name

/-- No two servers of the project have one name. -/
def NamesUnique (s : State) (project : String) : Prop :=
  ∀ a ∈ s.cloud.servers, ∀ b ∈ s.cloud.servers, a.projectId = project → b.projectId = project →
    s.names a.id = s.names b.id → a.id = b.id

/-! ## The phases of a request -/

/-- What a request calls between the check and the creation of its server. -/
def Apart (c : Call) : Prop := c.SparesServers ∧ ∀ session name project, c ≠ .listServers session name project

inductive Phase
  | checking (request : Request)
  /-- The name was free when it was checked. -/
  | checked (request : Request)
  /-- Its server has been asked for, or the name was taken. -/
  | finished

def names : Protocol Answer Exn Phase where
  may
    | .checking request, c => (∃ keystoneToken projectId, c = .cloud (.generateSession keystoneToken projectId)) ∨
      c = .listServers request.session (some request.pattern) request.project
    | .checked request, c => Apart c ∨
      ∃ body, body.name = request.inst.name ∧ c = .createServer request.session body
    | .finished, c => c.SparesServers
  next
    | .checking request, .listServers _ _ _, .ok servers =>
      if servers.any (fun server => server.name == request.inst.name) then .finished else .checked request
    | .checked _, .createServer _ _, _ => .finished
    | q, _, _ => q

section
variable {request : Request} {α : Type} {m : Remote α} {post : Except Exn α → Phase → Prop}

theorem checked_follows (uses : m.Uses Apart) (fits : ∀ r, post r (.checked request)) :
    Follows names post m (.checked request) := by
  refine .of_uses (fun _ apart => Or.inl apart) (fun c r apart => ?_) uses fits
  cases c with
  | createServer session body => exact apart.1.elim
  | _ => rfl

theorem finished_follows (uses : m.Uses Call.SparesServers) (fits : ∀ r, post r .finished) : Follows names post m .finished :=
  .of_uses (fun _ spares => spares) (fun _ _ _ => rfl) uses fits

theorem sessionOf_follows (request : Request) :
    Follows names (fun r q => q = .checking request ∧ ∀ session, r = .ok session → session = request.session)
      (ofCloud (Clients.sessionOf request.profile)) (.checking request) := by
  refine ⟨.inl ⟨_, _, rfl⟩, fun r => ?_⟩
  cases r with
  | ok _ => exact ⟨rfl, fun session same => (Except.ok.inj same).symm⟩
  | error e => exact ⟨rfl, nofun⟩

/-- The phase of a request whose check has listed servers. -/
def Request.decided (request : Request) (servers : List Listed) : Phase :=
  if servers.any (fun server => server.name == request.inst.name) then .finished else .checked request

theorem novaListServers_follows (request : Request) :
    Follows names (fun r q => ∀ servers, r = .ok servers → q = request.decided servers)
      (novaListServers request.session (some request.pattern) request.project) (.checking request) := by
  refine .attempt (.remote (.inr rfl) fun r => ?_)
  cases r with
  | ok servers =>
    intro listed same
    obtain rfl : servers = listed := Except.ok.inj same
    rfl
  | error e => exact .raise fun _ => nofun

theorem createInstance_follows (request : Request) :
    Follows names (fun r q => ∀ answered, r = .ok answered → q = .checked request ∧
        answered.2.session = request.session ∧ answered.2.inst = request.inst)
      (createInstance request.inst request.profile) (.checking request) := by
  refine .bind ((sessionOf_follows request).weaken fun r q opened => ?_)
  obtain ⟨rfl, same⟩ := opened
  cases r with
  | error e => exact fun _ => nofun
  | ok session =>
    obtain rfl := same session rfl
    refine .bind ((novaListServers_follows request).weaken fun r q listed => ?_)
    cases r with
    | error e => exact fun _ => nofun
    | ok servers =>
      obtain rfl := listed servers rfl
      refine .ite (fun _ => .raise fun _ => nofun) fun free => ?_
      rw [Request.decided, if_neg free]
      refine .bind (checked_follows (.remote ⟨trivial, fun _ _ _ => nofun⟩) fun r => ?_)
      cases r with
      | error e => exact fun _ => nofun
      | ok requestId =>
        refine .bind (checked_follows (.lift (.remote ⟨trivial, fun _ _ _ => nofun⟩)) fun r => ?_)
        cases r with
        | error e => exact fun _ => nofun
        | ok _ =>
          intro answered same
          obtain rfl := Except.ok.inj same
          exact ⟨rfl, rfl, rfl⟩

/-- Once a server has been asked for, no other is. -/
abbrev Asked {α : Type} (r : Except Exn α) (q : Phase) : Prop := ∀ a, r = .ok a → q = .finished

theorem novaCreateServer_follows {request : Request} {body : ServerCreate} (named : body.name = request.inst.name) :
    Follows names Asked (novaCreateServer request.session body) (.checked request) :=
  .remote (.inr ⟨body, named, rfl⟩) fun _ _ _ => rfl

theorem boot_asks (conf : Conf) (lib : Lib) (request : Request) :
    Follows names Asked (boot conf lib request.session request.inst) (.checked request) := by
  refine boot_follows conf lib request.session request.inst ?_ ?_ (fun _ _ => nofun) fun _ => novaCreateServer_follows
  · intro c boots
    cases c with
    | tokenUrlsafe | createVolume _ _ _ _ | getVolumeStatus _ _ => exact .inl ⟨trivial, fun _ _ _ => nofun⟩
    | _ => exact boots.elim
  · intro c r boots
    cases c with
    | createServer _ _ => exact boots.elim
    | _ => rfl

theorem create_follows (conf : Conf) (lib : Lib) (request : Request) :
    Follows names (fun _ _ => True) (create conf lib request) (.checking request) := by
  refine .bind ((createInstance_follows request).weaken fun r q done => ?_)
  cases r with
  | error e => exact trivial
  | ok answered =>
    obtain ⟨rfl, session, inst⟩ := done answered rfl
    dsimp only
    rw [session, inst]
    refine .attempt (.bind ((boot_asks conf lib request).weaken fun r q asked => ?_))
    cases r with
    | error e => exact trivial
    | ok serverId =>
      obtain rfl := asked serverId rfl
      refine finished_follows (.bind ((setupInstanceNetworking_networks _ _ _ _).mono fun _ => networks_spare) fun _ =>
        (registerLifecycle_registers _ _ _ _ _).mono fun _ => registers_spare) fun r => ?_
      cases r with
      | ok _ => exact trivial
      | error e => exact trivial

end

/-! ## Unhurried requests -/

abbrev phaseOf (t : Creating) : Phase := phase names Phase.checking t

def Phase.isChecked : Phase → Bool
  | .checked _ => true
  | _ => false

/-- The request has found its name free and is still to make its server. -/
def pending (t : Creating) : Bool := (phaseOf t).isChecked && t.upcoming.isSome

theorem pending_came {t : Creating} {q : Phase} (here : phaseOf t = q) (c : Call) (r : Except Exn (Answer c))
    (rest : Remote Unit) :
    pending (t.came c r rest) = ((names.next q c r).isChecked && (t.came c r rest).upcoming.isSome) := by
  rw [← here]
  rfl

/-- A name that a server has is checked only where it matches itself, and a name is checked only
    while no other request of the project that has found it free is still to make its server. -/
def Unhurried (env : Env) (p : Requests) (t : Creating) : Call → Prop
  | .listServers _ _ _ => (Taken p.state.state t.job.project t.job.inst.name →
        env.nameMatches t.job.pattern t.job.inst.name = true) ∧
      ∀ u ∈ p.threads, pending u = true → u.job.project = t.job.project → u.job.inst.name ≠ t.job.inst.name
  | _ => True

def Phase.Of (request : Request) : Phase → Prop
  | .checking r | .checked r => r = request
  | .finished => True

theorem next_of {request : Request} {q : Phase} {c : Call} {r : Except Exn (Answer c)} (about : q.Of request) :
    (names.next q c r).Of request := by
  simp only [names]
  split
  · split
    · exact trivial
    · exact about
  · exact trivial
  · exact about

theorem phaseOf_of (t : Creating) : (phaseOf t).Of t.job := by
  unfold phaseOf phase
  induction t.past with
  | nil => rfl
  | cons e past ih => exact next_of ih

section
variable {env : Env} {n : Nat} {s s' : State} {project : String}

theorem NamesUnique.spared (unique : NamesUnique s project) (servers : s'.cloud.servers = s.cloud.servers)
    (named : s'.names = s.names) : NamesUnique s' project := by
  rw [NamesUnique, servers, named]
  exact unique

variable (env n s) in
/-- Creating a server does nothing, or adds one of a fresh id with its name. -/
theorem createServer_adds (session : KeystoneSession) (body : ServerCreate) :
    (createServer env n s session body).2 = s ∨
      ∃ made : Cloud.Server, made.projectId = env.projectOf session ∧ (∀ old ∈ s.cloud.servers, old.id ≠ made.id) ∧
        (∀ server, server ∈ (createServer env n s session body).2.cloud.servers ↔
          server ∈ s.cloud.servers ∨ server = made) ∧
        (createServer env n s session body).2.names = Function.update s.names made.id body.name := by
  unfold createServer
  rcases env.serverService.creation s _ body.name with ⟨servers, inserted, made⟩ | ⟨_, none⟩
  · rw [made]
    exact .inr ⟨_, rfl, Table.insert_fresh inserted, fun _ => Table.mem_insert inserted, rfl⟩
  · rw [none]
    exact .inl rfl

theorem createServer_taken {session : KeystoneSession} {body : ServerCreate} {name : String}
    (taken : Taken (createServer env n s session body).2 project name) :
    Taken s project name ∨ (env.projectOf session = project ∧ body.name = name) := by
  rcases createServer_adds env n s session body with same | ⟨made, owner, fresh, servers, named⟩
  · rw [same] at taken
    exact .inl taken
  · obtain ⟨server, member, ours, has⟩ := taken
    rw [named] at has
    rcases (servers server).mp member with old | rfl
    · rw [Function.update_of_ne (fresh server old)] at has
      exact .inl ⟨server, old, ours, has⟩
    · rw [Function.update_self] at has
      exact .inr ⟨owner.symm.trans ours, has⟩

theorem createServer_unique {session : KeystoneSession} {body : ServerCreate} (unique : NamesUnique s project)
    (free : env.projectOf session = project → ¬ Taken s project body.name) :
    NamesUnique (createServer env n s session body).2 project := by
  rcases createServer_adds env n s session body with same | ⟨made, owner, fresh, servers, named⟩
  · rw [same]
    exact unique
  · intro a memberA b memberB oursA oursB same
    rw [named] at same
    rcases (servers a).mp memberA with oldA | rfl
    · rcases (servers b).mp memberB with oldB | rfl
      · rw [Function.update_of_ne (fresh a oldA), Function.update_of_ne (fresh b oldB)] at same
        exact unique a oldA b oldB oursA oursB same
      · rw [Function.update_of_ne (fresh a oldA), Function.update_self] at same
        exact (free (owner.symm.trans oursB) ⟨a, oldA, oursA, same⟩).elim
    · rcases (servers b).mp memberB with oldB | rfl
      · rw [Function.update_self, Function.update_of_ne (fresh b oldB)] at same
        exact (free (owner.symm.trans oursA) ⟨b, oldB, oursB, same.symm⟩).elim
      · rfl

/-- The invariant of unhurried requests, for a project. -/
structure Consistent (project : String) (p : Requests) : Prop where
  unique : NamesUnique p.state.state project
  free : ∀ (i : Nat) (t : Creating), p.threads[i]? = some t → pending t = true → t.job.project = project →
    ¬ Taken p.state.state project t.job.inst.name
  alone : ∀ (i j : Nat) (t u : Creating), p.threads[i]? = some t → p.threads[j]? = some u → pending t = true → pending u = true →
    t.job.project = project → u.job.project = project → t.job.inst.name = u.job.inst.name → i = j

theorem Consistent.start {p : Requests} (inv : Consistent project p) (conf : Conf) (lib : Lib) (job : Request) :
    Consistent project { p with threads := p.threads ++ [⟨job, [], create conf lib job⟩] } := by
  have old : ∀ (i : Nat) (t : Creating), (p.threads ++ [(⟨job, [], create conf lib job⟩ : Creating)])[i]? = some t → pending t = true →
      p.threads[i]? = some t := by
    intro i t there waits
    rw [List.getElem?_append] at there
    split at there
    · exact there
    · obtain rfl := List.mem_singleton.mp (List.mem_of_getElem? there)
      cases waits
  refine ⟨inv.unique, fun i t there waits => inv.free i t (old i t there waits) waits, ?_⟩
  intro i j t u thereT thereU waitsT waitsU
  exact inv.alone i j t u (old i t thereT waitsT) (old j u thereU waitsU) waitsT waitsU

/-- The invariant after a step of one request. -/
theorem Consistent.set {p : Requests} {i : Nat} {t t' : Creating} {w : World Call State} (inv : Consistent project p)
    (same : t'.job = t.job) (unique : NamesUnique w.state project)
    (others : ∀ (j : Nat) (u : Creating), j ≠ i → p.threads[j]? = some u → pending u = true → u.job.project = project →
      ¬ Taken w.state project u.job.inst.name)
    (own : pending t' = true → t.job.project = project → ¬ Taken w.state project t.job.inst.name ∧
      ∀ (j : Nat) (u : Creating), j ≠ i → p.threads[j]? = some u → pending u = true → u.job.project = project →
        u.job.inst.name ≠ t.job.inst.name) :
    Consistent project ⟨w, p.threads.set i t'⟩ := by
  have cases : ∀ (j : Nat) (u : Creating), (p.threads.set i t')[j]? = some u → (j = i ∧ u = t') ∨ (j ≠ i ∧ p.threads[j]? = some u) := by
    intro j u there
    rw [List.getElem?_set] at there
    by_cases here : i = j
    · rw [if_pos here] at there
      split at there
      · exact .inl ⟨here.symm, (Option.some.inj there).symm⟩
      · cases there
    · rw [if_neg here] at there
      exact .inr ⟨Ne.symm here, there⟩
  refine ⟨unique, fun j u there waits ours => ?_, fun j k u v thereU thereV waitsU waitsV oursU oursV named => ?_⟩
  · rcases cases j u there with ⟨_, rfl⟩ | ⟨other, old⟩
    · rw [same] at ours ⊢
      exact (own waits ours).1
    · exact others j u other old waits ours
  · rcases cases j u thereU with ⟨rfl, rfl⟩ | ⟨otherU, oldU⟩
    · rcases cases k v thereV with ⟨rfl, rfl⟩ | ⟨otherV, oldV⟩
      · rfl
      · rw [same] at oursU named
        exact absurd named.symm ((own waitsU oursU).2 k v otherV oldV waitsV oursV)
    · rcases cases k v thereV with ⟨rfl, rfl⟩ | ⟨otherV, oldV⟩
      · rw [same] at oursV named
        exact absurd named ((own waitsV oursV).2 j u otherU oldU waitsU oursU)
      · exact inv.alone j k u v oldU oldV waitsU waitsV oursU oursV named

variable (env) in
theorem serve_spares {c : Call} (spares : c.SparesServers) (w : World Call State) :
    (env.backend.serve c w).2.state.cloud.servers = w.state.cloud.servers ∧
      (env.backend.serve c w).2.state.names = w.state.names := by
  have kept : Eff.Keeps (fun v : World Call State => v.state.cloud.servers = w.state.cloud.servers ∧
      v.state.names = w.state.names) (env.backend.serve c) := by
    refine Backend.serve_keeps (I := fun s : State => s.cloud.servers = w.state.cloud.servers ∧
      s.names = w.state.names) fun n s same => ?_
    obtain ⟨servers, named⟩ := perform_sparesServers env n s spares
    exact ⟨servers.trans same.1, named.trans same.2⟩
  exact kept w ⟨rfl, rfl⟩

variable (env) in
theorem serve_creates (session : KeystoneSession) (body : ServerCreate) (w : World Call State) :
    (env.backend.serve (.createServer session body) w).2.state = w.state ∨
      ∃ n, (env.backend.serve (.createServer session body) w).2.state = (createServer env n w.state session body).2 := by
  rw [Backend.serve_state]
  split
  · exact .inr ⟨_, rfl⟩
  · exact .inl rfl

/-- A check that comes back has listed a server which has the name. -/
theorem check_finds (ownProject : ∀ keystoneToken projectId, env.mayUse keystoneToken projectId projectId = true)
    {request : Request} (itself : env.nameMatches request.pattern request.inst.name = true) {w : World Call State}
    {servers : List Listed}
    (listed : (env.backend.serve (.listServers request.session (some request.pattern) request.project) w).1 = .ok servers)
    (taken : Taken w.state request.project request.inst.name) :
    servers.any (fun server => server.name == request.inst.name) = true := by
  obtain ⟨server, member, ours, named⟩ := taken
  have answer := (Backend.serve_result.mp listed).2
  obtain rfl : listServers env w.state request.session (some request.pattern) request.project = servers :=
    Except.ok.inj answer
  refine List.any_eq_true.mpr ⟨⟨server.id, w.state.names server.id, server.addresses⟩, ?_, by simp [named]⟩
  refine env.serverService.lists.mem_iff.mpr (List.mem_map.mpr ⟨server, Table.mem_select.mpr ⟨member, ?_⟩, rfl⟩)
  have seen : env.cloud.sees request.session request.project = true := ownProject _ _
  simp [seen, ours, named, itself]

/-- A step that leaves Nova's servers keeps the invariant, where the request is not pending
    after it unless it was before. -/
theorem Consistent.spared {p : Requests} {i : Nat} {t t' : Creating} {c : Call} (inv : Consistent project p)
    (there : p.threads[i]? = some t) (same : t'.job = t.job) (spares : c.SparesServers)
    (waited : pending t' = true → pending t = true) :
    Consistent project ⟨(env.backend.serve c p.state).2, p.threads.set i t'⟩ := by
  obtain ⟨servers, named⟩ := serve_spares env spares p.state
  have untaken : ∀ name, ¬ Taken p.state.state project name →
      ¬ Taken (env.backend.serve c p.state).2.state project name := by
    intro name free
    rw [Taken, servers, named]
    exact free
  refine inv.set same (inv.unique.spared servers named) (fun j u _ thereU waits ours =>
    untaken _ (inv.free j u thereU waits ours)) fun waits ours => ?_
  refine ⟨untaken _ (inv.free i t there (waited waits) ours), fun j u other thereU waitsU oursU named => ?_⟩
  exact other (inv.alone j i u t thereU there waitsU (waited waits) oursU ours named)

/-- A name is checked while no other request is pending for it. -/
theorem Consistent.checked {p : Requests} {i : Nat} {t : Creating} {rest : Remote Unit}
    (ownProject : ∀ keystoneToken projectId, env.mayUse keystoneToken projectId projectId = true)
    (inv : Consistent project p) (here : phaseOf t = .checking t.job)
    (unhurried : Unhurried env p t (.listServers t.job.session (some t.job.pattern) t.job.project)) :
    Consistent project ⟨(env.backend.serve (.listServers t.job.session (some t.job.pattern) t.job.project) p.state).2,
      p.threads.set i (t.came (.listServers t.job.session (some t.job.pattern) t.job.project)
        (env.backend.serve (.listServers t.job.session (some t.job.pattern) t.job.project) p.state).1 rest)⟩ := by
  obtain ⟨itself, alone⟩ := unhurried
  obtain ⟨servers, named⟩ := serve_spares env
    (c := .listServers t.job.session (some t.job.pattern) t.job.project) trivial p.state
  refine inv.set rfl (inv.unique.spared servers named) (fun j u _ thereU waitsU oursU => ?_) fun waits ours => ⟨?_, ?_⟩
  · rw [Taken, servers, named]
    exact inv.free j u thereU waitsU oursU
  · intro taken
    rw [Taken, servers, named, ← ours] at taken
    rw [pending_came here] at waits
    cases listed : (env.backend.serve (.listServers t.job.session (some t.job.pattern) t.job.project) p.state).1 with
    | error e =>
      rw [listed] at waits
      cases waits
    | ok found =>
      have decided : names.next (.checking t.job) (.listServers t.job.session (some t.job.pattern) t.job.project)
          (.ok found) = .finished := if_pos (check_finds ownProject (itself taken) listed taken)
      rw [listed, decided] at waits
      cases waits
  · intro j u _ thereU waitsU oursU
    exact alone u (List.mem_of_getElem? thereU) waitsU (oursU.trans ours.symm)

/-- A request that is pending makes its server: the name was free, and no other is pending for it. -/
theorem Consistent.created {p : Requests} {i : Nat} {t : Creating} {rest : Remote Unit} {body : ServerCreate}
    (inv : Consistent project p) (there : p.threads[i]? = some t) (here : phaseOf t = .checked t.job)
    (waited : pending t = true) (named : body.name = t.job.inst.name) :
    Consistent project ⟨(env.backend.serve (.createServer t.job.session body) p.state).2,
      p.threads.set i (t.came (.createServer t.job.session body)
        (env.backend.serve (.createServer t.job.session body) p.state).1 rest)⟩ := by
  have state := serve_creates env t.job.session body p.state
  refine inv.set rfl ?_ (fun j u other thereU waitsU oursU taken => ?_) fun waits => ?_
  · rcases state with same | ⟨n, made⟩
    · rw [same]
      exact inv.unique
    · rw [made]
      refine createServer_unique inv.unique fun owner => ?_
      rw [named]
      exact inv.free i t there waited owner
  · rcases state with same | ⟨n, made⟩
    · rw [same] at taken
      exact inv.free j u thereU waitsU oursU taken
    · rw [made] at taken
      rcases createServer_taken taken with old | ⟨owner, same⟩
      · exact inv.free j u thereU waitsU oursU old
      · exact other (inv.alone j i u t thereU there waitsU waited oursU owner (same.symm.trans named))
  · rw [pending_came here] at waits
    cases waits

theorem Consistent.advance {p : Requests} {i : Nat} {t : Creating} {c : Call} {rest : Remote Unit}
    (ownProject : ∀ keystoneToken projectId, env.mayUse keystoneToken projectId projectId = true)
    (inv : Consistent project p) (there : p.threads[i]? = some t) (coming : t.upcoming = some c)
    (may : names.may (phaseOf t) c) (unhurried : Unhurried env p t c) :
    Consistent project
      ⟨(env.backend.serve c p.state).2, p.threads.set i (t.came c (env.backend.serve c p.state).1 rest)⟩ := by
  have about := phaseOf_of t
  cases here : phaseOf t with
  | finished =>
    rw [here] at may
    refine inv.spared there rfl may fun waits => ?_
    rw [pending_came here] at waits
    cases waits
  | checking request =>
    rw [here] at may about
    obtain rfl : request = t.job := about
    rcases may with ⟨keystoneToken, projectId, rfl⟩ | rfl
    · refine inv.spared there rfl trivial fun waits => ?_
      rw [pending_came here] at waits
      cases waits
    · exact inv.checked ownProject here unhurried
  | checked request =>
    rw [here] at may about
    obtain rfl : request = t.job := about
    have waited : pending t = true := by rw [pending, here, coming]; rfl
    rcases may with apart | ⟨body, named, rfl⟩
    · exact inv.spared there rfl apart.1 fun _ => waited
    · exact inv.created there here waited named

theorem unhurried_names_unique {conf : Conf} {lib : Lib} {w : World Call State}
    (ownProject : ∀ keystoneToken projectId, env.mayUse keystoneToken projectId projectId = true)
    (unique : NamesUnique w.state project) {past : List (Label Request)} {p : Requests}
    (run : (requests env conf lib w).Run (Only (Unhurried env)) past p) : NamesUnique p.state.state project := by
  have initial : Consistent project ⟨w, []⟩ := ⟨unique, fun _ _ => nofun, fun _ _ _ _ => nofun⟩
  refine Consistent.unique (run_invariant (create_follows conf lib) initial ?_ ?_ run).1
  · intro p job inv
    exact inv.start conf lib job
  · intro p i t c rest inv there coming may unhurried
    exact inv.advance ownProject there coming may unhurried

end

instance (s : State) (project : String) : Decidable (NamesUnique s project) :=
  inferInstanceAs (Decidable (∀ a ∈ s.cloud.servers.rows, ∀ b ∈ s.cloud.servers.rows, a.projectId = project →
    b.projectId = project → s.names a.id = s.names b.id → a.id = b.id))

instance (s : State) (project name : String) : Decidable (Taken s project name) :=
  inferInstanceAs (Decidable (∃ server ∈ s.cloud.servers.rows, server.projectId = project ∧ s.names server.id = name))

instance (env : Env) (p : Requests) (t : Creating) : ∀ c, Decidable (Unhurried env p t c)
  | .listServers _ _ _ => inferInstanceAs (Decidable ((Taken p.state.state t.job.project t.job.inst.name →
        env.nameMatches t.job.pattern t.job.inst.name = true) ∧
      ∀ u ∈ p.threads, pending u = true → u.job.project = t.job.project → u.job.inst.name ≠ t.job.inst.name))
  | .cloud _ | .createServer _ _ | .getServerStatus _ _ | .createVolume _ _ _ _ | .getVolumeStatus _ _ | .post _
  | .getSetting _ | .createInstanceLifecycle _ | .uuid4 | .tokenUrlsafe | .time => .isTrue trivial

/-- An environment as `serving`, which takes the ids of volumes and servers from what they are
    made with. -/
def naming : Env where
  __ := serving
  newVolumeId c n := match c with
    | .createVolume _ name _ _ => name ++ "-" ++ toString n
    | _ => ""
  newServerId c _ := match c with
    | .createServer _ body => "server-of-" ++ body.vda.getD ""
    | _ => ""

/-- Requests for two names, interleaved, and another for one of them once its server is made. -/
theorem unhurried_names_unique_web : ∃ past p,
    (requests naming defaults ascii settled).Run (Only (Unhurried naming)) past p ∧
      p.state.state.cloud.servers.rows.length = 4 ∧ NamesUnique p.state.state "project" := by
  obtain ⟨past, p, run, made⟩ := (requests naming defaults ascii settled).exec_reaches (Only (Unhurried naming))
    (P := fun p => p.state.state.cloud.servers.rows.length = 4)
    [.start ⟨web, Session.member⟩, .start ⟨{ web with name := "db" }, Session.member⟩, .start ⟨web, Session.member⟩,
      .advance 0, .advance 0, .advance 1, .advance 1, .advance 0, .advance 0, .advance 0, .advance 0,
      .advance 1, .advance 1, .advance 1, .advance 1, .advance 0, .advance 0, .advance 1, .advance 1,
      .advance 2, .advance 2] (by decide)
  exact ⟨past, p, run, made, unhurried_names_unique (fun _ _ => beq_self_eq_true _) (by decide) run⟩

/-- Two requests for one name both find it free while no server has been made. -/
theorem names_not_unique : ¬ ∀ (env : Env) (conf : Conf) (lib : Lib) (w : World Call State) (project : String),
    (∀ keystoneToken projectId, env.mayUse keystoneToken projectId projectId = true) →
    (∀ c n, env.delivery c n = .answered) → NamesUnique w.state project →
    ∀ past p, (requests env conf lib w).AnyRun past p → (∀ t ∈ p.threads, t.job.project = project) →
      NamesUnique p.state.state project := by
  intro holds
  obtain ⟨past, p, run, ours, twice⟩ := (requests naming defaults ascii settled).exec_reaches (fun _ _ => True)
    (P := fun p => (∀ t ∈ p.threads, t.job.project = "project") ∧ ¬ NamesUnique p.state.state "project")
    [.start ⟨web, Session.member⟩, .start ⟨web, Session.member⟩,
      .advance 0, .advance 0, .advance 0, .advance 0, .advance 0, .advance 0,
      .advance 1, .advance 1, .advance 1, .advance 1, .advance 1, .advance 1,
      .advance 0, .advance 0, .advance 1, .advance 1] (by decide)
  exact twice (holds naming defaults ascii settled "project" (fun _ _ => beq_self_eq_true _) (fun _ _ => rfl)
    (by decide) past p run ours)

end Skyline.UniqueNames
