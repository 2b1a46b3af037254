import Mathlib.Data.List.Count
import Skyline.Provisioning
import Skyline.Retries

/-!
How often a forward is made. The Proxy makes a rule for every POST that gets to it, and a
POST whose answer is lost on the way back looks to the client like one that never got
there: both are sent again. So a forward is made once iff no more than one of its
sendings gets there, and how many do is known from what the network does to each of them.
-/
namespace Skyline.Forwards
open Skyline.Effects Skyline.Programs Skyline.Python Skyline.Tables Skyline.Services Skyline.Retries
  Skyline.Provisioning
open Skyline.Session (Profile)
open Skyline.Cloud (KeystoneSession ownSession)
open Skyline.Clients (networkFails)

/-! ## At most once -/

def isSsh (r : Proxy.Rule) : Bool := r.serviceType == "ssh"

/-- Whether a rule is one that an entry of the additional ports asks for. -/
def answers (port : PortForwardingRule) (r : Proxy.Rule) : Bool :=
  r.serviceType == "other" && r.userVmInternalPort == port.internalPort.1 &&
    r.proxyExternalPort == port.externalPort.1 && r.protocol == port.protocol.value

/-- At most one new SSH rule, and for each entry no more new rules than there are entries
    like it. -/
structure AtMostOnce (additionalPorts : List PortForwardingRule) (before after : Proxy.Rules) : Prop where
  ssh : after.rows.countP isSsh ≤ before.rows.countP isSsh + 1
  entries : ∀ port ∈ additionalPorts,
    after.rows.countP (answers port) ≤ before.rows.countP (answers port) + additionalPorts.count port

/-! ## Sendings that get there -/

/-- How many sendings get there, where a request is made `requests` times, each with up to
    three tries, and was sent `k` times before. -/
def arrivals (delivery : Nat → Delivery Exn) (requests k : Nat) : Nat :=
  (List.range' k (repeated (sends (networkFails delivery) 3) requests k)).countP fun j => (delivery j).arrives

/-- What networking waits for: the server's address, once it is active. -/
def waits (session : KeystoneSession) (serverId : String) : Remote (Option String) := do
  let activation ← awaitActive session serverId 60
  if activation = .active then awaitIp session serverId 10 else pure none

/-- The requests for a server's status and for its addresses. -/
abbrev statusCall (session : KeystoneSession) (serverId : String) : Call := .getServerStatus session serverId
abbrev addressCall (session : KeystoneSession) (serverId : String) : Call := .cloud (.nova session (.getServer serverId))

/-- Whether one of up to `attempts` polls, from the `k`-th on, finds the server active before
    one finds it in error; a poll without an answer counts. -/
def becomesActive (env : Env) (session : KeystoneSession) (serverId : String) : (attempts k : Nat) → Bool
  | 0, _ => false
  | attempts + 1, k =>
    if env.delivery (statusCall session serverId) k = .answered then
      env.serverStatus serverId k == "ACTIVE" ||
        (env.serverStatus serverId k != "ERROR" && becomesActive env session serverId attempts (k + 1))
    else becomesActive env session serverId attempts (k + 1)

/-- Whether one of `attempts` requests for the server's addresses is answered. -/
def showsAddresses (env : Env) (session : KeystoneSession) (serverId : String) (attempts k : Nat) : Bool :=
  (List.range' k attempts).any fun j => env.delivery (addressCall session serverId) j = .answered

/-- The address that a session finds: the first fixed one of the server, once it is active. -/
def addressSeen (env : Env) (session : KeystoneSession) (serverId : String) (w : World Call State) : Option String :=
  match Cloud.findServer (env.cloud.sees session) w.state.cloud.servers serverId with
  | .ok server =>
    if becomesActive env session serverId 60 (w.calls.count (statusCall session serverId)) &&
        showsAddresses env session serverId 10 (w.calls.count (addressCall session serverId)) then
      (Clients.firstFixedIp server.addresses).filter truthy
    else none
  | .error _ => none

/-- The address with which networking goes on to ask for the rules. -/
def addressFound (env : Env) (profile : Profile) (serverId : String) (w : World Call State) : Option String :=
  if env.backend.upcoming w (.cloud (.generateSession profile.keystoneToken profile.project.id)) = .answered then
    addressSeen env (ownSession profile) serverId w
  else none

/-- No more sendings of each POST get there than the request has entries for it. -/
structure Spared (env : Env) (serverId serverName ip : String) (additionalPorts : List PortForwardingRule)
    (w : World Call State) : Prop where
  ssh : arrivals (env.delivery (.post (sshPayload serverId serverName ip))) 1
    (w.calls.count (.post (sshPayload serverId serverName ip))) ≤ 1
  entries : ∀ port ∈ additionalPorts,
    arrivals (env.delivery (.post (portPayload serverId serverName ip port))) (additionalPorts.count port)
      (w.calls.count (.post (portPayload serverId serverName ip port))) ≤ additionalPorts.count port

/-! ## Waiting for the server -/

section
variable {env : Env} {session : KeystoneSession} {serverId : String}

theorem polled_state (s : World Call State) : (env.backend.serve (statusCall session serverId) s).2.state = s.state := by
  rw [Backend.serve_state]
  split <;> rfl

theorem polled_ok (s : World Call State) (status : String) :
    ((novaGetServerStatus session serverId).run env.backend.serve s).1 = .ok status ↔
      env.delivery (statusCall session serverId) (s.calls.count (statusCall session serverId)) = .answered ∧
        (∃ server, Cloud.findServer (env.cloud.sees session) s.state.cloud.servers serverId = .ok server) ∧
          env.serverStatus serverId (s.calls.count (statusCall session serverId)) = status := by
  rw [novaGetServerStatus, Program.run_remote, Backend.serve_result]
  refine and_congr_right fun _ => ?_
  exact env.serverService.statusOf

variable (env session serverId) in
/-- The wait for a server ends well just where the session sees the server and it becomes
    active in time. -/
theorem awaitActive_result (attempts : Nat) (s : World Call State) :
    ∃ activation, ((awaitActive session serverId attempts).run env.backend.serve s).1 = .ok activation ∧
      (activation = .active ↔
        (∃ server, Cloud.findServer (env.cloud.sees session) s.state.cloud.servers serverId = .ok server) ∧
          becomesActive env session serverId attempts (s.calls.count (statusCall session serverId)) = true) := by
  induction attempts generalizing s with
  | zero => exact ⟨.timeout, rfl, nofun, nofun⟩
  | succ attempts ih =>
    obtain ⟨status, ran, gives⟩ := Program.run_optional env.backend.serve (novaGetServerStatus session serverId) s
    have polled (text : String) := (gives text).trans (polled_ok s text)
    obtain ⟨activation, later, iff⟩ := ih (env.backend.serve (statusCall session serverId) s).2
    rw [polled_state, Backend.count_served] at iff
    rw [awaitActive, Program.run_bind, Eff.bind_ok ran, Program.run_ite, Program.run_ite, becomesActive]
    by_cases active : status = some "ACTIVE"
    · obtain ⟨answered, seen, same⟩ := (polled _).mp active
      rw [if_pos active, if_pos answered, same]
      exact ⟨.active, rfl, iff_of_true rfl ⟨seen, rfl⟩⟩
    · by_cases broken : status = some "ERROR"
      · obtain ⟨answered, seen, same⟩ := (polled _).mp broken
        rw [if_neg active, if_pos broken, if_pos answered, same]
        exact ⟨.error, rfl, nofun, fun both => by simp at both⟩
      · rw [if_neg active, if_neg broken]
        refine ⟨activation, later, iff.trans (and_congr_right fun seen => ?_)⟩
        split
        · next answered =>
          have notActive := mt (fun same => (polled "ACTIVE").mpr ⟨answered, seen, same⟩) active
          have notBroken := mt (fun same => (polled "ERROR").mpr ⟨answered, seen, same⟩) broken
          simp [notActive, notBroken]
        · exact Iff.rfl

/-- Where the session sees an address of the server, a search for it asks once, and gives the
    address if the answer comes back. -/
theorem asked_result {server : Cloud.Server} {ip : String} {s : World Call State}
    (found : Cloud.findServer (env.cloud.sees session) s.state.cloud.servers serverId = .ok server)
    (first : Clients.firstFixedIp server.addresses = some ip) :
    ∃ r t, (ofCloud (Clients.getServerInternalIp session serverId)).run env.backend.serve s = (r, t) ∧
      (∀ a, r = .ok a ↔ env.delivery (addressCall session serverId) (s.calls.count (addressCall session serverId)) =
        .answered ∧ a = ip) ∧
      t.calls.count (addressCall session serverId) = s.calls.count (addressCall session serverId) + 1 := by
  rw [Clients.getServerInternalIp, Clients.awaitInternalIp, Cloud.nova, ofCloud_call env]
  have gives (a : Cloud.Server) : (env.backend.serve (addressCall session serverId) s).1 = .ok a ↔
      env.delivery (addressCall session serverId) (s.calls.count (addressCall session serverId)) = .answered ∧
        a = server := by
    refine Backend.serve_result.trans (and_congr_right fun _ => env.cloud.novaService.getServer.trans ?_)
    rw [found, Except.ok.injEq, eq_comm]
  have counted : (env.backend.serve (addressCall session serverId) s).2.calls.count (addressCall session serverId) =
      s.calls.count (addressCall session serverId) + 1 := Backend.count_served s
  rcases served : env.backend.serve (addressCall session serverId) s with ⟨r, t⟩
  rw [served] at gives counted
  cases r with
  | error e =>
    rw [Eff.bind_error served]
    have unanswered := mt (fun answered => (gives server).mpr ⟨answered, rfl⟩) (by simp)
    exact ⟨.error e, t, rfl, fun a => by simp [unanswered], counted⟩
  | ok a =>
    obtain ⟨answered, rfl⟩ := (gives a).mp rfl
    rw [Eff.bind_ok served, first]
    exact ⟨.ok ip, t, rfl, fun b => by simp [answered, eq_comm], counted⟩

/-- The wait for an address ends with it just where one of its searches is answered. -/
theorem awaitIp_result {server : Cloud.Server} {ip : String} (first : Clients.firstFixedIp server.addresses = some ip)
    (long : truthy ip = true) (attempts : Nat) {s : World Call State}
    (found : Cloud.findServer (env.cloud.sees session) s.state.cloud.servers serverId = .ok server) :
    ((awaitIp session serverId attempts).run env.backend.serve s).1 = .ok
      (if showsAddresses env session serverId attempts (s.calls.count (addressCall session serverId)) then some ip
        else none) := by
  induction attempts generalizing s with
  | zero => rfl
  | succ attempts ih =>
    obtain ⟨r, t, asked, gives, counted⟩ := asked_result found first
    obtain ⟨internalIp, ran, optional⟩ := Program.run_optional env.backend.serve
      (ofCloud (Clients.getServerInternalIp session serverId)) s
    rw [asked] at ran optional
    have state : t.state = s.state := waits_keep (getServerInternalIp_waits session serverId) asked
    rw [awaitIp, Program.run_bind, Eff.bind_ok ran, Program.run_ite, showsAddresses, List.range'_succ, List.any_cons]
    by_cases answered : env.delivery (addressCall session serverId)
        (s.calls.count (addressCall session serverId)) = .answered
    · have shown : internalIp = some ip := (optional ip).mpr ((gives ip).mpr ⟨answered, rfl⟩)
      simp [shown, answered, truthy?, long, Program.run_pure]
    · have absent : internalIp = none :=
        Option.eq_none_iff_forall_ne_some.mpr fun a same => answered ((gives a).mp ((optional a).mp same)).1
      have rest := ih (s := t) (by rw [state, found])
      rw [counted, showsAddresses] at rest
      rw [absent, if_neg (by simp [truthy?]), decide_eq_false answered, Bool.false_or]
      exact rest

/-- Without one, it ends without one. -/
theorem awaitIp_none (attempts : Nat) {s : World Call State}
    (absent : ∀ server ip, Cloud.findServer (env.cloud.sees session) s.state.cloud.servers serverId = .ok server →
      Clients.firstFixedIp server.addresses = some ip → truthy ip = false) :
    ((awaitIp session serverId attempts).run env.backend.serve s).1 = .ok none := by
  induction attempts generalizing s with
  | zero => rfl
  | succ attempts ih =>
    obtain ⟨internalIp, ran, optional⟩ := Program.run_optional env.backend.serve
      (ofCloud (Clients.getServerInternalIp session serverId)) s
    rcases asked : (ofCloud (Clients.getServerInternalIp session serverId)).run env.backend.serve s with ⟨r, t⟩
    rw [asked] at ran optional
    have state : t.state = s.state := waits_keep (getServerInternalIp_waits session serverId) asked
    have falsy : truthy? internalIp ≠ true := by
      cases internalIp with
      | none => exact nofun
      | some ip =>
        have there := run_ofCloud env (Clients.getServerInternalIp session serverId) s
        rw [asked, (optional ip).mp rfl] at there
        obtain ⟨server, found, first⟩ := Clients.awaitInternalIp_ok there
        simp [truthy?, absent server ip found first]
    rw [awaitIp, Program.run_bind, Eff.bind_ok ran, Program.run_ite, if_neg falsy]
    exact ih (by rw [state]; exact absent)

variable (env session serverId) in
/-- Waiting gives the address that the session finds. -/
theorem waits_result (s : World Call State) :
    ((waits session serverId).run env.backend.serve s).1 = .ok (addressSeen env session serverId s) := by
  obtain ⟨activation, result, active⟩ := awaitActive_result env session serverId 60 s
  rcases ran : (awaitActive session serverId 60).run env.backend.serve s with ⟨r, t⟩
  have state : t.state = s.state := waits_keep (awaitActive_waits session serverId 60) ran
  have counted := Backend.uses_count (c := addressCall session serverId) (awaitActive_polls session serverId 60) ran (by simp)
  rw [ran] at result
  obtain rfl : r = .ok activation := result
  rw [waits, Program.run_bind, Eff.bind_ok ran, Program.run_ite, addressSeen]
  cases seen : Cloud.findServer (env.cloud.sees session) s.state.cloud.servers serverId with
  | error e =>
    rw [seen] at active
    rw [if_neg (fun same => nomatch (active.mp same).1)]
    rfl
  | ok server =>
    rw [seen] at active
    have active := active.trans (and_iff_right ⟨server, rfl⟩)
    by_cases became : becomesActive env session serverId 60 (s.calls.count (statusCall session serverId)) = true
    · rw [if_pos (active.mpr became)]
      simp only [became, Bool.true_and]
      by_cases shown : ∃ ip, Clients.firstFixedIp server.addresses = some ip ∧ truthy ip = true
      · obtain ⟨ip, first, long⟩ := shown
        rw [awaitIp_result first long 10 (by rw [state, seen]), counted, first, Option.filter_some, if_pos long]
      · have absent : (Clients.firstFixedIp server.addresses).filter truthy = none :=
          Option.filter_eq_none_iff.mpr fun ip first long => shown ⟨ip, first, long⟩
        rw [absent, ite_self, awaitIp_none]
        intro other ip found first
        rw [state, seen] at found
        cases found
        exact Bool.eq_false_iff.mpr fun long => shown ⟨ip, first, long⟩
    · rw [if_neg (mt active.mp became)]
      simp only [became, Bool.false_and]
      rfl

variable (env) in
theorem sessionOf_result (profile : Profile) (s : World Call State) (session : KeystoneSession) :
    ((ofCloud (Clients.sessionOf profile)).run env.backend.serve s).1 = .ok session ↔
      env.backend.upcoming s (.cloud (.generateSession profile.keystoneToken profile.project.id)) = .answered ∧
        .user profile.keystoneToken profile.project.id = session := by
  have gives : (env.backend.serve (.cloud (.generateSession profile.keystoneToken profile.project.id)) s).1 = .ok () ↔
      env.backend.upcoming s (.cloud (.generateSession profile.keystoneToken profile.project.id)) = .answered :=
    Backend.serve_result.trans (and_iff_left rfl)
  rw [Clients.sessionOf, Cloud.generateSession, ofCloud_call env]
  rcases served : env.backend.serve (.cloud (.generateSession profile.keystoneToken profile.project.id)) s with ⟨r, t⟩
  rw [← gives, served]
  cases r with
  | error e =>
    rw [Eff.bind_error served]
    exact ⟨nofun, fun both => nomatch both.1⟩
  | ok _ =>
    rw [Eff.bind_ok served]
    exact ⟨fun same => ⟨rfl, Except.ok.inj same⟩, fun both => congrArg Except.ok both.2⟩

end

/-! ## One POST -/

section
variable {env : Env} {w w' s : World Call State} {P : Proxy.Rule → Bool}

/-- What the sendings of a POST make of the number of rules. -/
abbrev growing (env : Env) (payload : ForwardPayload) (k rules : Nat) : Nat :=
  if (env.delivery (.post payload) k).arrives then rules + 1 else rules

theorem posted_rows (n : Nat) (s : State) (payload : ForwardPayload) :
    (perform env n s (.post payload)).2.cloud.proxy.rows =
      s.cloud.proxy.rows ++ [payload.rule (env.choose s.cloud.proxy payload n).1] := rfl

theorem post_adds {payload : ForwardPayload} (asked : ∀ choice, P (payload.rule choice) = true) (s : World Call State) :
    (env.backend.serve (.post payload) s).2.state.cloud.proxy.rows.countP P =
      growing env payload (s.calls.count (.post payload)) (s.state.cloud.proxy.rows.countP P) := by
  rw [Backend.serve_state, growing]
  by_cases arrived : (env.delivery (.post payload) (s.calls.count (.post payload))).arrives = true
  · rw [if_pos arrived, if_pos (by exact arrived)]
    exact (congrArg (List.countP P) (posted_rows _ _ _)).trans (by
      rw [List.countP_append, List.countP_singleton, if_pos (asked _)])
  · rw [if_neg arrived, if_neg (by exact arrived)]

theorem post_others {payload : ForwardPayload} (other : ∀ choice, P (payload.rule choice) = false)
    (s : World Call State) :
    (env.backend.serve (.post payload) s).2.state.cloud.proxy.rows.countP P = s.state.cloud.proxy.rows.countP P := by
  rw [Backend.serve_state]
  split
  · exact (congrArg (List.countP P) (posted_rows _ _ _)).trans (by
      rw [List.countP_append, List.countP_singleton, other, if_neg Bool.false_ne_true, Nat.add_zero])
  · rfl

/-- A POST is sent again just where the network fails. -/
theorem post_fails (payload : ForwardPayload) (s : World Call State) :
    networkFails (env.delivery (.post payload)) (s.calls.count (.post payload)) = true ↔
      ∃ e, (env.backend.serve (.post payload) s).1 = .error e ∧ (e == Exn.networkError) = true := by
  have delivered : env.backend.delivery = env.delivery := rfl
  rw [networkFails, Backend.serve, delivered]
  cases env.delivery (.post payload) (s.calls.count (.post payload)) with
  | refused e => simp
  | lost e => simp
  | answered => simp [Env.backend, perform]

theorem forward_run (payload : ForwardPayload) (s : World Call State) :
    (forward payload).run env.backend.serve s = (.ok (), ((callPortforwardApi payload).run env.backend.serve s).2) := by
  rw [forward, Program.run_ignoring, Program.run_bind]
  exact congrArg (Prod.mk _) (Eff.bind_pure_state _ _ _)

theorem forward_sends {payload : ForwardPayload} (asked : ∀ choice, P (payload.rule choice) = true) :
    Sends (fun _ => True) (fun s => s.calls.count (.post payload)) (fun s => s.state.cloud.proxy.rows.countP P)
      (growing env payload) (sends (networkFails (env.delivery (.post payload))) 3)
      ((forward payload).run env.backend.serve) := by
  have api : Sends (fun _ => True) (fun s => s.calls.count (.post payload))
      (fun s => s.state.cloud.proxy.rows.countP P) (growing env payload)
      (sends (networkFails (env.delivery (.post payload))) 3)
      ((callPortforwardApi payload).run env.backend.serve) := by
    rw [callPortforwardApi, Program.run_retry]
    exact Sends.retry (fun s _ => ⟨trivial, Backend.count_served s, post_adds asked s⟩) (post_fails payload) 3
  intro s inv
  rw [forward_run]
  exact api s inv

/-- The POST of another body. -/
theorem forward_other {payload body : ForwardPayload} (apart : body ≠ payload)
    (other : ∀ choice, P (body.rule choice) = false) :
    Sends (fun _ => True) (fun s => s.calls.count (.post payload)) (fun s => s.state.cloud.proxy.rows.countP P)
      (growing env payload) (fun _ => 0) ((forward body).run env.backend.serve) := by
  intro s _
  refine ⟨trivial, Program.run_keeps (I := fun t => t.calls.count (.post payload) = s.calls.count (.post payload) + 0 ∧
    t.state.cloud.proxy.rows.countP P = s.state.cloud.proxy.rows.countP P) ?_ (forward_posts body) s
    ⟨rfl, rfl⟩⟩
  rintro _ rfl t ⟨counted, same⟩
  exact ⟨by rw [Backend.count_other (by simpa using apart), counted], by rw [post_others other, same]⟩

variable (env) in
/-- The POSTs of a list: those of one body are sent for each time the body is in the list. -/
theorem forwards_count (payload : ForwardPayload) (bodies : List ForwardPayload)
    (asked : ∀ choice, P (payload.rule choice) = true)
    (other : ∀ body ∈ bodies, body ≠ payload → ∀ choice, P (body.rule choice) = false) (s : World Call State) :
    ((Program.forEach bodies forward).run env.backend.serve s).2.state.cloud.proxy.rows.countP P =
      s.state.cloud.proxy.rows.countP P +
        arrivals (env.delivery (.post payload)) (bodies.count payload) (s.calls.count (.post payload)) := by
  rw [Program.run_forEach]
  have looped : Sends (fun _ => True) (fun s => s.calls.count (.post payload))
      (fun s => s.state.cloud.proxy.rows.countP P) (growing env payload)
      (repeated (sends (networkFails (env.delivery (.post payload))) 3) (bodies.count payload))
      (Eff.forEach bodies fun body => (forward body).run env.backend.serve) := by
    refine Sends.forEach (fun body t => by rw [forward_run]) (fun body _ same => ?_) fun body member apart => ?_
    · rw [beq_iff_eq.mp same]
      exact forward_sends asked
    · have apart : body ≠ payload := by simpa using apart
      exact forward_other apart (other body member apart)
  have viewed := (looped s trivial).2.2
  rw [effects_grow] at viewed
  exact viewed

/-! ## Networking -/

theorem waits_waits (session : KeystoneSession) (serverId : String) : (waits session serverId).Uses Call.Waits :=
  .bind (awaitActive_waits session serverId 60) fun _ => .ite (awaitIp_waits session serverId 10) (.pure none)

/-- Networking waits, and then asks for the rules if it has found an address. -/
theorem network_run (session : KeystoneSession) (serverId serverName : String)
    (additionalPorts : Option (List PortForwardingRule)) (s : World Call State) :
    (network session serverId serverName additionalPorts).run env.backend.serve s =
      ((waits session serverId).run env.backend.serve >>= fun internalIp =>
        (match internalIp with
          | some ip => Program.forEach (payloads serverId serverName ip additionalPorts) forward
          | none => pure () : Remote Unit).run env.backend.serve) s := by
  rw [network, waits, Program.run_bind, Program.run_bind, Eff.bind_run, Eff.bind_run, Eff.bind_run]
  rcases (awaitActive session serverId 60).run env.backend.serve s with ⟨r, t⟩
  cases r with
  | error e => rfl
  | ok activation =>
    by_cases active : activation = .active
    · simp only [if_pos active]
      rw [Program.run_bind]
      rfl
    · simp only [if_neg active]
      rfl

section
variable {profile : Profile} {serverId serverName : String} {additionalPorts : Option (List PortForwardingRule)}

variable (env profile serverId serverName additionalPorts w) in
/-- Networking asks for the rules where it finds an address. -/
theorem setup_run :
    ∃ w₁, w₁.state = w.state ∧ (∀ payload, w₁.calls.count (.post payload) = w.calls.count (.post payload)) ∧
      ((setupInstanceNetworking serverId serverName profile additionalPorts).run env.backend.serve w).2 =
        match addressFound env profile serverId w with
        | some ip => ((Program.forEach (payloads serverId serverName ip additionalPorts) forward).run env.backend.serve w₁).2
        | none => w₁ := by
  rw [setupInstanceNetworking, Program.run_bind]
  rcases opened : (ofCloud (Clients.sessionOf profile)).run env.backend.serve w with ⟨r, w₁⟩
  have kept₁ : w₁.state = w.state := waits_keep (sessionOf_waits profile) opened
  have counts₁ : ∀ c, c ≠ .cloud (.generateSession profile.keystoneToken profile.project.id) →
      w₁.calls.count c = w.calls.count c := fun c other => Backend.uses_count (sessionOf_opens profile) opened other
  have opens := sessionOf_result env profile w
  rw [opened] at opens
  cases r with
  | error e =>
    rw [Eff.bind_error opened, addressFound, if_neg fun answered => nomatch (opens _).mpr ⟨answered, rfl⟩]
    exact ⟨w₁, kept₁, fun payload => counts₁ _ (by simp), rfl⟩
  | ok session =>
    obtain ⟨answered, rfl⟩ := (opens session).mp rfl
    rw [Eff.bind_ok opened, Program.run_ignoring, network_run, addressFound, if_pos answered]
    have found := waits_result env (ownSession profile) serverId w₁
    have same : addressSeen env (ownSession profile) serverId w₁ =
        addressSeen env (ownSession profile) serverId w := by
      rw [addressSeen, addressSeen, kept₁, counts₁ (statusCall _ serverId) (by simp), counts₁ (addressCall _ serverId) (by simp)]
    rcases waited : (waits (ownSession profile) serverId).run env.backend.serve w₁ with ⟨r, w₂⟩
    have kept₂ : w₂.state = w₁.state := waits_keep (waits_waits _ serverId) waited
    rw [waited, same] at found
    obtain rfl : r = .ok _ := found
    rw [Eff.bind_ok waited]
    refine ⟨w₂, kept₂.trans kept₁, fun payload => ?_, ?_⟩
    · rw [Backend.uses_count (waits_waits _ serverId) waited id, counts₁ (.post payload) (by simp)]
    · cases addressSeen env (ownSession profile) serverId w <;> rfl

/-- Where no address is found, nothing is asked for. -/
theorem setup_none (absent : addressFound env profile serverId w = none) :
    ((setupInstanceNetworking serverId serverName profile additionalPorts).run env.backend.serve w).2.state =
      w.state := by
  obtain ⟨w₁, state, _, same⟩ := setup_run env w profile serverId serverName additionalPorts
  rw [absent] at same
  rw [same, state]

variable (serverName additionalPorts) in
/-- Where an address is found, the rules are asked for. -/
theorem setup_some {ip : String} (found : addressFound env profile serverId w = some ip) :
    ∃ w₁, w₁.state = w.state ∧ (∀ payload, w₁.calls.count (.post payload) = w.calls.count (.post payload)) ∧
      ((setupInstanceNetworking serverId serverName profile additionalPorts).run env.backend.serve w).2 =
        ((Program.forEach (payloads serverId serverName ip additionalPorts) forward).run env.backend.serve w₁).2 := by
  obtain ⟨w₁, state, counts, same⟩ := setup_run env w profile serverId serverName additionalPorts
  rw [found] at same
  exact ⟨w₁, state, counts, same⟩

/-! ## The bodies -/

theorem portPayload_injective (serverId serverName ip : String) :
    Function.Injective (portPayload serverId serverName ip) := by
  rintro ⟨⟨i, _⟩, ⟨e, _⟩, protocol⟩ ⟨⟨i', _⟩, ⟨e', _⟩, protocol'⟩ same
  simp only [portPayload, ForwardPayload.mk.injEq, Option.some.injEq] at same
  obtain ⟨_, _, _, _, rfl, rfl, _, protocols⟩ := same
  cases protocol <;> cases protocol' <;> first | rfl | exact absurd protocols (by decide)

theorem count_ssh (serverId serverName ip : String) (additionalPorts : Option (List PortForwardingRule)) :
    (payloads serverId serverName ip additionalPorts).count (sshPayload serverId serverName ip) = 1 := by
  have others : sshPayload serverId serverName ip ∉
      (additionalPorts.getD []).map (portPayload serverId serverName ip) := by
    intro member
    obtain ⟨port, _, same⟩ := List.mem_map.mp member
    have services : "other" = "ssh" := congrArg ForwardPayload.serviceType same
    exact absurd services (by decide)
  rw [payloads, List.count_cons_self, List.count_eq_zero_of_not_mem others]

theorem count_port (serverId serverName ip : String) (additionalPorts : Option (List PortForwardingRule))
    (port : PortForwardingRule) :
    (payloads serverId serverName ip additionalPorts).count (portPayload serverId serverName ip port) =
      (additionalPorts.getD []).count port := by
  have apart : sshPayload serverId serverName ip ≠ portPayload serverId serverName ip port := by
    intro same
    have services : "ssh" = "other" := congrArg ForwardPayload.serviceType same
    exact absurd services (by decide)
  rw [payloads, List.count_cons_of_ne apart, List.count_map_of_injective _ _ (portPayload_injective _ _ _)]

theorem isSsh_ssh (serverId serverName ip : String) (choice : Proxy.Choice) :
    isSsh ((sshPayload serverId serverName ip).rule choice) = true := rfl

theorem isSsh_port (serverId serverName ip : String) (port : PortForwardingRule) (choice : Proxy.Choice) :
    isSsh ((portPayload serverId serverName ip port).rule choice) = false := rfl

theorem answers_ssh (serverId serverName ip : String) (port : PortForwardingRule) (choice : Proxy.Choice) :
    answers port ((sshPayload serverId serverName ip).rule choice) = false := rfl

theorem answers_port (serverId serverName ip : String) (port other : PortForwardingRule) (choice : Proxy.Choice) :
    answers port ((portPayload serverId serverName ip other).rule choice) = true ↔ other = port := by
  obtain ⟨⟨i, _⟩, ⟨e, _⟩, protocol⟩ := port
  obtain ⟨⟨i', _⟩, ⟨e', _⟩, protocol'⟩ := other
  cases protocol <;> cases protocol' <;> simp [answers, ForwardPayload.rule, portPayload, Proxy.Protocol.value]

/-- The new SSH rules are as many as the sendings of their POST that get there. -/
theorem setup_ssh {ip : String} (found : addressFound env profile serverId w = some ip) :
    ((setupInstanceNetworking serverId serverName profile additionalPorts).run
        env.backend.serve w).2.state.cloud.proxy.rows.countP isSsh =
      w.state.cloud.proxy.rows.countP isSsh + arrivals (env.delivery (.post (sshPayload serverId serverName ip))) 1
        (w.calls.count (.post (sshPayload serverId serverName ip))) := by
  obtain ⟨w₁, state, counts, same⟩ := setup_some serverName additionalPorts found
  have counted := forwards_count env (sshPayload serverId serverName ip) (payloads serverId serverName ip additionalPorts)
    (isSsh_ssh serverId serverName ip) (fun body member apart choice => by
      rcases List.mem_cons.mp member with ssh | among
      · exact absurd ssh apart
      · obtain ⟨port, _, rfl⟩ := List.mem_map.mp among
        exact isSsh_port serverId serverName ip port choice) w₁
  rw [same, counted, state, counts, count_ssh]

theorem setup_port {ip : String} (found : addressFound env profile serverId w = some ip) (port : PortForwardingRule) :
    ((setupInstanceNetworking serverId serverName profile additionalPorts).run
        env.backend.serve w).2.state.cloud.proxy.rows.countP (answers port) =
      w.state.cloud.proxy.rows.countP (answers port) +
        arrivals (env.delivery (.post (portPayload serverId serverName ip port))) ((additionalPorts.getD []).count port)
          (w.calls.count (.post (portPayload serverId serverName ip port))) := by
  obtain ⟨w₁, state, counts, same⟩ := setup_some serverName additionalPorts found
  have counted := forwards_count env (portPayload serverId serverName ip port)
    (payloads serverId serverName ip additionalPorts)
    (fun choice => (answers_port serverId serverName ip port port choice).mpr rfl) (fun body member apart choice => by
      rcases List.mem_cons.mp member with rfl | among
      · exact answers_ssh serverId serverName ip port choice
      · obtain ⟨other, _, rfl⟩ := List.mem_map.mp among
        refine Bool.eq_false_iff.mpr fun answered => apart ?_
        rw [(answers_port serverId serverName ip port other choice).mp answered]) w₁
  rw [same, counted, state, counts, count_port]

/-- Networking asks for each rule at most once iff, where it finds an address, no more
    sendings get there than the request has entries. -/
theorem setup_atMostOnce_iff : AtMostOnce (additionalPorts.getD []) w.state.cloud.proxy
      ((setupInstanceNetworking serverId serverName profile additionalPorts).run
        env.backend.serve w).2.state.cloud.proxy ↔
    ∀ ip, addressFound env profile serverId w = some ip →
      Spared env serverId serverName ip (additionalPorts.getD []) w := by
  cases found : addressFound env profile serverId w with
  | none =>
    rw [setup_none found]
    refine iff_of_true ⟨Nat.le_succ _, fun port _ => Nat.le_add_right _ _⟩ nofun
  | some ip =>
    constructor
    · rintro ⟨ssh, entries⟩ ip' same
      obtain rfl := Option.some.inj same
      refine ⟨?_, fun port member => ?_⟩
      · rw [setup_ssh found] at ssh
        exact Nat.le_of_add_le_add_left ssh
      · have entry := entries port member
        rw [setup_port found] at entry
        exact Nat.le_of_add_le_add_left entry
    · intro spared
      obtain ⟨ssh, entries⟩ := spared ip rfl
      refine ⟨?_, fun port member => ?_⟩
      · rw [setup_ssh found]
        exact Nat.add_le_add_left ssh _
      · rw [setup_port found]
        exact Nat.add_le_add_left (entries port member) _

end

end

/-! ## One rule through the client -/

/-- The Proxy makes a rule for each request of a kind that gets there: it refuses none, and
    each time it chooses an id that no rule has. -/
structure OnePerPost (env : Cloud.Env) (request : Proxy.PortForwardingCreate) (rules : Proxy.Rules) : Prop where
  accepted : ∀ k, env.proxyRefuses (.create request) k = none
  fresh : ∀ k, ∀ r ∈ rules, r.ruleId ≠ (env.proxyChoice (.create request) k).ruleId
  distinct : ∀ j k, (env.proxyChoice (.create request) j).ruleId = (env.proxyChoice (.create request) k).ruleId → j = k

section
variable {env : Cloud.Env} {request : Proxy.PortForwardingCreate}

/-- The ids that the Proxy still has to choose are free. -/
def Unchosen (env : Cloud.Env) (request : Proxy.PortForwardingCreate) (s : Cloud.World) : Prop :=
  ∀ k, s.calls.count (.proxy (.create request)) ≤ k → ∀ r ∈ s.cloud.proxy,
    r.ruleId ≠ (env.proxyChoice (.create request) k).ruleId

/-- The call that asks the Proxy for a rule. -/
abbrev creation (request : Proxy.PortForwardingCreate) : Cloud.Call := .proxy (.create request)

theorem creation_adds {rules : Proxy.Rules} (each : OnePerPost env request rules) {s : Cloud.World}
    (unchosen : Unchosen env request s) :
    Unchosen env request (Cloud.serve env (creation request) s).2 ∧
      (Cloud.serve env (creation request) s).2.cloud.proxy.rows.length =
        if (env.delivery (creation request) (s.calls.count (creation request))).arrives then
          s.cloud.proxy.rows.length + 1 else s.cloud.proxy.rows.length := by
  have free := unchosen _ (Nat.le_refl _)
  obtain ⟨after, inserted⟩ := Table.insert_of_fresh (t := s.cloud.proxy)
    (r := request.rule (env.proxyChoice (.create request) (s.calls.count (creation request)))) free
  have performed : ((creation request).perform env (s.calls.count (creation request)) s.cloud).2.proxy = after := by
    simp only [Cloud.Call.perform, each.accepted, env.proxyService.creates inserted]
  have later : ∀ k, s.calls.count (creation request) + 1 ≤ k → ∀ r ∈ after,
      r.ruleId ≠ (env.proxyChoice (.create request) k).ruleId := by
    intro k next r member
    rcases (Table.mem_insert inserted).mp member with old | rfl
    · exact unchosen k (Nat.le_of_succ_le next) r old
    · exact fun same => Nat.ne_of_lt next (each.distinct _ _ same)
  have longer : after.rows.length = s.cloud.proxy.rows.length + 1 := Table.insert_length inserted
  refine ⟨fun k next => ?_, ?_⟩
  · rw [Backend.count_served] at next
    cases delivered : env.delivery (creation request) (s.calls.count (creation request)) with
    | refused e =>
      simp only [Cloud.serve_refused env delivered]
      exact unchosen k (Nat.le_of_succ_le next)
    | lost e =>
      simp only [Cloud.serve_lost env delivered, Cloud.World.cloud_mk, performed]
      exact later k next
    | answered =>
      simp only [Cloud.serve_answered env delivered, Cloud.World.cloud_mk, performed]
      exact later k next
  · cases delivered : env.delivery (creation request) (s.calls.count (creation request)) with
    | refused e => simp [Cloud.serve_refused env delivered, Delivery.arrives]
    | lost e => simp [Cloud.serve_lost env delivered, Delivery.arrives, performed, longer]
    | answered => simp [Cloud.serve_answered env delivered, Delivery.arrives, performed, longer]

/-- The new rules are as many as the sendings of the request that get there. -/
theorem createPortforwarding_count {w : Cloud.World} (each : OnePerPost env request w.cloud.proxy) :
    ((Clients.Portforward.createPortforwarding request).run (Cloud.serve env) w).2.cloud.proxy.rows.length =
      w.cloud.proxy.rows.length + arrivals (env.delivery (creation request)) 1
        (w.calls.count (creation request)) := by
  have sending : Sends (Unchosen env request) (fun s => s.calls.count (creation request))
      (fun s => s.cloud.proxy.rows.length)
      (fun k rules => if (env.delivery (creation request) k).arrives then rules + 1 else rules)
      (sends (networkFails (env.delivery (creation request))) 3)
      ((Clients.Portforward.createPortforwarding request).run (Cloud.serve env)) := by
    rw [Clients.Portforward.createPortforwarding, Clients.exchange, Clients.retryOnNetworkError, Program.run_retry]
    refine Sends.retry (fun s unchosen => ?_) (fun s => ?_) 3
    · obtain ⟨kept, longer⟩ := creation_adds each unchosen
      rw [Clients.attempt_state, Cloud.proxy, Program.run_remote, Backend.count_served]
      exact ⟨kept, rfl, longer⟩
    · exact (Clients.attempt_fails (Clients.proxy_fails (.create request) s)).symm
  have counted := (sending w fun k _ => each.fresh k).2.2
  rw [effects_grow] at counted
  rw [arrivals, repeated, repeated, Nat.add_zero]
  exact counted

end

/-! ## Forwards are made at most once -/

/-- A request for an instance makes each of its forwards at most once iff no more of its
    POSTs get there than it has entries, and a request to the client makes one rule at
    most iff at most one of its sendings gets there. -/
theorem forwards_atMostOnce_iff (env : Env) (serverId serverName : String) (profile : Profile)
    (additionalPorts : Option (List PortForwardingRule)) (w : World Call State)
    (cloudEnv : Cloud.Env) (request : Proxy.PortForwardingCreate) (v : Cloud.World) :
    (AtMostOnce (additionalPorts.getD []) w.state.cloud.proxy
        ((setupInstanceNetworking serverId serverName profile additionalPorts).run
          env.backend.serve w).2.state.cloud.proxy ↔
      ∀ ip, addressFound env profile serverId w = some ip →
        Spared env serverId serverName ip (additionalPorts.getD []) w) ∧
    (OnePerPost cloudEnv request v.cloud.proxy →
      (((Clients.Portforward.createPortforwarding request).run (Cloud.serve cloudEnv) v).2.cloud.proxy.rows.length ≤
          v.cloud.proxy.rows.length + 1 ↔
        arrivals (cloudEnv.delivery (creation request)) 1
          (v.calls.count (creation request)) ≤ 1)) := by
  refine ⟨setup_atMostOnce_iff, fun each => ?_⟩
  rw [createPortforwarding_count each]
  exact Nat.add_le_add_iff_left

/-- An environment in which every call goes through, and the Proxy numbers its rules. -/
def numbered : Cloud.Env :=
  { Cloud.obliging with
    proxyChoice := fun _ n => ⟨n, String.ofList (List.replicate n 'i'), "203.0.113.9", 20000 + n, "active", true, none⟩ }

/-- A request for a rule for the server of the project. -/
def sshRequest : Proxy.PortForwardingCreate where
  ruleName := ⟨"ssh", by decide⟩
  userVmId := "our-vm"
  userVmName := ⟨"our-vm", by decide⟩
  userVmInternalIp := "10.0.0.5"
  userVmInternalPort := ⟨22, by decide⟩

/-- The two projects before the Proxy has a rule. -/
def unforwarded : Cloud.World := ⟨{ Cloud.twoTenants with proxy := Table.empty }, []⟩

theorem onePerPost_numbered : OnePerPost numbered sshRequest unforwarded.cloud.proxy where
  accepted _ := rfl
  fresh _ r member := absurd member (Table.not_mem_empty r)
  distinct j k same := by
    have lengths := congrArg (fun s : String => s.toList.length) same
    simpa [numbered] using lengths

theorem forwards_atMostOnce_once :
    ((Clients.Portforward.createPortforwarding sshRequest).run (Cloud.serve numbered) unforwarded).2.cloud.proxy.rows.length
      ≤ 0 + 1 :=
  ((forwards_atMostOnce_iff serving "our-vm" "our-vm" Session.member none settled
    numbered sshRequest unforwarded).2 onePerPost_numbered).mpr (by decide)

/-! ## An answer that is lost -/

/-- An environment in which the answer to the first POST of each kind is lost. -/
def forgetful : Env :=
  { serving with
    delivery := fun c n =>
      match c with
      | .post _ => if n = 0 then .lost .networkError else .answered
      | _ => .answered }

/-- The POST for the SSH rule is sent again, and the Proxy has two rules. -/
theorem setup_twice : ¬ ∀ (env : Env) (serverId serverName : String) (profile : Profile)
    (additionalPorts : Option (List PortForwardingRule)) (w : World Call State),
    AtMostOnce (additionalPorts.getD []) w.state.cloud.proxy
      ((setupInstanceNetworking serverId serverName profile additionalPorts).run
        env.backend.serve w).2.state.cloud.proxy := by
  intro always
  have once := (always forgetful "our-vm" "our-vm" Session.member none settled).ssh
  have twice : ((setupInstanceNetworking "our-vm" "our-vm" Session.member none).run
      forgetful.backend.serve settled).2.state.cloud.proxy.rows.countP isSsh = 4 := rfl
  have before : settled.state.cloud.proxy.rows.countP isSsh = 2 := rfl
  rw [twice, before] at once
  exact absurd once (by decide)

end Skyline.Forwards
