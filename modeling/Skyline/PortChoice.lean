import Skyline.Clients

/-!
The choice of an external port (`find_random_available_port`). Ports are drawn until one is free,
a hundred times at most: the port chosen is the first free one among the draws, so that on a crowded
range the choice may fail although a port is free.
-/
namespace Skyline.PortChoice
open Skyline.Python Skyline.Effects Skyline.Programs Skyline.Tables Skyline.Neutron Skyline.Cloud Skyline.Clients
open Skyline.Services (Backend)

/-! ## The first free draw -/

/-- The first of `attempts` draws, from the `n`-th on, that is not in use. -/
def firstFree (used : List Nat) (draws : Nat → Nat) (n attempts : Nat) : Option Nat :=
  ((List.range' n attempts).map draws).find? fun port => decide (port ∉ used)

theorem firstFree_succ (used : List Nat) (draws : Nat → Nat) (n attempts : Nat) : firstFree used draws n (attempts + 1) =
    if draws n ∉ used then some (draws n) else firstFree used draws (n + 1) attempts := by
  rw [firstFree, List.range'_succ, List.map_cons, List.find?_cons]
  by_cases free : draws n ∉ used
  · simp [free]
  · simp [free, firstFree]

section
variable {used : List Nat} {draws : Nat → Nat} {n attempts : Nat}

theorem firstFree_none : firstFree used draws n attempts = none ↔ ∀ k < attempts, draws (n + k) ∈ used := by
  simp only [firstFree, List.find?_eq_none, List.forall_mem_map, List.mem_range'_1, decide_eq_true_eq, not_not]
  constructor
  · intro all k less
    exact all (n + k) ⟨Nat.le_add_right n k, Nat.add_lt_add_left less n⟩
  · rintro all i ⟨low, high⟩
    obtain ⟨k, rfl⟩ := Nat.exists_eq_add_of_le low
    exact all k (by omega)

theorem firstFree_some {port : Nat} : firstFree used draws n attempts = some port ↔
    ∃ k < attempts, draws (n + k) = port ∧ port ∉ used ∧ ∀ j < k, draws (n + j) ∈ used := by
  induction attempts generalizing n with
  | zero => simp [firstFree]
  | succ attempts ih =>
    rw [firstFree_succ]
    by_cases free : draws n ∉ used
    · rw [if_pos free, Option.some.injEq]
      constructor
      · rintro rfl
        exact ⟨0, Nat.succ_pos _, rfl, free, fun j less => absurd less (Nat.not_lt_zero j)⟩
      · rintro ⟨k, -, drawn, -, before⟩
        cases k with
        | zero => exact drawn
        | succ k => exact absurd (before 0 (Nat.succ_pos k)) free
    · rw [if_neg free, ih]
      constructor
      · rintro ⟨k, less, drawn, unused, before⟩
        refine ⟨k + 1, Nat.succ_lt_succ less, by rw [← drawn]; congr 1; omega, unused, ?_⟩
        rintro (_ | j) smaller
        · exact not_not.mp free
        · rw [show n + (j + 1) = n + 1 + j by omega]
          exact before j (by omega)
      · rintro ⟨k, less, drawn, unused, before⟩
        cases k with
        | zero => exact absurd (drawn ▸ unused) free
        | succ k =>
          refine ⟨k, by omega, by rw [← drawn]; congr 1; omega, unused, fun j smaller => ?_⟩
          rw [show n + 1 + j = n + (j + 1) by omega]
          exact before (j + 1) (by omega)

end

/-! ## What is drawn -/

/-- The environment where `random.randint` gives these ports one after the other. -/
def drawing (env : Env) (minPort : Nat) (draws : Nat → Nat) : Env where
  __ := env
  delivery c n := match c with
    | .randint _ _ => .answered
    | _ => env.delivery c n
  draw n := draws n - minPort

section
variable {env : Env} {minPort maxPort : Nat} {draws : Nat → Nat}

/-- Any ports of the range can be drawn. -/
theorem randint_drawing (inRange : ∀ k, minPort ≤ draws k ∧ draws k ≤ maxPort) (w : World) :
    (randint minPort maxPort).run (serve (drawing env minPort draws)) w =
      (.ok (draws (w.calls.count (.randint minPort maxPort))),
        { w with calls := w.calls ++ [.randint minPort maxPort] }) := by
  obtain ⟨low, high⟩ := inRange (w.calls.count (.randint minPort maxPort))
  have proper : ¬ maxPort < minPort := by omega
  have drawn : minPort + (draws (w.calls.count (.randint minPort maxPort)) - minPort) % (maxPort + 1 - minPort) =
      draws (w.calls.count (.randint minPort maxPort)) := by
    rw [Nat.mod_eq_of_lt (by omega)]
    omega
  rw [randint, Program.run_remote, serve_answered _ rfl, Call.perform, if_neg proper]
  show (Except.ok (minPort + _ % _), _) = _
  rw [show (drawing env minPort draws).draw = fun n => draws n - minPort from rfl, drawn]

/-- How the search ends: with the port found, or with the exception. -/
def ending (floatingipId : String) : Option Nat → Except Exn Nat
  | some port => .ok port
  | none => .error (.exception ("Could not find available port on floating IP " ++ floatingipId))

/-- The draws end with the first free port, or with the exception. -/
theorem drawPort_run (inRange : ∀ k, minPort ≤ draws k ∧ draws k ≤ maxPort) (floatingipId : String) (used : List Nat)
    (attempts : Nat) (w : World) :
    ((drawPort floatingipId used minPort maxPort attempts).run (serve (drawing env minPort draws)) w).1 =
      ending floatingipId (firstFree used draws (w.calls.count (.randint minPort maxPort)) attempts) := by
  induction attempts generalizing w with
  | zero => rfl
  | succ attempts ih =>
    rw [drawPort, Program.run_bind, Eff.bind_ok (randint_drawing inRange w), firstFree_succ]
    by_cases free : draws (w.calls.count (.randint minPort maxPort)) ∉ used
    · rw [if_pos free, if_pos free]
      rfl
    · rw [if_neg free, if_neg free, ih, List.count_append, List.count_singleton_self]

/-- Listing the rules draws no port. -/
theorem listing_count {session : KeystoneSession} {floatingipId : String} {w w₁ : World} {r : Except Exn (List PortForwarding)}
    (listed : (getPortForwardingRules session floatingipId).run (serve env) w = (r, w₁)) :
    w₁.calls.count (.randint minPort maxPort) = w.calls.count (.randint minPort maxPort) := by
  have served : w₁ = (serve env (.neutron session (.listPortForwardings floatingipId)) w).2 :=
    (congrArg Prod.snd listed).symm
  rw [served, Backend.count_other (by rintro ⟨⟩)]

theorem findRandomAvailablePort_run (inRange : ∀ k, minPort ≤ draws k ∧ draws k ≤ maxPort) {session : KeystoneSession}
    {floatingipId : String} {w w₁ : World} {existing : List PortForwarding}
    (listed : (getPortForwardingRules session floatingipId).run (serve (drawing env minPort draws)) w =
      (.ok existing, w₁)) :
    ((findRandomAvailablePort session floatingipId minPort maxPort).run (serve (drawing env minPort draws)) w).1 =
      ending floatingipId
        (firstFree (existing.map PortForwarding.externalPort) draws (w.calls.count (.randint minPort maxPort)) 100) := by
  rw [findRandomAvailablePort, Program.run_bind, Eff.bind_ok listed, drawPort_run inRange, listing_count listed]

end

/-- The port chosen is the first of a hundred draws that is not in use, so that it is of the range
    and free; the choice fails exactly when each of these draws is in use. -/
theorem findRandomAvailablePort_chooses (env : Env) (session : KeystoneSession) (floatingipId : String)
    (minPort maxPort : Nat) (draws : Nat → Nat) (inRange : ∀ k, minPort ≤ draws k ∧ draws k ≤ maxPort) (w w₁ : World)
    (existing : List PortForwarding)
    (listed : (getPortForwardingRules session floatingipId).run (serve (drawing env minPort draws)) w =
      (.ok existing, w₁)) :
    let used := existing.map PortForwarding.externalPort
    let drawn (k : Nat) := draws (w.calls.count (.randint minPort maxPort) + k)
    let chosen := ((findRandomAvailablePort session floatingipId minPort maxPort).run
      (serve (drawing env minPort draws)) w).1
    (∀ port, chosen = .ok port → minPort ≤ port ∧ port ≤ maxPort ∧ port ∉ used) ∧
      (∀ port, chosen = .ok port ↔ ∃ k < 100, drawn k = port ∧ port ∉ used ∧ ∀ j < k, drawn j ∈ used) ∧
      ((∃ e, chosen = .error e) ↔ ∀ k < 100, drawn k ∈ used) := by
  intro used drawn chosen
  have outcome := findRandomAvailablePort_run inRange listed
  have found (port : Nat) : chosen = .ok port ↔
      ∃ k < 100, drawn k = port ∧ port ∉ used ∧ ∀ j < k, drawn j ∈ used := by
    rw [← firstFree_some]
    refine (iff_of_eq (congrArg (· = _) outcome)).trans ?_
    cases firstFree used draws (w.calls.count (.randint minPort maxPort)) 100 with
    | none => simp [ending]
    | some first => simp [ending]
  refine ⟨fun port is => ?_, found, ?_⟩
  · obtain ⟨k, -, rfl, unused, -⟩ := (found port).mp is
    exact ⟨(inRange _).1, (inRange _).2, unused⟩
  · rw [← firstFree_none]
    refine (exists_congr fun e => iff_of_eq (congrArg (· = _) outcome)).trans ?_
    cases firstFree used draws (w.calls.count (.randint minPort maxPort)) 100 with
    | none => simp [ending]
    | some first => simp [ending]

/-! ### A range of two ports, one of them in use -/

/-- One rule, at port 10022. -/
def oneRule : World where
  state := { Cloud.twoTenants with
    neutron := { Cloud.twoTenants.neutron with
      portForwardings := ⟨[⟨"our-rule", "fip", "our-port", "10.0.0.5", 22, 10022, "tcp"⟩], by decide⟩
      onFloatingIp := by simp [Cloud.twoTenants, Table.mem_rows]
      onPort := by simp [Cloud.twoTenants, Table.mem_rows] } }
  calls := []

/-- The port in use is drawn first. -/
theorem second_draw_chosen :
    ((findRandomAvailablePort .system "fip" 10022 10023).run (serve (drawing obliging 10022 fun k => 10022 + k % 2)) oneRule).1 =
      .ok 10023 :=
  ((findRandomAvailablePort_chooses obliging .system "fip" 10022 10023 (fun k => 10022 + k % 2)
    (fun k => by omega) oneRule _ _ rfl).2.1 10023).mpr ⟨1, by decide, by decide, by decide, by decide⟩

/-- The other port is free and is never drawn. -/
theorem crowded_range_fails : ¬ ∀ (env : Env) (session : KeystoneSession) (floatingipId : String) (minPort maxPort : Nat)
    (draws : Nat → Nat), (∀ k, minPort ≤ draws k ∧ draws k ≤ maxPort) → ∀ (w w₁ : World) (existing : List PortForwarding),
      (getPortForwardingRules session floatingipId).run (serve (drawing env minPort draws)) w = (.ok existing, w₁) →
      (∃ port, minPort ≤ port ∧ port ≤ maxPort ∧ port ∉ existing.map PortForwarding.externalPort) →
        ∃ port, ((findRandomAvailablePort session floatingipId minPort maxPort).run
          (serve (drawing env minPort draws)) w).1 = .ok port := by
  intro complete
  obtain ⟨port, chosen⟩ := complete obliging .system "fip" 10022 10023 (fun _ => 10022) (fun _ => by decide) oneRule _ _ rfl
    ⟨10023, by decide, by decide, by decide⟩
  have listed : (getPortForwardingRules .system "fip").run (serve (drawing obliging 10022 fun _ => 10022)) oneRule =
      (.ok _, _) := rfl
  have used : firstFree [10022] (fun _ => 10022) 0 100 = none := firstFree_none.mpr fun k _ => List.mem_singleton_self _
  have inRange : ∀ k : Nat, 10022 ≤ (fun _ => 10022) k ∧ (fun _ => 10022) k ≤ 10023 := fun _ => ⟨Nat.le_refl 10022, Nat.le_succ 10022⟩
  have outcome := findRandomAvailablePort_run inRange listed
  have failed := outcome.trans (congrArg (ending "fip") used)
  rw [chosen] at failed
  cases failed

end Skyline.PortChoice
