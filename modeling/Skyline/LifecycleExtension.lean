import Skyline.Lifecycle
import Skyline.Runs

/-!
Requests that extend one instance, in any interleaving. A request reads the row, then the
clock, and at last writes the expiry that it worked out from them, whatever the row has
become meanwhile. Extensions add up where no write falls behind the row.
-/
namespace Skyline.LifecycleExtension
open Skyline.Python Skyline.Tables Skyline.Runs Skyline.Lifecycle

/-- An extend request before its write: the row, and the clock once it has read it. -/
structure Request where
  row : Option Row
  now : Option Int

structure State where
  table : LifecycleTable
  requests : List Request
  /-- The clock when it was last read. -/
  clock : Int

inductive Label
  | read
  | time (request : Nat) (now : Int)
  | write (request : Nat)

def extendResponse (instanceId : String) (newExpiresAt : Int) : ExtendResponse :=
  ⟨instanceId, newExpiresAt, "인스턴스 사용 기간이 30일 연장되었습니다."⟩

/-- One step of the requests; a request that is not answered with 200 never writes. -/
def step (instanceId : String) (s : State) : Label → Option (Option ExtendResponse × State)
  | .read => some (none, { s with requests := s.requests ++ [⟨getInstanceLifecycle s.table instanceId, none⟩] })
  | .time j now =>
    match s.requests[j]? with
    | some ⟨row, none⟩ =>
      if s.clock ≤ now then some (none, { s with requests := s.requests.set j ⟨row, some now⟩, clock := now })
      else none
    | _ => none
  | .write j =>
    match s.requests[j]? with
    | some ⟨row, some now⟩ =>
      match newExpiry row now with
      | .error _ => none
      | .ok newExpiresAt => some (some (extendResponse instanceId newExpiresAt), { s with
          table := updateInstanceLifecycleExtended s.table instanceId newExpiresAt
          requests := s.requests.eraseIdx j })
    | _ => none

/-- The runs of requests for one instance, from a table and a time. -/
def extending (instanceId : String) (table : LifecycleTable) (clock : Int) :
    System State Label (Option ExtendResponse) where
  init := ⟨table, [], clock⟩
  step := step instanceId

/-- A request on its own does what `extendInstanceLifecycle` does. -/
theorem alone_extends (instanceId : String) {table : LifecycleTable} {clock now newExpiresAt : Int} (later : clock ≤ now)
    (fine : newExpiry (getInstanceLifecycle table instanceId) now = .ok newExpiresAt) :
    ∃ response after, extendInstanceLifecycle table instanceId now = (.ok response, after) ∧
      (extending instanceId table clock).exec (fun _ _ => true) ([], ⟨table, [], clock⟩) [.read, .time 0 now, .write 0] =
        some ([some response, none, none], ⟨after, [], now⟩) := by
  refine ⟨_, _, by rw [extendInstanceLifecycle, fine], ?_⟩
  simp [System.exec, extending, step, later, fine, extendResponse]

/-! ## What the extensions come to -/

/-- The requests that have been answered, the last one first. -/
def answers (past : List (Option ExtendResponse)) : List ExtendResponse := past.filterMap id

/-- The expiries that the row has had, the last one first. -/
def expiries (initial : Int) (past : List (Option ExtendResponse)) : List Int :=
  (answers past).map ExtendResponse.newExpiresAt ++ [initial]

/-- The row has every extension that was answered, and its expiry has never gone back. -/
structure AddsUp (instanceId : String) (initial : Int) (past : List (Option ExtendResponse)) (s : State) : Prop where
  current : ∃ r, getInstanceLifecycle s.table instanceId = some r ∧ (expiries initial past).head? = some r.expiresAt ∧
    initial + (answers past).length * extension ≤ r.expiresAt
  increasing : (expiries initial past).Pairwise (fun later earlier => earlier ≤ later)

/-- A write finds the row with no later expiry than what it adds to: the expiry that its
    request read, or the clock. -/
def UpToDate (instanceId : String) (s : State) : Label → Prop
  | .write j => ∀ x ∈ s.requests[j]?, ∀ read ∈ x.row, ∀ now ∈ x.now, ∀ r ∈ getInstanceLifecycle s.table instanceId,
      r.expiresAt ≤ max read.expiresAt now
  | _ => True

instance (instanceId : String) : ∀ s a, Decidable (UpToDate instanceId s a)
  | _, .read | _, .time _ _ => .isTrue trivial
  | s, .write j => inferInstanceAs (Decidable (∀ x ∈ s.requests[j]?, ∀ read ∈ x.row, ∀ now ∈ x.now,
      ∀ r ∈ getInstanceLifecycle s.table instanceId, r.expiresAt ≤ max read.expiresAt now))

variable {instanceId : String} {initial : Int} {past : List (Option ExtendResponse)} {s s' : State} {a : Label}

theorem addsUp_quiet (inv : AddsUp instanceId initial past s) (same : s'.table = s.table) :
    AddsUp instanceId initial (none :: past) s' := by
  obtain ⟨r, found, shown, total⟩ := inv.current
  exact ⟨⟨r, same ▸ found, shown, total⟩, inv.increasing⟩

/-- The current expiry is the latest that the row has had. -/
theorem AddsUp.latest (inv : AddsUp instanceId initial past s) {r : Row}
    (found : getInstanceLifecycle s.table instanceId = some r) : ∀ e ∈ expiries initial past, e ≤ r.expiresAt := by
  obtain ⟨current, there, shown, _⟩ := inv.current
  obtain rfl : current = r := Option.some.inj (there.symm.trans found)
  obtain ⟨earlier, same⟩ := List.head?_eq_some_iff.mp shown
  have increasing := inv.increasing
  rw [same, List.pairwise_cons] at increasing
  intro e member
  rw [same] at member
  rcases List.mem_cons.mp member with rfl | before
  · exact Int.le_refl _
  · exact increasing.1 e before

theorem addsUp_write {n : Int} {requests : List Request} {clock : Int} (inv : AddsUp instanceId initial past s)
    (ahead : ∀ r, getInstanceLifecycle s.table instanceId = some r → r.expiresAt + extension ≤ n) :
    AddsUp instanceId initial (some (extendResponse instanceId n) :: past)
      ⟨updateInstanceLifecycleExtended s.table instanceId n, requests, clock⟩ := by
  obtain ⟨r, found, _, total⟩ := inv.current
  have longer := ahead r found
  have positive : 0 < extension := by decide
  have written : getInstanceLifecycle (updateInstanceLifecycleExtended s.table instanceId n) instanceId =
      (getInstanceLifecycle s.table instanceId).map (Row.markExtended n) := Table.find_update_same
  constructor
  · refine ⟨r.markExtended n, by rw [written, found]; rfl, rfl, ?_⟩
    have one : (answers (some (extendResponse instanceId n) :: past)).length = (answers past).length + 1 := rfl
    rw [one, markExtended_expiresAt, Int.natCast_add, Int.natCast_one, Int.add_mul, Int.one_mul]
    omega
  · refine List.pairwise_cons.mpr ⟨fun e member => ?_, inv.increasing⟩
    have before := inv.latest found e member
    change e ≤ n
    omega

theorem addsUp_step {e : Option ExtendResponse} (inv : AddsUp instanceId initial past s)
    (upToDate : UpToDate instanceId s a) (stepped : step instanceId s a = some (e, s')) :
    AddsUp instanceId initial (e :: past) s' := by
  cases a with
  | read =>
    cases stepped
    exact addsUp_quiet inv rfl
  | time j now =>
    simp only [step] at stepped
    split at stepped
    · split at stepped
      · cases stepped
        exact addsUp_quiet inv rfl
      · cases stepped
    · cases stepped
  | write j =>
    simp only [step] at stepped
    split at stepped
    · next row now there =>
      split at stepped
      · cases stepped
      · next n computed =>
        cases stepped
        refine addsUp_write inv fun r found => ?_
        obtain ⟨read, rfl, same⟩ := newExpiry_ok computed
        have behind := upToDate _ there read rfl now rfl r found
        omega
    · cases stepped

/-- In every run in which each write is up to date, the extensions add up. -/
theorem extensions_add_up (instanceId : String) (table : LifecycleTable) (clock : Int) (row : Row)
    (found : getInstanceLifecycle table instanceId = some row) (past : List (Option ExtendResponse)) (s : State)
    (run : (extending instanceId table clock).Run (UpToDate instanceId) past s) :
    AddsUp instanceId row.expiresAt past s := by
  refine run.invariant (I := AddsUp instanceId row.expiresAt) ⟨⟨row, found, rfl, ?_⟩, List.pairwise_singleton _ _⟩ ?_
  · simp [answers]
  · exact fun _ _ _ _ _ inv upToDate stepped => addsUp_step inv upToDate stepped

/-! ## Two requests -/

def freshRow : Row := newRow "vm" "web" "user" "project" "user@example.org" 0 100

def freshTable : LifecycleTable := ⟨[freshRow], List.nodup_singleton _⟩

/-- The row after a number of extensions that found it unexpired. -/
def extendedTable (times : Int) : LifecycleTable :=
  ⟨[freshRow.markExtended (100 + times * extension)], List.nodup_singleton _⟩

/-- One after the other they extend by sixty days. -/
theorem serial_add_up : ∃ past s, (extending "vm" freshTable 0).Run (UpToDate "vm") past s ∧
    AddsUp "vm" 100 past s ∧ (answers past).length = 2 := by
  have ran : (extending "vm" freshTable 0).Run (UpToDate "vm") _ ⟨extendedTable 2, [], 20⟩ :=
    System.exec_guarded [.read, .time 0 10, .write 0, .read, .time 0 20, .write 0] .start rfl
  exact ⟨_, _, ran, extensions_add_up "vm" freshTable 0 freshRow rfl _ _ ran, rfl⟩

/-- Two requests that read the row before either writes extend it once. -/
theorem overlapping_add_once : ¬ ∀ (instanceId : String) (table : LifecycleTable) (clock : Int) (row : Row),
    getInstanceLifecycle table instanceId = some row → row.emailStatus ≠ .deleted →
      ∀ past s, (extending instanceId table clock).AnyRun past s → AddsUp instanceId row.expiresAt past s := by
  intro always
  have ran : (extending "vm" freshTable 0).AnyRun _ ⟨extendedTable 1, [], 20⟩ :=
    System.exec_anyRun [.read, .read, .time 0 10, .time 1 20, .write 0, .write 0] .start rfl
  obtain ⟨r, found, _, total⟩ := (always "vm" freshTable 0 freshRow rfl (by decide) _ _ ran).current
  obtain rfl := Option.some.inj found
  revert total
  decide

end Skyline.LifecycleExtension
