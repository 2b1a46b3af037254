import Skyline.Lifecycle
import Skyline.Session

/-!
The lifecycle endpoints (`api/v1/lifecycle.py`) and the tenants. A row is found by the
instance id that the client sends, and neither endpoint compares the row's project with the
caller's. So what they do stays in the caller's project just where the row of that id is in
the caller's project already.
-/
namespace Skyline.LifecycleIsolation
open Skyline.Python Skyline.Tables Skyline.Lifecycle
open Skyline.Session (Profile)

structure LifecycleStatusResponse where
  instanceId : String
  instanceName : Option String
  createdAt : Int
  expiresAt : Int
  emailStatus : EmailStatus
  emailSentAt : Option Int
  extended : Bool
  /-- Seconds that are left; negative once the instance has expired. -/
  remainingSeconds : Int
  deriving DecidableEq, Repr

/-- `get_lifecycle_status`, which is given the caller's profile and does not look at it. -/
def getLifecycleStatus (table : LifecycleTable) (instanceId : String) (_profile : Profile) (now : Int) :
    Except Exn LifecycleStatusResponse :=
  match getInstanceLifecycle table instanceId with
  | none => .error (.httpException 404 "해당 인스턴스의 라이프사이클 정보가 없습니다.")
  | some row => .ok {
      instanceId := row.instanceId
      instanceName := row.instanceName
      createdAt := row.createdAt
      expiresAt := row.expiresAt
      emailStatus := row.emailStatus
      emailSentAt := row.emailSentAt
      extended := row.extended
      remainingSeconds := row.expiresAt - now }

/-- Two tables with the same rows of a project. -/
def AgreeOn (projectId : String) (table table' : LifecycleTable) : Prop :=
  ∀ r : Row, r.projectId = projectId → (r ∈ table ↔ r ∈ table')

/-- Extending the instance leaves the rows of other projects as they are, and its status does
    not depend on them. -/
structure Isolated (table : LifecycleTable) (profile : Profile) (instanceId : String) (now : Int) : Prop where
  frame : ∀ r ∈ table, r.projectId ≠ profile.project.id → r ∈ (extendInstanceLifecycle table instanceId now).2
  independent : ∀ table', AgreeOn profile.project.id table table' →
    getLifecycleStatus table' instanceId profile now = getLifecycleStatus table instanceId profile now

/-- The instance has a row, and it is of the caller's project. -/
def OwnRow (table : LifecycleTable) (profile : Profile) (instanceId : String) : Prop :=
  ∃ row ∈ table, row.instanceId = instanceId ∧ row.projectId = profile.project.id

section
variable {table : LifecycleTable} {profile : Profile} {instanceId : String} {now : Int}

theorem getLifecycleStatus_absent (absent : ∀ r ∈ table, r.instanceId ≠ instanceId) :
    getLifecycleStatus table instanceId profile now =
      .error (.httpException 404 "해당 인스턴스의 라이프사이클 정보가 없습니다.") := by
  rw [getLifecycleStatus, getInstanceLifecycle, Table.find_eq_none.mpr absent]

variable (profile now) in
theorem getLifecycleStatus_present {row : Row} (member : row ∈ table) (named : row.instanceId = instanceId) :
    ∃ response, getLifecycleStatus table instanceId profile now = .ok response := by
  rw [getLifecycleStatus, getInstanceLifecycle, Table.find_eq_some.mpr ⟨member, named⟩]
  exact ⟨_, rfl⟩

/-- An extension changes no row but that of its instance. -/
theorem extend_frame {r : Row} (member : r ∈ table) (other : r.instanceId ≠ instanceId) :
    r ∈ (extendInstanceLifecycle table instanceId now).2 := by
  unfold extendInstanceLifecycle
  split
  · exact member
  · exact mem_extended.mpr ⟨r, member, (if_neg other).symm⟩

/-- Tables that agree on a project agree still once a row of another is put into one, or taken out. -/
theorem agreeOn_insert {table' : LifecycleTable} {r : Row} (foreign : r.projectId ≠ profile.project.id)
    (inserted : table.insert r = some table') : AgreeOn profile.project.id table table' := by
  intro s own
  rw [Table.mem_insert inserted, or_iff_left]
  rintro rfl
  exact foreign own

theorem agreeOn_delete {r : Row} (member : r ∈ table) (foreign : r.projectId ≠ profile.project.id) :
    AgreeOn profile.project.id table (table.delete r.instanceId) := by
  intro s own
  rw [Table.mem_delete, iff_self_and]
  intro there same
  rw [Table.eq_of_key there member same] at own
  exact foreign own

/-- A row of the instance in a project that is not the caller's. -/
def strangerRow (profile : Profile) (instanceId : String) : Row :=
  newRow instanceId "web" "user" (profile.project.id ++ "'") "user@example.org" 0 100

theorem strangerRow_foreign (profile : Profile) (instanceId : String) :
    (strangerRow profile instanceId).projectId ≠ profile.project.id := by
  intro same
  have longer := congrArg String.length same
  simp [strangerRow, newRow] at longer

/-- The endpoints stay in the caller's project iff the instance has a row there. -/
theorem lifecycle_isolated_iff (table : LifecycleTable) (profile : Profile) (instanceId : String) (now : Int) :
    Isolated table profile instanceId now ↔ OwnRow table profile instanceId := by
  constructor
  · rintro ⟨-, independent⟩
    by_contra notOwn
    cases found : table.find instanceId with
    | none =>
      have absent := Table.find_eq_none.mp found
      obtain ⟨table', inserted⟩ := Table.insert_of_fresh (r := strangerRow profile instanceId) absent
      have same := independent table' (agreeOn_insert (strangerRow_foreign profile instanceId) inserted)
      obtain ⟨response, shown⟩ := getLifecycleStatus_present profile now
        ((Table.mem_insert inserted).mpr (.inr rfl)) rfl
      rw [getLifecycleStatus_absent absent, show instanceId = (strangerRow profile instanceId).instanceId from rfl,
        shown] at same
      cases same
    | some row =>
      obtain ⟨member, rfl⟩ := Table.find_eq_some.mp found
      have foreign : row.projectId ≠ profile.project.id := fun own => notOwn ⟨row, member, rfl, own⟩
      have same := independent _ (agreeOn_delete member foreign)
      obtain ⟨response, shown⟩ := getLifecycleStatus_present profile now member rfl
      rw [getLifecycleStatus_absent fun r there => (Table.mem_delete.mp there).2, shown] at same
      cases same
  · rintro ⟨row, member, rfl, own⟩
    refine ⟨fun r there foreign => extend_frame there ?_, fun table' agree => ?_⟩
    · intro same
      rw [Table.eq_of_key there member same] at foreign
      exact foreign own
    · have here := Table.find_eq_some.mpr ⟨member, rfl⟩
      have there := Table.find_eq_some.mpr ⟨(agree row own).mp member, rfl⟩
      rw [getLifecycleStatus, getLifecycleStatus, getInstanceLifecycle, getInstanceLifecycle, here, there]

end

/-- The row of an instance of another project. -/
def neighbourRow : Row := newRow "their-vm" "web" "neighbour-user" "neighbour" "user@example.org" 0 100

/-- A member of a project extends the neighbour's instance by its id. -/
theorem neighbour_row_extended : ¬ ∀ (table : LifecycleTable) (profile : Profile) (instanceId : String) (now : Int),
    (∀ role ∈ profile.roles, role.name ∉ ["admin", "system_admin"]) → Isolated table profile instanceId now := by
  intro always
  have isolated := always ⟨[neighbourRow], List.nodup_singleton _⟩ Session.member "their-vm" 50 (by decide)
  have kept : neighbourRow ∈ (extendInstanceLifecycle ⟨[neighbourRow], List.nodup_singleton _⟩ "their-vm" 50).2 :=
    isolated.frame neighbourRow List.mem_cons_self (by decide)
  exact absurd (List.mem_singleton.mp kept) (by decide)

end Skyline.LifecycleIsolation
