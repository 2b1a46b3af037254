import Skyline.LifecycleIndependence
import Skyline.Session

/-!
The exemption of the admin project. Every cycle asks Keystone for the id of the project
(`_get_admin_project_id` in `utils/lifecycle_scheduler.py`), by its name alone, takes the first
that comes back, and exempts nothing where none does.
-/
namespace Skyline.AdminExemption
open Skyline.Python Skyline.Config Skyline.Tables Skyline.Effects Skyline.Lifecycle Skyline.LifecycleCycle
open Skyline.LifecycleIndependence
open Skyline.Session (Project)

/-! ## The lookup -/

/-- The projects of a Keystone; a name is unique in its domain. -/
structure Directory where
  projects : List Project
  ids : (projects.map Project.id).Nodup
  names : (projects.map fun p => (p.name, p.domain.name)).Nodup
  identified : ∀ p ∈ projects, p.id ≠ ""

/-- The projects of a name in a domain; there is at most one. -/
def Directory.named (directory : Directory) (name domain : String) : List Project :=
  directory.projects.filter (fun p => p.name == name && p.domain.name == domain)

/-- What the lookup comes to, `kc.projects.list(name=...)` after the configuration and the
    connection: a failure, or the projects of that name in some order. -/
def Answers (directory : Directory) (name : String) : Except Exn (List Project) → Prop
  | .ok listed => listed.Perm (directory.projects.filter (fun p => p.name == name))
  | .error _ => True

def getAdminProjectId (projectsList : String → Except Exn (List Project)) (adminProjectName : String) : Option String :=
  match projectsList adminProjectName with
  | .ok (p :: _) => some p.id
  | .ok [] | .error _ => none

/-- `run_lifecycle_check`, with the lookup that it makes. -/
def check (env : Env) (projectsList : String → Except Exn (List Project)) (settings : LifecycleSettings) (now : Int)
    (table : LifecycleTable) : Progress :=
  cycle env settings now (getAdminProjectId projectsList settings.adminProject) table

/-! ## Rows that a cycle comes to -/

/-- The first loop comes to the row, and it has a warning to come. -/
structure MailDue (env : Env) (now : Int) (adminProjectId : Option String) (earlier : List Row) (r : Row) : Prop where
  expired : expiring now r = true
  unwarned : r.emailStatus = .none
  dates : dated r.expiresAt = true
  unfailed : ∀ x ∈ earlier, expiring now x = true → warningFails env adminProjectId x = false

/-- The second loop comes to the row, and its deletion is called for. -/
structure DeletionDue (env : Env) (settings : LifecycleSettings) (now : Int) (adminProjectId : Option String)
    (earlier : List Row) (r : Row) (later : List Row) : Prop where
  called : (env.deleteInstance r.instanceId r.projectId).calls ≠ []
  overdue : awaiting settings now (afterWarning env now adminProjectId r) = true
  unfailed : ∀ x ∈ earlier ++ r :: later, expiring now x = true → warningFails env adminProjectId x = false
  before : ∀ x ∈ earlier, awaiting settings now (afterWarning env now adminProjectId x) = true →
    deletionFails env adminProjectId (afterWarning env now adminProjectId x) = false

/-- A cycle has neither mailed about an instance nor called for its deletion. -/
def Spared (i : String) (p : Progress) : Prop := (effect i p).mails = [] ∧ (effect i p).deletions = []

/-- Every instance of a project is spared. -/
def Exempted (projectId : String) (table : LifecycleTable) (p : Progress) : Prop :=
  ∀ r ∈ table, r.projectId = projectId → Spared r.instanceId p

section
variable {env : Env} {settings : LifecycleSettings} {now : Int} {adminProjectId : Option String} {earlier later : List Row}
  {r : Row}

theorem outcome_mails_nil_iff (watched : exempt adminProjectId r.projectId = false) :
    (outcome env settings now adminProjectId earlier r later).mails = [] ↔ ¬ MailDue env now adminProjectId earlier r := by
  have due : MailDue env now adminProjectId earlier r ↔
      (expiring now r && !(earlier.filter (expiring now)).any (warningFails env adminProjectId) &&
        mails adminProjectId r) = true := by
    simp only [mails, Unwarned, watched, true_and, Bool.and_eq_true, Bool.not_eq_true', any_filter_eq_false,
      decide_eq_true_eq]
    constructor
    · intro due
      exact ⟨⟨due.expired, due.unfailed⟩, due.unwarned, due.dates⟩
    · rintro ⟨⟨expired, unfailed⟩, unwarned, dates⟩
      exact ⟨expired, unwarned, dates, unfailed⟩
  rw [outcome_mails, warnOutcome_mails, due]
  generalize (expiring now r && !(earlier.filter (expiring now)).any (warningFails env adminProjectId) &&
    mails adminProjectId r) = mailed
  cases mailed <;> simp

theorem outcome_deletions_nil_iff (own : OwnCalls env) (watched : exempt adminProjectId r.projectId = false) :
    (outcome env settings now adminProjectId earlier r later).deletions = [] ↔
      ¬ DeletionDue env settings now adminProjectId earlier r later := by
  by_cases toDelete : ToDelete env settings now adminProjectId r
  · have due : DeletionDue env settings now adminProjectId earlier r later ↔
        reclaimReached env settings now adminProjectId earlier r later = true := by
      simp only [reclaimReached, Bool.and_eq_true, Bool.not_eq_true', any_filter_eq_false, List.forall_mem_map]
      constructor
      · intro due
        exact ⟨due.unfailed, due.overdue, due.before⟩
      · rintro ⟨unfailed, overdue, before⟩
        exact ⟨toDelete.called, overdue, unfailed, before⟩
    rw [due]
    unfold outcome
    split
    · next reached =>
      have deleted := (outcome_deletes_iff own toDelete).mpr reached
      rw [outcome, if_pos reached] at deleted
      simp [deleted, reached]
    · next missed => simp [warnOutcome_deletions, missed]
  · rw [outcome_idle own toDelete, warnOutcome_deletions]
    refine iff_of_true rfl fun due => toDelete ⟨due.called, watched, due.unfailed r (by simp), due.overdue⟩

/-- Nothing is done about a row that is exempt. -/
theorem outcome_exempt (own : OwnCalls env) (exempted : exempt adminProjectId r.projectId = true) :
    (outcome env settings now adminProjectId earlier r later).mails = [] ∧
      (outcome env settings now adminProjectId earlier r later).deletions = [] := by
  have unmailed : mails adminProjectId r = false := by simp [mails, Unwarned, exempted]
  have kept : ¬ ToDelete env settings now adminProjectId r := fun toDelete => by
    simp [toDelete.watched] at exempted
  rw [outcome_idle own kept, warnOutcome_mails, warnOutcome_deletions, unmailed]
  simp

end

/-! ## The project that is exempt -/

section
variable {directory : Directory} {projectsList : String → Except Exn (List Project)} {name : String} {a : Project}

/-- The lookup succeeds, and Keystone lists the project first. -/
def FirstListed (projectsList : String → Except Exn (List Project)) (name : String) (a : Project) : Prop :=
  ∃ others, projectsList name = .ok (a :: others)

/-- The exemption is that of the project exactly where it is listed first. -/
theorem exempt_iff (member : a ∈ directory.projects) (answers : Answers directory name (projectsList name)) :
    exempt (getAdminProjectId projectsList name) a.id = true ↔ FirstListed projectsList name a := by
  unfold FirstListed getAdminProjectId
  cases answer : projectsList name with
  | error e => simp [exempt, truthy?]
  | ok listed =>
    cases listed with
    | nil => simp [exempt, truthy?]
    | cons p others =>
      rw [answer] at answers
      have inside : p ∈ directory.projects := (List.mem_filter.mp (answers.subset List.mem_cons_self)).1
      have identified : truthy p.id = true := by simpa [truthy] using directory.identified p inside
      simp only [exempt, truthy?, identified, Bool.true_and, beq_iff_eq, Option.some.injEq, Except.ok.injEq,
        List.cons.injEq, exists_and_left, exists_eq', and_true]
      exact ⟨List.inj_on_of_nodup_map directory.ids inside member, congrArg Project.id⟩

end

/-- A cycle that is not enabled does nothing. -/
theorem check_disabled (env : Env) (projectsList : String → Except Exn (List Project)) {settings : LifecycleSettings}
    (now : Int) (table : LifecycleTable) (disabled : settings.enabled = false) :
    check env projectsList settings now table = ⟨table, [], []⟩ := by
  simp [check, cycle, runLifecycleCheck, disabled]

/-- A cycle spares every instance of the admin project exactly where it is not enabled, where
    the lookup succeeds and lists that project first, or where no row of the project is both
    due and come to. -/
theorem admin_exempted_iff (env : Env) (openstack : Group) (accepts : String → Bool) (directory : Directory)
    (systemProjectDomain : String) (projectsList : String → Except Exn (List Project)) (settings : LifecycleSettings)
    (now : Int) (table : LifecycleTable) (a : Project)
    (admin : a ∈ directory.named settings.adminProject systemProjectDomain)
    (answers : Answers directory settings.adminProject (projectsList settings.adminProject)) :
    Exempted a.id table (check (reaching env openstack accepts) projectsList settings now table) ↔
      settings.enabled = false ∨ FirstListed projectsList settings.adminProject a ∨
        ∀ earlier r later, table.rows = earlier ++ r :: later → r.projectId = a.id →
          ¬ MailDue (reaching env openstack accepts) now (getAdminProjectId projectsList settings.adminProject) earlier r ∧
          ¬ DeletionDue (reaching env openstack accepts) settings now
            (getAdminProjectId projectsList settings.adminProject) earlier r later := by
  have own := reaching_ownCalls env openstack accepts
  have member : a ∈ directory.projects := (List.mem_filter.mp admin).1
  by_cases disabled : settings.enabled = false
  · refine iff_of_true (fun r _ _ => ?_) (.inl disabled)
    rw [check_disabled _ _ _ _ disabled]
    exact ⟨rfl, rfl⟩
  have enabled : settings.enabled = true := by simpa using disabled
  rw [or_iff_right disabled]
  by_cases first : FirstListed projectsList settings.adminProject a
  · refine iff_of_true (fun r inside same => ?_) (.inl first)
    obtain ⟨earlier, later, split⟩ := List.append_of_mem inside
    have exempted := same ▸ (exempt_iff member answers).mpr first
    rw [Spared, check, cycle_effect own enabled split]
    exact outcome_exempt own exempted
  · have watched : exempt (getAdminProjectId projectsList settings.adminProject) a.id = false := by
      simpa using mt (exempt_iff member answers).mp first
    rw [or_iff_right first]
    constructor
    · intro exempted earlier r later split same
      have spared := exempted r (by simp [Table.mem_rows, split]) same
      rw [Spared, check, cycle_effect own enabled split] at spared
      exact ⟨(outcome_mails_nil_iff (same ▸ watched)).mp spared.1,
        (outcome_deletions_nil_iff own (same ▸ watched)).mp spared.2⟩
    · intro idle r inside same
      obtain ⟨earlier, later, split⟩ := List.append_of_mem inside
      obtain ⟨unmailed, kept⟩ := idle earlier r later split same
      rw [Spared, check, cycle_effect own enabled split]
      exact ⟨(outcome_mails_nil_iff (same ▸ watched)).mpr unmailed,
        (outcome_deletions_nil_iff own (same ▸ watched)).mpr kept⟩

/-! ## Two projects of one name -/

def defaultDomain : Session.Domain := ⟨"default", "Default"⟩

def serviceProject : Project := ⟨"service-id", "service", defaultDomain⟩

/-- A project of the same name in a tenant's domain. -/
def namesake : Project := ⟨"namesake-id", "service", ⟨"tenant", "Tenant"⟩⟩

def twoServices : Directory where
  projects := [serviceProject, namesake]
  ids := by decide
  names := by decide
  identified := by decide

/-- A table with one row of the admin project, which has expired. -/
def infrastructure : LifecycleTable := only { expired "vm" with projectId := "service-id" }

/-- The instance is spared where Keystone lists its project first. -/
theorem listed_first_exempted : Exempted "service-id" infrastructure
    (check (reaching calm (openstackGroup fun _ => .null) fun _ => true) (fun _ => .ok [serviceProject, namesake])
      weekly 100 infrastructure) :=
  (admin_exempted_iff calm (openstackGroup fun _ => .null) (fun _ => true) twoServices "Default" _ weekly 100
    infrastructure serviceProject (by simp [Directory.named, twoServices, weekly, serviceProject, defaultDomain])
    (by simp [Answers, twoServices, weekly, serviceProject, namesake])).mpr (.inr (.inl ⟨_, rfl⟩))

/-- Where Keystone lists the namesake first, the instance is warned about. -/
theorem namesake_first_not_exempted :
    ¬ ∀ (env : Env) (openstack : Group) (accepts : String → Bool) (directory : Directory) (systemProjectDomain : String)
      (projectsList : String → Except Exn (List Project)) (settings : LifecycleSettings) (now : Int)
      (table : LifecycleTable), ∀ a ∈ directory.named settings.adminProject systemProjectDomain,
        Answers directory settings.adminProject (projectsList settings.adminProject) →
          Exempted a.id table (check (reaching env openstack accepts) projectsList settings now table) := by
  intro always
  have exempted := always calm (openstackGroup fun _ => .null) (fun _ => true) twoServices "Default"
    (fun _ => .ok [namesake, serviceProject]) weekly 100 infrastructure serviceProject
    (by simp [Directory.named, twoServices, weekly, serviceProject, defaultDomain])
    (by simpa [Answers, twoServices, weekly, serviceProject, namesake] using List.Perm.swap _ _ _)
  have unmailed := (exempted _ (List.mem_singleton_self _) rfl).1
  revert unmailed
  decide

end Skyline.AdminExemption
