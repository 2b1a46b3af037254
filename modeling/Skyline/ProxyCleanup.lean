import Skyline.DeletionFailure

/-!
The Proxy's rules when their instance is deleted. The clean-up of `delete_instance` asks
the Proxy for the rules of the VM and deletes each by `id or rule_id`: by its number, which
is no `rule_id`, unless the number is 0. The Proxy's routes address rules by `rule_id`, and
what they answer is ignored. So what goes are the rules whose `rule_id` happens to be such a
number, whosever they are, and the clean-up is exact just where these are the rules of the VM.
-/
namespace Skyline.ProxyCleanup
open Skyline.Python Skyline.Tables Skyline.Effects Skyline.Programs Skyline.Retries Skyline.Cloud Skyline.Clients
  Skyline.InstanceDeletion Skyline.DeletionFailure
open Skyline.Services (Backend Delivery)
open Skyline.Session (Profile)

/-- Every request to delete a rule that the Proxy has is carried out and answered. -/
def DeletesSucceed (env : Env) (rules : Proxy.Rules) : Prop :=
  ∀ r ∈ rules, ∀ n, env.delivery (.proxy (.delete r.ruleId)) n = .answered ∧ env.proxyRefuses (.delete r.ruleId) n = none

/-- No rule of the VM is left, and every rule of another VM is. -/
structure RulesExact (vmId : String) (before after : Proxy.Rules) : Prop where
  removed : ∀ r ∈ after, r.userVmId ≠ vmId
  kept : ∀ r ∈ before, r.userVmId ≠ vmId → r ∈ after

/-- The Proxy tells the clean-up the rules of the VM. -/
def Told (env : Env) (w : World) (vmId : String) : Prop := ∃ rules, listed env w vmId = .ok rules

/-- A rule of the VM has this text for its `id or rule_id`. -/
def Addressed (rules : Proxy.Rules) (vmId ruleId : String) : Prop :=
  ∃ x ∈ rules, x.userVmId = vmId ∧ truthy (idOrRuleId x) = true ∧ idOrRuleId x = ruleId

section
variable {env : Env} {w w' : World} {instanceId : String} {profile : Profile} {tasks : List VolumeTask}

/-- What the Proxy lists are the rules of the VM. -/
theorem listed_ok {vmId : String} {rules : List Proxy.Rule} (told : listed env w vmId = .ok rules) :
    rules = Proxy.byVm w.cloud.proxy vmId := by
  obtain ⟨k, answer⟩ := of_tried_ok told
  rw [listing] at answer
  split at answer
  · cases answer
  · cases answer
  · rcases env.proxyService.listing (env.proxyRefuses (.byVm vmId) k) (env.proxyChoice (.byVm vmId) k) w.cloud.proxy vmId
      with found | ⟨_, _, none⟩
    · rw [found] at answer
      exact (Except.ok.inj answer).symm
    · rw [none] at answer
      cases answer

/-- Where the Proxy carries out the deletions, each rule listed is asked for once. -/
theorem deletions_eq {r : Proxy.Rule} (succeed : DeletesSucceed env w.cloud.proxy) (member : r ∈ w.cloud.proxy)
    (rules : List Proxy.Rule) : deletions env w rules r.ruleId =
      rules.countP fun x => truthy (idOrRuleId x) && idOrRuleId x == r.ruleId := by
  have once : sends (networkFails (env.delivery (.proxy (.delete r.ruleId)))) 3 = fun _ => 1 := by
    funext k
    simp [sends, networkFails, (succeed r member k).1]
  rw [deletions, once, repeated_once]

theorem proxyCleans_iff {r : Proxy.Rule} (succeed : DeletesSucceed env w.cloud.proxy) (member : r ∈ w.cloud.proxy) :
    ProxyCleans env instanceId w r ↔ Told env w instanceId ∧ Addressed w.cloud.proxy instanceId r.ruleId := by
  have addressed : ∀ rules, listed env w instanceId = .ok rules →
      (0 < deletions env w rules r.ruleId ↔ Addressed w.cloud.proxy instanceId r.ruleId) := by
    intro rules told
    rw [deletions_eq succeed member, listed_ok told, List.countP_pos_iff]
    simp [Addressed, Proxy.byVm, and_assoc]
  constructor
  · rintro ⟨rules, told, j, less, _⟩
    exact ⟨⟨rules, told⟩, (addressed rules told).mp (Nat.zero_lt_of_lt less)⟩
  · rintro ⟨⟨rules, told⟩, named⟩
    have deletes : ∀ k, deletes env r.ruleId k = true := by
      intro k
      obtain ⟨answered, taken⟩ := succeed r member k
      simp [deletes, answered, taken, Delivery.arrives]
    exact ⟨rules, told, 0, (addressed rules told).mpr named, deletes _⟩

/-- Calls that leave the Proxy's rules alone. -/
def SparesProxy : Call → Prop
  | .proxy _ => False
  | _ => True

theorem sparesProxy_keep {α : Type} {m : Remote α} {r : Except Exn α} (uses : m.Uses SparesProxy)
    (ran : m.run (serve env) w = (r, w')) : w'.cloud.proxy = w.cloud.proxy := by
  have each : ∀ c : Call, SparesProxy c → Eff.Keeps (fun s => s.cloud.proxy = w.cloud.proxy) (serve env c) := by
    intro c spares
    apply serve_keeps env (I := fun cloud => cloud.proxy = w.cloud.proxy)
    intro n cloud same
    cases c with
    | proxy _ => exact spares.elim
    | database request => cases request <;> exact same
    | _ => exact same
  have kept := Program.run_keeps each uses w rfl
  rw [ran] at kept
  exact kept

theorem finish_sparesProxy (session : KeystoneSession) (instanceId : String) (profile : Profile) :
    (finish session instanceId profile).Uses SparesProxy := by
  refine .bind (.attempt (.remote trivial) fun _ => .raise _) fun _ => ?_
  refine .bind (.attempt (.remote trivial) fun _ => .raise _) fun _ => ?_
  exact .bind (.remote trivial) fun _ => .bind (.attempt (.remote trivial) fun _ => .pure ()) fun _ => .pure _

/-- A deletion that succeeds leaves the Proxy's rules but those that the clean-up takes. -/
theorem deleteInstance_proxy (deleted : (deleteInstance instanceId profile).run (serve env) w = (.ok tasks, w'))
    (r : Proxy.Rule) : r ∈ w'.cloud.proxy ↔ r ∈ w.cloud.proxy ∧ ¬ ProxyCleans env instanceId w r := by
  have opens : Opens env profile w := by
    by_contra shut
    obtain ⟨_, w₁, opened, _, _, closed⟩ := sessionOf_run env profile w
    obtain ⟨e, rfl⟩ := closed shut
    rw [deleteInstance_eq, Program.run_bind, Eff.bind_error opened] at deleted
    cases deleted
  obtain ⟨s, same, _, _, proxy, _⟩ := prepared opens instanceId
  rcases ran : (finish (ownSession profile) instanceId profile).run (serve env) s with ⟨result, t⟩
  obtain ⟨_, guarded, _⟩ := guarded_run ran
  rw [deleted, guarded] at same
  obtain rfl : w' = t := congrArg Prod.snd same
  rw [sparesProxy_keep (finish_sparesProxy _ _ _) ran, proxy]

/-- A deletion that succeeds removes exactly the Proxy's rules of the instance iff the rules
    that the clean-up addresses are those: it is told the rules of the instance, and a rule
    has the `id or rule_id` of one of them for its `rule_id` just where it is one of them. -/
theorem deletion_rulesExact_iff (env : Env) (instanceId : String) (profile : Profile) (w w' : World)
    (tasks : List VolumeTask) (succeed : DeletesSucceed env w.cloud.proxy)
    (deleted : (deleteInstance instanceId profile).run (serve env) w = (.ok tasks, w')) :
    RulesExact instanceId w.cloud.proxy w'.cloud.proxy ↔
      ∀ r ∈ w.cloud.proxy, r.userVmId = instanceId ↔
        Told env w instanceId ∧ Addressed w.cloud.proxy instanceId r.ruleId := by
  have remains : ∀ r ∈ w.cloud.proxy,
      (r ∈ w'.cloud.proxy ↔ ¬ (Told env w instanceId ∧ Addressed w.cloud.proxy instanceId r.ruleId)) := by
    intro r member
    rw [deleteInstance_proxy deleted, proxyCleans_iff succeed member, and_iff_right member]
  constructor
  · intro exactly r member
    constructor
    · intro own
      by_contra spared
      exact exactly.removed r ((remains r member).mpr spared) own
    · intro cleaned
      by_contra other
      exact (remains r member).mp (exactly.kept r member other) cleaned
  · intro tells
    refine ⟨fun r there own => ?_, fun r member other => ?_⟩
    · have member := ((deleteInstance_proxy deleted r).mp there).1
      exact (remains r member).mp there ((tells r member).mp own)
    · exact (remains r member).mpr fun cleaned => other ((tells r member).mpr cleaned)

end

/-! ## Two tenants -/

/-- The two tenants, where the Proxy has numbered its rules the same way twice. -/
def numbered : World :=
  ⟨{ twoTenants with proxy := ⟨[sshRule 1 "1" "our-vm", sshRule 2 "2" "their-vm"], by decide⟩ }, []⟩

theorem numbered_rulesExact :
    RulesExact "our-vm" numbered.cloud.proxy
        ((deleteInstance "our-vm" Session.member).run (serve obliging) numbered).2.cloud.proxy ↔
      ∀ r ∈ numbered.cloud.proxy, r.userVmId = "our-vm" ↔
        Told obliging numbered "our-vm" ∧ Addressed numbered.cloud.proxy "our-vm" r.ruleId :=
  deletion_rulesExact_iff obliging "our-vm" Session.member numbered _ [] (fun _ _ _ => ⟨rfl, rfl⟩) rfl

/-- A rule that the Proxy knows by a text of its own choosing is left behind. -/
theorem our_rule_left : ¬ ∀ (env : Env) (instanceId : String) (profile : Profile) (w w' : World)
    (tasks : List VolumeTask), DeletesSucceed env w.cloud.proxy →
      (deleteInstance instanceId profile).run (serve env) w = (.ok tasks, w') →
        RulesExact instanceId w.cloud.proxy w'.cloud.proxy := by
  intro always
  have deleted : (deleteInstance "our-vm" Session.member).run (serve obliging) quiet = (.ok [], _) := rfl
  have left : sshRule 1 "our-proxy-rule" "our-vm" ∈
      ((deleteInstance "our-vm" Session.member).run (serve obliging) quiet).2.cloud.proxy := List.mem_cons_self
  exact (always obliging "our-vm" Session.member quiet _ [] (fun _ _ _ => ⟨rfl, rfl⟩) deleted).removed _ left rfl

end Skyline.ProxyCleanup
