import Skyline.InstanceDeletion
import Skyline.Provisioning
import Skyline.Threads

/-!
Deletion that overtakes provisioning. `delete_instance` takes away what belongs to a
server: it lists the Proxy's rules of the server and deletes them, and at the end deletes
the lifecycle row. But a server may be deleted from the moment Nova has created it, and
`_provision_instance` then goes on for minutes: it asks the Proxy for its rules and inserts
the row without looking whether the server is still there. What is posted after the
listing, and inserted after the deletion, stays; and so does a rule that is listed, where
the Proxy knows it by another id than the one that the deletion asks for.
-/
namespace Skyline.Overtaking
open Skyline.Effects Skyline.Programs Skyline.Python Skyline.Runs Skyline.Services Skyline.Tables Skyline.Threads
open Skyline.Provisioning
open Skyline.Cloud (KeystoneSession)
open Skyline.InstanceDeletion (idOrRuleId cleanProxy cleanNeutron deleteInstance)
open Skyline.Session (Profile)

/-! ## Provisioning and deletion -/

inductive Job
  | provision (session : KeystoneSession) (profile : Profile) (inst : InstanceCreate)
  | delete (instanceId : String) (profile : Profile)
  deriving DecidableEq

def program (conf : Conf) (lib : Lib) : Job → Remote Unit
  | .provision session profile inst => provisionInstance conf lib session profile inst
  | .delete instanceId profile => ofCloud do
    let _ ← deleteInstance instanceId profile
    return ()

abbrev Work : Type := Thread Job Answer Exn Unit
abbrev Works : Type := Pool (World Call State) Job Answer Exn Unit

/-- All the ways in which provisioning tasks and deletions interleave. -/
def works (env : Env) (conf : Conf) (lib : Lib) (w : World Call State) : System Works (Label Job) (Label Job) :=
  pool env.backend.serve (program conf lib) w

/-! ## The phases of a job -/

inductive Phase
  /-- A task whose server has not been created. -/
  | booting
  /-- A task that Nova has created the server for. -/
  | made (serverId : String)
  | listing (instanceId : String)
  /-- The deletion has listed the Proxy's rules, and is still to ask for these to be deleted. -/
  | clearing (instanceId : String) (paths : List String)
  /-- Nova has deleted the server. -/
  | deleted (instanceId : String)
  /-- The lifecycle row has been deleted, too. -/
  | closed (instanceId : String)
  /-- A call to the Proxy or the database has failed. -/
  | lost
  deriving DecidableEq

/-- Calls that change neither the Proxy's rules, nor Nova's servers, nor the lifecycle table. -/
def Quiet : Cloud.Call → Prop
  | .proxy (.byVm _) => True
  | .proxy _ | .nova _ (.deleteServer _) | .database (.deleteInstanceLifecycle _) => False
  | _ => True

/-- The calls of a deletion. -/
def deleting : Protocol Cloud.Answer Exn Phase where
  may
    | .listing i, c => (∃ keystoneToken projectId, c = .generateSession keystoneToken projectId) ∨ c = .proxy (.byVm i)
    | .clearing _ (path :: _), c => c = .proxy (.delete path)
    | .clearing i [], c => Quiet c ∨ ∃ session, c = .nova session (.deleteServer i)
    | .deleted i, c => (∃ record, c = .database (.createActivityRecord record)) ∨ c = .database (.deleteInstanceLifecycle i)
    | .lost, _ => True
    | _, _ => False
  next
    | .listing i, .proxy (.byVm _), .ok (.ok rules) => .clearing i ((rules.map idOrRuleId).filter truthy)
    | .listing _, .proxy (.byVm _), _ => .lost
    | .clearing i (_ :: paths), .proxy (.delete _), .ok _ => .clearing i paths
    | .clearing _ (_ :: _), _, _ => .lost
    | .clearing i [], .nova _ (.deleteServer _), .ok _ => .deleted i
    | .deleted i, .database (.deleteInstanceLifecycle _), .ok _ => .closed i
    | .deleted _, .database _, .error _ => .lost
    | q, _, _ => q

/-- Calls that leave the Proxy's rules and the lifecycle table as they are, and every server in place. -/
def Calm : Call → Prop
  | .cloud c => Quiet c
  | .post _ | .createInstanceLifecycle _ => False
  | _ => True

/-- The calls of a job. -/
def steps : Protocol Answer Exn Phase where
  may
    | .booting, c => Calm c
    | .made i, c => Calm c ∨ (∃ payload, payload.userVmId = i ∧ c = .post payload) ∨
      ∃ record, record.instanceId = i ∧ c = .createInstanceLifecycle record
    | q, .cloud c => deleting.may q c
    | _, _ => False
  next
    | .booting, .createServer _ _, .ok serverId => .made serverId
    | .booting, _, _ => .booting
    | .made i, _, _ => .made i
    | q, .cloud c, r => deleting.next q c r
    | q, _, _ => q

def begun : Job → Phase
  | .provision _ _ _ => .booting
  | .delete instanceId _ => .listing instanceId

/-- A job may end in the phase: a deletion does not end between Nova and the lifecycle table. -/
def Phase.Final (q : Phase) : Prop := ∀ i, q ≠ .deleted i

/-! ## Jobs keep to their phases -/

section
variable {α : Type}

theorem lost_follows {post : Except Exn α → Phase → Prop} (fits : ∀ r, post r .lost) (m : Cloud.Remote α) :
    Follows deleting post m .lost :=
  .of_uses (fun _ _ => trivial) (fun _ _ _ => rfl) (Program.uses_any m) fits

theorem quiet_next (instanceId : String) {c : Cloud.Call} (quiet : Quiet c) (r : Except Exn (Cloud.Answer c)) :
    deleting.next (.clearing instanceId []) c r = .clearing instanceId [] := by
  cases c with
  | nova session request => cases request <;> first | rfl | exact quiet.elim
  | _ => rfl

theorem quiet_stays {instanceId : String} {m : Cloud.Remote α} (uses : m.Uses Quiet) :
    Follows deleting (fun _ q => q = .clearing instanceId []) m (.clearing instanceId []) :=
  .of_uses (fun _ quiet => Or.inl quiet) (fun _ r quiet => quiet_next instanceId quiet r) uses fun _ => rfl

theorem ignoring_follows {m : Cloud.Remote Unit} {post : Except Exn Unit → Phase → Prop} {q : Phase}
    (body : Follows deleting (fun _ q => post (.ok ()) q) m q) :
    Follows deleting post (Program.ignoring m) q := by
  refine .attempt (body.weaken fun r q fits => ?_)
  cases r with
  | ok _ => exact fits
  | error e => exact fits

end

theorem getPortforwardingsByVm_follows (instanceId : String) :
    Follows deleting (fun r q => q = .lost ∨
        ∃ rules, r = .ok rules ∧ q = .clearing instanceId ((rules.map idOrRuleId).filter truthy))
      (Clients.Portforward.getPortforwardingsByVm instanceId) (.listing instanceId) := by
  refine .attempt (.bind (.remote (.inr rfl) fun r => ?_))
  cases r with
  | error e => exact lost_follows (fun _ => .inl rfl) _
  | ok response =>
    cases response with
    | ok rules => exact .inr ⟨rules, rfl, rfl⟩
    | error statusCode detail => exact .ite (fun again => by cases again) fun _ => .raise (.inl rfl)

/-- The rule has been asked to be deleted, or a call has failed. -/
abbrev Asked {α : Type} (instanceId : String) (paths : List String) (_ : Except Exn α) (q : Phase) : Prop :=
  q = .clearing instanceId paths ∨ q = .lost

theorem deletePortforwarding_follows (instanceId path : String) (paths : List String) :
    Follows deleting (Asked instanceId paths) (Clients.Portforward.deletePortforwarding path)
      (.clearing instanceId (path :: paths)) := by
  refine .attempt (.bind (.remote rfl fun r => ?_))
  cases r with
  | error e => exact lost_follows (fun _ => .inr rfl) _
  | ok response =>
    cases response with
    | ok body => exact .inl rfl
    | error statusCode detail => exact .ite (fun again => by cases again) fun _ => .raise (.inl rfl)

theorem clearing_follows (instanceId : String) (extPfs : List Proxy.Rule) :
    Follows deleting (Asked instanceId [])
      (Program.forEach extPfs fun extPf => Program.ignoring <|
        if truthy (idOrRuleId extPf) then Clients.Portforward.deletePortforwarding (idOrRuleId extPf) else pure ())
      (.clearing instanceId ((extPfs.map idOrRuleId).filter truthy)) := by
  induction extPfs with
  | nil => exact .inl rfl
  | cons extPf extPfs ih =>
    refine .bind (ignoring_follows ?_)
    dsimp only
    by_cases long : truthy (idOrRuleId extPf) = true
    · rw [List.map_cons, List.filter_cons_of_pos long, if_pos long]
      refine (deletePortforwarding_follows instanceId _ _).weaken fun _ q asked => ?_
      rcases asked with rfl | rfl
      · exact ih
      · exact lost_follows (fun _ => .inr rfl) _
    · rw [List.map_cons, List.filter_cons_of_neg long, if_neg long]
      exact ih

theorem cleanProxy_follows (instanceId : String) :
    Follows deleting (Asked instanceId []) (cleanProxy instanceId) (.listing instanceId) := by
  refine ignoring_follows (.bind ((getPortforwardingsByVm_follows instanceId).weaken fun r q listed => ?_))
  rcases listed with rfl | ⟨rules, rfl, rfl⟩
  · cases r with
    | ok rules => exact lost_follows (fun _ => .inr rfl) _
    | error e => exact .inr rfl
  · exact clearing_follows instanceId rules

theorem cleanNeutron_quiet (session : KeystoneSession) (instanceId : String) :
    (cleanNeutron session instanceId).Uses Quiet := by
  have reads : ∀ c : Cloud.Call, c.Reads → Quiet c := by
    intro c reads
    cases c with
    | proxy request => cases request <;> first | exact trivial | exact reads.elim
    | nova session request => cases request <;> first | exact trivial | exact reads.elim
    | database request => exact reads.elim
    | _ => exact trivial
  refine .attempt (.bind ((Clients.awaitInternalIp_reads session instanceId 10).mono reads) fun ip =>
    .ite (.bind ?_ fun pfs => ?_) (.pure ())) fun _ => .pure ()
  · exact .bind (.remote trivial) fun fips => .gather fun fip =>
      .attempt (.bind (.remote trivial) fun pfs => .pure _) fun _ => .pure _
  · exact .forEach fun pf => .attempt (.remote trivial) fun _ => .pure ()

theorem deleteServer_follows (session : KeystoneSession) (instanceId : String) :
    Follows deleting (fun r q => match r with | .ok _ => q = .deleted instanceId | .error _ => q.Final)
      (Clients.deleteServer session instanceId) (.clearing instanceId []) := by
  refine .attempt (.remote (.inr ⟨session, rfl⟩) fun r => ?_)
  cases r with
  | ok _ => rfl
  | error e => exact .raise fun _ => nofun

theorem record_follows (instanceId : String) (record : Cloud.ActivityRecord) :
    Follows deleting (fun r q => match r with | .ok _ => q = .deleted instanceId | .error _ => q.Final)
      (Cloud.database (.createActivityRecord record)) (.deleted instanceId) := by
  refine .remote (.inl ⟨record, rfl⟩) fun r => ?_
  cases r with
  | ok _ => rfl
  | error e => exact fun _ => nofun

theorem close_follows (instanceId : String) :
    Follows deleting (fun _ q => q.Final)
      (Program.ignoring (Cloud.database (.deleteInstanceLifecycle instanceId))) (.deleted instanceId) := by
  refine ignoring_follows (.remote (.inr rfl) fun r => ?_)
  cases r with
  | ok _ => exact fun _ => nofun
  | error e => exact fun _ => nofun

theorem final_bind {α β : Type} {m : Cloud.Remote β} {f : β → Cloud.Remote α} {mid : Phase → Prop} {q : Phase}
    (first : Follows deleting (fun _ q => mid q) m q) (final : ∀ q, mid q → q.Final)
    (second : ∀ b q, mid q → Follows deleting (fun _ q => q.Final) (f b) q) :
    Follows deleting (fun _ q => q.Final) (m >>= f) q := by
  refine .bind (first.weaken fun r q here => ?_)
  cases r with
  | ok b => exact second b q here
  | error e => exact final q here

theorem final_attempt {α : Type} {m : Cloud.Remote α} {f : Exn → Exn} {q : Phase}
    (body : Follows deleting (fun _ q => q.Final) m q) :
    Follows deleting (fun _ q => q.Final) (Program.attempt m fun e => .raise (f e)) q := by
  refine .attempt (body.weaken fun r q final => ?_)
  cases r with
  | ok _ => exact final
  | error e => exact .raise final

/-- What a deletion does once the rules have been asked to be deleted. -/
theorem finishing_follows (session : KeystoneSession) (instanceId : String) (record : List String → Cloud.ActivityRecord)
    {α : Type} (tasks : List String → α) :
    Follows deleting (fun _ q => q.Final) (do
      cleanNeutron session instanceId
      let volumeIds ← Clients.getServerVolumes session instanceId
      Clients.deleteServer session instanceId
      Cloud.database (.createActivityRecord (record volumeIds))
      Program.ignoring (Cloud.database (.deleteInstanceLifecycle instanceId))
      return tasks volumeIds) (.clearing instanceId []) := by
  have final : ∀ q : Phase, q = .clearing instanceId [] → q.Final := by
    rintro _ rfl _
    exact nofun
  refine final_bind (quiet_stays (cleanNeutron_quiet session instanceId)) final ?_
  rintro _ _ rfl
  refine final_bind (quiet_stays (.attempt (.remote trivial) fun _ => .raise _)) final ?_
  rintro volumeIds _ rfl
  refine .bind ((deleteServer_follows session instanceId).weaken fun r q after => ?_)
  cases r with
  | error e => exact after
  | ok _ =>
    obtain rfl := after
    refine .bind ((record_follows instanceId _).weaken fun r q after => ?_)
    cases r with
    | error e => exact after
    | ok _ =>
      obtain rfl := after
      exact final_bind (close_follows instanceId) (fun _ => id) fun _ _ => id

theorem deleteInstance_follows (instanceId : String) (profile : Profile) :
    Follows deleting (fun _ q => q.Final) (deleteInstance instanceId profile) (.listing instanceId) := by
  refine .bind (.bind (.remote (.inl ⟨_, _, rfl⟩) fun r => ?_))
  cases r with
  | error e => exact fun _ => nofun
  | ok _ =>
    refine final_attempt (final_bind (cleanProxy_follows instanceId) ?_ ?_)
    · rintro _ (rfl | rfl) _
      · exact nofun
      · exact nofun
    · rintro _ _ (rfl | rfl)
      · exact finishing_follows _ instanceId _ _
      · exact lost_follows (fun _ _ => nofun) _

theorem made_follows {serverId : String} {m : Remote Unit} {post : Except Exn Unit → Phase → Prop}
    (uses : m.Uses (steps.may (.made serverId))) (fits : ∀ r, post r (.made serverId)) :
    Follows steps post m (.made serverId) :=
  .of_uses (fun _ may => may) (fun _ _ _ => rfl) uses fits

theorem waits_calm {c : Call} (waits : c.Waits) : Calm c := by
  cases c with
  | cloud c =>
    cases c with
    | nova session request => cases request <;> first | exact trivial | exact waits.elim
    | generateSession _ _ => exact trivial
    | _ => exact waits.elim
  | getServerStatus _ _ => exact trivial
  | _ => exact waits.elim

theorem provisionInstance_follows (conf : Conf) (lib : Lib) (session : KeystoneSession) (profile : Profile)
    (inst : InstanceCreate) :
    Follows steps (fun _ q => q.Final) (provisionInstance conf lib session profile inst) .booting := by
  have booted : Follows steps (fun r q => q.Final ∧ ∀ serverId, r = .ok serverId → q = .made serverId)
      (boot conf lib session inst) .booting := by
    refine boot_follows conf lib session inst ?_ ?_ (fun e => ⟨?_, ?_⟩) fun body _ => ?_
    · intro c boots
      cases c with
      | tokenUrlsafe | createVolume _ _ _ _ | getVolumeStatus _ _ => exact trivial
      | _ => exact boots.elim
    · intro c r boots
      cases c with
      | createServer _ _ => exact boots.elim
      | _ => rfl
    · intro _ same
      cases same
    · intro _ same
      cases same
    · refine .remote trivial fun r => ?_
      cases r with
      | ok serverId =>
        refine ⟨fun _ same => (by cases same), fun _ same => ?_⟩
        cases same
        rfl
      | error e => exact ⟨fun _ same => (by cases same), fun _ same => by cases same⟩
  refine .attempt (.bind (booted.weaken fun r q after => ?_))
  cases r with
  | error e => exact after.1
  | ok serverId =>
    obtain rfl := after.2 serverId rfl
    refine made_follows (.bind ((setupInstanceNetworking_networks _ _ _ _).mono ?_) fun _ =>
      (registerLifecycle_registers _ _ _ _ _).mono ?_) fun r => ?_
    · rintro c (waits | ⟨payload, named, rfl⟩)
      · exact .inl (waits_calm waits)
      · exact .inr (.inl ⟨payload, named, rfl⟩)
    · intro c registers
      cases c with
      | getSetting _ | time => exact .inl trivial
      | createInstanceLifecycle record => exact .inr (.inr ⟨record, registers, rfl⟩)
      | _ => exact registers.elim
    · cases r with
      | ok _ =>
        intro _ same
        cases same
      | error e =>
        intro _ same
        cases same

theorem program_follows (conf : Conf) (lib : Lib) (job : Job) :
    Follows steps (fun _ q => q.Final) (program conf lib job) (begun job) := by
  cases job with
  | provision session profile inst => exact provisionInstance_follows conf lib session profile inst
  | delete instanceId profile =>
    refine .lift (Q := deleting) (fun q c may => ?_) (fun q c r => ?_)
      (final_bind (deleteInstance_follows instanceId profile) (fun _ => id) fun _ _ => id)
    · cases q with
      | booting | made _ => exact may.elim
      | _ => exact may
    · rw [Except.map_id]
      cases q with
      | booting | made _ => rfl
      | _ => rfl

/-! ## Punctual provisioning -/

abbrev phaseOf (t : Work) : Phase := phase steps begun t

/-- The deletion has listed the rules of the server. -/
def Phase.hasListed (instanceId : String) : Phase → Bool
  | .clearing i _ | .deleted i | .closed i => i = instanceId
  | _ => false

/-- Nova has deleted the server for the deletion. -/
def Phase.hasDeleted (instanceId : String) : Phase → Bool
  | .deleted i | .closed i => i = instanceId
  | _ => false

def Phase.isClosed (instanceId : String) : Phase → Bool
  | .closed i => i = instanceId
  | _ => false

/-- A deletion asks for the rule under the id by which the Proxy knows it. -/
def Addressed (r : Proxy.Rule) : Prop := idOrRuleId r = r.ruleId ∧ truthy r.ruleId = true

instance (r : Proxy.Rule) : Decidable (Addressed r) := inferInstanceAs (Decidable (_ ∧ _))

/-- A rule is posted only while no deletion of its server has listed the server's rules, a
    lifecycle row is inserted only while no deletion of its server has deleted the row, and a
    deletion lists only rules that it will ask for under the ids by which the Proxy knows them. -/
def Punctual (p : Works) (_ : Work) : Call → Prop
  | .post payload => ∀ u ∈ p.threads, (phaseOf u).hasListed payload.userVmId = false
  | .createInstanceLifecycle record => ∀ u ∈ p.threads, (phaseOf u).isClosed record.instanceId = false
  | .cloud (.proxy (.byVm vmId)) => ∀ r ∈ p.state.state.cloud.proxy.rows, r.userVmId = vmId → Addressed r
  | _ => True

/-- What the phase of a job says about the cloud. -/
def Sound (cloud : Cloud.State) : Phase → Prop
  | .clearing i paths => ∀ r ∈ cloud.proxy, r.userVmId = i → r.ruleId ∈ paths
  | .deleted i => ∀ r ∈ cloud.proxy, r.userVmId ≠ i
  | .closed i => (∀ r ∈ cloud.proxy, r.userVmId ≠ i) ∧ ∀ row ∈ cloud.lifecycle, row.instanceId ≠ i
  | .lost => False
  | _ => True

/-- Where only rules and rows have gone, every phase stays sound. -/
theorem Sound.mono {before after : Cloud.State} {q : Phase} (sound : Sound before q)
    (rules : ∀ r ∈ after.proxy, r ∈ before.proxy) (rows : ∀ row ∈ after.lifecycle, row ∈ before.lifecycle) :
    Sound after q := by
  cases q with
  | clearing i paths => exact fun r member => sound r (rules r member)
  | deleted i => exact fun r member => sound r (rules r member)
  | closed i => exact ⟨fun r member => sound.1 r (rules r member), fun row member => sound.2 row (rows row member)⟩
  | lost => exact sound
  | booting | made _ | listing _ => exact trivial

/-! ### What the calls do -/

section
variable {env : Env} {n : Nat} {s : State}

variable (env n s) in
theorem calm_keeps {c : Call} (calm : Calm c) :
    (perform env n s c).2.cloud.proxy = s.cloud.proxy ∧ (perform env n s c).2.cloud.lifecycle = s.cloud.lifecycle ∧
      ∀ server ∈ s.cloud.servers, server ∈ (perform env n s c).2.cloud.servers := by
  cases c with
  | cloud c =>
    cases c with
    | proxy request =>
      cases request with
      | byVm vmId =>
        have kept : (perform env n s (.cloud (.proxy (.byVm vmId)))).2 = s := by
          rw [perform, Cloud.perform_reads env.cloud (c := .proxy (.byVm vmId)) trivial]
        rw [kept]
        exact ⟨rfl, rfl, fun _ => id⟩
      | _ => exact calm.elim
    | nova session request =>
      have reads : request.Reads := by cases request <;> trivial
      have kept : (perform env n s (.cloud (.nova session request))).2 = s := by
        rw [perform, Cloud.perform_reads env.cloud (c := .nova session request) reads]
      rw [kept]
      exact ⟨rfl, rfl, fun _ => id⟩
    | database request => cases request <;> first | exact ⟨rfl, rfl, fun _ => id⟩ | exact calm.elim
    | _ => exact ⟨rfl, rfl, fun _ => id⟩
  | createServer session request =>
    dsimp only [perform, createServer]
    rcases env.serverService.creation s _ request.name with ⟨_, inserted, made⟩ | ⟨_, none⟩
    · rw [made]
      exact ⟨rfl, rfl, fun _ member => (Table.mem_insert inserted).mpr (.inl member)⟩
    · rw [none]
      exact ⟨rfl, rfl, fun _ => id⟩
  | post _ | createInstanceLifecycle _ => exact calm.elim
  | _ => exact ⟨rfl, rfl, fun _ => id⟩

theorem createServer_there {session : KeystoneSession} {request : ServerCreate} {serverId : String}
    (created : (perform env n s (.createServer session request)).1 = .ok serverId) :
    ∃ server ∈ (perform env n s (.createServer session request)).2.cloud.servers, server.id = serverId := by
  revert created
  dsimp only [perform, createServer]
  rcases env.serverService.creation s _ request.name with ⟨_, inserted, made⟩ | ⟨_, none⟩
  · rw [made]
    intro created
    exact ⟨_, (Table.mem_insert inserted).mpr (.inr rfl), Except.ok.inj created⟩
  · rw [none]
    exact nofun

theorem mem_post {payload : ForwardPayload} {r : Proxy.Rule} :
    r ∈ (perform env n s (.post payload)).2.cloud.proxy ↔
      r ∈ s.cloud.proxy ∨ r = payload.rule (env.choose s.cloud.proxy payload n).1 := by
  show r ∈ s.cloud.proxy.rows ++ [_] ↔ _
  rw [List.mem_append, List.mem_singleton]
  rfl

theorem mem_insertLifecycle {record : LifecycleRecord} {row : Lifecycle.Row}
    (member : row ∈ (perform env n s (.createInstanceLifecycle record)).2.cloud.lifecycle) :
    row ∈ s.cloud.lifecycle ∨ row.instanceId = record.instanceId := by
  revert member
  dsimp only [perform, insertLifecycle]
  split
  · next inserted =>
    intro member
    rcases (Table.mem_insert inserted).mp member with old | rfl
    · exact .inl old
    · exact .inr rfl
  · exact .inl

variable (env n s) in
theorem perform_insertLifecycle (record : LifecycleRecord) :
    (perform env n s (.createInstanceLifecycle record)).2.cloud.proxy = s.cloud.proxy ∧
      (perform env n s (.createInstanceLifecycle record)).2.cloud.servers = s.cloud.servers := by
  dsimp only [perform, insertLifecycle]
  split <;> exact ⟨rfl, rfl⟩

section
variable (accepts : ∀ request n, env.proxyRefuses request n = none)
include accepts

theorem perform_byVm (vmId : String) :
    perform env n s (.cloud (.proxy (.byVm vmId))) = (.ok (.ok (Proxy.byVm s.cloud.proxy vmId)), s) := by
  simp only [perform, Cloud.Call.perform, Env.cloud, accepts, env.proxyService.byVm]

/-- A rule that the Proxy is asked to delete is gone, and no rule is new. -/
theorem mem_deletePath {path : String} {r : Proxy.Rule} :
    r ∈ (perform env n s (.cloud (.proxy (.delete path)))).2.cloud.proxy ↔ r ∈ s.cloud.proxy ∧ r.ruleId ≠ path := by
  simp only [perform, Cloud.Call.perform, Env.cloud, accepts]
  exact env.proxyService.mem_deleted

end

/-! ### What a step of a job leaves -/

/-- A job that is not lost makes calm calls, posts, inserts or deletes. -/
theorem may_kinds {q : Phase} {c : Call} (sound : Sound s.cloud q) (may : steps.may q c) :
    Calm c ∨ (∃ payload, c = .post payload) ∨ (∃ record, c = .createInstanceLifecycle record) ∨
      (∃ path, c = .cloud (.proxy (.delete path))) ∨ (∃ session i, c = .cloud (.nova session (.deleteServer i))) ∨
        ∃ i, c = .cloud (.database (.deleteInstanceLifecycle i)) := by
  cases q with
  | booting => exact .inl may
  | made i =>
    rcases may with calm | ⟨payload, _, rfl⟩ | ⟨record, _, rfl⟩
    · exact .inl calm
    · exact .inr (.inl ⟨payload, rfl⟩)
    · exact .inr (.inr (.inl ⟨record, rfl⟩))
  | lost => exact sound.elim
  | listing i =>
    cases c with
    | cloud c =>
      rcases may with ⟨_, _, rfl⟩ | rfl
      · exact .inl trivial
      · exact .inl trivial
    | _ => exact may.elim
  | clearing i paths =>
    cases c with
    | cloud c =>
      cases paths with
      | nil =>
        rcases may with quiet | ⟨session, rfl⟩
        · exact .inl quiet
        · exact .inr (.inr (.inr (.inr (.inl ⟨session, i, rfl⟩))))
      | cons path paths =>
        obtain rfl : c = .proxy (.delete path) := may
        exact .inr (.inr (.inr (.inl ⟨path, rfl⟩)))
    | _ => cases paths <;> exact may.elim
  | deleted i =>
    cases c with
    | cloud c =>
      rcases may with ⟨_, rfl⟩ | rfl
      · exact .inl trivial
      · exact .inr (.inr (.inr (.inr (.inr ⟨i, rfl⟩))))
    | _ => exact may.elim
  | closed i =>
    cases c with
    | cloud c => exact may.elim
    | _ => exact may.elim

/-- A rule more is sound for a job that has not listed the rules of its server. -/
theorem sound_post {payload : ForwardPayload} {q : Phase} (sound : Sound s.cloud q)
    (punctual : q.hasListed payload.userVmId = false) : Sound (perform env n s (.post payload)).2.cloud q := by
  have old : ∀ i, (decide (i = payload.userVmId)) = false →
      ∀ r ∈ (perform env n s (.post payload)).2.cloud.proxy, r.userVmId = i → r ∈ s.cloud.proxy := by
    intro i other r member named
    rcases mem_post.mp member with there | rfl
    · exact there
    · exact absurd named.symm (of_decide_eq_false other)
  cases q with
  | clearing i paths => exact fun r member named => sound r (old i punctual r member named) named
  | deleted i => exact fun r member named => sound r (old i punctual r member named) named
  | closed i => exact ⟨fun r member named => sound.1 r (old i punctual r member named) named, sound.2⟩
  | lost => exact sound
  | booting | made _ | listing _ => exact trivial

theorem sound_insertLifecycle {record : LifecycleRecord} {q : Phase} (sound : Sound s.cloud q)
    (punctual : q.isClosed record.instanceId = false) :
    Sound (perform env n s (.createInstanceLifecycle record)).2.cloud q := by
  have rules := (perform_insertLifecycle env n s record).1
  cases q with
  | clearing i paths => rw [Sound, rules]; exact sound
  | deleted i => rw [Sound, rules]; exact sound
  | closed i =>
    rw [Sound, rules]
    refine ⟨sound.1, fun row member named => ?_⟩
    rcases mem_insertLifecycle member with old | new
    · exact sound.2 row old named
    · exact of_decide_eq_false punctual (named.symm.trans new)
  | lost => exact sound
  | booting | made _ | listing _ => exact trivial

section
variable (accepts : ∀ request n, env.proxyRefuses request n = none)
include accepts

/-- What one job does is sound for the others. -/
theorem perform_sound_other {q q' : Phase} {c : Call} (sound : Sound s.cloud q) (sound' : Sound s.cloud q')
    (may : steps.may q' c) (posts : ∀ payload, c = .post payload → q.hasListed payload.userVmId = false)
    (inserts : ∀ record, c = .createInstanceLifecycle record → q.isClosed record.instanceId = false) :
    Sound (perform env n s c).2.cloud q := by
  rcases may_kinds sound' may with calm | ⟨payload, rfl⟩ | ⟨record, rfl⟩ | ⟨path, rfl⟩ | ⟨session, i, rfl⟩ | ⟨i, rfl⟩
  · obtain ⟨rules, rows, _⟩ := calm_keeps env n s calm
    exact sound.mono (by rw [rules]; exact fun _ => id) (by rw [rows]; exact fun _ => id)
  · exact sound_post sound (posts payload rfl)
  · exact sound_insertLifecycle sound (inserts record rfl)
  · exact sound.mono (fun r member => ((mem_deletePath accepts).mp member).1) fun _ => id
  · exact sound.mono (fun _ => id) fun _ => id
  · exact sound.mono (fun _ => id) fun row member => (Table.mem_delete.mp member).1

/-- What a job does is sound for its next phase. -/
theorem perform_sound {q : Phase} {c : Call} (sound : Sound s.cloud q) (may : steps.may q c)
    (addressed : ∀ vmId, c = .cloud (.proxy (.byVm vmId)) → ∀ r ∈ s.cloud.proxy, r.userVmId = vmId → Addressed r) : Sound (perform env n s c).2.cloud (steps.next q c (perform env n s c).1) := by
  cases q with
  | booting =>
    cases c with
    | createServer session request =>
      generalize (perform env n s (.createServer session request)).1 = r
      cases r with
      | ok _ => exact trivial
      | error e => exact trivial
    | _ => exact trivial
  | made i => exact trivial
  | lost => exact sound.elim
  | listing i =>
    cases c with
    | cloud c =>
      rcases may with ⟨_, _, rfl⟩ | rfl
      · exact trivial
      · rw [perform_byVm accepts]
        intro r member named
        have ⟨same, long⟩ := addressed i rfl r member named
        refine List.mem_filter.mpr ⟨List.mem_map.mpr ⟨r, Table.mem_select.mpr ⟨member, beq_iff_eq.mpr named⟩, same⟩, long⟩
    | _ => exact may.elim
  | clearing i paths =>
    cases c with
    | cloud c =>
      cases paths with
      | nil =>
        rcases may with quiet | ⟨session, rfl⟩
        · obtain ⟨rules, rows, _⟩ := calm_keeps env n s (c := .cloud c) quiet
          have stays : steps.next (.clearing i []) (.cloud c) (perform env n s (.cloud c)).1 = .clearing i [] :=
            quiet_next i quiet _
          rw [stays]
          exact sound.mono (by rw [rules]; exact fun _ => id) (by rw [rows]; exact fun _ => id)
        · have cleared : ∀ r ∈ s.cloud.proxy, r.userVmId ≠ i := fun r member named => nomatch sound r member named
          generalize (perform env n s (.cloud (.nova session (.deleteServer i)))).1 = r
          cases r with
          | ok _ => exact cleared
          | error e => exact sound
      | cons path paths =>
        obtain rfl : c = .proxy (.delete path) := may
        intro r member named
        obtain ⟨old, other⟩ := (mem_deletePath accepts).mp member
        exact (List.mem_cons.mp (sound r old named)).resolve_left other
    | _ => cases paths <;> exact may.elim
  | deleted i =>
    cases c with
    | cloud c =>
      rcases may with ⟨_, rfl⟩ | rfl
      · exact sound
      · exact ⟨sound, fun row member => (Table.mem_delete.mp member).2⟩
    | _ => exact may.elim
  | closed i =>
    cases c with
    | cloud c => exact may.elim
    | _ => exact may.elim

end

theorem may_deleteServer {q : Phase} {session : KeystoneSession} {i : String} (sound : Sound s.cloud q)
    (may : steps.may q (.cloud (.nova session (.deleteServer i)))) : q = .clearing i [] := by
  cases q with
  | booting => exact may.elim
  | made j => rcases may with calm | ⟨_, _, named⟩ | ⟨_, _, named⟩ <;> first | exact calm.elim | cases named
  | lost => exact sound.elim
  | listing j => rcases may with ⟨_, _, named⟩ | named <;> cases named
  | clearing j paths =>
    cases paths with
    | nil =>
      rcases may with quiet | ⟨_, named⟩
      · exact quiet.elim
      · cases named
        rfl
    | cons path paths => cases (show Cloud.Call.nova _ _ = Cloud.Call.proxy _ from may)
  | deleted j => rcases may with ⟨_, named⟩ | named <;> cases named
  | closed j => exact may.elim

/-- A server stays where it is, or a deletion of it has got so far. -/
theorem perform_servers {q : Phase} {c : Call} (sound : Sound s.cloud q) (may : steps.may q c) {server : Cloud.Server}
    (member : server ∈ s.cloud.servers) : server ∈ (perform env n s c).2.cloud.servers ∨
      (steps.next q c (perform env n s c).1).hasDeleted server.id = true := by
  rcases may_kinds sound may with calm | ⟨payload, rfl⟩ | ⟨record, rfl⟩ | ⟨path, rfl⟩ | ⟨session, i, rfl⟩ | ⟨i, rfl⟩
  · exact .inl ((calm_keeps env n s calm).2.2 server member)
  · exact .inl member
  · rw [(perform_insertLifecycle _ _ _ record).2]
    exact .inl member
  · exact .inl member
  · obtain rfl := may_deleteServer sound may
    dsimp only [perform, Cloud.Call.perform]
    rcases env.cloud.novaService.deletion (env.cloud.sees session) s.cloud.servers i with gone | ⟨e, refused⟩
    · rw [gone]
      by_cases same : server.id = i
      · exact .inr (decide_eq_true same.symm)
      · exact .inl (Table.mem_delete.mpr ⟨member, same⟩)
    · rw [refused]
      exact .inl member
  · exact .inl member

theorem hasDeleted_next {q : Phase} {c : Call} (may : steps.may q c) {i : String} (gone : q.hasDeleted i = true) :
    (steps.next q c (perform env n s c).1).hasDeleted i = true := by
  cases q with
  | deleted j =>
    cases c with
    | cloud c =>
      rcases may with ⟨_, rfl⟩ | rfl
      · exact gone
      · exact gone
    | _ => exact may.elim
  | closed j =>
    cases c with
    | cloud c => exact may.elim
    | _ => exact may.elim
  | _ => cases gone

/-- A task comes to have a server when Nova creates it. -/
theorem made_next {q : Phase} {c : Call} {i : String} (made : steps.next q c (perform env n s c).1 = .made i) :
    q = .made i ∨ ∃ server ∈ (perform env n s c).2.cloud.servers, server.id = i := by
  have never : ∀ (q : Phase) (c : Cloud.Call) (r : Except Exn (Cloud.Answer c)),
      deleting.next q c r = .made i → q = .made i := by
    intro q c r
    simp only [deleting]
    split <;> first | exact id | exact fun same => by cases same
  cases q with
  | booting =>
    cases c with
    | createServer session request =>
      cases created : (perform env n s (.createServer session request)).1 with
      | ok serverId =>
        rw [created] at made
        cases made
        exact .inr (createServer_there created)
      | error e =>
        rw [created] at made
        cases made
    | _ => cases made
  | made j => exact .inl made
  | _ =>
    cases c with
    | cloud c => exact .inl (never _ c (perform env n s (.cloud c)).1 made)
    | _ => cases made

end

/-! ### The invariant -/

/-- The invariant of punctual jobs. -/
structure Consistent (p : Works) : Prop where
  sound : ∀ t ∈ p.threads, Sound p.state.state.cloud (phaseOf t)
  known : ∀ t ∈ p.threads, ∀ i, phaseOf t = .made i → (∃ server ∈ p.state.state.cloud.servers, server.id = i) ∨
    ∃ u ∈ p.threads, (phaseOf u).hasDeleted i = true

theorem Consistent.start {p : Works} (inv : Consistent p) (conf : Conf) (lib : Lib) (job : Job) :
    Consistent { p with threads := p.threads ++ [⟨job, [], program conf lib job⟩] } := by
  refine ⟨fun t member => ?_, fun t member i made => ?_⟩
  · rcases List.mem_append.mp member with old | new
    · exact inv.sound t old
    · obtain rfl := List.mem_singleton.mp new
      cases job with
      | provision session profile inst => exact trivial
      | delete instanceId profile => exact trivial
  · rcases List.mem_append.mp member with old | new
    · refine (inv.known t old i made).imp_right fun ⟨u, there, gone⟩ => ⟨u, List.mem_append_left _ there, gone⟩
    · obtain rfl := List.mem_singleton.mp new
      cases job with
      | provision session profile inst => cases made
      | delete instanceId profile => cases made

/-- Every call gets there and is answered, and the Proxy refuses none. -/
structure Succeeds (env : Env) : Prop where
  answers : ∀ c n, env.delivery c n = .answered
  accepts : ∀ request n, env.proxyRefuses request n = none

section
variable {env : Env} (succeeds : Succeeds env)
include succeeds

theorem Consistent.advance {p : Works} {i : Nat} {t : Work} {c : Call} {rest : Remote Unit} (inv : Consistent p)
    (there : p.threads[i]? = some t) (may : steps.may (phaseOf t) c) (punctual : Punctual p t c) :
    Consistent ⟨(env.backend.serve c p.state).2, p.threads.set i (t.came c (env.backend.serve c p.state).1 rest)⟩ := by
  obtain ⟨answers, accepts⟩ := succeeds
  rw [Backend.serve_answered (answers c _)]
  have member := List.mem_of_getElem? there
  have sound := inv.sound t member
  refine ⟨fun u among => ?_, fun u among j made => ?_⟩
  · rcases List.mem_or_eq_of_mem_set among with old | rfl
    · refine perform_sound_other accepts (inv.sound u old) sound may ?_ ?_
      · rintro payload rfl
        exact punctual u old
      · rintro record rfl
        exact punctual u old
    · refine perform_sound accepts sound may ?_
      rintro vmId rfl
      exact punctual
  · have moved := moved_mem_set (t.came c (perform env (p.state.calls.count c) p.state.state c).1 rest) there
    have kept : (∃ server ∈ p.state.state.cloud.servers, server.id = j) ∨
        (∃ u ∈ p.threads, (phaseOf u).hasDeleted j = true) →
        (∃ server ∈ (perform env (p.state.calls.count c) p.state.state c).2.cloud.servers, server.id = j) ∨
          ∃ u ∈ p.threads.set i (t.came c (perform env (p.state.calls.count c) p.state.state c).1 rest),
            (phaseOf u).hasDeleted j = true := by
      rintro (⟨server, here, rfl⟩ | ⟨u, here, gone⟩)
      · rcases perform_servers sound may here with still | gone
        · exact .inl ⟨server, still, rfl⟩
        · exact .inr ⟨_, moved, gone⟩
      · rcases mem_set_of_mem _ there here with rfl | still
        · exact .inr ⟨_, moved, hasDeleted_next may gone⟩
        · exact .inr ⟨u, still, gone⟩
    rcases List.mem_or_eq_of_mem_set among with old | rfl
    · exact kept (inv.known u old j made)
    · rcases made_next made with before | created
      · exact kept (inv.known t member j before)
      · exact .inl created

theorem punctual_run {conf : Conf} {lib : Lib} {w : World Call State} {past : List (Label Job)} {p : Works}
    (run : (works env conf lib w).Run (Only Punctual) past p) :
    Consistent p ∧ ∀ t ∈ p.threads, Orderly steps begun (fun _ _ q => q.Final) t := by
  refine run_invariant (program_follows conf lib) ⟨fun _ none => absurd none List.not_mem_nil,
    fun _ none => absurd none List.not_mem_nil⟩ ?_ ?_ run
  · intro p job inv
    exact inv.start conf lib job
  · intro p i t c rest inv there _ may punctual
    exact inv.advance succeeds there may punctual

/-- What is created for a server is gone when all jobs have ended and the server is deleted. -/
theorem punctual_leaves_nothing {conf : Conf} {lib : Lib} {w : World Call State} {past : List (Label Job)} {p : Works}
    (run : (works env conf lib w).Run (Only Punctual) past p) (ended : ∀ t ∈ p.threads, t.upcoming = none)
    {t : Work} (member : t ∈ p.threads) {i : String} (made : phaseOf t = .made i)
    (gone : ∀ server ∈ p.state.state.cloud.servers, server.id ≠ i) :
    (∀ row ∈ p.state.state.cloud.lifecycle, row.instanceId ≠ i) ∧ ∀ r ∈ p.state.state.cloud.proxy, r.userVmId ≠ i := by
  obtain ⟨inv, orderly⟩ := punctual_run succeeds run
  rcases inv.known t member i made with ⟨server, there, named⟩ | ⟨u, among, deleted⟩
  · exact absurd named (gone server there)
  · obtain ⟨_, _, final⟩ := (orderly u among).ended (ended u among)
    have sound := inv.sound u among
    cases here : phaseOf u with
    | deleted j => exact absurd here (final j)
    | closed j =>
      rw [here] at deleted sound
      obtain rfl : j = i := of_decide_eq_true deleted
      exact sound.symm
    | _ =>
      rw [here] at deleted
      cases deleted

end

instance (p : Works) (t : Work) : ∀ c, Decidable (Punctual p t c)
  | .post payload => inferInstanceAs (Decidable (∀ u ∈ p.threads, (phaseOf u).hasListed payload.userVmId = false))
  | .createInstanceLifecycle record =>
    inferInstanceAs (Decidable (∀ u ∈ p.threads, (phaseOf u).isClosed record.instanceId = false))
  | .cloud (.proxy (.byVm vmId)) =>
    inferInstanceAs (Decidable (∀ r ∈ p.state.state.cloud.proxy.rows, r.userVmId = vmId → Addressed r))
  | .cloud (.proxy (.create _)) | .cloud (.proxy (.update _ _)) | .cloud (.proxy (.delete _))
  | .cloud (.generateSession _ _) | .cloud (.neutron _ _) | .cloud (.nova _ _) | .cloud (.database _)
  | .cloud (.randint _ _) | .listServers _ _ _ | .createServer _ _ | .getServerStatus _ _ | .createVolume _ _ _ _
  | .getVolumeStatus _ _ | .getSetting _ | .uuid4 | .tokenUrlsafe | .time => .isTrue trivial

/-- Two projects, without rules at the Proxy. -/
def unforwarded : World Call State where
  state := { settled.state with cloud := { Cloud.twoTenants with proxy := Table.empty } }
  calls := []

abbrev provisionDb : Job := .provision memberSession Session.member { web with volumeSize := none }

abbrev deleteDb : Job := .delete "server-0" Session.member

/-- Nova does not bring the server up, so that no rule is posted for it. -/
def failing : Env := { serving with serverStatus := fun _ _ => "ERROR" }

/-- The Proxy names its rules by their numbers. -/
def numbering : Env where
  __ := serving
  choose rules _ n :=
    let id := rules.rows.length + 1
    if fresh : ∀ r ∈ rules.rows, r.ruleId ≠ toString id then
      ⟨⟨id, toString id, "203.0.113.9", 20000 + n, "active", true, none⟩, fresh⟩
    else ⟨⟨id, freshId rules, "203.0.113.9", 20000 + n, "active", true, none⟩, freshId_fresh rules⟩

/-- A deletion that begins before the lifecycle row is inserted, and gets to the row once it is;
    and one that lists the rules once they are posted. -/
theorem punctual_leaves_nothing_db :
    (∃ past p, (works failing defaults ascii unforwarded).Run (Only Punctual) past p ∧
      p.threads.map Thread.job = [provisionDb, deleteDb] ∧
        (∀ row ∈ p.state.state.cloud.lifecycle, row.instanceId ≠ "server-0") ∧
          ∀ r ∈ p.state.state.cloud.proxy, r.userVmId ≠ "server-0") ∧
    ∃ past p, (works numbering defaults ascii unforwarded).Run (Only Punctual) past p ∧
      p.threads.map Thread.job = [provisionDb, deleteDb] ∧
        (∀ row ∈ p.state.state.cloud.lifecycle, row.instanceId ≠ "server-0") ∧
          ∀ r ∈ p.state.state.cloud.proxy, r.userVmId ≠ "server-0" := by
  constructor
  · obtain ⟨past, p, run, jobs, ended, ⟨t, member, made⟩, gone⟩ := (works failing defaults ascii unforwarded).exec_reaches
      (Only Punctual) (P := fun p => p.threads.map Thread.job = [provisionDb, deleteDb] ∧
        (∀ t ∈ p.threads, t.upcoming = none) ∧ (∃ t ∈ p.threads, phaseOf t = .made "server-0") ∧
          ∀ server ∈ p.state.state.cloud.servers.rows, server.id ≠ "server-0")
      [.start provisionDb, .advance 0, .advance 0, .start deleteDb, .advance 1, .advance 1, .advance 0, .advance 0,
        .advance 1, .advance 1, .advance 1, .advance 1, .advance 0, .advance 0, .advance 0, .advance 0, .advance 1,
        .advance 1, .advance 1] (by decide)
    exact ⟨past, p, run, jobs, punctual_leaves_nothing ⟨fun _ _ => rfl, fun _ _ => rfl⟩ run ended member made gone⟩
  · obtain ⟨past, p, run, jobs, ended, ⟨t, member, made⟩, gone⟩ := (works numbering defaults ascii unforwarded).exec_reaches
      (Only Punctual) (P := fun p => p.threads.map Thread.job = [provisionDb, deleteDb] ∧
        (∀ t ∈ p.threads, t.upcoming = none) ∧ (∃ t ∈ p.threads, phaseOf t = .made "server-0") ∧
          ∀ server ∈ p.state.state.cloud.servers.rows, server.id ≠ "server-0")
      [.start provisionDb, .advance 0, .advance 0, .start deleteDb, .advance 1, .advance 0, .advance 0, .advance 0,
        .advance 0, .advance 0, .advance 1, .advance 0, .advance 1, .advance 1, .advance 0, .advance 1, .advance 1,
        .advance 1, .advance 1, .advance 0, .advance 0, .advance 1, .advance 1, .advance 1] (by decide)
    exact ⟨past, p, run, jobs, punctual_leaves_nothing ⟨fun _ _ => rfl, fun _ _ => rfl⟩ run ended member made gone⟩

/-- Provisioning that has found the address goes on while the server is deleted: its rules and its
    lifecycle row stay behind. -/
theorem deletion_overtakes : ¬ ∀ (env : Env) (conf : Conf) (lib : Lib) (w : World Call State), Succeeds env →
    ∀ past p, (works env conf lib w).AnyRun past p →
      ∀ session profile inst instanceId caller,
        p.threads.map Thread.job = [.provision session profile inst, .delete instanceId caller] →
        (∀ t ∈ p.threads, t.upcoming = none) → (∃ t ∈ p.threads, phaseOf t = .made instanceId) →
        (∀ server ∈ p.state.state.cloud.servers, server.id ≠ instanceId) →
          (∀ row ∈ p.state.state.cloud.lifecycle, row.instanceId ≠ instanceId) ∧
            ∀ r ∈ p.state.state.cloud.proxy, r.userVmId ≠ instanceId := by
  intro nothing
  obtain ⟨past, p, run, jobs, ended, made, gone, left⟩ := (works serving defaults ascii unforwarded).exec_reaches
    (fun _ _ => True) (P := fun p => p.threads.map Thread.job = [provisionDb, deleteDb] ∧
      (∀ t ∈ p.threads, t.upcoming = none) ∧ (∃ t ∈ p.threads, phaseOf t = .made "server-0") ∧
        (∀ server ∈ p.state.state.cloud.servers.rows, server.id ≠ "server-0") ∧
          ∃ r ∈ p.state.state.cloud.proxy.rows, r.userVmId = "server-0")
    [.start provisionDb, .advance 0, .advance 0, .advance 0, .advance 0, .advance 0, .start deleteDb,
      .advance 1, .advance 1, .advance 1, .advance 1, .advance 1, .advance 1, .advance 1, .advance 1, .advance 1,
      .advance 0, .advance 0, .advance 0, .advance 0, .advance 0, .advance 0] (by decide)
  obtain ⟨r, member, named⟩ := left
  exact (nothing serving defaults ascii unforwarded ⟨fun _ _ => rfl, fun _ _ => rfl⟩ past p run _ _ _ _ _ jobs ended
    made gone).2 r member named

end Skyline.Overtaking
