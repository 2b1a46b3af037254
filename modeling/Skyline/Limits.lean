import Mathlib.Data.List.Forall2
import Mathlib.Data.Nat.Basic
import Skyline.Enrichment
import Skyline.Proxy

/-!
The summary of the limits of a project (`api/v1/limits.py`). Each use is the length of a listing;
Neutron's client lists the ports page by page, and the summary has the number of pages.
-/
namespace Skyline.Limits
open Skyline.Effects Skyline.Programs Skyline.Python Skyline.Tables Skyline.Services Skyline.Extension
open Skyline.Session (Profile)
open Skyline.Cloud (KeystoneSession ownSession)

/-! ## Pages -/

section
variable {α : Type}

/-- What a listing comes to page by page: after a full page another one is asked for. -/
def pages (size : Nat) (positive : 0 < size) (xs : List α) : List (List α) :=
  if size ≤ xs.length then xs.take size :: pages size positive (xs.drop size) else [xs]
termination_by xs.length
decreasing_by
  rw [List.length_drop]
  omega

theorem length_pages (size : Nat) (positive : 0 < size) (xs : List α) :
    (pages size positive xs).length = xs.length / size + 1 := by
  induction xs using pages.induct size positive with
  | case1 xs full ih =>
    rw [pages, if_pos full, List.length_cons, ih, List.length_drop, Nat.div_eq_sub_div positive full]
  | case2 xs short => rw [pages, if_neg short, List.length_singleton, Nat.div_eq_of_lt (Nat.lt_of_not_le short)]

end

/-- The size of a page, where there is one. -/
abbrev PageSize : Type := Option {size : Nat // 0 < size}

def paged {α : Type} (size : PageSize) (xs : List α) : List (List α) :=
  match size with
  | none => [xs]
  | some size => pages size.1 size.2 xs

theorem div_succ_eq_iff {n size : Nat} (positive : 0 < size) :
    n / size + 1 = n ↔ n = 1 ∧ size ≠ 1 ∨ n = 2 ∧ size = 2 := by
  rcases Nat.lt_or_ge size 2 with one | more
  · have is : size = 1 := by omega
    rw [is, Nat.div_one]
    omega
  · have half : n / size ≤ n / 2 := Nat.div_le_div_left more (by decide)
    match n with
    | 0 => simp
    | 1 => rw [Nat.div_eq_of_lt more]; omega
    | 2 =>
      rcases Nat.eq_or_lt_of_le more with rfl | greater
      · decide
      · rw [Nat.div_eq_of_lt greater]
        omega
    | n + 3 => omega

/-- There are as many pages as elements in two cases only. -/
theorem length_paged_iff {α : Type} (size : PageSize) (xs : List α) : (paged size xs).length = xs.length ↔
    xs.length = 1 ∧ (∀ own ∈ size, own.1 ≠ 1) ∨ xs.length = 2 ∧ ∃ own ∈ size, own.1 = 2 := by
  match size with
  | none => simp [paged, eq_comm]
  | some ⟨own, positive⟩ =>
    rw [paged, length_pages]
    simp [div_succ_eq_iff positive]

/-! ## Calls -/

/-- What a quota set has, by the names of its limits. -/
abbrev Quotas : Type := List (String × Int)

structure Server where
  id : String
  projectId : String
  flavor : List (String × Int)
  deriving DecidableEq, Repr

structure Volume where
  id : String
  projectId : String
  size : Int
  deriving DecidableEq, Repr

/-- What only its number is used of. -/
structure Resource where
  id : String
  projectId : String
  deriving DecidableEq, Repr

/-- The collections of Neutron whose listings are read whole. -/
inductive Collection
  | floatingips
  | networks
  | routers
  | subnets
  | securityGroups
  deriving DecidableEq, Repr

/-- The functions of the clients. -/
inductive Call
  | generateSession (keystoneToken projectId : String)
  | novaQuotas (session : KeystoneSession) (projectId : String)
  | cinderQuotas (session : KeystoneSession) (projectId : String)
  | neutronQuotas (session : KeystoneSession) (projectId : String)
  | listServers (session : KeystoneSession)
  | listVolumes (session : KeystoneSession)
  | listVolumeSnapshots (session : KeystoneSession)
  | list (collection : Collection) (session : KeystoneSession) (tenantId : String)
  /-- `list_ports`, and what comes of it one after the other. -/
  | listPorts (session : KeystoneSession) (tenantId : String)
  | portforwardingsByVm (vmId : String)
  deriving DecidableEq, Repr

/-- The ports come in pages, everything else at once. -/
abbrev Answer : Call → Type
  | .generateSession _ _ => Unit
  | .novaQuotas _ _ | .cinderQuotas _ _ | .neutronQuotas _ _ => Quotas
  | .listServers _ => List Server
  | .listVolumes _ => List Volume
  | .listVolumeSnapshots _ => List Resource
  | .list _ _ _ => List Resource
  | .listPorts _ _ => List (List Resource)
  | .portforwardingsByVm _ => List Proxy.Rule

abbrev Remote : Type → Type := Program Answer Exn

def generateSession (profile : Profile) : Remote KeystoneSession := do
  let _ ← (Program.remote (Call.generateSession profile.keystoneToken profile.project.id) : Remote Unit)
  return .user profile.keystoneToken profile.project.id

/-! ## The summary -/

structure QuotaUsage where
  inUse : Int
  limit : Int
  reserved : Option Int := some 0
  deriving DecidableEq, Repr

structure QuotaSet where
  instances : QuotaUsage
  cores : QuotaUsage
  ram : QuotaUsage
  volumes : QuotaUsage
  snapshots : QuotaUsage
  gigabytes : QuotaUsage
  floatingip : QuotaUsage
  network : QuotaUsage
  port : QuotaUsage
  router : QuotaUsage
  subnet : QuotaUsage
  securityGroup : QuotaUsage
  securityGroupRule : QuotaUsage
  portForwardings : QuotaUsage
  deriving DecidableEq, Repr

structure LimitSummary where
  quotas : QuotaSet
  deriving DecidableEq, Repr

/-- `getattr(quotas, name, -1)`. -/
def Quotas.limit (quotas : Quotas) (name : String) : Int := (dictGet quotas name).getD (-1)

/-- `sum(s.flavor[key] for s in servers)`. -/
def sumFlavors (servers : List Server) (key : String) : Remote Int := do
  let values ← Program.done (servers.mapM fun s => getitem (dictGet s.flavor key) key)
  return values.foldl (· + ·) 0

/-- The rules of the servers; none where they cannot all be listed. -/
def portForwardingsUsed (servers : List Server) : Remote Nat :=
  .attempt (do
    let rules ← Program.gather (servers.map Server.id) fun vmId => .remote (Call.portforwardingsByVm vmId)
    return rules.length)
  fun _ => pure 0

/-- What is done in the `try` block of `get_limit_summary`. -/
def limitSummary (portForwardingLimit : Int) (profile : Profile) (session : KeystoneSession) : Remote LimitSummary := do
  let novaQuotas ← .remote (Call.novaQuotas session profile.project.id)
  let cinderQuotas ← .remote (Call.cinderQuotas session profile.project.id)
  let neutronQuotas ← .remote (Call.neutronQuotas session profile.project.id)
  let novaServers ← .remote (Call.listServers session)
  let coresUsed ← sumFlavors novaServers "vcpus"
  let ramUsed ← sumFlavors novaServers "ram"
  let cinderVolumes ← .remote (Call.listVolumes session)
  let cinderSnapshots ← .remote (Call.listVolumeSnapshots session)
  let neutronFloatingips ← .remote (Call.list .floatingips session profile.project.id)
  let portForwardingsUsed ← portForwardingsUsed novaServers
  let neutronNetworks ← .remote (Call.list .networks session profile.project.id)
  let neutronPorts ← .remote (Call.listPorts session profile.project.id)
  let neutronRouters ← .remote (Call.list .routers session profile.project.id)
  let neutronSubnets ← .remote (Call.list .subnets session profile.project.id)
  let neutronSecurityGroups ← .remote (Call.list .securityGroups session profile.project.id)
  return {
    quotas := {
      instances := { inUse := List.length novaServers, limit := Quotas.limit novaQuotas "instances" }
      cores := { inUse := coresUsed, limit := Quotas.limit novaQuotas "cores" }
      ram := { inUse := ramUsed, limit := Quotas.limit novaQuotas "ram" }
      volumes := { inUse := List.length cinderVolumes, limit := Quotas.limit cinderQuotas "volumes" }
      snapshots := { inUse := List.length cinderSnapshots, limit := Quotas.limit cinderQuotas "snapshots" }
      gigabytes := { inUse := List.foldl (fun size v => size + Volume.size v) 0 cinderVolumes, limit := Quotas.limit cinderQuotas "gigabytes" }
      floatingip := { inUse := List.length neutronFloatingips, limit := Quotas.limit neutronQuotas "floatingip" }
      portForwardings := { inUse := portForwardingsUsed, limit := portForwardingLimit }
      network := { inUse := List.length neutronNetworks, limit := Quotas.limit neutronQuotas "network" }
      port := { inUse := List.length neutronPorts, limit := Quotas.limit neutronQuotas "port" }
      router := { inUse := List.length neutronRouters, limit := Quotas.limit neutronQuotas "router" }
      subnet := { inUse := List.length neutronSubnets, limit := Quotas.limit neutronQuotas "subnet" }
      securityGroup := { inUse := List.length neutronSecurityGroups, limit := Quotas.limit neutronQuotas "security_group" }
      securityGroupRule := { inUse := -1, limit := Quotas.limit neutronQuotas "security_group_rule" } } }

def getLimitSummary (portForwardingLimit : Int) (profile : Profile) : Remote LimitSummary := do
  let session ← generateSession profile
  .attempt (limitSummary portForwardingLimit profile session) fun e => .raise (.httpException 500 e.str)

/-! ## What the services hold -/

structure Content where
  novaQuotas : String → Quotas
  cinderQuotas : String → Quotas
  neutronQuotas : String → Quotas
  servers : List Server
  volumes : List Volume
  snapshots : List Resource
  collections : Collection → List Resource
  ports : List Resource
  rules : Proxy.Rules

/-- What belongs to a project. -/
def ofProject {Row : Type} (projectOf : Row → String) (project : String) (rows : List Row) : List Row :=
  rows.filter fun row => projectOf row == project

def projectPorts (content : Content) (project : String) : List Resource := ofProject Resource.projectId project content.ports

/-- The services, of which it matters how Neutron lists ports. -/
structure Env where
  delivery : Call → Nat → Delivery Exn
  answer : Content → (c : Call) → Answer c
  pageSize : PageSize
  listPorts : ∀ content session tenantId,
    answer content (.listPorts session tenantId) = paged pageSize (projectPorts content tenantId)

/-- What the services answer where `projectOf` has the projects that sessions act for. -/
def documented (projectOf : KeystoneSession → String) (pageSize : PageSize) (content : Content) : (c : Call) → Answer c
  | .generateSession _ _ => ()
  | .novaQuotas _ projectId => content.novaQuotas projectId
  | .cinderQuotas _ projectId => content.cinderQuotas projectId
  | .neutronQuotas _ projectId => content.neutronQuotas projectId
  | .listServers session => ofProject Server.projectId (projectOf session) content.servers
  | .listVolumes session => ofProject Volume.projectId (projectOf session) content.volumes
  | .listVolumeSnapshots session => ofProject Resource.projectId (projectOf session) content.snapshots
  | .list collection _ tenantId => ofProject Resource.projectId tenantId (content.collections collection)
  | .listPorts _ tenantId => paged pageSize (projectPorts content tenantId)
  | .portforwardingsByVm vmId => Proxy.byVm content.rules vmId

def Env.backend (env : Env) : Backend Answer Exn Content where
  delivery := env.delivery
  perform _ content c := (.ok (env.answer content c), content)

/-! ## What a summary says -/

section
variable {env : Env} {content : Content} {portForwardingLimit : Int} {profile : Profile}

theorem remote_ensures (c : Call) :
    (Program.remote c : Remote (Answer c)).Ensures env.backend.serve (Holds content) (· = env.answer content c) :=
  Backend.remote_answers (env.answer · c) fun _ _ => rfl

theorem reads_ensure {α : Type} (m : Remote α) : m.Ensures env.backend.serve (Holds content) fun _ => True :=
  Backend.reads_ensure m.uses_any fun _ _ _ => rfl

/-- The ports in use are the pages of the listing. -/
theorem limitSummary_ensures (session : KeystoneSession) :
    (limitSummary portForwardingLimit profile session).Ensures env.backend.serve (Holds content) fun summary =>
      summary.quotas.port.inUse = (paged env.pageSize (projectPorts content profile.project.id)).length := by
  refine .bind (reads_ensure _) fun novaQuotas _ => .bind (reads_ensure _) fun cinderQuotas _ =>
    .bind (reads_ensure _) fun neutronQuotas _ => ?_
  refine .bind (reads_ensure _) fun novaServers _ => .bind (reads_ensure _) fun coresUsed _ =>
    .bind (reads_ensure _) fun ramUsed _ => ?_
  refine .bind (reads_ensure _) fun cinderVolumes _ => .bind (reads_ensure _) fun cinderSnapshots _ => ?_
  refine .bind (reads_ensure _) fun neutronFloatingips _ => .bind (reads_ensure _) fun portForwardingsUsed _ =>
    .bind (reads_ensure _) fun neutronNetworks _ => ?_
  refine .bind (remote_ensures (.listPorts session profile.project.id)) fun neutronPorts listed => ?_
  refine .bind (reads_ensure _) fun neutronRouters _ => .bind (reads_ensure _) fun neutronSubnets _ =>
    .bind (reads_ensure _) fun neutronSecurityGroups _ => .pure ?_
  show (neutronPorts.length : Int) = _
  rw [listed, env.listPorts]

variable (content) in
theorem getLimitSummary_ensures :
    (getLimitSummary portForwardingLimit profile).Ensures env.backend.serve (Holds content) fun summary =>
      summary.quotas.port.inUse = (paged env.pageSize (projectPorts content profile.project.id)).length :=
  .bind (reads_ensure _) fun session _ => .attempt (limitSummary_ensures session) fun _ => .raise

/-- The summary has the number of the project's ports iff there is one, in pages of more than one,
    or there are two, in pages of two. -/
theorem summary_counts_ports_iff {w w' : World Call Content} {summary : LimitSummary}
    (ran : (getLimitSummary portForwardingLimit profile).run env.backend.serve w = (.ok summary, w')) :
    summary.quotas.port.inUse = (projectPorts w.state profile.project.id).length ↔
      (projectPorts w.state profile.project.id).length = 1 ∧ (∀ size ∈ env.pageSize, size.1 ≠ 1) ∨
        (projectPorts w.state profile.project.id).length = 2 ∧ ∃ size ∈ env.pageSize, size.1 = 2 := by
  have counted := (getLimitSummary_ensures w.state w rfl).2 summary (congrArg Prod.fst ran)
  rw [counted, ← length_paged_iff]
  exact Int.natCast_inj

end

/-! ### A project with three ports -/

def owner : Profile where
  keystoneToken := "token"
  region := "RegionOne"
  exp := 0
  uuid := "uuid"
  project := ⟨"web", "web", ⟨"default", "Default"⟩⟩
  user := ⟨"owner", "owner", ⟨"default", "Default"⟩, none, none⟩
  roles := []
  keystoneTokenExp := ""
  baseDomains := []
  version := ""

def withPorts (ports : List Resource) : World Call Content where
  state := {
    novaQuotas := fun _ => []
    cinderQuotas := fun _ => []
    neutronQuotas := fun _ => [("port", 50)]
    servers := []
    volumes := []
    snapshots := []
    collections := fun _ => []
    ports
    rules := Table.empty }
  calls := []

/-- Every call is answered, and the ports come in pages of a size. -/
def pagesOf (pageSize : PageSize) : Env where
  delivery _ _ := .answered
  answer := documented (fun _ => "web") pageSize
  pageSize := pageSize
  listPorts _ _ _ := rfl

def threePorts : List Resource := [⟨"a", "web"⟩, ⟨"b", "web"⟩, ⟨"c", "web"⟩]

/-- With one port the summary is right, whatever the size of a page but one. -/
theorem one_port_counted : ∃ summary w', (getLimitSummary 10 owner).run (pagesOf (some ⟨2, by decide⟩)).backend.serve
    (withPorts [⟨"a", "web"⟩, ⟨"z", "shop"⟩]) = (.ok summary, w') ∧ summary.quotas.port.inUse = 1 := by
  have ran : (getLimitSummary 10 owner).run (pagesOf (some ⟨2, by decide⟩)).backend.serve
    (withPorts [⟨"a", "web"⟩, ⟨"z", "shop"⟩]) = (.ok _, _) := rfl
  have one : (projectPorts (withPorts [⟨"a", "web"⟩, ⟨"z", "shop"⟩]).state owner.project.id).length = 1 := by decide
  have more : ∀ size ∈ (pagesOf (some ⟨2, by decide⟩)).pageSize, size.1 ≠ 1 := by
    rintro _ ⟨⟩
    decide
  have counted := (summary_counts_ports_iff ran).mpr (.inl ⟨one, more⟩)
  rw [one] at counted
  exact ⟨_, _, ran, counted⟩

/-- With three it says one. -/
theorem three_ports_miscounted : ¬ ∀ (env : Env) (portForwardingLimit : Int) (profile : Profile)
    (w w' : World Call Content) (summary : LimitSummary),
      (getLimitSummary portForwardingLimit profile).run env.backend.serve w = (.ok summary, w') →
        summary.quotas.port.inUse = (projectPorts w.state profile.project.id).length := by
  intro counted
  have three := counted (pagesOf none) 10 owner (withPorts threePorts) _ _ rfl
  exact absurd three (by decide)

end Skyline.Limits
