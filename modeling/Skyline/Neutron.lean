import Skyline.Python
import Skyline.Tables

/-!
Neutron, as far as port forwarding goes: floating IPs, ports with their fixed IPs,
and the rules that forward a port of a floating IP to a fixed IP of a port. Every
rule is on a floating IP that exists and leads to a port that has its internal IP;
two projects may use the same addresses.
-/
namespace Skyline.Neutron
open Skyline.Python Skyline.Tables

structure FloatingIp where
  id : String
  floatingIpAddress : String
  projectId : String
  deriving DecidableEq, Repr

structure Port where
  id : String
  projectId : String
  /-- The server that the port is attached to. -/
  deviceId : String
  fixedIps : List String
  deriving DecidableEq, Repr

structure PortForwarding where
  id : String
  floatingIpId : String
  internalPortId : String
  internalIpAddress : String
  internalPort : Nat
  externalPort : Nat
  protocol : String
  deriving DecidableEq, Repr

structure PortForwardingBody where
  protocol : String
  internalIpAddress : String
  internalPortId : String
  internalPort : Nat
  externalPort : Nat
  deriving DecidableEq, Repr

/-- The rule that a body describes, under an id and on a floating IP. -/
def PortForwardingBody.rule (body : PortForwardingBody) (id floatingIp : String) : PortForwarding where
  id := id
  floatingIpId := floatingIp
  internalPortId := body.internalPortId
  internalIpAddress := body.internalIpAddress
  internalPort := body.internalPort
  externalPort := body.externalPort
  protocol := body.protocol

/-- What Neutron stores. -/
structure Store where
  floatingIps : Table FloatingIp FloatingIp.id
  ports : Table Port Port.id
  portForwardings : Table PortForwarding PortForwarding.id
  onFloatingIp : ∀ pf ∈ portForwardings, ∃ fip ∈ floatingIps, fip.id = pf.floatingIpId
  onPort : ∀ pf ∈ portForwardings, ∃ port ∈ ports, port.id = pf.internalPortId ∧ pf.internalIpAddress ∈ port.fixedIps

def notFound : Exn := .callFailed "NotFound"
def badRequest : Exn := .callFailed "BadRequest"
def conflict : Exn := .callFailed "Conflict"

/-! ## What Neutron does with a request

`sees` says which projects' resources the session of the request may see. -/

/-- `GET /floatingips`, of one project where a `tenant_id` is given. -/
def listFloatingips (sees : String → Bool) (store : Store) (tenantId : Option String) : List FloatingIp :=
  store.floatingIps.select (fun fip => sees fip.projectId && tenantId.all (· == fip.projectId))

/-- `GET /floatingips/{id}`. -/
def showFloatingip (sees : String → Bool) (store : Store) (id : String) : Except Exn FloatingIp :=
  match store.floatingIps.find id with
  | some fip => if sees fip.projectId then .ok fip else .error notFound
  | none => .error notFound

/-- `GET /floatingips/{id}/port_forwardings`. -/
def listPortForwardings (sees : String → Bool) (store : Store) (floatingIp : String) :
    Except Exn (List PortForwarding) := do
  let fip ← showFloatingip sees store floatingIp
  return store.portForwardings.select (fun pf => pf.floatingIpId == fip.id)

/-- `GET /ports?fixed_ips=ip_address={ipAddress}`. -/
def listPorts (sees : String → Bool) (store : Store) (ipAddress : String) : List Port :=
  store.ports.select (fun port => sees port.projectId && port.fixedIps.contains ipAddress)

/-- Whether a rule leads to a port that has the internal IP it gives. -/
def Leads (store : Store) (pf : PortForwarding) : Prop :=
  ∃ port ∈ store.ports.rows, port.id = pf.internalPortId ∧ pf.internalIpAddress ∈ port.fixedIps

instance (store : Store) (pf : PortForwarding) : Decidable (Leads store pf) :=
  inferInstanceAs (Decidable (∃ port ∈ store.ports.rows, _))

/-- Whether an external port of a floating IP is taken, for a protocol. -/
def taken (store : Store) (floatingIp : String) (externalPort : Nat) (protocol : String) : Bool :=
  store.portForwardings.rows.any
    (fun pf => pf.floatingIpId == floatingIp && pf.externalPort == externalPort && pf.protocol == protocol)

/-- The store with one more rule, unless its id is taken. -/
def Store.withRule (store : Store) (pf : PortForwarding) (on : ∃ fip ∈ store.floatingIps, fip.id = pf.floatingIpId)
    (leads : Leads store pf) : Option Store :=
  match inserted : store.portForwardings.insert pf with
  | none => none
  | some rules => some { store with
      portForwardings := rules
      onFloatingIp := by
        intro other member
        rcases (Table.mem_insert inserted).mp member with old | rfl
        · exact store.onFloatingIp other old
        · exact on
      onPort := by
        intro other member
        rcases (Table.mem_insert inserted).mp member with old | rfl
        · exact store.onPort other old
        · exact leads }

/-- `POST /floatingips/{id}/port_forwardings`, for a rule that gets the id `newId`. -/
def createPortForwarding (sees : String → Bool) (store : Store) (floatingIp : String) (body : PortForwardingBody)
    (newId : String) : Except Exn PortForwarding × Store :=
  match found : store.floatingIps.find floatingIp with
  | none => (.error notFound, store)
  | some fip =>
    if !sees fip.projectId then (.error notFound, store)
    else if taken store floatingIp body.externalPort body.protocol then (.error conflict, store)
    else if leads : Leads store (body.rule newId floatingIp) then
      match store.withRule (body.rule newId floatingIp) ⟨fip, Table.find_eq_some.mp found⟩ leads with
      | none => (.error conflict, store)
      | some after => (.ok (body.rule newId floatingIp), after)
    else (.error badRequest, store)

def Store.withoutRule (store : Store) (id : String) : Store :=
  { store with
    portForwardings := store.portForwardings.delete id
    onFloatingIp := fun pf member => store.onFloatingIp pf (Table.mem_delete.mp member).1
    onPort := fun pf member => store.onPort pf (Table.mem_delete.mp member).1 }

/-- `DELETE /floatingips/{id}/port_forwardings/{pf_id}`. -/
def deletePortForwarding (sees : String → Bool) (store : Store) (floatingIp pfId : String) :
    Except Exn Unit × Store :=
  match showFloatingip sees store floatingIp, store.portForwardings.find pfId with
  | .ok fip, some pf =>
    if pf.floatingIpId = fip.id then (.ok (), store.withoutRule pfId) else (.error notFound, store)
  | _, _ => (.error notFound, store)

/-- The store with one rule more. -/
structure Added (store : Store) (pf : PortForwarding) (after : Store) : Prop where
  floatingIps : after.floatingIps = store.floatingIps
  ports : after.ports = store.ports
  fresh : pf ∉ store.portForwardings
  rows : after.portForwardings.rows = store.portForwardings.rows ++ [pf]

section
variable {sees : String → Bool} {store after : Store} {floatingIp pfId newId : String} {body : PortForwardingBody}

theorem mem_withoutRule {pf : PortForwarding} :
    pf ∈ (store.withoutRule pfId).portForwardings ↔ pf ∈ store.portForwardings ∧ pf.id ≠ pfId := Table.mem_delete

theorem showFloatingip_ok {fip : FloatingIp} : showFloatingip sees store floatingIp = .ok fip ↔
    fip ∈ store.floatingIps ∧ fip.id = floatingIp ∧ sees fip.projectId = true := by
  unfold showFloatingip
  cases found : store.floatingIps.find floatingIp with
  | none =>
    refine iff_of_false nofun fun ⟨member, named, _⟩ => ?_
    cases found.symm.trans (Table.find_eq_some.mpr ⟨member, named⟩)
  | some other =>
    obtain ⟨there, same⟩ := Table.find_eq_some.mp found
    by_cases seen : sees other.projectId = true
    · simp only [seen, if_true, Except.ok.injEq]
      constructor
      · rintro rfl
        exact ⟨there, same, seen⟩
      · rintro ⟨member, named, _⟩
        exact Table.eq_of_key there member (same.trans named.symm)
    · dsimp only
      rw [if_neg seen]
      refine iff_of_false nofun fun ⟨member, named, visible⟩ => seen ?_
      rw [Table.eq_of_key there member (same.trans named.symm)]
      exact visible

/-- The rules that are listed of a floating IP are those on it. -/
theorem listPortForwardings_ok {pfs : List PortForwarding} : listPortForwardings sees store floatingIp = .ok pfs ↔
    (∃ fip ∈ store.floatingIps, fip.id = floatingIp ∧ sees fip.projectId = true) ∧
      pfs = store.portForwardings.select (fun pf => pf.floatingIpId == floatingIp) := by
  unfold listPortForwardings
  cases shown : showFloatingip sees store floatingIp with
  | error e =>
    refine iff_of_false nofun fun ⟨⟨fip, visible⟩, _⟩ => ?_
    cases shown.symm.trans (showFloatingip_ok.mpr visible)
  | ok fip =>
    have visible := showFloatingip_ok.mp shown
    rw [← visible.2.1]
    constructor
    · intro listed
      exact ⟨⟨fip, visible.1, rfl, visible.2.2⟩, (Except.ok.inj listed).symm⟩
    · rintro ⟨_, rfl⟩
      rfl

theorem withRule_some {pf : PortForwarding} {on : ∃ fip ∈ store.floatingIps, fip.id = pf.floatingIpId}
    {leads : Leads store pf} (added : store.withRule pf on leads = some after) : Added store pf after := by
  unfold Store.withRule at added
  split at added
  · cases added
  · next rules inserted =>
    cases added
    exact ⟨rfl, rfl, fun member => Table.insert_fresh inserted _ member rfl, Table.insert_rows inserted⟩

/-- A request for a rule does nothing, or makes the rule where it leads to a port. -/
theorem createPortForwarding_cases (sees : String → Bool) (store : Store) (floatingIp : String)
    (body : PortForwardingBody) (newId : String) :
    (∃ e, createPortForwarding sees store floatingIp body newId = (.error e, store)) ∨
    ∃ after, createPortForwarding sees store floatingIp body newId = (.ok (body.rule newId floatingIp), after) ∧
      Leads store (body.rule newId floatingIp) ∧ Added store (body.rule newId floatingIp) after := by
  unfold createPortForwarding
  split
  · exact .inl ⟨_, rfl⟩
  · split
    · exact .inl ⟨_, rfl⟩
    · split
      · exact .inl ⟨_, rfl⟩
      · split
        · next leads =>
          split
          · exact .inl ⟨_, rfl⟩
          · next added => exact .inr ⟨_, rfl, leads, withRule_some added⟩
        · exact .inl ⟨_, rfl⟩

theorem createPortForwarding_ok {pf : PortForwarding}
    (created : createPortForwarding sees store floatingIp body newId = (.ok pf, after)) :
    pf = body.rule newId floatingIp ∧ Leads store pf ∧ Added store pf after := by
  rcases createPortForwarding_cases sees store floatingIp body newId with ⟨e, ran⟩ | ⟨_, ran, leads, added⟩
  · cases ran.symm.trans created
  · cases ran.symm.trans created
    exact ⟨rfl, leads, added⟩

theorem createPortForwarding_error {e : Exn}
    (refused : createPortForwarding sees store floatingIp body newId = (.error e, after)) : after = store := by
  rcases createPortForwarding_cases sees store floatingIp body newId with ⟨e, ran⟩ | ⟨_, ran, _⟩
  · cases ran.symm.trans refused
    rfl
  · cases ran.symm.trans refused

theorem deletePortForwarding_ok (deleted : deletePortForwarding sees store floatingIp pfId = (.ok (), after)) :
    after = store.withoutRule pfId ∧ ∃ pf ∈ store.portForwardings, pf.id = pfId ∧ pf.floatingIpId = floatingIp := by
  unfold deletePortForwarding at deleted
  split at deleted
  · next fip pf shown found =>
    obtain ⟨_, named, _⟩ := showFloatingip_ok.mp shown
    obtain ⟨member, same⟩ := Table.find_eq_some.mp found
    split at deleted
    · next on =>
      cases deleted
      exact ⟨rfl, pf, member, same, on.trans named⟩
    · cases deleted
  · cases deleted

/-- A rule that is there is deleted for whoever sees its floating IP. -/
theorem deletePortForwarding_error {e : Exn}
    (refused : deletePortForwarding sees store floatingIp pfId = (.error e, after)) :
    after = store ∧ ∀ pf ∈ store.portForwardings, pf.id = pfId → pf.floatingIpId = floatingIp →
      ∃ fip ∈ store.floatingIps, fip.id = floatingIp ∧ sees fip.projectId = false := by
  have kept : after = store := by
    unfold deletePortForwarding at refused
    split at refused
    · split at refused
      · cases refused
      · exact (congrArg Prod.snd refused).symm
    · exact (congrArg Prod.snd refused).symm
  refine ⟨kept, ?_⟩
  rintro pf there rfl rfl
  obtain ⟨fip, member, on⟩ := store.onFloatingIp pf there
  refine ⟨fip, member, on, Bool.eq_false_iff.mpr fun seen => ?_⟩
  rw [deletePortForwarding, showFloatingip_ok.mpr ⟨member, on, seen⟩, Table.find_eq_some.mpr ⟨there, rfl⟩] at refused
  simp [on] at refused

end
end Skyline.Neutron
