import Skyline.Python
import Skyline.Tables

/-!
The external Proxy, which forwards ports of its own addresses to the VMs of users:
the schemas of its rules (`schemas/portforward.py`), and what it does with a
request. It takes the one configured key for every rule, so whoever holds the key
may change any of them.
-/
namespace Skyline.Proxy
open Skyline.Python Skyline.Tables

/-- A number that passes `Field(..., ge=1, le=65535)`. -/
abbrev PortNumber := { n : Nat // 1 ≤ n ∧ n ≤ 65535 }

/-- `ServiceTypeEnum`. -/
inductive ServiceType
  | ssh | other
  deriving DecidableEq, Repr

def ServiceType.value : ServiceType → String
  | .ssh => "ssh"
  | .other => "other"

/-- `ProtocolEnum`. -/
inductive Protocol
  | tcp | udp
  deriving DecidableEq, Repr

def Protocol.value : Protocol → String
  | .tcp => "tcp"
  | .udp => "udp"

/-- `StatusEnum`. -/
inductive Status
  | active | inactive | error | pending
  deriving DecidableEq, Repr

def Status.value : Status → String
  | .active => "active"
  | .inactive => "inactive"
  | .error => "error"
  | .pending => "pending"

/-- A text that passes `Field(..., min_length=1, max_length=255)`. -/
abbrev ShortText := { s : String // 1 ≤ s.length ∧ s.length ≤ 255 }

structure PortForwardingCreate where
  ruleName : ShortText
  userVmId : String
  userVmName : ShortText
  userVmInternalIp : String
  userVmInternalPort : PortNumber
  serviceType : ServiceType := .other
  proxyExternalIp : Option String := none
  proxyExternalPort : Option PortNumber := none
  protocol : Protocol := .tcp
  description : Option { s : String // s.length ≤ 500 } := none
  deriving DecidableEq, Repr

structure PortForwardingUpdate where
  ruleName : Option String := none
  userVmName : Option String := none
  userVmInternalPort : Option PortNumber := none
  proxyExternalPort : Option PortNumber := none
  protocol : Option Protocol := none
  status : Option Status := none
  description : Option String := none
  deriving DecidableEq, Repr

/-- A rule as the Proxy keeps and sends it, `PortForwardingResponse`. -/
structure Rule where
  id : Int
  ruleId : String
  ruleName : String
  userVmId : String
  userVmName : String
  userVmInternalIp : String
  userVmInternalPort : Nat
  proxyExternalIp : String
  proxyExternalPort : Nat
  protocol : String
  serviceType : String
  status : String
  isPersistent : Bool
  createdBy : Option String
  description : Option String
  deriving DecidableEq, Repr

/-- The rules, which the routes address by `rule_id`. -/
abbrev Rules := Table Rule Rule.ruleId

/-- What the Proxy chooses for a rule that it makes. -/
structure Choice where
  id : Int
  ruleId : String
  externalIp : String
  externalPort : Nat
  status : String
  isPersistent : Bool
  createdBy : Option String
  deriving Repr

/-- The rule that a request asks for, with what the Proxy chooses where it asks for nothing. -/
def PortForwardingCreate.rule (request : PortForwardingCreate) (choice : Choice) : Rule where
  id := choice.id
  ruleId := choice.ruleId
  ruleName := request.ruleName
  userVmId := request.userVmId
  userVmName := request.userVmName
  userVmInternalIp := request.userVmInternalIp
  userVmInternalPort := request.userVmInternalPort
  proxyExternalIp := request.proxyExternalIp.getD choice.externalIp
  proxyExternalPort := (request.proxyExternalPort.map Subtype.val).getD choice.externalPort
  protocol := request.protocol.value
  serviceType := request.serviceType.value
  status := choice.status
  isPersistent := choice.isPersistent
  createdBy := choice.createdBy
  description := request.description.map Subtype.val

/-- The fields that `model_dump(exclude_none=True)` leaves in an update, set in a rule. -/
def PortForwardingUpdate.set (update : PortForwardingUpdate) (r : Rule) : Rule :=
  { r with
    ruleName := update.ruleName.getD r.ruleName
    userVmName := update.userVmName.getD r.userVmName
    userVmInternalPort := (update.userVmInternalPort.map Subtype.val).getD r.userVmInternalPort
    proxyExternalPort := (update.proxyExternalPort.map Subtype.val).getD r.proxyExternalPort
    protocol := (update.protocol.map Protocol.value).getD r.protocol
    status := (update.status.map Status.value).getD r.status
    description := update.description.or r.description }

@[simp] theorem set_ruleId (update : PortForwardingUpdate) (r : Rule) : (update.set r).ruleId = r.ruleId := rfl

/-- An HTTP response: a body, or a status of 400 and above with its detail. -/
inductive Response (α : Type)
  | ok (body : α)
  | error (statusCode : Nat) (detail : String)
  deriving Repr

def missing {α : Type} : Response α := .error 404 "Not Found"

/-- `POST /portforward`. -/
def create (rules : Rules) (request : PortForwardingCreate) (choice : Choice) : Response Rule × Rules :=
  match rules.insert (request.rule choice) with
  | some after => (.ok (request.rule choice), after)
  | none => (.error 409 "Conflict", rules)

/-- `PATCH /portforward/{rule_id}`. -/
def update (rules : Rules) (ruleId : String) (request : PortForwardingUpdate) : Response Rule × Rules :=
  match rules.find ruleId with
  | some r => (.ok (request.set r), rules.update ruleId request.set (set_ruleId request))
  | none => (missing, rules)

/-- `DELETE /portforward/{rule_id}`. -/
def delete (rules : Rules) (ruleId : String) : Response Unit × Rules :=
  match rules.find ruleId with
  | some _ => (.ok (), rules.delete ruleId)
  | none => (missing, rules)

/-- `GET /portforward/vm/{vm_id}`. -/
def byVm (rules : Rules) (vmId : String) : List Rule := rules.select (fun r => r.userVmId == vmId)

end Skyline.Proxy
