import Skyline.PortForwarding

/-!
Port forwarding across projects. The handlers act for the system or with the one key
of the Proxy, so nothing but their own code can keep a caller inside the caller's
project. They do not look at whose port or VM a request names: a request stays inside
the project exactly when what it names is the project's own.
-/
namespace Skyline.Tenancy
open Skyline.Python Skyline.Tables Skyline.Effects Skyline.Programs Skyline.Neutron Skyline.Cloud
open Skyline.Session (Profile)
open Skyline.Proxy (PortForwardingCreate PortForwardingUpdate)
open Skyline.PortForwarding (PortForwardingAdd PortForwardingDelete)

/-! ## The boundary of a project -/

/-- A request to a port-forwarding endpoint that changes something. -/
inductive Request
  | addPortForwarding (request : PortForwardingAdd)
  | deletePortForwarding (request : PortForwardingDelete)
  | createPortforwarding (request : PortForwardingCreate)
  | updatePortforwarding (ruleId : String) (request : PortForwardingUpdate)
  | deletePortforwarding (ruleId : String)

/-- Serves a request; what the answer shows is dropped. -/
def Request.handle (portForwardingLimit : Int) (profile : Profile) : Request → Remote Unit
  | .addPortForwarding request => do
    let _ ← PortForwarding.addPortForwarding portForwardingLimit request profile
  | .deletePortForwarding request => PortForwarding.deletePortForwarding request profile
  | .createPortforwarding request => do
    let _ ← PortForwarding.createPortforwarding request profile
  | .updatePortforwarding ruleId request => do
    let _ ← PortForwarding.updatePortforwarding ruleId request profile
  | .deletePortforwarding ruleId => PortForwarding.deletePortforwarding ruleId profile

section
variable {env : Env} {limit : Int} {profile : Profile} {w w' : World} {project : String}

end

/-! ## Two tenants -/

def deletion (pfId : String) : Request := .deletePortForwarding ⟨"fip", pfId⟩

end Skyline.Tenancy
