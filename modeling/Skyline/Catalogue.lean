import Mathlib.Data.List.DropRight
import Skyline.Enrichment
import Skyline.Middleware
import Skyline.ProxyLocations
import Skyline.Routing

/-!
The endpoints that are announced for a region (`client/openstack/system.py`) and the nginx that is
generated for them (`templates/nginx.conf.j2`). The server announces a path for each service of the
catalogue; nginx sends a request to the location of the longest prefix, and from there to the
endpoint whose proxy it is.
-/
namespace Skyline.Catalogue
open Skyline.Python Skyline.Raising Skyline.Paths Skyline.Urls Skyline.ProxyEndpoints Skyline.ProxyLocations Skyline.Routing
open Skyline.Extension (dictGet dictGet_mem dictGet_none)
open Skyline.Middleware (apiPrefix)

/-! ## What is announced -/

structure Conf extends ProxyEndpoints.Conf where
  extensionMapping : List (String × String)

structure CatalogEntry where
  regionId : String
  url : String

/-- The catalogue of a token: the types of services, each with its endpoints. -/
abbrev ServiceCatalog : Type := List (String × List CatalogEntry)

/-- `service_catalog.get_endpoints(region_name=region)`. -/
def inRegion (catalog : ServiceCatalog) (region : String) : ServiceCatalog :=
  catalog.map fun service => (service.1, service.2.filter fun entry => entry.regionId == region)

section
variable (conf : Conf)

/-- A pass of the first loop: the service's name and its path. -/
def announce (region : String) (service : String × List CatalogEntry) : Option (String × String) :=
  if service.2.isEmpty then none
  else match dictGet conf.serviceMapping service.1 with
    | some name => if truthy name then some (name, String.ofList (place conf.toConf region name).str) else none
    | none => none

/-- A pass of the second loop. -/
def addExtension (aliases : List String) (endpoints : List (String × String)) (extension : String × String) :
    Except Exn (List (String × String)) :=
  if aliases.contains extension.1 then do
    let neutron ← getitem (dictGet endpoints "neutron") "neutron"
    return endpoints ++ [(extension.2, neutron)]
  else return endpoints

variable (catalog : ServiceCatalog) (extensions : String → Except Exn (List String))

/-- The paths of a region, by what they are announced for; `extensions` are the aliases of Neutron's
    extensions there. -/
def getEndpoints (region : String) : Except Exn (List (String × String)) := do
  let endpoints := (inRegion catalog region).filterMap (announce conf region)
  let aliases ← extensions region
  conf.extensionMapping.foldlM (addExtension aliases) endpoints

end

/-! ## What is generated -/

/-- A `location` of the configuration; without a `proxy_pass` it serves files. -/
structure Block where
  location : Paths.Text
  proxyPass : Option Paths.Text
  forwardedPrefix : Paths.Text
  host : Paths.Text
  deriving DecidableEq, Repr

/-- Where a location sends a request: what its path begins with is replaced. -/
def Block.forward (block : Block) (path : Paths.Text) : Option Paths.Text :=
  block.proxyPass.map (· ++ path.drop block.location.length)

/-! ## The texts of places -/

section
variable {conf : ProxyEndpoints.Conf} {region service : String}

/-- What the places of one configuration begin with. -/
def base (conf : ProxyEndpoints.Conf) : PurePath := (PurePath.of ['/']).join conf.nginxPrefix.toList

/-- The region and the service are one name each. -/
structure PlainPlace (conf : ProxyEndpoints.Conf) (region service : String) : Prop where
  region : Plain (conf.lower region).toList
  service : Plain service.toList

end

/-! ## What is announced where -/

section
variable {conf : Conf} {catalog : ServiceCatalog} {extensions : String → Except Exn (List String)} {region : String}
  {services : List Service} {endpointsList : List Endpoint}

end

/-! ## Where requests go -/

section
variable {conf : Conf} {services : List Service} {endpointsList : List Endpoint} {proxies : Proxies}

/-- Regions and services are one name each, and no two endpoints have one location. -/
structure Distinct (conf : ProxyEndpoints.Conf) (services : List Service) (endpointsList : List Endpoint) : Prop where
  plain : ∀ m ∈ mapped conf services endpointsList, PlainPlace conf (shown m.endpoint.region) m.service
  apart : ((mapped conf services endpointsList).map (placeOf conf)).Nodup

end

/-! ### Nova and Neutron in one region -/

def cloud : Conf :=
  { openstack with
    serviceMapping := [("compute", "nova"), ("network", "neutron")], extensionMapping := [("qos", "neutron_qos")] }

end Skyline.Catalogue
