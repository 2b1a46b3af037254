import Skyline.Python
import Skyline.Tables

/-!
Options, their groups and the schemas they declare (`config/base.py`). A group
is a map from option names to options, so its names are distinct by
construction, and reading a name that no option has raises `AttributeError`.
-/
namespace Skyline.Config
open Skyline.Python Skyline.Tables

/-- What a YAML or JSON document holds. -/
inductive Value
  | null
  | bool (b : Bool)
  | int (n : Int)
  | float (text : String)
  | str (s : String)
  | list (items : List Value)
  | dict (items : List (String × Value))

/-- The types that options declare as their schema. -/
inductive Schema
  | strictStr
  | strictInt
  | strictBool
  | httpUrl
  | oneOf (names : List String)
  | any
  | optional (inner : Schema)
  | listOf (inner : Schema)
  | dictOf (inner : Schema)

/-- Pydantic's check of a value against a schema. Whether a text is an HTTP URL
    is pydantic's own parser's to say. -/
def Schema.accepts (isHttpUrl : String → Bool) : Schema → Value → Bool
  | .strictStr, .str _ => true
  | .strictInt, .int _ => true
  | .strictBool, .bool _ => true
  | .httpUrl, .str s => isHttpUrl s
  | .oneOf names, .str s => names.contains s
  | .any, _ => true
  | .optional _, .null => true
  | .optional inner, v => inner.accepts isHttpUrl v
  | .listOf inner, .list items => items.all (inner.accepts isHttpUrl)
  | .dictOf inner, .dict items => items.all (fun item => inner.accepts isHttpUrl item.2)
  | _, _ => false

/-- `Opt`: `value` is `None` until the option is loaded. -/
structure Opt where
  name : String
  schema : Schema
  default : Value
  value : Value := .null

/-- `Opt.load`: a missing value means the default, and a value that fails the
    schema raises. -/
def Opt.load (isHttpUrl : String → Bool) (opt : Opt) (value : Value) : Except Exn Opt :=
  let value := match value with
    | .null => opt.default
    | given => given
  if opt.schema.accepts isHttpUrl value then .ok { opt with value := value }
  else .error (.valueError opt.name)

/-- `Group`: the map from option names to options. -/
structure Group where
  name : String
  opts : Table Opt Opt.name

def Group.getattr (group : Group) (name : String) : Except Exn Value :=
  match group.opts.find name with
  | some opt => .ok opt.value
  | none => .error (.attributeError name)

theorem getattr_unregistered {group : Group} {name : String} (missing : ∀ opt ∈ group.opts, opt.name ≠ name) :
    group.getattr name = .error (.attributeError name) := by
  rw [Group.getattr, Table.find_eq_none.mpr missing]

theorem getattr_registered {group : Group} {opt : Opt} (member : opt ∈ group.opts) :
    group.getattr opt.name = .ok opt.value := by
  rw [Group.getattr, Table.find_eq_some.mpr ⟨member, rfl⟩]

/-- A group whose options have been loaded gives the value of each that it has. -/
theorem getattr_loaded {group : Group} {opts : List Opt} {values : String → Value}
    (loaded : group.opts.rows = opts.map (fun opt => { opt with value := values opt.name })) (name : String) :
    group.getattr name = if name ∈ opts.map Opt.name then .ok (values name) else .error (.attributeError name) := by
  split
  · next registered =>
    obtain ⟨opt, member, rfl⟩ := List.mem_map.mp registered
    have there : { opt with value := values opt.name } ∈ group.opts := by
      rw [Table.mem_rows, loaded]
      exact List.mem_map_of_mem (f := fun o : Opt => { o with value := values o.name }) member
    exact getattr_registered there
  · next missing =>
    apply getattr_unregistered
    intro opt member same
    rw [Table.mem_rows, loaded] at member
    obtain ⟨registered, inside, rfl⟩ := List.mem_map.mp member
    exact missing (List.mem_map.mpr ⟨registered, inside, same⟩)

/-- The values come from a configuration file that loads. -/
def Loaded (isHttpUrl : String → Bool) (opts : List Opt) (values : String → Value) : Prop :=
  ∀ opt ∈ opts, ∃ given, opt.load isHttpUrl given = .ok { opt with value := values opt.name }

/-- What is loaded passes the schema of its option. -/
theorem loaded_accepted {isHttpUrl : String → Bool} {opts : List Opt} {values : String → Value}
    (loaded : Loaded isHttpUrl opts values) {opt : Opt} (member : opt ∈ opts) :
    opt.schema.accepts isHttpUrl (values opt.name) = true := by
  obtain ⟨given, ran⟩ := loaded opt member
  obtain ⟨value, ran⟩ : ∃ value, (if opt.schema.accepts isHttpUrl value then .ok { opt with value := value }
      else .error (.valueError opt.name) : Except Exn Opt) = .ok { opt with value := values opt.name } := ⟨_, ran⟩
  split at ran
  · next accepted =>
    have same : value = values opt.name := congrArg Opt.value (Except.ok.inj ran)
    rwa [same] at accepted
  · cases ran

/-! ## The options of the group `openstack` -/

/-- `config/openstack.py`. -/
def openstackOpts : List Opt := [
  { name := "enforce_new_defaults", schema := .strictBool, default := .bool true },
  { name := "sso_enabled", schema := .strictBool, default := .bool false },
  { name := "sso_protocols", schema := .listOf .strictStr, default := .list [.str "openid"] },
  { name := "sso_region", schema := .strictStr, default := .str "RegionOne" },
  { name := "keystone_url", schema := .httpUrl, default := .str "http://127.0.0.1:5000/v3/" },
  { name := "nova_endpoint", schema := .optional .httpUrl, default := .null },
  { name := "cinder_endpoint", schema := .optional .httpUrl, default := .null },
  { name := "neutron_endpoint", schema := .optional .httpUrl, default := .null },
  { name := "glance_endpoint", schema := .optional .httpUrl, default := .null },
  { name := "system_project_domain", schema := .strictStr, default := .str "Default" },
  { name := "system_project", schema := .strictStr, default := .str "service" },
  { name := "system_user_domain", schema := .strictStr, default := .str "Default" },
  { name := "system_user_name", schema := .strictStr, default := .str "skyline" },
  { name := "system_user_password", schema := .strictStr, default := .str "" },
  { name := "default_region", schema := .strictStr, default := .str "RegionOne" },
  { name := "interface_type", schema := .oneOf ["public", "internal", "admin"], default := .str "public" },
  { name := "nginx_prefix", schema := .strictStr, default := .str "/api/openstack" },
  { name := "base_domains", schema := .listOf .strictStr, default := .list [.str "heat_user_domain"] },
  { name := "system_admin_roles", schema := .listOf .strictStr,
    default := .list [.str "admin", .str "system_admin"] },
  { name := "system_reader_roles", schema := .listOf .strictStr, default := .list [.str "system_reader"] },
  { name := "service_mapping", schema := .dictOf .strictStr,
    default := .dict [("baremetal", .str "ironic"), ("block-storage", .str "cinder"), ("compute", .str "nova"),
      ("container", .str "zun"), ("container-infra", .str "magnum"), ("database", .str "trove"),
      ("dns", .str "designate"), ("identity", .str "keystone"), ("image", .str "glance"),
      ("instance-ha", .str "masakari"), ("key-manager", .str "barbican"), ("load-balancer", .str "octavia"),
      ("network", .str "neutron"), ("object-store", .str "swift"), ("orchestration", .str "heat"),
      ("placement", .str "placement"), ("sharev2", .str "manilav2")] },
  { name := "extension_mapping", schema := .dictOf .strictStr,
    default := .dict [("floating-ip-port-forwarding", .str "neutron_port_forwarding"),
      ("fwaas_v2", .str "neutron_firewall"), ("qos", .str "neutron_qos"), ("vpnaas", .str "neutron_vpn")] },
  { name := "reclaim_instance_interval", schema := .strictInt, default := .int 604800 },
  { name := "admin_role_id", schema := .strictStr, default := .str "" },
  { name := "member_role_id", schema := .strictStr, default := .str "" },
  { name := "admin_user_id", schema := .strictStr, default := .str "" },
  { name := "port_forwarding_limit", schema := .strictInt, default := .int 10 },
  { name := "portforward_api_url", schema := .httpUrl, default := .str "http://10.0.0.10:8080/api/v1" },
  { name := "portforward_authorization_key", schema := .optional .strictStr, default := .null },
  { name := "portforward_vm_internal_ips", schema := .listOf .strictStr, default := .list [] },
  { name := "nova_quota_instances", schema := .strictInt, default := .int 10 },
  { name := "nova_quota_cores", schema := .strictInt, default := .int 4 },
  { name := "nova_quota_ram", schema := .strictInt, default := .int 6144 },
  { name := "cinder_quota_gigabytes", schema := .strictInt, default := .int 100 },
  { name := "nova_default_image_for_volume_boot", schema := .strictStr, default := .str "" }]

def openstackNames : List String := openstackOpts.map Opt.name

theorem openstackNames_nodup : openstackNames.Nodup := by decide

/-- `CONF.openstack` with the given values loaded into its registered options. -/
def openstackGroup (values : String → Value) : Group where
  name := "openstack"
  opts := {
    rows := openstackOpts.map (fun opt => { opt with value := values opt.name })
    unique := by simpa [Function.comp_def, openstackNames] using openstackNames_nodup }

theorem openstack_getattr (values : String → Value) (name : String) :
    (openstackGroup values).getattr name =
      if name ∈ openstackNames then .ok (values name) else .error (.attributeError name) := getattr_loaded rfl name

/-- Every default passes the schema its option declares, given that pydantic
    takes the two default addresses for URLs. -/
theorem openstack_defaults_accepted (isHttpUrl : String → Bool)
    (keystone : isHttpUrl "http://127.0.0.1:5000/v3/" = true)
    (proxy : isHttpUrl "http://10.0.0.10:8080/api/v1" = true) :
    ∀ opt ∈ openstackOpts, opt.schema.accepts isHttpUrl opt.default = true := by
  simp [openstackOpts, Schema.accepts, keystone, proxy]

/-! ## The options of the group `setting` -/

/-- An entry of `flavor_families`. -/
def flavorFamily (architecture : String) (categories : List String) : Value :=
  .dict [("architecture", .str architecture),
    ("categories", .list (categories.map fun name => .dict [("name", .str name), ("properties", .list [])]))]

/-- `config/setting.py`. -/
def settingOpts : List Opt := [
  { name := "base_settings", schema := .listOf .strictStr,
    default := .list [.str "flavor_families", .str "gpu_models", .str "usb_models", .str "instance_lifecycle_enabled",
      .str "instance_lifetime_days", .str "instance_reply_deadline_days", .str "smtp_host", .str "smtp_port",
      .str "smtp_user", .str "smtp_password", .str "smtp_use_tls", .str "smtp_from_address"] },
  { name := "flavor_families", schema := .listOf (.dictOf .any),
    default := .list [
      flavorFamily "x86_architecture"
        ["general_purpose", "compute_optimized", "memory_optimized", "high_clock_speed"],
      flavorFamily "heterogeneous_computing"
        ["compute_optimized_type_with_gpu", "visualization_compute_optimized_type_with_gpu"]] },
  { name := "gpu_models", schema := .listOf .strictStr, default := .list [.str "nvidia_t4"] },
  { name := "usb_models", schema := .listOf .strictStr, default := .list [.str "usb_c"] },
  { name := "instance_lifecycle_enabled", schema := .strictBool, default := .bool false },
  { name := "instance_lifetime_days", schema := .strictInt, default := .int 30 },
  { name := "instance_reply_deadline_days", schema := .strictInt, default := .int 7 },
  { name := "smtp_host", schema := .strictStr, default := .str "" },
  { name := "smtp_port", schema := .strictInt, default := .int 587 },
  { name := "smtp_user", schema := .strictStr, default := .str "" },
  { name := "smtp_password", schema := .strictStr, default := .str "" },
  { name := "smtp_use_tls", schema := .strictBool, default := .bool true },
  { name := "smtp_from_address", schema := .strictStr, default := .str "" }]

def settingNames : List String := settingOpts.map Opt.name

theorem settingNames_nodup : settingNames.Nodup := by decide

/-- `CONF.setting` with the given values loaded into its registered options. -/
def settingGroup (values : String → Value) : Group where
  name := "setting"
  opts := {
    rows := settingOpts.map (fun opt => { opt with value := values opt.name })
    unique := by simpa [Function.comp_def, settingNames] using settingNames_nodup }

theorem setting_getattr (values : String → Value) (name : String) :
    (settingGroup values).getattr name =
      if name ∈ settingNames then .ok (values name) else .error (.attributeError name) := getattr_loaded rfl name

/-- The values where the configuration file has no section `setting`. -/
def defaultSettings (name : String) : Value :=
  match (⟨settingOpts, settingNames_nodup⟩ : Table Opt Opt.name).find name with
  | some opt => opt.default
  | none => .null

theorem setting_defaults_accepted (isHttpUrl : String → Bool) :
    ∀ opt ∈ settingOpts, opt.schema.accepts isHttpUrl opt.default = true := by
  simp [settingOpts, flavorFamily, Schema.accepts]

theorem defaultSettings_loaded (isHttpUrl : String → Bool) : Loaded isHttpUrl settingOpts defaultSettings := by
  intro opt member
  have found := Table.find_eq_some.mpr ⟨show opt ∈ (⟨settingOpts, settingNames_nodup⟩ : Table Opt Opt.name) from member, rfl⟩
  refine ⟨.null, ?_⟩
  rw [Opt.load, defaultSettings, found, if_pos (setting_defaults_accepted isHttpUrl opt member)]

end Skyline.Config
