import Skyline.Addresses
import Skyline.PortListing

/-!
The addresses of a port (`Port.to_dict`). The list of each version is made of the addresses without
the separator of the other, so that an address with both separators is in neither.
-/
namespace Skyline.FixedIps
open Skyline.Python Skyline.Raising Skyline.Extension Skyline.Ports Skyline.Addresses
open Skyline.Config (Value)

variable {zero : String → Bool}

def texts (addresses : List Address) : List Value := addresses.map fun a => .str a.text

/-- A port whose fixed IPs have these addresses, in Neutron's order. -/
def HasFixedIps (port : Dict) (addresses : List Address) : Prop :=
  ∃ fixedIps, dictGet port "fixed_ips" = some (.list fixedIps) ∧
    List.Forall₂ (fun a ip => itemOf "ip_address" ip = .ok (.str a.text)) addresses fixedIps

/-- Each of the two lists has the addresses of its version, in order. -/
def Splits (zero : String → Bool) (port : Dict) (addresses : List Address) : Prop :=
  ∃ obj, portToDict zero port = .ok obj ∧
    dictGet obj "ipv4" = some (.list (texts (addresses.filter fun a => !a.isV6))) ∧
    dictGet obj "ipv6" = some (.list (texts (addresses.filter Address.isV6)))

/-! ## The lists that are built -/

theorem contains_char (c : Char) (a : Address) :
    contains (String.ofList [c]) (.str a.text) = .ok (decide (c ∈ a.chars)) := by
  have infix_iff : [c] <:+: a.chars ↔ c ∈ a.chars := List.singleton_infix_iff ..
  rw [contains, Address.text, String.toList_ofList, String.toList_ofList, decide_eq_decide.mpr infix_iff]

theorem formatIp_texts {port : Dict} {addresses : List Address} (has : HasFixedIps port addresses) (separator : Char) :
    formatIp zero (String.ofList [separator]) port =
      .ok (.list (texts (addresses.filter fun a => decide (separator ∉ a.chars)))) := by
  obtain ⟨fixedIps, found, all⟩ := has
  cases addresses with
  | nil =>
    rw [List.forall₂_nil_left_iff] at all
    subst all
    rw [formatIp, found]
    rfl
  | cons first rest =>
    obtain ⟨ip, ips, -, -, rfl⟩ := List.forall₂_cons_left_iff.mp all
    have read : (ip :: ips).mapM (itemOf "ip_address") = .ok (texts (first :: rest)) := by
      rw [mapM_ok, texts, List.forall₂_map_right_iff]
      exact all.flip
    have separated : (texts (first :: rest)).mapM (contains (String.ofList [separator])) =
        .ok ((first :: rest).map fun a => decide (separator ∈ a.chars)) := by
      rw [mapM_ok, texts, List.forall₂_map_left_iff, List.forall₂_map_right_iff, List.forall₂_same]
      exact fun a _ => contains_char separator a
    rw [formatIp, found]
    show ((ip :: ips).mapM (itemOf "ip_address") >>= fun addresses =>
      addresses.mapM (contains (String.ofList [separator])) >>= _) = _
    rw [read]
    show ((texts (first :: rest)).mapM (contains (String.ofList [separator])) >>= _) = _
    rw [separated]
    show Except.ok (Value.list ((((texts (first :: rest)).zip _).filter _).map _)) = _
    rw [texts, List.zip_map', List.filter_map, List.map_map]
    simp [texts, Function.comp_def]

variable (zero) in
/-- What `to_dict` has of the addresses. -/
theorem portToDict_texts {port : Dict} {addresses : List Address} (has : HasFixedIps port addresses) :
    ∃ obj, portToDict zero port = .ok obj ∧
      dictGet obj "ipv4" = some (.list (texts (addresses.filter fun a => decide (':' ∉ a.chars)))) ∧
      dictGet obj "ipv6" = some (.list (texts (addresses.filter fun a => decide ('.' ∉ a.chars)))) := by
  have ipv4 : formatIp zero ":" port = _ := formatIp_texts has ':'
  have ipv6 : formatIp zero "." port = _ := formatIp_texts has '.'
  rw [portToDict, ipv4, ipv6]
  refine ⟨_, rfl, ?_, ?_⟩
  · rw [dictGet_append]
    rfl
  · rw [dictGet_append]
    rfl

/-! ## When they are split -/

theorem texts_length {first second : List Address} (same : Value.list (texts first) = .list (texts second)) :
    first.length = second.length := by
  have lengths := congrArg List.length (Value.list.inj same)
  rwa [texts, List.length_map, texts, List.length_map] at lengths

theorem not_colon (a : Address) : decide (':' ∉ a.chars) = !a.isV6 := by
  have colon := a.colon_mem_iff
  cases v6 : a.isV6 with
  | true => simp [colon, v6]
  | false => simp [colon, v6]

/-- An address without a point is of version 6. -/
theorem not_point {a : Address} (plain : '.' ∉ a.chars) : a.isV6 = true := by
  cases a with
  | v4 a => exact absurd a.point_mem plain
  | v6 a zone => rfl

theorem filter_not_point (addresses : List Address) : addresses.filter (fun a => decide ('.' ∉ a.chars)) =
    (addresses.filter Address.isV6).filter fun a => decide ('.' ∉ a.chars) := by
  rw [List.filter_filter]
  refine List.filter_congr fun a _ => ?_
  by_cases plain : '.' ∉ a.chars
  · simp [plain, not_point plain]
  · simp [plain]

/-- The addresses are split iff none of version 6 is written with a point. -/
theorem port_splits_iff {port : Dict} {addresses : List Address} (has : HasFixedIps port addresses) :
    Splits zero port addresses ↔ ∀ a ∈ addresses, a.isV6 = true → '.' ∉ a.chars := by
  obtain ⟨obj, built, ipv4, ipv6⟩ := portToDict_texts zero has
  constructor
  · rintro ⟨other, same, -, own⟩ a member v6
    cases built.symm.trans same
    have lengths := texts_length (Option.some.inj (ipv6.symm.trans own))
    rw [filter_not_point, List.length_filter_eq_length_iff] at lengths
    exact of_decide_eq_true (lengths a (List.mem_filter.mpr ⟨member, v6⟩))
  · intro plain
    refine ⟨obj, built, ?_, ?_⟩
    · rw [ipv4]
      simp only [not_colon]
    · rw [ipv6, filter_not_point, List.filter_eq_self.mpr]
      intro a member
      obtain ⟨given, v6⟩ := List.mem_filter.mp member
      exact decide_eq_true (plain a given v6)

/-! ### An address of version 4 in one of version 6 -/

/-- `10.0.0.5`. -/
def host : Ipv4 := ⟨[10, 0, 0, 5], rfl⟩

/-- `fd00::1`. -/
def local6 : Ipv6 :=
  .compressed [⟨['f', 'd', '0', '0'], by decide, by decide, rfl⟩] ⟨[⟨['1'], by decide, by decide, rfl⟩], none⟩
    (by decide)

/-- `::ffff:10.0.0.5`. -/
def mapped : Ipv6 := .compressed [] ⟨[⟨['f', 'f', 'f', 'f'], by decide, by decide, rfl⟩], some host⟩ (by decide)

def portWith (addresses : List Address) : Dict :=
  [("id", .str "port"), ("fixed_ips", .list (addresses.map fun a => .dict [("subnet_id", .str "subnet"), ("ip_address", .str a.text)]))]

theorem portWith_has (addresses : List Address) : HasFixedIps (portWith addresses) addresses := by
  refine ⟨_, rfl, ?_⟩
  rw [List.forall₂_map_right_iff, List.forall₂_same]
  exact fun a _ => rfl

/-- The usual texts are split, and the mapped address is not. -/
theorem dual_stack_splits_iff :
    Splits (fun _ => false) (portWith [.v4 host, .v6 local6 none]) [.v4 host, .v6 local6 none] ∧
      ¬ Splits (fun _ => false) (portWith [.v4 host, .v6 mapped none]) [.v4 host, .v6 mapped none] := by
  refine ⟨(port_splits_iff (portWith_has _)).mpr (by decide), ?_⟩
  rw [port_splits_iff (portWith_has _)]
  decide

/-- The mapped address is in neither list. -/
theorem mapped_in_neither : ¬ ∀ (zero : String → Bool) (port : Dict) (addresses : List Address),
    HasFixedIps port addresses → Splits zero port addresses := by
  intro all
  obtain ⟨obj, built, -, ipv6⟩ := all (fun _ => false) _ _ (portWith_has [.v6 mapped none])
  obtain ⟨other, same, -, none⟩ := portToDict_texts (fun _ => false) (portWith_has [.v6 mapped none])
  cases built.symm.trans same
  have lengths := texts_length (Option.some.inj (ipv6.symm.trans none))
  exact absurd lengths (by decide)

end Skyline.FixedIps
