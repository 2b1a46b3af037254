import Mathlib.Data.List.Infix
import Skyline.Config
import Skyline.Enrichment

/-!
What the listing of ports gives as the origin of a port (`api/wrapper/openstack.py`). The
wrapper of a port puts a wrapper around each of its allowed address pairs, and the dictionary
that comes out of it holds these objects as they are. So only a port without such pairs comes
out as the JSON that Neutron sent.
-/
namespace Skyline.Ports
open Skyline.Python Skyline.Raising Skyline.Extension
open Skyline.Config (Value)

/-! ## Values -/

/-- A JSON object or a dictionary of Python, by the assignments that built it. -/
abbrev Dict := List (String × Value)

/-- The truth value of a value of JSON; whether the text of a float is a zero is the parser's
    to say. -/
def truth (zero : String → Bool) : Value → Bool
  | .null => false
  | .bool b => b
  | .int n => n != 0
  | .float text => !zero text
  | .str s => truthy s
  | .list items => !items.isEmpty
  | .dict items => !items.isEmpty

/-- `for x in value`. -/
def iter : Value → Except Exn (List Value)
  | .list items => .ok items
  | .dict items => .ok (items.map fun item => .str item.1)
  | .str s => .ok (s.toList.map fun c => .str (String.singleton c))
  | _ => .error (.exception "object is not iterable")

/-- `key in value`. -/
def contains (key : String) : Value → Except Exn Bool
  | .dict items => .ok (items.any (·.1 == key))
  | .list items => .ok (items.any fun item => match item with
    | .str s => s == key
    | _ => false)
  | .str s => .ok (decide (key.toList <:+: s.toList))
  | _ => .error (.exception "argument is not iterable")

/-! ## The wrappers -/

structure PortAllowedAddressPair where
  apidict : Value

/-- What the dictionary of a wrapped port holds: a value that Neutron sent, or pairs that were
    wrapped. -/
inductive Item
  | json (v : Value)
  | pairs (wrapped : List PortAllowedAddressPair)

def Item.truth (zero : String → Bool) : Item → Bool
  | .json v => Ports.truth zero v
  | .pairs wrapped => !wrapped.isEmpty

def adminState (up : Bool) : Value := .str (if up then "UP" else "DOWN")

/-- `NeutronAPIDictWrapper.__init__`, of a pair. -/
def portAllowedAddressPair (zero : String → Bool) (pair : Value) : Except Exn PortAllowedAddressPair := do
  if ← contains "admin_state_up" pair then
    match pair with
    | .dict items =>
      let up ← getitem (dictGet items "admin_state_up") "admin_state_up"
      return ⟨.dict (items ++ [("admin_state", adminState (truth zero up))])⟩
    | _ => .error (.exception "indices must be integers")
  else return ⟨pair⟩

/-- `NeutronAPIDictWrapper.__init__`, of a port. -/
def neutronAPIDictWrapper (zero : String → Bool) (apidict : List (String × Item)) : List (String × Item) :=
  match dictGet apidict "admin_state_up" with
  | some up => apidict ++ [("admin_state", .json (adminState (up.truth zero)))]
  | none => apidict

/-- `OSPort(port).to_dict()`. -/
def osPort (zero : String → Bool) (port : Dict) : Except Exn (List (String × Item)) := do
  let apidict := port.map fun entry => (entry.1, Item.json entry.2)
  match (dictGet port "allowed_address_pairs").filter (truth zero) with
  | some pairs =>
    let items ← iter pairs
    let wrapped ← items.mapM (portAllowedAddressPair zero)
    return neutronAPIDictWrapper zero (apidict ++ [("allowed_address_pairs", .pairs wrapped)])
  | none => return neutronAPIDictWrapper zero apidict

/-! ## What comes out -/

/-- A list of no pairs is JSON, the objects that wrap pairs are not. -/
def Item.IsJson : Item → Prop
  | .json _ => True
  | .pairs wrapped => wrapped = []

/-- A dictionary of JSON with every key of what was sent, and an equal value. -/
structure SentBack (port : Dict) (d : List (String × Item)) : Prop where
  json : ∀ key item, dictGet d key = some item → item.IsJson
  kept : ∀ key v, dictGet port key = some v → dictGet d key = some (.json v)

variable {zero : String → Bool} {port : Dict}

theorem dictGet_concat {ν : Type} (entries : List (String × ν)) (key : String) (v : ν) (k : String) :
    dictGet (entries ++ [(key, v)]) k = if k = key then some v else dictGet entries k := by
  rw [dictGet_append]
  by_cases same : k = key
  · simp [dictGet, same]
  · simp [dictGet, List.lookup_cons, beq_eq_false_iff_ne.mpr same, same]

theorem dictGet_json (port : Dict) (k : String) :
    dictGet (port.map fun entry => (entry.1, Item.json entry.2)) k = (dictGet port k).map .json := by
  rw [dictGet, dictGet, ← List.map_reverse]
  induction port.reverse with
  | nil => rfl
  | cons entry entries ih =>
    rw [List.map_cons, List.lookup_cons, List.lookup_cons, ih]
    split
    · rfl
    · rfl

/-- Without pairs the dictionary is that of the port, but for the state that is computed. -/
theorem wrapper_sentBack_iff : SentBack port (neutronAPIDictWrapper zero (port.map fun entry => (entry.1, Item.json entry.2))) ↔
    ∀ up state, dictGet port "admin_state_up" = some up → dictGet port "admin_state" = some state →
      state = adminState (truth zero up) := by
  have own : SentBack port (port.map fun entry => (entry.1, Item.json entry.2)) := by
    refine ⟨fun key item found => ?_, fun key v found => ?_⟩
    · rw [dictGet_json] at found
      obtain ⟨v, -, rfl⟩ := Option.map_eq_some_iff.mp found
      trivial
    · rw [dictGet_json, found]
      rfl
  rw [neutronAPIDictWrapper, dictGet_json]
  cases given : dictGet port "admin_state_up" with
  | none => exact iff_of_true own (by rintro up state ⟨⟩)
  | some up =>
    rw [Option.map_some]
    dsimp only [Item.truth]
    constructor
    · rintro back _ state ⟨⟩ found
      have kept := back.kept _ _ found
      rw [dictGet_concat, if_pos rfl] at kept
      exact (Item.json.inj (Option.some.inj kept)).symm
    · intro computed
      refine ⟨fun key item found => ?_, fun key v found => ?_⟩
      · rw [dictGet_concat] at found
        split at found
        · cases found
          trivial
        · exact own.json key item found
      · rw [dictGet_concat]
        split
        · next same =>
          rw [computed up v rfl (same ▸ found)]
        · exact own.kept key v found

/-- Pairs that count as true are at least one. -/
theorem iter_ne_nil {pairs : Value} {items : List Value} (counts : truth zero pairs = true) (each : iter pairs = .ok items) :
    items ≠ [] := by
  rintro rfl
  cases pairs with
  | list items =>
    cases each
    cases counts
  | dict items =>
    have none : items = [] := List.map_eq_nil_iff.mp (Except.ok.inj each)
    rw [none] at counts
    cases counts
  | str s =>
    have none : s.toList = [] := List.map_eq_nil_iff.mp (Except.ok.inj each)
    rw [String.toList_eq_nil_iff] at none
    rw [none] at counts
    exact absurd counts (show ¬ truthy "" = true by decide)
  | _ => cases each

/-- The origin of a port is the JSON that Neutron sent iff the port has no allowed address
    pairs and no `admin_state` other than the one that is computed. -/
theorem osPort_sentBack_iff (zero : String → Bool) (port : Dict) : (∃ d, osPort zero port = .ok d ∧ SentBack port d) ↔
    (∀ pairs, dictGet port "allowed_address_pairs" = some pairs → truth zero pairs = false) ∧
    ∀ up state, dictGet port "admin_state_up" = some up → dictGet port "admin_state" = some state →
      state = adminState (truth zero up) := by
  rw [osPort]
  cases given : (dictGet port "allowed_address_pairs").filter (truth zero) with
  | none =>
    have none : ∀ pairs, dictGet port "allowed_address_pairs" = some pairs → truth zero pairs = false := by
      intro pairs found
      rw [found] at given
      simpa using given
    rw [and_iff_right none, ← wrapper_sentBack_iff]
    constructor
    · rintro ⟨_, ⟨⟩, back⟩
      exact back
    · intro back
      exact ⟨_, rfl, back⟩
  | some pairs =>
    obtain ⟨found, counts⟩ := Option.filter_eq_some_iff.mp given
    refine iff_of_false ?_ fun both => by simpa [counts] using both.1 pairs found
    rintro ⟨d, made, back⟩
    obtain ⟨items, each, rest⟩ := bind_ok_iff.mp made
    obtain ⟨wrapped, all, same⟩ := bind_ok_iff.mp rest
    have held : dictGet d "allowed_address_pairs" = some (.pairs wrapped) := by
      rw [← Except.ok.inj same, neutronAPIDictWrapper]
      split
      · rw [dictGet_concat, if_neg (by decide), dictGet_concat, if_pos rfl]
      · rw [dictGet_concat, if_pos rfl]
    have nothing : wrapped = [] := back.json _ _ held
    rw [nothing, mapM_ok, List.forall₂_nil_right_iff] at all
    exact iter_ne_nil counts each all

/-! ### A port with a pair -/

/-- A port of a virtual address. -/
def virtualPort : Dict := [("id", .str "port-a"), ("admin_state_up", .bool true),
  ("allowed_address_pairs", .list [.dict [("ip_address", .str "10.0.0.9")]])]

/-- The origin of such a port is no JSON. -/
theorem pairs_not_sent_back : ¬ ∀ (zero : String → Bool) (port : Dict),
    ∃ d, osPort zero port = .ok d ∧ SentBack port d := by
  intro always
  obtain ⟨d, made, back⟩ := always (fun text => text == "0.0") virtualPort
  cases made
  have json := back.json "allowed_address_pairs" (.pairs [⟨.dict [("ip_address", .str "10.0.0.9")]⟩]) rfl
  cases json

end Skyline.Ports
