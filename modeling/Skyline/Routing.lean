import Skyline.Paths
import Mathlib.Data.List.MinMax

/-!
Routing by the longest prefix. Each entry of a table has a key, and what is looked up goes to
the entry with the longest key that it begins with. Keys that are paths with one number of
names, each with a slash at its end, never compete.
-/
namespace Skyline.Routing
open Skyline.Paths
universe u v

section
variable {α : Type u} {β : Type v} [DecidableEq α]

variable {key : β → List α} {table : List β} {text : List α} {entry : β}

end

/-! ## Paths as keys -/

end Skyline.Routing
