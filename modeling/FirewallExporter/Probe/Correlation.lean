import Std.Data.HashMap
import FirewallExporter.Device.Dialogue

/-!
Joins two lists that describe the same entities. The primary list decides which
entities there are and in which order; a secondary entity is attached to those
with its key. Where the secondary list repeats a key, its first entity counts.
-/

namespace FirewallExporter

/-- An entity known by a key, and how a message speaks of it. -/
class Keyed (α : Type) where
  key : α → String
  describe : α → String := key

/-- A primary entity with the secondary one of its key, or with an empty one. -/
structure Merged (α β : Type) where
  primary : α
  secondary : β
  matched : Bool
deriving DecidableEq, Repr

namespace Correlation

variable {α β : Type} [Keyed α] [Keyed β]

abbrev Index (β : Type) := Std.HashMap String β

def index (secondary : List β) : Index β :=
  secondary.foldl (fun i entity => i.insertIfNew (Keyed.key entity) entity) ∅

def attach (empty : β) (i : Index β) (entity : α) : Merged α β :=
  match i[Keyed.key entity]? with
  | some other => ⟨entity, other, true⟩
  | none => ⟨entity, empty, false⟩

def missing (facet : String) (m : Merged α β) : Option Event :=
  if m.matched then none
  else some (.unmatched (Keyed.describe m.primary) (Keyed.key m.primary) facet)

end Correlation

open Correlation in
/-- One event is noted for each entity without a match. -/
def merge {α β : Type} [Keyed α] [Keyed β] (empty : β) (facet : String)
    (primary : List α) (secondary : List β) : Dialogue (List (Merged α β)) :=
  let merged := primary.map (attach empty (index secondary))
  .bind (.noteAll (merged.filterMap (missing facet))) fun _ => .done merged

end FirewallExporter
