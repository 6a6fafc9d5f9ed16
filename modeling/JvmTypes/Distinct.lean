import Std.Data.HashSet
/-!
# Distinct items

A list put item by item into a set: which items were new, and how large the set becomes.
-/

namespace JvmTypes

variable {α : Type} [BEq α] [Hashable α]

/-- For each item whether neither `seen` nor an earlier item is equal to it. -/
def noveltyAfter (seen : Std.HashSet α) : List α → List Bool
  | [] => []
  | item :: rest => (!seen.contains item) :: noveltyAfter (seen.insert item) rest

def novelty (items : List α) : List Bool :=
  noveltyAfter ∅ items

def distinctCount (items : List α) : Nat :=
  (Std.HashSet.ofList items).size

end JvmTypes
