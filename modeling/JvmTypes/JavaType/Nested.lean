import JvmTypes.JavaType.Trait
/-!
# Nested arrays

From an array one can go to its component, from there to the component of that, and so on. `leaf`
is where this chain ends, and `depth` counts the arrays on it. A class described from outside is
on the chain if it claims to be an array and names a component. A leaf is never such a type,
which its own type says.
-/

namespace JvmTypes

/-- What a chain of components ends in. -/
inductive Leaf where
  | primitive (kind : Primitive)
  | declared (decl : Declaration)
  | external (ext : ExternalClass)

namespace Leaf

def toType : Leaf → JavaType
  | .primitive kind => .primitive kind
  | .declared decl => .ofClass (.declared decl)
  | .external ext => .ofClass (.external ext)

end Leaf

mutual

/-- The end of the chain of components that starts at a type. -/
def JavaType.leaf : JavaType → Leaf
  | .primitive kind => .primitive kind
  | .ofClass cls => cls.leaf
  | .array arr => arr.leaf

def ClassType.leaf : ClassType → Leaf
  | .declared decl => .declared decl
  | .external ⟨facts, none, superclass⟩ => .external ⟨facts, none, superclass⟩
  | .external ⟨facts, some component, superclass⟩ =>
    if facts.has .array then component.leaf else .external ⟨facts, some component, superclass⟩
  | .ofArray arr => arr.leaf

def ArrayType.leaf : ArrayType → Leaf
  | ⟨_, component, _⟩ => component.leaf

end

mutual

/-- The number of arrays on the chain of components that starts at a type. -/
def JavaType.depth : JavaType → Nat
  | .primitive _ => 0
  | .ofClass cls => cls.depth
  | .array arr => arr.depth

def ClassType.depth : ClassType → Nat
  | .declared _ => 0
  | .external ⟨_, none, _⟩ => 0
  | .external ⟨facts, some component, _⟩ => if facts.has .array then component.depth + 1 else 0
  | .ofArray arr => arr.depth

def ArrayType.depth : ArrayType → Nat
  | ⟨_, component, _⟩ => component.depth + 1

end

namespace ArrayType

theorem leaf_eq (arr : ArrayType) : arr.leaf = arr.component.leaf := by
  cases arr
  rfl

theorem depth_eq (arr : ArrayType) : arr.depth = arr.component.depth + 1 := by
  cases arr
  rfl

def elementType (arr : ArrayType) : JavaType :=
  arr.leaf.toType

def dimensions (arr : ArrayType) : Nat :=
  arr.depth

theorem dimensions_eq (arr : ArrayType) : arr.dimensions = arr.component.depth + 1 :=
  arr.depth_eq

theorem dimensions_pos (arr : ArrayType) : 0 < arr.dimensions := by
  rw [dimensions_eq]
  exact Nat.succ_pos _

end ArrayType

namespace JavaType

/-- The dimensions of a type as the limit counts them: an array in the place of a class is taken
for a class and has none. -/
def dimensions (t : JavaType) : Nat :=
  match t.asArray? with
  | some arr => arr.dimensions
  | none => 0

end JavaType

end JvmTypes
