import JvmTypes.RuntimeClass.Basic
/-!
# Walks over runtime classes

A runtime class described by its element and a number of dimensions to add, and a walk from class
to class that adds dimensions, takes one off, and compares on the way. A step to a class that
does not exist leaves the walk where it is.
-/

namespace JvmTypes.RuntimeClass

structure UnknownPrimitive where
  keyword : String
deriving DecidableEq

inductive ElementSpec where
  | primitive (keyword : String)
  | named (binaryName : String)

/-- A runtime class as it is written: an element and the dimensions to add to it, if any number
is given. -/
structure Spec where
  element : ElementSpec
  dimensions : Option Nat

namespace ElementSpec

def resolve : ElementSpec → Except UnknownPrimitive RuntimeClass
  | .primitive keyword =>
    match Primitive.ofKeyword? keyword with
    | some kind => .ok (RuntimeClass.primitive kind)
    | none => .error ⟨keyword⟩
  | .named binaryName => .ok (RuntimeClass.named binaryName)

end ElementSpec

namespace Spec

def resolve (spec : Spec) : Except UnknownPrimitive (Except NoArrayClass RuntimeClass) :=
  spec.element.resolve.map fun element =>
    match spec.dimensions with
    | none => .ok element
    | some count => element.arrayOf (.ofNat count)

end Spec

inductive Move where
  | compare (spec : Spec)
  | arrayOf (count : Nat)
  | component

inductive MoveAnswer where
  | equal (same : Bool)
  | reached (cls : Option RuntimeClass)

def move (c : RuntimeClass) : Move → Except UnknownPrimitive (MoveAnswer × RuntimeClass)
  | .compare spec => spec.resolve.map fun other => (.equal (other.toOption == some c), c)
  | .arrayOf count =>
    let next := (c.arrayOf (.ofNat count)).toOption
    .ok (.reached next, next.getD c)
  | .component =>
    let next := c.componentType?
    .ok (.reached next, next.getD c)

def walk (c : RuntimeClass) : List Move → Except UnknownPrimitive (List MoveAnswer)
  | [] => .ok []
  | step :: rest => do
    let (answer, next) ← c.move step
    let answers ← next.walk rest
    pure (answer :: answers)

end JvmTypes.RuntimeClass
