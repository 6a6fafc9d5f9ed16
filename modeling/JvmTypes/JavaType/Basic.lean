import JvmTypes.Modifiers.Basic
import JvmTypes.Platform
import JvmTypes.Primitive
import JvmTypes.RuntimeClass.Basic
/-!
# Java types

A type is a primitive, a class, or an array of a type. A class is known from a declaration, or
from a source outside this library that answers every question itself, or it is an array in the
place of a class. An array holds nothing but its component, the platform whose classes it has
above it, and how it came to be; all else about it follows from these.
-/

namespace JvmTypes

/-- What a type can be asked with yes or no. -/
inductive Trait where
  | primitive
  | array
  | interface
  | enumType
  | annotationType
  | localClass
  | anonymousClass
  | unresolved
deriving DecidableEq

namespace Trait

def all : List Trait :=
  [.primitive, .array, .interface, .enumType, .annotationType, .localClass, .anonymousClass,
    .unresolved]

end Trait

inductive ClassKind where
  | plain
  | interface
  | enumType
  | annotationType
deriving DecidableEq

namespace ClassKind

/-- The modifiers that every class of a kind has, whether or not they are written. -/
def impliedModifiers : ClassKind → Modifiers
  | .plain => .empty
  | .interface => .ofFlags [.interface, .abstract]
  | .enumType => .ofFlag .enumType
  | .annotationType => .ofFlags [.annotationType, .interface, .abstract]

end ClassKind

/-- How the canonical name of a declaration comes about. -/
inductive CanonicalNaming where
  /-- It follows from the place of the declaration. -/
  | derived
  /-- It is given, possibly as absent. -/
  | given (name : Option String)

/-- Where a declaration comes from. Two declarations of one binary name are one type, but each
keeps a list of interfaces of its own. -/
inductive Origin where
  | source (serial : Nat)
  | platform (platform : Platform) (which : PlatformClass)
deriving DecidableEq

/-- How an array type came to be. Array types over one component are one type, but what a pool
keeps it made only once, and the number tells it from all else in that pool. -/
inductive ArrayOrigin where
  | kept (number : Nat)
  | loose
deriving DecidableEq

/-- The fixed answers of a class that is described from outside. To ask it for its runtime class
logs nothing. -/
structure ExternalFacts where
  binaryName : String
  canonicalName : Option String
  simpleName : String
  packageName : String
  display : String
  modifiers : Modifiers
  traits : List Trait
  runtimeClass : Option RuntimeClass

mutual

inductive JavaType where
  | primitive (kind : Primitive)
  | ofClass (cls : ClassType)
  | array (arr : ArrayType)

inductive ClassType where
  | declared (decl : Declaration)
  | external (ext : ExternalClass)
  /-- An array in the place of a class: it answers as the array does, but is known by name. -/
  | ofArray (arr : ArrayType)

/-- Where a class is declared, with the type around it. -/
inductive Nesting where
  | topLevel
  | memberOf (outer : JavaType)
  | localIn (outer : JavaType)
  | anonymousIn (outer : JavaType)

/-- A class, interface, enum or annotation type as it is declared. -/
structure Declaration where
  origin : Origin
  binaryName : String
  naming : CanonicalNaming
  givenModifiers : Modifiers
  kind : ClassKind
  nesting : Nesting
  superclass : Option JavaType
  interfaces : List JavaType
  typeParameters : List String
  loadable : Bool
  unresolved : Bool

structure ExternalClass where
  facts : ExternalFacts
  component : Option JavaType
  superclass : Option JavaType

structure ArrayType where
  platform : Platform
  component : JavaType
  origin : ArrayOrigin

end

inductive Variant where
  | primitive
  | ofClass
  | array
deriving DecidableEq

namespace Variant

def label : Variant → String
  | .primitive => "primitive"
  | .ofClass => "class"
  | .array => "array"

end Variant

namespace JavaType

def variant : JavaType → Variant
  | .primitive _ => .primitive
  | .ofClass _ => .ofClass
  | .array _ => .array

/-- The class-level view of a type, which primitives do not have. -/
def asClass? : JavaType → Option ClassType
  | .primitive _ => none
  | .ofClass cls => some cls
  | .array arr => some (.ofArray arr)

/-- The array that a type is. An array in the place of a class does not count. -/
def asArray? : JavaType → Option ArrayType
  | .array arr => some arr
  | _ => none

end JavaType

namespace ClassType

def toType : ClassType → JavaType
  | .ofArray arr => .array arr
  | cls => .ofClass cls

end ClassType

end JvmTypes
