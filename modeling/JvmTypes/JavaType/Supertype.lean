import JvmTypes.JavaType.Trait
/-!
# What a class is connected to

The superclass, the interfaces, the surrounding type, the type parameters and the component of a
class. A list of interfaces carries the mark of its owner, so that one list handed out twice can
be told from two lists of equal content.
-/

namespace JvmTypes

namespace Platform

/-- The declaration of a platform class: public, loaded, with nothing above it. -/
def declaration (p : Platform) (which : PlatformClass) : Declaration where
  origin := .platform p which
  binaryName := which.binaryName
  naming := .derived
  givenModifiers := .ofFlag .publicAccess
  kind := if which = .object then .plain else .interface
  nesting := .topLevel
  superclass := none
  interfaces := []
  typeParameters := []
  loadable := true
  unresolved := false

def type (p : Platform) (which : PlatformClass) : JavaType :=
  .ofClass (.declared (p.declaration which))

def arrayInterfaces (p : Platform) : List JavaType :=
  [p.type .cloneable, p.type .serializable]

end Platform

inductive ListOwner where
  | platform (platform : Platform)
  | declaration (origin : Origin)
deriving DecidableEq

/-- A list of interfaces; without an owner it is made anew whenever it is asked for. -/
structure InterfaceList where
  owner : Option ListOwner
  types : List JavaType

namespace InterfaceList

/-- Both are the one list that an owner keeps. -/
def isSameList (a b : InterfaceList) : Bool :=
  a.owner.isSome && a.owner == b.owner

end InterfaceList

namespace ArrayType

def superclass (arr : ArrayType) : JavaType :=
  arr.platform.type .object

def interfaces (arr : ArrayType) : InterfaceList :=
  ⟨some (.platform arr.platform), arr.platform.arrayInterfaces⟩

end ArrayType

namespace ClassType

def superclass? : ClassType → Option JavaType
  | .declared decl => decl.superclass
  | .external ext => ext.superclass
  | .ofArray arr => some arr.superclass

def interfaces : ClassType → InterfaceList
  | .declared decl => ⟨some (.declaration decl.origin), decl.interfaces⟩
  | .external _ => ⟨none, []⟩
  | .ofArray arr => arr.interfaces

def enclosing? : ClassType → Option JavaType
  | .declared decl => decl.nesting.outer?
  | .external _ => none
  | .ofArray _ => none

def typeParameters : ClassType → List String
  | .declared decl => decl.typeParameters
  | .external _ => []
  | .ofArray _ => []

def component? : ClassType → Option JavaType
  | .declared _ => none
  | .external ext => ext.component
  | .ofArray arr => some arr.component

end ClassType

end JvmTypes
