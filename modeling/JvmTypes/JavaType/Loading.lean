import JvmTypes.JavaType.Nested
import JvmTypes.JavaType.Text
/-!
# Runtime classes of types

The runtime class of a type, or why it has none. For an array it is the runtime class of the leaf
with the dimensions of the array added.
-/

namespace JvmTypes

/-- Why a type has no runtime class. -/
inductive NotLoaded where
  /-- The class itself is not loaded. -/
  | missing
  /-- The leaf of an array has no runtime class. -/
  | missingElement (array element : String)
  /-- The platform has no such array class. -/
  | refused (cause : NoArrayClass)
deriving DecidableEq

namespace NotLoaded

/-- That a class is not loaded is no event by itself. -/
def events : NotLoaded → List Log.Event
  | .missing => []
  | .missingElement array element => [.elementNotLoaded array element]
  | .refused cause => cause.events

end NotLoaded

namespace Declaration

/-- A declared class is loaded if it can be and was resolved. -/
def runtimeClass? (decl : Declaration) : Option RuntimeClass :=
  if decl.loadable && !decl.unresolved then some (.named decl.binaryName) else none

end Declaration

namespace Leaf

def runtimeClass? : Leaf → Option RuntimeClass
  | .primitive kind => some (.primitive kind)
  | .declared decl => decl.runtimeClass?
  | .external ext => ext.facts.runtimeClass

end Leaf

namespace ArrayType

def runtimeClass (arr : ArrayType) : Except NotLoaded RuntimeClass :=
  match arr.leaf.runtimeClass? with
  | none => .error (.missingElement arr.display arr.elementType.display)
  | some element => (element.addDimensions arr.dimensions).mapError .refused

end ArrayType

namespace ClassType

def runtimeClass : ClassType → Except NotLoaded RuntimeClass
  | .declared decl => decl.runtimeClass?.elim (.error .missing) .ok
  | .external ext => ext.facts.runtimeClass.elim (.error .missing) .ok
  | .ofArray arr => arr.runtimeClass

end ClassType

namespace JavaType

def runtimeClass : JavaType → Except NotLoaded RuntimeClass
  | .primitive kind => .ok (.primitive kind)
  | .ofClass cls => cls.runtimeClass
  | .array arr => arr.runtimeClass

/-- What is logged when the runtime class of a type is looked for. -/
def loadingEvents (t : JavaType) : List Log.Event :=
  match t.runtimeClass with
  | .ok _ => []
  | .error cause => cause.events

end JavaType

end JvmTypes
