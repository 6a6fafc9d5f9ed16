import JvmTypes.JavaType.Loading
import JvmTypes.Member
/-!
# Reports

What a type, a class or a member says about itself when it is described, with other types named
by their display text.
-/

namespace JvmTypes

/-! ## Types and classes -/

structure TypeReport where
  display : String
  simpleName : String
  packageName : String
  modifiers : Modifiers
  traits : List Trait
  runtimeClass : Option RuntimeClass

structure ClassReport where
  binaryName : String
  canonicalName : Option String
  superclass : Option String
  interfaces : List String
  declaredClasses : List String
  typeParameters : List String
  enclosingClass : Option String
  enclosingMethod : Option String
  component : Option String
  variant : Variant

structure ArrayReport where
  dimensions : Nat
  element : String
  component : String

namespace JavaType

def report (t : JavaType) : TypeReport where
  display := t.display
  simpleName := t.simpleName
  packageName := t.packageName
  modifiers := t.modifiers
  traits := t.traits
  runtimeClass := t.runtimeClass.toOption

end JavaType

namespace ClassType

def report (cls : ClassType) : ClassReport where
  binaryName := cls.binaryName
  canonicalName := cls.canonicalName?
  superclass := cls.superclass?.map JavaType.display
  interfaces := cls.interfaces.types.map JavaType.display
  declaredClasses := cls.declaredClasses.map JavaType.display
  typeParameters := cls.typeParameters
  enclosingClass := cls.enclosing?.map JavaType.display
  enclosingMethod := cls.enclosingMethod?.map Executable.name
  component := cls.component?.map JavaType.display
  variant := cls.toType.variant

end ClassType

namespace ArrayType

def report (arr : ArrayType) : ArrayReport where
  dimensions := arr.dimensions
  element := arr.elementType.display
  component := arr.component.display

end ArrayType

/-! ## Members -/

structure FieldReport where
  name : String
  modifiers : Modifiers
  enclosing : String
  isEnumConstant : Bool

structure ParameterReport where
  name : String
  isFinal : Bool
  enclosing : String
  /-- The name of the executable that the parameter says it belongs to. -/
  declaredBy : String
  /-- That executable is the one that lists the parameter. -/
  declaredByOwner : Bool

structure ExecutableReport where
  name : String
  modifiers : Modifiers
  enclosing : String
  arity : Nat
  isVarargs : Bool
  typeParameterCount : Nat
  parameters : List ParameterReport

structure MembersReport where
  fields : List FieldReport
  methods : List ExecutableReport
  constructors : List ExecutableReport

namespace LengthField

def report (f : LengthField) : FieldReport where
  name := f.name
  modifiers := f.modifiers
  enclosing := f.enclosingType.display
  isEnumConstant := f.isEnumConstant

end LengthField

namespace Parameter

def report (lister : Executable) (p : Parameter) : ParameterReport where
  name := p.name
  isFinal := p.isFinal
  enclosing := p.enclosingType.display
  declaredBy := p.declaring.name
  declaredByOwner := p.declaring == lister

end Parameter

namespace Executable

def report (e : Executable) : ExecutableReport where
  name := e.name
  modifiers := e.modifiers
  enclosing := e.enclosingType.display
  arity := e.arity
  isVarargs := e.isVarargs
  typeParameterCount := e.typeParameters.length
  parameters := e.parameters.map (Parameter.report e)

end Executable

namespace ClassType

def membersReport (cls : ClassType) : MembersReport where
  fields := cls.fields.map LengthField.report
  methods := cls.methods.map Executable.report
  constructors := cls.constructors.map Executable.report

end ClassType

end JvmTypes
