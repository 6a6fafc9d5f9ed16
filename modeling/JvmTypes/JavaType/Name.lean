import JvmTypes.JavaType.Basic
import JvmTypes.Text.Separated
/-!
# Names

The binary, simple, package and canonical name of every type. The names of an array are those of
its component with a pair of brackets behind each; the names of a declaration are cut from its
binary name as its place demands, and its canonical name runs through the types around it.
-/

namespace JvmTypes

def arraySuffix : String := "[]"

namespace Primitive

def packageName : String := "java.lang"

end Primitive

namespace Declaration

/-- The part of the binary name outside any package. -/
def localPart (decl : Declaration) : List Char :=
  Text.afterLast '.' decl.binaryName.toList

/-- The part of the binary name outside any package and any surrounding class. -/
def innermostPart (decl : Declaration) : List Char :=
  Text.afterLast '$' decl.localPart

def packageName (decl : Declaration) : String :=
  String.ofList (Text.beforeLast '.' decl.binaryName.toList)

/-- The name under which a class is declared. A local class has a number in front of it in the
binary name, and an anonymous class has no name. -/
def simpleName (decl : Declaration) : String :=
  match decl.nesting with
  | .topLevel => String.ofList decl.localPart
  | .memberOf _ => String.ofList decl.innermostPart
  | .localIn _ => String.ofList (Text.withoutDigits decl.innermostPart)
  | .anonymousIn _ => ""

/-- The binary name with every nesting mark read as a dot: the canonical name of a member whose
surroundings have no class-level view. -/
def dottedName (decl : Declaration) : String :=
  String.ofList (Text.substitute '$' '.' decl.binaryName.toList)

end Declaration

/-! ## Binary names -/

mutual

/-- The name of a type in class files; a primitive has its keyword. -/
def JavaType.binaryName : JavaType → String
  | .primitive kind => kind.keyword
  | .ofClass cls => cls.binaryName
  | .array arr => arr.binaryName

def ClassType.binaryName : ClassType → String
  | .declared decl => decl.binaryName
  | .external ext => ext.facts.binaryName
  | .ofArray arr => arr.binaryName

def ArrayType.binaryName : ArrayType → String
  | ⟨_, component, _⟩ => component.binaryName ++ arraySuffix

end

/-! ## Simple names -/

mutual

def JavaType.simpleName : JavaType → String
  | .primitive kind => kind.keyword
  | .ofClass cls => cls.simpleName
  | .array arr => arr.simpleName

def ClassType.simpleName : ClassType → String
  | .declared decl => decl.simpleName
  | .external ext => ext.facts.simpleName
  | .ofArray arr => arr.simpleName

def ArrayType.simpleName : ArrayType → String
  | ⟨_, component, _⟩ => component.simpleName ++ arraySuffix

end

/-! ## Package names -/

mutual

def JavaType.packageName : JavaType → String
  | .primitive _ => Primitive.packageName
  | .ofClass cls => cls.packageName
  | .array arr => arr.packageName

def ClassType.packageName : ClassType → String
  | .declared decl => decl.packageName
  | .external ext => ext.facts.packageName
  | .ofArray arr => arr.packageName

def ArrayType.packageName : ArrayType → String
  | ⟨_, component, _⟩ => component.packageName

end

/-! ## Canonical names -/

mutual

/-- The name of a type in source text, which local and anonymous classes and what they contain do
not have. -/
def JavaType.canonicalName? : JavaType → Option String
  | .primitive kind => some kind.keyword
  | .ofClass cls => cls.canonicalName?
  | .array arr => arr.canonicalName?

def ClassType.canonicalName? : ClassType → Option String
  | .declared decl => decl.canonicalName?
  | .external ext => ext.facts.canonicalName
  | .ofArray arr => arr.canonicalName?

def ArrayType.canonicalName? : ArrayType → Option String
  | ⟨_, component, _⟩ => component.canonicalName?.map (· ++ arraySuffix)

/-- A given canonical name stands; otherwise the place of the declaration decides. -/
def Declaration.canonicalName? : Declaration → Option String
  | ⟨_, _, .given name, _, _, _, _, _, _, _, _⟩ => name
  | decl@⟨_, _, .derived, _, _, nesting, _, _, _, _, _⟩ => nesting.canonicalName? decl

def Nesting.canonicalName? (decl : Declaration) : Nesting → Option String
  | .topLevel => some decl.binaryName
  | .memberOf (.primitive _) => some decl.dottedName
  | .memberOf (.ofClass outer) => outer.canonicalName?.map (· ++ "." ++ decl.simpleName)
  | .memberOf (.array outer) => outer.canonicalName?.map (· ++ "." ++ decl.simpleName)
  | .localIn _ => none
  | .anonymousIn _ => none

end

/-! ## Names of arrays -/

namespace ArrayType

theorem binaryName_eq (arr : ArrayType) :
    arr.binaryName = arr.component.binaryName ++ arraySuffix := by
  cases arr
  rfl

theorem simpleName_eq (arr : ArrayType) :
    arr.simpleName = arr.component.simpleName ++ arraySuffix := by
  cases arr
  rfl

theorem packageName_eq (arr : ArrayType) : arr.packageName = arr.component.packageName := by
  cases arr
  rfl

theorem canonicalName?_eq (arr : ArrayType) :
    arr.canonicalName? = arr.component.canonicalName?.map (· ++ arraySuffix) := by
  cases arr
  rfl

end ArrayType

/-! ## Canonical names of declarations -/

theorem Declaration.canonicalName?_of_derived {decl : Declaration} (h : decl.naming = .derived) :
    decl.canonicalName? = decl.nesting.canonicalName? decl := by
  cases decl
  subst h
  rfl

end JvmTypes
