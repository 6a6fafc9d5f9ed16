import JvmTypes.JavaType.Name
import JvmTypes.Text.Quoted
/-!
# Types in text

`display` is how messages and reports refer to a type; `dump` shows how a type is built, with the
names in it quoted.
-/

namespace JvmTypes

/-! ## Display -/

mutual

def JavaType.display : JavaType → String
  | .primitive kind => kind.keyword
  | .ofClass cls => cls.display
  | .array arr => arr.display

def ClassType.display : ClassType → String
  | .declared decl => decl.binaryName
  | .external ext => ext.facts.display
  | .ofArray arr => arr.display

def ArrayType.display : ArrayType → String
  | ⟨_, component, _⟩ => "array(" ++ component.display ++ ")"

end

theorem ArrayType.display_eq (arr : ArrayType) :
    arr.display = "array(" ++ arr.component.display ++ ")" := by
  cases arr
  rfl

/-! ## Dump -/

mutual

def JavaType.dump : JavaType → String
  | .primitive kind => "Primitive(PrimitiveSymbol(" ++ kind.capitalized ++ "))"
  | .ofClass cls => "Class(ClassRef(" ++ cls.dump ++ "))"
  | .array arr => "Array(" ++ arr.dump ++ ")"

def ClassType.dump : ClassType → String
  | .declared decl => "ClassStub(" ++ Text.quoted decl.binaryName ++ ")"
  | .external ext => "Foreign(" ++ Text.quoted ext.facts.binaryName ++ ")"
  | .ofArray arr => arr.dump

def ArrayType.dump : ArrayType → String
  | ⟨_, component, _⟩ => "ArraySymbol(" ++ component.dump ++ ")"

end

end JvmTypes
