import JvmTypes.RuntimeClass.Basic
import JvmTypes.Text.Repeated
/-!
# Names of runtime classes

`name` is what the platform answers for a class: the binary name, or for an array one bracket a
dimension and the descriptor of the element. `typeName` is the form of the source language.
-/

namespace JvmTypes.RuntimeClass

def Element.name : Element → String
  | .primitive kind => kind.keyword
  | .named binaryName => binaryName

def Element.descriptor : Element → String
  | .primitive kind => kind.descriptor.toString
  | .named binaryName => "L" ++ binaryName ++ ";"

def name (c : RuntimeClass) : String :=
  if c.isArray then Text.repeated "[" c.dimensions.toNat ++ c.element.descriptor
  else c.element.name

def typeName (c : RuntimeClass) : String :=
  c.element.name ++ Text.repeated "[]" c.dimensions.toNat

def display (c : RuntimeClass) : String := c.name

end JvmTypes.RuntimeClass
