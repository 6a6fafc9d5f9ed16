/-!
# Primitive types

The eight primitive types and `void`, in the order in which they are compared: their keywords,
their one-letter descriptors, and the keyword of each read back.
-/

namespace JvmTypes

inductive Primitive where
  | boolean
  | byte
  | char
  | short
  | int
  | long
  | float
  | double
  | void
deriving DecidableEq

namespace Primitive

def all : List Primitive :=
  [.boolean, .byte, .char, .short, .int, .long, .float, .double, .void]

def keyword : Primitive → String
  | .boolean => "boolean"
  | .byte => "byte"
  | .char => "char"
  | .short => "short"
  | .int => "int"
  | .long => "long"
  | .float => "float"
  | .double => "double"
  | .void => "void"

def descriptor : Primitive → Char
  | .boolean => 'Z'
  | .byte => 'B'
  | .char => 'C'
  | .short => 'S'
  | .int => 'I'
  | .long => 'J'
  | .float => 'F'
  | .double => 'D'
  | .void => 'V'

def capitalized : Primitive → String
  | .boolean => "Boolean"
  | .byte => "Byte"
  | .char => "Char"
  | .short => "Short"
  | .int => "Int"
  | .long => "Long"
  | .float => "Float"
  | .double => "Double"
  | .void => "Void"

def isVoid (k : Primitive) : Bool :=
  k == .void

def ofKeyword? (name : String) : Option Primitive :=
  all.find? (·.keyword == name)

def below (k : Primitive) : List Primitive :=
  all.takeWhile (· != k)

theorem keyword_injective {j k : Primitive} (h : j.keyword = k.keyword) : j = k := by
  cases j <;> cases k <;> simp_all [keyword]

@[simp] theorem ofKeyword?_keyword (k : Primitive) : ofKeyword? k.keyword = some k := by
  cases k <;> rfl

theorem ofKeyword?_eq_some_iff {name : String} {k : Primitive} :
    ofKeyword? name = some k ↔ k.keyword = name := by
  constructor
  · intro h
    simpa using List.find?_some h
  · rintro rfl
    exact ofKeyword?_keyword k

end Primitive

end JvmTypes
