import JvmTypes.JavaType.IdentityLemmas
import JvmTypes.JavaType.Supertype
/-!
# Members

The members of array types: a field with the length, a method that clones, and a constructor with
the length as its parameter. Declared classes and classes described from outside carry none. A
member is told apart by its sort and by the array type that owns it.
-/

namespace JvmTypes

structure LengthField where
  owner : ArrayType

/-- A method or constructor of an array type. -/
inductive Executable where
  | clone (owner : ArrayType)
  | constructor (owner : ArrayType)

structure Parameter where
  owner : ArrayType

/-! ## Fields -/

namespace LengthField

def name (_ : LengthField) : String := "length"

def modifiers (_ : LengthField) : Modifiers := .ofFlags [.publicAccess, .final]

def enclosingType (f : LengthField) : JavaType := .array f.owner

def isEnumConstant (_ : LengthField) : Bool := false

end LengthField

/-! ## Methods and constructors -/

namespace Executable

def owner : Executable → ArrayType
  | .clone owner => owner
  | .constructor owner => owner

def name : Executable → String
  | .clone _ => "clone"
  | .constructor _ => "<init>"

def modifiers : Executable → Modifiers
  | .clone _ => .ofFlag .publicAccess
  | .constructor _ => .ofFlags [.publicAccess, .final]

def enclosingType (e : Executable) : JavaType := .array e.owner

def arity : Executable → Nat
  | .clone _ => 0
  | .constructor _ => 1

def parameters : Executable → List Parameter
  | .clone _ => []
  | .constructor owner => [⟨owner⟩]

def isVarargs (_ : Executable) : Bool := false

def typeParameters (_ : Executable) : List String := []

end Executable

/-! ## Parameters -/

namespace Parameter

def name (_ : Parameter) : String := "arg0"

def isFinal (_ : Parameter) : Bool := false

def declaring (p : Parameter) : Executable := .constructor p.owner

def enclosingType (p : Parameter) : JavaType := p.declaring.enclosingType

end Parameter

/-! ## Identity -/

instance : BEq LengthField := ⟨fun a b => a.owner == b.owner⟩

namespace Executable

def same : Executable → Executable → Bool
  | .clone a, .clone b => a == b
  | .constructor a, .constructor b => a == b
  | _, _ => false

end Executable

instance : BEq Executable := ⟨Executable.same⟩

instance : BEq Parameter := ⟨fun a b => a.declaring == b.declaring⟩

inductive MemberSort where
  | length
  | clone
  | constructor
  | constructorParameter
deriving DecidableEq

namespace MemberSort

def weight : MemberSort → UInt64
  | .length => 3
  | .clone => 4
  | .constructor => 5
  | .constructorParameter => 6

end MemberSort

abbrev MemberDigest := MemberSort × List DigestStep

def LengthField.digest (f : LengthField) : MemberDigest := (.length, f.owner.digest)

def Executable.digest : Executable → MemberDigest
  | .clone owner => (.clone, owner.digest)
  | .constructor owner => (.constructor, owner.digest)

def Parameter.digest (p : Parameter) : MemberDigest := (.constructorParameter, p.owner.digest)

def hashOfMemberDigest (d : MemberDigest) : UInt64 :=
  mixHash d.1.weight (hashOfDigest d.2)

instance : Hashable LengthField := ⟨fun f => hashOfMemberDigest f.digest⟩

instance : Hashable Executable := ⟨fun e => hashOfMemberDigest e.digest⟩

instance : Hashable Parameter := ⟨fun p => hashOfMemberDigest p.digest⟩

/-! ## Members of any sort -/

inductive Member where
  | field (f : LengthField)
  | executable (e : Executable)
  | parameter (p : Parameter)

namespace Member

/-- Equality where both are fields, both executables or both parameters. -/
def sameKind? : Member → Member → Option Bool
  | .field a, .field b => some (a == b)
  | .executable a, .executable b => some (a == b)
  | .parameter a, .parameter b => some (a == b)
  | _, _ => none

/-- Members of different kinds are never equal. -/
def same (a b : Member) : Bool :=
  (a.sameKind? b).getD false

def digest : Member → MemberDigest
  | .field f => f.digest
  | .executable e => e.digest
  | .parameter p => p.digest

def enclosingType : Member → JavaType
  | .field f => f.enclosingType
  | .executable e => e.enclosingType
  | .parameter p => p.enclosingType

end Member

instance : BEq Member := ⟨Member.same⟩

instance : Hashable Member := ⟨fun m => hashOfMemberDigest m.digest⟩

/-! ## The members of a class -/

namespace ClassType

def fields : ClassType → List LengthField
  | .ofArray arr => [⟨arr⟩]
  | _ => []

def methods : ClassType → List Executable
  | .ofArray arr => [.clone arr]
  | _ => []

def constructors : ClassType → List Executable
  | .ofArray arr => [.constructor arr]
  | _ => []

/-- No class of this library lists the classes declared in it. -/
def declaredClasses (_ : ClassType) : List JavaType := []

/-- No class of this library knows the method that it is declared in. -/
def enclosingMethod? (_ : ClassType) : Option Executable := none

end ClassType

inductive MemberRole where
  | field
  | method
  | constructor
  /-- The first parameter of the constructor. -/
  | parameter
  /-- The constructor, as its first parameter names it. -/
  | parameterOwner
deriving DecidableEq

namespace MemberRole

def name : MemberRole → String
  | .field => "field"
  | .method => "method"
  | .constructor => "constructor"
  | .parameter => "param"
  | .parameterOwner => "param_declaring"

end MemberRole

/-- A group of members that are compared with each other. -/
inductive MemberGroup where
  | fields
  | executables
  | parameters
deriving DecidableEq

namespace ClassType

def parameter? (cls : ClassType) : Option Parameter :=
  cls.constructors.head?.bind fun constructor => constructor.parameters.head?

def member? (cls : ClassType) : MemberRole → Option Member
  | .field => cls.fields.head?.map .field
  | .method => cls.methods.head?.map .executable
  | .constructor => cls.constructors.head?.map .executable
  | .parameter => cls.parameter?.map .parameter
  | .parameterOwner => cls.parameter?.map fun parameter => .executable parameter.declaring

def members (cls : ClassType) : MemberGroup → List Member
  | .fields => cls.fields.map .field
  | .executables => (cls.methods ++ cls.constructors).map .executable
  | .parameters => (cls.constructors.flatMap Executable.parameters).map .parameter

end ClassType

namespace JavaType

def members (t : JavaType) (group : MemberGroup) : List Member :=
  match t.asClass? with
  | some cls => cls.members group
  | none => []

end JavaType

end JvmTypes
