import JvmTypes.JavaType.Name
/-!
# Identity of types

When two types are one: primitives by kind, classes by binary name, arrays by their components.
Nothing else about a class matters, so two declarations of one name are one type. `digest` is
what a hash of a type is made of.
-/

namespace JvmTypes

/-! ## Sameness -/

mutual

def JavaType.same : JavaType → JavaType → Bool
  | .primitive a, .primitive b => a == b
  | .ofClass a, .ofClass b => a.same b
  | .array a, .array b => a.same b
  | _, _ => false

/-- Classes are told apart by their binary names. -/
def ClassType.same (a b : ClassType) : Bool :=
  a.binaryName == b.binaryName

/-- Arrays are told apart by their components, whatever platform is above them
and however they came to be. -/
def ArrayType.same : ArrayType → ArrayType → Bool
  | ⟨_, a, _⟩, ⟨_, b, _⟩ => a.same b

end

instance : BEq Declaration := ⟨fun a b => a.binaryName == b.binaryName⟩

instance : BEq JavaType := ⟨JavaType.same⟩

instance : BEq ClassType := ⟨ClassType.same⟩

instance : BEq ArrayType := ⟨ArrayType.same⟩

/-! ## Digests -/

inductive DigestStep where
  | primitive (kind : Primitive)
  | named (binaryName : String)
  | array
deriving DecidableEq

namespace DigestStep

def weight : DigestStep → UInt64
  | .primitive kind => mixHash 0 (hash kind.keyword)
  | .named binaryName => mixHash 1 (hash binaryName)
  | .array => 2

end DigestStep

mutual

def JavaType.digest : JavaType → List DigestStep
  | .primitive kind => [.primitive kind]
  | .ofClass cls => [.named cls.binaryName]
  | .array arr => arr.digest

def ArrayType.digest : ArrayType → List DigestStep
  | ⟨_, component, _⟩ => .array :: component.digest

end

theorem ArrayType.same_eq (a b : ArrayType) : a.same b = a.component.same b.component := by
  cases a
  cases b
  rfl

theorem ArrayType.digest_eq (arr : ArrayType) : arr.digest = .array :: arr.component.digest := by
  cases arr
  rfl

def hashOfDigest (steps : List DigestStep) : UInt64 :=
  steps.foldl (fun h step => mixHash h step.weight) 7

instance : Hashable Declaration := ⟨fun decl => hash decl.binaryName⟩

instance : Hashable JavaType := ⟨fun t => hashOfDigest t.digest⟩

instance : Hashable ArrayType := ⟨fun arr => hashOfDigest arr.digest⟩

end JvmTypes
