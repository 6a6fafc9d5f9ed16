import JvmTypes.JavaType.Basic
/-!
# Traits and modifiers

What each type answers to the questions with yes or no, and the modifiers that it reports. An
array has the modifiers of its component, is never static, and is always final and abstract.
-/

namespace JvmTypes

namespace Trait

def label : Trait → String
  | .primitive => "primitive"
  | .array => "array"
  | .interface => "interface"
  | .enumType => "enum"
  | .annotationType => "annotation"
  | .localClass => "local"
  | .anonymousClass => "anonymous"
  | .unresolved => "unresolved"

def ofLabel? (label : String) : Option Trait :=
  all.find? (·.label == label)

end Trait

namespace ClassKind

def all : List ClassKind :=
  [.plain, .interface, .enumType, .annotationType]

def label : ClassKind → String
  | .plain => "class"
  | .interface => "interface"
  | .enumType => "enum"
  | .annotationType => "annotation"

def ofLabel? (label : String) : Option ClassKind :=
  all.find? (·.label == label)

/-- An annotation type is an interface too. -/
def isInterface : ClassKind → Bool
  | .interface => true
  | .annotationType => true
  | _ => false

end ClassKind

namespace Nesting

def label : Nesting → String
  | .topLevel => "toplevel"
  | .memberOf _ => "member"
  | .localIn _ => "local"
  | .anonymousIn _ => "anonymous"

def isLocal : Nesting → Bool
  | .localIn _ => true
  | _ => false

def isAnonymous : Nesting → Bool
  | .anonymousIn _ => true
  | _ => false

def outer? : Nesting → Option JavaType
  | .topLevel => none
  | .memberOf outer => some outer
  | .localIn outer => some outer
  | .anonymousIn outer => some outer

end Nesting

/-! ## Traits -/

namespace Declaration

def has (decl : Declaration) : Trait → Bool
  | .primitive => false
  | .array => false
  | .interface => decl.kind.isInterface
  | .enumType => decl.kind == .enumType
  | .annotationType => decl.kind == .annotationType
  | .localClass => decl.nesting.isLocal
  | .anonymousClass => decl.nesting.isAnonymous
  | .unresolved => decl.unresolved

end Declaration

namespace ExternalFacts

def has (facts : ExternalFacts) (t : Trait) : Bool :=
  facts.traits.contains t

end ExternalFacts

namespace ClassType

def has : ClassType → Trait → Bool
  | .declared decl => decl.has
  | .external ext => ext.facts.has
  | .ofArray _ => (· == .array)

end ClassType

namespace JavaType

def has : JavaType → Trait → Bool
  | .primitive _ => (· == .primitive)
  | .ofClass cls => cls.has
  | .array _ => (· == .array)

def traits (t : JavaType) : List Trait :=
  Trait.all.filter t.has

def isAnonymous (t : JavaType) : Bool :=
  t.has .anonymousClass

end JavaType

/-! ## Modifiers -/

namespace Primitive

def modifiers : Modifiers := .ofFlags [.publicAccess, .final, .abstract]

end Primitive

namespace Declaration

/-- The modifiers given, with those that the kind implies. -/
def modifiers (decl : Declaration) : Modifiers :=
  decl.givenModifiers ∪ decl.kind.impliedModifiers

end Declaration

namespace Modifiers

def ofArrayOver (component : Modifiers) : Modifiers :=
  (component \ ofFlag .static) ∪ ofFlags [.final, .abstract]

end Modifiers

mutual

def JavaType.modifiers : JavaType → Modifiers
  | .primitive _ => Primitive.modifiers
  | .ofClass cls => cls.modifiers
  | .array arr => arr.modifiers

def ClassType.modifiers : ClassType → Modifiers
  | .declared decl => decl.modifiers
  | .external ext => ext.facts.modifiers
  | .ofArray arr => arr.modifiers

def ArrayType.modifiers : ArrayType → Modifiers
  | ⟨_, component, _⟩ => component.modifiers.ofArrayOver

end

theorem ArrayType.modifiers_eq (arr : ArrayType) :
    arr.modifiers = arr.component.modifiers.ofArrayOver := by
  cases arr
  rfl

end JvmTypes
