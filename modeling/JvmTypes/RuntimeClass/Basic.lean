import JvmTypes.Dimensions
import JvmTypes.Log.Event
import JvmTypes.Primitive
/-!
# Runtime classes

A runtime class is the value that the platform's class object has for a type: an element that is
no array, and a number of dimensions in one byte. `arrayOf` adds dimensions and `componentType?`
takes one off; both say why a class does not exist.
-/

namespace JvmTypes

namespace RuntimeClass

/-- The part of a runtime class that is no array. -/
inductive Element where
  | primitive (kind : Primitive)
  /-- A class or interface, by its binary name. -/
  | named (binaryName : String)
deriving DecidableEq

namespace Element

def isVoid : Element → Bool
  | .primitive kind => kind.isVoid
  | .named _ => false

def isPrimitive : Element → Bool
  | .primitive _ => true
  | .named _ => false

end Element

end RuntimeClass

structure RuntimeClass where
  element : RuntimeClass.Element
  dimensions : UInt8
deriving DecidableEq

inductive NoArrayClass where
  /-- No dimension was asked for. -/
  | noDimension
  /-- `void` cannot be the element of an array. -/
  | voidElement
  /-- More dimensions in total than the limit. -/
  | tooManyDimensions (total : Nat)
deriving DecidableEq

namespace NoArrayClass

/-- A request for no dimension at all is refused in silence. -/
def events : NoArrayClass → List Log.Event
  | .noDimension => []
  | .voidElement => [.voidArray]
  | .tooManyDimensions total => [.runtimeDimensions total]

end NoArrayClass

namespace RuntimeClass

def primitive (kind : Primitive) : RuntimeClass := ⟨.primitive kind, 0⟩

def named (binaryName : String) : RuntimeClass := ⟨.named binaryName, 0⟩

def isArray (c : RuntimeClass) : Bool := c.dimensions != 0

def isPrimitive (c : RuntimeClass) : Bool := !c.isArray && c.element.isPrimitive

/-- `count` dimensions are to be added, and there are `total` then. -/
def arrayOfTotal (c : RuntimeClass) (count total : Nat) : Except NoArrayClass RuntimeClass :=
  if count = 0 then .error .noDimension
  else if c.element.isVoid then .error .voidElement
  else if maxDimensions < total then .error (.tooManyDimensions total)
  else .ok ⟨c.element, UInt8.ofNat total⟩

/-- `count` dimensions more, counted in a machine word, which may wrap around. -/
def arrayOf (c : RuntimeClass) (count : UInt64) : Except NoArrayClass RuntimeClass :=
  c.arrayOfTotal count.toNat (dimensionSum c.dimensions.toNat count)

/-- `arrayOf` for the dimensions of a chain of arrays. The arrays are there one by one, never as
many as a word can count, so this sum is exact. -/
def addDimensions (c : RuntimeClass) (count : Nat) : Except NoArrayClass RuntimeClass :=
  c.arrayOfTotal count (c.dimensions.toNat + count)

theorem arrayOf_eq_addDimensions {c : RuntimeClass} {count : UInt64}
    (h : c.dimensions.toNat + count.toNat < UInt64.size) :
    c.arrayOf count = c.addDimensions count.toNat := by
  rw [arrayOf, dimensionSum_of_lt h, addDimensions]

theorem arrayOfTotal_eq_ok_iff {c d : RuntimeClass} {count total : Nat} :
    c.arrayOfTotal count total = .ok d ↔
      0 < count ∧ c.element.isVoid = false ∧ total ≤ maxDimensions ∧
        d = ⟨c.element, UInt8.ofNat total⟩ := by
  unfold arrayOfTotal
  by_cases h₀ : count = 0
  · simp [h₀]
  · have hpos : 0 < count := Nat.pos_of_ne_zero h₀
    cases hv : c.element.isVoid
    · by_cases hm : maxDimensions < total
      · simp [h₀, hm, Nat.not_le.2 hm]
      · simp [h₀, hm, hpos, Nat.not_lt.1 hm, eq_comm]
    · simp [h₀]

theorem addDimensions_eq_ok_iff {c d : RuntimeClass} {count : Nat} :
    c.addDimensions count = .ok d ↔
      0 < count ∧ c.element.isVoid = false ∧ c.dimensions.toNat + count ≤ maxDimensions ∧
        d = ⟨c.element, UInt8.ofNat (c.dimensions.toNat + count)⟩ :=
  arrayOfTotal_eq_ok_iff

theorem toNat_ofNat_of_le {total : Nat} (h : total ≤ maxDimensions) :
    (UInt8.ofNat total).toNat = total := by
  rw [UInt8.toNat_ofNat']
  exact Nat.mod_eq_of_lt (Nat.lt_succ_of_le h)

def componentType? (c : RuntimeClass) : Option RuntimeClass :=
  if c.isArray then some ⟨c.element, c.dimensions - 1⟩ else none

end RuntimeClass

end JvmTypes
