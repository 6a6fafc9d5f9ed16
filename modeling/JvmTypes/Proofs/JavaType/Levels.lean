import JvmTypes.JavaType.Link
import JvmTypes.Proofs.JavaType.Sameness
/-!
# The levels over a type

Under the arrays of a type lies a primitive or a class. Where that class does not claim to be an
array itself, the digest of the type counts its dimensions (`HidesNoArray.digest_eq`), so types
that are the same have the same dimensions and the same element. `withDims` builds the levels
over a type; which platform the arrays in between belong to does not matter to sameness.
-/

namespace JvmTypes

namespace ClassType

def ClaimsNoArray (cls : ClassType) : Prop :=
  cls.has .array = false

variable {cls : ClassType}

theorem ClaimsNoArray.depth_eq_zero (h : cls.ClaimsNoArray) : cls.depth = 0 := by
  cases cls with
  | declared decl => rfl
  | external ext =>
      obtain ⟨facts, component, superclass⟩ := ext
      have hfacts : facts.has .array = false := h
      cases component with
      | none => rfl
      | some component => rw [depth, hfacts, if_neg Bool.false_ne_true]
  | ofArray arr => contradiction

theorem ClaimsNoArray.leaf_eq (h : cls.ClaimsNoArray) : cls.leaf.toType = .ofClass cls := by
  cases cls with
  | declared decl => rfl
  | external ext =>
      obtain ⟨facts, component, superclass⟩ := ext
      have hfacts : facts.has .array = false := h
      cases component with
      | none => rfl
      | some component =>
          rw [leaf, hfacts, if_neg Bool.false_ne_true]
          rfl
  | ofArray arr => contradiction

end ClassType

theorem Leaf.length_digest (leaf : Leaf) : leaf.toType.digest.length = 1 := by
  cases leaf <;> rfl

namespace JavaType

/-! ## What lies under the arrays -/

def elementClass? : JavaType → Option ClassType
  | .primitive _ => none
  | .ofClass cls => some cls
  | .array ⟨_, component, _⟩ => component.elementClass?

/-- The class under the arrays of a type, if there is one, has a property. -/
def RestsOn (t : JavaType) (P : ClassType → Prop) : Prop :=
  ∀ cls ∈ t.elementClass?, P cls

/-- No class under the arrays of a type claims to be an array. -/
def HidesNoArray (t : JavaType) : Prop :=
  t.RestsOn ClassType.ClaimsNoArray

@[simp] theorem elementClass?_array (arr : ArrayType) :
    (JavaType.array arr).elementClass? = arr.component.elementClass? := by
  cases arr
  rfl

theorem restsOn_array {arr : ArrayType} {P : ClassType → Prop} :
    (JavaType.array arr).RestsOn P ↔ arr.component.RestsOn P := by
  rw [RestsOn, elementClass?_array, RestsOn]

theorem restsOn_primitive (kind : Primitive) (P : ClassType → Prop) :
    (JavaType.primitive kind).RestsOn P := by
  intro cls hcls
  contradiction

theorem restsOn_ofClass {cls : ClassType} {P : ClassType → Prop} :
    (JavaType.ofClass cls).RestsOn P ↔ P cls := by
  constructor
  · intro h
    exact h cls rfl
  · intro h other hother
    obtain rfl : cls = other := Option.some.inj hother
    exact h

theorem hidesNoArray_primitive (kind : Primitive) : (JavaType.primitive kind).HidesNoArray :=
  restsOn_primitive kind _

theorem hidesNoArray_declared (decl : Declaration) :
    (JavaType.ofClass (.declared decl)).HidesNoArray :=
  restsOn_ofClass.2 rfl

namespace HidesNoArray

variable {a b t : JavaType}

theorem dimensions_eq_depth (h : t.HidesNoArray) : t.dimensions = t.depth := by
  cases t with
  | primitive kind => rfl
  | ofClass cls => exact (h cls rfl).depth_eq_zero.symm
  | array arr => rfl

theorem digest_eq (h : t.HidesNoArray) :
    t.digest = List.replicate t.dimensions .array ++ t.leaf.toType.digest := by
  rw [h.dimensions_eq_depth]
  induction t using chainInduction with
  | primitive kind => rfl
  | ofClass cls =>
      have hcls : cls.ClaimsNoArray := h cls rfl
      rw [depth, hcls.depth_eq_zero, leaf, hcls.leaf_eq]
      rfl
  | array arr ih =>
      rw [digest, arr.digest_eq, ih (restsOn_array.1 h), depth, arr.depth_eq, leaf, arr.leaf_eq]
      rfl

theorem length_digest (h : t.HidesNoArray) : t.digest.length = t.dimensions + 1 := by
  rw [h.digest_eq, List.length_append, List.length_replicate, Leaf.length_digest]

theorem dimensions_eq_of_beq (ha : a.HidesNoArray) (hb : b.HidesNoArray) (h : (a == b) = true) :
    a.dimensions = b.dimensions := by
  have hlength := congrArg List.length (beq_iff.1 h)
  rw [ha.length_digest, hb.length_digest] at hlength
  exact Nat.succ.inj hlength

theorem leaf_beq_of_beq (ha : a.HidesNoArray) (hb : b.HidesNoArray) (h : (a == b) = true) :
    (a.leaf.toType == b.leaf.toType) = true := by
  have hdigest := beq_iff.1 h
  rw [ha.digest_eq, hb.digest_eq, ha.dimensions_eq_of_beq hb h] at hdigest
  exact beq_iff.2 (List.append_cancel_left hdigest)

theorem dimensions_array {arr : ArrayType} (harr : (JavaType.array arr).HidesNoArray)
    (h : t.HidesNoArray) (hsame : (arr.component == t) = true) :
    (JavaType.array arr).dimensions = t.dimensions + 1 := by
  have hcomponent : arr.component.HidesNoArray := restsOn_array.1 harr
  rw [← hcomponent.dimensions_eq_of_beq h hsame, hcomponent.dimensions_eq_depth]
  exact arr.dimensions_eq

theorem element?_getD (h : t.HidesNoArray) : t.element?.getD t = t.leaf.toType := by
  cases t with
  | primitive kind => rfl
  | ofClass cls => exact (h cls rfl).leaf_eq.symm
  | array arr => rfl

end HidesNoArray

/-! ## Levels -/

/-- The type with `count` arrays more over it. -/
def withDims (platform : Platform) (t : JavaType) : Nat → JavaType
  | 0 => t
  | count + 1 => .array ⟨platform, t.withDims platform count, .loose⟩

section Levels

variable (platform : Platform) {t : JavaType}

theorem depth_withDims (t : JavaType) (count : Nat) :
    (t.withDims platform count).depth = t.depth + count := by
  induction count with
  | zero => rfl
  | succ count ih =>
      rw [withDims, depth, ArrayType.depth, ih]
      omega

theorem digest_withDims (t : JavaType) (count : Nat) :
    (t.withDims platform count).digest = List.replicate count .array ++ t.digest := by
  induction count with
  | zero => rfl
  | succ count ih =>
      rw [withDims, digest, ArrayType.digest, ih]
      rfl

@[simp] theorem elementClass?_withDims (t : JavaType) (count : Nat) :
    (t.withDims platform count).elementClass? = t.elementClass? := by
  induction count with
  | zero => rfl
  | succ count ih => rw [withDims, elementClass?, ih]

@[simp] theorem leaf_withDims (t : JavaType) (count : Nat) :
    (t.withDims platform count).leaf = t.leaf := by
  induction count with
  | zero => rfl
  | succ count ih => rw [withDims, leaf, ArrayType.leaf, ih]

theorem RestsOn.withDims {P : ClassType → Prop} (h : t.RestsOn P) (count : Nat) :
    (t.withDims platform count).RestsOn P := by
  rw [RestsOn, elementClass?_withDims]
  exact h

theorem HidesNoArray.withDims (h : t.HidesNoArray) (count : Nat) :
    (t.withDims platform count).HidesNoArray :=
  RestsOn.withDims platform h count

theorem HidesNoArray.dimensions_withDims (h : t.HidesNoArray) (count : Nat) :
    (t.withDims platform count).dimensions = t.dimensions + count := by
  have hlength := (h.withDims platform count).length_digest
  rw [digest_withDims, List.length_append, List.length_replicate, h.length_digest] at hlength
  omega

theorem withDims_array_beq {arr : ArrayType} (h : (arr.component == t) = true) (count : Nat) :
    ((JavaType.array arr).withDims platform count ==
      t.withDims platform (count + 1)) = true := by
  rw [beq_iff, digest_withDims, digest_withDims, digest, arr.digest_eq, beq_iff.1 h,
    List.replicate_succ', List.append_assoc]
  rfl

theorem beq_withDims_succ_eq_false (t : JavaType) (count : Nat) :
    (t == t.withDims platform (count + 1)) = false := by
  rw [Bool.eq_false_iff, ne_eq, beq_iff, digest_withDims]
  intro h
  have hlength := congrArg List.length h
  rw [List.length_append, List.length_replicate] at hlength
  omega

end Levels

end JavaType

end JvmTypes
