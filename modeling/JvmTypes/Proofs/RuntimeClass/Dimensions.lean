import JvmTypes.RuntimeClass.Name
import Mathlib.Data.Nat.Init
import Mathlib.Logic.Function.Iterate
/-!
# Adding dimensions to runtime classes

Dimensions can be added in one jump or one at a time. Both ways fail for the same classes and the
same numbers, and lead to the same class (`bind_addDimensions_eq_iterate`). Taking off what was
added last leads back.
-/

namespace JvmTypes

theorem toOption_eq_some_iff {ε α : Type} {result : Except ε α} {a : α} :
    result.toOption = some a ↔ result = .ok a := by
  cases result <;> simp [Except.toOption]

namespace RuntimeClass

variable {c d : RuntimeClass} {count : Nat}

theorem isArray_eq (c : RuntimeClass) : c.isArray = (c.dimensions.toNat != 0) := by
  rw [isArray, Bool.eq_iff_iff, bne_iff_ne, bne_iff_ne, ne_eq, ne_eq, ← UInt8.toNat_inj]
  rfl

theorem name_eq_typeName (h : c.isArray = false) : c.name = c.typeName := by
  have hzero : c.dimensions.toNat = 0 := by
    rw [isArray_eq, bne_eq_false_iff_eq] at h
    exact h
  rw [name, h, if_neg Bool.false_ne_true, typeName, hzero, Text.repeated_zero,
    String.append_empty]

theorem element_of_addDimensions (h : c.addDimensions count = .ok d) :
    d.element = c.element := by
  obtain ⟨_, _, _, rfl⟩ := addDimensions_eq_ok_iff.1 h
  rfl

theorem dimensions_of_addDimensions (h : c.addDimensions count = .ok d) :
    d.dimensions.toNat = c.dimensions.toNat + count := by
  obtain ⟨_, _, hlimit, rfl⟩ := addDimensions_eq_ok_iff.1 h
  exact toNat_ofNat_of_le hlimit

theorem addDimensions_add (c : RuntimeClass) {i j : Nat} (hi : 0 < i) (hj : 0 < j) :
    (c.addDimensions (i + j)).toOption =
      (c.addDimensions i).toOption.bind fun d => (d.addDimensions j).toOption := by
  apply Option.ext
  intro e
  simp only [Option.bind_eq_some_iff, toOption_eq_some_iff, addDimensions_eq_ok_iff]
  constructor
  · rintro ⟨_, hvoid, hlimit, rfl⟩
    have hbyte : (UInt8.ofNat (c.dimensions.toNat + i)).toNat = c.dimensions.toNat + i :=
      toNat_ofNat_of_le (by omega)
    refine ⟨⟨c.element, UInt8.ofNat (c.dimensions.toNat + i)⟩, ⟨hi, hvoid, by omega, rfl⟩,
      hj, hvoid, ?_, ?_⟩
    · rw [hbyte]
      omega
    · rw [hbyte, Nat.add_assoc]
  · rintro ⟨d, ⟨_, hvoid, hfirst, rfl⟩, _, _, hsecond, rfl⟩
    rw [toNat_ofNat_of_le hfirst] at hsecond ⊢
    exact ⟨by omega, hvoid, by omega, by rw [Nat.add_assoc]⟩

/-! ## One dimension at a time -/

def addDimension? (c : RuntimeClass) : Option RuntimeClass :=
  (c.arrayOf 1).toOption

theorem dimensions_le (c : RuntimeClass) : c.dimensions.toNat ≤ maxDimensions :=
  Nat.le_of_lt_succ c.dimensions.toNat_lt

theorem arrayOf_one (c : RuntimeClass) : c.arrayOf 1 = c.addDimensions 1 :=
  arrayOf_eq_addDimensions (lt_size_of_le (Nat.succ_le_succ c.dimensions_le))

theorem addDimension?_eq_some_iff : c.addDimension? = some d ↔ c.addDimensions 1 = .ok d := by
  rw [addDimension?, arrayOf_one, toOption_eq_some_iff]

theorem toOption_addDimensions_one (c : RuntimeClass) :
    (c.addDimensions 1).toOption = c.addDimension? := by
  rw [addDimension?, arrayOf_one]

/-- One jump is as good as one dimension at a time. -/
theorem bind_addDimensions_eq_iterate (o : Option RuntimeClass) (h : 0 < count) :
    (o.bind fun c => (c.addDimensions count).toOption) =
      (Option.bind · addDimension?)^[count] o := by
  induction count, h using Nat.le_induction with
  | base => simp only [toOption_addDimensions_one, Function.iterate_one]
  | succ count hpos ih =>
      -- the last step is a jump by one behind a jump that is not empty
      rw [Function.iterate_succ_apply', ← ih, Option.bind_assoc]
      congr 1
      funext c
      rw [addDimensions_add c hpos Nat.one_pos]
      simp only [toOption_addDimensions_one]

theorem exists_of_iterate_addDimension? {o : Option RuntimeClass}
    (h : (Option.bind · addDimension?)^[count] o = some d) :
    ∃ c, o = some c ∧ d.element = c.element ∧
      d.dimensions.toNat = c.dimensions.toNat + count := by
  induction count generalizing d with
  | zero => exact ⟨d, h, rfl, rfl⟩
  | succ count ih =>
      rw [Function.iterate_succ_apply'] at h
      obtain ⟨previous, hprevious, hadd⟩ := Option.bind_eq_some_iff.1 h
      obtain ⟨c, rfl, helement, hdimensions⟩ := ih hprevious
      have hlast := addDimension?_eq_some_iff.1 hadd
      refine ⟨c, rfl, (element_of_addDimensions hlast).trans helement, ?_⟩
      rw [dimensions_of_addDimensions hlast, hdimensions, Nat.add_assoc]

theorem componentType?_of_addDimension? (h : c.addDimension? = some d) :
    d.componentType? = some c := by
  obtain ⟨_, _, hlimit, rfl⟩ := addDimensions_eq_ok_iff.1 (addDimension?_eq_some_iff.1 h)
  have hbyte : UInt8.ofNat (c.dimensions.toNat + 1) = c.dimensions + 1 := by
    rw [UInt8.ofNat_add, UInt8.ofNat_toNat]
    rfl
  -- the byte does not wrap around to a class that is no array
  have harray : c.dimensions + 1 ≠ 0 := by
    intro hzero
    have hnat := toNat_ofNat_of_le hlimit
    rw [hbyte, hzero] at hnat
    exact absurd hnat.symm (Nat.succ_ne_zero _)
  rw [componentType?, isArray, hbyte, if_pos (by simpa using harray), UInt8.add_sub_cancel]

end RuntimeClass

end JvmTypes
