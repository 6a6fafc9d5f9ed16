import JvmTypes.Proofs.JavaType.ArraysOver
import JvmTypes.Proofs.Modifiers.Bits
/-!
# The modifiers of arrays

An array takes the modifiers of its component, drops `static` and adds `final` and `abstract`.
Done once, doing it again changes nothing, so an array has the same modifiers however many
dimensions lie between it and its element. All other bits are those of the element
(`array_modifiers`).
-/

namespace JvmTypes

/-! ## One array -/

namespace Modifiers

theorem bits_ofArrayOver (m : Modifiers) :
    m.ofArrayOver.bits = (m.bits &&& ~~~0x0008) ||| 0x0010 ||| 0x0400 := by
  rw [UInt32.or_assoc]
  rfl

theorem bit_ofArrayOver (m : Modifiers) (i : Nat) :
    m.ofArrayOver.bit i = if i = 3 then false else if i = 4 ∨ i = 10 then true else m.bit i := by
  have hword : m.ofArrayOver =
      (m \ ofFlag .static) ∪ ((empty ∪ ofFlag .final) ∪ ofFlag .abstract) := rfl
  rw [hword]
  by_cases hstatic : i = 3
  · subst hstatic
    simp [Flag.position]
  · by_cases hset : i = 4 ∨ i = 10
    · rw [if_neg hstatic, if_pos hset]
      rcases hset with rfl | rfl <;> simp [Flag.position]
    · rw [if_neg hstatic, if_neg hset]
      rw [not_or] at hset
      simp [Flag.position, Ne.symm hstatic, Ne.symm hset.1, Ne.symm hset.2]

@[simp] theorem ofArrayOver_ofArrayOver (m : Modifiers) :
    m.ofArrayOver.ofArrayOver = m.ofArrayOver := by
  apply ext_bit
  intro i
  rw [bit_ofArrayOver m.ofArrayOver]
  by_cases hstatic : i = 3
  · rw [if_pos hstatic, bit_ofArrayOver, if_pos hstatic]
  · by_cases hset : i = 4 ∨ i = 10
    · rw [if_neg hstatic, if_pos hset, bit_ofArrayOver, if_neg hstatic, if_pos hset]
    · rw [if_neg hstatic, if_neg hset]

end Modifiers

theorem ArrayType.ofArrayOver_modifiers (arr : ArrayType) :
    arr.modifiers.ofArrayOver = arr.modifiers := by
  rw [arr.modifiers_eq, Modifiers.ofArrayOver_ofArrayOver]

/-! ## Arrays over arrays -/

namespace JavaType

variable {element : JavaType} {arr : ArrayType}

theorem ArraysOver.ofArrayOver_modifiers {t : JavaType} (h : ArraysOver element t) :
    t.modifiers.ofArrayOver = element.modifiers.ofArrayOver := by
  induction h with
  | here => rfl
  | @array arr _ ih =>
      rw [modifiers, arr.modifiers_eq, Modifiers.ofArrayOver_ofArrayOver, ih]
  | @inPlaceOfClass arr _ ih =>
      rw [modifiers, ClassType.modifiers, arr.modifiers_eq, Modifiers.ofArrayOver_ofArrayOver,
        ih]

theorem ArraysOver.modifiers_array (h : ArraysOver element (.array arr)) :
    arr.modifiers = element.modifiers.ofArrayOver :=
  calc arr.modifiers = arr.modifiers.ofArrayOver := arr.ofArrayOver_modifiers.symm
    _ = element.modifiers.ofArrayOver := h.ofArrayOver_modifiers

theorem ArraysOver.modifiers_over_array {t : JavaType} (h : ArraysOver (.array arr) t) :
    t.modifiers = arr.modifiers := by
  have hword : t.modifiers.ofArrayOver = arr.modifiers.ofArrayOver := h.ofArrayOver_modifiers
  rw [arr.ofArrayOver_modifiers] at hword
  cases h with
  | here => rfl
  | @array outer _ => exact outer.ofArrayOver_modifiers.symm.trans hword
  | @inPlaceOfClass outer _ => exact outer.ofArrayOver_modifiers.symm.trans hword

end JavaType

/-! ## The element -/

theorem ClassKind.bits_impliedModifiers (kind : ClassKind) :
    kind.impliedModifiers.bits = match kind with
      | .plain => 0
      | .interface => 0x0200 ||| 0x0400
      | .enumType => 0x4000
      | .annotationType => 0x2000 ||| 0x0200 ||| 0x0400 := by
  cases kind <;> rfl

namespace JavaType

/-- **The modifiers of an array.** Take an array over an element, with any arrays between them,
in the place of a class or not, and let `r` be the modifier word of the element. The word of the
array is `r` without `static`, with `final` and `abstract`, and with every other bit as it is in
`r`. How many arrays there are does not count, and arrays on top of this one have the same
modifiers. For a declaration, `r` is the word given with the bits that its kind implies. -/
theorem array_modifiers {arr : ArrayType} {element : JavaType}
    (h : ArraysOver element (.array arr)) :
    let r := element.modifiers.bits
    arr.modifiers.bits = (r &&& ~~~0x0008) ||| 0x0010 ||| 0x0400 ∧
    (∀ i, arr.modifiers.bit i =
      if i = 3 then false else if i = 4 ∨ i = 10 then true else element.modifiers.bit i) ∧
    (∀ t, ArraysOver (.array arr) t → t.modifiers = arr.modifiers) ∧
    (∀ decl, element = .ofClass (.declared decl) →
      r = decl.givenModifiers.bits ||| match decl.kind with
        | .plain => 0
        | .interface => 0x0200 ||| 0x0400
        | .enumType => 0x4000
        | .annotationType => 0x2000 ||| 0x0200 ||| 0x0400) := by
  intro r
  have hword : arr.modifiers = element.modifiers.ofArrayOver := h.modifiers_array
  refine ⟨?_, ?_, fun t ht => ht.modifiers_over_array, ?_⟩
  · rw [hword, Modifiers.bits_ofArrayOver]
  · intro i
    rw [hword, Modifiers.bit_ofArrayOver]
  · rintro decl rfl
    rw [← decl.kind.bits_impliedModifiers]
    rfl

/-- Two arrays, one of them in the place of a class, over an annotation type that is given
`public`, `static` and two bits without a name; and a third array on top. -/
theorem array_modifiers_of_unnamed_bits :
    let decl : Declaration :=
      .ofClauses (.source 0) "p.A" [.modifiers ⟨0x80008009⟩, .kind .annotationType]
    let element : JavaType := .ofClass (.declared decl)
    let inner : ArrayType := ⟨.shared, element, .loose⟩
    let arr : ArrayType := ⟨.fresh 1, .ofClass (.ofArray inner), .loose⟩
    let outer : ArrayType := ⟨.shared, .array arr, .loose⟩
    ArraysOver element (.array arr) ∧ element.modifiers.bits = 0x8000a609 ∧
      arr.modifiers.bits = 0x8000a611 ∧ outer.modifiers.bits = 0x8000a611 := by
  intro decl element inner arr outer
  have hover : ArraysOver element (.array arr) := .array (.inPlaceOfClass .here)
  obtain ⟨hword, _, htop, hdecl⟩ := array_modifiers hover
  have helement : element.modifiers.bits = 0x8000a609 := (hdecl decl rfl).trans (by decide)
  have harr : arr.modifiers.bits = 0x8000a611 := by
    rw [hword, helement]
    rfl
  have houter : outer.modifiers = arr.modifiers := htop (.array outer) (.array .here)
  exact ⟨hover, helement, harr, houter ▸ harr⟩

end JavaType

end JvmTypes
