import JvmTypes.Proofs.JavaType.Built
import JvmTypes.Proofs.JavaType.Levels
/-!
# The dimension limit

An array type is refused over a component that is an array of as many dimensions as the limit
allows. An array in the place of a class is not seen as one by this check, though its dimensions
count afterwards. So the limit holds of everything that can be built exactly if no array of that
many dimensions takes the place of a class (`dimension_limit_iff`).
-/

namespace JvmTypes

open ArrayPool

variable {hidden : ArrayType → Prop}

namespace Built

/-- If the arrays in the place of classes stay below the limit, all others stay within it. -/
theorem dimensions_le {arr : ArrayType} (h : Built hidden (.array arr))
    (hlimit : ∀ inner, Built hidden (.array inner) → hidden inner →
      inner.dimensions < maxDimensions) :
    arr.dimensions ≤ maxDimensions := by
  obtain ⟨hmade, hcomponent⟩ := h.parts
  obtain ⟨_, hguard, _⟩ := ArrayType.ofComponent_eq_ok_iff.1 hmade
  rw [ArrayType.dimensions_eq]
  cases hc : arr.component with
  | primitive kind => simp [JavaType.depth, maxDimensions]
  | array inner =>
      rw [hc] at hguard
      exact hguard
  | ofClass cls =>
      rw [hc] at hcomponent
      cases cls with
      | declared decl => simp [JavaType.depth, ClassType.depth, maxDimensions]
      | external ext => exact hcomponent.parts.elim
      | ofArray inner =>
          obtain ⟨hinner, hhidden⟩ := hcomponent.parts
          exact hlimit inner hinner hhidden

theorem over_hidden {inner : ArrayType} (h : Built hidden (.array inner))
    (hhidden : hidden inner) :
    Built hidden (.array ⟨inner.platform, .ofClass (.ofArray inner), .loose⟩) := by
  have hclass : Built hidden (.ofClass (.ofArray inner)) := .inPlaceOfClass h hhidden
  exact .made inner.platform [] .loose (by simp) hclass rfl

end Built

/-- **The dimension limit.** Every array that can be built has between one dimension and the
limit exactly if no array with as many dimensions as the limit takes the place of a class. -/
theorem dimension_limit_iff (hidden : ArrayType → Prop) :
    (∀ t arr, Built hidden t → t.asClass? = some (.ofArray arr) →
      1 ≤ arr.dimensions ∧ arr.dimensions ≤ maxDimensions) ↔
    ∀ arr, Built hidden (.array arr) → hidden arr → arr.dimensions < maxDimensions := by
  constructor
  · intro h arr hbuilt hhidden
    have hover := h _ _ (hbuilt.over_hidden hhidden) rfl
    rw [ArrayType.dimensions_eq] at hover
    exact hover.2
  · intro hlimit t arr hbuilt harr
    refine ⟨arr.dimensions_pos, ?_⟩
    have harray : Built hidden (.array arr) := by
      cases t with
      | primitive kind => simp [JavaType.asClass?] at harr
      | array other =>
          simp only [JavaType.asClass?, Option.some.injEq, ClassType.ofArray.injEq] at harr
          exact harr ▸ hbuilt
      | ofClass cls =>
          obtain rfl : cls = .ofArray arr := by simpa [JavaType.asClass?] using harr
          exact hbuilt.parts.1
    exact harray.dimensions_le hlimit

/-! ## Beyond the limit -/

theorem built_withDims (platform : Platform) (kind : Primitive) {count : Nat}
    (h : count ≤ maxDimensions) :
    Built hidden ((JavaType.primitive kind).withDims platform count) := by
  induction count with
  | zero => exact .primitive kind
  | succ count ih =>
      have hcomponent := ih (by omega)
      have hanonymous :
          ((JavaType.primitive kind).withDims platform count).isAnonymous = false := by
        cases count <;> rfl
      have hguard : ((JavaType.primitive kind).withDims platform count).dimensions + 1 ≤
          maxDimensions := by
        have hzero : (JavaType.primitive kind).dimensions = 0 := rfl
        rw [(JavaType.hidesNoArray_primitive kind).dimensions_withDims, hzero, Nat.zero_add]
        exact h
      have hmade :
          ArrayType.ofComponent platform ((JavaType.primitive kind).withDims platform count)
              .loose =
            .ok ⟨platform, (JavaType.primitive kind).withDims platform count, .loose⟩ :=
        ArrayType.ofComponent_eq_ok_iff.2 ⟨hanonymous, hguard, rfl⟩
      exact .made platform [] .loose (by simp) hcomponent
        (result_makeLoose_eq_ok_iff.2 ⟨_, rfl, hmade⟩)

/-- With an array of 255 dimensions in the place of a class, an array of 256 dimensions is
made. -/
theorem array_beyond_limit :
    let full : ArrayType := ⟨.shared, (JavaType.primitive .int).withDims .shared 254, .loose⟩
    let beyond : ArrayType := ⟨.shared, .ofClass (.ofArray full), .loose⟩
    Built (fun _ => True) (.array full) ∧ full.dimensions = 255 ∧
      ((empty .shared).makeLoose (.ofClass (.ofArray full))).result = .ok (.array beyond) ∧
      beyond.dimensions = 256 := by
  intro full beyond
  have hfull : full.dimensions = 255 := by
    rw [ArrayType.dimensions_eq, JavaType.depth_withDims]
    rfl
  refine ⟨built_withDims .shared .int (by decide : 255 ≤ maxDimensions), hfull, rfl, ?_⟩
  rw [ArrayType.dimensions_eq]
  exact congrArg Nat.succ hfull

end JvmTypes
