import JvmTypes.Proofs.JavaType.Answers
import JvmTypes.Proofs.RuntimeClass.Dimensions
/-!
# Arrays without a runtime class

An array has no runtime class if its element has none, or if the dimensions of the array cannot
be added to that of its element. `ArrayType.runtimeClass_cases` says all that can happen.
Whenever the runtime class is missing, one event in the log tells which of the reasons it was
(`missing_runtimeClass_logged`). Nothing is asked of the classes on the way down: those described
from outside may claim to be arrays and may have runtime classes with dimensions of their own.
-/

namespace JvmTypes

namespace RuntimeClass

theorem addDimensions_cases (c : RuntimeClass) {count : Nat} (hpos : 0 < count) :
    (c.element.isVoid = true ∧ c.addDimensions count = .error .voidElement) ∨
    (c.element.isVoid = false ∧ maxDimensions < c.dimensions.toNat + count ∧
      c.addDimensions count = .error (.tooManyDimensions (c.dimensions.toNat + count))) ∨
    (c.element.isVoid = false ∧ c.dimensions.toNat + count ≤ maxDimensions ∧
      ∃ d, c.addDimensions count = .ok d) := by
  have hsome : count ≠ 0 := Nat.ne_of_gt hpos
  cases hvoid : c.element.isVoid with
  | true =>
      refine .inl ⟨rfl, ?_⟩
      rw [addDimensions, arrayOfTotal, if_neg hsome, if_pos hvoid]
  | false =>
      have hnotVoid : ¬ c.element.isVoid = true := Bool.eq_false_iff.1 hvoid
      by_cases hlimit : maxDimensions < c.dimensions.toNat + count
      · refine .inr (.inl ⟨rfl, hlimit, ?_⟩)
        rw [addDimensions, arrayOfTotal, if_neg hsome, if_neg hnotVoid, if_pos hlimit]
      · have hfits : c.dimensions.toNat + count ≤ maxDimensions := Nat.not_lt.1 hlimit
        exact .inr (.inr ⟨rfl, hfits, _, addDimensions_eq_ok_iff.2 ⟨hpos, hvoid, hfits, rfl⟩⟩)

end RuntimeClass

namespace Leaf

theorem loadingEvents_eq_nil (leaf : Leaf) : leaf.toType.loadingEvents = [] := by
  cases leaf with
  | primitive kind => rfl
  | declared decl =>
      rw [toType, JavaType.loadingEvents, JavaType.runtimeClass, ClassType.runtimeClass]
      cases decl.runtimeClass? <;> rfl
  | external ext =>
      rw [toType, JavaType.loadingEvents, JavaType.runtimeClass, ClassType.runtimeClass]
      cases ext.facts.runtimeClass <;> rfl

end Leaf

namespace JavaType

variable {t : JavaType}

theorem loadingEvents_of_ok {c : RuntimeClass} (h : t.runtimeClass = .ok c) :
    t.loadingEvents = [] := by
  rw [loadingEvents, h]

theorem loadingEvents_of_error {cause : NotLoaded} (h : t.runtimeClass = .error cause) :
    t.loadingEvents = cause.events := by
  rw [loadingEvents, h]

end JavaType

namespace ArrayType

variable {arr : ArrayType}

def loadedElement? (arr : ArrayType) : Option RuntimeClass :=
  arr.elementType.runtimeClass.toOption

/-- The dimensions that an array over a loaded element comes to. -/
def totalOver (arr : ArrayType) (c : RuntimeClass) : Nat :=
  c.dimensions.toNat + arr.dimensions

/-- All that can come of asking an array for its runtime class. -/
theorem runtimeClass_cases (arr : ArrayType) :
    (arr.loadedElement? = none ∧
      arr.runtimeClass = .error (.missingElement arr.display arr.elementType.display)) ∨
    ∃ c, arr.loadedElement? = some c ∧
      ((c.element.isVoid = true ∧ arr.runtimeClass = .error (.refused .voidElement)) ∨
      (c.element.isVoid = false ∧ maxDimensions < arr.totalOver c ∧
        arr.runtimeClass = .error (.refused (.tooManyDimensions (arr.totalOver c)))) ∨
      (c.element.isVoid = false ∧ arr.totalOver c ≤ maxDimensions ∧
        ∃ d, c.addDimensions arr.dimensions = .ok d ∧ arr.runtimeClass = .ok d)) := by
  rw [loadedElement?, elementType, arr.leaf.toOption_runtimeClass, runtimeClass]
  cases arr.leaf.runtimeClass? with
  | none => exact .inl ⟨rfl, rfl⟩
  | some c =>
      refine .inr ⟨c, rfl, ?_⟩
      simp only
      obtain ⟨hvoid, hr⟩ | ⟨hvoid, hlimit, hr⟩ | ⟨hvoid, hlimit, d, hr⟩ :=
        c.addDimensions_cases arr.dimensions_pos
      · rw [hr]
        exact .inl ⟨hvoid, rfl⟩
      · rw [hr]
        exact .inr (.inl ⟨hvoid, hlimit, rfl⟩)
      · rw [hr]
        exact .inr (.inr ⟨hvoid, hlimit, d, rfl, rfl⟩)

theorem exists_runtimeClass_iff :
    (∃ d, arr.runtimeClass = .ok d) ↔ ∃ c, arr.loadedElement? = some c ∧
      c.element.isVoid = false ∧ arr.totalOver c ≤ maxDimensions := by
  obtain ⟨hnone, hr⟩ | ⟨c, hc, ⟨hvoid, hr⟩ | ⟨_, hlimit, hr⟩ | ⟨hvoid, hlimit, d, _, hr⟩⟩ :=
    arr.runtimeClass_cases
  · simp [hr, hnone]
  · simp [hr, hc, hvoid]
  · simp [hr, hc, Nat.not_le.2 hlimit]
  · simp [hr, hc, hvoid, hlimit]

theorem addDimensions_of_runtimeClass_eq_ok {c d : RuntimeClass}
    (hc : arr.loadedElement? = some c) (hd : arr.runtimeClass = .ok d) :
    c.addDimensions arr.dimensions = .ok d := by
  have hjump := arr.toOption_runtimeClass
  rw [← arr.leaf.toOption_runtimeClass, toOption_eq_some_iff.2 hd] at hjump
  obtain ⟨c', hc', hadded⟩ := Option.bind_eq_some_iff.1 hjump.symm
  obtain rfl : c = c' := Option.some.inj (hc.symm.trans hc')
  exact toOption_eq_some_iff.1 hadded

theorem exists_event_of_error {cause : NotLoaded} (h : arr.runtimeClass = .error cause) :
    ∃ event, cause.events = [event] ∧
      (event = .elementNotLoaded arr.display arr.elementType.display ↔
        arr.loadedElement? = none) ∧
      (event = .voidArray ↔ ∃ c, arr.loadedElement? = some c ∧ c.element.isVoid = true) ∧
      (∀ n, event = .runtimeDimensions n ↔ ∃ c, arr.loadedElement? = some c ∧
        c.element.isVoid = false ∧ arr.totalOver c = n) := by
  obtain ⟨hnone, hr⟩ | ⟨c, hc, ⟨hvoid, hr⟩ | ⟨hvoid, _, hr⟩ | ⟨_, _, d, _, hr⟩⟩ :=
    arr.runtimeClass_cases
  · obtain rfl := Except.error.inj (hr.symm.trans h)
    exact ⟨_, rfl, by simp [hnone]⟩
  · obtain rfl := Except.error.inj (hr.symm.trans h)
    exact ⟨_, rfl, by simp [hc, hvoid]⟩
  · obtain rfl := Except.error.inj (hr.symm.trans h)
    exact ⟨_, rfl, by simp [hc, hvoid]⟩
  · rw [hr] at h
    contradiction

/-- **One event for each missing runtime class.** An array has a runtime class exactly if its
element has one that is not of `void` and whose dimensions, with those of the array, keep the
limit. It then has the same element and all these dimensions, and nothing is logged. Otherwise
exactly one event is logged: that the element is not loaded, if it has no runtime class; that
there is no array of `void`, if that is its element; and else the number of dimensions in total.
Asking the element logs nothing of its own. -/
theorem missing_runtimeClass_logged (arr : ArrayType) :
    let element := arr.elementType
    let loaded := element.runtimeClass.toOption
    let total (c : RuntimeClass) := c.dimensions.toNat + arr.dimensions
    let events := (JavaType.array arr).loadingEvents
    element.loadingEvents = [] ∧
    ((∃ d, arr.runtimeClass = .ok d) ↔
      ∃ c, loaded = some c ∧ c.element.isVoid = false ∧ total c ≤ maxDimensions) ∧
    (∀ c d, loaded = some c → arr.runtimeClass = .ok d →
      d.element = c.element ∧ d.dimensions.toNat = total c) ∧
    (∀ d, arr.runtimeClass = .ok d → events = []) ∧
    ((¬ ∃ d, arr.runtimeClass = .ok d) → ∃ event, events = [event] ∧
      (event = .elementNotLoaded arr.display element.display ↔ loaded = none) ∧
      (event = .voidArray ↔ ∃ c, loaded = some c ∧ c.element.isVoid = true) ∧
      (∀ n, event = .runtimeDimensions n ↔
        ∃ c, loaded = some c ∧ c.element.isVoid = false ∧ total c = n)) := by
  intro element loaded total events
  refine ⟨arr.leaf.loadingEvents_eq_nil, exists_runtimeClass_iff, ?_, ?_, ?_⟩
  · intro c d hc hd
    have hadded := addDimensions_of_runtimeClass_eq_ok hc hd
    exact ⟨RuntimeClass.element_of_addDimensions hadded,
      RuntimeClass.dimensions_of_addDimensions hadded⟩
  · intro d hd
    exact JavaType.loadingEvents_of_ok hd
  · intro hmissing
    cases hr : arr.runtimeClass with
    | ok d => exact absurd ⟨d, hr⟩ hmissing
    | error cause =>
        have hevents : events = cause.events := JavaType.loadingEvents_of_error hr
        rw [hevents]
        exact exists_event_of_error hr

/-- Two dimensions of `void`, of which the inner one is a class from outside that claims to be an
array and has a runtime class that is not looked at. -/
example :
    let facts : ExternalFacts :=
      ⟨"p.X", none, "X", "p", "p.X", .empty, [.array], some (.named "p.X")⟩
    let component : JavaType := .ofClass (.external ⟨facts, some (.primitive .void), none⟩)
    (JavaType.array ⟨.shared, component, .loose⟩).loadingEvents = [.voidArray] := rfl

end ArrayType

end JvmTypes
