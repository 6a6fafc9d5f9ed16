import JvmTypes.Declaration.Clause
import JvmTypes.Proofs.JavaType.Levels
import JvmTypes.Text.Repeated
import Mathlib.Data.Option.Basic
import Mathlib.Logic.Function.Iterate
/-!
# Arrays over a type

From a type one gets down to what it is made of through arrays, each of them as itself or in the
place of a class (`ArraysOver`). Most questions are passed on along this way: an array answers
from what its component answers. So the answer of a type is that of the element under all its
arrays (`ElementOf`) with one step for each dimension (`AnsweredByComponent.eq_iterate`), and
whether an array is in the place of a class does not matter. `nested_answers` has the closed
forms.
-/

namespace JvmTypes

namespace JavaType

/-- A type is arrays over another, any number of them and possibly none. -/
inductive ArraysOver (inner : JavaType) : JavaType → Prop
  | here : ArraysOver inner inner
  | array {arr : ArrayType} (h : ArraysOver inner arr.component) : ArraysOver inner (.array arr)
  | inPlaceOfClass {arr : ArrayType} (h : ArraysOver inner arr.component) :
      ArraysOver inner (.ofClass (.ofArray arr))

/-- What lies under all arrays of a type, and is none itself. -/
structure ElementOf (element t : JavaType) : Prop where
  arraysOver : ArraysOver element t
  noArray : element.has .array = false

@[elab_as_elim]
theorem nestInduction {motive : JavaType → Prop}
    (primitive : ∀ kind, motive (.primitive kind))
    (declared : ∀ decl, motive (.ofClass (.declared decl)))
    (external : ∀ ext, motive (.ofClass (.external ext)))
    (array : ∀ arr : ArrayType, motive arr.component → motive (.array arr))
    (inPlaceOfClass : ∀ arr : ArrayType, motive arr.component →
      motive (.ofClass (.ofArray arr))) :
    ∀ t, motive t
  | .primitive kind => primitive kind
  | .ofClass (.declared decl) => declared decl
  | .ofClass (.external ext) => external ext
  | .ofClass (.ofArray ⟨platform, component, origin⟩) =>
    inPlaceOfClass ⟨platform, component, origin⟩
      (nestInduction primitive declared external array inPlaceOfClass component)
  | .array ⟨platform, component, origin⟩ =>
    array ⟨platform, component, origin⟩
      (nestInduction primitive declared external array inPlaceOfClass component)

/-! ## Classes described from outside -/

/-- The classes described from outside have a property, as far down as arrays lead. -/
def ExternalsUnder (t : JavaType) (P : ExternalClass → Prop) : Prop :=
  ∀ ext, ArraysOver (.ofClass (.external ext)) t → P ext

/-- No class described from outside claims to be an array. -/
def ExternalsClaimNoArray (t : JavaType) : Prop :=
  t.ExternalsUnder fun ext => ext.facts.has .array = false

def RestsOnNoExternal (t : JavaType) : Prop :=
  t.ExternalsUnder fun _ => False

section ExternalsUnder

variable {P : ExternalClass → Prop}

theorem externalsUnder_primitive (kind : Primitive) :
    (JavaType.primitive kind).ExternalsUnder P := by
  intro ext hext
  cases hext

theorem externalsUnder_declared (decl : Declaration) :
    (JavaType.ofClass (.declared decl)).ExternalsUnder P := by
  intro ext hext
  cases hext

theorem externalsUnder_external {ext : ExternalClass} :
    (JavaType.ofClass (.external ext)).ExternalsUnder P ↔ P ext := by
  constructor
  · intro h
    exact h ext .here
  · intro h other hother
    cases hother with
    | here => exact h

theorem externalsUnder_array {arr : ArrayType} :
    (JavaType.array arr).ExternalsUnder P ↔ arr.component.ExternalsUnder P := by
  constructor
  · intro h ext hext
    exact h ext (.array hext)
  · intro h ext hext
    cases hext with
    | array hext => exact h ext hext

theorem externalsUnder_inPlaceOfClass {arr : ArrayType} :
    (JavaType.ofClass (.ofArray arr)).ExternalsUnder P ↔ arr.component.ExternalsUnder P := by
  constructor
  · intro h ext hext
    exact h ext (.inPlaceOfClass hext)
  · intro h ext hext
    cases hext with
    | inPlaceOfClass hext => exact h ext hext

end ExternalsUnder

theorem RestsOnNoExternal.externalsClaimNoArray {t : JavaType} (h : t.RestsOnNoExternal) :
    t.ExternalsClaimNoArray :=
  fun ext hext => (h ext hext).elim

theorem ExternalsClaimNoArray.exists_element {t : JavaType} (h : t.ExternalsClaimNoArray) :
    ∃ element, ElementOf element t := by
  induction t using nestInduction with
  | primitive kind => exact ⟨_, .here, rfl⟩
  | declared decl => exact ⟨_, .here, rfl⟩
  | external ext => exact ⟨_, .here, externalsUnder_external.1 h⟩
  | array arr ih =>
      obtain ⟨element, helement⟩ := ih (externalsUnder_array.1 h)
      exact ⟨element, .array helement.arraysOver, helement.noArray⟩
  | inPlaceOfClass arr ih =>
      obtain ⟨element, helement⟩ := ih (externalsUnder_inPlaceOfClass.1 h)
      exact ⟨element, .inPlaceOfClass helement.arraysOver, helement.noArray⟩

/-! ## Elements -/

variable {element t : JavaType}

theorem depth_eq_zero_of_has_array (h : element.has .array = false) : element.depth = 0 := by
  cases element with
  | primitive kind => rfl
  | ofClass cls => exact ClassType.ClaimsNoArray.depth_eq_zero h
  | array arr => contradiction

theorem leaf_of_has_array (h : element.has .array = false) : element.leaf.toType = element := by
  cases element with
  | primitive kind => rfl
  | ofClass cls => exact ClassType.ClaimsNoArray.leaf_eq h
  | array arr => contradiction

/-! ## Questions passed on to the component -/

/-- A question that arrays answer from the answer of their component, also in the place of a
class. -/
structure AnsweredByComponent {α : Type} (question : JavaType → α) (step : α → α) : Prop where
  array : ∀ arr : ArrayType, question (.array arr) = step (question arr.component)
  inPlaceOfClass : ∀ arr : ArrayType, question (.ofClass (.ofArray arr)) = question (.array arr)

/-- The answer of the element, with one step for each dimension. -/
theorem AnsweredByComponent.eq_iterate {α : Type} {question : JavaType → α} {step : α → α}
    (hquestion : AnsweredByComponent question step) (h : ElementOf element t) :
    question t = step^[t.depth] (question element) := by
  obtain ⟨hover, hnone⟩ := h
  induction hover with
  | here => rw [depth_eq_zero_of_has_array hnone, Function.iterate_zero_apply]
  | @array arr _ ih =>
      rw [hquestion.array, depth, arr.depth_eq, Function.iterate_succ_apply', ih]
  | @inPlaceOfClass arr _ ih =>
      rw [hquestion.inPlaceOfClass, hquestion.array, depth, ClassType.depth, arr.depth_eq,
        Function.iterate_succ_apply', ih]

theorem answered_leaf : AnsweredByComponent leaf id where
  array arr := arr.leaf_eq
  inPlaceOfClass _ := rfl

theorem answered_simpleName : AnsweredByComponent simpleName (· ++ arraySuffix) where
  array arr := arr.simpleName_eq
  inPlaceOfClass _ := rfl

theorem answered_binaryName : AnsweredByComponent binaryName (· ++ arraySuffix) where
  array arr := arr.binaryName_eq
  inPlaceOfClass _ := rfl

theorem answered_canonicalName? :
    AnsweredByComponent canonicalName? (Option.map (· ++ arraySuffix)) where
  array arr := arr.canonicalName?_eq
  inPlaceOfClass _ := rfl

theorem answered_packageName : AnsweredByComponent packageName id where
  array arr := arr.packageName_eq
  inPlaceOfClass _ := rfl

theorem answered_display : AnsweredByComponent display fun text => "array(" ++ text ++ ")" where
  array arr := arr.display_eq
  inPlaceOfClass _ := rfl

/-! ## Steps to the component -/

def component? (t : JavaType) : Option JavaType :=
  t.asClass?.bind ClassType.component?

/-- The type that `count` steps to the component lead to. -/
def componentAt? (t : JavaType) (count : Nat) : Option JavaType :=
  (Option.bind · component?)^[count] (some t)

theorem componentAt?_succ (t : JavaType) (count : Nat) :
    t.componentAt? (count + 1) = t.component?.bind (componentAt? · count) := by
  rw [componentAt?, Function.iterate_succ_apply, Option.bind_some]
  cases t.component? with
  | none => exact Function.iterate_fixed rfl count
  | some component => rfl

theorem chain_cases (t : JavaType) :
    (t.depth = 0 ∧ t.leaf.toType = t ∧ (t.has .array = true → t.component? = none)) ∨
    ∃ inner, t.component? = some inner ∧ t.has .array = true ∧ t.depth = inner.depth + 1 ∧
      t.leaf = inner.leaf := by
  cases t with
  | primitive kind => exact .inl ⟨rfl, rfl, fun _ => rfl⟩
  | array arr => exact .inr ⟨arr.component, rfl, rfl, arr.depth_eq, arr.leaf_eq⟩
  | ofClass cls =>
      cases cls with
      | declared decl => exact .inl ⟨rfl, rfl, fun _ => rfl⟩
      | ofArray arr => exact .inr ⟨arr.component, rfl, rfl, arr.depth_eq, arr.leaf_eq⟩
      | external ext =>
          obtain ⟨facts, component, superclass⟩ := ext
          cases component with
          | none => exact .inl ⟨rfl, rfl, fun _ => rfl⟩
          | some inner =>
              cases hfacts : facts.has .array with
              | true =>
                  refine .inr ⟨inner, rfl, hfacts, ?_, ?_⟩
                  · rw [depth, ClassType.depth, if_pos hfacts]
                  · rw [leaf, ClassType.leaf, if_pos hfacts]
              | false =>
                  have hnone :
                      ClassType.ClaimsNoArray (.external ⟨facts, some inner, superclass⟩) :=
                    hfacts
                  refine .inl ⟨hnone.depth_eq_zero, hnone.leaf_eq, ?_⟩
                  intro harray
                  rw [has, ClassType.has, hfacts] at harray
                  contradiction

/-- **The way down.** From any type, as many steps to the component as it has dimensions lead to
its leaf. Each of them starts from an array, and the leaf names no component if it is one. -/
theorem way_to_leaf (t : JavaType) :
    t.componentAt? t.depth = some t.leaf.toType ∧
    (∀ k < t.depth, ∃ u, t.componentAt? k = some u ∧ u.has .array = true) ∧
    (t.leaf.toType.has .array = true → t.leaf.toType.component? = none) := by
  induction hdepth : t.depth generalizing t with
  | zero =>
      obtain ⟨_, hleaf, hstops⟩ | ⟨inner, _, _, hsucc, _⟩ := t.chain_cases
      · rw [hleaf]
        exact ⟨rfl, fun k hk => absurd hk (Nat.not_lt_zero k), hstops⟩
      · omega
  | succ count ih =>
      obtain ⟨hzero, _⟩ | ⟨inner, hcomponent, harray, hsucc, hleaf⟩ := t.chain_cases
      · omega
      · obtain ⟨hend, hsteps, hstops⟩ := ih inner (by omega)
        rw [componentAt?_succ, hcomponent, hleaf]
        refine ⟨hend, ?_, hstops⟩
        intro k hk
        cases k with
        | zero => exact ⟨t, rfl, harray⟩
        | succ k =>
            rw [componentAt?_succ, hcomponent]
            exact hsteps k (by omega)

end JavaType

/-! ## Steps written out -/

theorem Text.iterate_append (text name : String) (count : Nat) :
    (· ++ text)^[count] name = name ++ repeated text count := by
  induction count with
  | zero => rw [Function.iterate_zero_apply, repeated_zero, String.append_empty]
  | succ count ih =>
      rw [Function.iterate_succ_apply', ih, repeated_succ_append, String.append_assoc]

theorem Text.iterate_surround (front back text : String) (count : Nat) :
    (fun inner => front ++ inner ++ back)^[count] text =
      repeated front count ++ text ++ repeated back count := by
  induction count with
  | zero => simp
  | succ count ih =>
      rw [Function.iterate_succ_apply', ih, repeated_succ, repeated_succ_append]
      simp only [String.append_assoc]

theorem iterate_optionMap {α : Type} (step : α → α) (count : Nat) (o : Option α) :
    (Option.map step)^[count] o = o.map step^[count] := by
  cases o with
  | none => exact Function.iterate_fixed rfl count
  | some x =>
      have hsome : Function.Semiconj some step (Option.map step) := fun _ => rfl
      exact ((hsome.iterate_right count).eq x).symm

namespace JavaType

variable {element t : JavaType}

/-! ## Closed forms -/

namespace ElementOf

theorem leaf_eq (h : ElementOf element t) :
    t.leaf.toType = element := by
  have hleaf : t.leaf = element.leaf := by
    rw [answered_leaf.eq_iterate h, Function.iterate_id, id]
  rw [hleaf, leaf_of_has_array h.noArray]

theorem simpleName_eq (h : ElementOf element t) :
    t.simpleName = element.simpleName ++ Text.repeated arraySuffix t.depth := by
  rw [answered_simpleName.eq_iterate h, Text.iterate_append]

theorem binaryName_eq (h : ElementOf element t) :
    t.binaryName = element.binaryName ++ Text.repeated arraySuffix t.depth := by
  rw [answered_binaryName.eq_iterate h, Text.iterate_append]

theorem canonicalName?_eq (h : ElementOf element t) :
    t.canonicalName? =
      element.canonicalName?.map (· ++ Text.repeated arraySuffix t.depth) := by
  rw [answered_canonicalName?.eq_iterate h, iterate_optionMap]
  congr 1
  funext name
  exact Text.iterate_append arraySuffix name t.depth

theorem packageName_eq (h : ElementOf element t) :
    t.packageName = element.packageName := by
  rw [answered_packageName.eq_iterate h, Function.iterate_id, id]

theorem display_eq (h : ElementOf element t) :
    t.display =
      Text.repeated "array(" t.depth ++ element.display ++ Text.repeated ")" t.depth := by
  rw [answered_display.eq_iterate h, Text.iterate_surround]

end ElementOf

/-- **Closed forms.** Take an array and the element under all its arrays, of which any number may
be in the place of a class. As many steps to the component as the array has dimensions lead to
its element type, which is that element. Simple, binary and canonical name are those of the
element with a pair of brackets for each dimension, where the canonical name is absent exactly if
the element is a class without one. The package is that of the element, and the display text puts
one `array(` and one `)` around the text of the element for each dimension. -/
theorem nested_answers {arr : ArrayType} {element : JavaType}
    (h : ElementOf element (.array arr)) :
    let brackets := Text.repeated "[]" arr.dimensions
    (JavaType.array arr).componentAt? arr.dimensions = some arr.elementType ∧
    arr.elementType = element ∧
    arr.simpleName = element.simpleName ++ brackets ∧
    arr.binaryName = element.binaryName ++ brackets ∧
    (arr.canonicalName? = none ↔ ∃ cls, element = .ofClass cls ∧ cls.canonicalName? = none) ∧
    (∀ name, element.canonicalName? = some name → arr.canonicalName? = some (name ++ brackets)) ∧
    arr.packageName = element.packageName ∧
    arr.display = Text.repeated "array(" arr.dimensions ++ element.display ++
      Text.repeated ")" arr.dimensions := by
  intro brackets
  have helement : arr.elementType = element := h.leaf_eq
  have hcanonical : arr.canonicalName? = element.canonicalName?.map (· ++ brackets) :=
    h.canonicalName?_eq
  refine ⟨(JavaType.array arr).way_to_leaf.1, helement, h.simpleName_eq, h.binaryName_eq, ?_, ?_,
    h.packageName_eq, h.display_eq⟩
  · rw [hcanonical, Option.map_eq_none_iff]
    cases element with
    | primitive kind => simp [canonicalName?]
    | ofClass cls => simp [canonicalName?]
    | array inner => exact absurd h.noArray Bool.noConfusion
  · intro name hname
    rw [hcanonical, hname, Option.map_some]

/-- Three arrays over a member class, with the second of them in the place of a class. -/
theorem nested_answers_through_class :
    let outer : JavaType := .ofClass (.declared (.ofClauses (.source 0) "p.A" []))
    let element : JavaType :=
      .ofClass (.declared (.ofClauses (.source 1) "p.A$B" [.memberOf outer]))
    let second : ArrayType := ⟨.fresh 1, .array ⟨.fresh 2, element, .loose⟩, .loose⟩
    let arr : ArrayType := ⟨.shared, .ofClass (.ofArray second), .loose⟩
    ElementOf element (.array arr) ∧ arr.dimensions = 3 ∧
      (JavaType.array arr).componentAt? 3 = some element ∧
      arr.simpleName = "B[][][]" ∧ arr.binaryName = "p.A$B[][][]" ∧
      arr.canonicalName? = some "p.A.B[][][]" ∧ arr.packageName = "p" ∧
      arr.display = "array(array(array(p.A$B)))" := by
  intro outer element second arr
  have helementOf : ElementOf element (.array arr) :=
    ⟨.array (.inPlaceOfClass (.array .here)), rfl⟩
  obtain ⟨hsteps, helement, hsimple, hbinary, _, hcanonical, hpackage, hdisplay⟩ :=
    nested_answers helementOf
  rw [helement] at hsteps
  have hname : element.canonicalName? = some "p.A.B" := by decide
  exact ⟨helementOf, rfl, hsteps, hsimple.trans (by decide), hbinary.trans (by decide),
    hcanonical _ hname, hpackage.trans (by decide), hdisplay.trans (by decide)⟩

end JavaType

end JvmTypes
