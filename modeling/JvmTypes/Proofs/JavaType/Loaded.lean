import JvmTypes.Proofs.JavaType.Answers
import JvmTypes.Proofs.JavaType.ArraysOver
import JvmTypes.Proofs.RuntimeClass.Dimensions
import JvmTypes.RuntimeClass.Name
/-!
# Types beside their runtime classes

The runtime class of an array is found in one jump from the element under all its arrays. It is
the runtime class of the component with one dimension more (`runtimeClass_over_component`), so
the element gives the element of the runtime class and each array one of its dimensions
(`exists_loadsAs`). From this the names, the dimensions and the kind that a runtime class reports
are those of its type (`runtimeClass_reports`).
-/

namespace JvmTypes

theorem Declaration.runtimeClass?_eq_some_iff {decl : Declaration} {c : RuntimeClass} :
    decl.runtimeClass? = some c ↔
      decl.loadable = true ∧ decl.unresolved = false ∧ c = .named decl.binaryName := by
  rw [runtimeClass?]
  cases decl.loadable <;> cases decl.unresolved <;> simp [eq_comm]

namespace JavaType

open RuntimeClass (addDimension?)

variable {element t : JavaType}

/-! ## One dimension for each array -/

namespace ElementOf

theorem toOption_runtimeClass_array {arr : ArrayType} (h : ElementOf element (.array arr)) :
    arr.runtimeClass.toOption =
      (Option.bind · addDimension?)^[arr.dimensions] element.runtimeClass.toOption := by
  have hleaf : arr.leaf.toType = element := h.leaf_eq
  rw [arr.toOption_runtimeClass, RuntimeClass.bind_addDimensions_eq_iterate _ arr.dimensions_pos,
    ← Leaf.toOption_runtimeClass, hleaf]

theorem toOption_runtimeClass (h : ElementOf element t) :
    t.runtimeClass.toOption =
      (Option.bind · addDimension?)^[t.depth] element.runtimeClass.toOption := by
  obtain ⟨hover, hnone⟩ := h
  cases hover with
  | here => rw [depth_eq_zero_of_has_array hnone, Function.iterate_zero_apply]
  | array hover => exact toOption_runtimeClass_array ⟨.array hover, hnone⟩
  | inPlaceOfClass hover => exact toOption_runtimeClass_array ⟨.array hover, hnone⟩

end ElementOf

/-- **One dimension more than the component.** Let no class described from outside claim to be an
array, as far down as the component of an array leads. Then the runtime class of the array is
that of the component with one dimension added, and is missing if there is none or no dimension
can be added. The component type of the runtime class of the array is the runtime class of the
component. -/
theorem runtimeClass_over_component {arr : ArrayType} (h : arr.component.ExternalsClaimNoArray) :
    arr.runtimeClass.toOption =
      arr.component.runtimeClass.toOption.bind (fun c => (c.arrayOf 1).toOption) ∧
    ∀ c, arr.runtimeClass = .ok c → c.componentType? = arr.component.runtimeClass.toOption := by
  obtain ⟨element, hcomponent⟩ := h.exists_element
  have harray : ElementOf element (.array arr) :=
    ⟨.array hcomponent.arraysOver, hcomponent.noArray⟩
  have hstep : arr.runtimeClass.toOption =
      arr.component.runtimeClass.toOption.bind addDimension? := by
    calc
      arr.runtimeClass.toOption =
          (Option.bind · addDimension?)^[arr.component.depth + 1]
            element.runtimeClass.toOption := by
        rw [harray.toOption_runtimeClass_array, arr.dimensions_eq]
      _ = ((Option.bind · addDimension?)^[arr.component.depth]
            element.runtimeClass.toOption).bind addDimension? :=
        Function.iterate_succ_apply' _ _ _
      _ = arr.component.runtimeClass.toOption.bind addDimension? := by
        rw [hcomponent.toOption_runtimeClass]
  refine ⟨hstep, ?_⟩
  intro c hc
  rw [toOption_eq_some_iff.2 hc] at hstep
  obtain ⟨inner, hinner, hadd⟩ := Option.bind_eq_some_iff.1 hstep.symm
  rw [RuntimeClass.componentType?_of_addDimension? hadd, hinner]

/-- A class from outside whose runtime class has 253 dimensions, though it is no array. An array
over it takes the place of a class, and the array over that reaches the limit, so the next one
has no runtime class. -/
theorem runtimeClass_over_component_up_to_limit :
    let facts : ExternalFacts :=
      ⟨"p.X", none, "X", "p", "p.X", .empty, [], some ⟨.named "p.X", 253⟩⟩
    let element : JavaType := .ofClass (.external ⟨facts, some (.primitive .int), none⟩)
    let first : ArrayType := ⟨.shared, element, .loose⟩
    let last : ArrayType := ⟨.fresh 1, .ofClass (.ofArray first), .loose⟩
    let beyond : ArrayType := ⟨.fresh 2, .array last, .loose⟩
    last.component.ExternalsClaimNoArray ∧ beyond.component.ExternalsClaimNoArray ∧
      last.runtimeClass = .ok ⟨.named "p.X", 255⟩ ∧
      last.component.runtimeClass = .ok ⟨.named "p.X", 254⟩ ∧
      RuntimeClass.componentType? ⟨.named "p.X", 255⟩ = some ⟨.named "p.X", 254⟩ ∧
      beyond.runtimeClass.toOption = none := by
  intro facts element first last beyond
  have hlast : last.component.ExternalsClaimNoArray :=
    externalsUnder_inPlaceOfClass.2 (externalsUnder_external.2 rfl)
  have hbeyond : beyond.component.ExternalsClaimNoArray := externalsUnder_array.2 hlast
  have hloaded : last.runtimeClass = .ok ⟨.named "p.X", 255⟩ := rfl
  have hcomponent : last.component.runtimeClass = .ok ⟨.named "p.X", 254⟩ := rfl
  have htype := (runtimeClass_over_component hlast).2 _ hloaded
  have hnext := (runtimeClass_over_component hbeyond).1
  rw [hcomponent] at htype
  exact ⟨hlast, hbeyond, hloaded, hcomponent, htype, hnext.trans rfl⟩

/-! ## Elements of runtime classes -/

/-- A type that is no array is the element of a runtime class. -/
inductive LoadsAs : JavaType → RuntimeClass.Element → Prop
  | primitive (kind : Primitive) : LoadsAs (.primitive kind) (.primitive kind)
  | declared (decl : Declaration) :
      LoadsAs (.ofClass (.declared decl)) (.named decl.binaryName)

/-- A runtime class is made of the element of its type and the number of arrays over it. -/
theorem RestsOnNoExternal.exists_loadsAs (h : t.RestsOnNoExternal) {c : RuntimeClass}
    (hc : t.runtimeClass = .ok c) :
    ∃ element, ElementOf element t ∧ LoadsAs element c.element ∧
      c.dimensions.toNat = t.depth := by
  obtain ⟨element, helementOf⟩ := h.externalsClaimNoArray.exists_element
  have hjump := helementOf.toOption_runtimeClass
  rw [toOption_eq_some_iff.2 hc] at hjump
  obtain ⟨base, hbase, helement, hdimensions⟩ :=
    RuntimeClass.exists_of_iterate_addDimension? hjump.symm
  refine ⟨element, helementOf, ?_⟩
  -- both elements that can be left start from no dimension
  cases element with
  | primitive kind =>
      obtain rfl : RuntimeClass.primitive kind = base := Option.some.inj hbase
      rw [helement, hdimensions]
      exact ⟨.primitive kind, Nat.zero_add _⟩
  | array arr => exact absurd helementOf.noArray Bool.noConfusion
  | ofClass cls =>
      cases cls with
      | declared decl =>
          have hloaded : decl.runtimeClass? = some base :=
            (Leaf.toOption_runtimeClass (.declared decl)).symm.trans hbase
          obtain ⟨_, _, rfl⟩ := Declaration.runtimeClass?_eq_some_iff.1 hloaded
          rw [helement, hdimensions]
          exact ⟨.declared decl, Nat.zero_add _⟩
      | external ext => exact (h ext helementOf.arraysOver).elim
      | ofArray arr => exact absurd helementOf.noArray Bool.noConfusion

/-! ## What runtime classes report -/

/-- The descriptor of a type that is no array: the letter of a primitive, or the binary name of a
class between `L` and `;`. -/
def elementDescriptor : JavaType → String
  | .primitive kind => kind.descriptor.toString
  | t => "L" ++ t.binaryName ++ ";"

namespace LoadsAs

variable {loaded : RuntimeClass.Element}

theorem name_eq (h : LoadsAs element loaded) : loaded.name = element.binaryName := by
  cases h <;> rfl

theorem descriptor_eq (h : LoadsAs element loaded) :
    loaded.descriptor = element.elementDescriptor := by
  cases h <;> rfl

theorem isPrimitive_eq (h : LoadsAs element loaded) :
    loaded.isPrimitive = element.has .primitive := by
  cases h <;> rfl

theorem component?_eq_none (h : LoadsAs element loaded) : element.component? = none := by
  cases h <;> rfl

end LoadsAs

namespace ElementOf

theorem has_array_eq (h : ElementOf element t) : t.has .array = (t.depth != 0) := by
  obtain ⟨hover, hnone⟩ := h
  cases hover with
  | here =>
      rw [hnone, depth_eq_zero_of_has_array hnone]
      rfl
  | @array arr _ =>
      rw [depth, arr.depth_eq]
      rfl
  | @inPlaceOfClass arr _ =>
      rw [depth, ClassType.depth, arr.depth_eq]
      rfl

theorem has_primitive_eq (h : ElementOf element t) :
    t.has .primitive = (!t.has .array && element.has .primitive) := by
  obtain ⟨hover, hnone⟩ := h
  cases hover with
  | here => rw [hnone, Bool.not_false, Bool.true_and]
  | array _ => rfl
  | inPlaceOfClass _ => rfl

end ElementOf

theorem className_getD (t : JavaType) :
    t.asClass?.elim t.simpleName ClassType.binaryName = t.binaryName := by
  cases t <;> rfl

/-- **What a runtime class reports of its type.** Let a type be made of primitives, declarations
and arrays, in the place of classes or not, and let it have a runtime class. The type name of the
runtime class is the binary name of the type, or the simple name of a primitive. It is an array
or a primitive exactly if the type is. Its dimensions are the steps from the type down to an
element that has no component. Its name is one bracket for each of them and the descriptor of
that element if it is an array, and else the name of the type. -/
theorem runtimeClass_reports {t : JavaType} (h : t.RestsOnNoExternal) {c : RuntimeClass}
    (hc : t.runtimeClass = .ok c) :
    let name := t.asClass?.elim t.simpleName ClassType.binaryName
    let count := c.dimensions.toNat
    c.typeName = name ∧ c.isArray = t.has .array ∧ c.isPrimitive = t.has .primitive ∧
      ∃ element, t.componentAt? count = some element ∧ element.component? = none ∧
        c.name = if t.has .array then Text.repeated "[" count ++ element.elementDescriptor
          else name := by
  intro name count
  obtain ⟨element, helement, hloads, hcount⟩ := h.exists_loadsAs hc
  have harray : c.isArray = t.has .array := by
    rw [c.isArray_eq, hcount, helement.has_array_eq]
  have htypeName : c.typeName = name := by
    calc
      c.typeName = c.element.name ++ Text.repeated "[]" t.depth := by
        rw [RuntimeClass.typeName, hcount]
      _ = t.binaryName := by
        rw [hloads.name_eq, helement.binaryName_eq]
        rfl
      _ = name := t.className_getD.symm
  refine ⟨htypeName, harray, ?_, element, ?_, hloads.component?_eq_none, ?_⟩
  · rw [RuntimeClass.isPrimitive, harray, hloads.isPrimitive_eq, helement.has_primitive_eq]
  · show t.componentAt? c.dimensions.toNat = some element
    rw [hcount, t.way_to_leaf.1, helement.leaf_eq]
  · by_cases hlevels : t.has .array = true
    · rw [RuntimeClass.name, harray, if_pos hlevels, if_pos hlevels, hloads.descriptor_eq]
    · have hnone : c.isArray = false := by
        rw [harray, Bool.eq_false_iff]
        exact hlevels
      rw [if_neg hlevels, RuntimeClass.name_eq_typeName hnone, htypeName]

/-- Two arrays in the places of classes, over a class that is called like a primitive array. -/
theorem runtimeClass_reports_in_place_of_class :
    let element : JavaType := .ofClass (.declared (.ofClauses (.source 0) "int[]" [.loadable]))
    let first : ArrayType := ⟨.shared, element, .loose⟩
    let second : ArrayType := ⟨.fresh 1, .ofClass (.ofArray first), .loose⟩
    let t : JavaType := .ofClass (.ofArray second)
    let c : RuntimeClass := ⟨.named "int[]", 2⟩
    t.RestsOnNoExternal ∧ t.runtimeClass = .ok c ∧ c.typeName = "int[][][]" ∧
      c.isArray = true ∧ c.isPrimitive = false ∧ t.componentAt? 2 = some element ∧
      c.name = "[[Lint[];" := by
  intro element first second t c
  have hrests : t.RestsOnNoExternal :=
    externalsUnder_inPlaceOfClass.2
      (externalsUnder_inPlaceOfClass.2 (externalsUnder_declared _))
  have hloaded : t.runtimeClass = .ok c := rfl
  obtain ⟨htypeName, harray, hprimitive, bottom, hsteps, _, hname⟩ :=
    runtimeClass_reports hrests hloaded
  have hbottom : some element = some bottom := hsteps
  obtain rfl := Option.some.inj hbottom
  exact ⟨hrests, hloaded, htypeName.trans (by decide), harray, hprimitive, hsteps,
    hname.trans (by decide)⟩

end JavaType

end JvmTypes
