import JvmTypes.JavaType.Loading
import JvmTypes.Proofs.JavaType.Levels
/-!
# What types answer

The questions about names, modifiers, runtime class and display text, with all answers in one
record. An array hands each of them on to its component, or to the element under all its arrays,
so types that are the same answer alike as soon as the classes under them do (`answers_eq`).
-/

namespace JvmTypes

/-- The answers of a type to the questions that classes and arrays alike can be asked. -/
structure Answers where
  simpleName : String
  canonicalName : Option String
  packageName : String
  modifiers : Modifiers
  runtimeClass : Option RuntimeClass
  display : String

namespace JavaType

def answers (t : JavaType) : Answers where
  simpleName := t.simpleName
  canonicalName := t.canonicalName?
  packageName := t.packageName
  modifiers := t.modifiers
  runtimeClass := t.runtimeClass.toOption
  display := t.display

end JavaType

/-! ## Runtime classes under arrays -/

theorem Leaf.toOption_runtimeClass (leaf : Leaf) :
    leaf.toType.runtimeClass.toOption = leaf.runtimeClass? := by
  cases leaf with
  | primitive kind => rfl
  | declared decl =>
      rw [toType, JavaType.runtimeClass, ClassType.runtimeClass, runtimeClass?]
      cases decl.runtimeClass? <;> rfl
  | external ext =>
      rw [toType, JavaType.runtimeClass, ClassType.runtimeClass, runtimeClass?]
      cases ext.facts.runtimeClass <;> rfl

theorem ClassType.ClaimsNoArray.runtimeClass?_leaf {cls : ClassType} (h : cls.ClaimsNoArray) :
    cls.leaf.runtimeClass? = cls.runtimeClass.toOption := by
  rw [← cls.leaf.toOption_runtimeClass, h.leaf_eq, JavaType.runtimeClass]

theorem ArrayType.toOption_runtimeClass (arr : ArrayType) :
    arr.runtimeClass.toOption =
      arr.leaf.runtimeClass?.bind fun element =>
        (element.addDimensions arr.dimensions).toOption := by
  rw [runtimeClass]
  cases arr.leaf.runtimeClass? with
  | none => rfl
  | some element =>
      simp only [Option.bind_some]
      cases element.addDimensions arr.dimensions <;> rfl

/-! ## Types that are the same -/

namespace Answers

def ofArrayOver (component : Answers) (runtimeClass : Option RuntimeClass) : Answers where
  simpleName := component.simpleName ++ arraySuffix
  canonicalName := component.canonicalName.map (· ++ arraySuffix)
  packageName := component.packageName
  modifiers := component.modifiers.ofArrayOver
  runtimeClass := runtimeClass
  display := "array(" ++ component.display ++ ")"

end Answers

namespace JavaType

theorem answers_array (arr : ArrayType) :
    (JavaType.array arr).answers = arr.component.answers.ofArrayOver
      (arr.leaf.runtimeClass?.bind fun element =>
        (element.addDimensions arr.dimensions).toOption) := by
  rw [← arr.toOption_runtimeClass]
  cases arr
  rfl

/-- Where the classes under two types have one name, they answer alike. -/
def ClassesAnswerAlike (a b : JavaType) : Prop :=
  ∀ c ∈ a.elementClass?, ∀ d ∈ b.elementClass?, c.binaryName = d.binaryName →
    (JavaType.ofClass c).answers = (JavaType.ofClass d).answers

theorem classesAnswerAlike_array {a b : ArrayType} :
    (JavaType.array a).ClassesAnswerAlike (.array b) ↔
      a.component.ClassesAnswerAlike b.component := by
  rw [ClassesAnswerAlike, elementClass?_array, elementClass?_array, ClassesAnswerAlike]

variable {a b : JavaType}

theorem runtimeClass?_leaf_eq (h : SameType a b) (ha : a.HidesNoArray) (hb : b.HidesNoArray)
    (halike : a.ClassesAnswerAlike b) : a.leaf.runtimeClass? = b.leaf.runtimeClass? := by
  induction h with
  | primitive kind => rfl
  | @ofClass c d hname =>
      have hc : c.ClaimsNoArray := ha c rfl
      have hd : d.ClaimsNoArray := hb d rfl
      have hanswers := halike c rfl d rfl hname
      rw [leaf, leaf, hc.runtimeClass?_leaf, hd.runtimeClass?_leaf]
      exact congrArg Answers.runtimeClass hanswers
  | @array a b _ ih =>
      rw [leaf, leaf, a.leaf_eq, b.leaf_eq]
      exact ih (restsOn_array.1 ha) (restsOn_array.1 hb) (classesAnswerAlike_array.1 halike)

theorem answers_eq (h : SameType a b) (ha : a.HidesNoArray) (hb : b.HidesNoArray)
    (halike : a.ClassesAnswerAlike b) : a.answers = b.answers := by
  induction h with
  | primitive kind => rfl
  | @ofClass c d hname => exact halike c rfl d rfl hname
  | @array a b hcomponents ih =>
      have hsame := beq_iff_sameType.2 (SameType.array hcomponents)
      have hleaf : a.leaf.runtimeClass? = b.leaf.runtimeClass? :=
        runtimeClass?_leaf_eq (.array hcomponents) ha hb halike
      have hdimensions : a.dimensions = b.dimensions := ha.dimensions_eq_of_beq hb hsame
      have hanswers :=
        ih (restsOn_array.1 ha) (restsOn_array.1 hb) (classesAnswerAlike_array.1 halike)
      rw [answers_array, answers_array, hanswers, hleaf, hdimensions]

end JavaType

end JvmTypes
