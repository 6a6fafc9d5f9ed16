import JvmTypes.Proofs.RuntimeClass.Dimensions
import Mathlib.Data.Set.Function
/-!
# Runtime classes of one name

The name of an array class is read back from the left: the brackets give its dimensions, since no
descriptor starts with one, and what follows gives its element. So no two array classes share a
name, whatever the classes under them are called (`eq_of_name_of_isArray`). Nothing marks the
name of a class that is no array, so a class may be called like a primitive or like an array
class, and in no other way do two classes share a name (`name_eq_iff`).
-/

namespace JvmTypes

theorem Text.replicate_append_inj {sep : Char} {m n : Nat} {s t : List Char}
    (hs : s.head? ≠ some sep) (ht : t.head? ≠ some sep)
    (h : List.replicate m sep ++ s = List.replicate n sep ++ t) : m = n ∧ s = t := by
  induction m generalizing n with
  | zero =>
      cases n with
      | zero => exact ⟨rfl, h⟩
      | succ n =>
          rw [List.replicate_zero, List.nil_append] at h
          exact absurd (congrArg List.head? h) hs
  | succ m ih =>
      cases n with
      | zero =>
          rw [List.replicate_zero, List.nil_append] at h
          exact absurd (congrArg List.head? h).symm ht
      | succ n =>
          simp only [List.replicate_succ, List.cons_append, List.cons.injEq, true_and] at h
          obtain ⟨hcount, hrest⟩ := ih h
          exact ⟨congrArg Nat.succ hcount, hrest⟩

namespace Primitive

theorem descriptor_injective : Function.Injective descriptor := by
  intro j k h
  cases j <;> cases k <;> simp_all [descriptor]

theorem descriptor_ne_classMark (kind : Primitive) : kind.descriptor ≠ 'L' := by
  cases kind <;> decide

theorem descriptor_ne_bracket (kind : Primitive) : kind.descriptor ≠ '[' := by
  cases kind <;> decide

theorem head?_keyword_ne_bracket (kind : Primitive) : kind.keyword.toList.head? ≠ some '[' := by
  cases kind <;> decide

end Primitive

namespace RuntimeClass

/-! ## Descriptors -/

namespace Element

theorem toList_descriptor_primitive (kind : Primitive) :
    (Element.primitive kind).descriptor.toList = [kind.descriptor] := by
  simp [descriptor]

theorem toList_descriptor_named (binaryName : String) :
    (named binaryName).descriptor.toList = 'L' :: (binaryName.toList ++ [';']) := by
  simp [descriptor]

theorem head?_descriptor_ne_bracket (element : Element) :
    element.descriptor.toList.head? ≠ some '[' := by
  cases element with
  | primitive kind =>
      rw [toList_descriptor_primitive]
      simpa using kind.descriptor_ne_bracket
  | named binaryName =>
      rw [toList_descriptor_named, List.head?_cons]
      decide

/-- The first character tells primitives from classes, and what is between the marks of a class
is its name, also if the marks occur in it. -/
theorem descriptor_injective : Function.Injective descriptor := by
  intro a b h
  have hchars := congrArg String.toList h
  cases a with
  | primitive kind =>
      rw [toList_descriptor_primitive] at hchars
      cases b with
      | primitive other =>
          rw [toList_descriptor_primitive, List.singleton_inj] at hchars
          rw [Primitive.descriptor_injective hchars]
      | named other =>
          rw [toList_descriptor_named, List.cons.injEq] at hchars
          exact absurd hchars.1 kind.descriptor_ne_classMark
  | named binaryName =>
      rw [toList_descriptor_named] at hchars
      cases b with
      | primitive kind =>
          rw [toList_descriptor_primitive, List.cons.injEq] at hchars
          exact absurd hchars.1.symm kind.descriptor_ne_classMark
      | named other =>
          rw [toList_descriptor_named, List.cons.injEq] at hchars
          rw [String.toList_inj.1 (List.append_cancel_right hchars.2)]

end Element

/-! ## Names of array classes -/

variable {c d : RuntimeClass}

theorem toList_name_of_isArray (h : c.isArray = true) :
    c.name.toList = List.replicate c.dimensions.toNat '[' ++ c.element.descriptor.toList := by
  have hbracket : "[".toList = ['['] := rfl
  rw [name, if_pos h, String.toList_append, Text.toList_repeated, hbracket,
    List.flatten_replicate_singleton]

theorem head?_name_of_isArray (h : c.isArray = true) : c.name.toList.head? = some '[' := by
  have hpos : c.dimensions.toNat ≠ 0 := by
    rw [isArray_eq] at h
    exact bne_iff_ne.1 h
  obtain ⟨count, hcount⟩ := Nat.exists_eq_succ_of_ne_zero hpos
  rw [toList_name_of_isArray h, hcount]
  rfl

theorem eq_of_name_of_isArray (hc : c.isArray = true) (hd : d.isArray = true)
    (h : c.name = d.name) : c = d := by
  have hchars := congrArg String.toList h
  rw [toList_name_of_isArray hc, toList_name_of_isArray hd] at hchars
  obtain ⟨hdimensions, hdescriptor⟩ := Text.replicate_append_inj
    c.element.head?_descriptor_ne_bracket d.element.head?_descriptor_ne_bracket hchars
  have helement : c.element = d.element :=
    Element.descriptor_injective (String.toList_inj.1 hdescriptor)
  calc
    c = ⟨c.element, c.dimensions⟩ := rfl
    _ = ⟨d.element, d.dimensions⟩ := by rw [helement, UInt8.toNat_inj.1 hdimensions]
    _ = d := rfl

/-! ## Names of other classes -/

theorem exists_of_not_isArray (h : c.isArray = false) :
    (∃ kind, c = primitive kind) ∨ c = named c.name := by
  obtain ⟨element, dimensions⟩ := c
  obtain rfl : dimensions = 0 := bne_eq_false_iff_eq.1 h
  cases element with
  | primitive kind => exact .inl ⟨kind, rfl⟩
  | named binaryName => exact .inr rfl

theorem eq_named_of_isArray (hc : c.isArray = true) (hd : d.isArray = false)
    (h : c.name = d.name) : d = named c.name := by
  rcases exists_of_not_isArray hd with ⟨kind, rfl⟩ | hnamed
  · have hhead := head?_name_of_isArray hc
    rw [h] at hhead
    exact absurd hhead kind.head?_keyword_ne_bracket
  · rw [h]
    exact hnamed

theorem eq_or_keyword_of_not_isArray (hc : c.isArray = false) (hd : d.isArray = false)
    (h : c.name = d.name) :
    c = d ∨ ∃ kind, (c = primitive kind ∧ d = named kind.keyword) ∨
      (c = named kind.keyword ∧ d = primitive kind) := by
  rcases exists_of_not_isArray hc with ⟨kind, rfl⟩ | hnamed
  · rcases exists_of_not_isArray hd with ⟨other, rfl⟩ | hother
    · rw [Primitive.keyword_injective h]
      exact .inl rfl
    · rw [← h] at hother
      exact .inr ⟨kind, .inl ⟨rfl, hother⟩⟩
  · rcases exists_of_not_isArray hd with ⟨other, rfl⟩ | hother
    · rw [h] at hnamed
      exact .inr ⟨other, .inr ⟨hnamed, rfl⟩⟩
    · rw [hnamed, hother, h]
      exact .inl rfl

/-- **Classes of one name.** Two runtime classes have one name exactly if they are equal, or one
is a primitive and the other a class called by its keyword, or one is an array and the other a
class that is no array and is called by its name. In particular the name of an array class tells
it from every other array class. -/
theorem name_eq_iff :
    (∀ c d : RuntimeClass, c.name = d.name ↔
      c = d ∨
      (∃ kind, (c = primitive kind ∧ d = named kind.keyword) ∨
        (c = named kind.keyword ∧ d = primitive kind)) ∨
      (c.isArray = true ∧ d = named c.name) ∨ (d.isArray = true ∧ c = named d.name)) ∧
    Set.InjOn name {c | c.isArray = true} := by
  refine ⟨?_, fun c hc d hd => eq_of_name_of_isArray hc hd⟩
  intro c d
  constructor
  · intro h
    cases hc : c.isArray with
    | true =>
        cases hd : d.isArray with
        | true => exact .inl (eq_of_name_of_isArray hc hd h)
        | false => exact .inr (.inr (.inl ⟨rfl, eq_named_of_isArray hc hd h⟩))
    | false =>
        cases hd : d.isArray with
        | true => exact .inr (.inr (.inr ⟨rfl, eq_named_of_isArray hd hc h.symm⟩))
        | false =>
            rcases eq_or_keyword_of_not_isArray hc hd h with heq | hkeyword
            · exact .inl heq
            · exact .inr (.inl hkeyword)
  · rintro (rfl | ⟨kind, ⟨rfl, rfl⟩ | ⟨rfl, rfl⟩⟩ | ⟨_, rfl⟩ | ⟨_, rfl⟩) <;> rfl

/-- The array class of `int` and a class called like it. -/
example : (named "[I").name = (⟨.primitive .int, 1⟩ : RuntimeClass).name := by decide

end RuntimeClass

end JvmTypes
