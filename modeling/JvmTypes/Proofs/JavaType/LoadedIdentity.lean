import JvmTypes.Proofs.JavaType.Loaded
/-!
# Identity of types and of runtime classes

A type and its runtime class are two notions of what makes a type that one: a chain of
components, and an element with a number of dimensions. For types that rest on declared classes,
with no array in the place of one, the digest of the type can be read off its runtime class
(`digest_eq_of_runtimeClass`), and no two runtime classes have one digest. So two types that are
loaded are the same exactly if their runtime classes are equal (`beq_iff_runtimeClass_eq`), also
where a class is called like a primitive or an array.
-/

namespace JvmTypes

/-! ## Digests of runtime classes -/

namespace RuntimeClass

def Element.digestStep : Element → DigestStep
  | .primitive kind => .primitive kind
  | .named binaryName => .named binaryName

theorem Element.digestStep_injective : Function.Injective digestStep := by
  intro a b h
  cases a with
  | primitive kind =>
      cases b with
      | primitive other => rw [DigestStep.primitive.inj h]
      | named name => contradiction
  | named name =>
      cases b with
      | primitive kind => contradiction
      | named other => rw [DigestStep.named.inj h]

def digest (c : RuntimeClass) : List DigestStep :=
  List.replicate c.dimensions.toNat .array ++ [c.element.digestStep]

theorem digest_injective : Function.Injective digest := by
  intro c d h
  -- the lengths give the dimensions, and then the last steps the elements
  have hcount : c.dimensions.toNat = d.dimensions.toNat := by
    have hlength := congrArg List.length h
    simp only [digest, List.length_append, List.length_replicate,
      List.length_singleton] at hlength
    omega
  have hstep : c.element.digestStep = d.element.digestStep := by
    rw [digest, digest, hcount] at h
    exact List.singleton_inj.1 (List.append_cancel_left h)
  calc
    c = ⟨c.element, c.dimensions⟩ := rfl
    _ = ⟨d.element, d.dimensions⟩ := by
      rw [Element.digestStep_injective hstep, UInt8.toNat_inj.1 hcount]
    _ = d := rfl

end RuntimeClass

/-! ## Types that rest on declarations -/

namespace ClassType

def IsDeclared (cls : ClassType) : Prop :=
  ∃ decl, cls = .declared decl

theorem IsDeclared.claimsNoArray {cls : ClassType} (h : cls.IsDeclared) : cls.ClaimsNoArray := by
  obtain ⟨decl, rfl⟩ := h
  rfl

end ClassType

namespace JavaType

/-- The type is primitive, a declared class, or made of arrays over one, none in the place of a
class. -/
def RestsOnDeclared (t : JavaType) : Prop :=
  t.RestsOn ClassType.IsDeclared

theorem LoadsAs.digest_eq {element : JavaType} {loaded : RuntimeClass.Element}
    (h : LoadsAs element loaded) : element.digest = [loaded.digestStep] := by
  cases h <;> rfl

namespace RestsOnDeclared

variable {t : JavaType}

theorem hidesNoArray (h : t.RestsOnDeclared) : t.HidesNoArray :=
  fun cls hcls => (h cls hcls).claimsNoArray

theorem restsOnNoExternal (h : t.RestsOnDeclared) : t.RestsOnNoExternal := by
  induction t using chainInduction with
  | primitive kind => exact externalsUnder_primitive kind
  | ofClass cls =>
      obtain ⟨decl, rfl⟩ := restsOn_ofClass.1 h
      exact externalsUnder_declared decl
  | array arr ih => exact externalsUnder_array.2 (ih (restsOn_array.1 h))

theorem digest_eq_of_runtimeClass (h : t.RestsOnDeclared) {c : RuntimeClass}
    (hc : t.runtimeClass = .ok c) : t.digest = c.digest := by
  obtain ⟨element, helement, hloads, hcount⟩ := h.restsOnNoExternal.exists_loadsAs hc
  calc
    t.digest = List.replicate t.depth .array ++ t.leaf.toType.digest := by
      rw [h.hidesNoArray.digest_eq, h.hidesNoArray.dimensions_eq_depth]
    _ = c.digest := by
      rw [helement.leaf_eq, hloads.digest_eq, RuntimeClass.digest, hcount]

end RestsOnDeclared

/-- **One identity.** Let two types be made of primitives, declared classes and arrays of these,
with no array in the place of a class. If both have runtime classes, they are the same type
exactly if the runtime classes are equal. -/
theorem beq_iff_runtimeClass_eq {a b : JavaType} (ha : a.RestsOnDeclared)
    (hb : b.RestsOnDeclared) {c d : RuntimeClass} (hc : a.runtimeClass = .ok c)
    (hd : b.runtimeClass = .ok d) : (a == b) = true ↔ c = d := by
  rw [beq_iff, ha.digest_eq_of_runtimeClass hc, hb.digest_eq_of_runtimeClass hd]
  exact RuntimeClass.digest_injective.eq_iff

/-- An array of a class called `int[]` has the type name of `int[][]`, and yet neither the types
nor the runtime classes are the same. Two declarations of that class give one array type and one
runtime class. -/
theorem beq_iff_runtimeClass_eq_under_one_name :
    let ints : JavaType := (JavaType.primitive .int).withDims (.fresh 1) 2
    let first : JavaType := .ofClass (.declared (.ofClauses (.source 0) "int[]" [.loadable]))
    let second : JavaType :=
      .ofClass (.declared (.ofClauses (.source 1) "int[]" [.kind .interface, .loadable]))
    let a := first.withDims .shared 1
    let b := second.withDims (.fresh 2) 1
    let c : RuntimeClass := ⟨.primitive .int, 2⟩
    let d : RuntimeClass := ⟨.named "int[]", 1⟩
    ints.RestsOnDeclared ∧ a.RestsOnDeclared ∧ b.RestsOnDeclared ∧ ints.runtimeClass = .ok c ∧
      a.runtimeClass = .ok d ∧ b.runtimeClass = .ok d ∧ c.typeName = d.typeName ∧
      (ints == a) = false ∧ (a == b) = true := by
  intro ints first second a b c d
  have hints : ints.RestsOnDeclared := (restsOn_primitive .int _).withDims _ 2
  have ha : a.RestsOnDeclared := (restsOn_ofClass.2 ⟨_, rfl⟩).withDims _ 1
  have hb : b.RestsOnDeclared := (restsOn_ofClass.2 ⟨_, rfl⟩).withDims _ 1
  have hc : ints.runtimeClass = .ok c := rfl
  have hda : a.runtimeClass = .ok d := rfl
  have hdb : b.runtimeClass = .ok d := rfl
  have hsame : (a == b) = true := (beq_iff_runtimeClass_eq ha hb hda hdb).2 rfl
  refine ⟨hints, ha, hb, hc, hda, hdb, by decide, ?_, hsame⟩
  rw [Bool.eq_false_iff, ne_eq, beq_iff_runtimeClass_eq hints ha hc hda]
  decide

end JavaType

end JvmTypes
