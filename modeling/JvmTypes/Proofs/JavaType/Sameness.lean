import JvmTypes.Declaration.Clause
import JvmTypes.Distinct
import JvmTypes.Proofs.ArrayPool.Lookup
import Std.Data.HashSet.Lemmas
/-!
# What makes two types the same

`SameType` says it step by step: one primitive, classes of one binary name, or arrays over
components that are the same. The test `==` decides this relation. A comparison of handles may
stop early where both handles lead to one and the same thing; no such stop changes the outcome
(`JavaType.compares_iff`).
-/

namespace JvmTypes

@[elab_as_elim]
theorem JavaType.chainInduction {motive : JavaType → Prop}
    (primitive : ∀ kind, motive (.primitive kind)) (ofClass : ∀ cls, motive (.ofClass cls))
    (array : ∀ arr : ArrayType, motive arr.component → motive (.array arr)) :
    ∀ t, motive t
  | .primitive kind => primitive kind
  | .ofClass cls => ofClass cls
  | .array ⟨platform, component, origin⟩ =>
    array ⟨platform, component, origin⟩ (chainInduction primitive ofClass array component)

/-! ## Sameness step by step -/

inductive SameType : JavaType → JavaType → Prop
  | primitive (kind : Primitive) : SameType (.primitive kind) (.primitive kind)
  | ofClass {a b : ClassType} (h : a.binaryName = b.binaryName) :
      SameType (.ofClass a) (.ofClass b)
  | array {a b : ArrayType} (h : SameType a.component b.component) :
      SameType (.array a) (.array b)

namespace JavaType

variable {a b : JavaType}

theorem array_beq_array (a b : ArrayType) :
    (JavaType.array a == JavaType.array b) = (a.component == b.component) :=
  ArrayType.same_eq a b

theorem sameType_of_beq (h : (a == b) = true) : SameType a b := by
  induction a using chainInduction generalizing b with
  | primitive kind =>
      cases b with
      | primitive other =>
          obtain rfl : kind = other := by simpa [beq_iff, digest] using h
          exact .primitive kind
      | ofClass cls => contradiction
      | array arr => contradiction
  | ofClass cls =>
      cases b with
      | primitive kind => contradiction
      | ofClass other => exact .ofClass (ClassType.same_iff.1 h)
      | array arr => contradiction
  | array arr ih =>
      cases b with
      | primitive kind => contradiction
      | ofClass cls => contradiction
      | array other =>
          rw [array_beq_array] at h
          exact .array (ih h)

theorem beq_iff_sameType : (a == b) = true ↔ SameType a b := by
  constructor
  · exact sameType_of_beq
  · intro h
    induction h with
    | primitive kind => exact BEq.refl _
    | ofClass h => exact ClassType.same_iff.2 h
    | @array a b _ ih => rw [array_beq_array, ih]

theorem isAnonymous_of_beq_array {arr : ArrayType} (h : (a == .array arr) = true) :
    a.isAnonymous = false := by
  cases sameType_of_beq h with
  | array => rfl

end JavaType

namespace SameType

variable {a b : JavaType}

theorem binaryName_eq (h : SameType a b) : a.binaryName = b.binaryName := by
  induction h with
  | primitive kind => rfl
  | ofClass h => exact h
  | @array a b _ ih =>
      rw [JavaType.binaryName, JavaType.binaryName, a.binaryName_eq, b.binaryName_eq, ih]

theorem className_eq (h : SameType a b) :
    a.asClass?.map ClassType.binaryName = b.asClass?.map ClassType.binaryName := by
  have hname := h.binaryName_eq
  cases h with
  | primitive kind => rfl
  | ofClass _ => exact congrArg some hname
  | array _ => exact congrArg some hname

end SameType

theorem distinctCount_pair {a b : JavaType} (h : (a == b) = true) :
    distinctCount [a, b] = 1 := by
  rw [distinctCount, Std.HashSet.ofList_eq_insertMany_empty, Std.HashSet.insertMany_cons,
    Std.HashSet.insertMany_list_singleton, Std.HashSet.size_insert, if_pos (by simp [h]),
    Std.HashSet.size_insert, if_neg Std.HashSet.not_mem_empty, Std.HashSet.size_empty]

/-! ## Comparing handles -/

/-- The possible outcomes of comparing two handles. Handles that lead to one and the same thing
may be found equal without a look at it; whether they do lead to one thing is not part of what
they lead to, so both rules are open wherever the two sides are identical. -/
inductive HandleComparison {α : Type} [BEq α] : α → α → Bool → Prop
  | oneThing (a : α) : HandleComparison a a true
  | looked (a b : α) : HandleComparison a b (a == b)

theorem handleComparison_iff {α : Type} [BEq α] [ReflBEq α] {a b : α} {outcome : Bool} :
    HandleComparison a b outcome ↔ outcome = (a == b) := by
  constructor
  · intro h
    cases h with
    | oneThing => exact (BEq.refl a).symm
    | looked => rfl
  · rintro rfl
    exact .looked a b

instance : ReflBEq ClassType where
  rfl := ClassType.same_iff.2 rfl

instance : ReflBEq Declaration where
  rfl {decl} := beq_self_eq_true decl.binaryName

/-- The possible outcomes of comparing two types: classes and arrays are compared as handles, and
arrays that are not found to be one thing by their components. -/
inductive JavaType.Compares : JavaType → JavaType → Bool → Prop
  | primitive (a b : Primitive) : Compares (.primitive a) (.primitive b) (a == b)
  | ofClass {a b : ClassType} {outcome : Bool} (h : HandleComparison a b outcome) :
      Compares (.ofClass a) (.ofClass b) outcome
  | oneArray (arr : ArrayType) : Compares (.array arr) (.array arr) true
  | components {a b : ArrayType} {outcome : Bool}
      (h : Compares a.component b.component outcome) : Compares (.array a) (.array b) outcome
  | variants {a b : JavaType} (h : a.variant ≠ b.variant) : Compares a b false

namespace JavaType

variable {a b : JavaType}

theorem beq_eq_false_of_variant_ne (h : a.variant ≠ b.variant) : (a == b) = false := by
  rw [Bool.eq_false_iff]
  intro hsame
  cases sameType_of_beq hsame <;> exact h rfl

theorem compares_self (a b : JavaType) : Compares a b (a == b) := by
  induction a using chainInduction generalizing b with
  | primitive kind =>
      cases b with
      | primitive other => exact .primitive kind other
      | ofClass cls => exact .variants Variant.noConfusion
      | array arr => exact .variants Variant.noConfusion
  | ofClass cls =>
      cases b with
      | primitive kind => exact .variants Variant.noConfusion
      | ofClass other => exact .ofClass (.looked cls other)
      | array arr => exact .variants Variant.noConfusion
  | array arr ih =>
      cases b with
      | primitive kind => exact .variants Variant.noConfusion
      | ofClass cls => exact .variants Variant.noConfusion
      | array other =>
          rw [array_beq_array]
          exact .components (ih other.component)

/-- Whatever shortcuts a comparison takes, its outcome is that of `==`. -/
theorem compares_iff {outcome : Bool} : Compares a b outcome ↔ outcome = (a == b) := by
  constructor
  · intro h
    induction h with
    | primitive a b => rfl
    | @ofClass a b _ h =>
        rw [handleComparison_iff.1 h]
        rfl
    | oneArray arr => exact (BEq.refl _).symm
    | @components a b _ _ ih => rw [ih, array_beq_array]
    | variants h => exact (beq_eq_false_of_variant_ne h).symm
  · rintro rfl
    exact compares_self a b

/-- **Identity of types.** The test `==` says that two types are one primitive, classes of one
binary name, or arrays over components of which it says the same. It is an equivalence. No
shortcut in the comparison of types, classes or declarations changes its outcome. Types that are
the same have one digest, so a set keeps one of them, and one name as classes. Array types made
by any two pools are the same exactly if their components are. -/
theorem type_identity :
    (∀ a b : JavaType, (a == b) = true ↔
      (∃ kind, a = .primitive kind ∧ b = .primitive kind) ∨
      (∃ c d, a = .ofClass c ∧ b = .ofClass d ∧ c.binaryName = d.binaryName) ∨
      (∃ x y, a = .array x ∧ b = .array y ∧ (x.component == y.component) = true)) ∧
    Equivalence (fun a b : JavaType => (a == b) = true) ∧
    ((∀ (a b : JavaType) outcome, Compares a b outcome ↔ outcome = (a == b)) ∧
      (∀ (a b : ClassType) outcome, HandleComparison a b outcome ↔ outcome = (a == b)) ∧
      (∀ (a b : Declaration) outcome, HandleComparison a b outcome ↔ outcome = (a == b))) ∧
    (∀ a b : JavaType, (a == b) = true →
      a.digest = b.digest ∧ hash a = hash b ∧ distinctCount [a, b] = 1 ∧
        a.asClass?.map ClassType.binaryName = b.asClass?.map ClassType.binaryName) ∧
    (∀ (f g : ArrayPool) (a b t u : JavaType), (f.makeLoose a).result = .ok t →
      (g.makeLoose b).result = .ok u → (t == u) = (a == b)) := by
  refine ⟨?_, ?_, ?_, ?_, ?_⟩
  · intro a b
    constructor
    · intro h
      cases sameType_of_beq h with
      | primitive kind => exact .inl ⟨kind, rfl, rfl⟩
      | @ofClass c d hname => exact .inr (.inl ⟨c, d, rfl, rfl, hname⟩)
      | @array x y hcomponents =>
          exact .inr (.inr ⟨x, y, rfl, rfl, beq_iff_sameType.2 hcomponents⟩)
    · rintro (⟨kind, rfl, rfl⟩ | ⟨c, d, rfl, rfl, hname⟩ | ⟨x, y, rfl, rfl, hcomponents⟩)
      · exact BEq.refl _
      · exact ClassType.same_iff.2 hname
      · rw [array_beq_array, hcomponents]
  · exact ⟨fun a => BEq.refl a, BEq.symm, BEq.trans⟩
  · exact ⟨fun _ _ _ => compares_iff, fun _ _ _ => handleComparison_iff,
      fun _ _ _ => handleComparison_iff⟩
  · intro a b h
    exact ⟨beq_iff.1 h, hash_eq h, distinctCount_pair h, (sameType_of_beq h).className_eq⟩
  · intro f g a b t u ht hu
    obtain ⟨x, rfl, hx⟩ := ArrayPool.result_makeLoose_eq_ok_iff.1 ht
    obtain ⟨y, rfl, hy⟩ := ArrayPool.result_makeLoose_eq_ok_iff.1 hu
    obtain ⟨_, _, rfl⟩ := ArrayType.ofComponent_eq_ok_iff.1 hx
    obtain ⟨_, _, rfl⟩ := ArrayType.ofComponent_eq_ok_iff.1 hy
    exact array_beq_array _ _

/-- Two declarations of one name are the same type, and so are the array types over them from
pools of two platforms. -/
theorem type_identity_two_declarations :
    let a : JavaType := .ofClass (.declared (.ofClauses (.source 0) "p.A" []))
    let b : JavaType := .ofClass (.declared (.ofClauses (.source 1) "p.A" [.typeParameter "T"]))
    (a == b) = true ∧ hash a = hash b ∧ distinctCount [a, b] = 1 ∧ Compares a b true ∧
      ¬ Compares a b false ∧
      ∃ t u, ((ArrayPool.empty (.fresh 1)).makeLoose a).result = .ok t ∧
        ((ArrayPool.empty (.fresh 2)).makeLoose b).result = .ok u ∧ (t == u) = true := by
  intro a b
  obtain ⟨hsame_iff, _, ⟨hcompares, _⟩, hdigest, harrays⟩ := type_identity
  have hsame : (a == b) = true := (hsame_iff a b).2 (.inr (.inl ⟨_, _, rfl, rfl, rfl⟩))
  obtain ⟨_, hhash, hcount, _⟩ := hdigest a b hsame
  have hfresh :=
    harrays (ArrayPool.empty (.fresh 1)) (ArrayPool.empty (.fresh 2)) a b _ _ rfl rfl
  refine ⟨hsame, hhash, hcount, (hcompares a b true).2 hsame.symm, ?_, _, _, rfl, rfl, ?_⟩
  · rw [hcompares, hsame]
    exact Bool.noConfusion
  · rw [hfresh, hsame]

end JavaType

end JvmTypes
