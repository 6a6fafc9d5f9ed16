import JvmTypes.JavaType.Identity
/-!
# Sameness is an equivalence

Two types are the same exactly if their digests are equal (`digest_eq_iff`), so sameness is an
equivalence and a hash respects it.
-/

namespace JvmTypes

theorem ClassType.same_iff {a b : ClassType} : a.same b ↔ a.binaryName = b.binaryName := by
  simp [ClassType.same]

mutual

theorem JavaType.digest_eq_iff : (a b : JavaType) → (a.digest = b.digest ↔ a.same b)
  | .primitive _, .primitive _ => by simp [JavaType.digest, JavaType.same]
  | .primitive _, .ofClass _ => by simp [JavaType.digest, JavaType.same]
  | .primitive _, .array ⟨_, _, _⟩ => by simp [JavaType.digest, ArrayType.digest, JavaType.same]
  | .ofClass _, .primitive _ => by simp [JavaType.digest, JavaType.same]
  | .ofClass _, .ofClass _ => by simp [JavaType.digest, JavaType.same, ClassType.same]
  | .ofClass _, .array ⟨_, _, _⟩ => by simp [JavaType.digest, ArrayType.digest, JavaType.same]
  | .array ⟨_, _, _⟩, .primitive _ => by simp [JavaType.digest, ArrayType.digest, JavaType.same]
  | .array ⟨_, _, _⟩, .ofClass _ => by simp [JavaType.digest, ArrayType.digest, JavaType.same]
  | .array a, .array b => by
    rw [JavaType.digest, JavaType.digest, JavaType.same]
    exact ArrayType.digest_eq_iff a b

theorem ArrayType.digest_eq_iff : (a b : ArrayType) → (a.digest = b.digest ↔ a.same b)
  | ⟨_, a, _⟩, ⟨_, b, _⟩ => by
    rw [ArrayType.digest, ArrayType.digest, ArrayType.same, List.cons.injEq]
    simpa using JavaType.digest_eq_iff a b

end

theorem JavaType.beq_iff {a b : JavaType} : (a == b) = true ↔ a.digest = b.digest :=
  (JavaType.digest_eq_iff a b).symm

theorem ArrayType.beq_iff {a b : ArrayType} : (a == b) = true ↔ a.digest = b.digest :=
  (ArrayType.digest_eq_iff a b).symm

instance : EquivBEq JavaType where
  rfl := JavaType.beq_iff.2 rfl
  symm h := JavaType.beq_iff.2 (JavaType.beq_iff.1 h).symm
  trans h k := JavaType.beq_iff.2 ((JavaType.beq_iff.1 h).trans (JavaType.beq_iff.1 k))

instance : LawfulHashable JavaType where
  hash_eq _ _ h := congrArg hashOfDigest (JavaType.beq_iff.1 h)

instance : EquivBEq ArrayType where
  rfl := ArrayType.beq_iff.2 rfl
  symm h := ArrayType.beq_iff.2 (ArrayType.beq_iff.1 h).symm
  trans h k := ArrayType.beq_iff.2 ((ArrayType.beq_iff.1 h).trans (ArrayType.beq_iff.1 k))

instance : LawfulHashable ArrayType where
  hash_eq _ _ h := congrArg hashOfDigest (ArrayType.beq_iff.1 h)

end JvmTypes
