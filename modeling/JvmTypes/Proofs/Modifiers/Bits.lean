import JvmTypes.Modifiers.Basic
/-!
# The bits of a modifier word

A modifier word seen one bit at a time, with one lemma for each operation. Two words with the
same bits are one word.
-/

namespace JvmTypes

namespace Flag

def position : Flag → Nat
  | .publicAccess => 0
  | .privateAccess => 1
  | .protectedAccess => 2
  | .static => 3
  | .final => 4
  | .synchronized => 5
  | .volatile => 6
  | .transient => 7
  | .native => 8
  | .interface => 9
  | .abstract => 10
  | .strict => 11
  | .synthetic => 12
  | .annotationType => 13
  | .enumType => 14

theorem toBitVec_mask (f : Flag) : f.mask.toBitVec = BitVec.twoPow 32 f.position := by
  cases f <;> rfl

theorem position_lt (f : Flag) : f.position < 32 := by
  cases f <;> decide

end Flag

namespace Modifiers

def bit (m : Modifiers) (i : Nat) : Bool :=
  m.bits.toBitVec.getLsbD i

theorem ext_bit {m n : Modifiers} (h : ∀ i, m.bit i = n.bit i) : m = n := by
  obtain ⟨a⟩ := m
  obtain ⟨b⟩ := n
  have hword : a = b := by
    apply UInt32.toBitVec_inj.1
    apply BitVec.eq_of_getLsbD_eq
    intro i _
    exact h i
  rw [hword]

@[simp] theorem bit_union (m n : Modifiers) (i : Nat) :
    (m ∪ n).bit i = (m.bit i || n.bit i) := by
  simp [bit]

@[simp] theorem bit_inter (m n : Modifiers) (i : Nat) :
    (m ∩ n).bit i = (m.bit i && n.bit i) := by
  simp [bit]

@[simp] theorem bit_sdiff (m n : Modifiers) (i : Nat) :
    (m \ n).bit i = (m.bit i && !n.bit i) := by
  by_cases hi : i < 32
  · simp [bit, hi]
  · simp [bit, Nat.not_lt.1 hi]

@[simp] theorem bit_empty (i : Nat) : empty.bit i = false :=
  BitVec.getLsbD_zero

@[simp] theorem bit_ofFlag (f : Flag) (i : Nat) :
    (ofFlag f).bit i = decide (f.position = i) := by
  rw [bit, bits_ofFlag, f.toBitVec_mask, BitVec.getLsbD_twoPow, decide_eq_true f.position_lt,
    Bool.true_and]

theorem contains_iff {m n : Modifiers} :
    m.contains n = true ↔ ∀ i, n.bit i = true → m.bit i = true := by
  rw [contains, beq_iff_eq]
  constructor
  · intro h i hi
    rw [← h, bit_inter, Bool.and_eq_true] at hi
    exact hi.1
  · intro h
    apply ext_bit
    intro i
    rw [bit_inter, Bool.and_eq_right_iff_imp]
    exact h i

theorem has_eq_bit (m : Modifiers) (f : Flag) : m.has f = m.bit f.position := by
  rw [Bool.eq_iff_iff, has, contains_iff]
  simp

end Modifiers

end JvmTypes
