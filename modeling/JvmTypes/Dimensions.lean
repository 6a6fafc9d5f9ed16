/-!
# Counting dimensions

A class file stores the number of dimensions of an array type in one unsigned byte, which gives
the limit. Dimensions are asked for in machine words, though, and a sum of these may wrap around.
-/

namespace JvmTypes

def maxDimensions : Nat := 255

/-- `count` dimensions more than `base`, as a machine word adds them. -/
def dimensionSum (base : Nat) (count : UInt64) : Nat :=
  (UInt64.ofNat base + count).toNat

theorem dimensionSum_eq_mod (base : Nat) (count : UInt64) :
    dimensionSum base count = (base + count.toNat) % UInt64.size := by
  rw [dimensionSum, UInt64.toNat_add, UInt64.toNat_ofNat', Nat.mod_add_mod]

theorem dimensionSum_of_lt {base : Nat} {count : UInt64} (h : base + count.toNat < UInt64.size) :
    dimensionSum base count = base + count.toNat := by
  rw [dimensionSum_eq_mod, Nat.mod_eq_of_lt h]

theorem toNat_add_of_lt {a b : UInt64} (h : a.toNat + b.toNat < UInt64.size) :
    (a + b).toNat = a.toNat + b.toNat := by
  rw [UInt64.toNat_add]
  exact Nat.mod_eq_of_lt h

theorem lt_size_of_le {n : Nat} (h : n ≤ maxDimensions + 1) : n < UInt64.size :=
  Nat.lt_of_le_of_lt h (by decide)

end JvmTypes
