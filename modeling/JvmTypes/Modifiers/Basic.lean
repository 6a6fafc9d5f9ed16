import JvmTypes.Modifiers.Flag
/-!
# Modifier words

A modifier word is a set of flags in 32 bits. Bits without a name are kept by every operation of
the set except the complement, which has named bits only.
-/

namespace JvmTypes

structure Modifiers where
  bits : UInt32
deriving DecidableEq

namespace Modifiers

def empty : Modifiers := ⟨0⟩

def ofFlag (f : Flag) : Modifiers := ⟨f.mask⟩

instance : Coe Flag Modifiers := ⟨ofFlag⟩

instance : Union Modifiers := ⟨fun m n => ⟨m.bits ||| n.bits⟩⟩

instance : Inter Modifiers := ⟨fun m n => ⟨m.bits &&& n.bits⟩⟩

/-- The difference keeps what the first word has and the second has not, named or not. -/
instance : SDiff Modifiers := ⟨fun m n => ⟨m.bits &&& ~~~n.bits⟩⟩

def symmDiff (m n : Modifiers) : Modifiers := ⟨m.bits ^^^ n.bits⟩

def ofFlags (fs : List Flag) : Modifiers :=
  fs.foldl (fun m f => m ∪ ofFlag f) empty

def allNamed : Modifiers := ofFlags Flag.all

def contains (m n : Modifiers) : Bool := (m ∩ n) == n

def has (m : Modifiers) (f : Flag) : Bool := m.contains (ofFlag f)

def intersects (m n : Modifiers) : Bool := (m ∩ n) != empty

def isEmpty (m : Modifiers) : Bool := m == empty

def hasAllNamed (m : Modifiers) : Bool := m.contains allNamed

def named (m : Modifiers) : Modifiers := m ∩ allNamed

def unnamed (m : Modifiers) : Modifiers := m \ allNamed

/-- The word itself, if all its bits have names. -/
def known? (m : Modifiers) : Option Modifiers :=
  if m.unnamed.isEmpty then some m else none

def complement (m : Modifiers) : Modifiers := allNamed \ m

def flags (m : Modifiers) : List Flag := Flag.all.filter m.has

instance : Ord Modifiers := ⟨fun m n => compare m.bits n.bits⟩

@[simp] theorem bits_union (m n : Modifiers) : (m ∪ n).bits = m.bits ||| n.bits := rfl

@[simp] theorem bits_inter (m n : Modifiers) : (m ∩ n).bits = m.bits &&& n.bits := rfl

@[simp] theorem bits_sdiff (m n : Modifiers) : (m \ n).bits = m.bits &&& ~~~n.bits := rfl

@[simp] theorem bits_ofFlag (f : Flag) : (ofFlag f).bits = f.mask := rfl

end Modifiers

end JvmTypes
