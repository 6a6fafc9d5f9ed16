import JvmTypes.Modifiers.Basic
/-!
# The text of a modifier word

`keywords` lists the keywords of a word in the order of writing, `text` joins them by single
spaces, and `dump` shows every bit: the named flags by increasing bit, then one hexadecimal
number for all bits without a name.
-/

namespace JvmTypes.Modifiers

def keywords (m : Modifiers) : List String :=
  (Flag.keywordOrder.filter fun entry => m.has entry.1).map (·.2)

def text (m : Modifiers) : String :=
  " ".intercalate m.keywords

def hexText (n : Nat) : String :=
  "0x" ++ String.ofList (Nat.toDigits 16 n)

def dumpParts (m : Modifiers) : List String :=
  m.flags.map Flag.name ++
    if m.unnamed.isEmpty then [] else [hexText m.unnamed.bits.toNat]

def dump (m : Modifiers) : String :=
  let shown := if m.isEmpty then hexText 0 else " | ".intercalate m.dumpParts
  "Modifiers(" ++ shown ++ ")"

end JvmTypes.Modifiers
