import JvmTypes.Text.Extending
import JvmTypes.Text.Shapeless
/-!
# Quoted text

Text between double quotes, for structural dumps. A quote or backslash inside gets a backslash; a
tab, line feed, carriage return or null is written by its letter; a character that shows nothing,
or that would attach to the one before it, is written by its code point.
-/

namespace JvmTypes.Text

def codePointEscape (c : Char) : List Char :=
  '\\' :: 'u' :: '{' :: Nat.toDigits 16 c.toNat ++ ['}']

/-- A character that needs its code point to be seen. -/
def isHidden (c : Char) : Bool :=
  if ' ' ≤ c && c ≤ '~' then false else extending.contains c || shapeless.contains c

def quotedChar (c : Char) : List Char :=
  if c = '\x00' then ['\\', '0']
  else if c = '\t' then ['\\', 't']
  else if c = '\r' then ['\\', 'r']
  else if c = '\n' then ['\\', 'n']
  else if c = '"' || c = '\\' then ['\\', c]
  else if isHidden c then codePointEscape c
  else [c]

def quoted (s : String) : String :=
  String.ofList ('"' :: s.toList.flatMap quotedChar ++ ['"'])

end JvmTypes.Text
