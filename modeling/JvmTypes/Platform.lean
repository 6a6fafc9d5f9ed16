/-!
# Platforms

A platform is a set of the classes that every array type has above it. One set is shared by
default; any number of fresh sets can be made beside it, told apart by a serial number. The
classes of two sets are equal in content, so only the lists they hand out show which set is
meant.
-/

namespace JvmTypes

inductive Platform where
  | shared
  | fresh (serial : Nat)
deriving DecidableEq

inductive PlatformClass where
  | object
  | cloneable
  | serializable
deriving DecidableEq

namespace PlatformClass

def binaryName : PlatformClass → String
  | .object => "java.lang.Object"
  | .cloneable => "java.lang.Cloneable"
  | .serializable => "java.io.Serializable"

end PlatformClass

end JvmTypes
