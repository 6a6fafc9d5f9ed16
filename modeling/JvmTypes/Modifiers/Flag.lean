/-!
# Modifier flags

The fifteen named flags of a declaration, each with its bit in a modifier word and its name.
Twelve of them are keywords of the source language; `keywordOrder` is the order in which these
are written.
-/

namespace JvmTypes

inductive Flag where
  | publicAccess
  | privateAccess
  | protectedAccess
  | static
  | final
  | synchronized
  | volatile
  | transient
  | native
  | interface
  | abstract
  | strict
  | synthetic
  | annotationType
  | enumType
deriving DecidableEq

namespace Flag

def all : List Flag :=
  [.publicAccess, .privateAccess, .protectedAccess, .static, .final, .synchronized, .volatile,
    .transient, .native, .interface, .abstract, .strict, .synthetic, .annotationType, .enumType]

def mask : Flag → UInt32
  | .publicAccess => 0x0001
  | .privateAccess => 0x0002
  | .protectedAccess => 0x0004
  | .static => 0x0008
  | .final => 0x0010
  | .synchronized => 0x0020
  | .volatile => 0x0040
  | .transient => 0x0080
  | .native => 0x0100
  | .interface => 0x0200
  | .abstract => 0x0400
  | .strict => 0x0800
  | .synthetic => 0x1000
  | .annotationType => 0x2000
  | .enumType => 0x4000

def name : Flag → String
  | .publicAccess => "PUBLIC"
  | .privateAccess => "PRIVATE"
  | .protectedAccess => "PROTECTED"
  | .static => "STATIC"
  | .final => "FINAL"
  | .synchronized => "SYNCHRONIZED"
  | .volatile => "VOLATILE"
  | .transient => "TRANSIENT"
  | .native => "NATIVE"
  | .interface => "INTERFACE"
  | .abstract => "ABSTRACT"
  | .strict => "STRICT"
  | .synthetic => "SYNTHETIC"
  | .annotationType => "ANNOTATION"
  | .enumType => "ENUM"

/-- The flags that a declaration can spell out, with their keywords, in the order of writing. -/
def keywordOrder : List (Flag × String) :=
  [(.publicAccess, "public"), (.protectedAccess, "protected"), (.privateAccess, "private"),
    (.abstract, "abstract"), (.static, "static"), (.final, "final"), (.transient, "transient"),
    (.volatile, "volatile"), (.synchronized, "synchronized"), (.native, "native"),
    (.strict, "strictfp"), (.interface, "interface")]

end Flag

end JvmTypes
