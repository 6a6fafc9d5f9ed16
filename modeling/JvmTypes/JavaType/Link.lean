import JvmTypes.JavaType.Nested
import JvmTypes.Member
/-!
# Links between types

The ways from one type to another, each as a value, so that a way can be named and followed.
-/

namespace JvmTypes

inductive ClassLink where
  | component
  | superclass
  | enclosing
  /-- The class itself as a type, which turns an array in the place of a class into an array. -/
  | asType
  | interface (index : Nat)
  /-- The class around a member. -/
  | ownerOf (role : MemberRole)

inductive Link where
  /-- To the innermost type of an array. -/
  | element
  | ofClass (link : ClassLink)

namespace ClassType

def follow? (cls : ClassType) : ClassLink → Option JavaType
  | .component => cls.component?
  | .superclass => cls.superclass?
  | .enclosing => cls.enclosing?
  | .asType => some cls.toType
  | .interface index => cls.interfaces.types[index]?
  | .ownerOf role => (cls.member? role).map Member.enclosingType

end ClassType

namespace JavaType

/-- The innermost type of a type that is an array. -/
def element? (t : JavaType) : Option JavaType :=
  t.asArray?.map ArrayType.elementType

end JavaType

end JvmTypes
