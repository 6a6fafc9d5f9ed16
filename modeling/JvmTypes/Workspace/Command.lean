import JvmTypes.ArrayPool.Request
import JvmTypes.Declaration.Clause
import JvmTypes.JavaType.Link
import JvmTypes.RuntimeClass.Walk
import JvmTypes.Workspace.Report
/-!
# Commands and answers

A workspace is driven by commands, which refer to types and pools by name. Each is answered by
what it found or made, or by the first thing that it refers to and that is not there.
-/

namespace JvmTypes

inductive PlatformChoice where
  | shared
  | fresh
  /-- The platform of another pool. -/
  | ofPool (pool : String)

/-- A class described from outside as it is written, with names in the place of types. -/
structure ExternalSpec where
  binaryName : String
  canonicalName : Option String
  simpleName : String
  packageName : String
  display : String
  modifiers : Modifiers
  traits : List Trait
  runtimeClass : Option RuntimeClass.Spec
  component : Option String
  superclass : Option String

/-- How a pool is to make an array type, with a number as it is written. -/
inductive MakingSpec where
  | kept
  | keptDims (count : Nat)
  | loose

namespace MakingSpec

def resolve : MakingSpec → ArrayMaking
  | .kept => .kept
  | .keptDims count => .keptDims (.ofNat count)
  | .loose => .loose

end MakingSpec

inductive Command where
  | newPool (choice : PlatformChoice) (name : String)
  | poolSize (pool : String)
  | platformClass (pool : String) (which : PlatformClass) (name : String)
  | platformInterfaces (pool : String)
  | primitive (keyword : String) (pool : Option String) (name : String)
  | declare (binaryName : String) (clauses : List (Clause String)) (name : String)
  | compareDeclarations (a b : String)
  | describeExternal (spec : ExternalSpec) (name : String)
  /-- Put the class of a type, or an array in the place of a class, under a name. -/
  | wrap (type name : String)
  | makeArray (making : MakingSpec) (pool component name : String)
  | follow (type : String) (link : Link) (name : String)
  | describe (type : String)
  | dump (type : String)
  | members (type : String)
  | compare (a b : String)
  | compareInterfaces (a b : String)
  | compareMembers (a : String) (aRole : MemberRole) (b : String) (bRole : MemberRole)
  | distinct (types : List String)
  | distinctMembers (group : MemberGroup) (types : List String)

inductive CommandError where
  | unknownType (name : String)
  | unknownDeclaration (name : String)
  | unknownPool (name : String)
  | unknownPrimitive (keyword : String)
  /-- A primitive type where a class is needed. -/
  | notAClass (name : String)
  | noMember (role : MemberRole)

namespace CommandError

def message : CommandError → String
  | .unknownType name => name
  | .unknownDeclaration name => name
  | .unknownPool name => name
  | .unknownPrimitive keyword => keyword
  | .notAClass name => name
  | .noMember role => role.name

end CommandError

inductive Answer where
  | size (count : Nat)
  | interfaces (displays : List String)
  /-- A type is now under the name asked for. -/
  | stored (display : String)
  /-- There is no type to be put under the name. -/
  | nothing
  | arrayStored (display : String) (poolSize : Nat)
  | arrayRefused (error : ArrayError) (poolSize : Nat)
  | declared (type : TypeReport) (cls : ClassReport) (kind : ClassKind) (nesting : Nesting)
  | declarationsCompared (equal : Bool) (distinct : Nat)
  | described (type : TypeReport) (variant : Variant) (cls : Option ClassReport)
      (arr : Option ArrayReport)
  | dumped (text : String)
  | members (report : MembersReport)
  | compared (equal sameRuntimeClass : Bool)
  | interfacesCompared (sameList equal : Bool)
  /-- The second comparison is only made between members of one kind. -/
  | membersCompared (equal : Bool) (ofOneKind : Option Bool)
  | distinct (new : List Bool) (count : Nat)
  | membersDistinct (total count : Nat)

end JvmTypes
