import JvmTypes.ArrayPool.Basic
import JvmTypes.Workspace.Bindings
import JvmTypes.Workspace.Command
/-!
# Workspaces

Types, declarations and pools under names, with the serial numbers for the next fresh platform
and the next declaration. Looking a name up either finds what it stands for or says what is
missing.
-/

namespace JvmTypes

structure Workspace where
  types : Bindings JavaType
  declarations : Bindings Declaration
  pools : Bindings ArrayPool
  nextPlatform : Nat
  nextDeclaration : Nat

def required {α : Type} (missing : CommandError) : Option α → Except CommandError α
  | some value => .ok value
  | none => .error missing

namespace Workspace

def empty : Workspace := ⟨.empty, .empty, .empty, 0, 0⟩

/-! ## Looking up -/

def typeNamed (w : Workspace) (name : String) : Except CommandError JavaType :=
  required (.unknownType name) (w.types.get? name)

def declarationNamed (w : Workspace) (name : String) : Except CommandError Declaration :=
  required (.unknownDeclaration name) (w.declarations.get? name)

def poolNamed (w : Workspace) (name : String) : Except CommandError ArrayPool :=
  required (.unknownPool name) (w.pools.get? name)

def classNamed (w : Workspace) (name : String) : Except CommandError ClassType := do
  let t ← w.typeNamed name
  required (.notAClass name) t.asClass?

def memberOf (w : Workspace) (name : String) (role : MemberRole) :
    Except CommandError Member := do
  let cls ← w.classNamed name
  required (.noMember role) (cls.member? role)

/-! ## Binding -/

def setType (w : Workspace) (name : String) (t : JavaType) : Workspace :=
  { w with types := w.types.bind name t }

def setPool (w : Workspace) (name : String) (pool : ArrayPool) : Workspace :=
  { w with pools := w.pools.bind name pool }

end Workspace

end JvmTypes
