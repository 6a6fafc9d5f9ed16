import JvmTypes.JavaType.Basic
/-!
# Declarations from clauses

A declaration is described by its binary name and a list of clauses. A later clause of one sort
takes the place of an earlier one, except that interfaces and type parameters add up. Clauses
refer to types in any way (`τ`); `resolve` looks the references up.
-/

namespace JvmTypes

inductive Clause (τ : Type) where
  | modifiers (given : Modifiers)
  | kind (k : ClassKind)
  | memberOf (outer : τ)
  | localIn (outer : τ)
  | anonymousIn (outer : τ)
  | superclass (type : τ)
  | interface (type : τ)
  | typeParameter (name : String)
  | canonicalName (name : Option String)
  | loadable
  | unresolved

namespace Clause

def resolve {ε σ τ : Type} (look : σ → Except ε τ) : Clause σ → Except ε (Clause τ)
  | .modifiers given => .ok (.modifiers given)
  | .kind k => .ok (.kind k)
  | .memberOf outer => (look outer).map .memberOf
  | .localIn outer => (look outer).map .localIn
  | .anonymousIn outer => (look outer).map .anonymousIn
  | .superclass type => (look type).map .superclass
  | .interface type => (look type).map .interface
  | .typeParameter name => .ok (.typeParameter name)
  | .canonicalName name => .ok (.canonicalName name)
  | .loadable => .ok .loadable
  | .unresolved => .ok .unresolved

end Clause

namespace Declaration

def plain (origin : Origin) (binaryName : String) : Declaration where
  origin := origin
  binaryName := binaryName
  naming := .derived
  givenModifiers := .empty
  kind := .plain
  nesting := .topLevel
  superclass := none
  interfaces := []
  typeParameters := []
  loadable := false
  unresolved := false

def apply (decl : Declaration) : Clause JavaType → Declaration
  | .modifiers given => { decl with givenModifiers := given }
  | .kind k => { decl with kind := k }
  | .memberOf outer => { decl with nesting := .memberOf outer }
  | .localIn outer => { decl with nesting := .localIn outer }
  | .anonymousIn outer => { decl with nesting := .anonymousIn outer }
  | .superclass type => { decl with superclass := some type }
  | .interface type => { decl with interfaces := decl.interfaces ++ [type] }
  | .typeParameter name => { decl with typeParameters := decl.typeParameters ++ [name] }
  | .canonicalName name => { decl with naming := .given name }
  | .loadable => { decl with loadable := true }
  | .unresolved => { decl with unresolved := true }

/-- The declaration that a binary name and its clauses describe. -/
def ofClauses (origin : Origin) (binaryName : String) (clauses : List (Clause JavaType)) :
    Declaration :=
  clauses.foldl apply (plain origin binaryName)

end Declaration

end JvmTypes
