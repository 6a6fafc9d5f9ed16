import JvmTypes.ArrayPool.Basic
import JvmTypes.ArrayPool.Request
import JvmTypes.Declaration.Clause
import JvmTypes.Dimensions
import JvmTypes.Distinct
import JvmTypes.JavaType.Basic
import JvmTypes.JavaType.Construction
import JvmTypes.JavaType.Identity
import JvmTypes.JavaType.IdentityLemmas
import JvmTypes.JavaType.Link
import JvmTypes.JavaType.Loading
import JvmTypes.JavaType.Name
import JvmTypes.JavaType.Nested
import JvmTypes.JavaType.Supertype
import JvmTypes.JavaType.Text
import JvmTypes.JavaType.Trait
import JvmTypes.Log.Event
import JvmTypes.Log.Format
import JvmTypes.Member
import JvmTypes.Modifiers.Basic
import JvmTypes.Modifiers.Flag
import JvmTypes.Modifiers.Text
import JvmTypes.Platform
import JvmTypes.Primitive
import JvmTypes.RuntimeClass.Basic
import JvmTypes.RuntimeClass.Name
import JvmTypes.RuntimeClass.Walk
import JvmTypes.Text.CodeRanges
import JvmTypes.Text.Extending
import JvmTypes.Text.Quoted
import JvmTypes.Text.Repeated
import JvmTypes.Text.Separated
import JvmTypes.Text.Shapeless
import JvmTypes.Workspace.Basic
import JvmTypes.Workspace.Bindings
import JvmTypes.Workspace.Command
import JvmTypes.Workspace.Execute
import JvmTypes.Workspace.Report
import JvmTypes.Proofs.ArrayPool.Lookup
import JvmTypes.Proofs.ArrayPool.Calls
import JvmTypes.Proofs.ArrayPool.Representation
import JvmTypes.Proofs.ArrayPool.Canonical
import JvmTypes.Proofs.ArrayPool.Refusal
import JvmTypes.Proofs.ArrayPool.Growth
import JvmTypes.Proofs.ArrayPool.Outcome
import JvmTypes.Proofs.ArrayPool.OrderIndependence
import JvmTypes.Proofs.JavaType.Built
import JvmTypes.Proofs.JavaType.DimensionLimit
import JvmTypes.Proofs.JavaType.Sameness
import JvmTypes.Proofs.JavaType.Levels
import JvmTypes.Proofs.JavaType.Answers
import JvmTypes.Proofs.ArrayPool.Interchange
import JvmTypes.Proofs.RuntimeClass.Dimensions
import JvmTypes.Proofs.JavaType.ArraysOver
import JvmTypes.Proofs.JavaType.Loaded
import JvmTypes.Proofs.JavaType.LoadedIdentity
import JvmTypes.Proofs.ArrayPool.Audit
import JvmTypes.Proofs.ArrayPool.Several
import JvmTypes.Proofs.JavaType.Members
import JvmTypes.Proofs.RuntimeClass.Homonyms
import JvmTypes.Proofs.ArrayPool.Stages
import JvmTypes.Proofs.RuntimeClass.Arising
import JvmTypes.Proofs.JavaType.Unloaded
import JvmTypes.Proofs.JavaType.DeclaredName
import JvmTypes.Proofs.JavaType.EnclosingChain
import JvmTypes.Proofs.JavaType.NamesAgree
import JvmTypes.Proofs.Modifiers.Bits
import JvmTypes.Proofs.Modifiers.Keywords
import JvmTypes.Proofs.JavaType.ArrayModifiers
import JvmTypes.Proofs.Declaration.ClauseOrder
