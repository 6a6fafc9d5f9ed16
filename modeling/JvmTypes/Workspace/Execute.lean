import JvmTypes.Distinct
import JvmTypes.Workspace.Basic
/-!
# Executing commands

What a workspace answers to a command, the workspace afterwards, and what was logged on the way.
A command that refers to something missing changes nothing.
-/

namespace JvmTypes

structure Step where
  answer : Except CommandError Answer
  workspace : Workspace
  log : List Log.Event

namespace Workspace

def answered (w : Workspace) (answer : Answer) : Step := ⟨.ok answer, w, []⟩

def failed (w : Workspace) (error : CommandError) : Step := ⟨.error error, w, []⟩

def put (w : Workspace) (name : String) (t : JavaType) : Step :=
  ⟨.ok (.stored t.display), w.setType name t, []⟩

/-! ## Pools and platforms -/

def newPool (w : Workspace) (choice : PlatformChoice) (name : String) :
    Except CommandError Step :=
  match choice with
  | .shared => .ok ⟨.ok (.size 0), w.setPool name (.empty .shared), []⟩
  | .fresh =>
    let platform := Platform.fresh w.nextPlatform
    let next := { w with nextPlatform := w.nextPlatform + 1 }
    .ok ⟨.ok (.size 0), next.setPool name (.empty platform), []⟩
  | .ofPool other => do
    let pool ← w.poolNamed other
    pure ⟨.ok (.size 0), w.setPool name (.empty pool.platform), []⟩

def poolSize (w : Workspace) (name : String) : Except CommandError Step := do
  let pool ← w.poolNamed name
  pure (w.answered (.size pool.size))

def platformClass (w : Workspace) (poolName : String) (which : PlatformClass) (name : String) :
    Except CommandError Step := do
  let pool ← w.poolNamed poolName
  pure (w.put name (pool.platform.type which))

def platformInterfaces (w : Workspace) (poolName : String) : Except CommandError Step := do
  let pool ← w.poolNamed poolName
  pure (w.answered (.interfaces (pool.platform.arrayInterfaces.map JavaType.display)))

/-! ## Making types -/

/-- A pool may be named with a primitive type; the type is the same with any. -/
def primitive (w : Workspace) (keyword : String) (poolName : Option String) (name : String) :
    Except CommandError Step := do
  let kind ← required (.unknownPrimitive keyword) (Primitive.ofKeyword? keyword)
  let _ ← poolName.mapM w.poolNamed
  pure (w.put name (.primitive kind))

def declare (w : Workspace) (binaryName : String) (clauses : List (Clause String))
    (name : String) : Except CommandError Step := do
  let clauses ← clauses.mapM (Clause.resolve w.typeNamed)
  let decl := Declaration.ofClauses (.source w.nextDeclaration) binaryName clauses
  let cls := ClassType.declared decl
  let next := { w.setType name (.ofClass cls) with
    declarations := w.declarations.bind name decl
    nextDeclaration := w.nextDeclaration + 1 }
  let t := JavaType.ofClass cls
  pure ⟨.ok (.declared t.report cls.report decl.kind decl.nesting), next, t.loadingEvents⟩

/-- The runtime class that a specification means, if any, and what is logged if there is none. -/
def runtimeClassOf (spec : Option RuntimeClass.Spec) :
    Except CommandError (Option RuntimeClass × List Log.Event) :=
  match spec with
  | none => .ok (none, [])
  | some spec =>
    match spec.resolve with
    | .error missing => .error (.unknownPrimitive missing.keyword)
    | .ok (.ok cls) => .ok (some cls, [])
    | .ok (.error cause) => .ok (none, cause.events)

def connections (w : Workspace) (spec : ExternalSpec) :
    Except CommandError (Option JavaType × Option JavaType) := do
  let component ← spec.component.mapM w.typeNamed
  let superclass ← spec.superclass.mapM w.typeNamed
  pure (component, superclass)

/-- The runtime class comes first, so that its events stay if a connection is missing. -/
def describeExternal (w : Workspace) (spec : ExternalSpec) (name : String) :
    Except CommandError Step := do
  let (runtimeClass, events) ← runtimeClassOf spec.runtimeClass
  let facts : ExternalFacts := {
    binaryName := spec.binaryName
    canonicalName := spec.canonicalName
    simpleName := spec.simpleName
    packageName := spec.packageName
    display := spec.display
    modifiers := spec.modifiers
    traits := spec.traits
    runtimeClass := runtimeClass }
  match w.connections spec with
  | .error missing => pure { w.failed missing with log := events }
  | .ok (component, superclass) =>
    let ext : ExternalClass := ⟨facts, component, superclass⟩
    pure { w.put name (.ofClass (.external ext)) with log := events }

def wrap (w : Workspace) (typeName name : String) : Except CommandError Step := do
  let cls ← w.classNamed typeName
  pure (w.put name (.ofClass cls))

/-- What the pool keeps of the attempt stays, also when there is no array type in the end. -/
def makeArray (w : Workspace) (making : MakingSpec) (poolName component name : String) :
    Except CommandError Step := do
  let pool ← w.poolNamed poolName
  let component ← w.typeNamed component
  let reply := pool.make component making.resolve
  let next := w.setPool poolName reply.pool
  match reply.result with
  | .ok t =>
    pure ⟨.ok (.arrayStored t.display reply.pool.size), next.setType name t, reply.log⟩
  | .error e => pure ⟨.ok (.arrayRefused e reply.pool.size), next, reply.log⟩

def target? (w : Workspace) (typeName : String) : Link → Except CommandError (Option JavaType)
  | .element => do
    let t ← w.typeNamed typeName
    pure t.element?
  | .ofClass link => do
    let cls ← w.classNamed typeName
    pure (cls.follow? link)

def follow (w : Workspace) (typeName : String) (link : Link) (name : String) :
    Except CommandError Step := do
  match ← w.target? typeName link with
  | some t => pure (w.put name t)
  | none => pure (w.answered .nothing)

/-! ## Describing -/

def describe (w : Workspace) (typeName : String) : Except CommandError Step := do
  let t ← w.typeNamed typeName
  let answer := Answer.described t.report t.variant (t.asClass?.map ClassType.report)
    (t.asArray?.map ArrayType.report)
  pure { w.answered answer with log := t.loadingEvents }

def dump (w : Workspace) (typeName : String) : Except CommandError Step := do
  let t ← w.typeNamed typeName
  pure (w.answered (.dumped t.dump))

def members (w : Workspace) (typeName : String) : Except CommandError Step := do
  let cls ← w.classNamed typeName
  pure (w.answered (.members cls.membersReport))

/-! ## Comparing -/

def compareDeclarations (w : Workspace) (a b : String) : Except CommandError Step := do
  let a ← w.declarationNamed a
  let b ← w.declarationNamed b
  pure (w.answered (.declarationsCompared (a == b) (distinctCount [a, b])))

/-- Two types without runtime classes agree in that. -/
def compare (w : Workspace) (a b : String) : Except CommandError Step := do
  let a ← w.typeNamed a
  let b ← w.typeNamed b
  let sameRuntimeClass := a.runtimeClass.toOption == b.runtimeClass.toOption
  pure { w.answered (.compared (a == b) sameRuntimeClass) with
    log := a.loadingEvents ++ b.loadingEvents }

def compareInterfaces (w : Workspace) (a b : String) : Except CommandError Step := do
  let a ← w.classNamed a
  let b ← w.classNamed b
  pure (w.answered (.interfacesCompared (a.interfaces.isSameList b.interfaces)
    (a.interfaces.types == b.interfaces.types)))

def compareMembers (w : Workspace) (a : String) (aRole : MemberRole) (b : String)
    (bRole : MemberRole) : Except CommandError Step := do
  let a ← w.memberOf a aRole
  let b ← w.memberOf b bRole
  pure (w.answered (.membersCompared (a == b) (a.sameKind? b)))

def distinct (w : Workspace) (names : List String) : Except CommandError Step := do
  let types ← names.mapM w.typeNamed
  pure (w.answered (.distinct (novelty types) (distinctCount types)))

def distinctMembers (w : Workspace) (group : MemberGroup) (names : List String) :
    Except CommandError Step := do
  let types ← names.mapM w.typeNamed
  let found := types.flatMap (·.members group)
  pure (w.answered (.membersDistinct found.length (distinctCount found)))

/-! ## Commands -/

def attempt (w : Workspace) : Command → Except CommandError Step
  | .newPool choice name => w.newPool choice name
  | .poolSize pool => w.poolSize pool
  | .platformClass pool which name => w.platformClass pool which name
  | .platformInterfaces pool => w.platformInterfaces pool
  | .primitive keyword pool name => w.primitive keyword pool name
  | .declare binaryName clauses name => w.declare binaryName clauses name
  | .compareDeclarations a b => w.compareDeclarations a b
  | .describeExternal spec name => w.describeExternal spec name
  | .wrap type name => w.wrap type name
  | .makeArray making pool component name => w.makeArray making pool component name
  | .follow type link name => w.follow type link name
  | .describe type => w.describe type
  | .dump type => w.dump type
  | .members type => w.members type
  | .compare a b => w.compare a b
  | .compareInterfaces a b => w.compareInterfaces a b
  | .compareMembers a aRole b bRole => w.compareMembers a aRole b bRole
  | .distinct types => w.distinct types
  | .distinctMembers group types => w.distinctMembers group types

def execute (w : Workspace) (command : Command) : Step :=
  match w.attempt command with
  | .ok step => step
  | .error missing => w.failed missing

def executeAll (w : Workspace) : List Command → List Step
  | [] => []
  | command :: rest =>
    let step := w.execute command
    step :: step.workspace.executeAll rest

end Workspace

end JvmTypes
