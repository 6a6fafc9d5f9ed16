import JvmTypes.Declaration.Clause
import JvmTypes.Proofs.ArrayPool.Growth
import JvmTypes.Proofs.JavaType.Answers
/-!
# Kept array types and new ones

A pool may hand out an array type that it made for another component, over arrays of other
platforms and over another class of the same name. Where a binary name decides what a class
answers, nobody can tell it from the array type that would be made anew (`kept_interchangeable`):
the component of either is the same type, and the platform is that of the pool.
-/

namespace JvmTypes

/-- No question tells one array type from the other. -/
structure ArrayType.Interchangeable (a b : ArrayType) : Prop where
  same : (a == b) = true
  answers : (JavaType.array a).answers = (JavaType.array b).answers
  binaryName : a.binaryName = b.binaryName
  dimensions : a.dimensions = b.dimensions
  elementType : (a.elementType == b.elementType) = true
  superclass : a.superclass = b.superclass
  interfaces : a.interfaces.isSameList b.interfaces = true
  fields : ((ClassType.ofArray a).fields == (ClassType.ofArray b).fields) = true
  methods : ((ClassType.ofArray a).methods == (ClassType.ofArray b).methods) = true
  constructors :
    ((ClassType.ofArray a).constructors == (ClassType.ofArray b).constructors) = true
  parameters : ((ClassType.ofArray a).constructors.flatMap Executable.parameters ==
    (ClassType.ofArray b).constructors.flatMap Executable.parameters) = true

theorem InterfaceList.isSameList_self {list : InterfaceList} (h : list.owner.isSome = true) :
    list.isSameList list = true := by
  rw [isSameList, h, beq_self_eq_true, Bool.and_true]

/-- Array types over one platform are interchangeable if their components are the same type and
the classes under them answer alike. -/
theorem ArrayType.interchangeable_of_beq {a b : ArrayType} (hplatform : a.platform = b.platform)
    (hsame : (a.component == b.component) = true) (ha : a.component.HidesNoArray)
    (hb : b.component.HidesNoArray) (halike : a.component.ClassesAnswerAlike b.component) :
    a.Interchangeable b := by
  have harray : (a == b) = true := by
    rw [← JavaType.array_beq_array] at hsame
    exact hsame
  have htype : SameType (.array a) (.array b) := JavaType.sameType_of_beq harray
  have hplainA : (JavaType.array a).HidesNoArray := JavaType.restsOn_array.2 ha
  have hplainB : (JavaType.array b).HidesNoArray := JavaType.restsOn_array.2 hb
  have hmember : (([a] : List ArrayType) == [b]) = true := by
    simpa using harray
  exact {
    same := harray
    answers :=
      JavaType.answers_eq htype hplainA hplainB (JavaType.classesAnswerAlike_array.2 halike)
    binaryName := htype.binaryName_eq
    dimensions := hplainA.dimensions_eq_of_beq hplainB harray
    elementType := hplainA.leaf_beq_of_beq hplainB harray
    superclass := by rw [superclass, superclass, hplatform]
    interfaces := by
      rw [interfaces, interfaces, hplatform]
      exact InterfaceList.isSameList_self rfl
    fields := hmember
    methods := hmember
    constructors := hmember
    parameters := hmember }

namespace ArrayPool

variable {pool : ArrayPool} {component : JavaType} {types : List JavaType}

/-- The class lies under one of the types. -/
def Under (types : List JavaType) (cls : ClassType) : Prop :=
  ∃ t ∈ types, cls ∈ t.elementClass?

/-- Classes of one binary name under the types answer alike. -/
def NamesDecide (types : List JavaType) : Prop :=
  ∀ a b, Under types a → Under types b → a.binaryName = b.binaryName →
    (JavaType.ofClass a).answers = (JavaType.ofClass b).answers

theorem restsOn_under {t : JavaType} (h : t ∈ types) : t.RestsOn (Under types) :=
  fun _ hcls => ⟨t, h, hcls⟩

theorem arrayOf_interchangeable (hplain : pool.RestsOn ClassType.ClaimsNoArray)
    (hunder : pool.RestsOn (Under types)) (hcomponent : component.HidesNoArray)
    (hmem : component ∈ types) (hnames : NamesDecide types) {t u : JavaType}
    (hkept : (pool.arrayOf component).result = .ok t)
    (hfresh : (pool.makeLoose component).result = .ok u) :
    ∃ kept fresh : ArrayType,
      t = .array kept ∧ u = .array fresh ∧ kept.Interchangeable fresh := by
  obtain ⟨kept, rfl, hfind⟩ := find?_of_arrayOf_eq_ok hkept
  obtain ⟨fresh, rfl, hmake⟩ := result_makeLoose_eq_ok_iff.1 hfresh
  obtain ⟨_, _, rfl⟩ := ArrayType.ofComponent_eq_ok_iff.1 hmake
  refine ⟨kept, _, rfl, rfl, ?_⟩
  have hafter := hplain.arrayOf hcomponent
  have hafterUnder := hunder.arrayOf (restsOn_under hmem)
  obtain ⟨_, hsame⟩ := hafter.eq_of_find? hfind
  have hplatform : kept.platform = pool.platform := by
    rw [← platform_arrayOf pool component]
    exact hafter.platform_of_find? hfind
  refine ArrayType.interchangeable_of_beq hplatform hsame (hafter.of_find? hfind) hcomponent ?_
  intro a ha b hb
  exact hnames a b (hafterUnder.of_find? hfind a ha) (restsOn_under hmem b hb)

/-- **Kept array types answer like new ones.** Let requests to an empty pool and one more
component be about types that hide no array, where classes of one binary name answer alike. If a
call for the component succeeds, and so does the plain making of an array type over it, then both
array types are interchangeable, also where the call found what was made for another
component. -/
theorem kept_interchangeable (platform : Platform) {requests : List ArrayRequest}
    {component : JavaType} (hrequests : ∀ request ∈ requests, request.component.HidesNoArray)
    (hcomponent : component.HidesNoArray)
    (hnames : NamesDecide (component :: requests.map ArrayRequest.component)) {t u : JavaType}
    (hkept : (((empty platform).after requests).arrayOf component).result = .ok t)
    (hfresh : (((empty platform).after requests).makeLoose component).result = .ok u) :
    ∃ kept fresh : ArrayType,
      t = .array kept ∧ u = .array fresh ∧ kept.Interchangeable fresh := by
  have hplain : ((empty platform).after requests).RestsOn ClassType.ClaimsNoArray :=
    (restsOn_empty platform _).after hrequests
  have hunder : ((empty platform).after requests).RestsOn
      (Under (component :: requests.map ArrayRequest.component)) := by
    refine (restsOn_empty platform _).after fun request hmem => restsOn_under ?_
    exact List.mem_cons_of_mem _ (List.mem_map_of_mem hmem)
  exact arrayOf_interchangeable hplain hunder hcomponent List.mem_cons_self hnames hkept hfresh

/-- Two declarations of one name, each under an array of a platform of its own: asked for an
array type over the second, a pool hands out the one it made over the first. -/
theorem kept_interchangeable_two_declarations :
    let first : JavaType := .ofClass (.declared (.ofClauses (.source 0) "p.A" []))
    let second : JavaType := .ofClass (.declared (.ofClauses (.source 1) "p.A"
      [.superclass (Platform.shared.type .object), .typeParameter "T"]))
    let asked := first.withDims (.fresh 1) 1
    let component := second.withDims (.fresh 2) 1
    let pool := (empty .shared).after [.arrayOf asked]
    asked.HidesNoArray ∧ component.HidesNoArray ∧ NamesDecide [component, asked] ∧
      (pool.arrayOf component).result = .ok (.array ⟨.shared, asked, .kept 0⟩) ∧
      (pool.makeLoose component).result = .ok (.array ⟨.shared, component, .loose⟩) ∧
      ArrayType.Interchangeable ⟨.shared, asked, .kept 0⟩ ⟨.shared, component, .loose⟩ := by
  intro first second asked component pool
  have hfirst : first.HidesNoArray := JavaType.hidesNoArray_declared _
  have hsecond : second.HidesNoArray := JavaType.hidesNoArray_declared _
  have hasked : asked.HidesNoArray := hfirst.withDims _ 1
  have hcomponent : component.HidesNoArray := hsecond.withDims _ 1
  have hrequests : ∀ request ∈ [ArrayRequest.arrayOf asked], request.component.HidesNoArray :=
    List.forall_mem_singleton.2 hasked
  have hnames : NamesDecide [component, asked] := by
    have hunder : ∀ cls, Under [component, asked] cls →
        (JavaType.ofClass cls).answers = first.answers := by
      rintro cls ⟨t, ht, hcls⟩
      rcases List.mem_cons.1 ht with rfl | ht
      · obtain rfl := Option.some.inj hcls
        rfl
      · rw [List.mem_singleton.1 ht] at hcls
        obtain rfl := Option.some.inj hcls
        rfl
    intro a b ha hb _
    rw [hunder a ha, hunder b hb]
  have hkept : (pool.arrayOf component).result = .ok (.array ⟨.shared, asked, .kept 0⟩) := rfl
  have hfresh : (pool.makeLoose component).result =
      .ok (.array ⟨.shared, component, .loose⟩) := rfl
  obtain ⟨kept, fresh, rkept, rfresh, hsame⟩ :=
    kept_interchangeable .shared hrequests hcomponent hnames hkept hfresh
  obtain rfl := JavaType.array.inj rkept
  obtain rfl := JavaType.array.inj rfresh
  exact ⟨hasked, hcomponent, hnames, hkept, hfresh, hsame⟩

end ArrayPool

end JvmTypes
