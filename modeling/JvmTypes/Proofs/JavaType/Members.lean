import JvmTypes.Declaration.Clause
import JvmTypes.Member
import JvmTypes.Proofs.JavaType.Sameness
/-!
# Whose member a member is

A member is its sort and the array type that owns it, and nothing else: comparing two members, as
members of any kind or as members of one, comes down to comparing these two (`Member.beq_iff`). A
class lists members of the array that it stands for only, which is no longer the type that was
asked where an array takes the place of a class.
-/

namespace JvmTypes

namespace Member

def sort : Member → MemberSort
  | .field _ => .length
  | .executable (.clone _) => .clone
  | .executable (.constructor _) => .constructor
  | .parameter _ => .constructorParameter

def group : Member → MemberGroup
  | .field _ => .fields
  | .executable _ => .executables
  | .parameter _ => .parameters

def owner : Member → ArrayType
  | .field f => f.owner
  | .executable e => e.owner
  | .parameter p => p.owner

theorem digest_eq (m : Member) : m.digest = (m.sort, m.owner.digest) := by
  rcases m with f | (arr | arr) | p <;> rfl

theorem enclosingType_eq (m : Member) : m.enclosingType = .array m.owner := by
  rcases m with f | e | p <;> rfl

theorem beq_iff {m k : Member} :
    (m == k) = true ↔ m.sort = k.sort ∧ (m.owner == k.owner) = true := by
  have hsame : (m == k) = m.same k := rfl
  rw [hsame]
  -- four pairs of one sort are left to compare owners; the others are told apart before that
  rcases m with f | (a | a) | p <;> rcases k with g | (b | b) | q
  all_goals simp [same, sameKind?, sort]
  all_goals rfl

theorem sameKind?_eq (m k : Member) :
    m.sameKind? k = if m.group = k.group then some (m == k) else none := by
  rcases m with f | e | p <;> rcases k with g | e' | q <;> rfl

theorem digest_eq_of_beq {m k : Member} (h : (m == k) = true) : m.digest = k.digest := by
  obtain ⟨hsort, howner⟩ := beq_iff.1 h
  rw [digest_eq, digest_eq, hsort, ArrayType.beq_iff.1 howner]

end Member

namespace ClassType

variable {cls : ClassType} {m : Member} {group : MemberGroup}

theorem eq_ofArray_of_mem_members (h : m ∈ cls.members group) :
    cls = .ofArray m.owner ∧ m.group = group := by
  cases cls with
  | declared decl => cases group <;> simp [members, fields, methods, constructors] at h
  | external ext => cases group <;> simp [members, fields, methods, constructors] at h
  | ofArray arr =>
      cases group with
      | fields =>
          obtain rfl : m = .field ⟨arr⟩ := by simpa [members, fields] using h
          exact ⟨rfl, rfl⟩
      | executables =>
          obtain rfl | rfl :
              m = .executable (.clone arr) ∨ m = .executable (.constructor arr) := by
            simpa [members, methods, constructors] using h
          · exact ⟨rfl, rfl⟩
          · exact ⟨rfl, rfl⟩
      | parameters =>
          obtain rfl : m = .parameter ⟨arr⟩ := by
            simpa [members, constructors, Executable.parameters] using h
          exact ⟨rfl, rfl⟩

theorem toType_of_mem_members (h : m ∈ cls.members group) : cls.toType = .array m.owner := by
  rw [(eq_ofArray_of_mem_members h).1]
  rfl

end ClassType

namespace Executable

theorem arity_eq (e : Executable) : e.arity = e.parameters.length := by
  cases e <;> rfl

theorem declaring_of_mem_parameters {e : Executable} {p : Parameter} (h : p ∈ e.parameters) :
    p.declaring = e := by
  cases e with
  | clone arr => simp [parameters] at h
  | constructor arr =>
      rw [List.mem_singleton.1 h]
      rfl

end Executable

instance : ReflBEq Executable where
  rfl {e} := by
    cases e with
    | clone arr => exact BEq.refl arr
    | constructor arr => exact BEq.refl arr

namespace Member

/-- **Members of one array type.** The class around a member is the type that the class listing
it stands for, an executable has as many parameters as it says, and each parameter names the
executable that lists it. Two members, of whatever classes, are equal exactly if they are of one
sort and their classes stand for the same type, also when they are compared as members of one
kind, which those of one group can be. Equal members have one digest. No method is equal to a
constructor. -/
theorem members_belong_to_one_array :
    (∀ (cls : ClassType) group m, m ∈ cls.members group →
      (m.enclosingType == cls.toType) = true) ∧
    (∀ (cls : ClassType) e, e ∈ cls.methods ++ cls.constructors →
      e.arity = e.parameters.length ∧ ∀ p ∈ e.parameters, (p.declaring == e) = true) ∧
    (∀ (c d : ClassType) group other m k, m ∈ c.members group → k ∈ d.members other →
      ((m == k) = true ↔ m.sort = k.sort ∧ (c.toType == d.toType) = true) ∧
      m.sameKind? k = (if group = other then some (m == k) else none) ∧
      ((m == k) = true → m.digest = k.digest ∧ hash m = hash k)) ∧
    (∀ (c d : ClassType) method constructor, method ∈ c.methods →
      constructor ∈ d.constructors → (method == constructor) = false) := by
  refine ⟨?_, ?_, ?_, ?_⟩
  · intro cls group m hm
    rw [m.enclosingType_eq, ClassType.toType_of_mem_members hm]
    exact BEq.refl _
  · intro cls e _
    refine ⟨e.arity_eq, fun p hp => ?_⟩
    rw [Executable.declaring_of_mem_parameters hp]
    exact BEq.refl e
  · intro c d group other m k hm hk
    refine ⟨?_, ?_, fun hsame => ?_⟩
    · have howners : (c.toType == d.toType) = (m.owner == k.owner) := by
        rw [ClassType.toType_of_mem_members hm, ClassType.toType_of_mem_members hk]
        rfl
      rw [howners]
      exact beq_iff
    · rw [sameKind?_eq, (ClassType.eq_ofArray_of_mem_members hm).2,
        (ClassType.eq_ofArray_of_mem_members hk).2]
    · have hdigest := digest_eq_of_beq hsame
      exact ⟨hdigest, congrArg hashOfMemberDigest hdigest⟩
  · intro c d method constructor hmethod hconstructor
    cases c with
    | declared decl => contradiction
    | external ext => contradiction
    | ofArray a =>
        cases d with
        | declared decl => contradiction
        | external ext => contradiction
        | ofArray b =>
            rw [List.mem_singleton.1 hmethod, List.mem_singleton.1 hconstructor]
            rfl

/-- Arrays over two declarations of one name, the second in the place of a class. Its members
belong to the array and not to the class in its place, and equal those of the first. -/
theorem members_belong_to_one_array_in_place_of_class :
    let one : JavaType := .ofClass (.declared (.ofClauses (.source 0) "p.A" []))
    let other : JavaType :=
      .ofClass (.declared (.ofClauses (.source 1) "p.A" [.typeParameter "T"]))
    let a : ArrayType := ⟨.shared, one, .loose⟩
    let b : ArrayType := ⟨.fresh 1, other, .kept 0⟩
    let hidden : JavaType := .ofClass (.ofArray b)
    let m : Member := .parameter ⟨a⟩
    let k : Member := .parameter ⟨b⟩
    hidden.asClass? = some (.ofArray b) ∧ m ∈ (ClassType.ofArray a).members .parameters ∧
      k ∈ (ClassType.ofArray b).members .parameters ∧ (k.enclosingType == hidden) = false ∧
      (k.enclosingType == (ClassType.ofArray b).toType) = true ∧ (m == k) = true ∧
      m.sameKind? k = some true ∧ m.digest = k.digest ∧
      (Executable.clone a == Executable.constructor b) = false := by
  intro one other a b hidden m k
  obtain ⟨henclosing, _, hcompare, hapart⟩ := members_belong_to_one_array
  have hm : m ∈ (ClassType.ofArray a).members .parameters := List.mem_singleton_self _
  have hk : k ∈ (ClassType.ofArray b).members .parameters := List.mem_singleton_self _
  obtain ⟨hsame_iff, hkind, hdigest⟩ := hcompare (.ofArray a) (.ofArray b) _ _ m k hm hk
  have htypes : ((ClassType.ofArray a).toType == (ClassType.ofArray b).toType) = true := by
    decide
  have hsame : (m == k) = true := hsame_iff.2 ⟨rfl, htypes⟩
  rw [if_pos rfl, hsame] at hkind
  have hmethod : Executable.clone a ∈ (ClassType.ofArray a).methods := List.mem_singleton_self _
  have hconstructor : Executable.constructor b ∈ (ClassType.ofArray b).constructors :=
    List.mem_singleton_self _
  exact ⟨rfl, hm, hk, rfl, henclosing _ _ k hk, hsame, hkind, (hdigest hsame).1,
    hapart _ _ _ _ hmethod hconstructor⟩

end Member

end JvmTypes
