import JvmTypes.Distinct
import JvmTypes.Proofs.ArrayPool.Calls
import Std.Data.HashSet.Lemmas
/-!
# What a pool represents

A well-formed pool keeps one entry for a type, and each entry is what the plain making of array
types gives for its component, under the number of its place. Every run from an empty pool leaves
a well-formed one. What it keeps follows from the calls that succeeded: the array type over the
first component that fits (`Chain.component_of_find?`), and one entry for each component that is
not the same type as an earlier one (`Chain.size_eq_distinctCount`).
-/

namespace JvmTypes

namespace ArrayPool

/-- No two keys are the same type, and the entries are array types over their keys, numbered from
the first to the last. -/
structure WellFormed (pool : ArrayPool) : Prop where
  distinct : pool.keys.Pairwise fun a b => (a == b) = false
  made : ∀ (number : Nat) (key : JavaType) (arr : ArrayType),
    pool.entries[number]? = some (key, arr) →
      ArrayType.ofComponent pool.platform key (.kept number) = .ok arr

theorem wellFormed_empty (platform : Platform) : (empty platform).WellFormed where
  distinct := List.Pairwise.nil
  made := by simp [empty]

namespace WellFormed

variable {pool : ArrayPool}

theorem exists_number (h : pool.WellFormed) {key : JavaType} {arr : ArrayType}
    (hmem : (key, arr) ∈ pool.entries) :
    ∃ number, pool.entries[number]? = some (key, arr) ∧
      ArrayType.ofComponent pool.platform key (.kept number) = .ok arr ∧
      arr = ⟨pool.platform, key, .kept number⟩ := by
  obtain ⟨number, hentry⟩ := List.mem_iff_getElem?.1 hmem
  have hmade := h.made number key arr hentry
  exact ⟨number, hentry, hmade, (ArrayType.ofComponent_eq_ok_iff.1 hmade).2.2⟩

theorem eq_of_find? (h : pool.WellFormed) {component : JavaType} {arr : ArrayType}
    (hfind : pool.find? component = some arr) :
    (arr.component, arr) ∈ pool.entries ∧ (arr.component == component) = true := by
  obtain ⟨key, hmem, hkey⟩ := exists_entry_of_find? hfind
  obtain ⟨_, _, _, rfl⟩ := h.exists_number hmem
  exact ⟨hmem, hkey⟩

theorem getElem?_of_find? (h : pool.WellFormed) {component : JavaType} {arr : ArrayType}
    (hfind : pool.find? component = some arr) :
    ∃ number, pool.entries[number]? = some (arr.component, arr) ∧ arr.origin = .kept number ∧
      ArrayType.ofComponent pool.platform arr.component arr.origin = .ok arr := by
  obtain ⟨number, hentry, hmade, harr⟩ := h.exists_number (h.eq_of_find? hfind).1
  have horigin : arr.origin = .kept number := congrArg ArrayType.origin harr
  rw [horigin]
  exact ⟨number, hentry, rfl, hmade⟩

theorem platform_of_find? (h : pool.WellFormed) {component : JavaType} {arr : ArrayType}
    (hfind : pool.find? component = some arr) : arr.platform = pool.platform := by
  obtain ⟨_, _, _, harr⟩ := h.exists_number (h.eq_of_find? hfind).1
  exact congrArg ArrayType.platform harr

theorem add (h : pool.WellFormed) {component : JavaType} {arr : ArrayType}
    (hfind : pool.find? component = none)
    (hmake : ArrayType.ofComponent pool.platform component (.kept pool.size) = .ok arr) :
    (pool.add component arr).WellFormed where
  distinct := by
    rw [keys_add]
    refine List.pairwise_append.2 ⟨h.distinct, List.pairwise_singleton _ _, ?_⟩
    intro key hkey other hother
    rw [List.mem_singleton.1 hother]
    exact find?_eq_none_iff.1 hfind key hkey
  made := by
    intro number key other hentry
    change (pool.entries ++ [(component, arr)])[number]? = some (key, other) at hentry
    rw [List.getElem?_append] at hentry
    by_cases hold : number < pool.entries.length
    · rw [if_pos hold] at hentry
      exact h.made number key other hentry
    · -- the new entry is numbered by how many there were
      rw [if_neg hold, List.getElem?_singleton] at hentry
      obtain ⟨hplace, heq⟩ := Option.ite_none_right_eq_some.1 hentry
      obtain ⟨rfl, rfl⟩ := Prod.mk.inj (Option.some.inj heq)
      have hnumber : number = pool.size := by
        rw [size]
        omega
      rw [hnumber]
      exact hmake

theorem arrayOf (h : pool.WellFormed) (component : JavaType) :
    (pool.arrayOf component).pool.WellFormed := by
  obtain ⟨_, _, hr⟩ | ⟨_, _, _, hr⟩ | ⟨arr, hfind, hmake, hr⟩ := arrayOf_cases pool component
  · rw [hr]
    exact h
  · rw [hr]
    exact h
  · rw [hr]
    exact h.add hfind hmake

end WellFormed

end ArrayPool

open ArrayPool

/-! ## Along a chain -/

theorem granted_cons_cases (pool : ArrayPool) (asked : JavaType) (rest : List Call) :
    (∃ arr, pool.find? asked = some arr ∧ (pool.arrayOf asked).pool = pool ∧
      granted (⟨pool, asked⟩ :: rest) = asked :: granted rest) ∨
    (pool.find? asked = none ∧ (pool.arrayOf asked).pool = pool ∧
      granted (⟨pool, asked⟩ :: rest) = granted rest) ∨
    (pool.find? asked = none ∧
      (pool.arrayOf asked).pool = pool.add asked ⟨pool.platform, asked, .kept pool.size⟩ ∧
      granted (⟨pool, asked⟩ :: rest) = asked :: granted rest) := by
  obtain ⟨arr, hfind, hr⟩ | ⟨e, hfind, _, hr⟩ | ⟨arr, hfind, hmake, hr⟩ :=
    arrayOf_cases pool asked
  · have hok : (pool.arrayOf asked).result = .ok (.array arr) := by rw [hr]
    exact .inl ⟨arr, hfind, congrArg Reply.pool hr, granted_cons_of_ok hok⟩
  · have herror : (pool.arrayOf asked).result = .error e := by rw [hr]
    exact .inr (.inl ⟨hfind, congrArg Reply.pool hr, granted_cons_of_error herror⟩)
  · have hok : (pool.arrayOf asked).result = .ok (.array arr) := by rw [hr]
    obtain ⟨_, _, rfl⟩ := ArrayType.ofComponent_eq_ok_iff.1 hmake
    exact .inr (.inr ⟨hfind, congrArg Reply.pool hr, granted_cons_of_ok hok⟩)

namespace Chain

variable {first last : ArrayPool} {calls : List Call}

theorem wellFormed (h : Chain first calls last) (hfirst : first.WellFormed) : last.WellFormed :=
  (h.invariant (fun _ component hpool => hpool.arrayOf component) hfirst).1

theorem platform_eq (h : Chain first calls last) : last.platform = first.platform := by
  have hstep (pool : ArrayPool) (component : JavaType) (hpool : pool.platform = first.platform) :
      (pool.arrayOf component).pool.platform = first.platform := by
    rw [platform_arrayOf, hpool]
  exact (h.invariant hstep rfl).1

/-- What is found behind a chain was made over the component that was there before, or else over
the first one that a call succeeded for and that is the same type. -/
theorem component_of_find? (h : Chain first calls last) (component : JavaType) :
    (last.find? component).map ArrayType.component =
      ((first.find? component).map ArrayType.component).or
        ((granted calls).find? (· == component)) := by
  induction h with
  | nil pool => simp [granted]
  | @cons pool last asked rest _ ih =>
      rw [ih]
      obtain ⟨arr, hfind, hpool, hgranted⟩ | ⟨_, hpool, hgranted⟩ | ⟨_, hpool, hgranted⟩ :=
        granted_cons_cases pool asked rest
      · rw [hpool, hgranted, List.find?_cons]
        cases hsame : asked == component with
        | false => rfl
        | true =>
            have hfound : pool.find? component = some arr := by
              rw [← find?_congr pool hsame, hfind]
            rw [hfound]
            rfl
      · rw [hpool, hgranted]
      · rw [hpool, hgranted, find?_add, List.find?_cons]
        cases hsame : asked == component with
        | false => simp
        | true => cases pool.find? component <;> rfl

theorem size_insertMany (h : Chain first calls last) (seen : Std.HashSet JavaType)
    (hseen : ∀ component, seen.contains component = (first.find? component).isSome)
    (hsize : seen.size = first.size) : (seen.insertMany (granted calls)).size = last.size := by
  -- the set and the pool hold the same types all along, so what is new to one is new to both
  induction h generalizing seen with
  | nil pool => simpa [granted] using hsize
  | @cons pool last asked rest _ ih =>
      have hmem : asked ∈ seen ↔ (pool.find? asked).isSome = true := by
        rw [Std.HashSet.mem_iff_contains, hseen]
      obtain ⟨arr, hfind, hpool, hgranted⟩ | ⟨_, hpool, hgranted⟩ | ⟨hfind, hpool, hgranted⟩ :=
        granted_cons_cases pool asked rest
      · have hold : asked ∈ seen := hmem.2 (by simp [hfind])
        rw [hgranted, Std.HashSet.insertMany_cons]
        rw [hpool] at ih
        apply ih
        · intro component
          rw [Std.HashSet.contains_insert, hseen]
          cases hsame : asked == component with
          | false => rfl
          | true =>
              rw [← find?_congr pool hsame, hfind]
              rfl
        · rw [Std.HashSet.size_insert, if_pos hold, hsize]
      · rw [hgranted]
        rw [hpool] at ih
        exact ih seen hseen hsize
      · have hnew : asked ∉ seen := by simp [hmem, hfind]
        rw [hgranted, Std.HashSet.insertMany_cons]
        rw [hpool] at ih
        apply ih
        · intro component
          rw [Std.HashSet.contains_insert, hseen, find?_add]
          cases hsame : asked == component <;> simp
        · rw [Std.HashSet.size_insert, if_neg hnew, hsize, size_add]

theorem size_eq_distinctCount {platform : Platform} (h : Chain (empty platform) calls last) :
    last.size = distinctCount (granted calls) := by
  rw [distinctCount, Std.HashSet.ofList_eq_insertMany_empty]
  exact (h.size_insertMany ∅ (by simp) (by simp)).symm

end Chain

namespace ArrayPool

/-! ## Pools after a run -/

theorem wellFormed_after (platform : Platform) (requests : List ArrayRequest) :
    ((empty platform).after requests).WellFormed :=
  (chain_calls _ requests).wellFormed (wellFormed_empty platform)

@[simp] theorem platform_after (pool : ArrayPool) (requests : List ArrayRequest) :
    (pool.after requests).platform = pool.platform :=
  (chain_calls pool requests).platform_eq

theorem find?_after_eq_none_iff {platform : Platform} {requests : List ArrayRequest}
    {component : JavaType} :
    ((empty platform).after requests).find? component = none ↔
      ∀ earlier ∈ granted ((empty platform).calls requests), (earlier == component) = false := by
  have hcomponent := (chain_calls (empty platform) requests).component_of_find? component
  rw [find?_empty, Option.map_none, Option.none_or] at hcomponent
  rw [← Option.map_eq_none_iff (f := ArrayType.component), hcomponent, List.find?_eq_none]
  simp

/-- **The invariant of the table.** After any requests to an empty pool no two keys are the same
type, every key is the component of the array type kept under it, no component is an anonymous
class, every array type is over the platform of the pool, and the size counts the distinct types
among the components that calls succeeded for. -/
theorem table_invariant (platform : Platform) (requests : List ArrayRequest) :
    let pool := (empty platform).after requests
    (pool.keys.Pairwise fun a b => (a == b) = false) ∧
      (∀ entry ∈ pool.entries, (entry.2.component == entry.1) = true ∧
        entry.2.component.isAnonymous = false ∧ entry.2.platform = platform) ∧
      pool.size = distinctCount (granted ((empty platform).calls requests)) := by
  intro pool
  have hchain := chain_calls (empty platform) requests
  have hwf : pool.WellFormed := wellFormed_after platform requests
  have hplatform : pool.platform = platform := platform_after (empty platform) requests
  refine ⟨hwf.distinct, ?_, hchain.size_eq_distinctCount⟩
  rintro ⟨key, arr⟩ hmem
  obtain ⟨_, _, hmade, _⟩ := hwf.exists_number hmem
  obtain ⟨hanonymous, _, rfl⟩ := ArrayType.ofComponent_eq_ok_iff.1 hmade
  exact ⟨BEq.refl key, hanonymous, hplatform⟩

end ArrayPool

end JvmTypes
