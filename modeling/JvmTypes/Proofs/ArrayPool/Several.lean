import JvmTypes.JavaType.Supertype
import JvmTypes.Proofs.ArrayPool.Representation
import Mathlib.Data.Fin.VecNotation
import Mathlib.Logic.Function.Basic
/-!
# Several pools side by side

Calls to any number of pools in any order, where array types made by one pool may be components
in calls to another. Each pool ends up as if it had been asked alone (`PoolFamily.after_apply`),
so what is known of one pool holds of every pool of a family. In particular all that a pool hands
out is over its own platform, also where it finds an entry for a component that another pool
made.
-/

namespace JvmTypes

namespace Platform

def interfaceList (p : Platform) : InterfaceList :=
  ⟨some (.platform p), p.arrayInterfaces⟩

theorem isSameList_interfaceList (p q : Platform) :
    p.interfaceList.isSameList q.interfaceList = true ↔ p = q := by
  simp [InterfaceList.isSameList, interfaceList]

end Platform

namespace ArrayMaking

def added : ArrayMaking → Nat
  | .kept => 1
  | .keptDims count => count.toNat
  | .loose => 1

/-- The request behind a making; a loose one is none, since it leaves the pool alone. -/
def request? (component : JavaType) : ArrayMaking → Option ArrayRequest
  | .kept => some (.arrayOf component)
  | .keptDims count => some (.arrayOfDims component count)
  | .loose => none

end ArrayMaking

/-! ## One pool -/

namespace ArrayPool

variable {pool : ArrayPool} {component t : JavaType}

theorem pool_makeLoose (pool : ArrayPool) (component : JavaType) :
    (pool.makeLoose component).pool = pool := by
  unfold makeLoose
  cases ArrayType.ofComponent pool.platform component .loose <;> rfl

theorem pool_make (pool : ArrayPool) (component : JavaType) (making : ArrayMaking) :
    (pool.make component making).pool = pool.after (making.request? component).toList := by
  cases making with
  | kept => rfl
  | keptDims count => rfl
  | loose => exact pool_makeLoose pool component

namespace WellFormed

theorem platform_of_arrayOf_eq_ok (h : pool.WellFormed)
    (hok : (pool.arrayOf component).result = .ok t) :
    ∃ arr, t = .array arr ∧ arr.platform = pool.platform := by
  obtain ⟨arr, rfl, hfind⟩ := find?_of_arrayOf_eq_ok hok
  refine ⟨arr, rfl, ?_⟩
  calc
    arr.platform = (pool.arrayOf component).pool.platform :=
      (h.arrayOf component).platform_of_find? hfind
    _ = pool.platform := platform_arrayOf pool component

theorem platform_of_arrayOfEach_eq_ok (h : pool.WellFormed) {count : Nat}
    (hok : (pool.arrayOfEach component (count + 1)).result = .ok t) :
    ∃ arr, t = .array arr ∧ arr.platform = pool.platform := by
  have hstep (other : ArrayPool) (asked : JavaType)
      (hother : other.WellFormed ∧ other.platform = pool.platform) :
      (other.arrayOf asked).pool.WellFormed ∧
        (other.arrayOf asked).pool.platform = pool.platform :=
    ⟨hother.1.arrayOf asked, (platform_arrayOf other asked).trans hother.2⟩
  have hchain := chain_callsOfEach pool component (count + 1)
  obtain ⟨call, hmem, hcall⟩ := exists_call_of_arrayOfEach hok
  obtain ⟨hwf, hplatform⟩ := (hchain.invariant hstep ⟨h, rfl⟩).2 call hmem
  obtain ⟨arr, ht, harr⟩ := hwf.platform_of_arrayOf_eq_ok hcall
  exact ⟨arr, ht, harr.trans hplatform⟩

theorem platform_of_make_eq_ok (h : pool.WellFormed) {making : ArrayMaking}
    (hadded : 0 < making.added) (hok : (pool.make component making).result = .ok t) :
    ∃ arr, t = .array arr ∧ arr.platform = pool.platform := by
  cases making with
  | kept => exact h.platform_of_arrayOf_eq_ok hok
  | keptDims count =>
      obtain ⟨rest, hrest⟩ := Nat.exists_eq_succ_of_ne_zero (Nat.ne_of_gt hadded)
      change count.toNat = rest + 1 at hrest
      rw [make, serve, arrayOfDims, hrest] at hok
      split at hok
      · contradiction
      · exact h.platform_of_arrayOfEach_eq_ok hok
  | loose =>
      obtain ⟨arr, rfl, hmake⟩ := result_makeLoose_eq_ok_iff.1 hok
      obtain ⟨_, _, rfl⟩ := ArrayType.ofComponent_eq_ok_iff.1 hmake
      exact ⟨_, rfl, rfl⟩

end WellFormed

end ArrayPool

/-! ## Many pools -/

structure PoolCall (ι : Type) where
  index : ι
  component : JavaType
  making : ArrayMaking

abbrev PoolFamily (ι : Type) := ι → ArrayPool

namespace PoolFamily

variable {ι : Type} [DecidableEq ι]

def empty (platform : ι → Platform) : PoolFamily ι :=
  fun i => ArrayPool.empty (platform i)

def reply (pools : PoolFamily ι) (call : PoolCall ι) : Reply :=
  (pools call.index).make call.component call.making

def step (pools : PoolFamily ι) (call : PoolCall ι) : PoolFamily ι :=
  Function.update pools call.index (pools.reply call).pool

def after (pools : PoolFamily ι) (calls : List (PoolCall ι)) : PoolFamily ι :=
  calls.foldl step pools

def requestsTo (i : ι) : List (PoolCall ι) → List ArrayRequest
  | [] => []
  | call :: rest =>
    if call.index = i then (call.making.request? call.component).toList ++ requestsTo i rest
    else requestsTo i rest

theorem step_of_ne (pools : PoolFamily ι) {call : PoolCall ι} {i : ι} (h : i ≠ call.index) :
    pools.step call i = pools i :=
  Function.update_of_ne h _ _

theorem step_self (pools : PoolFamily ι) (call : PoolCall ι) :
    pools.step call call.index =
      (pools call.index).after (call.making.request? call.component).toList := by
  rw [step, Function.update_self]
  exact ArrayPool.pool_make _ _ _

theorem after_concat (pools : PoolFamily ι) (calls : List (PoolCall ι)) (call : PoolCall ι) :
    pools.after (calls ++ [call]) = (pools.after calls).step call := by
  simp [after]

/-- Each pool is as if it had been asked alone. -/
theorem after_apply (pools : PoolFamily ι) (calls : List (PoolCall ι)) (i : ι) :
    pools.after calls i = (pools i).after (requestsTo i calls) := by
  induction calls generalizing pools with
  | nil => rfl
  | cons call rest ih =>
      have hstep : pools.after (call :: rest) i =
          (pools.step call i).after (requestsTo i rest) := ih (pools.step call)
      rw [hstep, requestsTo]
      by_cases hi : call.index = i
      · subst hi
        rw [if_pos rfl, step_self, ArrayPool.after, ArrayPool.after, ArrayPool.after,
          List.foldl_append]
      · rw [if_neg hi, step_of_ne pools (Ne.symm hi)]

theorem platform_of_reply {platform : ι → Platform} {calls : List (PoolCall ι)}
    {call : PoolCall ι} {t : JavaType} (hadded : 0 < call.making.added)
    (hok : (((empty platform).after calls).reply call).result = .ok t) :
    ∃ arr, t = .array arr ∧ arr.platform = platform call.index := by
  rw [reply, after_apply] at hok
  have hwf : ((empty platform call.index).after (requestsTo call.index calls)).WellFormed :=
    ArrayPool.wellFormed_after (platform call.index) _
  obtain ⟨arr, ht, hplatform⟩ := hwf.platform_of_make_eq_ok hadded hok
  rw [ArrayPool.platform_after] at hplatform
  exact ⟨arr, ht, hplatform⟩

/-- **Supertypes come from the pool that is asked.** Let any calls be made to any number of empty
pools, whether or not they share platforms. What a further call hands out with at least one
dimension added is an array type that has the superclass and the very list of interfaces of the
platform of the pool that was called. So two array types handed out by two pools, at any two
moments, have one list exactly if the pools share their platform. A call leaves every other pool
as it is, and each pool is at any moment as if it had been asked alone. -/
theorem supertypes_from_own_platform (platform : ι → Platform) :
    let start := empty platform
    (∀ calls call t, 0 < call.making.added → ((start.after calls).reply call).result = .ok t →
      ∃ arr, t = .array arr ∧
        (ClassType.ofArray arr).superclass? = some ((platform call.index).type .object) ∧
        (ClassType.ofArray arr).interfaces = (platform call.index).interfaceList) ∧
    (∀ earlier later one two a b, 0 < one.making.added → 0 < two.making.added →
      ((start.after earlier).reply one).result = .ok (.array a) →
      ((start.after later).reply two).result = .ok (.array b) →
        ((ClassType.ofArray a).interfaces.isSameList (ClassType.ofArray b).interfaces = true ↔
          platform one.index = platform two.index)) ∧
    (∀ calls call other, other ≠ call.index →
      start.after (calls ++ [call]) other = start.after calls other) ∧
    (∀ calls i,
      start.after calls i = (ArrayPool.empty (platform i)).after (requestsTo i calls)) := by
  intro start
  refine ⟨?_, ?_, ?_, fun calls i => after_apply start calls i⟩
  · intro calls call t hadded hok
    obtain ⟨arr, rfl, hplatform⟩ := platform_of_reply hadded hok
    rw [← hplatform]
    exact ⟨arr, rfl, rfl, rfl⟩
  · intro earlier later one two a b hone htwo ha hb
    obtain ⟨x, hx, hplatformA⟩ := platform_of_reply hone ha
    obtain ⟨y, hy, hplatformB⟩ := platform_of_reply htwo hb
    obtain rfl := JavaType.array.inj hx
    obtain rfl := JavaType.array.inj hy
    rw [← hplatformA, ← hplatformB]
    exact Platform.isSameList_interfaceList _ _
  · intro calls call other hother
    rw [after_concat, step_of_ne _ hother]

/-- Two pools over one platform and a third over another. Asked for the array type over an array
of the third, the first finds what it made over an array of its own, and the second makes a new
one. -/
theorem supertypes_from_own_platform_over_foreign :
    let platform : Fin 3 → Platform := ![.shared, .shared, .fresh 1]
    let int : JavaType := .primitive .int
    let foreign : JavaType := .array ⟨.fresh 1, int, .kept 0⟩
    let own : ArrayType := ⟨.shared, .array ⟨.shared, int, .kept 0⟩, .kept 1⟩
    let third : PoolCall (Fin 3) := ⟨2, int, .kept⟩
    let hit : PoolCall (Fin 3) := ⟨0, foreign, .kept⟩
    let loose : PoolCall (Fin 3) := ⟨1, foreign, .loose⟩
    let pools := (empty platform).after [third, ⟨0, int, .keptDims 2⟩]
    (pools.reply third).result = .ok foreign ∧
      (pools.reply hit).result = .ok (.array own) ∧
      (pools.reply loose).result = .ok (.array ⟨.shared, foreign, .loose⟩) ∧
      (ClassType.ofArray own).interfaces = Platform.shared.interfaceList ∧
      (ClassType.ofArray own).interfaces.isSameList
        (ClassType.ofArray ⟨.shared, foreign, .loose⟩).interfaces = true ∧
      (ClassType.ofArray own).interfaces.isSameList
        (ClassType.ofArray ⟨.fresh 1, int, .kept 0⟩).interfaces = false := by
  intro platform int foreign own third hit loose pools
  obtain ⟨hmade, hlists, _⟩ := supertypes_from_own_platform platform
  have hthird : (pools.reply third).result = .ok foreign := rfl
  have hhit : (pools.reply hit).result = .ok (.array own) := rfl
  have hloose : (pools.reply loose).result = .ok (.array ⟨.shared, foreign, .loose⟩) := rfl
  obtain ⟨arr, harr, _, hinterfaces⟩ := hmade _ hit _ Nat.one_pos hhit
  obtain rfl := JavaType.array.inj harr
  refine ⟨hthird, hhit, hloose, hinterfaces, ?_, ?_⟩
  · exact (hlists _ _ hit loose _ _ Nat.one_pos Nat.one_pos hhit hloose).2 rfl
  · rw [Bool.eq_false_iff, ne_eq, hlists _ _ hit third _ _ Nat.one_pos Nat.one_pos hhit hthird]
    decide

end PoolFamily

end JvmTypes
