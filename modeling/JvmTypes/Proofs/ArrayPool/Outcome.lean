import JvmTypes.Proofs.ArrayPool.Growth
import JvmTypes.Proofs.ArrayPool.Refusal
/-!
# All dimensions or none

A request for several dimensions is refused as a whole or granted as a whole. `refusal?` says
which before any array type is made: the dimension limit counts first, and then whether the
component is an anonymous class that the pool does not cover. After a refusal the pool is as it
was (`arrayOfDims_refused`); otherwise the pool covers every level afterwards
(`arrayOfDims_grants`).
-/

namespace JvmTypes.ArrayPool

/-- Why a pool refuses `count` more dimensions over a component. -/
def refusal? (pool : ArrayPool) (component : JavaType) (count : Nat) : Option ArrayError :=
  let total := component.dimensions + count
  if maxDimensions < total then some (.tooManyDimensions total)
  else if 0 < count ∧ component.isAnonymous = true ∧ pool.covers component = false then
    some (.anonymousComponent component.display)
  else none

variable {pool : ArrayPool} {component : JavaType} {count : Nat}

theorem refusal?_of_lt (h : maxDimensions < component.dimensions + count) :
    pool.refusal? component count = some (.tooManyDimensions (component.dimensions + count)) :=
  if_pos h

theorem refusal?_of_isAnonymous (hlimit : component.dimensions + count ≤ maxDimensions)
    (hpos : 0 < count) (hanonymous : component.isAnonymous = true)
    (hnew : pool.covers component = false) :
    pool.refusal? component count = some (.anonymousComponent component.display) := by
  rw [refusal?, if_neg (Nat.not_lt.2 hlimit), if_pos ⟨hpos, hanonymous, hnew⟩]

theorem refusal?_eq_none_iff :
    pool.refusal? component count = none ↔ component.dimensions + count ≤ maxDimensions ∧
      (0 < count → component.isAnonymous = false ∨ pool.covers component = true) := by
  rw [refusal?]
  by_cases hlimit : maxDimensions < component.dimensions + count
  · rw [if_pos hlimit]
    simp [Nat.not_le.2 hlimit]
  · rw [if_neg hlimit]
    cases hanonymous : component.isAnonymous <;> cases hcovers : pool.covers component <;>
      simp [Nat.not_lt.1 hlimit]

/-! ## Refused -/

theorem arrayOf_of_isAnonymous (hanonymous : component.isAnonymous = true)
    (hnew : pool.covers component = false) :
    (pool.arrayOf component).result = .error (.anonymousComponent component.display) :=
  result_arrayOf_eq_error_iff.2
    ⟨result_makeLoose_of_isAnonymous pool hanonymous, covers_eq_false_iff.1 hnew⟩

theorem arrayOf_of_lt (h : pool.RestsOn ClassType.ClaimsNoArray)
    (hcomponent : component.HidesNoArray) (hlimit : maxDimensions < component.dimensions + 1) :
    (pool.arrayOf component).result =
      .error (.tooManyDimensions (component.dimensions + 1)) := by
  have hnew : pool.covers component = false := by
    rw [← Bool.not_eq_true]
    intro hcovers
    have hlt := h.dimensions_lt hcomponent hcovers
    omega
  have hanonymous : component.isAnonymous = false := by
    cases component with
    | primitive kind => rfl
    | ofClass cls => contradiction
    | array arr => rfl
  have hmake : (pool.makeLoose component).result =
      .error (.tooManyDimensions (component.dimensions + 1)) := by
    rw [result_makeLoose_eq_error_iff, ArrayType.ofComponent, hanonymous,
      if_neg Bool.false_ne_true, if_pos hlimit]
  exact result_arrayOf_eq_error_iff.2 ⟨hmake, covers_eq_false_iff.1 hnew⟩

theorem arrayOfDims_refused {count : UInt64} {e : ArrayError}
    (hsum : component.dimensions + count.toNat < UInt64.size)
    (h : pool.refusal? component count.toNat = some e) :
    (pool.arrayOfDims component count).result = .error e ∧
      (pool.arrayOfDims component count).pool = pool := by
  have hexact := dimensionSum_of_lt hsum
  rw [refusal?] at h
  by_cases hlimit : maxDimensions < component.dimensions + count.toNat
  · rw [if_pos hlimit, ← hexact] at h
    rw [← hexact] at hlimit
    obtain rfl := Option.some.inj h
    rw [arrayOfDims_of_lt hlimit]
    exact ⟨rfl, rfl⟩
  · rw [if_neg hlimit] at h
    rw [arrayOfDims_of_add_le (Nat.not_lt.1 hlimit)]
    by_cases hrefused :
        0 < count.toNat ∧ component.isAnonymous = true ∧ pool.covers component = false
    · rw [if_pos hrefused] at h
      obtain rfl := Option.some.inj h
      obtain ⟨hpos, hanonymous, hnew⟩ := hrefused
      obtain ⟨rest, hrest⟩ := Nat.exists_eq_add_of_lt hpos
      have hfirst := arrayOf_of_isAnonymous hanonymous hnew
      rw [hrest, Nat.zero_add, arrayOfEach_succ_of_error hfirst]
      exact ⟨hfirst, pool_arrayOf_of_error hfirst⟩
    · rw [if_neg hrefused] at h
      contradiction

/-! ## Granted -/

theorem arrayOfDims_grants (platform : Platform) (h : pool.RestsOn ClassType.ClaimsNoArray)
    (hcomponent : component.HidesNoArray) {count : UInt64}
    (hnone : pool.refusal? component count.toNat = none) :
    Grants platform pool component count.toNat (pool.arrayOfDims component count) := by
  obtain ⟨hlimit, hgranted⟩ := refusal?_eq_none_iff.1 hnone
  rw [arrayOfDims_of_add_le hlimit]
  exact arrayOfEach_grants platform h hcomponent hlimit hgranted

namespace Grants

variable {platform : Platform} {reply : Reply}

theorem covers_level (h : Grants platform pool component count reply) {k : Nat}
    (hk : k < count) : reply.pool.covers (component.withDims platform k) = true := by
  have hmem : k ∈ List.range count := List.mem_range.2 hk
  rw [h.covers, Bool.or_eq_true]
  exact .inr (List.any_eq_true.2 ⟨k, hmem, BEq.refl _⟩)

theorem exists_array (h : Grants platform pool component count reply)
    (hcomponent : component.HidesNoArray) (hpos : 0 < count) :
    ∃ arr, reply.result = .ok (.array arr) ∧ arr.dimensions = component.dimensions + count ∧
      (arr.elementType == component.element?.getD component) = true := by
  obtain ⟨t, ht, hplain, hsame⟩ := h.result
  have hlevel := hcomponent.withDims platform count
  have hdimensions := hplain.dimensions_eq_of_beq hlevel hsame
  rw [hcomponent.dimensions_withDims] at hdimensions
  cases t with
  | primitive kind =>
      have hzero : (JavaType.primitive kind).dimensions = 0 := rfl
      omega
  | ofClass cls =>
      have hzero : (JavaType.ofClass cls).dimensions = 0 := rfl
      omega
  | array arr =>
      have helement := hplain.leaf_beq_of_beq hlevel hsame
      rw [JavaType.leaf_withDims, ← hcomponent.element?_getD] at helement
      exact ⟨arr, ht, hdimensions, helement⟩

end Grants

/-- **All or nothing.** After requests to an empty pool about types that hide no array, a request
for `count` more dimensions, which do not wrap around, has one of four outcomes. Over the limit
it is refused for the number of dimensions. For no dimension the component itself comes back.
Otherwise it is granted if the component is no anonymous class or is covered: the result has
`count` dimensions more over the same element, all levels below it are covered afterwards, and
the pool has grown by those that were not. An anonymous class that is not covered is refused.
Only a granted request changes the pool. -/
theorem arrayOfDims_outcome (platform : Platform) {requests : List ArrayRequest}
    {component : JavaType} (hrequests : ∀ request ∈ requests, request.component.HidesNoArray)
    (hcomponent : component.HidesNoArray) (count : UInt64)
    (hsum : component.dimensions + count.toNat < UInt64.size) :
    let pool := (empty platform).after requests
    let reply := pool.arrayOfDims component count
    let total := component.dimensions + count.toNat
    let level := component.withDims platform
    (maxDimensions < total →
      reply.result = .error (.tooManyDimensions total) ∧ reply.pool = pool) ∧
    (total ≤ maxDimensions → count = 0 → reply.result = .ok component ∧ reply.pool = pool) ∧
    (total ≤ maxDimensions → 0 < count →
      component.isAnonymous = false ∨ pool.covers component = true →
        (∃ arr, reply.result = .ok (.array arr) ∧ arr.dimensions = total ∧
          (arr.elementType == component.element?.getD component) = true) ∧
        (∀ k < count.toNat, reply.pool.covers (level k) = true) ∧
        reply.pool.size =
          pool.size + (List.range count.toNat).countP fun k => !pool.covers (level k)) ∧
    (total ≤ maxDimensions → 0 < count → component.isAnonymous = true →
      pool.covers component = false →
        reply.result = .error (.anonymousComponent component.display) ∧ reply.pool = pool) := by
  intro pool reply total level
  have hpool : pool.RestsOn ClassType.ClaimsNoArray :=
    (restsOn_empty platform _).after hrequests
  refine ⟨?_, ?_, ?_, ?_⟩
  · intro hlimit
    exact arrayOfDims_refused hsum (refusal?_of_lt hlimit)
  · intro hlimit hzero
    have hreply : reply = pool.arrayOfEach component count.toNat := arrayOfDims_of_add_le hlimit
    rw [hzero] at hreply
    rw [hreply]
    exact ⟨rfl, rfl⟩
  · intro hlimit hpos hgranted
    have hnone : pool.refusal? component count.toNat = none :=
      refusal?_eq_none_iff.2 ⟨hlimit, fun _ => hgranted⟩
    have hgrants : Grants platform pool component count.toNat reply :=
      arrayOfDims_grants platform hpool hcomponent hnone
    exact ⟨hgrants.exists_array hcomponent (UInt64.lt_iff_toNat_lt.1 hpos),
      fun k => hgrants.covers_level, hgrants.size⟩
  · intro hlimit hpos hanonymous hnew
    exact arrayOfDims_refused hsum
      (refusal?_of_isAnonymous hlimit (UInt64.lt_iff_toNat_lt.1 hpos) hanonymous hnew)

/-- Three dimensions over an anonymous class whose name is kept: of the levels below the result,
the pool has the first and the third already and adds the second. -/
theorem arrayOfDims_over_kept_name :
    let named : JavaType := .ofClass (.declared (.ofClauses (.source 0) "p.A$1" []))
    let anonymous : JavaType :=
      .ofClass (.declared (.ofClauses (.source 1) "p.A$1" [.anonymousIn named]))
    let requests : List ArrayRequest := [.arrayOf named, .arrayOf (named.withDims (.fresh 1) 2)]
    let pool := (empty .shared).after requests
    (∀ request ∈ requests, request.component.HidesNoArray) ∧ anonymous.HidesNoArray ∧
      anonymous.isAnonymous = true ∧ pool.size = 2 ∧
      (∃ arr, (pool.arrayOfDims anonymous 3).result = .ok (.array arr) ∧ arr.dimensions = 3 ∧
        (arr.elementType == anonymous) = true) ∧
      (pool.arrayOfDims anonymous 3).pool.size = 3 := by
  intro named anonymous requests pool
  have hnamed : named.HidesNoArray := JavaType.hidesNoArray_declared _
  have hanonymous : anonymous.HidesNoArray := JavaType.hidesNoArray_declared _
  have hrequests : ∀ request ∈ requests, request.component.HidesNoArray := by
    simpa [requests] using ⟨hnamed, hnamed.withDims (.fresh 1) 2⟩
  have houtcome := arrayOfDims_outcome .shared hrequests hanonymous 3 (by decide)
  obtain ⟨hresult, _, hsize⟩ := houtcome.2.2.1 (by decide) (by decide) (.inr rfl)
  exact ⟨hrequests, hanonymous, rfl, rfl, hresult, hsize⟩

end JvmTypes.ArrayPool
