import JvmTypes.Proofs.ArrayPool.Outcome
import Mathlib.Data.List.Induction
/-!
# The order of requests

Whether a request is refused depends on what the pool covers only if its component is an
anonymous class. If components that are the same type agree on being anonymous, no other request
of a list can change that (`refuses?_after`): the levels it adds are arrays, except for its own
component. So what a list of requests covers in the end follows from the pool it starts with and
from which requests are in the list (`covers_after_iff`), and the order of the requests does not
matter.
-/

namespace JvmTypes

namespace ArrayRequest

def count : ArrayRequest → Nat
  | .arrayOf _ => 1
  | .arrayOfDims _ count => count.toNat

/-- The dimensions that a request comes to do not wrap around. -/
def FitsWord : ArrayRequest → Prop
  | .arrayOf _ => True
  | .arrayOfDims component count => component.dimensions + count.toNat < UInt64.size

instance : DecidablePred FitsWord
  | .arrayOf _ => instDecidableTrue
  | .arrayOfDims component count => Nat.decLt (component.dimensions + count.toNat) UInt64.size

/-- The request is about a type that hides no array, and its dimensions do not wrap around. -/
structure Plain (request : ArrayRequest) : Prop where
  hidesNoArray : request.component.HidesNoArray
  fitsWord : request.FitsWord

end ArrayRequest

/-- Two results are one refusal, or types that are the same. -/
inductive SameResult : Except ArrayError JavaType → Except ArrayError JavaType → Prop
  | type {t u : JavaType} (h : (t == u) = true) : SameResult (.ok t) (.ok u)
  | refusal (e : ArrayError) : SameResult (.error e) (.error e)

namespace ArrayPool

variable {pool : ArrayPool} {request : ArrayRequest} {requests : List ArrayRequest}

/-! ## Serving one request -/

theorem arrayOf_refused (h : pool.RestsOn ClassType.ClaimsNoArray) {component : JavaType}
    (hcomponent : component.HidesNoArray) {e : ArrayError}
    (hrefused : pool.refusal? component 1 = some e) :
    (pool.arrayOf component).result = .error e := by
  rw [refusal?] at hrefused
  by_cases hlimit : maxDimensions < component.dimensions + 1
  · rw [if_pos hlimit] at hrefused
    rw [← Option.some.inj hrefused]
    exact arrayOf_of_lt h hcomponent hlimit
  · rw [if_neg hlimit] at hrefused
    obtain ⟨⟨_, hanonymous, hnew⟩, herror⟩ := Option.ite_none_right_eq_some.1 hrefused
    rw [← Option.some.inj herror]
    exact arrayOf_of_isAnonymous hanonymous hnew

def refuses? (pool : ArrayPool) (request : ArrayRequest) : Option ArrayError :=
  pool.refusal? request.component request.count

theorem serve_refused (h : pool.RestsOn ClassType.ClaimsNoArray) (hrequest : request.Plain)
    {e : ArrayError} (hrefused : pool.refuses? request = some e) :
    (pool.serve request).result = .error e ∧ (pool.serve request).pool = pool := by
  cases request with
  | arrayOf component =>
      have herror := arrayOf_refused h hrequest.hidesNoArray hrefused
      exact ⟨herror, pool_arrayOf_of_error herror⟩
  | arrayOfDims component count => exact arrayOfDims_refused hrequest.fitsWord hrefused

theorem serve_grants (platform : Platform) (h : pool.RestsOn ClassType.ClaimsNoArray)
    (hrequest : request.Plain) (hnone : pool.refuses? request = none) :
    Grants platform pool request.component request.count (pool.serve request) := by
  cases request with
  | arrayOf component =>
      obtain ⟨hlimit, hgranted⟩ := refusal?_eq_none_iff.1 hnone
      have hgrants := arrayOfEach_grants platform h hrequest.hidesNoArray hlimit hgranted
      rw [ArrayRequest.count, arrayOfEach_one] at hgrants
      exact hgrants
  | arrayOfDims component count =>
      exact arrayOfDims_grants platform h hrequest.hidesNoArray hnone

/-! ## Requests that do not stand in each other's way -/

theorem refusal?_congr {other : ArrayPool} {component : JavaType} (count : Nat)
    (h : component.isAnonymous = true → pool.covers component = other.covers component) :
    pool.refusal? component count = other.refusal? component count := by
  rw [refusal?, refusal?]
  cases hanonymous : component.isAnonymous with
  | false => simp
  | true => rw [h hanonymous]

/-- The type is one of the levels that a request adds if it is served by the pool. -/
def Adds (platform : Platform) (pool : ArrayPool) (request : ArrayRequest) (t : JavaType) :
    Prop :=
  pool.refuses? request = none ∧
    ∃ k < request.count, (request.component.withDims platform k == t) = true

/-- An anonymous class is added only by a request for it, and that is refused if the pool does
not cover it. -/
theorem Adds.covers_of_isAnonymous {platform : Platform} {t : JavaType}
    (h : Adds platform pool request t)
    (hagree : (request.component == t) = true →
      request.component.isAnonymous = t.isAnonymous)
    (hanonymous : t.isAnonymous = true) : pool.covers t = true := by
  obtain ⟨hnone, k, hk, hlevel⟩ := h
  cases k with
  | zero =>
      have hsame : (request.component == t) = true := hlevel
      have hgranted := (refusal?_eq_none_iff.1 hnone).2 hk
      rw [hagree hsame, hanonymous] at hgranted
      rw [← covers_congr pool hsame]
      exact hgranted.resolve_left Bool.noConfusion
  | succ k =>
      have harray : (t == request.component.withDims platform (k + 1)) = true :=
        BEq.symm hlevel
      rw [JavaType.isAnonymous_of_beq_array harray] at hanonymous
      contradiction

theorem covers_serve_iff (platform : Platform) (h : pool.RestsOn ClassType.ClaimsNoArray)
    (hrequest : request.Plain) (t : JavaType) :
    (pool.serve request).pool.covers t = true ↔
      pool.covers t = true ∨ Adds platform pool request t := by
  cases hrefused : pool.refuses? request with
  | some e =>
      rw [(serve_refused h hrequest hrefused).2, Adds, hrefused]
      simp
  | none =>
      rw [(serve_grants platform h hrequest hrefused).covers, Bool.or_eq_true, List.any_eq_true,
        Adds, hrefused]
      simp

/-! ## Along a list of requests -/

/-- Components that are the same type agree on being anonymous classes. -/
def AnonymityAgrees (requests : List ArrayRequest) : Prop :=
  ∀ a ∈ requests, ∀ b ∈ requests, (a.component == b.component) = true →
    a.component.isAnonymous = b.component.isAnonymous

theorem AnonymityAgrees.mono {more : List ArrayRequest} (h : AnonymityAgrees more)
    (hsub : requests ⊆ more) : AnonymityAgrees requests :=
  fun a ha b hb => h a (hsub ha) b (hsub hb)

theorem refuses?_congr_of_covers {other : ArrayPool} {platform : Platform}
    (hcovers : ∀ t, other.covers t = true ↔
      pool.covers t = true ∨ ∃ earlier ∈ requests, Adds platform pool earlier t)
    (hagree : AnonymityAgrees (request :: requests)) :
    other.refuses? request = pool.refuses? request := by
  apply refusal?_congr
  intro hanonymous
  rw [Bool.eq_iff_iff, hcovers]
  constructor
  · rintro (hold | ⟨earlier, hearlier, hadds⟩)
    · exact hold
    · have hpair := hagree earlier (List.mem_cons_of_mem _ hearlier) request List.mem_cons_self
      exact hadds.covers_of_isAnonymous hpair hanonymous
  · exact .inl

theorem RestsOn.after_plain (h : pool.RestsOn ClassType.ClaimsNoArray)
    (hrequests : ∀ request ∈ requests, request.Plain) :
    (pool.after requests).RestsOn ClassType.ClaimsNoArray :=
  h.after fun request hmem => (hrequests request hmem).hidesNoArray

/-- What a pool covers after a list of requests: what it covered before, and what each of the
requests adds to the pool at the start. -/
theorem covers_after_iff (platform : Platform) (h : pool.RestsOn ClassType.ClaimsNoArray)
    (hrequests : ∀ request ∈ requests, request.Plain)
    (hagree : AnonymityAgrees requests) (t : JavaType) :
    (pool.after requests).covers t = true ↔
      pool.covers t = true ∨ ∃ request ∈ requests, Adds platform pool request t := by
  -- from the end, as the last request is the one that the others might stand in the way of
  induction requests using List.reverseRecOn generalizing t with
  | nil => simp [after]
  | append_singleton requests request ih =>
      have hbefore : ∀ request ∈ requests, request.Plain :=
        fun request hmem => hrequests request (List.mem_append_left _ hmem)
      have hlast : request.Plain := hrequests request (by simp)
      have hcovers := ih hbefore (hagree.mono (List.subset_append_left _ _))
      have hrefuses : (pool.after requests).refuses? request = pool.refuses? request :=
        refuses?_congr_of_covers hcovers (hagree.mono (by simp))
      have hadds :
          Adds platform (pool.after requests) request t ↔ Adds platform pool request t := by
        rw [Adds, Adds, hrefuses]
      rw [after_concat, covers_serve_iff platform (h.after_plain hbefore) hlast, hcovers, hadds]
      simp only [List.mem_append, List.mem_singleton, or_and_right, exists_or, exists_eq_left,
        or_assoc]

theorem refuses?_after (h : pool.RestsOn ClassType.ClaimsNoArray)
    (hrequests : ∀ request ∈ requests, request.Plain)
    (hagree : AnonymityAgrees (request :: requests)) :
    (pool.after requests).refuses? request = pool.refuses? request :=
  refuses?_congr_of_covers
    (covers_after_iff pool.platform h hrequests (hagree.mono (List.subset_cons_self _ _))) hagree

theorem getElem?_replies (pool : ArrayPool) (requests : List ArrayRequest) (i : Nat) :
    (pool.replies requests)[i]? =
      requests[i]?.map fun request => (pool.after (requests.take i)).serve request := by
  induction requests generalizing pool i with
  | nil => rfl
  | cons request rest ih =>
      cases i with
      | zero => rfl
      | succ i =>
          rw [replies, List.getElem?_cons_succ, ih, List.getElem?_cons_succ, List.take_succ_cons,
            after_cons]

theorem sameResult_after (h : pool.RestsOn ClassType.ClaimsNoArray) {others : List ArrayRequest}
    (hrequests : ∀ r ∈ request :: requests, r.Plain) (hothers : ∀ r ∈ request :: others, r.Plain)
    (hagree : AnonymityAgrees (request :: requests))
    (hagreeOthers : AnonymityAgrees (request :: others)) :
    SameResult ((pool.after requests).serve request).result
      ((pool.after others).serve request).result := by
  obtain ⟨hrequest, hrest⟩ := List.forall_mem_cons.1 hrequests
  obtain ⟨_, hotherRest⟩ := List.forall_mem_cons.1 hothers
  have hafter := refuses?_after h hrest hagree
  have hafterOthers := refuses?_after h hotherRest hagreeOthers
  cases hrefused : pool.refuses? request with
  | some e =>
      rw [hrefused] at hafter hafterOthers
      rw [(serve_refused (h.after_plain hrest) hrequest hafter).1,
        (serve_refused (h.after_plain hotherRest) hrequest hafterOthers).1]
      exact .refusal e
  | none =>
      rw [hrefused] at hafter hafterOthers
      obtain ⟨t, ht, _, hlevel⟩ :=
        (serve_grants pool.platform (h.after_plain hrest) hrequest hafter).result
      obtain ⟨u, hu, _, hotherLevel⟩ :=
        (serve_grants pool.platform (h.after_plain hotherRest) hrequest hafterOthers).result
      rw [ht, hu]
      exact .type (BEq.trans hlevel (BEq.symm hotherLevel))

/-- **Order independence.** After requests to an empty pool about types that hide no array, let a
list of such requests, whose dimensions do not wrap around, be served in two orders, where
components that are the same type agree on being anonymous classes. Both orders leave pools of
one size that cover the same types, and each request of the list has the same result in both. -/
theorem order_independent (platform : Platform) {before requests reordered : List ArrayRequest}
    (hbefore : ∀ request ∈ before, request.component.HidesNoArray)
    (hrequests : ∀ request ∈ requests, request.component.HidesNoArray)
    (hsum : ∀ request ∈ requests, request.FitsWord)
    (hagree : AnonymityAgrees requests) (hperm : requests.Perm reordered) :
    let pool := (empty platform).after before
    (∀ t, (pool.after requests).covers t = (pool.after reordered).covers t) ∧
    (pool.after requests).size = (pool.after reordered).size ∧
    ∀ (i j : Nat) (request : ArrayRequest), requests[i]? = some request →
      reordered[j]? = some request →
        ∃ reply other : Reply, (pool.replies requests)[i]? = some reply ∧
          (pool.replies reordered)[j]? = some other ∧ SameResult reply.result other.result := by
  intro pool
  have hpool : pool.RestsOn ClassType.ClaimsNoArray := (restsOn_empty platform _).after hbefore
  have hplain : ∀ request ∈ requests, request.Plain :=
    fun request hmem => ⟨hrequests request hmem, hsum request hmem⟩
  have hreordered : ∀ request ∈ reordered, request.Plain :=
    fun request hmem => hplain request (hperm.mem_iff.2 hmem)
  have hagreeReordered : AnonymityAgrees reordered := hagree.mono hperm.symm.subset
  have hcovers (t : JavaType) :
      (pool.after requests).covers t = (pool.after reordered).covers t := by
    rw [Bool.eq_iff_iff, covers_after_iff platform hpool hplain hagree,
      covers_after_iff platform hpool hreordered hagreeReordered]
    simp only [hperm.mem_iff]
  refine ⟨hcovers, ?_, ?_⟩
  · have hwf : (pool.after requests).WellFormed := (hpool.after_plain hplain).toWellFormed
    exact hwf.size_eq_of_covers (hpool.after_plain hreordered).toWellFormed hcovers
  · intro i j request hi hj
    have hsub {list : List ArrayRequest} {n : Nat} (hn : list[n]? = some request) :
        request :: list.take n ⊆ list :=
      List.cons_subset.2 ⟨List.mem_of_getElem? hn, List.take_subset n list⟩
    refine ⟨(pool.after (requests.take i)).serve request,
      (pool.after (reordered.take j)).serve request, by simp [getElem?_replies, hi],
      by simp [getElem?_replies, hj], ?_⟩
    exact sameResult_after hpool (fun r hr => hplain r (hsub hi hr))
      (fun r hr => hreordered r (hsub hj hr)) (hagree.mono (hsub hi))
      (hagreeReordered.mono (hsub hj))

/-- The rows of two requests overlap, and a third is refused: whichever comes first, `int` and
`int[]` are what the pool covers in the end. -/
theorem order_independent_overlapping :
    let intArray := (JavaType.primitive .int).withDims (.fresh 1) 1
    let anonymous : JavaType :=
      .ofClass (.declared (.ofClauses (.source 0) "p.A$1" [.anonymousIn intArray]))
    let requests : List ArrayRequest :=
      [.arrayOfDims (.primitive .int) 2, .arrayOf intArray, .arrayOf anonymous]
    let before : List ArrayRequest := [.arrayOf (.primitive .int)]
    let pool := (empty .shared).after before
    (∀ request ∈ before, request.component.HidesNoArray) ∧
      (∀ request ∈ requests, request.component.HidesNoArray) ∧
      (∀ request ∈ requests, request.FitsWord) ∧ AnonymityAgrees requests ∧
      requests.Perm requests.reverse ∧ (pool.after requests).size = 2 ∧
      (pool.after requests.reverse).size = 2 ∧
      ∃ reply other : Reply, (pool.replies requests)[1]? = some reply ∧
        (pool.replies requests.reverse)[1]? = some other ∧
        SameResult reply.result other.result := by
  intro intArray anonymous requests before pool
  have hint : (JavaType.primitive .int).HidesNoArray := JavaType.hidesNoArray_primitive .int
  have hanonymous : anonymous.HidesNoArray := JavaType.hidesNoArray_declared _
  have hrequests : ∀ request ∈ requests, request.component.HidesNoArray := by
    simpa [requests, ArrayRequest.component] using ⟨hint, hint.withDims (.fresh 1) 1, hanonymous⟩
  have hsum : ∀ request ∈ requests, request.FitsWord := by decide
  have hagree : AnonymityAgrees requests := by
    unfold AnonymityAgrees
    decide
  have hperm : requests.Perm requests.reverse := (List.reverse_perm requests).symm
  have hbefore : ∀ request ∈ before, request.component.HidesNoArray := by
    simpa [before, ArrayRequest.component] using hint
  obtain ⟨_, hsize, hresults⟩ := order_independent .shared hbefore hrequests hsum hagree hperm
  exact ⟨hbefore, hrequests, hsum, hagree, hperm, rfl, hsize.symm.trans rfl,
    hresults 1 1 _ rfl rfl⟩

end ArrayPool

end JvmTypes
