import JvmTypes.JavaType.Supertype
import JvmTypes.Proofs.ArrayPool.Canonical
import Mathlib.Data.List.Induction
/-!
# Types that can be built

The types that finitely many steps lead to: primitives, declarations that mention such types,
array types made by pools or loosely, and arrays in the place of classes. Which arrays may take
the place of a class is a parameter. `Built.parts` tells what a built type was built from, also
where a pool handed out an array type that it had made for another component.
-/

namespace JvmTypes

def Declaration.mentions (decl : Declaration) : List JavaType :=
  decl.nesting.outer?.toList ++ decl.superclass.toList ++ decl.interfaces

/-- Types built from nothing, where the arrays in the place of classes are `hidden`. Array types
are made by a pool after any requests about built types. -/
inductive Built (hidden : ArrayType → Prop) : JavaType → Prop
  | primitive (kind : Primitive) : Built hidden (.primitive kind)
  | declared (decl : Declaration) (h : ∀ t ∈ decl.mentions, Built hidden t) :
      Built hidden (.ofClass (.declared decl))
  | inPlaceOfClass {arr : ArrayType} (h : Built hidden (.array arr)) (hhidden : hidden arr) :
      Built hidden (.ofClass (.ofArray arr))
  | made (platform : Platform) (requests : List ArrayRequest) (making : ArrayMaking)
      {component t : JavaType} (hrequests : ∀ request ∈ requests, Built hidden request.component)
      (hcomponent : Built hidden component)
      (hok : (((ArrayPool.empty platform).after requests).make component making).result =
        .ok t) : Built hidden t

open ArrayPool

variable {hidden : ArrayType → Prop}

/-! ## Components of calls -/

theorem built_callsOfEach (platform : Platform) {done : List ArrayRequest} {component : JavaType}
    (hdone : ∀ request ∈ done, Built hidden request.component) (h : Built hidden component)
    (count : Nat) :
    ∀ call ∈ ((empty platform).after done).callsOfEach component count,
      Built hidden call.component := by
  induction count generalizing done component with
  | zero => simp [callsOfEach]
  | succ count ih =>
      intro call hmem
      rw [callsOfEach] at hmem
      rcases List.mem_cons.1 hmem with rfl | hmem
      · exact h
      · cases hresult : (((empty platform).after done).arrayOf component).result with
        | error e => simp [hresult] at hmem
        | ok arr =>
            have harr : Built hidden arr := .made platform done .kept hdone h hresult
            have hpool := after_concat (empty platform) done (.arrayOf component)
            rw [serve] at hpool
            simp only [hresult, ← hpool] at hmem
            refine ih ?_ harr call hmem
            simpa [or_imp, forall_and] using ⟨hdone, h⟩

theorem built_calls (platform : Platform) {requests : List ArrayRequest}
    (h : ∀ request ∈ requests, Built hidden request.component) :
    ∀ call ∈ (empty platform).calls requests, Built hidden call.component := by
  induction requests using List.reverseRecOn with
  | nil => simp [calls]
  | append_singleton requests request ih =>
      have hdone : ∀ request ∈ requests, Built hidden request.component :=
        fun request hmem => h request (List.mem_append_left _ hmem)
      have hlast : Built hidden request.component := h request (by simp)
      intro call hmem
      rw [calls_concat] at hmem
      rcases List.mem_append.1 hmem with hmem | hmem
      · exact ih hdone call hmem
      · cases request with
        | arrayOf component =>
            rw [List.mem_singleton.1 hmem]
            exact hlast
        | arrayOfDims component count =>
            rw [callsOf] at hmem
            split at hmem
            · simp at hmem
            · exact built_callsOfEach platform hdone hlast count.toNat call hmem

/-! ## Parts -/

theorem built_component_of_call {platform : Platform} {requests : List ArrayRequest}
    (h : ∀ request ∈ requests, Built hidden request.component) {call : Call}
    (hmem : call ∈ (empty platform).calls requests) {t : JavaType}
    (hok : call.reply.result = .ok t) :
    ∃ arr, t = .array arr ∧
      ArrayType.ofComponent arr.platform arr.component arr.origin = .ok arr ∧
      Built hidden arr.component := by
  have hchain := chain_calls (empty platform) requests
  have hwf := wellFormed_after platform requests
  obtain ⟨arr, rfl, _, hfind⟩ := hchain.find?_of_mem hmem hok
  refine ⟨arr, rfl, ?_, ?_⟩
  · obtain ⟨_, _, _, hmade⟩ := hwf.getElem?_of_find? hfind
    rw [hwf.platform_of_find? hfind]
    exact hmade
  · have hgranted := hchain.component_of_find? call.component
    rw [hfind, find?_empty, Option.map_none, Option.none_or] at hgranted
    obtain ⟨other, hother, hcomponent⟩ :=
      exists_call_of_mem_granted (List.mem_of_find?_eq_some hgranted.symm)
    rw [← hcomponent]
    exact built_calls platform h other hother

/-- What must have been built before a type. -/
def PartsBuilt (hidden : ArrayType → Prop) : JavaType → Prop
  | .primitive _ => True
  | .ofClass (.declared decl) => ∀ t ∈ decl.mentions, Built hidden t
  | .ofClass (.external _) => False
  | .ofClass (.ofArray arr) => Built hidden (.array arr) ∧ hidden arr
  | .array arr =>
    ArrayType.ofComponent arr.platform arr.component arr.origin = .ok arr ∧
      Built hidden arr.component

theorem Built.parts {t : JavaType} (h : Built hidden t) : PartsBuilt hidden t := by
  induction h with
  | primitive => trivial
  | declared decl h => exact h
  | inPlaceOfClass h hhidden => exact ⟨h, hhidden⟩
  | @made platform requests making component t hrequests hcomponent hok _ ih =>
      have hserve (request : ArrayRequest) (hrequest : request.component = component)
          (hok : (((empty platform).after requests).serve request).result = .ok t) :
          PartsBuilt hidden t := by
        rcases result_serve hok with rfl | ⟨call, hmem, hcall⟩
        · rw [hrequest]
          exact ih
        · have hall : ∀ r ∈ requests ++ [request], Built hidden r.component := by
            simpa [or_imp, forall_and, hrequest] using ⟨hrequests, hcomponent⟩
          have hmem' : call ∈ (empty platform).calls (requests ++ [request]) := by
            rw [calls_concat]
            exact List.mem_append_right _ hmem
          obtain ⟨arr, rfl, hmade, hbuilt⟩ := built_component_of_call hall hmem' hcall
          exact ⟨hmade, hbuilt⟩
      cases making with
      | kept => exact hserve (.arrayOf component) rfl hok
      | keptDims count => exact hserve (.arrayOfDims component count) rfl hok
      | loose =>
          obtain ⟨arr, rfl, hmade⟩ := result_makeLoose_eq_ok_iff.1 hok
          rw [platform_after] at hmade
          obtain ⟨_, _, rfl⟩ := ArrayType.ofComponent_eq_ok_iff.1 hmade
          exact ⟨hmade, hcomponent⟩

end JvmTypes
