import JvmTypes.Proofs.ArrayPool.Representation
import JvmTypes.Proofs.JavaType.Levels
/-!
# How a pool grows

`covers` tells for which types a pool keeps an array type. A call that is granted adds its
component to them and nothing else, and a row of calls adds the levels from the component up to
the type that it hands out (`arrayOfEach_grants`). That each call of the row goes one level up,
also where it finds an array type made for another component, needs classes that do not claim to
be arrays: `RestsOn` says so of all that is kept.
-/

namespace JvmTypes

namespace ArrayPool

/-! ## What a pool covers -/

/-- The pool keeps an array type for this type. -/
def covers (pool : ArrayPool) (component : JavaType) : Bool :=
  pool.keys.any (· == component)

theorem covers_iff {pool : ArrayPool} {component : JavaType} :
    pool.covers component = true ↔ ∃ key ∈ pool.keys, (key == component) = true :=
  List.any_eq_true

theorem covers_eq_false_iff {pool : ArrayPool} {component : JavaType} :
    pool.covers component = false ↔ pool.find? component = none := by
  rw [find?_eq_none_iff, covers, List.any_eq_false]
  simp

theorem covers_of_find? {pool : ArrayPool} {component : JavaType} {arr : ArrayType}
    (h : pool.find? component = some arr) : pool.covers component = true := by
  rw [← Bool.not_eq_false, covers_eq_false_iff, h]
  simp

theorem covers_congr (pool : ArrayPool) {a b : JavaType} (h : (a == b) = true) :
    pool.covers a = pool.covers b := by
  have hkey (key : JavaType) : (key == a) = (key == b) := BEq.congr_right h
  simp only [covers, hkey]

theorem covers_add (pool : ArrayPool) (component t : JavaType) (arr : ArrayType) :
    (pool.add component arr).covers t = (pool.covers t || component == t) := by
  simp [covers]

theorem mem_digests_iff {pool : ArrayPool} {t : JavaType} :
    t.digest ∈ pool.keys.map JavaType.digest ↔ pool.covers t = true := by
  simp only [List.mem_map, covers_iff, JavaType.beq_iff]

theorem WellFormed.size_eq_of_covers {pool other : ArrayPool} (h : pool.WellFormed)
    (hother : other.WellFormed) (hcovers : ∀ t, pool.covers t = other.covers t) :
    pool.size = other.size := by
  -- keys of two pools are the same only up to `==`, so their digests are counted
  have hnodup {p : ArrayPool} (hp : p.WellFormed) : (p.keys.map JavaType.digest).Nodup := by
    refine List.pairwise_map.2 (hp.distinct.imp ?_)
    intro a b hdistinct hdigest
    rw [JavaType.beq_iff.2 hdigest] at hdistinct
    contradiction
  have hsub {p q : ArrayPool} (hpq : ∀ t, p.covers t = q.covers t) :
      ∀ digest ∈ p.keys.map JavaType.digest, digest ∈ q.keys.map JavaType.digest := by
    intro digest hmem
    obtain ⟨key, hkey, rfl⟩ := List.mem_map.1 hmem
    rw [mem_digests_iff, ← hpq, ← mem_digests_iff]
    exact hmem
  have hperm := (List.perm_ext_iff_of_nodup (hnodup h) (hnodup hother)).2 fun digest =>
    ⟨hsub hcovers digest, hsub (fun t => (hcovers t).symm) digest⟩
  have hlength := hperm.length_eq
  simpa [keys, size] using hlength

/-! ## What the keys rest on -/

/-- The pool is well-formed, and the classes under its keys have a property. -/
structure RestsOn (pool : ArrayPool) (P : ClassType → Prop) : Prop extends pool.WellFormed where
  keys : ∀ key ∈ pool.keys, key.RestsOn P

variable {pool : ArrayPool} {component : JavaType} {P : ClassType → Prop}

theorem restsOn_empty (platform : Platform) (P : ClassType → Prop) :
    (empty platform).RestsOn P where
  toWellFormed := wellFormed_empty platform
  keys := by simp

namespace RestsOn

theorem arrayOf (h : pool.RestsOn P) (hcomponent : component.RestsOn P) :
    (pool.arrayOf component).pool.RestsOn P where
  toWellFormed := h.toWellFormed.arrayOf component
  keys := by
    obtain ⟨_, _, hr⟩ | ⟨_, _, _, hr⟩ | ⟨arr, _, _, hr⟩ := arrayOf_cases pool component
    · rw [hr]
      exact h.keys
    · rw [hr]
      exact h.keys
    · intro key hkey
      rw [hr, keys_add] at hkey
      rcases List.mem_append.1 hkey with hold | hnew
      · exact h.keys key hold
      · rw [List.mem_singleton.1 hnew]
        exact hcomponent

theorem of_find? (h : pool.RestsOn P) {arr : ArrayType}
    (hfind : pool.find? component = some arr) : arr.component.RestsOn P :=
  h.keys _ (List.mem_map_of_mem (h.eq_of_find? hfind).1)

theorem of_arrayOf_eq_ok (h : pool.RestsOn P) (hcomponent : component.RestsOn P) {t : JavaType}
    (hok : (pool.arrayOf component).result = .ok t) : t.RestsOn P := by
  obtain ⟨arr, rfl, hfind⟩ := find?_of_arrayOf_eq_ok hok
  exact JavaType.restsOn_array.2 ((h.arrayOf hcomponent).of_find? hfind)

theorem arrayOfEach (h : pool.RestsOn P) (hcomponent : component.RestsOn P) (count : Nat) :
    (pool.arrayOfEach component count).pool.RestsOn P := by
  induction count generalizing pool component with
  | zero => exact h
  | succ count ih =>
      cases hfirst : (pool.arrayOf component).result with
      | error e =>
          rw [arrayOfEach_succ_of_error hfirst]
          exact h.arrayOf hcomponent
      | ok t =>
          rw [arrayOfEach_succ_of_ok hfirst]
          exact ih (h.arrayOf hcomponent) (h.of_arrayOf_eq_ok hcomponent hfirst)

theorem serve (h : pool.RestsOn P) {request : ArrayRequest}
    (hrequest : request.component.RestsOn P) : (pool.serve request).pool.RestsOn P := by
  cases request with
  | arrayOf component => exact h.arrayOf hrequest
  | arrayOfDims component count =>
      rw [ArrayPool.serve, arrayOfDims]
      split
      · exact h
      · exact h.arrayOfEach hrequest count.toNat

theorem after (h : pool.RestsOn P) {requests : List ArrayRequest}
    (hrequests : ∀ request ∈ requests, request.component.RestsOn P) :
    (pool.after requests).RestsOn P := by
  induction requests generalizing pool with
  | nil => exact h
  | cons request rest ih =>
      rw [after_cons]
      obtain ⟨hrequest, hrest⟩ := List.forall_mem_cons.1 hrequests
      exact ih (h.serve hrequest) hrest

theorem dimensions_lt (h : pool.RestsOn ClassType.ClaimsNoArray)
    (hcomponent : component.HidesNoArray) (hcovers : pool.covers component = true) :
    component.dimensions < maxDimensions := by
  obtain ⟨key, hkey, hsame⟩ := covers_iff.1 hcovers
  have hplain : key.HidesNoArray := h.keys key hkey
  have hdimensions := hplain.dimensions_eq_of_beq hcomponent hsame
  obtain ⟨⟨_, arr⟩, hentry, rfl⟩ := List.mem_map.1 hkey
  obtain ⟨_, _, hmade, _⟩ := h.exists_number hentry
  rw [← hdimensions]
  exact (ArrayType.ofComponent_eq_ok_iff.1 hmade).2.1

end RestsOn

/-! ## Calls that are granted -/

theorem arrayOf_granted (h : pool.WellFormed) (hlimit : component.dimensions < maxDimensions)
    (hgranted : component.isAnonymous = false ∨ pool.covers component = true) :
    ∃ arr, (pool.arrayOf component).result = .ok (.array arr) ∧
      (arr.component == component) = true ∧
      (∀ t, (pool.arrayOf component).pool.covers t = (pool.covers t || component == t)) ∧
      (pool.arrayOf component).pool.size =
        pool.size + if pool.covers component then 0 else 1 := by
  obtain ⟨arr, hfind, hr⟩ | ⟨e, hfind, hmake, _⟩ | ⟨arr, hfind, hmake, hr⟩ :=
    arrayOf_cases pool component
  · have hcovers := covers_of_find? hfind
    rw [hr]
    refine ⟨arr, rfl, (h.eq_of_find? hfind).2, ?_, by simp [hcovers]⟩
    intro t
    cases hsame : component == t with
    | false => simp
    | true => simp [← covers_congr pool hsame, hcovers]
  · have hnew := covers_eq_false_iff.2 hfind
    have hanonymous : component.isAnonymous = false := by simpa [hnew] using hgranted
    rw [ArrayType.ofComponent_eq_ok_iff.2 ⟨hanonymous, hlimit, rfl⟩] at hmake
    contradiction
  · have hnew := covers_eq_false_iff.2 hfind
    obtain ⟨_, _, rfl⟩ := ArrayType.ofComponent_eq_ok_iff.1 hmake
    rw [hr]
    exact ⟨_, rfl, BEq.refl component, fun t => covers_add pool component t _, by simp [hnew]⟩

/-- A reply that hands out the type `count` levels over a component and covers all levels below
it. -/
structure Grants (platform : Platform) (pool : ArrayPool) (component : JavaType) (count : Nat)
    (reply : Reply) : Prop where
  result : ∃ t, reply.result = .ok t ∧ t.HidesNoArray ∧
    (t == component.withDims platform count) = true
  covers : ∀ t, reply.pool.covers t =
    (pool.covers t || (List.range count).any fun k => component.withDims platform k == t)
  size : reply.pool.size =
    pool.size + (List.range count).countP fun k => !pool.covers (component.withDims platform k)

/-- Granted at its first level, a row of calls is granted at all of them: from the second on, the
component is an array. -/
theorem arrayOfEach_grants (platform : Platform) (h : pool.RestsOn ClassType.ClaimsNoArray)
    (hcomponent : component.HidesNoArray) {count : Nat}
    (hlimit : component.dimensions + count ≤ maxDimensions)
    (hgranted : 0 < count → component.isAnonymous = false ∨ pool.covers component = true) :
    Grants platform pool component count (pool.arrayOfEach component count) := by
  induction count generalizing pool component with
  | zero =>
      exact ⟨⟨component, rfl, hcomponent, BEq.refl component⟩, by simp [ArrayPool.arrayOfEach],
        by simp [ArrayPool.arrayOfEach]⟩
  | succ count ih =>
      obtain ⟨arr, hfirst, hsame, hcovers, hsize⟩ :=
        arrayOf_granted h.toWellFormed (by omega) (hgranted (Nat.succ_pos count))
      have harr : (JavaType.array arr).HidesNoArray := h.of_arrayOf_eq_ok hcomponent hfirst
      have hdimensions := harr.dimensions_array hcomponent hsame
      have hrest := ih (h.arrayOf hcomponent) harr (by omega) (fun _ => .inl rfl)
      have hlevel (k : Nat) : ((JavaType.array arr).withDims platform k ==
          component.withDims platform (k + 1)) = true :=
        JavaType.withDims_array_beq platform hsame k
      rw [arrayOfEach_succ_of_ok hfirst]
      refine ⟨?_, ?_, ?_⟩
      · obtain ⟨t, ht, hplain, hrestSame⟩ := hrest.result
        exact ⟨t, ht, hplain, BEq.trans hrestSame (hlevel count)⟩
      · intro t
        have hlevel_eq (k : Nat) : ((JavaType.array arr).withDims platform k == t) =
            (component.withDims platform (k + 1) == t) := BEq.congr_left (hlevel k)
        rw [Reply.pool_behind, hrest.covers, hcovers, List.range_succ_eq_map, List.any_cons,
          List.any_map, Bool.or_assoc]
        simp only [hlevel_eq]
        rfl
      · -- the first call covers its component, and that is none of the levels above it
        have hrestCovers (k : Nat) :
            (pool.arrayOf component).pool.covers ((JavaType.array arr).withDims platform k) =
              pool.covers (component.withDims platform (k + 1)) := by
          rw [hcovers, covers_congr pool (hlevel k), BEq.congr_right (hlevel k),
            JavaType.beq_withDims_succ_eq_false, Bool.or_false]
        have hzero : component.withDims platform 0 = component := rfl
        rw [Reply.pool_behind, hrest.size, hsize, List.range_succ_eq_map, List.countP_cons,
          List.countP_map, hzero]
        simp only [hrestCovers, Function.comp_def]
        by_cases hold : pool.covers component = true
        · simp [hold]
        · simp [hold]
          omega

end ArrayPool

end JvmTypes
