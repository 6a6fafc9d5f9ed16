import JvmTypes.Proofs.ArrayPool.Representation
/-!
# One array type for one component

Entries stay where they are, so a call that succeeded names the entry that the pool keeps for its
component ever after (`Chain.find?_of_mem`). Two calls of a run therefore hand out one array type
if their components are the same type, and different ones otherwise, whatever lies between them.
That it is one, and not only an equal one, is told by its origin (`Chain.origin_eq_iff`).
-/

namespace JvmTypes

namespace ArrayPool

theorem find?_of_prefix {pool larger : ArrayPool} {component : JavaType} {arr : ArrayType}
    (h : pool.entries <+: larger.entries) (hfind : pool.find? component = some arr) :
    larger.find? component = some arr := by
  obtain ⟨more, hmore⟩ := h
  obtain ⟨entry, hentry, rfl⟩ := Option.map_eq_some_iff.1 hfind
  rw [find?, ← hmore, List.find?_append, hentry]
  rfl

end ArrayPool

/-! ## Along a chain -/

namespace Chain

open ArrayPool

variable {first last : ArrayPool} {calls : List Call}

theorem entries_prefix (h : Chain first calls last) : first.entries <+: last.entries := by
  induction h with
  | nil => exact List.prefix_refl _
  | cons _ ih => exact (entries_prefix_arrayOf _ _).trans ih

theorem entries_prefix_of_mem (h : Chain first calls last) {call : Call} (hmem : call ∈ calls) :
    call.reply.pool.entries <+: last.entries := by
  induction h with
  | nil => simp at hmem
  | cons hrest ih =>
      rcases List.mem_cons.1 hmem with rfl | hmem
      · exact hrest.entries_prefix
      · exact ih hmem

/-- A call that succeeds hands out what is kept under its component at the end of the chain. -/
theorem find?_of_mem (h : Chain first calls last) {call : Call} (hmem : call ∈ calls)
    {t : JavaType} (hok : call.reply.result = .ok t) :
    ∃ arr, t = .array arr ∧ call.reply.pool.find? call.component = some arr ∧
      last.find? call.component = some arr := by
  obtain ⟨arr, ht, hfind⟩ := find?_of_arrayOf_eq_ok hok
  exact ⟨arr, ht, hfind, find?_of_prefix (h.entries_prefix_of_mem hmem) hfind⟩

theorem wellFormed_of_mem (h : Chain first calls last) (hfirst : first.WellFormed) {call : Call}
    (hmem : call ∈ calls) : call.reply.pool.WellFormed := by
  have hasked : ∀ call ∈ calls, call.pool.WellFormed :=
    (h.invariant (fun _ component hpool => hpool.arrayOf component) hfirst).2
  exact (hasked call hmem).arrayOf call.component

theorem result_beq (h : Chain first calls last) (hfirst : first.WellFormed) {one two : Call}
    (hone : one ∈ calls) (htwo : two ∈ calls) {t u : JavaType}
    (ht : one.reply.result = .ok t) (hu : two.reply.result = .ok u) :
    (t == u) = (one.component == two.component) := by
  have hlast := h.wellFormed hfirst
  obtain ⟨a, rfl, _, ha⟩ := h.find?_of_mem hone ht
  obtain ⟨b, rfl, _, hb⟩ := h.find?_of_mem htwo hu
  have hcomponents : (JavaType.array a == JavaType.array b) = (a.component == b.component) :=
    ArrayType.same_eq a b
  have hfirstSame : (a.component == one.component) = true := (hlast.eq_of_find? ha).2
  have hsecondSame : (b.component == two.component) = true := (hlast.eq_of_find? hb).2
  rw [hcomponents, BEq.congr_left hfirstSame, BEq.congr_right hsecondSame]

/-- Calls that succeed give array types of one origin exactly for components that are the same
type. -/
theorem origin_eq_iff (h : Chain first calls last) (hfirst : first.WellFormed) {one two : Call}
    (hone : one ∈ calls) (htwo : two ∈ calls) {a b : ArrayType}
    (ha : one.reply.result = .ok (.array a)) (hb : two.reply.result = .ok (.array b)) :
    a.origin = b.origin ↔ (one.component == two.component) = true := by
  have hlast := h.wellFormed hfirst
  obtain ⟨_, hx, _, hkeptA⟩ := h.find?_of_mem hone ha
  obtain ⟨_, hy, _, hkeptB⟩ := h.find?_of_mem htwo hb
  obtain rfl := JavaType.array.inj hx
  obtain rfl := JavaType.array.inj hy
  constructor
  · intro horigin
    obtain ⟨i, hi, hnumberA, _⟩ := hlast.getElem?_of_find? hkeptA
    obtain ⟨j, hj, hnumberB, _⟩ := hlast.getElem?_of_find? hkeptB
    -- one origin is one number, and so one place in the table
    rw [hnumberA, hnumberB] at horigin
    rw [ArrayOrigin.kept.inj horigin, hj] at hi
    obtain ⟨_, rfl⟩ := Prod.mk.inj (Option.some.inj hi)
    exact BEq.trans (BEq.symm (hlast.eq_of_find? hkeptA).2) (hlast.eq_of_find? hkeptB).2
  · intro hsame
    rw [find?_congr last hsame, hkeptB] at hkeptA
    rw [Option.some.inj hkeptA]

theorem same_entry (h : Chain first calls last) (hfirst : first.WellFormed) {one two : Call}
    (hone : one ∈ calls) (htwo : two ∈ calls) {t u : JavaType}
    (ht : one.reply.result = .ok t) (hu : two.reply.result = .ok u)
    (hsame : (one.component == two.component) = true) :
    ∃ (arr : ArrayType) (number : Nat), t = .array arr ∧ u = .array arr ∧
      arr.origin = .kept number ∧
      one.reply.pool.entries[number]? = some (arr.component, arr) ∧
      two.reply.pool.entries[number]? = some (arr.component, arr) ∧
      last.find? one.component = some arr := by
  obtain ⟨arr, rfl, hkept, hlast⟩ := h.find?_of_mem hone ht
  obtain ⟨arr', rfl, hkept', hlast'⟩ := h.find?_of_mem htwo hu
  obtain rfl : arr = arr' := by
    rw [find?_congr last hsame, hlast'] at hlast
    exact (Option.some.inj hlast).symm
  obtain ⟨i, hi, hnumber, _⟩ := (h.wellFormed_of_mem hfirst hone).getElem?_of_find? hkept
  obtain ⟨j, hj, hnumber', _⟩ := (h.wellFormed_of_mem hfirst htwo).getElem?_of_find? hkept'
  obtain rfl : i = j := ArrayOrigin.kept.inj (hnumber.symm.trans hnumber')
  exact ⟨arr, i, rfl, rfl, hnumber, hi, hj, hlast⟩

end Chain

namespace Call

theorem pool_reply_eq (call : Call)
    (h : call.succeeds = false ∨ ∃ key ∈ call.pool.keys, (key == call.component) = true) :
    call.reply.pool = call.pool := by
  obtain ⟨_, _, hr⟩ | ⟨_, _, _, hr⟩ | ⟨arr, hfind, _, hr⟩ :=
    ArrayPool.arrayOf_cases call.pool call.component
  · rw [reply, hr]
  · rw [reply, hr]
  · rcases h with hfails | ⟨key, hkey, hsame⟩
    · rw [succeeds, reply, hr] at hfails
      contradiction
    · rw [ArrayPool.find?_eq_none_iff.1 hfind key hkey] at hsame
      contradiction

theorem size_reply_eq (call : Call) (hok : call.succeeds = true)
    (hnew : ∀ key ∈ call.pool.keys, (key == call.component) = false) :
    call.reply.pool.size = call.pool.size + 1 := by
  have hnone := ArrayPool.find?_eq_none_iff.2 hnew
  obtain ⟨_, hfind, _⟩ | ⟨_, _, _, hr⟩ | ⟨arr, _, _, hr⟩ :=
    ArrayPool.arrayOf_cases call.pool call.component
  · rw [hnone] at hfind
    contradiction
  · rw [succeeds, reply, hr] at hok
    contradiction
  · rw [reply, hr, ArrayPool.size_add]

end Call

namespace ArrayPool

/-- **Canonical interning.** In a run from an empty pool no call removes or replaces an entry,
and the origin of each entry is the number of its place. Two calls that succeed give equal array
types exactly if their components are the same type. Exactly then these have one origin, and both
are one and the same entry, made over the first component of that type that a call succeeded for.
A call adds one entry if it succeeds for a component that is no key, and none otherwise. -/
theorem interning_canonical (platform : Platform) (requests : List ArrayRequest) :
    let calls := (empty platform).calls requests
    let last := (empty platform).after requests
    (∀ call ∈ calls, call.pool.entries <+: call.reply.pool.entries ∧
      call.reply.pool.entries <+: last.entries) ∧
    (∀ (number : Nat) (key : JavaType) (arr : ArrayType),
      last.entries[number]? = some (key, arr) → arr.origin = .kept number) ∧
    (∀ first ∈ calls, ∀ second ∈ calls, ∀ t u,
      first.reply.result = .ok t → second.reply.result = .ok u →
        (t == u) = (first.component == second.component) ∧
        (∃ a b : ArrayType, t = .array a ∧ u = .array b ∧
          (a.origin = b.origin ↔ (first.component == second.component) = true)) ∧
        ((first.component == second.component) = true →
          ∃ (arr : ArrayType) (number : Nat), t = .array arr ∧ u = .array arr ∧
            arr.origin = .kept number ∧
            first.reply.pool.entries[number]? = some (arr.component, arr) ∧
            second.reply.pool.entries[number]? = some (arr.component, arr) ∧
            (granted calls).find? (· == first.component) = some arr.component)) ∧
    (∀ call ∈ calls,
      (call.succeeds = true → (∀ key ∈ call.pool.keys, (key == call.component) = false) →
        call.reply.pool.size = call.pool.size + 1) ∧
      (call.succeeds = false ∨ (∃ key ∈ call.pool.keys, (key == call.component) = true) →
        call.reply.pool.size = call.pool.size)) := by
  intro calls last
  have hchain : Chain (empty platform) calls last := chain_calls (empty platform) requests
  have hempty := wellFormed_empty platform
  refine ⟨?_, ?_, ?_, ?_⟩
  · intro call hmem
    exact ⟨entries_prefix_arrayOf call.pool call.component, hchain.entries_prefix_of_mem hmem⟩
  · intro number key arr hentry
    have hmade := (hchain.wellFormed hempty).made number key arr hentry
    rw [(ArrayType.ofComponent_eq_ok_iff.1 hmade).2.2]
  · intro first hfirst second hsecond t u ht hu
    refine ⟨hchain.result_beq hempty hfirst hsecond ht hu, ?_, ?_⟩
    · obtain ⟨a, rfl, _⟩ := hchain.find?_of_mem hfirst ht
      obtain ⟨b, rfl, _⟩ := hchain.find?_of_mem hsecond hu
      exact ⟨a, b, rfl, rfl, hchain.origin_eq_iff hempty hfirst hsecond ht hu⟩
    · intro hsame
      obtain ⟨arr, number, hta, hua, hnumber, hone, htwo, hkept⟩ :=
        hchain.same_entry hempty hfirst hsecond ht hu hsame
      refine ⟨arr, number, hta, hua, hnumber, hone, htwo, ?_⟩
      have hearliest := hchain.component_of_find? first.component
      rw [hkept, find?_empty, Option.map_none, Option.none_or] at hearliest
      exact hearliest.symm
  · intro call _
    refine ⟨call.size_reply_eq, ?_⟩
    intro h
    rw [call.pool_reply_eq h]

end ArrayPool

end JvmTypes
