import JvmTypes.ArrayPool.Request
import JvmTypes.JavaType.IdentityLemmas
/-!
# Looking up and asking once

What a pool finds under a component, and the three things that `arrayOf` can do: hand out the
entry it finds, refuse the component, or add an entry behind the others. `arrayOf_cases` says all
of it; what later modules prove about pools goes through it and never unfolds `arrayOf`.
-/

namespace JvmTypes.ArrayPool

def keys (pool : ArrayPool) : List JavaType :=
  pool.entries.map (·.1)

@[simp] theorem keys_empty (platform : Platform) : (empty platform).keys = [] := rfl

@[simp] theorem keys_add (pool : ArrayPool) (component : JavaType) (arr : ArrayType) :
    (pool.add component arr).keys = pool.keys ++ [component] := by
  simp [keys, add]

/-! ## Looking up -/

theorem find?_eq_none_iff {pool : ArrayPool} {component : JavaType} :
    pool.find? component = none ↔ ∀ key ∈ pool.keys, (key == component) = false := by
  simp [find?, keys]

theorem exists_entry_of_find? {pool : ArrayPool} {component : JavaType} {arr : ArrayType}
    (h : pool.find? component = some arr) :
    ∃ key, (key, arr) ∈ pool.entries ∧ (key == component) = true := by
  obtain ⟨⟨key, found⟩, hfind, rfl⟩ := Option.map_eq_some_iff.1 h
  have hkey := List.find?_some hfind
  exact ⟨key, List.mem_of_find?_eq_some hfind, hkey⟩

theorem find?_congr (pool : ArrayPool) {a b : JavaType} (h : (a == b) = true) :
    pool.find? a = pool.find? b := by
  have hkey (key : JavaType) : (key == a) = (key == b) := BEq.congr_right h
  simp only [find?, hkey]

/-! ## Asking once -/

/-- `arrayOf` finds an entry, refuses the component, or adds an entry; it refuses and adds only
what the plain making of array types does. -/
theorem arrayOf_cases (pool : ArrayPool) (component : JavaType) :
    (∃ arr, pool.find? component = some arr ∧
      pool.arrayOf component = ⟨.ok (.array arr), pool, [.arrayFound component.display]⟩) ∨
    (∃ e, pool.find? component = none ∧
      ArrayType.ofComponent pool.platform component (.kept pool.size) = .error e ∧
      pool.arrayOf component = ⟨.error e, pool, [e.event]⟩) ∨
    (∃ arr, pool.find? component = none ∧
      ArrayType.ofComponent pool.platform component (.kept pool.size) = .ok arr ∧
      pool.arrayOf component =
        ⟨.ok (.array arr), pool.add component arr,
          [.arrayInterned arr.display arr.dimensions]⟩) := by
  unfold arrayOf
  cases hfind : pool.find? component with
  | some arr => exact .inl ⟨arr, rfl, rfl⟩
  | none =>
      cases hmake : ArrayType.ofComponent pool.platform component (.kept pool.size) with
      | error e => exact .inr (.inl ⟨e, rfl, rfl, rfl⟩)
      | ok arr => exact .inr (.inr ⟨arr, rfl, rfl, rfl⟩)

@[simp] theorem platform_arrayOf (pool : ArrayPool) (component : JavaType) :
    (pool.arrayOf component).pool.platform = pool.platform := by
  obtain ⟨_, _, h⟩ | ⟨_, _, _, h⟩ | ⟨_, _, _, h⟩ := arrayOf_cases pool component <;>
    simp [h]

theorem entries_prefix_arrayOf (pool : ArrayPool) (component : JavaType) :
    pool.entries <+: (pool.arrayOf component).pool.entries := by
  obtain ⟨_, _, h⟩ | ⟨_, _, _, h⟩ | ⟨arr, _, _, h⟩ := arrayOf_cases pool component
  · simp [h]
  · simp [h]
  · rw [h]
    exact List.prefix_append _ _

theorem find?_of_arrayOf_eq_ok {pool : ArrayPool} {component t : JavaType}
    (h : (pool.arrayOf component).result = .ok t) :
    ∃ arr, t = .array arr ∧ (pool.arrayOf component).pool.find? component = some arr := by
  obtain ⟨arr, hfind, hr⟩ | ⟨_, _, _, hr⟩ | ⟨arr, hfind, _, hr⟩ := arrayOf_cases pool component
  · rw [hr] at h ⊢
    exact ⟨arr, (Except.ok.inj h).symm, hfind⟩
  · simp [hr] at h
  · rw [hr] at h ⊢
    refine ⟨arr, (Except.ok.inj h).symm, ?_⟩
    simp [find?_add, hfind]

/-! ## Making without keeping -/

theorem result_makeLoose_eq_error_iff {pool : ArrayPool} {component : JavaType}
    {e : ArrayError} :
    (pool.makeLoose component).result = .error e ↔
      ArrayType.ofComponent pool.platform component .loose = .error e := by
  unfold makeLoose
  cases ArrayType.ofComponent pool.platform component .loose <;> simp

theorem result_makeLoose_eq_ok_iff {pool : ArrayPool} {component t : JavaType} :
    (pool.makeLoose component).result = .ok t ↔
      ∃ arr, t = .array arr ∧
        ArrayType.ofComponent pool.platform component .loose = .ok arr := by
  unfold makeLoose
  cases ArrayType.ofComponent pool.platform component .loose <;> simp [eq_comm]

end JvmTypes.ArrayPool
