import JvmTypes.Declaration.Clause
import JvmTypes.Proofs.ArrayPool.Representation
/-!
# What a pool refuses

`arrayOf` refuses only what the plain making of array types refuses, for the same reason, and
then leaves the pool alone. It looks for an entry before it makes anything, though: once an array
type is kept for a component, it is handed out for every component that is the same type, also
for one that could not be made. Types are the same by name alone, so an anonymous class can be
the same type as a component that was granted before.
-/

namespace JvmTypes.ArrayPool

theorem result_arrayOf_eq_error_iff {pool : ArrayPool} {component : JavaType} {e : ArrayError} :
    (pool.arrayOf component).result = .error e ↔
      (pool.makeLoose component).result = .error e ∧ pool.find? component = none := by
  rw [result_makeLoose_eq_error_iff,
    ArrayType.ofComponent_eq_error_iff pool.platform component .loose (.kept pool.size)]
  obtain ⟨arr, hfind, hr⟩ | ⟨e', hfind, hmake, hr⟩ | ⟨arr, hfind, hmake, hr⟩ :=
    arrayOf_cases pool component
  · simp [hr, hfind]
  · simp [hr, hfind, hmake]
  · simp [hr, hmake]

theorem arrayOf_of_error {pool : ArrayPool} {component : JavaType} {e : ArrayError}
    (h : (pool.arrayOf component).result = .error e) :
    pool.arrayOf component = ⟨.error e, pool, [e.event]⟩ := by
  obtain ⟨_, _, hr⟩ | ⟨other, _, _, hr⟩ | ⟨_, _, _, hr⟩ := arrayOf_cases pool component
  · simp [hr] at h
  · rw [hr] at h ⊢
    rw [Except.error.inj h]
  · simp [hr] at h

theorem pool_arrayOf_of_error {pool : ArrayPool} {component : JavaType} {e : ArrayError}
    (h : (pool.arrayOf component).result = .error e) : (pool.arrayOf component).pool = pool := by
  rw [arrayOf_of_error h]

theorem result_makeLoose_of_isAnonymous (pool : ArrayPool) {component : JavaType}
    (h : component.isAnonymous = true) :
    (pool.makeLoose component).result = .error (.anonymousComponent component.display) := by
  rw [result_makeLoose_eq_error_iff, ArrayType.ofComponent, if_pos h]

/-- **Refusals.** After any requests to an empty pool, `arrayOf` refuses a component exactly if
the plain making refuses it, for the same reason, and no call succeeded before for a component
that is the same type; a refusal leaves the pool as it is. So the two refuse alike exactly if the
component can be made or is new, and an anonymous class is refused for being one exactly if it is
new. -/
theorem arrayOf_refuses_iff (platform : Platform) (requests : List ArrayRequest)
    (component : JavaType) :
    let pool := (empty platform).after requests
    let isNew := ∀ earlier ∈ granted ((empty platform).calls requests),
      (earlier == component) = false
    (∀ e, (pool.arrayOf component).result = .error e ↔
      (pool.makeLoose component).result = .error e ∧ isNew) ∧
    (∀ e, (pool.arrayOf component).result = .error e → (pool.arrayOf component).pool = pool) ∧
    ((∀ e, (pool.arrayOf component).result = .error e ↔
        (pool.makeLoose component).result = .error e) ↔
      (pool.makeLoose component).result.isOk = true ∨ isNew) ∧
    (component.isAnonymous = true →
      ((pool.arrayOf component).result = .error (.anonymousComponent component.display) ↔
        isNew)) := by
  intro pool isNew
  have hnone : pool.find? component = none ↔ isNew := find?_after_eq_none_iff
  have hrefuses (e : ArrayError) : (pool.arrayOf component).result = .error e ↔
      (pool.makeLoose component).result = .error e ∧ isNew := by
    rw [result_arrayOf_eq_error_iff, hnone]
  refine ⟨hrefuses, fun e => pool_arrayOf_of_error, ?_, ?_⟩
  · simp only [hrefuses]
    cases (pool.makeLoose component).result with
    | error e =>
        constructor
        · intro h
          exact .inr ((h e).2 rfl).2
        · rintro (hok | hnew) e'
          · contradiction
          · exact and_iff_left hnew
    | ok t => simp [Except.isOk, Except.toBool]
  · intro hanonymous
    rw [hrefuses, result_makeLoose_of_isAnonymous pool hanonymous]
    exact and_iff_right rfl

/-- A class and an anonymous class of the same binary name: the array type kept for the first is
handed out for the second, which cannot be made a component. -/
theorem anonymous_component_granted :
    let named : JavaType := .ofClass (.declared (.ofClauses (.source 0) "p.A$1" []))
    let anonymous : JavaType :=
      .ofClass (.declared (.ofClauses (.source 1) "p.A$1" [.anonymousIn named]))
    let pool := (empty .shared).after [.arrayOf named]
    anonymous.isAnonymous = true ∧
      (pool.makeLoose anonymous).result = .error (.anonymousComponent "p.A$1") ∧
      (pool.arrayOf anonymous).result = .ok (.array ⟨.shared, named, .kept 0⟩) := by
  refine ⟨rfl, rfl, rfl⟩

end JvmTypes.ArrayPool
