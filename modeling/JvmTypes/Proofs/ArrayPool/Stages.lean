import JvmTypes.Proofs.ArrayPool.Outcome
/-!
# Dimensions in stages

To ask for some dimensions and then, on what comes back, for some more is to ask for all of them
at once (`arrayOfDims_in_stages`). For the calls of `arrayOf` behind the requests this is so by
what they are (`arrayOfEach_add`). The limit is checked anew before the second stage, though,
against a type that may have been kept for another component; it has to have as many dimensions
as were asked for (`dimensions_of_arrayOfDims_eq_ok`).
-/

namespace JvmTypes

/-! ## Going on from a reply -/

namespace Reply

/-- A refusal stands; a type is handed on together with the pool that the first reply left. -/
def andThen (first : Reply) (next : ArrayPool → JavaType → Reply) : Reply :=
  match first.result with
  | .error _ => first
  | .ok t => (next first.pool t).behind first.log

variable {first : Reply}

theorem andThen_of_error {e : ArrayError} (h : first.result = .error e)
    (next : ArrayPool → JavaType → Reply) : first.andThen next = first := by
  simp only [andThen, h]

theorem andThen_of_ok {t : JavaType} (h : first.result = .ok t)
    (next : ArrayPool → JavaType → Reply) :
    first.andThen next = (next first.pool t).behind first.log := by
  simp only [andThen, h]

theorem andThen_congr {next other : ArrayPool → JavaType → Reply}
    (h : ∀ t, first.result = .ok t → next first.pool t = other first.pool t) :
    first.andThen next = first.andThen other := by
  cases hfirst : first.result with
  | error e => rw [andThen_of_error hfirst, andThen_of_error hfirst]
  | ok t => rw [andThen_of_ok hfirst, andThen_of_ok hfirst, h t hfirst]

theorem behind_andThen (log : List Log.Event) (reply : Reply)
    (next : ArrayPool → JavaType → Reply) :
    (reply.behind log).andThen next = (reply.andThen next).behind log := by
  cases hreply : reply.result with
  | error e =>
      have hbehind : (reply.behind log).result = .error e := hreply
      rw [andThen_of_error hreply, andThen_of_error hbehind]
  | ok t =>
      have hbehind : (reply.behind log).result = .ok t := hreply
      rw [andThen_of_ok hreply, andThen_of_ok hbehind]
      simp only [behind, List.append_assoc]

theorem andThen_assoc (first : Reply) (next last : ArrayPool → JavaType → Reply) :
    (first.andThen next).andThen last =
      first.andThen fun pool t => (next pool t).andThen last := by
  cases hfirst : first.result with
  | error e => simp only [andThen_of_error hfirst]
  | ok t => rw [andThen_of_ok hfirst, andThen_of_ok hfirst, behind_andThen]

end Reply

namespace ArrayPool

variable {pool : ArrayPool} {component : JavaType}

/-! ## Calls in stages -/

theorem arrayOfEach_zero_andThen (pool : ArrayPool) (component : JavaType)
    (next : ArrayPool → JavaType → Reply) :
    (pool.arrayOfEach component 0).andThen next = next pool component := rfl

theorem arrayOfEach_succ (pool : ArrayPool) (component : JavaType) (count : Nat) :
    pool.arrayOfEach component (count + 1) =
      (pool.arrayOf component).andThen fun pool arr => pool.arrayOfEach arr count := rfl

theorem arrayOfEach_add (pool : ArrayPool) (component : JavaType) (m n : Nat) :
    pool.arrayOfEach component (m + n) =
      (pool.arrayOfEach component m).andThen fun pool t => pool.arrayOfEach t n := by
  induction m generalizing pool component with
  | zero => rw [Nat.zero_add, arrayOfEach_zero_andThen]
  | succ m ih =>
      rw [Nat.succ_add, arrayOfEach_succ, arrayOfEach_succ, Reply.andThen_assoc]
      simp only [ih]

theorem exists_of_arrayOfEach (h : pool.RestsOn ClassType.ClaimsNoArray)
    (hcomponent : component.HidesNoArray) {count : Nat}
    (hlimit : component.dimensions + count ≤ maxDimensions)
    (hgranted : 0 < count → component.isAnonymous = false ∨ pool.covers component = true) :
    ∃ t, (pool.arrayOfEach component count).result = .ok t ∧ t.HidesNoArray ∧
      t.dimensions = component.dimensions + count := by
  obtain ⟨t, ht, hplain, hsame⟩ :=
    (arrayOfEach_grants .shared h hcomponent hlimit hgranted).result
  refine ⟨t, ht, hplain, ?_⟩
  -- what comes back may be over another component, but it is the same type as the level
  have hlevel := hcomponent.withDims .shared count
  rw [hplain.dimensions_eq_of_beq hlevel hsame, hcomponent.dimensions_withDims]

/-! ## Requests in stages -/

theorem dimensions_of_arrayOfDims_eq_ok (h : pool.RestsOn ClassType.ClaimsNoArray)
    (hcomponent : component.HidesNoArray) {count : UInt64}
    (hlimit : component.dimensions + count.toNat ≤ maxDimensions) {t : JavaType}
    (hok : (pool.arrayOfDims component count).result = .ok t) :
    t.dimensions = component.dimensions + count.toNat := by
  have hnone : pool.refusal? component count.toNat = none := by
    cases hrefusal : pool.refusal? component count.toNat with
    | none => rfl
    | some e =>
        have hsum := lt_size_of_le (Nat.le_succ_of_le hlimit)
        rw [(arrayOfDims_refused hsum hrefusal).1] at hok
        contradiction
  obtain ⟨_, hgranted⟩ := refusal?_eq_none_iff.1 hnone
  obtain ⟨u, hu, _, hdimensions⟩ := exists_of_arrayOfEach h hcomponent hlimit hgranted
  rw [arrayOfDims_of_add_le hlimit, hu] at hok
  rw [← Except.ok.inj hok]
  exact hdimensions

/-- **Additivity.** After requests to an empty pool about types that hide no array, take a
component and two numbers of dimensions that stay within the limit together. To ask for both at
once has the result, the pool and the log of asking for the first, and then, unless this is
refused, for the second on the type that came back. -/
theorem arrayOfDims_in_stages (platform : Platform) {requests : List ArrayRequest}
    {component : JavaType} (hrequests : ∀ request ∈ requests, request.component.HidesNoArray)
    (hcomponent : component.HidesNoArray) {m n : UInt64}
    (hlimit : component.dimensions + m.toNat + n.toNat ≤ maxDimensions) :
    let pool := (empty platform).after requests
    pool.arrayOfDims component (m + n) =
      (pool.arrayOfDims component m).andThen fun pool t => pool.arrayOfDims t n := by
  intro pool
  have hpool : pool.RestsOn ClassType.ClaimsNoArray :=
    (restsOn_empty platform _).after hrequests
  have hsum : (m + n).toNat = m.toNat + n.toNat :=
    toNat_add_of_lt (lt_size_of_le (by omega))
  have hfirst : component.dimensions + m.toNat ≤ maxDimensions := by omega
  have hall : component.dimensions + (m + n).toNat ≤ maxDimensions := by omega
  calc
    pool.arrayOfDims component (m + n) = pool.arrayOfEach component (m.toNat + n.toNat) := by
      rw [arrayOfDims_of_add_le hall, hsum]
    _ = (pool.arrayOfEach component m.toNat).andThen
          fun pool t => pool.arrayOfEach t n.toNat :=
      arrayOfEach_add pool component m.toNat n.toNat
    _ = (pool.arrayOfDims component m).andThen fun pool t => pool.arrayOfEach t n.toNat := by
      rw [arrayOfDims_of_add_le hfirst]
    _ = (pool.arrayOfDims component m).andThen fun pool t => pool.arrayOfDims t n := by
      apply Reply.andThen_congr
      intro t hok
      -- the second stage starts where the first was to end, so its own check passes
      have hdimensions := dimensions_of_arrayOfDims_eq_ok hpool hcomponent hfirst hok
      exact (arrayOfDims_of_add_le (by omega)).symm

/-- Three dimensions over an anonymous class, as one and two. Where its name is kept, the first
stage comes back with an array type over another class, and the second goes on from that. Where
it is not kept, the first stage is refused and there is no second. -/
theorem arrayOfDims_in_stages_over_kept_name :
    let named : JavaType := .ofClass (.declared (.ofClauses (.source 0) "p.A$1" []))
    let anonymous : JavaType :=
      .ofClass (.declared (.ofClauses (.source 1) "p.A$1" [.anonymousIn named]))
    let requests : List ArrayRequest := [.arrayOf named]
    let pool := (empty .shared).after requests
    let refused := (empty .shared).arrayOfDims anonymous 1
    (∀ request ∈ requests, request.component.HidesNoArray) ∧ anonymous.HidesNoArray ∧
      anonymous.dimensions + (1 : UInt64).toNat + (2 : UInt64).toNat ≤ maxDimensions ∧
      (pool.arrayOfDims anonymous 1).result = .ok (.array ⟨.shared, named, .kept 0⟩) ∧
      pool.arrayOfDims anonymous 3 =
        (pool.arrayOfDims anonymous 1).andThen (fun pool t => pool.arrayOfDims t 2) ∧
      refused.result = .error (.anonymousComponent "p.A$1") ∧
      (empty .shared).arrayOfDims anonymous 3 = refused := by
  intro named anonymous requests pool refused
  have hnamed : named.HidesNoArray := JavaType.hidesNoArray_declared _
  have hanonymous : anonymous.HidesNoArray := JavaType.hidesNoArray_declared _
  have hrequests : ∀ request ∈ requests, request.component.HidesNoArray :=
    List.forall_mem_singleton.2 hnamed
  have hlimit : anonymous.dimensions + (1 : UInt64).toNat + (2 : UInt64).toNat ≤
      maxDimensions := by decide
  have hnone : ∀ request ∈ ([] : List ArrayRequest), request.component.HidesNoArray :=
    List.forall_mem_nil _
  have hrefused : refused.result = .error (.anonymousComponent "p.A$1") := rfl
  have hall := arrayOfDims_in_stages .shared hnone hanonymous hlimit
  exact ⟨hrequests, hanonymous, hlimit, rfl,
    arrayOfDims_in_stages .shared hrequests hanonymous hlimit, hrefused,
    hall.trans (Reply.andThen_of_error hrefused _)⟩

/-! ## Sums that wrap around -/

/-- **Too many dimensions for a word.** After requests to an empty pool about types that hide no
array, let the dimensions of a component together with those asked for wrap around. The request
is let through then, unless the component is an anonymous class that is not covered. All levels
up to the limit are made, and only the one beyond it is refused, with the others kept and
logged. -/
theorem arrayOfDims_wrapped (platform : Platform) {requests : List ArrayRequest}
    {component : JavaType} (hrequests : ∀ request ∈ requests, request.component.HidesNoArray)
    (hcomponent : component.HidesNoArray) (hlimit : component.dimensions ≤ maxDimensions)
    {count : UInt64} (hsum : UInt64.size ≤ component.dimensions + count.toNat)
    (hgranted : component.isAnonymous = false ∨
      ((empty platform).after requests).covers component = true) :
    let pool := (empty platform).after requests
    let made := pool.arrayOfEach component (maxDimensions - component.dimensions)
    let refusal : ArrayError := .tooManyDimensions (maxDimensions + 1)
    made.result.isOk = true ∧
      pool.arrayOfDims component count =
        ⟨.error refusal, made.pool, made.log ++ [refusal.event]⟩ := by
  intro pool made refusal
  have hpool : pool.RestsOn ClassType.ClaimsNoArray :=
    (restsOn_empty platform _).after hrequests
  have hmax : maxDimensions + 1 < UInt64.size := lt_size_of_le (Nat.le_refl _)
  have hword : count.toNat < UInt64.size := count.toNat_lt
  have hthrough : dimensionSum component.dimensions count ≤ maxDimensions := by
    rw [dimensionSum_eq_mod, Nat.mod_eq_sub_mod hsum, Nat.mod_eq_of_lt (by omega)]
    omega
  obtain ⟨rest, hrest⟩ :
      ∃ rest, count.toNat = (maxDimensions - component.dimensions) + (rest + 1) :=
    ⟨count.toNat - (maxDimensions - component.dimensions) - 1, by omega⟩
  have hroom : component.dimensions + (maxDimensions - component.dimensions) = maxDimensions :=
    Nat.add_sub_cancel' hlimit
  obtain ⟨t, ht, hplain, hdimensions⟩ :=
    exists_of_arrayOfEach hpool hcomponent (Nat.le_of_eq hroom) fun _ => hgranted
  -- the row has come to the limit, and the next call is the last
  have hfull : t.dimensions = maxDimensions := hdimensions.trans hroom
  have hmade : made.pool.RestsOn ClassType.ClaimsNoArray := hpool.arrayOfEach hcomponent _
  have hlast : (made.pool.arrayOf t).result = .error refusal := by
    rw [arrayOf_of_lt hmade hplain (by omega), hfull]
  refine ⟨by rw [ht]; rfl, ?_⟩
  calc
    pool.arrayOfDims component count =
        made.andThen fun pool t => pool.arrayOfEach t (rest + 1) := by
      rw [arrayOfDims_of_le hthrough, hrest, arrayOfEach_add]
    _ = (made.pool.arrayOf t).behind made.log := by
      rw [Reply.andThen_of_ok ht, arrayOfEach_succ_of_error hlast]
    _ = ⟨.error refusal, made.pool, made.log ++ [refusal.event]⟩ := by
      rw [arrayOf_of_error hlast]
      rfl

end ArrayPool

end JvmTypes
