import JvmTypes.Proofs.RuntimeClass.Dimensions
/-!
# Runtime classes that arise

From the classes of primitives and of named types, adding dimensions and taking them off leads to
every runtime class but the arrays of `void` (`arises_iff`). Among these classes the two ways are
inverse to each other: what was added can be taken off again (`componentTypes_of_addDimensions`),
and of an array one dimension can be taken off and put back (`addDimension?_of_componentType?`).
The byte that counts the dimensions holds every sum that the limit lets through.
-/

namespace JvmTypes

namespace RuntimeClass

variable {c d : RuntimeClass}

/-- A class comes from that of a primitive or a name, by dimensions added and taken off in any
order. -/
inductive Arises : RuntimeClass → Prop
  | primitive (kind : Primitive) : Arises (.primitive kind)
  | named (binaryName : String) : Arises (.named binaryName)
  | arrayOf {c d : RuntimeClass} {count : UInt64} (h : Arises c) (hd : c.arrayOf count = .ok d) :
      Arises d
  | componentType {c d : RuntimeClass} (h : Arises c) (hd : c.componentType? = some d) : Arises d

/-! ## Taking off a dimension -/

theorem componentType?_eq_some_iff :
    c.componentType? = some d ↔ c.isArray = true ∧ d = ⟨c.element, c.dimensions - 1⟩ := by
  rw [componentType?]
  by_cases harray : c.isArray = true
  · simp [harray, eq_comm]
  · simp [harray]

theorem dimensions_of_componentType? (h : c.componentType? = some d) :
    c.dimensions.toNat = d.dimensions.toNat + 1 := by
  obtain ⟨harray, rfl⟩ := componentType?_eq_some_iff.1 h
  rw [isArray_eq, bne_iff_ne] at harray
  have hpos : 1 ≤ c.dimensions.toNat := Nat.one_le_iff_ne_zero.2 harray
  have hle : (1 : UInt8) ≤ c.dimensions := UInt8.le_iff_toNat_le.2 hpos
  rw [UInt8.toNat_sub_of_le _ _ hle]
  exact (Nat.sub_add_cancel hpos).symm

theorem addDimension?_of_componentType? (hvoid : c.element.isVoid = false)
    (h : c.componentType? = some d) : d.addDimension? = some c := by
  have hdimensions := dimensions_of_componentType? h
  have hlimit := c.dimensions_le
  obtain ⟨_, rfl⟩ := componentType?_eq_some_iff.1 h
  refine addDimension?_eq_some_iff.2 (addDimensions_eq_ok_iff.2 ⟨Nat.one_pos, hvoid, ?_, ?_⟩)
  · rw [← hdimensions]
    exact hlimit
  · rw [← hdimensions, UInt8.ofNat_toNat]

theorem componentTypes_of_addDimensions {count : Nat} (h : c.addDimensions count = .ok d) :
    (Option.bind · componentType?)^[count] (some d) = some c := by
  have hpos : 0 < count := (addDimensions_eq_ok_iff.1 h).1
  have hsteps : (Option.bind · addDimension?)^[count] (some c) = some d := by
    rw [← bind_addDimensions_eq_iterate (some c) hpos]
    exact toOption_eq_some_iff.2 h
  clear h hpos
  -- the dimension added last is the first to be taken off
  induction count generalizing d with
  | zero => exact hsteps.symm
  | succ count ih =>
      rw [Function.iterate_succ_apply'] at hsteps
      obtain ⟨previous, hprevious, hlast⟩ := Option.bind_eq_some_iff.1 hsteps
      rw [Function.iterate_succ_apply, Option.bind_some, componentType?_of_addDimension? hlast]
      exact ih hprevious

/-! ## What arises -/

theorem arises_of_not_isArray (h : c.isArray = false) : Arises c := by
  obtain ⟨element, dimensions⟩ := c
  obtain rfl : dimensions = 0 := by simpa [isArray] using h
  cases element with
  | primitive kind => exact .primitive kind
  | named binaryName => exact .named binaryName

/-- There are no arrays of `void`, and every other class arises. -/
theorem arises_iff : Arises c ↔ c.element.isVoid = false ∨ c.isArray = false := by
  constructor
  · intro h
    induction h with
    | primitive kind => exact .inr rfl
    | named binaryName => exact .inr rfl
    | @arrayOf c d count _ hd _ =>
        obtain ⟨_, hvoid, _, rfl⟩ := arrayOfTotal_eq_ok_iff.1 hd
        exact .inl hvoid
    | @componentType c d _ hd ih =>
        obtain ⟨harray, rfl⟩ := componentType?_eq_some_iff.1 hd
        rw [harray] at ih
        exact .inl (ih.resolve_right Bool.noConfusion)
  · rintro (hvoid | hplain)
    · -- one dimension at a time is added to the class of the element
      obtain ⟨element, dimensions⟩ := c
      have hsteps (n : Nat) (hn : n ≤ maxDimensions) : Arises ⟨element, UInt8.ofNat n⟩ := by
        induction n with
        | zero => exact arises_of_not_isArray rfl
        | succ n ih =>
            have hbyte : (UInt8.ofNat n).toNat = n := toNat_ofNat_of_le (by omega)
            have hnext : arrayOf ⟨element, UInt8.ofNat n⟩ 1 =
                .ok ⟨element, UInt8.ofNat (n + 1)⟩ := by
              rw [arrayOf_one, addDimensions_eq_ok_iff, hbyte]
              exact ⟨Nat.one_pos, hvoid, hn, rfl⟩
            exact (ih (by omega)).arrayOf hnext
      have hall := hsteps _ (dimensions_le ⟨element, dimensions⟩)
      rw [UInt8.ofNat_toNat] at hall
      exact hall
    · exact arises_of_not_isArray hplain

theorem exists_addDimensions_iff {count : Nat} (hpos : 0 < count) :
    (∃ d, c.addDimensions count = .ok d) ↔
      c.element.isVoid = false ∧ c.dimensions.toNat + count ≤ maxDimensions := by
  constructor
  · rintro ⟨d, hd⟩
    obtain ⟨_, hvoid, hlimit, _⟩ := addDimensions_eq_ok_iff.1 hd
    exact ⟨hvoid, hlimit⟩
  · rintro ⟨hvoid, hlimit⟩
    exact ⟨_, addDimensions_eq_ok_iff.2 ⟨hpos, hvoid, hlimit, rfl⟩⟩

theorem arrayOf_add (c : RuntimeClass) {i j : UInt64} (hi : 0 < i) (hj : 0 < j)
    (hsum : c.dimensions.toNat + i.toNat + j.toNat < UInt64.size) :
    (c.arrayOf (i + j)).toOption =
      (c.arrayOf i).toOption.bind fun d => (d.arrayOf j).toOption := by
  have hword : (i + j).toNat = i.toNat + j.toNat := toNat_add_of_lt (by omega)
  have hsecond : ∀ d ∈ (c.addDimensions i.toNat).toOption,
      (d.arrayOf j).toOption = (d.addDimensions j.toNat).toOption := by
    intro d hd
    have hdimensions := dimensions_of_addDimensions (toOption_eq_some_iff.1 hd)
    rw [arrayOf_eq_addDimensions (by omega)]
  rw [arrayOf_eq_addDimensions (by omega), arrayOf_eq_addDimensions (by omega), hword,
    addDimensions_add c (UInt64.lt_iff_toNat_lt.1 hi) (UInt64.lt_iff_toNat_lt.1 hj)]
  exact Option.bind_congr fun d hd => (hsecond d hd).symm

/-- **Dimensions added and taken off.** Let a class arise from primitives and names, and let `i`
and `j` be positive, where adding both to its dimensions does not wrap around. The class with `i`
more dimensions exists exactly if its element is not `void` and the limit is kept; it has the
same element and `i` dimensions more, none of them lost in the byte. To add `i` and then `j` is
to add both at once, and taking off as many as were added leads back. Of an array one dimension
can be taken off and put back. An element `void` has no dimensions. -/
theorem arising_dimensions (h : Arises c) {i j : UInt64} (hi : 0 < i) (hj : 0 < j)
    (hsum : c.dimensions.toNat + i.toNat + j.toNat < UInt64.size) :
    ((∃ d, c.arrayOf i = .ok d) ↔
      c.element.isVoid = false ∧ c.dimensions.toNat + i.toNat ≤ maxDimensions) ∧
    (∀ d, c.arrayOf i = .ok d →
      d.element = c.element ∧ d.dimensions.toNat = c.dimensions.toNat + i.toNat) ∧
    ((c.arrayOf i).toOption.bind fun d => (d.arrayOf j).toOption) =
      (c.arrayOf (i + j)).toOption ∧
    (∀ d, c.arrayOf i = .ok d → (Option.bind · componentType?)^[i.toNat] (some d) = some c) ∧
    (c.isArray = true → ∃ d, c.componentType? = some d ∧ d.arrayOf 1 = .ok c) ∧
    (c.element.isVoid = true → c.dimensions.toNat = 0) := by
  have hvoidOrPlain : c.element.isVoid = false ∨ c.isArray = false := arises_iff.1 h
  have hexact : c.arrayOf i = c.addDimensions i.toNat := arrayOf_eq_addDimensions (by omega)
  refine ⟨?_, ?_, (arrayOf_add c hi hj hsum).symm, ?_, ?_, ?_⟩
  · rw [hexact]
    exact exists_addDimensions_iff (UInt64.lt_iff_toNat_lt.1 hi)
  · intro d hd
    rw [hexact] at hd
    exact ⟨element_of_addDimensions hd, dimensions_of_addDimensions hd⟩
  · intro d hd
    rw [hexact] at hd
    exact componentTypes_of_addDimensions hd
  · intro harray
    rw [harray] at hvoidOrPlain
    have hvoid : c.element.isVoid = false := hvoidOrPlain.resolve_right Bool.noConfusion
    have hcomponent : c.componentType? = some ⟨c.element, c.dimensions - 1⟩ :=
      componentType?_eq_some_iff.2 ⟨harray, rfl⟩
    have hback := addDimension?_of_componentType? hvoid hcomponent
    exact ⟨_, hcomponent, toOption_eq_some_iff.1 hback⟩
  · intro hvoid
    rw [hvoid] at hvoidOrPlain
    have hplain := hvoidOrPlain.resolve_left Bool.noConfusion
    rw [isArray_eq, bne_eq_false_iff_eq] at hplain
    exact hplain

/-- A class of 253 dimensions, reached by going up to 254 and one down: two more fit, three do
not. -/
theorem arising_dimensions_up_to_limit :
    let c : RuntimeClass := ⟨.named "p.A", 253⟩
    Arises c ∧ c.arrayOf 2 = .ok ⟨.named "p.A", 255⟩ ∧
      (Option.bind · componentType?)^[2] (some ⟨.named "p.A", 255⟩) = some c ∧
      (¬ ∃ d, c.arrayOf 3 = .ok d) ∧
      ((c.arrayOf 2).toOption.bind fun d => (d.arrayOf 1).toOption) = none := by
  intro c
  have hup : (named "p.A").arrayOf 254 = .ok ⟨.named "p.A", 254⟩ := rfl
  have hc : Arises c := ((Arises.named "p.A").arrayOf hup).componentType rfl
  have hone : (0 : UInt64) < 1 := by decide
  have htwo : (0 : UInt64) < 2 := by decide
  have hthree : (0 : UInt64) < 3 := by decide
  have hmore : c.arrayOf 2 = .ok ⟨.named "p.A", 255⟩ := rfl
  obtain ⟨_, _, htogether, hback, _, _⟩ := arising_dimensions hc htwo hone (by decide)
  obtain ⟨hexists, _⟩ := arising_dimensions hc hthree hone (by decide)
  refine ⟨hc, hmore, hback _ hmore, ?_, htogether.trans rfl⟩
  rw [hexists]
  exact fun hfits => absurd hfits.2 (by decide)

/-- Where the sum wraps around, adding dimensions can lead to a class without any. -/
example : arrayOf ⟨.primitive .int, 1⟩ 18446744073709551615 = .ok (primitive .int) := rfl

end RuntimeClass

end JvmTypes
