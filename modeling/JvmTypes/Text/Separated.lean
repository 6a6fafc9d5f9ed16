/-!
# Cutting text at a separator

`splitLast sep s` cuts `s` at the last `sep`; `afterLast` and `beforeLast` are its two parts,
with the whole text or no text where there is no separator. `withoutDigits` drops leading digits,
of which only the ten of ASCII count.
-/

namespace JvmTypes.Text

/-- The text before and after the last separator, or nothing if there is none. -/
def splitLast (sep : Char) : List Char → Option (List Char × List Char)
  | [] => none
  | c :: rest =>
    match splitLast sep rest with
    | some (before, after) => some (c :: before, after)
    | none => if c = sep then some ([], rest) else none

theorem splitLast_eq_none_iff {sep : Char} {s : List Char} :
    splitLast sep s = none ↔ sep ∉ s := by
  induction s with
  | nil => simp [splitLast]
  | cons c rest ih =>
      rw [splitLast]
      cases h : splitLast sep rest with
      | some parts => simp_all
      | none =>
          have hn := ih.1 h
          by_cases hc : c = sep
          · simp [hc]
          · simpa [hc, hn] using Ne.symm hc

/-- Cutting loses only the separator, and none is left in the second part. -/
theorem splitLast_eq_some_iff {sep : Char} {s before after : List Char} :
    splitLast sep s = some (before, after) ↔ s = before ++ sep :: after ∧ sep ∉ after := by
  induction s generalizing before after with
  | nil => simp [splitLast]
  | cons c rest ih =>
      rw [splitLast]
      cases h : splitLast sep rest with
      | some parts =>
          obtain ⟨b, a⟩ := parts
          have hb := ih.1 h
          constructor
          · rintro ⟨⟩
            exact ⟨by rw [hb.1]; rfl, hb.2⟩
          · rintro ⟨hs, ha⟩
            cases before with
            | nil =>
                simp only [List.nil_append, List.cons.injEq] at hs
                exact absurd (by rw [← hs.2, hb.1]; simp) ha
            | cons d before =>
                simp only [List.cons_append, List.cons.injEq] at hs
                have hparts := Option.some.inj (h.symm.trans (ih.2 ⟨hs.2, ha⟩))
                obtain ⟨rfl, rfl⟩ := Prod.mk.inj hparts
                rw [hs.1]
      | none =>
          have hn := splitLast_eq_none_iff.1 h
          constructor
          · intro hs
            by_cases hc : c = sep
            · simp only [hc, if_true, Option.some.injEq, Prod.mk.injEq] at hs
              rw [← hs.1, ← hs.2, hc]
              exact ⟨rfl, hn⟩
            · simp [hc] at hs
          · rintro ⟨hs, ha⟩
            cases before with
            | nil =>
                simp only [List.nil_append, List.cons.injEq] at hs
                simp [hs.1, hs.2]
            | cons d before =>
                simp only [List.cons_append, List.cons.injEq] at hs
                exact absurd (by rw [hs.2]; simp) hn

def afterLast (sep : Char) (s : List Char) : List Char :=
  match splitLast sep s with
  | some (_, after) => after
  | none => s

def beforeLast (sep : Char) (s : List Char) : List Char :=
  match splitLast sep s with
  | some (before, _) => before
  | none => []

theorem not_mem_afterLast (sep : Char) (s : List Char) : sep ∉ afterLast sep s := by
  unfold afterLast
  cases h : splitLast sep s with
  | some parts => exact (splitLast_eq_some_iff.1 h).2
  | none => exact splitLast_eq_none_iff.1 h

theorem afterLast_suffix (sep : Char) (s : List Char) : afterLast sep s <:+ s := by
  unfold afterLast
  cases h : splitLast sep s with
  | some parts =>
      refine ⟨parts.1 ++ [sep], ?_⟩
      have := (splitLast_eq_some_iff.1 h).1
      simp [this]
  | none => exact List.suffix_refl s

theorem afterLast_eq_self_iff {sep : Char} {s : List Char} : afterLast sep s = s ↔ sep ∉ s := by
  constructor
  · intro h
    rw [← h]
    exact not_mem_afterLast sep s
  · intro h
    rw [afterLast, splitLast_eq_none_iff.2 h]

theorem afterLast_of_eq {sep : Char} {s before after : List Char}
    (h : s = before ++ sep :: after) (hlast : sep ∉ after) : afterLast sep s = after := by
  rw [afterLast, splitLast_eq_some_iff.2 ⟨h, hlast⟩]

theorem afterLast_append_cons (sep : Char) (before s : List Char) :
    afterLast sep (before ++ sep :: s) = afterLast sep s := by
  cases h : splitLast sep s with
  | some parts =>
      obtain ⟨hs, hlast⟩ := splitLast_eq_some_iff.1 h
      rw [afterLast_of_eq hs hlast]
      have hall : before ++ sep :: s = (before ++ sep :: parts.1) ++ sep :: parts.2 := by
        simp [hs]
      exact afterLast_of_eq hall hlast
  | none =>
      have hlast := splitLast_eq_none_iff.1 h
      rw [afterLast_of_eq rfl hlast, afterLast_eq_self_iff.2 hlast]

theorem afterLast_append_of_mem {sep : Char} {s : List Char} (h : sep ∈ s) (text : List Char) :
    afterLast sep (text ++ s) = afterLast sep s := by
  obtain ⟨before, after, rfl⟩ := List.append_of_mem h
  rw [← List.append_assoc, afterLast_append_cons, afterLast_append_cons]

theorem afterLast_append_of_not_mem {sep : Char} {s : List Char} (h : sep ∉ s)
    (text : List Char) : afterLast sep (text ++ s) = afterLast sep text ++ s := by
  cases htext : splitLast sep text with
  | some parts =>
      obtain ⟨hparts, hlast⟩ := splitLast_eq_some_iff.1 htext
      rw [afterLast_of_eq hparts hlast]
      exact afterLast_of_eq (by rw [hparts, List.append_assoc, List.cons_append])
        (by simp [hlast, h])
  | none =>
      have hnone := splitLast_eq_none_iff.1 htext
      rw [afterLast_eq_self_iff.2 hnone, afterLast_eq_self_iff.2 (by simp [hnone, h])]

theorem beforeLast_of_not_mem {sep : Char} {s : List Char} (h : sep ∉ s) :
    beforeLast sep s = [] := by
  rw [beforeLast, splitLast_eq_none_iff.2 h]

theorem beforeLast_append_afterLast {sep : Char} {s : List Char} (h : sep ∈ s) :
    beforeLast sep s ++ sep :: afterLast sep s = s := by
  cases hs : splitLast sep s with
  | some parts =>
      rw [beforeLast, afterLast, hs]
      exact (splitLast_eq_some_iff.1 hs).1.symm
  | none => exact absurd h (splitLast_eq_none_iff.1 hs)

theorem beforeLast_append_of_not_mem {sep : Char} {s : List Char} (h : sep ∉ s)
    (text : List Char) : beforeLast sep (text ++ s) = beforeLast sep text := by
  cases htext : splitLast sep text with
  | some parts =>
      obtain ⟨hparts, hlast⟩ := splitLast_eq_some_iff.1 htext
      have hall : splitLast sep (text ++ s) = some (parts.1, parts.2 ++ s) :=
        splitLast_eq_some_iff.2
          ⟨by rw [hparts, List.append_assoc, List.cons_append], by simp [hlast, h]⟩
      rw [beforeLast, hall, beforeLast, htext]
  | none =>
      have hnone := splitLast_eq_none_iff.1 htext
      have hall : splitLast sep (text ++ s) = none :=
        splitLast_eq_none_iff.2 (by simp [hnone, h])
      rw [beforeLast, hall, beforeLast, htext]

def withoutDigits (s : List Char) : List Char :=
  s.dropWhile Char.isDigit

theorem withoutDigits_eq_self {s : List Char} (h : ∀ c ∈ s.head?, c.isDigit = false) :
    withoutDigits s = s := by
  cases s with
  | nil => rfl
  | cons c rest => rw [withoutDigits, List.dropWhile_cons_of_neg (by simp [h c rfl])]

def substitute (old new : Char) (s : List Char) : List Char :=
  s.map fun c => if c = old then new else c

theorem substitute_append (old new : Char) (s t : List Char) :
    substitute old new (s ++ t) = substitute old new s ++ substitute old new t :=
  List.map_append

@[simp] theorem substitute_cons_self (old new : Char) (s : List Char) :
    substitute old new (old :: s) = new :: substitute old new s := by
  rw [substitute, List.map_cons, if_pos rfl, substitute]

theorem substitute_of_not_mem {old : Char} {s : List Char} (h : old ∉ s) (new : Char) :
    substitute old new s = s := by
  have hkept : ∀ c ∈ s, (if c = old then new else c) = c := by
    intro c hc
    apply if_neg
    rintro rfl
    exact h hc
  calc substitute old new s = s.map id := List.map_congr_left hkept
    _ = s := List.map_id s

end JvmTypes.Text
