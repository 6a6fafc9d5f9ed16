import JvmTypes.Declaration.Clause
import JvmTypes.JavaType.Name
import Mathlib.Data.List.Infix
/-!
# Declared names

The binary name of a class declared in another is that of the outer class, a `$`, and the name
under which the class is declared, with a number in front of it for a local class. The simple
name is cut from the binary name at its last `$`, without a look at the outer class. So what
comes back is the declared name after its own last `$`: all of it exactly if there is none in it
(`declared_name_iff`).
-/

namespace JvmTypes

namespace Declaration

/-- A class declared in `outer`, in the place that `place` makes of it. Its binary name is that
of `outer` with a `$` and `part` behind it, and its canonical name is left to follow. -/
structure DeclaredIn (outer : Declaration) (place : JavaType → Nesting) (part : String)
    (decl : Declaration) : Prop where
  nesting : decl.nesting = place (.ofClass (.declared outer))
  binaryName : decl.binaryName = outer.binaryName ++ "$" ++ part
  naming : decl.naming = .derived

namespace DeclaredIn

variable {outer decl : Declaration} {place : JavaType → Nesting} {part : String}

theorem toList_binaryName (h : DeclaredIn outer place part decl) :
    decl.binaryName.toList = outer.binaryName.toList ++ '$' :: part.toList := by
  rw [h.binaryName, String.toList_append, String.toList_append, List.append_assoc]
  rfl

theorem innermostPart_eq (h : DeclaredIn outer place part decl) (hdot : '.' ∉ part.toList) :
    decl.innermostPart = Text.afterLast '$' part.toList := by
  have hpart : '.' ∉ '$' :: part.toList := by simpa using hdot
  rw [innermostPart, localPart, h.toList_binaryName, Text.afterLast_append_of_not_mem hpart,
    Text.afterLast_append_cons]

theorem packageName_eq (h : DeclaredIn outer place part decl) (hdot : '.' ∉ part.toList) :
    decl.packageName = outer.packageName := by
  have hpart : '.' ∉ '$' :: part.toList := by simpa using hdot
  rw [packageName, h.toList_binaryName, Text.beforeLast_append_of_not_mem hpart, packageName]

theorem simpleName_of_member (h : DeclaredIn outer .memberOf part decl)
    (hdot : '.' ∉ part.toList) :
    decl.simpleName = String.ofList (Text.afterLast '$' part.toList) := by
  rw [simpleName, h.nesting]
  simp only
  rw [h.innermostPart_eq hdot]

theorem canonicalName?_of_member (h : DeclaredIn outer .memberOf part decl) :
    decl.canonicalName? = outer.canonicalName?.map (· ++ "." ++ decl.simpleName) := by
  rw [canonicalName?_of_derived h.naming, h.nesting]
  rfl

theorem simpleName_of_local (h : DeclaredIn outer .localIn part decl)
    (hdot : '.' ∉ part.toList) :
    decl.simpleName =
      String.ofList (Text.withoutDigits (Text.afterLast '$' part.toList)) := by
  rw [simpleName, h.nesting]
  simp only
  rw [h.innermostPart_eq hdot]

theorem canonicalName?_of_local (h : DeclaredIn outer .localIn part decl) :
    decl.canonicalName? = none := by
  rw [canonicalName?_of_derived h.naming, h.nesting]
  rfl

end DeclaredIn

end Declaration

/-! ## The number before a local name -/

namespace Text

theorem withoutDigits_afterLast_append {digits s : List Char}
    (hdigits : ∀ c ∈ digits, c.isDigit = true) :
    withoutDigits (afterLast '$' (digits ++ s)) = withoutDigits (afterLast '$' s) := by
  by_cases hmark : '$' ∈ s
  · rw [afterLast_append_of_mem hmark]
  · have hnumber : '$' ∉ digits := fun hmem => Bool.noConfusion (hdigits _ hmem)
    rw [afterLast_append_of_not_mem hmark, afterLast_eq_self_iff.2 hnumber,
      afterLast_eq_self_iff.2 hmark]
    exact List.dropWhile_append_of_pos hdigits

theorem withoutDigits_afterLast_eq_self_iff {s : List Char}
    (h : ∀ c ∈ s.head?, c.isDigit = false) :
    withoutDigits (afterLast '$' s) = s ↔ '$' ∉ s := by
  constructor
  · intro hcut
    have hlonger : s.length ≤ (afterLast '$' s).length := by
      have hdropped : withoutDigits (afterLast '$' s) <:+ afterLast '$' s :=
        List.dropWhile_suffix _
      rw [hcut] at hdropped
      exact hdropped.length_le
    exact afterLast_eq_self_iff.1 ((afterLast_suffix '$' s).eq_of_length_le hlonger)
  · intro hnone
    rw [afterLast_eq_self_iff.2 hnone, withoutDigits_eq_self h]

end Text

/-! ## What comes back of a declared name -/

namespace Declaration

theorem ofList_eq_iff {s : List Char} {text : String} :
    String.ofList s = text ↔ s = text.toList := by
  rw [← String.toList_inj, String.toList_ofList]

/-- **Declared names come back up to their last `$`.** Take a class and a name without a dot. A
member of the class declared under that name has for its simple name what follows the last `$` in
the name, and its canonical name is that behind the canonical name of the class, if there is one.
These are the declared names exactly if there is no `$` in the name. So it is with the simple
name of a local class, where the name does not start with a digit and any digits may stand before
it in the binary name; a local class has no canonical name. -/
theorem declared_name_iff (outer : Declaration) {s : String} (hdot : '.' ∉ s.toList) :
    (∀ decl, DeclaredIn outer .memberOf s decl →
      decl.simpleName = String.ofList (Text.afterLast '$' s.toList) ∧
      decl.canonicalName? = outer.canonicalName?.map (· ++ "." ++ decl.simpleName) ∧
      (decl.simpleName = s ↔ '$' ∉ s.toList) ∧
      (∀ name, outer.canonicalName? = some name →
        (decl.canonicalName? = some (name ++ "." ++ s) ↔ '$' ∉ s.toList))) ∧
    (∀ decl digits, (∀ c ∈ digits.toList, c.isDigit = true) →
      (∀ c ∈ s.toList.head?, c.isDigit = false) → DeclaredIn outer .localIn (digits ++ s) decl →
        decl.simpleName =
          String.ofList (Text.withoutDigits (Text.afterLast '$' s.toList)) ∧
        decl.canonicalName? = none ∧
        (decl.simpleName = s ↔ '$' ∉ s.toList)) := by
  constructor
  · intro decl h
    have hsimple := h.simpleName_of_member hdot
    have hwhole : decl.simpleName = s ↔ '$' ∉ s.toList := by
      rw [hsimple, ofList_eq_iff, Text.afterLast_eq_self_iff]
    refine ⟨hsimple, h.canonicalName?_of_member, hwhole, ?_⟩
    intro name hname
    rw [h.canonicalName?_of_member, hname, Option.map_some, Option.some.injEq,
      String.append_right_inj, hwhole]
  · intro decl digits hdigits hhead h
    have hpart : '.' ∉ (digits ++ s).toList := by
      rw [String.toList_append, List.mem_append]
      rintro (hmem | hmem)
      · exact Bool.noConfusion (hdigits _ hmem)
      · exact hdot hmem
    have hsimple : decl.simpleName =
        String.ofList (Text.withoutDigits (Text.afterLast '$' s.toList)) := by
      rw [h.simpleName_of_local hpart, String.toList_append,
        Text.withoutDigits_afterLast_append hdigits]
    refine ⟨hsimple, h.canonicalName?_of_local, ?_⟩
    rw [hsimple, ofList_eq_iff, Text.withoutDigits_afterLast_eq_self_iff hhead]

/-- A member and a local class of a member class, declared under a name that has no `$` in it. -/
theorem declared_name_iff_without_mark :
    let top : Declaration := .ofClauses (.source 0) "p.A" []
    let outer : Declaration :=
      .ofClauses (.source 1) "p.A$B" [.memberOf (.ofClass (.declared top))]
    let around : JavaType := .ofClass (.declared outer)
    let inner : Declaration := .ofClauses (.source 2) "p.A$B$Entry" [.memberOf around]
    let inBlock : Declaration := .ofClauses (.source 3) "p.A$B$12Entry" [.localIn around]
    '.' ∉ "Entry".toList ∧ DeclaredIn outer .memberOf "Entry" inner ∧
      DeclaredIn outer .localIn ("12" ++ "Entry") inBlock ∧
      inner.simpleName = "Entry" ∧ inner.canonicalName? = some "p.A.B.Entry" ∧
      inBlock.simpleName = "Entry" ∧ inBlock.canonicalName? = none := by
  intro top outer around inner inBlock
  have hdot : '.' ∉ "Entry".toList := by decide
  have hmark : '$' ∉ "Entry".toList := by decide
  have hinner : DeclaredIn outer .memberOf "Entry" inner := ⟨rfl, by decide, rfl⟩
  have hinBlock : DeclaredIn outer .localIn ("12" ++ "Entry") inBlock := ⟨rfl, by decide, rfl⟩
  have houter : outer.canonicalName? = some "p.A.B" := by decide
  have hnumber : ∀ c ∈ "12".toList, c.isDigit = true := List.all_eq_true.1 (by decide)
  have hhead : ∀ c ∈ "Entry".toList.head?, c.isDigit = false := by
    intro c hc
    obtain rfl : 'E' = c := Option.some.inj hc
    rfl
  obtain ⟨hmember, hlocal⟩ := declared_name_iff outer hdot
  obtain ⟨_, _, hwhole, hcanonical⟩ := hmember inner hinner
  obtain ⟨_, hnone, hwholeLocal⟩ := hlocal inBlock "12" hnumber hhead hinBlock
  exact ⟨hdot, hinner, hinBlock, hwhole.2 hmark, (hcanonical "p.A.B" houter).2 hmark,
    hwholeLocal.2 hmark, hnone⟩

/-- A class declared as `B$C`, as a member or in a block of another, is given the name `C`. -/
theorem declared_name_cut :
    let outer : Declaration := .ofClauses (.source 0) "p.A" []
    let around : JavaType := .ofClass (.declared outer)
    let inner : Declaration := .ofClauses (.source 1) "p.A$B$C" [.memberOf around]
    let inBlock : Declaration := .ofClauses (.source 2) "p.A$1B$C" [.localIn around]
    '.' ∉ "B$C".toList ∧ DeclaredIn outer .memberOf "B$C" inner ∧
      DeclaredIn outer .localIn ("1" ++ "B$C") inBlock ∧
      outer.canonicalName? = some "p.A" ∧ inner.simpleName = "C" ∧
      inner.canonicalName? = some "p.A.C" ∧ inBlock.simpleName = "C" := by
  intro outer around inner inBlock
  exact ⟨by decide, ⟨rfl, by decide, rfl⟩, ⟨rfl, by decide, rfl⟩, rfl, by decide, by decide,
    by decide⟩

end Declaration

end JvmTypes
