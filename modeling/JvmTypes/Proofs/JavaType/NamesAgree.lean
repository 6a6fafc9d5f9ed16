import JvmTypes.Proofs.JavaType.ArraysOver
import Mathlib.Data.List.Infix
/-!
# How names hang together

A declaration may have any text for a binary name, with dots and `$` wherever they are. Its other
names are cut from the binary name, and the canonical name is put together again from what was
cut. Whatever the text, the names keep to each other as names of one class do, and those of every
array over the class do as well (`names_agree`).
-/

namespace JvmTypes

/-! ## Texts that end in another -/

namespace Text

/-- The text is `part`, or has a separator and `part` at its end. -/
def EndsIn (sep : Char) (part s : List Char) : Prop :=
  s = part ∨ sep :: part <:+ s

theorem endsIn_afterLast (sep : Char) (s : List Char) : EndsIn sep (afterLast sep s) s := by
  by_cases h : sep ∈ s
  · exact .inr ⟨beforeLast sep s, beforeLast_append_afterLast h⟩
  · exact .inl (afterLast_eq_self_iff.2 h).symm

namespace EndsIn

variable {sep : Char} {part s : List Char}

theorem suffix (h : EndsIn sep part s) : part <:+ s := by
  rcases h with rfl | h
  · exact List.suffix_refl s
  · exact (List.suffix_cons sep part).trans h

theorem trans {whole : List Char} (h : EndsIn sep part s) (hs : EndsIn sep s whole) :
    EndsIn sep part whole := by
  rcases h with rfl | h
  · exact hs
  · exact .inr (h.trans hs.suffix)

theorem substitute (h : EndsIn sep part s) (old new : Char) :
    EndsIn (if sep = old then new else sep) (Text.substitute old new part)
      (Text.substitute old new s) := by
  rcases h with rfl | h
  · exact .inl rfl
  · exact .inr (h.map fun c => if c = old then new else c)

theorem exists_front {a b : String} (h : EndsIn '.' a.toList b.toList) :
    b = a ∨ ∃ front, b = front ++ "." ++ a := by
  rcases h with h | ⟨front, hfront⟩
  · exact .inl (String.toList_inj.1 h)
  · refine .inr ⟨String.ofList front, ?_⟩
    rw [← String.toList_inj, ← hfront]
    simp

end EndsIn

end Text

/-! ## The names of a declaration -/

namespace Declaration

variable (decl : Declaration)

theorem localPart_suffix : decl.localPart <:+ decl.binaryName.toList :=
  Text.afterLast_suffix '.' _

theorem innermostPart_suffix : decl.innermostPart <:+ decl.localPart :=
  Text.afterLast_suffix '$' _

theorem simpleName_suffix_localPart : decl.simpleName.toList <:+ decl.localPart := by
  rw [simpleName]
  cases decl.nesting with
  | topLevel => rw [String.toList_ofList]
  | memberOf outer =>
      rw [String.toList_ofList]
      exact decl.innermostPart_suffix
  | localIn outer =>
      rw [String.toList_ofList]
      exact (List.dropWhile_suffix _).trans decl.innermostPart_suffix
  | anonymousIn outer => exact List.nil_suffix

theorem dot_not_mem_simpleName : '.' ∉ decl.simpleName.toList := by
  intro hmem
  exact Text.not_mem_afterLast '.' _ (decl.simpleName_suffix_localPart.mem hmem)

theorem packageName_of_undotted (h : '.' ∉ decl.binaryName.toList) : decl.packageName = "" := by
  rw [packageName, Text.beforeLast_of_not_mem h, String.ofList_nil]

theorem binaryName_of_dotted (h : '.' ∈ decl.binaryName.toList) :
    decl.binaryName = decl.packageName ++ "." ++ String.ofList decl.localPart := by
  rw [← String.toList_inj, packageName, localPart]
  simpa using (Text.beforeLast_append_afterLast h).symm

theorem dottedName_endsIn :
    Text.EndsIn '.' decl.innermostPart decl.dottedName.toList := by
  have hmark : '$' ∉ decl.innermostPart := Text.not_mem_afterLast '$' _
  have hinner : Text.EndsIn '.' decl.innermostPart (Text.substitute '$' '.' decl.localPart) := by
    -- the last mark of the local part becomes the dot, and there is none behind it
    have hends := (Text.endsIn_afterLast '$' decl.localPart).substitute '$' '.'
    rwa [if_pos rfl, ← innermostPart, Text.substitute_of_not_mem hmark] at hends
  have hlocal : Text.EndsIn '.' (Text.substitute '$' '.' decl.localPart)
      (Text.substitute '$' '.' decl.binaryName.toList) := by
    have hends := (Text.endsIn_afterLast '.' decl.binaryName.toList).substitute '$' '.'
    rwa [if_neg (by decide), ← localPart] at hends
  rw [dottedName, String.toList_ofList]
  exact hinner.trans hlocal

variable {decl}

theorem binaryName_of_topLevel (h : decl.nesting = .topLevel) :
    decl.binaryName = if '.' ∈ decl.binaryName.toList then
      decl.packageName ++ "." ++ decl.simpleName else decl.simpleName := by
  have hsimple : decl.simpleName = String.ofList decl.localPart := by rw [simpleName, h]
  by_cases hdot : '.' ∈ decl.binaryName.toList
  · rw [if_pos hdot, hsimple]
    exact decl.binaryName_of_dotted hdot
  · rw [if_neg hdot, hsimple, localPart, Text.afterLast_eq_self_iff.2 hdot, String.ofList_toList]

theorem mark_not_mem_simpleName {outer : JavaType} (h : decl.nesting = .memberOf outer) :
    '$' ∉ decl.simpleName.toList := by
  rw [simpleName, h, String.toList_ofList]
  exact Text.not_mem_afterLast '$' _

theorem head?_simpleName_of_local {outer : JavaType} (h : decl.nesting = .localIn outer) :
    ∀ c ∈ decl.simpleName.toList.head?, c.isDigit = false := by
  intro c hc
  rw [simpleName, h, String.toList_ofList, Text.withoutDigits] at hc
  have hhead := List.head?_dropWhile_not Char.isDigit decl.innermostPart
  rwa [hc] at hhead

theorem canonicalName?_ends (hnaming : decl.naming = .derived) {name : String}
    (h : decl.canonicalName? = some name) :
    name = decl.simpleName ∨ ∃ front, name = front ++ "." ++ decl.simpleName := by
  rw [canonicalName?_of_derived hnaming] at h
  cases hnesting : decl.nesting with
  | topLevel =>
      rw [hnesting] at h
      obtain rfl : decl.binaryName = name := Option.some.inj h
      apply Text.EndsIn.exists_front
      rw [simpleName, hnesting, String.toList_ofList]
      exact Text.endsIn_afterLast '.' _
  | memberOf outer =>
      rw [hnesting] at h
      cases outer with
      | primitive kind =>
          obtain rfl : decl.dottedName = name := Option.some.inj h
          apply Text.EndsIn.exists_front
          rw [simpleName, hnesting, String.toList_ofList]
          exact decl.dottedName_endsIn
      | ofClass cls =>
          obtain ⟨front, _, rfl⟩ := Option.map_eq_some_iff.1 h
          exact .inr ⟨front, rfl⟩
      | array arr =>
          obtain ⟨front, _, rfl⟩ := Option.map_eq_some_iff.1 h
          exact .inr ⟨front, rfl⟩
  | localIn outer =>
      rw [hnesting] at h
      contradiction
  | anonymousIn outer =>
      rw [hnesting] at h
      contradiction

end Declaration

/-! ## The names of a class and of the arrays over it -/

/-- What the names of a type over a declaration have to do with each other. -/
structure NamesAgree (decl : Declaration) (t : JavaType) : Prop where
  simple_suffix : t.simpleName.toList <:+ t.binaryName.toList
  simple_undotted : '.' ∉ t.simpleName.toList
  canonical : ∀ name, t.canonicalName? = some name →
    name = t.simpleName ∨ ∃ front, name = front ++ "." ++ t.simpleName
  package_of_dotted : '.' ∈ decl.binaryName.toList →
    ∃ rest, t.binaryName = t.packageName ++ "." ++ rest ∧ '.' ∉ rest.toList
  package_of_undotted : '.' ∉ decl.binaryName.toList → t.packageName = ""
  topLevel : decl.nesting = .topLevel →
    t.binaryName = if '.' ∈ decl.binaryName.toList then t.packageName ++ "." ++ t.simpleName
      else t.simpleName
  member : ∀ outer, decl.nesting = .memberOf outer → '$' ∉ t.simpleName.toList
  inBlock : ∀ outer, decl.nesting = .localIn outer →
    ∀ c ∈ t.simpleName.toList.head?, c.isDigit = false

theorem not_mem_append_arraySuffix {c : Char} {name : String} (h : c ∉ name.toList)
    (hc : c ∉ arraySuffix.toList) : c ∉ (name ++ arraySuffix).toList := by
  rw [String.toList_append, List.mem_append]
  rintro (hmem | hmem)
  · exact h hmem
  · exact hc hmem

namespace NamesAgree

variable {decl : Declaration}

theorem declared (hnaming : decl.naming = .derived) :
    NamesAgree decl (.ofClass (.declared decl)) where
  simple_suffix := decl.simpleName_suffix_localPart.trans decl.localPart_suffix
  simple_undotted := decl.dot_not_mem_simpleName
  canonical _ := Declaration.canonicalName?_ends hnaming
  package_of_dotted hdot := by
    refine ⟨_, decl.binaryName_of_dotted hdot, ?_⟩
    rw [String.toList_ofList]
    exact Text.not_mem_afterLast '.' _
  package_of_undotted := decl.packageName_of_undotted
  topLevel := Declaration.binaryName_of_topLevel
  member _ := Declaration.mark_not_mem_simpleName
  inBlock _ := Declaration.head?_simpleName_of_local

theorem array {arr : ArrayType} (h : NamesAgree decl arr.component) :
    NamesAgree decl (.array arr) := by
  have hsimple := JavaType.answered_simpleName.array arr
  have hbinary := JavaType.answered_binaryName.array arr
  have hcanonical := JavaType.answered_canonicalName?.array arr
  have hpackage := JavaType.answered_packageName.array arr
  constructor
  case simple_suffix =>
    rw [hsimple, hbinary, String.toList_append, String.toList_append]
    exact List.suffix_append_self_iff.2 h.simple_suffix
  case simple_undotted =>
    rw [hsimple]
    exact not_mem_append_arraySuffix h.simple_undotted (by decide)
  case canonical =>
    intro name hname
    rw [hcanonical] at hname
    obtain ⟨inner, hinner, rfl⟩ := Option.map_eq_some_iff.1 hname
    rw [hsimple]
    rcases h.canonical inner hinner with rfl | ⟨front, rfl⟩
    · exact .inl rfl
    · exact .inr ⟨front, String.append_assoc⟩
  case package_of_dotted =>
    intro hdot
    obtain ⟨rest, hname, hrest⟩ := h.package_of_dotted hdot
    rw [hbinary, hpackage, hname]
    exact ⟨rest ++ arraySuffix, String.append_assoc,
      not_mem_append_arraySuffix hrest (by decide)⟩
  case package_of_undotted =>
    intro hdot
    rw [hpackage]
    exact h.package_of_undotted hdot
  case topLevel =>
    intro hnesting
    rw [hbinary, hsimple, hpackage, h.topLevel hnesting]
    by_cases hdot : '.' ∈ decl.binaryName.toList
    · rw [if_pos hdot, if_pos hdot]
      exact String.append_assoc
    · rw [if_neg hdot, if_neg hdot]
  case member =>
    intro outer hnesting
    rw [hsimple]
    exact not_mem_append_arraySuffix (h.member outer hnesting) (by decide)
  case inBlock =>
    intro outer hnesting c hc
    rw [hsimple, String.toList_append, List.head?_append] at hc
    -- an empty name over a component has a bracket for its first character
    cases hhead : arr.component.simpleName.toList.head? with
    | none =>
        rw [hhead, Option.none_or] at hc
        obtain rfl : '[' = c := Option.some.inj hc
        rfl
    | some d =>
        rw [hhead, Option.some_or] at hc
        obtain rfl : d = c := Option.some.inj hc
        exact h.inBlock outer hnesting d hhead

theorem inPlaceOfClass {arr : ArrayType} (h : NamesAgree decl (.array arr)) :
    NamesAgree decl (.ofClass (.ofArray arr)) where
  simple_suffix := h.simple_suffix
  simple_undotted := h.simple_undotted
  canonical := h.canonical
  package_of_dotted := h.package_of_dotted
  package_of_undotted := h.package_of_undotted
  topLevel := h.topLevel
  member := h.member
  inBlock := h.inBlock

end NamesAgree

/-- **Names hang together.** Take a class that is declared under any binary name and in any
place, with its canonical name left to follow, and any type of arrays over it, the class itself
included. The simple name stands at the end of the binary name and has no dot in it. A canonical
name is the simple name, with or without more and a dot before it. If there is a dot in the
binary name of the class, the binary name is the package, a dot, and a rest without dots; else
there is no package. The rest is the simple name for a class at top level. There is no `$` in the
simple name of a member, and none of a local class starts with a digit. -/
theorem names_agree {decl : Declaration} (hnaming : decl.naming = .derived) {t : JavaType}
    (h : JavaType.ArraysOver (.ofClass (.declared decl)) t) : NamesAgree decl t := by
  induction h with
  | here => exact .declared hnaming
  | array _ ih => exact ih.array
  | inPlaceOfClass _ ih => exact ih.array.inPlaceOfClass

/-- Two arrays, one of them in the place of a class, over a member of an array type whose binary
name starts with a dot and ends in a `$`. -/
theorem names_agree_of_empty_simple_name :
    let outer : JavaType := .array ⟨.shared, .primitive .int, .loose⟩
    let decl : Declaration := .ofClauses (.source 0) ".p.$A$" [.memberOf outer]
    let inner : ArrayType := ⟨.shared, .ofClass (.declared decl), .loose⟩
    let t : JavaType := .array ⟨.fresh 1, .ofClass (.ofArray inner), .loose⟩
    decl.naming = .derived ∧ JavaType.ArraysOver (.ofClass (.declared decl)) t ∧
      decl.simpleName = "" ∧ decl.canonicalName? = some "int[]." ∧ t.simpleName = "[][]" ∧
      t.binaryName = ".p.$A$[][]" ∧ t.canonicalName? = some "int[].[][]" ∧ t.packageName = ".p" ∧
      NamesAgree decl (.ofClass (.declared decl)) ∧ NamesAgree decl t := by
  intro outer decl inner t
  have hover : JavaType.ArraysOver (.ofClass (.declared decl)) t :=
    .array (.inPlaceOfClass .here)
  exact ⟨rfl, hover, by decide, by decide, by decide, by decide, by decide, by decide,
    names_agree rfl .here, names_agree rfl hover⟩

end JvmTypes
