import JvmTypes.Proofs.JavaType.ArraysOver
import JvmTypes.Proofs.JavaType.DeclaredName
/-!
# Chains of enclosing classes

A class may be declared in a class that is itself declared in another, and so on up to a class at
top level. The canonical name of a member is taken from that of the class around it. Only where
the type around it is no class is it read off the binary name, with a dot for each `$`. Down a
chain of members both ways give one name. A single local or anonymous class on the chain leaves
it and all classes below without a canonical name (`canonicalName?_along_chain`).
-/

namespace JvmTypes

inductive InnerPlace where
  | member
  | inBlock
  | withoutName
deriving DecidableEq

namespace InnerPlace

def within : InnerPlace → JavaType → Nesting
  | .member => .memberOf
  | .inBlock => .localIn
  | .withoutName => .anonymousIn

end InnerPlace

/-- A step from a class to one declared in it: the place, and what the binary name has behind
that of the outer class and a `$`. -/
structure InnerStep where
  place : InnerPlace
  part : String

namespace InnerStep

/-- Nothing in the step is taken for the end of a package or of an outer class. -/
def Unmarked (step : InnerStep) : Prop :=
  '.' ∉ step.part.toList ∧ '$' ∉ step.part.toList

end InnerStep

namespace Declaration

/-- A class at top level with no `$` in its name, whose canonical name is left to follow. -/
structure UnmarkedTop (top : Declaration) : Prop where
  nesting : top.nesting = .topLevel
  naming : top.naming = .derived
  unmarked : '$' ∉ top.binaryName.toList

/-- Steps lead down from `top` to a class. The last of them, which is the one to the class
itself, is the first in the list. -/
inductive Below (top : Declaration) : List InnerStep → Declaration → Prop
  | top : Below top [] top
  | inner {steps : List InnerStep} {outer decl : Declaration} (step : InnerStep)
      (h : Below top steps outer) (hunmarked : step.Unmarked)
      (hdecl : DeclaredIn outer step.place.within step.part decl) :
      Below top (step :: steps) decl

/-! ## The binary name with dots -/

theorem dottedName_eq_map (decl : Declaration) :
    decl.dottedName = decl.binaryName.map fun c => if c = '$' then '.' else c := by
  rw [← String.toList_inj, String.toList_map, dottedName, String.toList_ofList, Text.substitute]

theorem UnmarkedTop.dottedName_eq {top : Declaration} (h : top.UnmarkedTop) :
    top.dottedName = top.binaryName := by
  rw [dottedName, Text.substitute_of_not_mem h.unmarked, String.ofList_toList]

namespace DeclaredIn

variable {outer decl : Declaration} {place : JavaType → Nesting} {part : String}

theorem dottedName_eq (h : DeclaredIn outer place part decl) (hmark : '$' ∉ part.toList) :
    decl.dottedName = outer.dottedName ++ "." ++ part := by
  have hpart : Text.substitute '$' '.' part.toList = part.toList :=
    Text.substitute_of_not_mem hmark '.'
  rw [← String.toList_inj, dottedName, h.toList_binaryName, Text.substitute_append,
    Text.substitute_cons_self, hpart]
  simp [dottedName]

theorem simpleName_of_unmarked (h : DeclaredIn outer .memberOf part decl)
    (hdot : '.' ∉ part.toList) (hmark : '$' ∉ part.toList) : decl.simpleName = part := by
  rw [h.simpleName_of_member hdot, Text.afterLast_eq_self_iff.2 hmark, String.ofList_toList]

theorem of_member_step {step : InnerStep}
    (h : DeclaredIn outer step.place.within step.part decl) (hplace : step.place = .member) :
    DeclaredIn outer .memberOf step.part decl := by
  rw [hplace] at h
  exact h

end DeclaredIn

theorem canonicalName?_within_primitive {decl : Declaration} (h : decl.naming = .derived)
    (kind : Primitive) :
    { decl with nesting := .memberOf (.primitive kind) }.canonicalName? =
      some decl.dottedName := by
  have hnaming : { decl with nesting := .memberOf (.primitive kind) }.naming = .derived := h
  rw [canonicalName?_of_derived hnaming]
  rfl

/-! ## Along a chain -/

namespace Below

variable {top decl : Declaration} {steps : List InnerStep}

theorem naming (htop : top.naming = .derived) (h : Below top steps decl) :
    decl.naming = .derived := by
  cases h with
  | top => exact htop
  | inner _ _ _ hdecl => exact hdecl.naming

theorem packageName_eq (h : Below top steps decl) : decl.packageName = top.packageName := by
  induction h with
  | top => rfl
  | inner step _ hunmarked hdecl ih => rw [hdecl.packageName_eq hunmarked.1, ih]

theorem canonicalName?_of_members (htop : top.UnmarkedTop) (h : Below top steps decl)
    (hmembers : ∀ step ∈ steps, step.place = .member) :
    decl.canonicalName? = some decl.dottedName := by
  induction h with
  | top =>
      rw [canonicalName?_of_derived htop.naming, htop.nesting, htop.dottedName_eq]
      rfl
  | @inner steps outer decl step _ hunmarked hdecl ih =>
      obtain ⟨hplace, houter⟩ := List.forall_mem_cons.1 hmembers
      have hmember := hdecl.of_member_step hplace
      rw [hmember.canonicalName?_of_member, ih houter,
        hmember.simpleName_of_unmarked hunmarked.1 hunmarked.2, hdecl.dottedName_eq hunmarked.2]
      rfl

theorem canonicalName?_eq_none (h : Below top steps decl)
    (hinner : ∃ step ∈ steps, step.place ≠ .member) : decl.canonicalName? = none := by
  induction h with
  | top =>
      obtain ⟨step, hmem, _⟩ := hinner
      contradiction
  | @inner steps outer decl step _ _ hdecl ih =>
      cases hplace : step.place with
      | member =>
          have houter : ∃ step ∈ steps, step.place ≠ .member := by
            obtain ⟨other, hmem, hother⟩ := hinner
            rcases List.mem_cons.1 hmem with rfl | hmem
            · exact absurd hplace hother
            · exact ⟨other, hmem, hother⟩
          rw [(hdecl.of_member_step hplace).canonicalName?_of_member, ih houter, Option.map_none]
      | inBlock | withoutName =>
          -- such a place gives no name, whatever is around it
          rw [canonicalName?_of_derived hdecl.naming, hdecl.nesting, hplace]
          rfl

end Below

end Declaration

theorem JavaType.ArraysOver.canonicalName?_eq_none {decl : Declaration} {t : JavaType}
    (h : ArraysOver (.ofClass (.declared decl)) t) (hnone : decl.canonicalName? = none) :
    t.canonicalName? = none := by
  have helement : ElementOf (.ofClass (.declared decl)) t := ⟨h, rfl⟩
  have hdecl : (JavaType.ofClass (.declared decl)).canonicalName? = none := hnone
  rw [helement.canonicalName?_eq, hdecl, Option.map_none]

namespace Declaration

/-- **Canonical names along a chain.** Take a class at top level without a `$` in its binary
name, and a class that steps without `$` and dot lead down to. If all steps are to members, the
canonical name is the binary name with a dot for each `$`, as it is where the same class is a
member of a type that is no class. The simple name is the part that the last step adds, and the
package is that of the class at top level. If some step is to a local or an anonymous class,
there is no canonical name, and none of any array over the class. -/
theorem canonicalName?_along_chain {top decl : Declaration} {steps : List InnerStep}
    (htop : top.UnmarkedTop) (h : Below top steps decl) :
    ((∀ step ∈ steps, step.place = .member) →
      decl.canonicalName? = some (decl.binaryName.map fun c => if c = '$' then '.' else c) ∧
      (∀ kind, { decl with nesting := .memberOf (.primitive kind) }.canonicalName? =
        decl.canonicalName?) ∧
      (∀ step ∈ steps.head?, decl.simpleName = step.part) ∧
      decl.packageName = top.packageName) ∧
    ((∃ step ∈ steps, step.place ≠ .member) →
      ∀ t, JavaType.ArraysOver (.ofClass (.declared decl)) t → t.canonicalName? = none) := by
  constructor
  · intro hmembers
    have hcanonical : decl.canonicalName? = some decl.dottedName :=
      h.canonicalName?_of_members htop hmembers
    refine ⟨by rw [hcanonical, dottedName_eq_map], ?_, ?_, h.packageName_eq⟩
    · intro kind
      rw [canonicalName?_within_primitive (h.naming htop.naming), hcanonical]
    · intro step hstep
      cases h with
      | top => contradiction
      | @inner _ outer _ last _ hunmarked hdecl =>
          obtain rfl : last = step := Option.some.inj hstep
          have hplace : last.place = .member := hmembers last List.mem_cons_self
          exact (hdecl.of_member_step hplace).simpleName_of_unmarked hunmarked.1 hunmarked.2
  · intro hinner t ht
    exact ht.canonicalName?_eq_none (h.canonicalName?_eq_none hinner)

/-- Two members down from a class at top level; and from the same class a member, a local class
in it and a member of that, over which an array can be made. -/
theorem canonicalName?_along_chain_of_members_and_local :
    let top : Declaration := .ofClauses (.source 0) "p.q.A" []
    let mid : Declaration :=
      .ofClauses (.source 1) "p.q.A$B" [.memberOf (.ofClass (.declared top))]
    let inner : Declaration :=
      .ofClauses (.source 2) "p.q.A$B$C" [.memberOf (.ofClass (.declared mid))]
    let inBlock : Declaration :=
      .ofClauses (.source 3) "p.q.A$B$1D" [.localIn (.ofClass (.declared mid))]
    let below : Declaration :=
      .ofClauses (.source 4) "p.q.A$B$1D$E" [.memberOf (.ofClass (.declared inBlock))]
    let arr : ArrayType := ⟨.shared, .ofClass (.declared below), .loose⟩
    top.UnmarkedTop ∧ Below top [⟨.member, "C"⟩, ⟨.member, "B"⟩] inner ∧
      Below top [⟨.member, "E"⟩, ⟨.inBlock, "1D"⟩, ⟨.member, "B"⟩] below ∧
      inner.canonicalName? = some "p.q.A.B.C" ∧ inner.simpleName = "C" ∧
      inner.packageName = "p.q" ∧ below.canonicalName? = none ∧
      ArrayType.ofComponent .shared (.ofClass (.declared below)) .loose = .ok arr ∧
      arr.canonicalName? = none := by
  intro top mid inner inBlock below arr
  have htop : top.UnmarkedTop := ⟨rfl, rfl, by decide⟩
  have hmid : Below top [⟨.member, "B"⟩] mid :=
    .inner _ .top ⟨by decide, by decide⟩ ⟨rfl, by decide, rfl⟩
  have hinner : Below top [⟨.member, "C"⟩, ⟨.member, "B"⟩] inner :=
    .inner _ hmid ⟨by decide, by decide⟩ ⟨rfl, by decide, rfl⟩
  have hinBlock : Below top [⟨.inBlock, "1D"⟩, ⟨.member, "B"⟩] inBlock :=
    .inner _ hmid ⟨by decide, by decide⟩ ⟨rfl, by decide, rfl⟩
  have hbelow : Below top [⟨.member, "E"⟩, ⟨.inBlock, "1D"⟩, ⟨.member, "B"⟩] below :=
    .inner _ hinBlock ⟨by decide, by decide⟩ ⟨rfl, by decide, rfl⟩
  obtain ⟨hmembers, _⟩ := canonicalName?_along_chain htop hinner
  obtain ⟨hcanonical, _, hsimple, hpackage⟩ := hmembers (by simp)
  rw [← dottedName_eq_map] at hcanonical
  obtain ⟨_, hnone⟩ := canonicalName?_along_chain htop hbelow
  have hblock : ∃ step ∈ [⟨.member, "E"⟩, ⟨.inBlock, "1D"⟩, ⟨.member, "B"⟩],
      InnerStep.place step ≠ .member :=
    ⟨⟨.inBlock, "1D"⟩, by simp, by decide⟩
  exact ⟨htop, hinner, hbelow, hcanonical.trans (by decide), hsimple _ rfl,
    hpackage.trans (by decide), hnone hblock (.ofClass (.declared below)) .here, rfl,
    hnone hblock (.array arr) (.array .here)⟩

end Declaration

end JvmTypes
