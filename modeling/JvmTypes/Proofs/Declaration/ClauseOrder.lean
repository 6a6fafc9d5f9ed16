import JvmTypes.Declaration.Clause
import Mathlib.Data.List.Induction
/-!
# The order of clauses

Each clause of a declaration is about one aspect of it and leaves the others as they are. Of most
aspects only the last clause counts. Interfaces and type parameters are collected in their order,
and a mark counts once it is there. So a list of clauses comes to a declaration that can be
written down at once (`amended`), and clauses about different aspects may stand in any order
(`ofClauses_determined`).
-/

namespace JvmTypes

namespace Clause

inductive Aspect where
  | modifiers
  | kind
  | nesting
  | superclass
  | interface
  | typeParameter
  | canonicalName
  | loadable
  | unresolved
deriving DecidableEq

def aspect {τ : Type} : Clause τ → Aspect
  | .modifiers _ => .modifiers
  | .kind _ => .kind
  | .memberOf _ => .nesting
  | .localIn _ => .nesting
  | .anonymousIn _ => .nesting
  | .superclass _ => .superclass
  | .interface _ => .interface
  | .typeParameter _ => .typeParameter
  | .canonicalName _ => .canonicalName
  | .loadable => .loadable
  | .unresolved => .unresolved

def about {τ : Type} (clauses : List (Clause τ)) (a : Aspect) : List (Clause τ) :=
  clauses.filter (·.aspect = a)

/-! ## What a clause says

The value that a clause puts in the place of an earlier one, or adds to the earlier ones. -/

def modifiers? : Clause JavaType → Option Modifiers
  | .modifiers given => some given
  | _ => none

def kind? : Clause JavaType → Option ClassKind
  | .kind k => some k
  | _ => none

def nesting? : Clause JavaType → Option Nesting
  | .memberOf outer => some (.memberOf outer)
  | .localIn outer => some (.localIn outer)
  | .anonymousIn outer => some (.anonymousIn outer)
  | _ => none

def superclass? : Clause JavaType → Option (Option JavaType)
  | .superclass type => some (some type)
  | _ => none

def naming? : Clause JavaType → Option CanonicalNaming
  | .canonicalName name => some (.given name)
  | _ => none

def interface? : Clause JavaType → Option JavaType
  | .interface type => some type
  | _ => none

def typeParameter? : Clause JavaType → Option String
  | .typeParameter name => some name
  | _ => none

/-- What the last of the clauses with something to say has to say. -/
def last? {α : Type} (said : Clause JavaType → Option α) (clauses : List (Clause JavaType)) :
    Option α :=
  (clauses.filterMap said).getLast?

/-- The clauses with something to say are those about one aspect. -/
def SaidOf {α : Type} (a : Aspect) (said : Clause JavaType → Option α) : Prop :=
  ∀ clause, (said clause).isSome = true ↔ clause.aspect = a

theorem saidOf_modifiers : SaidOf .modifiers modifiers? := by
  intro clause
  cases clause <;> simp [modifiers?, aspect]

theorem saidOf_kind : SaidOf .kind kind? := by
  intro clause
  cases clause <;> simp [kind?, aspect]

theorem saidOf_nesting : SaidOf .nesting nesting? := by
  intro clause
  cases clause <;> simp [nesting?, aspect]

theorem saidOf_superclass : SaidOf .superclass superclass? := by
  intro clause
  cases clause <;> simp [superclass?, aspect]

theorem saidOf_canonicalName : SaidOf .canonicalName naming? := by
  intro clause
  cases clause <;> simp [naming?, aspect]

theorem saidOf_interface : SaidOf .interface interface? := by
  intro clause
  cases clause <;> simp [interface?, aspect]

theorem saidOf_typeParameter : SaidOf .typeParameter typeParameter? := by
  intro clause
  cases clause <;> simp [typeParameter?, aspect]

/-! ## The clauses that count -/

section

variable {α : Type} {said : Clause JavaType → Option α} {a : Aspect}

theorem SaidOf.filterMap_about (h : SaidOf a said) (clauses : List (Clause JavaType)) :
    (about clauses a).filterMap said = clauses.filterMap said := by
  rw [about, List.filterMap_filter]
  congr 1
  funext clause
  by_cases haspect : clause.aspect = a
  · simp [haspect]
  · have hnone : said clause = none := by simpa using mt (h clause).1 haspect
    simp [haspect, hnone]

theorem SaidOf.last?_eq (h : SaidOf a said) (clauses : List (Clause JavaType)) :
    last? said clauses = (about clauses a).getLast?.bind said := by
  rw [last?, ← h.filterMap_about]
  have hall : ∀ clause ∈ about clauses a, (said clause).isSome = true := by
    intro clause hmem
    exact (h clause).2 (by simpa using (List.mem_filter.1 hmem).2)
  generalize about clauses a = own at hall
  induction own using List.reverseRecOn with
  | nil => rfl
  | append_singleton before clause _ =>
      obtain ⟨x, hx⟩ := Option.isSome_iff_exists.1 (hall clause (by simp))
      simp [hx]

theorem any_aspect_eq_false_iff (clauses : List (Clause JavaType)) (a : Aspect) :
    clauses.any (·.aspect = a) = false ↔ about clauses a = [] := by
  simp [about]

theorem getD_last?_append (before after : List (Clause JavaType)) (default : α) :
    (last? said (before ++ after)).getD default =
      (last? said after).getD ((last? said before).getD default) := by
  rw [last?, List.filterMap_append, List.getLast?_append, last?, last?]
  cases (after.filterMap said).getLast? with
  | none => rw [Option.none_or, Option.getD_none]
  | some last => rw [Option.some_or, Option.getD_some, Option.getD_some]

end

/-- Two lists have the same last clause about each aspect in which a clause takes the place of an
earlier one, the same interfaces and type parameters in order, and the same marks. -/
structure CountAlike (x y : List (Clause JavaType)) : Prop where
  last : ∀ a ∈ [Aspect.modifiers, .kind, .nesting, .superclass, .canonicalName],
    (about x a).getLast? = (about y a).getLast?
  interfaces : about x .interface = about y .interface
  typeParameters : about x .typeParameter = about y .typeParameter
  loadable : about x .loadable = [] ↔ about y .loadable = []
  unresolved : about x .unresolved = [] ↔ about y .unresolved = []

theorem countAlike_of_about_eq {x y : List (Clause JavaType)} (h : ∀ a, about x a = about y a) :
    CountAlike x y where
  last a _ := by rw [h a]
  interfaces := h .interface
  typeParameters := h .typeParameter
  loadable := by rw [h .loadable]
  unresolved := by rw [h .unresolved]

theorem about_swap {c d : Clause JavaType} (h : c.aspect ≠ d.aspect)
    (front back : List (Clause JavaType)) (a : Aspect) :
    about (front ++ c :: d :: back) a = about (front ++ d :: c :: back) a := by
  rw [about, about, List.filter_append, List.filter_append]
  by_cases hc : c.aspect = a
  · have hd : d.aspect ≠ a := fun hd => h (hc.trans hd.symm)
    simp [hc, hd]
  · simp [List.filter_cons, hc]

end Clause

namespace Declaration

open Clause

/-- What clauses make of a declaration, written down at once. -/
def amended (decl : Declaration) (clauses : List (Clause JavaType)) : Declaration where
  origin := decl.origin
  binaryName := decl.binaryName
  naming := (last? naming? clauses).getD decl.naming
  givenModifiers := (last? modifiers? clauses).getD decl.givenModifiers
  kind := (last? kind? clauses).getD decl.kind
  nesting := (last? nesting? clauses).getD decl.nesting
  superclass := (last? superclass? clauses).getD decl.superclass
  interfaces := decl.interfaces ++ clauses.filterMap interface?
  typeParameters := decl.typeParameters ++ clauses.filterMap typeParameter?
  loadable := decl.loadable || clauses.any (·.aspect = .loadable)
  unresolved := decl.unresolved || clauses.any (·.aspect = .unresolved)

theorem amended_nil (decl : Declaration) : decl.amended [] = decl := by
  cases decl
  simp [amended, last?]

theorem amended_append (decl : Declaration) (before after : List (Clause JavaType)) :
    decl.amended (before ++ after) = (decl.amended before).amended after := by
  simp only [amended, getD_last?_append, List.filterMap_append, List.any_append,
    List.append_assoc, Bool.or_assoc]

/-- Everything that a single clause does. -/
theorem apply_eq_amended (decl : Declaration) (clause : Clause JavaType) :
    decl.apply clause = decl.amended [clause] := by
  cases decl
  cases clause <;>
    simp [apply, amended, last?, aspect, naming?, modifiers?, kind?, nesting?, superclass?,
      interface?, typeParameter?]

theorem foldl_apply (decl : Declaration) (clauses : List (Clause JavaType)) :
    clauses.foldl apply decl = decl.amended clauses := by
  induction clauses generalizing decl with
  | nil => rw [List.foldl_nil, amended_nil]
  | cons clause rest ih =>
      rw [List.foldl_cons, ih, apply_eq_amended, ← amended_append, List.singleton_append]

/-- Only the clauses that count make a difference. -/
theorem amended_congr (decl : Declaration) {x y : List (Clause JavaType)} (h : CountAlike x y) :
    decl.amended x = decl.amended y := by
  have hlast {α : Type} {said : Clause JavaType → Option α} {a : Aspect} (hsaid : SaidOf a said)
      (hmem : a ∈ [Aspect.modifiers, .kind, .nesting, .superclass, .canonicalName]) :
      last? said x = last? said y := by
    rw [hsaid.last?_eq, hsaid.last?_eq, h.last a hmem]
  have hinterfaces : x.filterMap interface? = y.filterMap interface? := by
    rw [← saidOf_interface.filterMap_about, h.interfaces, saidOf_interface.filterMap_about]
  have hparameters : x.filterMap typeParameter? = y.filterMap typeParameter? := by
    rw [← saidOf_typeParameter.filterMap_about, h.typeParameters,
      saidOf_typeParameter.filterMap_about]
  have hmark {a : Aspect} (hmark : about x a = [] ↔ about y a = []) :
      x.any (·.aspect = a) = y.any (·.aspect = a) := by
    rw [← any_aspect_eq_false_iff, ← any_aspect_eq_false_iff] at hmark
    exact Bool.eq_iff_iff.2 (by simpa using not_congr hmark)
  rw [amended, hlast saidOf_canonicalName (by decide), hlast saidOf_modifiers (by decide),
    hlast saidOf_kind (by decide), hlast saidOf_nesting (by decide),
    hlast saidOf_superclass (by decide), hinterfaces, hparameters, hmark h.loadable,
    hmark h.unresolved, ← amended]

/-- **What a list of clauses comes to.** A declaration described by clauses has of each aspect
what the last clause about it says; all interfaces and type parameters, in their order; and a
mark if there is a clause that sets it. So two lists of clauses describe the same declaration,
with the same answer to every question, as soon as the clauses that count are the same in both.
It is enough that each aspect by itself has the same clauses in the same order, and two
neighbours about different aspects can change places. -/
theorem ofClauses_determined (origin : Origin) (binaryName : String) :
    (∀ clauses, ofClauses origin binaryName clauses =
      { origin := origin
        binaryName := binaryName
        naming := (last? naming? clauses).getD .derived
        givenModifiers := (last? modifiers? clauses).getD .empty
        kind := (last? kind? clauses).getD .plain
        nesting := (last? nesting? clauses).getD .topLevel
        superclass := (last? superclass? clauses).getD none
        interfaces := clauses.filterMap interface?
        typeParameters := clauses.filterMap typeParameter?
        loadable := clauses.any (·.aspect = .loadable)
        unresolved := clauses.any (·.aspect = .unresolved) }) ∧
    (∀ x y, CountAlike x y → ofClauses origin binaryName x = ofClauses origin binaryName y) ∧
    (∀ x y, (∀ a, about x a = about y a) →
      ofClauses origin binaryName x = ofClauses origin binaryName y) ∧
    (∀ front c d back, c.aspect ≠ d.aspect →
      ofClauses origin binaryName (front ++ c :: d :: back) =
        ofClauses origin binaryName (front ++ d :: c :: back)) := by
  have hrun (clauses : List (Clause JavaType)) :
      ofClauses origin binaryName clauses = (plain origin binaryName).amended clauses :=
    foldl_apply (plain origin binaryName) clauses
  have hcount : ∀ x y, CountAlike x y →
      ofClauses origin binaryName x = ofClauses origin binaryName y := by
    intro x y hxy
    rw [hrun, hrun, amended_congr _ hxy]
  refine ⟨?_, hcount, fun x y hxy => hcount x y (countAlike_of_about_eq hxy), ?_⟩
  · intro clauses
    rw [hrun]
    rfl
  · intro front c d back haspect
    exact hcount _ _ (countAlike_of_about_eq (about_swap haspect front back))

/-- A member that becomes a local class, with its canonical name given before or after and one
clause more than once; and a canonical name and a place, the modifiers and the kind, each in both
orders. -/
theorem ofClauses_determined_in_two_orders :
    let outer : JavaType := .ofClass (.declared (.ofClauses (.source 0) "p.A" []))
    let first : JavaType :=
      .ofClass (.declared (.ofClauses (.source 2) "p.I" [.kind .interface]))
    let second : JavaType :=
      .ofClass (.declared (.ofClauses (.source 3) "p.J" [.kind .interface]))
    let x : List (Clause JavaType) :=
      [.canonicalName (some "q.B"), .memberOf outer, .modifiers ⟨0x8⟩, .kind .interface,
        .interface first, .loadable, .localIn outer, .interface second]
    let y : List (Clause JavaType) :=
      [.loadable, .localIn outer, .interface first, .kind .plain, .interface second,
        .kind .interface, .modifiers ⟨0x8⟩, .canonicalName (some "q.B"), .loadable]
    CountAlike x y ∧
      ofClauses (.source 1) "p.A$1B" x = ofClauses (.source 1) "p.A$1B" y ∧
      ofClauses (.source 1) "p.A$B" ([] ++ .canonicalName none :: .memberOf outer :: []) =
        ofClauses (.source 1) "p.A$B" ([] ++ .memberOf outer :: .canonicalName none :: []) ∧
      ofClauses (.source 1) "p.B" ([] ++ .modifiers ⟨0x8⟩ :: .kind .enumType :: x) =
        ofClauses (.source 1) "p.B" ([] ++ .kind .enumType :: .modifiers ⟨0x8⟩ :: x) := by
  intro outer first second x y
  have hcount : CountAlike x y := by
    constructor
    case last =>
      intro a ha
      simp only [List.mem_cons, List.not_mem_nil, or_false] at ha
      rcases ha with rfl | rfl | rfl | rfl | rfl <;> rfl
    case interfaces => rfl
    case typeParameters => rfl
    case loadable => exact ⟨nofun, nofun⟩
    case unresolved => exact ⟨fun _ => rfl, fun _ => rfl⟩
  obtain ⟨_, hlocal, _, _⟩ := ofClauses_determined (.source 1) "p.A$1B"
  obtain ⟨_, _, _, hmember⟩ := ofClauses_determined (.source 1) "p.A$B"
  obtain ⟨_, _, _, htop⟩ := ofClauses_determined (.source 1) "p.B"
  exact ⟨hcount, hlocal x y hcount, hmember _ _ _ _ (by decide), htop _ _ _ _ (by decide)⟩

end Declaration

end JvmTypes
