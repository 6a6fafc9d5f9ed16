import JvmTypes.JavaType.Nested
import JvmTypes.JavaType.Text
/-!
# Making array types

An array type can be made over every component but an anonymous class, as long as the dimensions
stay within the limit.
-/

namespace JvmTypes

inductive ArrayError where
  | anonymousComponent (component : String)
  | tooManyDimensions (requested : Nat)
deriving DecidableEq

namespace ArrayError

def message : ArrayError → String
  | .anonymousComponent component =>
    "anonymous classes cannot be array components: " ++ component
  | .tooManyDimensions requested =>
    "array type would have " ++ toString requested ++ " dimensions, the limit is " ++
      toString maxDimensions

def event : ArrayError → Log.Event
  | .anonymousComponent component => .anonymousComponent component
  | .tooManyDimensions requested => .tooManyDimensions requested

end ArrayError

namespace ArrayType

/-- The array type over a component, with the classes of `platform` above it. That the component
is anonymous counts before its dimensions do. -/
def ofComponent (platform : Platform) (component : JavaType) (origin : ArrayOrigin) :
    Except ArrayError ArrayType :=
  let requested := component.dimensions + 1
  if component.isAnonymous then .error (.anonymousComponent component.display)
  else if maxDimensions < requested then .error (.tooManyDimensions requested)
  else .ok ⟨platform, component, origin⟩

theorem ofComponent_eq_ok_iff {platform : Platform} {component : JavaType} {origin : ArrayOrigin}
    {arr : ArrayType} :
    ofComponent platform component origin = .ok arr ↔
      component.isAnonymous = false ∧ component.dimensions + 1 ≤ maxDimensions ∧
        arr = ⟨platform, component, origin⟩ := by
  unfold ofComponent
  cases ha : component.isAnonymous
  · by_cases hm : maxDimensions < component.dimensions + 1
    · simp [hm, Nat.not_le.2 hm]
    · simp [hm, Nat.not_lt.1 hm, eq_comm]
  · simp

theorem ofComponent_eq_error_iff (platform : Platform) (component : JavaType)
    (origin other : ArrayOrigin) {e : ArrayError} :
    ofComponent platform component origin = .error e ↔
      ofComponent platform component other = .error e := by
  unfold ofComponent
  cases component.isAnonymous
  · by_cases hm : maxDimensions < component.dimensions + 1
    · simp [hm]
    · simp [hm]
  · simp

end ArrayType

end JvmTypes
