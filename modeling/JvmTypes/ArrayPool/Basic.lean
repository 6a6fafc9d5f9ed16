import JvmTypes.JavaType.Construction
import JvmTypes.JavaType.Identity
/-!
# Pools of array types

A pool makes array types over one platform and keeps each of them under its component, so that
one array type is handed out for all components that are the same type. Entries stay in the order
in which they came, and the first that fits is the answer.
-/

namespace JvmTypes

structure ArrayPool where
  platform : Platform
  entries : List (JavaType × ArrayType)

namespace ArrayPool

def empty (platform : Platform) : ArrayPool := ⟨platform, []⟩

def size (pool : ArrayPool) : Nat := pool.entries.length

def find? (pool : ArrayPool) (component : JavaType) : Option ArrayType :=
  (pool.entries.find? fun entry => entry.1 == component).map (·.2)

def add (pool : ArrayPool) (component : JavaType) (arr : ArrayType) : ArrayPool :=
  { pool with entries := pool.entries ++ [(component, arr)] }

@[simp] theorem size_empty (platform : Platform) : (empty platform).size = 0 := rfl

@[simp] theorem find?_empty (platform : Platform) (component : JavaType) :
    (empty platform).find? component = none := rfl

@[simp] theorem size_add (pool : ArrayPool) (component : JavaType) (arr : ArrayType) :
    (pool.add component arr).size = pool.size + 1 := by
  simp [size, add]

@[simp] theorem platform_add (pool : ArrayPool) (component : JavaType) (arr : ArrayType) :
    (pool.add component arr).platform = pool.platform := rfl

theorem find?_add (pool : ArrayPool) (component key : JavaType) (arr : ArrayType) :
    (pool.add key arr).find? component =
      (pool.find? component).or (if key == component then some arr else none) := by
  simp only [find?, add, List.find?_append]
  cases pool.entries.find? fun entry => entry.1 == component with
  | some entry => rfl
  | none => cases h : key == component <;> simp [h]

end ArrayPool

/-- What a pool answers to a request: a type or the reason for none, the pool afterwards, and
what was logged. -/
structure Reply where
  result : Except ArrayError JavaType
  pool : ArrayPool
  log : List Log.Event

namespace ArrayPool

/-- The array type over a component: the one kept for it, or a new one that is kept from now
on. -/
def arrayOf (pool : ArrayPool) (component : JavaType) : Reply :=
  match pool.find? component with
  | some arr => ⟨.ok (.array arr), pool, [.arrayFound component.display]⟩
  | none =>
    match ArrayType.ofComponent pool.platform component (.kept pool.size) with
    | .error e => ⟨.error e, pool, [e.event]⟩
    | .ok arr =>
      ⟨.ok (.array arr), pool.add component arr, [.arrayInterned arr.display arr.dimensions]⟩

/-- `count` array types made one over the other, up to the first that cannot be made. -/
def arrayOfEach (pool : ArrayPool) (component : JavaType) : Nat → Reply
  | 0 => ⟨.ok component, pool, []⟩
  | count + 1 =>
    let first := pool.arrayOf component
    match first.result with
    | .error _ => first
    | .ok arr =>
      let rest := first.pool.arrayOfEach arr count
      { rest with log := first.log ++ rest.log }

/-- The type with `count` dimensions more than `component`. Too many dimensions are noticed
before any array type is made, and then nothing is logged, unless their sum wraps around. -/
def arrayOfDims (pool : ArrayPool) (component : JavaType) (count : UInt64) : Reply :=
  let requested := dimensionSum component.dimensions count
  if maxDimensions < requested then ⟨.error (.tooManyDimensions requested), pool, []⟩
  else pool.arrayOfEach component count.toNat

end ArrayPool

end JvmTypes
