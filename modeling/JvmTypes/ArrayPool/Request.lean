import JvmTypes.ArrayPool.Basic
/-!
# Requests to a pool

Requests as data, pools as what is left after a list of them, and array types that a pool makes
without keeping them.
-/

namespace JvmTypes

inductive ArrayRequest where
  | arrayOf (component : JavaType)
  | arrayOfDims (component : JavaType) (count : UInt64)

namespace ArrayPool

def serve (pool : ArrayPool) : ArrayRequest → Reply
  | .arrayOf component => pool.arrayOf component
  | .arrayOfDims component count => pool.arrayOfDims component count

/-- The replies to a list of requests, each served by the pool that the one before it left. -/
def replies (pool : ArrayPool) : List ArrayRequest → List Reply
  | [] => []
  | request :: rest =>
    let reply := pool.serve request
    reply :: reply.pool.replies rest

def after (pool : ArrayPool) (requests : List ArrayRequest) : ArrayPool :=
  requests.foldl (fun pool request => (pool.serve request).pool) pool

/-- An array type over the platform of a pool that the pool neither looks for nor keeps. -/
def makeLoose (pool : ArrayPool) (component : JavaType) : Reply :=
  match ArrayType.ofComponent pool.platform component .loose with
  | .error e => ⟨.error e, pool, [e.event]⟩
  | .ok arr => ⟨.ok (.array arr), pool, []⟩

end ArrayPool

inductive ArrayMaking where
  | kept
  | keptDims (count : UInt64)
  | loose

namespace ArrayPool

def make (pool : ArrayPool) (component : JavaType) : ArrayMaking → Reply
  | .kept => pool.serve (.arrayOf component)
  | .keptDims count => pool.serve (.arrayOfDims component count)
  | .loose => pool.makeLoose component

end ArrayPool

end JvmTypes
