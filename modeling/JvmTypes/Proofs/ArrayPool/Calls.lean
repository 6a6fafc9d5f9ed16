import JvmTypes.Proofs.ArrayPool.Lookup
/-!
# Runs as calls

A request for several dimensions is served by several calls of `arrayOf`, so a run of requests
comes down to a list of calls, each made to the pool that the one before it left (`chain_calls`).
What one call keeps is kept by a whole run (`Chain.invariant`); later modules prove their run
lemmas by induction on `Chain`.
-/

namespace JvmTypes

def ArrayRequest.component : ArrayRequest → JavaType
  | .arrayOf component => component
  | .arrayOfDims component _ => component

/-- A call of `arrayOf` within a run: the pool that is asked, and the component. -/
structure Call where
  pool : ArrayPool
  component : JavaType

namespace Call

def reply (call : Call) : Reply :=
  call.pool.arrayOf call.component

def succeeds (call : Call) : Bool :=
  call.reply.result.isOk

variable {call : Call}

theorem succeeds_of_ok {t : JavaType} (h : call.reply.result = .ok t) :
    call.succeeds = true := by
  rw [succeeds, h]
  rfl

theorem succeeds_of_error {e : ArrayError} (h : call.reply.result = .error e) :
    call.succeeds = false := by
  rw [succeeds, h]
  rfl

end Call

/-- The components of the calls that gave an array type, in the order of the calls. -/
def granted (calls : List Call) : List JavaType :=
  (calls.filter Call.succeeds).map Call.component

theorem exists_call_of_mem_granted {calls : List Call} {component : JavaType}
    (h : component ∈ granted calls) : ∃ call ∈ calls, call.component = component := by
  obtain ⟨call, hmem, rfl⟩ := List.mem_map.1 h
  exact ⟨call, (List.mem_filter.1 hmem).1, rfl⟩

theorem granted_cons_of_ok {pool : ArrayPool} {component t : JavaType} {rest : List Call}
    (h : (pool.arrayOf component).result = .ok t) :
    granted (⟨pool, component⟩ :: rest) = component :: granted rest := by
  have hs : Call.succeeds ⟨pool, component⟩ = true := Call.succeeds_of_ok h
  simp [granted, hs]

theorem granted_cons_of_error {pool : ArrayPool} {component : JavaType} {e : ArrayError}
    {rest : List Call} (h : (pool.arrayOf component).result = .error e) :
    granted (⟨pool, component⟩ :: rest) = granted rest := by
  have hs : Call.succeeds ⟨pool, component⟩ = false := Call.succeeds_of_error h
  simp [granted, hs]

/-! ## Rows of calls -/

namespace Reply

def behind (log : List Log.Event) (reply : Reply) : Reply :=
  { reply with log := log ++ reply.log }

@[simp] theorem result_behind (log : List Log.Event) (reply : Reply) :
    (reply.behind log).result = reply.result := rfl

@[simp] theorem pool_behind (log : List Log.Event) (reply : Reply) :
    (reply.behind log).pool = reply.pool := rfl

@[simp] theorem log_behind (log : List Log.Event) (reply : Reply) :
    (reply.behind log).log = log ++ reply.log := rfl

end Reply

namespace ArrayPool

section Rows

variable {pool : ArrayPool} {component : JavaType}

theorem arrayOfEach_succ_of_error {e : ArrayError}
    (h : (pool.arrayOf component).result = .error e) (count : Nat) :
    pool.arrayOfEach component (count + 1) = pool.arrayOf component := by
  simp only [arrayOfEach, h]

theorem arrayOfEach_succ_of_ok {t : JavaType} (h : (pool.arrayOf component).result = .ok t)
    (count : Nat) :
    pool.arrayOfEach component (count + 1) =
      ((pool.arrayOf component).pool.arrayOfEach t count).behind
        (pool.arrayOf component).log := by
  simp only [arrayOfEach, h]
  rfl

theorem arrayOfEach_one (pool : ArrayPool) (component : JavaType) :
    pool.arrayOfEach component 1 = pool.arrayOf component := by
  obtain ⟨_, _, hr⟩ | ⟨_, _, _, hr⟩ | ⟨_, _, _, hr⟩ := arrayOf_cases pool component
  · rw [arrayOfEach, hr]
    rfl
  · rw [arrayOfEach, hr]
  · rw [arrayOfEach, hr]
    rfl

theorem arrayOfDims_of_lt {count : UInt64}
    (h : maxDimensions < dimensionSum component.dimensions count) :
    pool.arrayOfDims component count =
      ⟨.error (.tooManyDimensions (dimensionSum component.dimensions count)), pool, []⟩ :=
  if_pos h

theorem arrayOfDims_of_le {count : UInt64}
    (h : dimensionSum component.dimensions count ≤ maxDimensions) :
    pool.arrayOfDims component count = pool.arrayOfEach component count.toNat :=
  if_neg (Nat.not_lt.2 h)

theorem arrayOfDims_of_add_le {count : UInt64}
    (h : component.dimensions + count.toNat ≤ maxDimensions) :
    pool.arrayOfDims component count = pool.arrayOfEach component count.toNat := by
  refine arrayOfDims_of_le ?_
  rw [dimensionSum_of_lt (lt_size_of_le (Nat.le_succ_of_le h))]
  exact h

end Rows

def callsOfEach (pool : ArrayPool) (component : JavaType) : Nat → List Call
  | 0 => []
  | count + 1 =>
    let reply := pool.arrayOf component
    ⟨pool, component⟩ ::
      match reply.result with
      | .error _ => []
      | .ok arr => reply.pool.callsOfEach arr count

/-- The calls behind a request; one that is refused for its dimensions at once makes none. -/
def callsOf (pool : ArrayPool) : ArrayRequest → List Call
  | .arrayOf component => [⟨pool, component⟩]
  | .arrayOfDims component count =>
    if maxDimensions < dimensionSum component.dimensions count then []
    else pool.callsOfEach component count.toNat

def calls (pool : ArrayPool) : List ArrayRequest → List Call
  | [] => []
  | request :: rest => pool.callsOf request ++ (pool.serve request).pool.calls rest

end ArrayPool

/-- Calls that lead from one pool to another, each made to the pool that the one before it
left. -/
inductive Chain : ArrayPool → List Call → ArrayPool → Prop
  | nil (pool : ArrayPool) : Chain pool [] pool
  | cons {pool last : ArrayPool} {component : JavaType} {rest : List Call} :
      Chain (pool.arrayOf component).pool rest last → Chain pool (⟨pool, component⟩ :: rest) last

namespace Chain

variable {first middle last : ArrayPool} {calls more : List Call}

theorem append (h : Chain first calls middle) (k : Chain middle more last) :
    Chain first (calls ++ more) last := by
  induction h with
  | nil => exact k
  | cons _ ih => exact .cons (ih k)

/-- What every call keeps holds behind a chain, and before each call of it, if it holds at its
start. -/
theorem invariant {P : ArrayPool → Prop}
    (step : ∀ pool component, P pool → P (pool.arrayOf component).pool)
    (h : Chain first calls last) (hfirst : P first) : P last ∧ ∀ call ∈ calls, P call.pool := by
  induction h with
  | nil => exact ⟨hfirst, by simp⟩
  | @cons pool _ component _ _ ih =>
      obtain ⟨hlast, hrest⟩ := ih (step pool component hfirst)
      exact ⟨hlast, List.forall_mem_cons.2 ⟨hfirst, hrest⟩⟩

end Chain

namespace ArrayPool

/-! ## The calls of a run -/

theorem chain_callsOfEach (pool : ArrayPool) (component : JavaType) (count : Nat) :
    Chain pool (pool.callsOfEach component count) (pool.arrayOfEach component count).pool := by
  induction count generalizing pool component with
  | zero => exact .nil pool
  | succ count ih =>
      rw [callsOfEach, arrayOfEach]
      refine .cons ?_
      cases (pool.arrayOf component).result with
      | error e => exact .nil _
      | ok arr => exact ih _ arr

theorem chain_callsOf (pool : ArrayPool) (request : ArrayRequest) :
    Chain pool (pool.callsOf request) (pool.serve request).pool := by
  cases request with
  | arrayOf component => exact .cons (.nil _)
  | arrayOfDims component count =>
      rw [callsOf, serve, arrayOfDims]
      split
      · exact .nil pool
      · exact chain_callsOfEach pool component count.toNat

theorem after_cons (pool : ArrayPool) (request : ArrayRequest) (rest : List ArrayRequest) :
    pool.after (request :: rest) = (pool.serve request).pool.after rest := rfl

theorem after_concat (pool : ArrayPool) (requests : List ArrayRequest) (request : ArrayRequest) :
    pool.after (requests ++ [request]) = ((pool.after requests).serve request).pool := by
  simp [after]

theorem calls_concat (pool : ArrayPool) (requests : List ArrayRequest) (request : ArrayRequest) :
    pool.calls (requests ++ [request]) =
      pool.calls requests ++ (pool.after requests).callsOf request := by
  induction requests generalizing pool with
  | nil => simp [calls, after]
  | cons first rest ih =>
      rw [List.cons_append, calls, calls, after_cons, ih, List.append_assoc]

theorem exists_call_of_arrayOfEach {pool : ArrayPool} {component t : JavaType} {count : Nat}
    (h : (pool.arrayOfEach component (count + 1)).result = .ok t) :
    ∃ call ∈ pool.callsOfEach component (count + 1), call.reply.result = .ok t := by
  induction count generalizing pool component with
  | zero =>
      cases hfirst : (pool.arrayOf component).result with
      | error e =>
          rw [arrayOfEach_succ_of_error hfirst, hfirst] at h
          contradiction
      | ok arr =>
          rw [arrayOfEach_succ_of_ok hfirst] at h
          exact ⟨⟨pool, component⟩, List.mem_cons_self, hfirst.trans h⟩
  | succ count ih =>
      rw [callsOfEach]
      cases hfirst : (pool.arrayOf component).result with
      | error e =>
          rw [arrayOfEach_succ_of_error hfirst, hfirst] at h
          contradiction
      | ok arr =>
          rw [arrayOfEach_succ_of_ok hfirst] at h
          obtain ⟨call, hmem, hcall⟩ := ih h
          exact ⟨call, List.mem_cons_of_mem _ hmem, hcall⟩

theorem result_arrayOfEach {pool : ArrayPool} {component t : JavaType} {count : Nat}
    (h : (pool.arrayOfEach component count).result = .ok t) :
    t = component ∨ ∃ call ∈ pool.callsOfEach component count, call.reply.result = .ok t := by
  cases count with
  | zero => exact .inl (Except.ok.inj h).symm
  | succ count => exact .inr (exists_call_of_arrayOfEach h)

theorem result_serve {pool : ArrayPool} {request : ArrayRequest} {t : JavaType}
    (h : (pool.serve request).result = .ok t) :
    t = request.component ∨ ∃ call ∈ pool.callsOf request, call.reply.result = .ok t := by
  cases request with
  | arrayOf component => exact .inr ⟨⟨pool, component⟩, List.mem_singleton_self _, h⟩
  | arrayOfDims component count =>
      rw [serve, arrayOfDims] at h
      rw [callsOf]
      split at h
      · contradiction
      · next hle =>
          rw [if_neg hle]
          exact result_arrayOfEach h

theorem chain_calls (pool : ArrayPool) (requests : List ArrayRequest) :
    Chain pool (pool.calls requests) (pool.after requests) := by
  induction requests generalizing pool with
  | nil => exact .nil pool
  | cons request rest ih =>
      rw [calls, after_cons]
      exact (chain_callsOf pool request).append (ih _)

end ArrayPool

end JvmTypes
