import JvmTypes.Proofs.ArrayPool.Refusal
import JvmTypes.Proofs.JavaType.Levels
/-!
# The log as an audit of the pool

Every call of `arrayOf` logs one event, and the event tells what the call did: that it found an
entry, added one, or refused the component (`Call.exists_tellsOf`). A request for several
dimensions logs what its calls log, so the log of a run is that of its calls (`log_replies`), and
counting the additions in it gives the size of the pool at any moment (`Chain.size_eq_add`).
-/

namespace JvmTypes

namespace Log.Event

def isFound : Event → Bool
  | .arrayFound _ => true
  | _ => false

def isInterned : Event → Bool
  | .arrayInterned _ _ => true
  | _ => false

def isRefusal : Event → Bool
  | .anonymousComponent _ => true
  | .tooManyDimensions _ => true
  | _ => false

end Log.Event

@[simp] theorem ArrayError.isFound_event (e : ArrayError) : e.event.isFound = false := by
  cases e <;> rfl

@[simp] theorem ArrayError.isInterned_event (e : ArrayError) : e.event.isInterned = false := by
  cases e <;> rfl

@[simp] theorem ArrayError.isRefusal_event (e : ArrayError) : e.event.isRefusal = true := by
  cases e <;> rfl

/-! ## One call -/

/-- What an event says of a call is what the call did, and it names what the call was about. -/
structure Log.Event.TellsOf (event : Log.Event) (call : Call) : Prop where
  kind : event.isFound = true ∨ event.isInterned = true ∨ event.isRefusal = true
  found_iff : event.isFound = true ↔ call.succeeds = true ∧ call.reply.pool = call.pool
  interned_iff : event.isInterned = true ↔ call.succeeds = true ∧
    ∃ entry, call.reply.pool.entries = call.pool.entries ++ [entry]
  refusal_iff : event.isRefusal = true ↔ call.succeeds = false ∧ call.reply.pool = call.pool
  found : event.isFound = true → event = .arrayFound call.component.display
  interned : event.isInterned = true → ∃ arr, call.reply.result = .ok (.array arr) ∧
    event = .arrayInterned arr.display arr.dimensions
  refusal : event.isRefusal = true → ∃ e, call.reply.result = .error e ∧ event = e.event

namespace Call

variable {call : Call}

theorem tellsOf_arrayFound (hok : call.succeeds = true) (hpool : call.reply.pool = call.pool) :
    (Log.Event.arrayFound call.component.display).TellsOf call where
  kind := .inl rfl
  found_iff := ⟨fun _ => ⟨hok, hpool⟩, fun _ => rfl⟩
  interned_iff := by simp [hpool, Log.Event.isInterned]
  refusal_iff := by simp [hok, Log.Event.isRefusal]
  found _ := rfl
  interned h := absurd h Bool.false_ne_true
  refusal h := absurd h Bool.false_ne_true

theorem tellsOf_arrayInterned {arr : ArrayType} (hresult : call.reply.result = .ok (.array arr))
    (hpool : call.reply.pool = call.pool.add call.component arr) :
    (Log.Event.arrayInterned arr.display arr.dimensions).TellsOf call where
  kind := .inr (.inl rfl)
  found_iff := by
    have hgrown : call.pool.add call.component arr ≠ call.pool := by
      intro heq
      have hsize := congrArg ArrayPool.size heq
      rw [ArrayPool.size_add] at hsize
      omega
    simp [hpool, hgrown, Log.Event.isFound]
  interned_iff := by
    have hentries : call.reply.pool.entries = call.pool.entries ++ [(call.component, arr)] :=
      congrArg ArrayPool.entries hpool
    exact ⟨fun _ => ⟨succeeds_of_ok hresult, _, hentries⟩, fun _ => rfl⟩
  refusal_iff := by simp [succeeds_of_ok hresult, Log.Event.isRefusal]
  found h := absurd h Bool.false_ne_true
  interned _ := ⟨arr, hresult, rfl⟩
  refusal h := absurd h Bool.false_ne_true

theorem tellsOf_refusal {e : ArrayError} (hresult : call.reply.result = .error e)
    (hpool : call.reply.pool = call.pool) : e.event.TellsOf call where
  kind := .inr (.inr e.isRefusal_event)
  found_iff := by simp [succeeds_of_error hresult]
  interned_iff := by simp [succeeds_of_error hresult]
  refusal_iff := by simp [succeeds_of_error hresult, hpool]
  found h := by simp at h
  interned h := by simp at h
  refusal _ := ⟨e, hresult, rfl⟩

theorem exists_tellsOf (call : Call) :
    ∃ event : Log.Event, call.reply.log = [event] ∧ event.TellsOf call := by
  obtain ⟨arr, _, hr⟩ | ⟨e, _, _, hr⟩ | ⟨arr, _, _, hr⟩ :=
    ArrayPool.arrayOf_cases call.pool call.component
  all_goals
    change call.reply = _ at hr
    refine ⟨_, congrArg Reply.log hr, ?_⟩
  · exact tellsOf_arrayFound (succeeds_of_ok (congrArg Reply.result hr)) (congrArg Reply.pool hr)
  · exact tellsOf_refusal (congrArg Reply.result hr) (congrArg Reply.pool hr)
  · exact tellsOf_arrayInterned (congrArg Reply.result hr) (congrArg Reply.pool hr)

theorem size_reply_eq_add (call : Call) :
    call.reply.pool.size = call.pool.size + call.reply.log.countP Log.Event.isInterned := by
  obtain ⟨_, _, hr⟩ | ⟨e, _, _, hr⟩ | ⟨_, _, _, hr⟩ :=
    ArrayPool.arrayOf_cases call.pool call.component
  · rw [reply, hr]
    rfl
  · rw [reply, hr]
    simp
  · rw [reply, hr, ArrayPool.size_add]
    rfl

end Call

/-! ## Many calls -/

def logOf (calls : List Call) : List Log.Event :=
  calls.flatMap fun call => call.reply.log

theorem logOf_cons (call : Call) (rest : List Call) :
    logOf (call :: rest) = call.reply.log ++ logOf rest := List.flatMap_cons

theorem logOf_append (calls more : List Call) :
    logOf (calls ++ more) = logOf calls ++ logOf more := List.flatMap_append

namespace Chain

variable {first last : ArrayPool} {calls : List Call}

theorem before_of_append {before after : List Call} {call : Call}
    (h : Chain first (before ++ call :: after) last) : Chain first before call.pool := by
  induction before generalizing first with
  | nil =>
      cases h with
      | cons _ => exact .nil _
  | cons _ before ih =>
      cases h with
      | cons hrest => exact .cons (ih hrest)

theorem size_eq_add (h : Chain first calls last) :
    last.size = first.size + (logOf calls).countP Log.Event.isInterned := by
  induction h with
  | nil pool => rfl
  | @cons pool last component rest _ ih =>
      have hstep : (pool.arrayOf component).pool.size =
          pool.size + (pool.arrayOf component).log.countP Log.Event.isInterned :=
        Call.size_reply_eq_add ⟨pool, component⟩
      rw [ih, hstep, logOf_cons, List.countP_append, Nat.add_assoc]
      rfl

end Chain

namespace ArrayPool

theorem log_arrayOfEach (pool : ArrayPool) (component : JavaType) (count : Nat) :
    (pool.arrayOfEach component count).log = logOf (pool.callsOfEach component count) := by
  induction count generalizing pool component with
  | zero => rfl
  | succ count ih =>
      rw [callsOfEach, logOf_cons]
      cases hfirst : (pool.arrayOf component).result with
      | error e =>
          rw [arrayOfEach_succ_of_error hfirst]
          exact (List.append_nil _).symm
      | ok arr =>
          rw [arrayOfEach_succ_of_ok hfirst, Reply.log_behind, ih]
          rfl

theorem log_serve (pool : ArrayPool) (request : ArrayRequest) :
    (pool.serve request).log = logOf (pool.callsOf request) := by
  cases request with
  | arrayOf component => exact (List.append_nil _).symm
  | arrayOfDims component count =>
      rw [serve, arrayOfDims, callsOf]
      split
      · rfl
      · exact log_arrayOfEach pool component count.toNat

theorem log_replies (pool : ArrayPool) (requests : List ArrayRequest) :
    (pool.replies requests).flatMap Reply.log = logOf (pool.calls requests) := by
  induction requests generalizing pool with
  | nil => rfl
  | cons request rest ih =>
      rw [replies, List.flatMap_cons, calls, logOf_append, log_serve, ih]

/-! ## Rows of calls -/

theorem log_arrayOf_of_ok {pool : ArrayPool} {component t : JavaType}
    (h : (pool.arrayOf component).result = .ok t) :
    ∃ event : Log.Event, (pool.arrayOf component).log = [event] ∧
      (event.isFound = true ∨ event.isInterned = true) := by
  obtain ⟨event, hlog, htells⟩ := Call.exists_tellsOf ⟨pool, component⟩
  refine ⟨event, hlog, ?_⟩
  rcases htells.kind with hfound | hinterned | hrefusal
  · exact .inl hfound
  · exact .inr hinterned
  · have hsucceeds : Call.succeeds ⟨pool, component⟩ = true := Call.succeeds_of_ok h
    rw [(htells.refusal_iff.1 hrefusal).1] at hsucceeds
    contradiction

theorem length_log_arrayOfEach {pool : ArrayPool} {component t : JavaType} {count : Nat}
    (h : (pool.arrayOfEach component count).result = .ok t) :
    (pool.arrayOfEach component count).log.length = count := by
  induction count generalizing pool component with
  | zero => rfl
  | succ count ih =>
      cases hfirst : (pool.arrayOf component).result with
      | error e =>
          rw [arrayOfEach_succ_of_error hfirst, hfirst] at h
          contradiction
      | ok arr =>
          obtain ⟨event, hlog, _⟩ := log_arrayOf_of_ok hfirst
          rw [arrayOfEach_succ_of_ok hfirst] at h ⊢
          rw [Reply.log_behind, List.length_append, hlog, ih h, List.length_singleton,
            Nat.add_comm]

/-- A row that is refused logs that as its last event, after calls that were granted. -/
theorem log_arrayOfEach_of_error {pool : ArrayPool} {component : JavaType} {count : Nat}
    {e : ArrayError} (h : (pool.arrayOfEach component count).result = .error e) :
    ∃ earlier, (pool.arrayOfEach component count).log = earlier ++ [e.event] ∧
      ∀ event ∈ earlier, event.isFound = true ∨ event.isInterned = true := by
  induction count generalizing pool component with
  | zero => simp [arrayOfEach] at h
  | succ count ih =>
      cases hfirst : (pool.arrayOf component).result with
      | error other =>
          rw [arrayOfEach_succ_of_error hfirst] at h ⊢
          rw [arrayOf_of_error h]
          exact ⟨[], rfl, List.forall_mem_nil _⟩
      | ok arr =>
          obtain ⟨event, hevent, hkind⟩ := log_arrayOf_of_ok hfirst
          rw [arrayOfEach_succ_of_ok hfirst] at h ⊢
          obtain ⟨earlier, hlog, hgranted⟩ := ih h
          refine ⟨event :: earlier, ?_, List.forall_mem_cons.2 ⟨hkind, hgranted⟩⟩
          rw [Reply.log_behind, hevent, hlog, List.singleton_append, List.cons_append]

/-- **The log audits the table.** In a run from an empty pool each call of `arrayOf` logs one
event, which tells what the call did to the pool, and the log of the run is that of its calls. A
request for several dimensions logs nothing if the sum of its dimensions is beyond the limit from
the start, one event for each dimension if it is granted, and otherwise some calls that were
granted and then why the last was refused, also where the sum wraps around. The size of the pool
is the number of additions logged so far, between any two calls of the run and at its end. -/
theorem log_audits_table (platform : Platform) (requests : List ArrayRequest) :
    let start := empty platform
    let pool := start.after requests
    let log := (start.replies requests).flatMap Reply.log
    (∀ call ∈ start.calls requests, ∃ event, call.reply.log = [event] ∧ event.TellsOf call) ∧
    log = logOf (start.calls requests) ∧
    (∀ component count,
      let reply := pool.arrayOfDims component count
      let total := dimensionSum component.dimensions count
      (maxDimensions < total →
        reply.result = .error (.tooManyDimensions total) ∧ reply.log = []) ∧
      (∀ t, reply.result = .ok t → reply.log.length = count.toNat) ∧
      (∀ e, reply.result = .error e → total ≤ maxDimensions →
        ∃ earlier, reply.log = earlier ++ [e.event] ∧
          ∀ event ∈ earlier, event.isFound = true ∨ event.isInterned = true)) ∧
    (∀ before call after, start.calls requests = before ++ call :: after →
      call.pool.size = (logOf before).countP Log.Event.isInterned) ∧
    pool.size = log.countP Log.Event.isInterned := by
  intro start pool log
  have hchain : Chain start (start.calls requests) pool := chain_calls start requests
  have hlog : log = logOf (start.calls requests) := log_replies start requests
  refine ⟨fun call _ => call.exists_tellsOf, hlog, ?_, ?_, ?_⟩
  · intro component count reply total
    by_cases hlimit : maxDimensions < total
    · have hreply : reply = ⟨.error (.tooManyDimensions total), pool, []⟩ :=
        arrayOfDims_of_lt hlimit
      rw [hreply]
      refine ⟨fun _ => ⟨rfl, rfl⟩, fun t ht => by contradiction, fun e _ hle => ?_⟩
      omega
    · have hreply : reply = pool.arrayOfEach component count.toNat :=
        arrayOfDims_of_le (Nat.not_lt.1 hlimit)
      rw [hreply]
      exact ⟨fun hlt => absurd hlt hlimit, fun t => length_log_arrayOfEach,
        fun e he _ => log_arrayOfEach_of_error he⟩
  · intro before call after hsplit
    rw [hsplit] at hchain
    have hsize := hchain.before_of_append.size_eq_add
    rw [size_empty, Nat.zero_add] at hsize
    exact hsize
  · have hsize := hchain.size_eq_add
    rw [size_empty, Nat.zero_add, ← hlog] at hsize
    exact hsize

/-- An array of as many dimensions as the limit allows, in the place of a class: of two more
dimensions the first is granted, and the refusal of the second is the last event. -/
theorem log_audits_table_refused_late :
    let full : ArrayType := ⟨.shared, (JavaType.primitive .int).withDims .shared 254, .loose⟩
    let hidden : JavaType := .ofClass (.ofArray full)
    let reply := (empty .shared).arrayOfDims hidden 2
    reply.result = .error (.tooManyDimensions 257) ∧ reply.pool.size = 1 ∧
      ∃ earlier, reply.log = earlier ++ [.tooManyDimensions 257] ∧
        ∀ event ∈ earlier, event.isFound = true ∨ event.isInterned = true := by
  intro full hidden reply
  let beyond : ArrayType := ⟨.shared, hidden, .kept 0⟩
  let grown : ArrayPool := (empty .shared).add hidden beyond
  have hdimensions : (JavaType.array beyond).dimensions = 256 := by
    have hfull : full.depth = 255 := by rw [ArrayType.depth_eq, JavaType.depth_withDims]; rfl
    calc
      (JavaType.array beyond).dimensions = full.depth + 1 := beyond.dimensions_eq
      _ = 256 := by rw [hfull]
  have hfirst : ((empty .shared).arrayOf hidden).result = .ok (.array beyond) := rfl
  have hgrown : ((empty .shared).arrayOf hidden).pool = grown := rfl
  have hsecond : (grown.arrayOf (.array beyond)).result = .error (.tooManyDimensions 257) := by
    rw [result_arrayOf_eq_error_iff, result_makeLoose_eq_error_iff, ArrayType.ofComponent,
      hdimensions]
    exact ⟨rfl, rfl⟩
  have hreply : reply = (empty .shared).arrayOfEach hidden 2 := rfl
  rw [arrayOfEach] at hreply
  simp only [hfirst, hgrown] at hreply
  rw [arrayOfEach] at hreply
  simp only [hsecond] at hreply
  have hresult : reply.result = .error (.tooManyDimensions 257) := by rw [hreply]
  have hkept : (grown.arrayOf (.array beyond)).pool = grown := pool_arrayOf_of_error hsecond
  have hpool : reply.pool = grown := by rw [hreply, hkept]
  obtain ⟨_, _, hrows, _⟩ := log_audits_table .shared []
  refine ⟨hresult, by rw [hpool]; rfl, ?_⟩
  exact (hrows hidden 2).2.2 _ hresult (by decide)

/-- The second request finds the row's first array type and adds the one over it. -/
example :
    let requests : List ArrayRequest :=
      [.arrayOf (.primitive .int), .arrayOfDims (.primitive .int) 2]
    ((empty .shared).replies requests).flatMap Reply.log =
      [.arrayInterned "array(int)" 1, .arrayFound "int",
        .arrayInterned "array(array(int))" 2] := by
  decide

end ArrayPool

end JvmTypes
