import TgGate.Library.Machine
import TgGate.Library.Pool
import TgGate.LocalMcpHttpService

namespace TgGate

open Library

/-!
# The concurrent-request limit

`SimpleWebHttpHost` runs the handler of a request on the thread that received
it.  An atomic counter of active requests is raised before the limit is checked
and lowered again when the request leaves, either at once because the limit was
reached or by a guard that is destroyed however the handler ends.

The threads take their atomic steps in any order.  Their number is arbitrary,
but it is a `size_t` like the counter.
-/

/-- `status_code`. -/
def statusCode (status : Nat) : Nat :=
  if status ∈ [200, 202, 400, 401, 403, 404, 405, 406, 413, 415, 429] then
    status
  else
    500

/-- What `write_response` sends. -/
def writeResponse (value : HttpResponse) : HttpResponse :=
  { value with status := statusCode value.status }

/-- How far a request is in `dispatch`: the part it takes next. -/
inductive DispatchPhase where
  | rejecting
  | refusing
  | handling (request : HttpRequest)
  | answering (response : HttpResponse)
  | failing
  | releasing

namespace DispatchPhase

/-- The request has raised the counter and not lowered it yet. -/
def isCounted : DispatchPhase → Bool
  | .refusing => false
  | _ => true

/-- The request passed the check and its guard is alive. -/
def isAdmitted : DispatchPhase → Bool
  | .rejecting | .refusing => false
  | _ => true

/-- Who passed the check is counted. -/
theorem isCounted_of_isAdmitted
    {phase : DispatchPhase}
    (isAdmitted : phase.isAdmitted = true) :
    phase.isCounted = true := by
  cases phase <;> first | rfl | cases isAdmitted

/-- The handler runs. -/
def isHandling : DispatchPhase → Bool
  | .handling _ => true
  | _ => false

end DispatchPhase

/-- The counter, the limit and the requests in `dispatch`. -/
structure SimpleWebHttpHost where
  maximumConnections : UInt64
  /-- The number of threads that serve requests. -/
  threads : UInt64
  activeRequests : UInt64 := 0
  dispatching : List DispatchPhase := []

/-- How a part of `dispatch` ends that may throw. -/
inductive Ending where
  | returned
  | threw

/-- A step of one of the threads. -/
inductive DispatchCall where
  /-- An idle thread receives a request and takes the first atomic step. -/
  | dispatch (request : HttpRequest)
  /-- The handler of the request at a position returns or throws. -/
  | handled (index : Nat) (outcome : Option HttpResponse)
  /-- The request at a position takes another part. -/
  | advance (index : Nat) (ending : Ending)

/-- What a step sends to the client. -/
inductive DispatchReply where
  | nothing
  | wrote (response : HttpResponse)

namespace SimpleWebHttpHost

/-- `fetch_add` and the comparison of the value it returns. -/
def dispatch
    (request : HttpRequest)
    (host : SimpleWebHttpHost) : SimpleWebHttpHost × DispatchReply :=
  if host.dispatching.length < host.threads.toNat then
    ({ host with
        activeRequests := host.activeRequests + 1
        dispatching :=
          host.dispatching ++
            [if host.activeRequests ≥ host.maximumConnections then
              .rejecting
            else
              .handling request] },
      .nothing)
  else
    (host, .nothing)

/-- The request at a position goes on at another part. -/
def dispatchAt
    (index : Nat)
    (phase : DispatchPhase)
    (host : SimpleWebHttpHost) : SimpleWebHttpHost :=
  { host with dispatching := host.dispatching.set index phase }

/-- The request at a position leaves `dispatch`. -/
def leave
    (index : Nat)
    (host : SimpleWebHttpHost) : SimpleWebHttpHost :=
  { host with dispatching := host.dispatching.eraseIdx index }

/-- `fetch_sub`. -/
def lower (host : SimpleWebHttpHost) : SimpleWebHttpHost :=
  { host with activeRequests := host.activeRequests - 1 }

/-- The handler ends; an exception is caught. -/
def handled
    (index : Nat)
    (outcome : Option HttpResponse)
    (host : SimpleWebHttpHost) :
    DispatchPhase → SimpleWebHttpHost × DispatchReply
  | .handling _ =>
      match outcome with
      | some response =>
          (host.dispatchAt index (.answering response), .nothing)
      | none => (host.dispatchAt index .failing, .nothing)
  | _ => (host, .nothing)

/-- The parts of `dispatch` around the handler. -/
def advance
    (index : Nat)
    (ending : Ending)
    (host : SimpleWebHttpHost) :
    DispatchPhase → SimpleWebHttpHost × DispatchReply
  | .rejecting => (host.lower.dispatchAt index .refusing, .nothing)
  | .refusing =>
      match ending with
      | .returned =>
          (host.leave index, .wrote (writeResponse { status := 429 }))
      | .threw => (host.leave index, .nothing)
  | .handling _ => (host, .nothing)
  | .answering response =>
      match ending with
      | .returned =>
          (host.dispatchAt index .releasing,
            .wrote (writeResponse response))
      | .threw => (host.dispatchAt index .failing, .nothing)
  | .failing =>
      match ending with
      | .returned =>
          (host.dispatchAt index .releasing,
            .wrote (writeResponse { status := 500 }))
      | .threw => (host.dispatchAt index .releasing, .nothing)
  | .releasing => (host.lower.leave index, .nothing)

/-- The requests that have raised the counter and not lowered it yet. -/
def counted (host : SimpleWebHttpHost) : Nat :=
  host.dispatching.countP DispatchPhase.isCounted

/-- The requests that passed the check and hold a guard. -/
def admitted (host : SimpleWebHttpHost) : Nat :=
  host.dispatching.countP DispatchPhase.isAdmitted

/-- The handlers running. -/
def handling (host : SimpleWebHttpHost) : Nat :=
  host.dispatching.countP DispatchPhase.isHandling

end SimpleWebHttpHost

/-- All interleavings of the threads of one host. -/
def dispatchMachine (maximumConnections threads : UInt64) :
    Machine SimpleWebHttpHost DispatchCall DispatchReply where
  initial := { maximumConnections, threads }
  step host
    | .dispatch request => host.dispatch request
    | .handled index outcome =>
        match host.dispatching[index]? with
        | none => (host, .nothing)
        | some phase => host.handled index outcome phase
    | .advance index ending =>
        match host.dispatching[index]? with
        | none => (host, .nothing)
        | some phase => host.advance index ending phase

namespace SimpleWebHttpHost

/-- What a step does to the counter and to the requests in `dispatch`. -/
inductive DispatchStep (host : SimpleWebHttpHost) :
    SimpleWebHttpHost → Prop where
  | idle : DispatchStep host host
  | rejects
      (free : host.dispatching.length < host.threads.toNat)
      (full : host.activeRequests ≥ host.maximumConnections) :
      DispatchStep host
        { host with
          activeRequests := host.activeRequests + 1
          dispatching := host.dispatching ++ [.rejecting] }
  | admits
      {request : HttpRequest}
      (free : host.dispatching.length < host.threads.toNat)
      (below : host.activeRequests < host.maximumConnections) :
      DispatchStep host
        { host with
          activeRequests := host.activeRequests + 1
          dispatching := host.dispatching ++ [.handling request] }
  | refuses
      {before after : List DispatchPhase}
      (here : host.dispatching = before ++ .rejecting :: after) :
      DispatchStep host
        { host with
          activeRequests := host.activeRequests - 1
          dispatching := before ++ .refusing :: after }
  | proceeds
      {before after : List DispatchPhase}
      {phase next : DispatchPhase}
      (here : host.dispatching = before ++ phase :: after)
      (admitted : phase.isAdmitted = true)
      (still : next.isAdmitted = true)
      (ended : next.isHandling = false) :
      DispatchStep host
        { host with dispatching := before ++ next :: after }
  | leaves
      {before after : List DispatchPhase}
      (here : host.dispatching = before ++ .refusing :: after) :
      DispatchStep host { host with dispatching := before ++ after }
  | releases
      {before after : List DispatchPhase}
      (here : host.dispatching = before ++ .releasing :: after) :
      DispatchStep host
        { host with
          activeRequests := host.activeRequests - 1
          dispatching := before ++ after }

/-- Every step of the interleaving is one of these. -/
theorem dispatchStep
    (maximumConnections threads : UInt64)
    (host : SimpleWebHttpHost)
    (call : DispatchCall) :
    host.DispatchStep
      ((dispatchMachine maximumConnections threads).step host call).1 := by
  cases call with
  | dispatch request =>
      simp only [dispatchMachine, dispatch]
      split
      next free =>
        split
        next full =>
          exact .rejects free full
        next notFull =>
          exact .admits free (UInt64.not_le.mp notFull)
      next =>
        exact .idle
  | handled index outcome =>
      simp only [dispatchMachine]
      split
      next =>
        exact .idle
      next phase found =>
        obtain ⟨before, after, here, -, replaced⟩ :=
          exists_split_of_getElem? found
        cases phase with
        | handling request =>
            cases outcome with
            | some response =>
                simp only [handled, dispatchAt, replaced]
                exact .proceeds here rfl rfl rfl
            | none =>
                simp only [handled, dispatchAt, replaced]
                exact .proceeds here rfl rfl rfl
        | rejecting | refusing | answering | failing | releasing =>
            exact .idle
  | advance index ending =>
      simp only [dispatchMachine]
      split
      next =>
        exact .idle
      next phase found =>
        obtain ⟨before, after, here, removed, replaced⟩ :=
          exists_split_of_getElem? found
        cases phase with
        | rejecting =>
            simp only [advance, lower, dispatchAt, replaced]
            exact .refuses here
        | refusing =>
            cases ending <;>
              simp only [advance, leave, removed] <;>
              exact .leaves here
        | handling request =>
            exact .idle
        | answering response =>
            cases ending <;>
              simp only [advance, dispatchAt, replaced] <;>
              exact .proceeds here rfl rfl rfl
        | failing =>
            cases ending <;>
              simp only [advance, dispatchAt, replaced] <;>
              exact .proceeds here rfl rfl rfl
        | releasing =>
            simp only [advance, lower, leave, removed]
            exact .releases here

/-- The counter counts, and what it admits stays below the limit. -/
structure Limited
    (maximumConnections threads : UInt64)
    (host : SimpleWebHttpHost) : Prop where
  maximum : host.maximumConnections = maximumConnections
  capacity : host.threads = threads
  threads : host.dispatching.length ≤ threads.toNat
  counter : host.activeRequests.toNat = host.counted
  limit : host.admitted ≤ maximumConnections.toNat

section Counter

variable {host : SimpleWebHttpHost}

/-- A request that is between its two steps keeps the counter positive. -/
theorem counted_pos
    {phase : DispatchPhase}
    (member : phase ∈ host.dispatching)
    (isCounted : phase.isCounted = true) :
    0 < host.counted :=
  List.countP_pos_iff.mpr ⟨phase, member, isCounted⟩

/-- Never more requests are admitted than counted. -/
theorem admitted_le_counted (host : SimpleWebHttpHost) :
    host.admitted ≤ host.counted :=
  List.countP_mono_left fun _ _ =>
    DispatchPhase.isCounted_of_isAdmitted

/-- Only admitted requests run a handler. -/
theorem handling_le_admitted (host : SimpleWebHttpHost) :
    host.handling ≤ host.admitted := by
  apply List.countP_mono_left
  intro phase _ isHandling
  cases phase <;> first | rfl | cases isHandling

/-- With room for one more thread the counter does not overflow. -/
theorem toNat_raise
    {maximumConnections threads : UInt64}
    (limited : host.Limited maximumConnections threads)
    (free : host.dispatching.length < host.threads.toNat) :
    (host.activeRequests + 1).toNat = host.counted + 1 := by
  have few : host.counted ≤ host.dispatching.length :=
    List.countP_le_length
  have small := host.threads.toNat_lt
  rw [UInt64.toNat_add, limited.counter]
  apply Nat.mod_eq_of_lt
  simp only [UInt64.reduceToNat]
  omega

/-- A positive counter does not underflow. -/
theorem toNat_lower
    {maximumConnections threads : UInt64}
    (limited : host.Limited maximumConnections threads)
    (positive : 0 < host.counted) :
    (host.activeRequests - 1).toNat = host.counted - 1 := by
  rw [UInt64.toNat_sub_of_le, limited.counter]
  · rfl
  · rw [UInt64.le_iff_toNat_le, limited.counter]
    exact positive

end Counter

/-- Every step keeps the limit. -/
theorem limited_step
    {maximumConnections threads : UInt64}
    {host next : SimpleWebHttpHost}
    (limited : host.Limited maximumConnections threads)
    (taken : host.DispatchStep next) :
    next.Limited maximumConnections threads := by
  rcases limited with ⟨maximum, capacity, fits, counter, limit⟩
  have before : host.Limited maximumConnections threads :=
    ⟨maximum, capacity, fits, counter, limit⟩
  cases taken with
  | idle =>
      exact before
  | rejects free full =>
      refine ⟨maximum, capacity, ?_, ?_, ?_⟩
      · rw [capacity] at free
        rw [List.length_append]
        exact free
      · rw [toNat_raise before free]
        simp [counted, DispatchPhase.isCounted]
      · simpa [admitted, DispatchPhase.isAdmitted] using limit
  | admits free below =>
      refine ⟨maximum, capacity, ?_, ?_, ?_⟩
      · rw [capacity] at free
        rw [List.length_append]
        exact free
      · rw [toNat_raise before free]
        simp [counted, DispatchPhase.isCounted]
      · rw [UInt64.lt_iff_toNat_lt, counter, maximum] at below
        have room :=
          Nat.lt_of_le_of_lt (admitted_le_counted host) below
        rw [admitted, List.countP_append]
        exact room
  | refuses here =>
      have positive :=
        counted_pos (by rw [here]; exact List.mem_append_cons_self) rfl
      refine ⟨maximum, capacity, ?_, ?_, ?_⟩
      · simpa [here] using fits
      · rw [toNat_lower before positive]
        simp only [counted, here, List.countP_append, List.countP_cons]
        rfl
      · simpa [admitted, here, DispatchPhase.isAdmitted] using limit
  | proceeds here isAdmitted still =>
      refine ⟨maximum, capacity, ?_, ?_, ?_⟩
      · simpa [here] using fits
      · have isCounted := DispatchPhase.isCounted_of_isAdmitted isAdmitted
        have stillCounted := DispatchPhase.isCounted_of_isAdmitted still
        rw [counter]
        simp [counted, here, isCounted, stillCounted]
      · simpa [admitted, here, List.countP_cons, isAdmitted, still]
          using limit
  | leaves here =>
      refine ⟨maximum, capacity, ?_, ?_, ?_⟩
      · simp only [here, List.length_append, List.length_cons] at fits
        simp only [List.length_append]
        omega
      · simpa [counted, here, DispatchPhase.isCounted] using counter
      · simpa [admitted, here, DispatchPhase.isAdmitted] using limit
  | releases here =>
      have positive :=
        counted_pos (by rw [here]; exact List.mem_append_cons_self) rfl
      refine ⟨maximum, capacity, ?_, ?_, ?_⟩
      · simp only [here, List.length_append, List.length_cons] at fits
        simp only [List.length_append]
        omega
      · rw [toNat_lower before positive]
        simp only [counted, here, List.countP_append, List.countP_cons]
        rfl
      · simp only [admitted, here, List.countP_append, List.countP_cons]
          at limit ⊢
        omega

/-- Every interleaving keeps the limit. -/
theorem limited_state
    (maximumConnections threads : UInt64)
    (calls : List DispatchCall) :
    ((dispatchMachine maximumConnections threads).state calls).Limited
      maximumConnections threads := by
  apply (dispatchMachine maximumConnections threads).stateFrom_of_step
    (Limited maximumConnections threads)
  · intro host call limited
    exact limited_step limited
      (dispatchStep maximumConnections threads host call)
  · exact ⟨rfl, rfl, Nat.zero_le _, rfl, Nat.zero_le _⟩

/-- What the concurrent-request limit promises in a state. -/
structure HoldsRequestLimit
    (maximumConnections : UInt64)
    (host : SimpleWebHttpHost) : Prop where
  handlers : host.handling ≤ maximumConnections.toNat
  /-- The counter is the number of requests between their two steps. -/
  counter : host.activeRequests.toNat = host.counted
  /-- Whoever has yet to lower the counter finds it positive. -/
  noUnderflow :
    ∀ phase ∈ host.dispatching,
      phase.isCounted = true → 0 < host.activeRequests
  idle : host.dispatching = [] → host.activeRequests = 0

/--
In every state that any number of threads can reach, whatever the handlers do,
at most `maximum_connections` handlers run and the counter is exact.
-/
theorem holdsRequestLimit
    (maximumConnections threads : UInt64)
    (calls : List DispatchCall) :
    ((dispatchMachine maximumConnections threads).state
      calls).HoldsRequestLimit maximumConnections := by
  have limited := limited_state maximumConnections threads calls
  refine ⟨?_, limited.counter, ?_, ?_⟩
  · exact Nat.le_trans (handling_le_admitted _) limited.limit
  · intro phase member isCounted
    rw [UInt64.lt_iff_toNat_lt, limited.counter]
    exact counted_pos member isCounted
  · intro idle
    apply UInt64.toNat_inj.mp
    rw [limited.counter, counted, idle]
    rfl

/-- A handler that throws releases its place; beside it one is rejected. -/
example :
    let request : HttpRequest := {
      method := bytes "POST"
      path := bytes "/mcp"
      headers := []
      body := []
    }
    let host := (dispatchMachine 1 2).state
      [.dispatch request, .dispatch request, .handled 0 none,
        .advance 1 .returned, .advance 1 .returned,
        .advance 0 .threw, .advance 0 .returned]
    host.activeRequests = 0 ∧ host.dispatching.length = 0 := by
  decide

end SimpleWebHttpHost

end TgGate
