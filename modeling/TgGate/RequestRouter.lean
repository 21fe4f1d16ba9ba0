import Mathlib.Data.Finset.Card
import TgGate.Library.ByteString
import TgGate.Library.Machine
import TgGate.Library.Pool
import TgGate.Library.UnorderedMap

namespace TgGate

open Library

/-!
# Request correlation

`RequestRouter` matches the asynchronous responses of TDLib with the threads
that wait for them.  A ticket is a shared pointer to the state of one request;
tickets are told apart by the order of their allocation, and the states they
point to live outside the router, each under a mutex of its own.

Every function of this module runs under one mutex without releasing it.  An
operation of the source that takes the router mutex and then the mutex of a
ticket is therefore split in two, and `requestRouting` interleaves the halves.
-/

/-- A shared pointer to a request state, numbered by allocation. -/
abbrev Ticket := Nat

/-- What the waiter and the completing thread of one request share. -/
structure RequestState (Response : Type) where
  response : Option Response := none
  error : Bytes := []
  ready : Bool := false

/-- How many retired ids are remembered. -/
def maximumRetiredRequests : Nat := 256

/--
The pending requests and the recently retired ids.  An id is remembered only
while it is listed, and the list is bounded.
-/
structure RequestRouter where
  requests : UnorderedMap UInt64 Ticket := ∅
  retired : Finset UInt64 := ∅
  retiredOrder : List UInt64 := []
  accepting : Bool := true
  listed :
    ∀ requestId ∈ retired, requestId ∈ retiredOrder := by
    simp
  bounded :
    retiredOrder.length ≤ maximumRetiredRequests := by
    simp

namespace RequestRouter

/-- The router before its first request. -/
def initial : RequestRouter := {}

/-- What a waiter returns. -/
structure Result (Response : Type) where
  response : Option Response := none
  error : Bytes := []

/-- Register a freshly allocated request state under a free id. -/
def openRequest
    (requestId : UInt64)
    (state : Ticket)
    (router : RequestRouter) : Option Ticket × RequestRouter :=
  if router.accepting = false then
    (none, router)
  else if requestId ∈ router.requests then
    (none, router)
  else
    (some state,
      { router with
        requests := router.requests.emplace requestId state })

/-- Is a request pending under this id? -/
def contains
    (requestId : UInt64)
    (router : RequestRouter) : Bool :=
  requestId ∈ router.requests

/-- Forget a retired id; tells whether it was remembered. -/
def discardLate
    (requestId : UInt64)
    (router : RequestRouter) : Bool × RequestRouter :=
  (requestId ∈ router.retired,
    { router with
      retired := router.retired.erase requestId
      listed := fun other member =>
        router.listed other (Finset.mem_of_mem_erase member) })

/-- Drop the oldest retired ids while too many are listed. -/
def trimRetired
    (retired : Finset UInt64) :
    List UInt64 → Finset UInt64 × List UInt64
  | [] => (retired, [])
  | oldest :: order =>
      if (oldest :: order).length > maximumRetiredRequests then
        trimRetired (retired.erase oldest) order
      else
        (retired, oldest :: order)

/-- Trimming keeps every remembered id listed. -/
theorem trimRetired_listed
    {retired : Finset UInt64}
    {order : List UInt64}
    (listed : ∀ requestId ∈ retired, requestId ∈ order) :
    ∀ requestId ∈ (trimRetired retired order).1,
      requestId ∈ (trimRetired retired order).2 := by
  induction order generalizing retired with
  | nil =>
      exact listed
  | cons oldest order inductionHypothesis =>
      unfold trimRetired
      split
      · apply inductionHypothesis
        intro requestId member
        obtain ⟨newer, remembered⟩ := Finset.mem_erase.mp member
        exact (List.mem_cons.mp (listed requestId remembered)).resolve_left
          newer
      · exact listed

/-- Trimming ends at the bound. -/
theorem trimRetired_bounded
    (retired : Finset UInt64)
    (order : List UInt64) :
    (trimRetired retired order).2.length ≤ maximumRetiredRequests := by
  induction order generalizing retired with
  | nil =>
      simp [trimRetired]
  | cons oldest order inductionHypothesis =>
      unfold trimRetired
      split
      next =>
        exact inductionHypothesis (retired.erase oldest)
      next fits =>
        exact Nat.le_of_not_gt fits

/-- Remember an id whose response may still arrive. -/
def retire
    (requestId : UInt64)
    (router : RequestRouter) : RequestRouter :=
  let order :=
    if requestId ∈ router.retired then
      router.retiredOrder
    else
      router.retiredOrder ++ [requestId]
  let trimmed := trimRetired (insert requestId router.retired) order
  { router with
    retired := trimmed.1
    retiredOrder := trimmed.2
    listed := trimRetired_listed (by
      intro other member
      have listed := router.listed other
      rcases Finset.mem_insert.mp member with rfl | remembered
      · by_cases known : other ∈ router.retired <;>
          simp [order, known, listed]
      · by_cases known : requestId ∈ router.retired <;>
          simp [order, known, listed remembered])
    bounded := trimRetired_bounded _ _ }

/-- First half of `fulfill`: take the request out of the router. -/
def takeRegistered
    (requestId : UInt64)
    (router : RequestRouter) : Option Ticket × RequestRouter :=
  match AList.lookup requestId router.requests with
  | none => (none, router)
  | some state =>
      (some state,
        { router with requests := router.requests.erase requestId })

/--
Second half of a timed-out `wait`: take the request out of the router if its
id still stands for the same ticket.  Tells whether it did.
-/
def unregisterTimedOut
    (requestId : UInt64)
    (state : Ticket)
    (router : RequestRouter) : Bool × RequestRouter :=
  match AList.lookup requestId router.requests with
  | none => (false, router)
  | some found =>
      if found = state then
        (true,
          { router with
            requests := router.requests.erase requestId
          }.retire requestId)
      else
        (false, router)

/--
First half of `close`: retire every pending id and take out its ticket, in the
order in which the hash map happens to list the ids.
-/
def close
    (iteration : List UInt64)
    (router : RequestRouter) : List Ticket × RequestRouter :=
  (iteration.filterMap fun requestId =>
      AList.lookup requestId router.requests,
    { iteration.foldl (fun router requestId => router.retire requestId)
        { router with accepting := false } with
      requests := ∅ })

/-- Accept requests again and forget the retired ids. -/
def reopen (router : RequestRouter) : RequestRouter :=
  { router with
    accepting := true
    retired := ∅
    retiredOrder := []
    listed := by simp
    bounded := by simp }

@[simp] theorem requests_retire
    (requestId : UInt64) (router : RequestRouter) :
    (router.retire requestId).requests = router.requests :=
  rfl

@[simp] theorem requests_close
    (iteration : List UInt64) (router : RequestRouter) :
    (router.close iteration).2.requests = ∅ :=
  rfl

/-- `openRequest` registers the ticket, unless it is closed or the id is used. -/
theorem openRequest_cases
    (router : RequestRouter)
    (requestId : UInt64)
    (state : Ticket) :
    (router.accepting = false ∨ requestId ∈ router.requests) ∧
        router.openRequest requestId state = (none, router) ∨
      router.accepting = true ∧
        requestId ∉ router.requests ∧
          router.openRequest requestId state =
            (some state,
              { router with
                requests :=
                  router.requests.emplace requestId state }) := by
  cases accepting : router.accepting with
  | false =>
      exact .inl ⟨.inl rfl, by simp [openRequest, accepting]⟩
  | true =>
      by_cases used : requestId ∈ router.requests
      · exact .inl ⟨.inr used, by simp [openRequest, accepting, used]⟩
      · exact .inr ⟨rfl, used, by simp [openRequest, accepting, used]⟩

/-- A timed-out waiter frees its id only while it stands for its ticket. -/
theorem lookup_unregisterTimedOut_eq_some_iff
    {router : RequestRouter}
    {requestId key : UInt64}
    {state ticket : Ticket} :
    AList.lookup key
          (router.unregisterTimedOut requestId state).2.requests =
        some ticket ↔
      AList.lookup key router.requests = some ticket ∧
        ¬(key = requestId ∧ ticket = state) := by
  unfold unregisterTimedOut
  cases lookup : AList.lookup requestId router.requests with
  | none =>
      constructor
      · intro found
        refine ⟨found, ?_⟩
        rintro ⟨rfl, rfl⟩
        simp [lookup] at found
      · exact And.left
  | some found =>
      by_cases own : found = state
      · subst found
        simp only [↓reduceIte, requests_retire,
          UnorderedMap.lookup_erase_eq_some_iff]
        constructor
        · rintro ⟨otherKey, registered⟩
          exact ⟨registered, fun same => otherKey same.1⟩
        · rintro ⟨registered, different⟩
          refine ⟨?_, registered⟩
          rintro rfl
          rw [lookup] at registered
          exact different ⟨rfl, (Option.some.inj registered).symm⟩
      · simp only [own, ↓reduceIte]
        constructor
        · intro registered
          refine ⟨registered, ?_⟩
          rintro ⟨rfl, rfl⟩
          rw [lookup] at registered
          exact own (Option.some.inj registered)
        · exact And.left

end RequestRouter

namespace RequestState

variable {Response : Type}

/-- Second half of `fulfill`. -/
def fulfill
    (response : Response)
    (state : RequestState Response) : RequestState Response :=
  { state with response := some response, ready := true }

/-- What `close` does to each ticket it collected. -/
def fail
    (error : Bytes)
    (state : RequestState Response) : RequestState Response :=
  { state with error := error, ready := true }

end RequestState

/-- An allocated request state and the id it was registered under. -/
structure IssuedTicket (Response : Type) where
  requestId : UInt64
  state : RequestState Response := {}

/-- A thread between two of its atomic steps. -/
inductive Progress (Response : Type) where
  | fulfilling (ticket : Ticket) (response : Response)
  | closing (error : Bytes) (pending : List Ticket)
  | expired (requestId : UInt64) (ticket : Ticket)

/-- The tickets a thread has taken out of the router and not completed. -/
def Progress.held {Response : Type} : Progress Response → List Ticket
  | .fulfilling ticket _ => [ticket]
  | .closing _ pending => pending
  | .expired _ _ => []

/-- The router, the request states and the threads that use them. -/
structure RequestRouting (Response : Type) where
  router : RequestRouter := {}
  tickets : List (IssuedTicket Response) := []
  inProgress : List (Progress Response) := []
  waited : List Ticket := []

/-- An atomic step some thread takes. -/
inductive RoutingCall (Response : Type) where
  | openRequest (requestId : UInt64)
  | contains (requestId : UInt64)
  | discardLate (requestId : UInt64)
  | reopen
  | fulfill (requestId : UInt64) (response : Response)
  | close (error : Bytes) (iteration : List UInt64)
  | wait (requestId : UInt64) (ticket? : Option Ticket)
  | advance (index : Nat)

/-- How a ticket was completed. -/
inductive Completion (Response : Type) where
  | fulfilled (response : Response)
  | failed (error : Bytes)

/-- The request state after its completion. -/
def Completion.apply
    {Response : Type} :
    Completion Response → RequestState Response → RequestState Response
  | .fulfilled response, state => state.fulfill response
  | .failed error, state => state.fail error

/-- What an atomic step shows. -/
inductive RoutingReply (Response : Type) where
  | opened (ticket? : Option Ticket)
  | answered (value : Bool)
  | reopened
  | taken (tickets : List Ticket)
  | completed (ticket : Ticket) (completion : Completion Response)
  | closed
  | returned
      (ticket? : Option Ticket)
      (result : RequestRouter.Result Response)
  | deadline (ticket : Ticket)
  | timedOut
      (ticket : Ticket)
      (unregistered : Bool)
      (result : RequestRouter.Result Response)
  | disabled

namespace RequestRouting

variable {Response : Type}

/-- The decision of `wait` once it holds the mutex of its ticket. -/
def observe
    (requestId : UInt64)
    (ticket : Ticket)
    (state : RequestState Response)
    (routing : RequestRouting Response) :
    RequestRouting Response × RoutingReply Response :=
  if state.ready then
    ({ routing with waited := ticket :: routing.waited },
      .returned (some ticket)
        { response := state.response, error := state.error })
  else
    ({ routing with
        inProgress :=
          routing.inProgress ++ [.expired requestId ticket]
        waited := ticket :: routing.waited },
      .deadline ticket)

/-- Complete a ticket under its own mutex. -/
def complete
    (ticket : Ticket)
    (completion : Completion Response)
    (routing : RequestRouting Response) : RequestRouting Response :=
  { routing with
    tickets := routing.tickets.modify ticket fun issued =>
      { issued with state := completion.apply issued.state } }

/-- The next atomic step of the thread at a position. -/
def advance
    (index : Nat)
    (routing : RequestRouting Response) :
    Progress Response →
    RequestRouting Response × RoutingReply Response
  | .fulfilling ticket response =>
      ({ routing.complete ticket (.fulfilled response) with
          inProgress := routing.inProgress.eraseIdx index },
        .completed ticket (.fulfilled response))
  | .closing error (ticket :: pending) =>
      ({ routing.complete ticket (.failed error) with
          inProgress :=
            routing.inProgress.set index (.closing error pending) },
        .completed ticket (.failed error))
  | .closing _ [] =>
      ({ routing with
          inProgress := routing.inProgress.eraseIdx index },
        .closed)
  | .expired requestId ticket =>
      let (unregistered, router) :=
        routing.router.unregisterTimedOut requestId ticket
      ({ routing with
          router := router
          inProgress := routing.inProgress.eraseIdx index },
        .timedOut ticket unregistered
          { error := bytes "TDLib read request timed out" })

end RequestRouting

/--
All interleavings of the router's operations.  `wait` takes its step when it
stops waiting; a thread still blocked takes none.  Its callers wait on a ticket
at most once and with the id the ticket was opened under, so what is left of a
response that was moved out is never read.  `close` may list the pending ids in
any order.  A step no thread can take is answered with `disabled`.
-/
def requestRouting (Response : Type) :
    Machine (RequestRouting Response)
      (RoutingCall Response) (RoutingReply Response) where
  initial := {}
  step routing
    | .openRequest requestId =>
        let (ticket?, router) :=
          routing.router.openRequest requestId routing.tickets.length
        ({ routing with
            router := router
            tickets :=
              routing.tickets ++
                ticket?.toList.map fun _ => { requestId := requestId } },
          .opened ticket?)
    | .contains requestId =>
        (routing, .answered (routing.router.contains requestId))
    | .discardLate requestId =>
        let (known, router) := routing.router.discardLate requestId
        ({ routing with router := router }, .answered known)
    | .reopen =>
        ({ routing with router := routing.router.reopen }, .reopened)
    | .fulfill requestId response =>
        match routing.router.takeRegistered requestId with
        | (none, _) => (routing, .answered false)
        | (some ticket, router) =>
            ({ routing with
                router := router
                inProgress :=
                  routing.inProgress ++ [.fulfilling ticket response] },
              .taken [ticket])
    | .close error iteration =>
        if iteration.Perm routing.router.requests.keys then
          let (pending, router) := routing.router.close iteration
          ({ routing with
              router := router
              inProgress :=
                routing.inProgress ++ [.closing error pending] },
            .taken pending)
        else
          (routing, .disabled)
    | .wait _ none =>
        (routing,
          .returned none
            { error := bytes "TDLib request is no longer pending" })
    | .wait requestId (some ticket) =>
        match routing.tickets[ticket]? with
        | none => (routing, .disabled)
        | some issued =>
            if issued.requestId = requestId ∧
                ticket ∉ routing.waited then
              routing.observe requestId ticket issued.state
            else
              (routing, .disabled)
    | .advance index =>
        match routing.inProgress[index]? with
        | none => (routing, .disabled)
        | some progress => routing.advance index progress

section Steps

variable {Response : Type}

/-- Replies of steps that concern no ticket. -/
def RoutingReply.Quiet : RoutingReply Response → Prop
  | .opened none => True
  | .answered _ => True
  | .reopened => True
  | .returned none _ => True
  | .disabled => True
  | _ => False

/-- What an atomic step can do, guards included. -/
inductive RoutingStep (routing : RequestRouting Response) :
    RoutingCall Response →
    RequestRouting Response →
    RoutingReply Response → Prop where
  | idle
      {call : RoutingCall Response}
      {reply : RoutingReply Response}
      (quiet : reply.Quiet) :
      RoutingStep routing call routing reply
  | discards
      {requestId : UInt64} :
      RoutingStep routing (.discardLate requestId)
        { routing with
          router := (routing.router.discardLate requestId).2 }
        (.answered (routing.router.discardLate requestId).1)
  | reopens :
      RoutingStep routing .reopen
        { routing with router := routing.router.reopen }
        .reopened
  | opens
      {requestId : UInt64}
      (accepting : routing.router.accepting = true)
      (free : requestId ∉ routing.router.requests) :
      RoutingStep routing (.openRequest requestId)
        { routing with
          router :=
            { routing.router with
              requests :=
                routing.router.requests.emplace requestId
                  routing.tickets.length }
          tickets :=
            routing.tickets ++ [{ requestId := requestId }] }
        (.opened (some routing.tickets.length))
  | takes
      {requestId : UInt64}
      {response : Response}
      {ticket : Ticket}
      (lookup :
        AList.lookup requestId routing.router.requests = some ticket) :
      RoutingStep routing (.fulfill requestId response)
        { routing with
          router :=
            { routing.router with
              requests := routing.router.requests.erase requestId }
          inProgress :=
            routing.inProgress ++ [.fulfilling ticket response] }
        (.taken [ticket])
  | closes
      {error : Bytes}
      {iteration : List UInt64}
      (complete : iteration.Perm routing.router.requests.keys) :
      RoutingStep routing (.close error iteration)
        { routing with
          router := (routing.router.close iteration).2
          inProgress :=
            routing.inProgress ++
              [.closing error (routing.router.close iteration).1] }
        (.taken (routing.router.close iteration).1)
  | returns
      {requestId : UInt64}
      {ticket : Ticket}
      {issued : IssuedTicket Response}
      (found : routing.tickets[ticket]? = some issued)
      (own : issued.requestId = requestId)
      (unwaited : ticket ∉ routing.waited)
      (ready : issued.state.ready = true) :
      RoutingStep routing (.wait requestId (some ticket))
        { routing with waited := ticket :: routing.waited }
        (.returned (some ticket)
          { response := issued.state.response
            error := issued.state.error })
  | expires
      {requestId : UInt64}
      {ticket : Ticket}
      {issued : IssuedTicket Response}
      (found : routing.tickets[ticket]? = some issued)
      (own : issued.requestId = requestId)
      (unwaited : ticket ∉ routing.waited)
      (notReady : issued.state.ready = false) :
      RoutingStep routing (.wait requestId (some ticket))
        { routing with
          inProgress :=
            routing.inProgress ++ [.expired requestId ticket]
          waited := ticket :: routing.waited }
        (.deadline ticket)
  | fulfills
      {index : Nat}
      {ticket : Ticket}
      {response : Response}
      (found :
        routing.inProgress[index]? =
          some (.fulfilling ticket response)) :
      RoutingStep routing (.advance index)
        { routing.complete ticket (.fulfilled response) with
          inProgress := routing.inProgress.eraseIdx index }
        (.completed ticket (.fulfilled response))
  | fails
      {index : Nat}
      {error : Bytes}
      {ticket : Ticket}
      {pending : List Ticket}
      (found :
        routing.inProgress[index]? =
          some (.closing error (ticket :: pending))) :
      RoutingStep routing (.advance index)
        { routing.complete ticket (.failed error) with
          inProgress :=
            routing.inProgress.set index (.closing error pending) }
        (.completed ticket (.failed error))
  | closed
      {index : Nat}
      {error : Bytes}
      (found :
        routing.inProgress[index]? = some (.closing error [])) :
      RoutingStep routing (.advance index)
        { routing with
          inProgress := routing.inProgress.eraseIdx index }
        .closed
  | timesOut
      {index : Nat}
      {requestId : UInt64}
      {ticket : Ticket}
      (found :
        routing.inProgress[index]? =
          some (.expired requestId ticket)) :
      RoutingStep routing (.advance index)
        { routing with
          router :=
            (routing.router.unregisterTimedOut requestId ticket).2
          inProgress := routing.inProgress.eraseIdx index }
        (.timedOut ticket
          (routing.router.unregisterTimedOut requestId ticket).1
          { error := bytes "TDLib read request timed out" })

/-- Every step of the interleaving is one of these. -/
theorem routingStep
    (routing : RequestRouting Response)
    (call : RoutingCall Response) :
    RoutingStep routing call
      ((requestRouting Response).step routing call).1
      ((requestRouting Response).step routing call).2 := by
  cases call with
  | openRequest requestId =>
      rcases routing.router.openRequest_cases requestId
        routing.tickets.length with ⟨-, refused⟩ | ⟨accepting, free, opened⟩
      · simp only [requestRouting, refused, Option.toList_none,
          List.map_nil, List.append_nil]
        exact .idle trivial
      · simp only [requestRouting, opened]
        exact .opens accepting free
  | contains =>
      exact .idle trivial
  | discardLate =>
      exact .discards
  | reopen =>
      exact .reopens
  | fulfill requestId response =>
      cases lookup :
          AList.lookup requestId routing.router.requests with
      | none =>
          simp only [requestRouting, RequestRouter.takeRegistered,
            lookup]
          exact .idle trivial
      | some ticket =>
          simp only [requestRouting, RequestRouter.takeRegistered,
            lookup]
          exact .takes lookup
  | close error iteration =>
      by_cases complete :
          iteration.Perm routing.router.requests.keys
      · simp only [requestRouting, complete, ↓reduceIte]
        exact .closes complete
      · simp only [requestRouting, complete, ↓reduceIte]
        exact .idle trivial
  | wait requestId ticket? =>
      cases ticket? with
      | none =>
          exact .idle trivial
      | some ticket =>
          simp only [requestRouting]
          split
          · exact .idle trivial
          next issued found =>
            split
            next permitted =>
              unfold RequestRouting.observe
              split
              next ready =>
                exact .returns found permitted.1 permitted.2 ready
              next notReady =>
                exact .expires found permitted.1 permitted.2
                  (Bool.eq_false_of_not_eq_true notReady)
            · exact .idle trivial
  | advance index =>
      simp only [requestRouting]
      split
      · exact .idle trivial
      next progress found =>
        cases progress with
        | fulfilling ticket response =>
            exact .fulfills found
        | closing error pending =>
            cases pending with
            | nil =>
                exact .closed found
            | cons ticket pending =>
                exact .fails found
        | expired requestId ticket =>
            exact .timesOut found

end Steps

/-- After a timeout, a response is refused and its id discarded once. -/
example :
    ((requestRouting Nat).history
        [.openRequest 3, .wait 3 (some 0), .advance 0, .fulfill 3 33,
          .discardLate 3, .discardLate 3]).map
        (fun event =>
          match event.output with
          | .answered value => some value
          | _ => none) =
      [none, none, none, some false, some true, some false] := by
  decide

end TgGate
