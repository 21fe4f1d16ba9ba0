import TgGate.RetiredRequests

namespace TgGate

open Library

/-!
# Retired ids that are still outstanding

`discardLate` takes an id out of the set of retired ids but leaves it in the
list that bounds the set.  The list therefore counts every retirement of the
session, and an id is forgotten after 256 later ones, however few of them are
still outstanding.  A log beside the routing counts both.
-/

section Window

variable {Item : Type}

/-- An item is in the window exactly if few items follow it. -/
theorem mem_rtake_iff
    {limit : Nat}
    {items earlier later : List Item}
    {item : Item}
    (once : items.Nodup)
    (split : items = earlier ++ item :: later) :
    item ∈ items.rtake limit ↔ later.length < limit := by
  constructor
  · intro member
    by_contra many
    have notLater : item ∉ later := by
      rw [split] at once
      exact (List.nodup_cons.mp (List.nodup_append.mp once).2.1).1
    have shape :
        items.rtake limit = later.drop (later.length - limit) := by
      have surplus :
          items.length - limit =
            (earlier ++ [item]).length + (later.length - limit) := by
        rw [split]
        simp only [List.length_append, List.length_cons,
          List.length_nil]
        omega
      rw [List.rtake, surplus, split, List.append_cons earlier item later,
        ← List.drop_drop, List.drop_left]
    rw [shape] at member
    exact notLater (List.mem_of_mem_drop member)
  · exact mem_rtake_of_recent split

end Window

/-- What the routing has opened, retired and not yet consumed. -/
structure RetirementLog where
  /-- The ids of the requests that were registered. -/
  opened : List UInt64 := []
  /-- The ids that were retired, oldest first. -/
  retirements : List UInt64 := []
  /-- The retired ids that were not discarded since. -/
  outstanding : List UInt64 := []

section Log

variable {Response : Type}

/-- The id a call registers. -/
def openedBy
    (routing : RequestRouting Response) :
    RoutingCall Response → List UInt64
  | .openRequest requestId =>
      if (routing.router.openRequest requestId
          routing.tickets.length).1.isSome then
        [requestId]
      else
        []
  | _ => []

/-- The ids a call passes to `retire`, in order. -/
def retiredBy
    (routing : RequestRouting Response) :
    RoutingCall Response → List UInt64
  | .close _ iteration =>
      if iteration.Perm routing.router.requests.keys then
        iteration
      else
        []
  | .advance index =>
      match routing.inProgress[index]? with
      | some (.expired requestId ticket) =>
          if (routing.router.unregisterTimedOut requestId ticket).1 then
            [requestId]
          else
            []
      | _ => []
  | _ => []

/-- The id a call discards. -/
def consumedBy : RoutingCall Response → List UInt64
  | .discardLate requestId => [requestId]
  | _ => []

namespace RetirementLog

/-- Ids are retired. -/
def retires
    (requestIds : List UInt64)
    (log : RetirementLog) : RetirementLog :=
  { log with
    retirements := log.retirements ++ requestIds
    outstanding := log.outstanding ++ requestIds }

/-- An id is consumed. -/
def consumes
    (requestIds : List UInt64)
    (log : RetirementLog) : RetirementLog :=
  { log with
    outstanding := log.outstanding.filter (· ∉ requestIds) }

/-- The log after a call. -/
def after
    (routing : RequestRouting Response)
    (call : RoutingCall Response)
    (log : RetirementLog) : RetirementLog :=
  ({ log with opened := log.opened ++ openedBy routing call }.retires
    (retiredBy routing call)).consumes (consumedBy call)

theorem retires_nil (log : RetirementLog) : log.retires [] = log := by
  simp [retires]

/-- A call that registers, retires and discards nothing is not logged. -/
theorem after_eq_self
    {routing : RequestRouting Response}
    {call : RoutingCall Response}
    (opened : openedBy routing call = [])
    (retired : retiredBy routing call = [])
    (consumed : consumedBy call = [])
    (log : RetirementLog) :
    log.after routing call = log := by
  simp [after, opened, retired, consumed, retires, consumes]

theorem retires_cons
    (requestId : UInt64)
    (rest : List UInt64)
    (log : RetirementLog) :
    (log.retires [requestId]).retires rest =
      log.retires (requestId :: rest) := by
  simp [retires]

@[simp] theorem consumes_nil (log : RetirementLog) :
    log.consumes [] = log := by
  simp [consumes]

end RetirementLog

/-- The routing with the log beside it. -/
structure LoggedRouting (Response : Type) where
  routing : RequestRouting Response
  log : RetirementLog := {}

/-- The runs of the routing, logged. -/
def loggedRouting (Response : Type) :
    Machine (LoggedRouting Response)
      (RoutingCall Response) (RoutingReply Response) where
  initial := { routing := (requestRouting Response).initial }
  step logged call :=
    ({ routing := ((requestRouting Response).step logged.routing call).1
       log := logged.log.after logged.routing call },
      ((requestRouting Response).step logged.routing call).2)

/-- The log of a run. -/
def retirementLog (calls : List (RoutingCall Response)) : RetirementLog :=
  ((loggedRouting Response).state calls).log

/-- The log does not take part in the routing. -/
theorem routing_state (calls : List (RoutingCall Response)) :
    ((loggedRouting Response).state calls).routing =
      (requestRouting Response).state calls := by
  induction calls using List.reverseRecOn with
  | nil =>
      rfl
  | append_singleton calls call inductionHypothesis =>
      rw [Machine.state_snoc, Machine.state_snoc, ← inductionHypothesis]
      rfl

/-- The log of one more call. -/
theorem retirementLog_snoc
    (calls : List (RoutingCall Response))
    (call : RoutingCall Response) :
    retirementLog (calls ++ [call]) =
      (retirementLog calls).after
        ((requestRouting Response).state calls) call := by
  rw [retirementLog, Machine.state_snoc, ← routing_state]
  rfl

end Log

namespace RequestRouter

/-- How the router relates to the log. -/
structure Tracks
    (router : RequestRouter)
    (log : RetirementLog) : Prop where
  registered :
    ∀ {requestId}, requestId ∈ router.requests → requestId ∈ log.opened
  retiredOnce : log.retirements.Nodup
  retiredOpened :
    ∀ {requestId},
      requestId ∈ log.retirements → requestId ∈ log.opened
  unregistered :
    ∀ {requestId},
      requestId ∈ log.retirements → requestId ∉ router.requests
  outstandingRetired :
    ∀ {requestId},
      requestId ∈ log.outstanding → requestId ∈ log.retirements
  window :
    router.retiredOrder =
      log.retirements.rtake maximumRetiredRequests
  remembered :
    ∀ {requestId},
      requestId ∈ router.retired ↔
        requestId ∈ router.retiredOrder ∧ requestId ∈ log.outstanding

section Tracks

variable {router : RequestRouter}
variable {log : RetirementLog}
variable {requestId : UInt64}

theorem tracks_initial : initial.Tracks {} where
  registered pending := absurd pending (AList.notMem_empty _)
  retiredOnce := List.nodup_nil
  retiredOpened impossible := by cases impossible
  unregistered impossible := by cases impossible
  outstandingRetired impossible := by cases impossible
  window := rfl
  remembered := by
    simp [initial]

/-- An id that was never opened is registered. -/
theorem Tracks.opens
    (tracks : router.Tracks log)
    {ticket : Ticket}
    (fresh : requestId ∉ log.opened) :
    Tracks
      { router with requests := router.requests.emplace requestId ticket }
      { log with opened := log.opened ++ [requestId] } where
  registered := by
    intro other pending
    rcases UnorderedMap.mem_emplace_iff.mp pending with rfl | pending
    · simp
    · exact List.mem_append_left _ (tracks.registered pending)
  retiredOnce := tracks.retiredOnce
  retiredOpened retired :=
    List.mem_append_left _ (tracks.retiredOpened retired)
  unregistered := by
    intro other retired pending
    rcases UnorderedMap.mem_emplace_iff.mp pending with rfl | pending
    · exact fresh (tracks.retiredOpened retired)
    · exact tracks.unregistered retired pending
  outstandingRetired := tracks.outstandingRetired
  window := tracks.window
  remembered := tracks.remembered

/-- Taking requests out keeps what is known of the retired ones. -/
theorem Tracks.unregisters
    (tracks : router.Tracks log)
    {requests : UnorderedMap UInt64 Ticket}
    (fewer :
      ∀ requestId, requestId ∈ requests → requestId ∈ router.requests)
    (accepting : Bool) :
    Tracks { router with requests := requests, accepting := accepting }
      log where
  registered pending := tracks.registered (fewer _ pending)
  retiredOnce := tracks.retiredOnce
  retiredOpened := tracks.retiredOpened
  unregistered retired pending :=
    tracks.unregistered retired (fewer _ pending)
  outstandingRetired := tracks.outstandingRetired
  window := tracks.window
  remembered := tracks.remembered

/-- A discarded id is no longer remembered, but still listed. -/
theorem Tracks.discards
    (tracks : router.Tracks log)
    (requestId : UInt64) :
    Tracks (router.discardLate requestId).2
      (log.consumes [requestId]) where
  registered := tracks.registered
  retiredOnce := tracks.retiredOnce
  retiredOpened := tracks.retiredOpened
  unregistered := tracks.unregistered
  outstandingRetired member :=
    tracks.outstandingRetired (List.mem_filter.mp member).1
  window := tracks.window
  remembered := by
    intro other
    simp only [discardLate, Finset.mem_erase, tracks.remembered,
      RetirementLog.consumes, List.mem_filter, List.mem_singleton,
      decide_not, Bool.not_eq_true', decide_eq_false_iff_not]
    tauto

/-- A pending request is retired. -/
theorem Tracks.retires
    (tracks : router.Tracks log)
    (pending : requestId ∈ router.requests) :
    Tracks
      ({ router with
          requests := router.requests.erase requestId }.retire requestId)
      (log.retires [requestId]) := by
  have notRetired : requestId ∉ log.retirements :=
    fun retired => tracks.unregistered retired pending
  have fresh : requestId ∉ router.retiredOrder := by
    intro listed
    rw [tracks.window] at listed
    exact notRetired (List.mem_of_mem_drop listed)
  have once : router.retiredOrder.Nodup := by
    rw [tracks.window]
    exact tracks.retiredOnce.drop
  refine {
    registered := fun isPending =>
      tracks.registered (AList.mem_erase.mp isPending).2
    retiredOnce := ?_
    retiredOpened := ?_
    unregistered := notMem_erase_of_retired tracks.unregistered
    outstandingRetired := ?_
    window :=
      @retiredOrder_retire_of_window
        { router with requests := router.requests.erase requestId }
        requestId log.retirements fresh tracks.window
    remembered := ?_ }
  · rw [RetirementLog.retires, List.nodup_append_comm]
    exact List.nodup_cons.mpr ⟨notRetired, tracks.retiredOnce⟩
  · intro other retired
    rcases List.mem_append.mp retired with retired | isRequest
    · exact tracks.retiredOpened retired
    · rw [List.mem_singleton.mp isRequest]
      exact tracks.registered pending
  · intro other member
    rcases List.mem_append.mp member with outstanding | isRequest
    · exact List.mem_append_left _ (tracks.outstandingRetired outstanding)
    · exact List.mem_append_right _ isRequest
  · intro other
    rw [@mem_retired_retire_iff
      { router with requests := router.requests.erase requestId }
      requestId other once fresh]
    simp only [RetirementLog.retires, List.mem_append,
      List.mem_singleton, tracks.remembered]
    constructor
    · rintro ⟨isRequest | ⟨-, outstanding⟩, listed⟩
      · exact ⟨listed, .inr isRequest⟩
      · exact ⟨listed, .inl outstanding⟩
    · rintro ⟨listed, outstanding | isRequest⟩
      · by_cases isRequest : other = requestId
        · exact ⟨.inl isRequest, listed⟩
        · refine ⟨.inr ⟨?_, outstanding⟩, listed⟩
          exact @mem_retiredOrder_of_retire
            { router with requests := router.requests.erase requestId }
            requestId other fresh listed isRequest
      · exact ⟨.inl isRequest, listed⟩

/-- Pending requests are retired one after another. -/
theorem Tracks.retiresEach
    {iteration : List UInt64}
    (tracks : router.Tracks log)
    (once : iteration.Nodup)
    (pending : ∀ requestId ∈ iteration, requestId ∈ router.requests) :
    Tracks (router.retireEach iteration) (log.retires iteration) := by
  induction iteration generalizing router log with
  | nil =>
      rw [RetirementLog.retires_nil]
      exact tracks
  | cons requestId rest inductionHypothesis =>
      have retired :=
        tracks.retires (pending requestId List.mem_cons_self)
      rw [← RetirementLog.retires_cons, retireEach_cons]
      exact inductionHypothesis retired once.of_cons
        (rest_stillPending once pending)

/-- Closing retires all pending requests. -/
theorem Tracks.closes
    {iteration : List UInt64}
    (tracks : router.Tracks log)
    (complete : iteration.Perm router.requests.keys) :
    Tracks (router.close iteration).2 (log.retires iteration) := by
  have retired :=
    tracks.retiresEach
      (complete.nodup_iff.mpr router.requests.keys_nodup)
      fun requestId member =>
        AList.mem_keys.mp (complete.mem_iff.mp member)
  rw [snd_close]
  exact retired.unregisters
    (fun _ pending => absurd pending (AList.notMem_empty _)) false

/-- A waiter that timed out retires its id or changes nothing. -/
theorem Tracks.timesOut
    (tracks : router.Tracks log)
    (requestId : UInt64)
    (ticket : Ticket) :
    Tracks (router.unregisterTimedOut requestId ticket).2
      (log.retires
        (if (router.unregisterTimedOut requestId ticket).1 then
          [requestId]
        else
          [])) := by
  unfold unregisterTimedOut
  cases found : AList.lookup requestId router.requests with
  | none =>
      simpa [RetirementLog.retires_nil] using tracks
  | some registered =>
      by_cases own : registered = ticket
      · simp only [own, ↓reduceIte]
        exact tracks.retires
          (AList.lookup_isSome.mp (Option.isSome_of_eq_some found))
      · simpa [own, RetirementLog.retires_nil] using tracks

/-- A remembered id is one that few retirements have followed. -/
theorem Tracks.discardLate_iff
    (tracks : router.Tracks log)
    (outstanding : requestId ∈ log.outstanding) :
    (router.discardLate requestId).1 = true ↔
      ∀ earlier later,
        log.retirements = earlier ++ requestId :: later →
        later.length < maximumRetiredRequests := by
  have recognised :
      (router.discardLate requestId).1 = true ↔
        requestId ∈ router.retiredOrder := by
    simp [discardLate, tracks.remembered, outstanding]
  rw [recognised, tracks.window]
  constructor
  · intro member earlier later split
    exact (mem_rtake_iff tracks.retiredOnce split).mp member
  · intro recent
    obtain ⟨earlier, later, split⟩ :=
      List.append_of_mem (tracks.outstandingRetired outstanding)
    exact (mem_rtake_iff tracks.retiredOnce split).mpr
      (recent earlier later split)

end Tracks

end RequestRouter

section Runs

variable {Response : Type}

/-- One session: no id is registered twice and the router is not reopened. -/
structure SessionRun (calls : List (RoutingCall Response)) : Prop where
  opensOnce : (retirementLog calls).opened.Nodup
  sameSession : RoutingCall.reopen ∉ calls

/-- A run of a session begins with runs of it. -/
theorem SessionRun.shorter
    {calls : List (RoutingCall Response)}
    {call : RoutingCall Response}
    (session : SessionRun (calls ++ [call])) :
    SessionRun calls where
  opensOnce := by
    have opened := session.opensOnce
    rw [retirementLog_snoc] at opened
    exact (List.nodup_append.mp opened).1
  sameSession member :=
    session.sameSession (List.mem_append_left _ member)

/-- Waiting leaves the router alone. -/
theorem router_step_wait
    (routing : RequestRouting Response)
    (requestId : UInt64)
    (ticket? : Option Ticket) :
    ((requestRouting Response).step routing
        (.wait requestId ticket?)).1.router =
      routing.router := by
  cases ticket? with
  | none =>
      rfl
  | some ticket =>
      simp only [requestRouting]
      split
      · rfl
      · split
        · unfold RequestRouting.observe
          split <;> rfl
        · rfl

/-- A waiter that goes on retires its id, or changes nothing. -/
theorem tracks_step_advance
    {routing : RequestRouting Response}
    {log : RetirementLog}
    (tracks : routing.router.Tracks log)
    (index : Nat) :
    ((requestRouting Response).step routing
        (.advance index)).1.router.Tracks
      (log.after routing (.advance index)) := by
  have logged :
      log.after routing (.advance index) =
        log.retires (retiredBy routing (.advance index)) := by
    simp [RetirementLog.after, openedBy, consumedBy]
  rw [logged]
  simp only [requestRouting, retiredBy]
  cases found : routing.inProgress[index]? with
  | none =>
      simpa [RetirementLog.retires_nil] using tracks
  | some progress =>
      cases progress with
      | fulfilling ticket response =>
          rw [RetirementLog.retires_nil]
          exact tracks
      | closing error pending =>
          rw [RetirementLog.retires_nil]
          cases pending <;> exact tracks
      | expired requestId ticket =>
          exact tracks.timesOut requestId ticket

/-- One step of a session keeps the router and the log together. -/
theorem tracks_step
    {routing : RequestRouting Response}
    {log : RetirementLog}
    {call : RoutingCall Response}
    (tracks : routing.router.Tracks log)
    (fresh : (log.after routing call).opened.Nodup)
    (sameSession : call ≠ .reopen) :
    ((requestRouting Response).step routing call).1.router.Tracks
      (log.after routing call) := by
  cases call with
  | openRequest requestId =>
      rcases routing.router.openRequest_cases requestId
        routing.tickets.length with ⟨-, refused⟩ | ⟨-, -, opened⟩
      · rw [RetirementLog.after_eq_self (by simp [openedBy, refused]) rfl
          rfl]
        simpa [requestRouting, refused] using tracks
      · have logged :
            log.after routing (.openRequest requestId) =
              { log with opened := log.opened ++ [requestId] } := by
          simp [RetirementLog.after, openedBy, retiredBy, consumedBy,
            opened, RetirementLog.retires_nil]
        rw [logged] at fresh ⊢
        simp only [requestRouting, opened]
        refine tracks.opens fun member => ?_
        exact (List.nodup_append.mp fresh).2.2 requestId member
          requestId (List.mem_singleton.mpr rfl) rfl
  | contains requestId =>
      rw [RetirementLog.after_eq_self rfl rfl rfl]
      exact tracks
  | discardLate requestId =>
      simpa [requestRouting, RetirementLog.after, openedBy, retiredBy,
        consumedBy, RetirementLog.retires_nil]
        using tracks.discards requestId
  | reopen =>
      exact absurd rfl sameSession
  | fulfill requestId response =>
      rw [RetirementLog.after_eq_self rfl rfl rfl]
      simp only [requestRouting, RequestRouter.takeRegistered]
      cases found : AList.lookup requestId routing.router.requests with
      | none =>
          exact tracks
      | some ticket =>
          exact tracks.unregisters
            (fun _ pending => (AList.mem_erase.mp pending).2) _
  | close error iteration =>
      by_cases complete : iteration.Perm routing.router.requests.keys
      · simpa [requestRouting, RetirementLog.after, openedBy, retiredBy,
          consumedBy, complete] using tracks.closes complete
      · rw [RetirementLog.after_eq_self rfl
          (by simp [retiredBy, complete]) rfl]
        simpa [requestRouting, complete] using tracks
  | wait requestId ticket? =>
      rw [RetirementLog.after_eq_self rfl rfl rfl, router_step_wait]
      exact tracks
  | advance index =>
      exact tracks_step_advance tracks index

/-- In every run of a session the router and the log stay together. -/
theorem tracks_state
    {calls : List (RoutingCall Response)}
    (session : SessionRun calls) :
    ((requestRouting Response).state calls).router.Tracks
      (retirementLog calls) := by
  induction calls using List.reverseRecOn with
  | nil =>
      exact RequestRouter.tracks_initial
  | append_singleton calls call inductionHypothesis =>
      have opensOnce := session.opensOnce
      rw [retirementLog_snoc] at opensOnce ⊢
      rw [Machine.state_snoc]
      refine tracks_step (inductionHypothesis session.shorter) opensOnce ?_
      rintro rfl
      exact session.sameSession (by simp)

/-- Since an id was retired at most 256 retired ids have been outstanding. -/
def BoundedSince
    (calls : List (RoutingCall Response))
    (requestId : UInt64) : Prop :=
  ∀ first later,
    calls = first ++ later →
    requestId ∈ (retirementLog first).retirements →
    (retirementLog first).outstanding.length ≤ maximumRetiredRequests

/-- Fewer than 256 ids have been retired after an id. -/
def RecentlyRetired
    (calls : List (RoutingCall Response))
    (requestId : UInt64) : Prop :=
  ∀ earlier later,
    (retirementLog calls).retirements = earlier ++ requestId :: later →
    later.length < maximumRetiredRequests

/-- The outstanding ids, while they are few, are recognised. -/
def RemembersOutstanding (calls : List (RoutingCall Response)) : Prop :=
  ∀ requestId ∈ (retirementLog calls).outstanding,
    BoundedSince calls requestId →
    (((requestRouting Response).state calls).router.discardLate
      requestId).1 = true

/--
A session remembers its outstanding ids exactly if fewer than 256 ids have been
retired after each of them, the consumed ones included.
-/
theorem remembersOutstanding_iff
    {calls : List (RoutingCall Response)}
    (session : SessionRun calls) :
    RemembersOutstanding calls ↔
      ∀ requestId ∈ (retirementLog calls).outstanding,
        BoundedSince calls requestId →
        RecentlyRetired calls requestId := by
  have tracks := tracks_state session
  constructor
  · intro remembers requestId outstanding bounded
    exact (tracks.discardLate_iff outstanding).mp
      (remembers requestId outstanding bounded)
  · intro recent requestId outstanding bounded
    exact (tracks.discardLate_iff outstanding).mpr
      (recent requestId outstanding bounded)

end Runs

/-- A read that times out at once. -/
def timedOutRead (number : Nat) : List (RoutingCall Unit) :=
  [.openRequest (UInt64.ofNat number),
    .wait (UInt64.ofNat number) (some number), .advance 0]

/-- The same, and its response arrives late. -/
def consumedRead (number : Nat) : List (RoutingCall Unit) :=
  timedOutRead number ++ [.discardLate (UInt64.ofNat number)]

/-- Read 0 times out, and then as many reads are retired and consumed. -/
def readsAfterFirst : Nat → List (RoutingCall Unit)
  | 0 => timedOutRead 0
  | count + 1 => readsAfterFirst count ++ consumedRead (count + 1)

/-- A property of every state that a run goes through. -/
def Along
    (Property : LoggedRouting Unit → Prop)
    (start : LoggedRouting Unit)
    (calls : List (RoutingCall Unit)) : Prop :=
  ∀ first later,
    calls = first ++ later →
    Property ((loggedRouting Unit).stateFrom start first)

theorem along_cons
    {Property : LoggedRouting Unit → Prop}
    {start : LoggedRouting Unit}
    {call : RoutingCall Unit}
    {rest : List (RoutingCall Unit)}
    (here : Property start)
    (along : Along Property ((loggedRouting Unit).step start call).1 rest) :
    Along Property start (call :: rest) := by
  intro first later split
  cases first with
  | nil =>
      exact here
  | cons head first =>
      obtain ⟨rfl, restSplit⟩ := List.cons.inj split
      exact along first later restSplit

theorem along_append
    {Property : LoggedRouting Unit → Prop}
    {start : LoggedRouting Unit}
    {first second : List (RoutingCall Unit)}
    (alongFirst : Along Property start first)
    (alongSecond :
      Along Property ((loggedRouting Unit).stateFrom start first) second) :
    Along Property start (first ++ second) := by
  intro earlier later split
  rcases List.append_eq_append_iff.mp split with
    ⟨between, shape, restSplit⟩ | ⟨between, shape, -⟩
  · rw [shape, Machine.stateFrom_append]
    exact alongSecond between later restSplit
  · exact alongFirst earlier between shape

/-- Between two reads: so many were read and these are outstanding. -/
structure BetweenReads
    (count : Nat)
    (outstanding : List UInt64)
    (logged : LoggedRouting Unit) : Prop where
  accepting : logged.routing.router.accepting = true
  nonePending :
    ∀ requestId, requestId ∉ logged.routing.router.requests
  noneInProgress : logged.routing.inProgress = []
  tickets : logged.routing.tickets.length = count
  waited : ∀ ticket ∈ logged.routing.waited, ticket < count
  opened : logged.log.opened = (List.range count).map UInt64.ofNat
  retirements :
    logged.log.retirements = (List.range count).map UInt64.ofNat
  outstanding : logged.log.outstanding = outstanding

theorem betweenReads_initial :
    BetweenReads 0 [] (loggedRouting Unit).initial where
  accepting := rfl
  nonePending _ := AList.notMem_empty _
  noneInProgress := rfl
  tickets := rfl
  waited _ impossible := by cases impossible
  opened := rfl
  retirements := rfl
  outstanding := rfl

/-- At most two ids are outstanding. -/
def FewOutstanding (logged : LoggedRouting Unit) : Prop :=
  logged.log.outstanding.length ≤ 2

section Reads

variable {count : Nat}
variable {outstanding : List UInt64}
variable {logged : LoggedRouting Unit}

/-- A free id is registered with the next ticket. -/
theorem step_openRequest
    {requestId : UInt64}
    (accepting : logged.routing.router.accepting = true)
    (free : requestId ∉ logged.routing.router.requests) :
    ((loggedRouting Unit).step logged (.openRequest requestId)).1 =
      { routing := { logged.routing with
          router := { logged.routing.router with
            requests :=
              logged.routing.router.requests.emplace requestId
                logged.routing.tickets.length }
          tickets :=
            logged.routing.tickets ++ [{ requestId := requestId }] }
        log := { logged.log with
          opened := logged.log.opened ++ [requestId] } } := by
  simp [loggedRouting, requestRouting, RequestRouter.openRequest,
    RetirementLog.after, openedBy, retiredBy, consumedBy, accepting,
    free, RetirementLog.retires_nil]

/-- A waiter on a new ticket reaches its deadline. -/
theorem step_wait
    {requestId : UInt64}
    {ticket : Ticket}
    (found :
      logged.routing.tickets[ticket]? = some { requestId := requestId })
    (unwaited : ticket ∉ logged.routing.waited) :
    ((loggedRouting Unit).step logged
        (.wait requestId (some ticket))).1 =
      { logged with
        routing := { logged.routing with
          inProgress :=
            logged.routing.inProgress ++ [.expired requestId ticket]
          waited := ticket :: logged.routing.waited } } := by
  simp [loggedRouting, requestRouting, RequestRouting.observe,
    RetirementLog.after, openedBy, retiredBy, consumedBy, found,
    unwaited, RetirementLog.retires_nil]

/-- The waiter retires its id. -/
theorem step_advance
    {requestId : UInt64}
    {ticket : Ticket}
    (expired : logged.routing.inProgress = [.expired requestId ticket])
    (pending :
      AList.lookup requestId logged.routing.router.requests =
        some ticket) :
    ((loggedRouting Unit).step logged (.advance 0)).1 =
      { routing := { logged.routing with
          router :=
            { logged.routing.router with
              requests :=
                logged.routing.router.requests.erase requestId
            }.retire requestId
          inProgress := [] }
        log := logged.log.retires [requestId] } := by
  simp [loggedRouting, requestRouting, RequestRouting.advance,
    RequestRouter.unregisterTimedOut, RetirementLog.after, openedBy,
    retiredBy, consumedBy, expired, pending]

/-- The state after one more read that times out. -/
def retiredRead
    (count : Nat)
    (logged : LoggedRouting Unit) : LoggedRouting Unit where
  routing := { logged.routing with
    router :=
      { logged.routing.router with
        requests :=
          (logged.routing.router.requests.emplace (UInt64.ofNat count)
            logged.routing.tickets.length).erase (UInt64.ofNat count)
      }.retire (UInt64.ofNat count)
    tickets :=
      logged.routing.tickets ++ [{ requestId := UInt64.ofNat count }]
    inProgress := []
    waited := count :: logged.routing.waited }
  log := { logged.log with
    opened := logged.log.opened ++ [UInt64.ofNat count] }.retires
      [UInt64.ofNat count]

/-- A read that times out is logged where its id is retired. -/
theorem exists_states_timedOutRead
    (between : BetweenReads count outstanding logged) :
    ∃ second third,
      ((loggedRouting Unit).step logged
          (.openRequest (UInt64.ofNat count))).1 = second ∧
        second.log.outstanding = logged.log.outstanding ∧
        ((loggedRouting Unit).step second
          (.wait (UInt64.ofNat count) (some count))).1 = third ∧
        third.log.outstanding = logged.log.outstanding ∧
        ((loggedRouting Unit).step third (.advance 0)).1 =
          retiredRead count logged := by
  have free := between.nonePending (UInt64.ofNat count)
  have opened := step_openRequest between.accepting free
  generalize isOpened :
    ((loggedRouting Unit).step logged
      (.openRequest (UInt64.ofNat count))).1 = second at opened
  have found :
      second.routing.tickets[count]? =
        some { requestId := UInt64.ofNat count } := by
    rw [opened]
    simp [← between.tickets]
  have unwaited : count ∉ second.routing.waited := by
    rw [opened]
    exact fun member => Nat.lt_irrefl _ (between.waited count member)
  have waited := step_wait found unwaited
  generalize isWaited :
    ((loggedRouting Unit).step second
      (.wait (UInt64.ofNat count) (some count))).1 = third at waited
  have expired :
      third.routing.inProgress =
        [.expired (UInt64.ofNat count) count] := by
    rw [waited, opened]
    simp [between.noneInProgress]
  have pending :
      AList.lookup (UInt64.ofNat count) third.routing.router.requests =
        some count := by
    rw [waited, opened]
    simp [UnorderedMap.lookup_emplace, between.tickets,
      AList.lookup_eq_none.mpr free]
  refine ⟨second, third, rfl, ?_, isWaited, ?_, ?_⟩
  · rw [opened]
  · rw [waited, opened]
  · rw [step_advance expired pending, waited, opened]
    rfl

theorem betweenReads_retiredRead
    (between : BetweenReads count outstanding logged) :
    BetweenReads (count + 1) (outstanding ++ [UInt64.ofNat count])
      (retiredRead count logged) where
  accepting := between.accepting
  nonePending := by
    intro requestId member
    obtain ⟨differs, member⟩ := AList.mem_erase.mp member
    rcases UnorderedMap.mem_emplace_iff.mp member with same | member
    · exact differs same
    · exact between.nonePending requestId member
  noneInProgress := rfl
  tickets := by
    simp [retiredRead, between.tickets]
  waited := by
    intro ticket member
    rcases List.mem_cons.mp member with rfl | member
    · exact Nat.lt_succ_self _
    · exact Nat.lt_succ_of_lt (between.waited ticket member)
  opened := by
    rw [List.range_succ, List.map_append, ← between.opened]
    rfl
  retirements := by
    rw [List.range_succ, List.map_append, ← between.retirements]
    rfl
  outstanding := by
    rw [← between.outstanding]
    rfl

/-- What a read that times out leaves behind. -/
theorem betweenReads_timedOutRead
    (between : BetweenReads count outstanding logged)
    (few : outstanding.length ≤ 1) :
    BetweenReads (count + 1) (outstanding ++ [UInt64.ofNat count])
        ((loggedRouting Unit).stateFrom logged (timedOutRead count)) ∧
      Along FewOutstanding logged (timedOutRead count) := by
  obtain ⟨second, third, isOpened, secondSame, isWaited, thirdSame,
    isAdvanced⟩ := exists_states_timedOutRead between
  have next := betweenReads_retiredRead between
  constructor
  · simp only [timedOutRead, Machine.stateFrom, isOpened, isWaited,
      isAdvanced]
    exact next
  · have start : FewOutstanding logged := by
      rw [FewOutstanding, between.outstanding]
      exact Nat.le_succ_of_le few
    have secondFew : FewOutstanding second := by
      rw [FewOutstanding, secondSame]
      exact start
    have thirdFew : FewOutstanding third := by
      rw [FewOutstanding, thirdSame]
      exact start
    have finalFew : FewOutstanding (retiredRead count logged) := by
      rw [FewOutstanding, next.outstanding, List.length_append,
        List.length_singleton]
      exact Nat.add_le_add_right few 1
    refine along_cons start ?_
    rw [isOpened]
    refine along_cons secondFew ?_
    rw [isWaited]
    refine along_cons thirdFew ?_
    rw [isAdvanced]
    intro first later split
    obtain ⟨rfl, -⟩ := List.append_eq_nil_iff.mp split.symm
    exact finalFew

/-- A consumed read leaves only the earlier ids outstanding. -/
theorem betweenReads_consumedRead
    (between : BetweenReads count [0] logged)
    (positive : 0 < count)
    (bounded : count < 2 ^ 64) :
    BetweenReads (count + 1) [0]
        ((loggedRouting Unit).stateFrom logged (consumedRead count)) ∧
      Along FewOutstanding logged (consumedRead count) := by
  obtain ⟨timedOut, along⟩ :=
    betweenReads_timedOutRead between (by simp)
  have nonzero : UInt64.ofNat count ≠ 0 := by
    intro zero
    have values := congrArg UInt64.toNat zero
    simp only [UInt64.toNat_ofNat', UInt64.toNat_zero] at values
    omega
  have consumed :
      BetweenReads (count + 1) [0]
        ((loggedRouting Unit).stateFrom logged
          (consumedRead count)) := by
    rw [consumedRead, Machine.stateFrom_append]
    generalize (loggedRouting Unit).stateFrom logged
      (timedOutRead count) = reached at timedOut ⊢
    simp only [Machine.stateFrom, loggedRouting, requestRouting,
      RequestRouter.discardLate, RetirementLog.after, openedBy,
      retiredBy, consumedBy, List.append_nil,
      RetirementLog.retires_nil]
    exact {
      timedOut with
      outstanding := by
        simp [RetirementLog.consumes, timedOut.outstanding, nonzero.symm] }
  refine ⟨consumed, along_append along ?_⟩
  have afterTimeout :
      FewOutstanding
        ((loggedRouting Unit).stateFrom logged
          (timedOutRead count)) := by
    rw [FewOutstanding, timedOut.outstanding]
    simp
  refine along_cons afterTimeout ?_
  intro first later split
  obtain ⟨rfl, -⟩ := List.append_eq_nil_iff.mp split.symm
  rw [consumedRead, Machine.stateFrom_append] at consumed
  rw [Machine.stateFrom, FewOutstanding]
  have afterConsumption := consumed.outstanding
  simp only [Machine.stateFrom] at afterConsumption
  rw [afterConsumption]
  simp

/-- Read 0 stays outstanding while the others come and go. -/
theorem betweenReads_readsAfterFirst
    (bounded : count < 2 ^ 64) :
    BetweenReads (count + 1) [0]
        ((loggedRouting Unit).state (readsAfterFirst count)) ∧
      Along FewOutstanding (loggedRouting Unit).initial
        (readsAfterFirst count) := by
  induction count with
  | zero =>
      exact betweenReads_timedOutRead betweenReads_initial (by simp)
  | succ count inductionHypothesis =>
      obtain ⟨between, along⟩ :=
        inductionHypothesis (Nat.lt_of_succ_lt bounded)
      obtain ⟨next, alongNext⟩ :=
        betweenReads_consumedRead between (Nat.succ_pos _) bounded
      refine ⟨?_, along_append along alongNext⟩
      rw [readsAfterFirst, Machine.state, Machine.stateFrom_append]
      exact next

/-- The reads belong to one session. -/
theorem sessionRun_readsAfterFirst (bounded : count + 1 < 2 ^ 64) :
    SessionRun (readsAfterFirst count) where
  opensOnce := by
    have opened :=
      (betweenReads_readsAfterFirst (Nat.lt_of_succ_lt bounded)).1.opened
    rw [retirementLog, opened]
    apply List.Nodup.map_on _ List.nodup_range
    intro first firstMember second secondMember same
    have firstBound := List.mem_range.mp firstMember
    have secondBound := List.mem_range.mp secondMember
    have values := congrArg UInt64.toNat same
    simp only [UInt64.toNat_ofNat'] at values
    omega
  sameSession := by
    clear bounded
    induction count with
    | zero =>
        simp [readsAfterFirst, timedOutRead]
    | succ count inductionHypothesis =>
        simpa [readsAfterFirst, consumedRead, timedOutRead]
          using inductionHypothesis

/-- All later reads have been retired after read 0. -/
theorem recentlyRetired_readsAfterFirst_iff (bounded : count < 2 ^ 64) :
    RecentlyRetired (readsAfterFirst count) 0 ↔
      count < maximumRetiredRequests := by
  have retirements :=
    (betweenReads_readsAfterFirst bounded).1.retirements
  unfold RecentlyRetired
  rw [retirementLog, retirements]
  constructor
  · intro recent
    have few := recent []
      ((List.range count).map fun earlier => UInt64.ofNat (earlier + 1))
      (by simp [List.range_succ_eq_map, Function.comp_def])
    simpa using few
  · intro few earlier later split
    have lengths := congrArg List.length split
    simp only [List.length_map, List.length_range, List.length_append,
      List.length_cons] at lengths
    omega

/-- Only read 0 is outstanding at the end, and never more than two are. -/
theorem boundedSince_readsAfterFirst (bounded : count < 2 ^ 64) :
    (retirementLog (readsAfterFirst count)).outstanding = [0] ∧
      BoundedSince (readsAfterFirst count) 0 := by
  obtain ⟨between, along⟩ := betweenReads_readsAfterFirst bounded
  refine ⟨between.outstanding, fun first later split _ => ?_⟩
  exact (along first later split).trans (by decide)

end Reads

theorem remembersOutstanding_readsAfterFirst :
    RemembersOutstanding (readsAfterFirst 255) := by
  have outstanding :
      (retirementLog (readsAfterFirst 255)).outstanding = [0] :=
    (boundedSince_readsAfterFirst (by decide)).1
  refine (remembersOutstanding_iff
    (sessionRun_readsAfterFirst (by decide))).mpr ?_
  intro requestId member _
  rw [outstanding, List.mem_singleton] at member
  rw [member, recentlyRetired_readsAfterFirst_iff (by decide)]
  decide

/-- One read later read 0 is forgotten, though it alone is outstanding. -/
theorem outstandingRead_forgotten :
    SessionRun (readsAfterFirst 256) ∧
      ¬ RemembersOutstanding (readsAfterFirst 256) := by
  have session : SessionRun (readsAfterFirst 256) :=
    sessionRun_readsAfterFirst (by decide)
  obtain ⟨outstanding, bounded⟩ :=
    @boundedSince_readsAfterFirst 256 (by decide)
  have member :
      (0 : UInt64) ∈
        (retirementLog (readsAfterFirst 256)).outstanding := by
    rw [outstanding]
    exact List.mem_singleton.mpr rfl
  refine ⟨session, fun remembers => ?_⟩
  have recent :=
    ((tracks_state session).discardLate_iff member).mp
      (remembers 0 member bounded)
  have few :=
    (recentlyRetired_readsAfterFirst_iff (by decide)).mp recent
  exact absurd few (by decide)

end TgGate
