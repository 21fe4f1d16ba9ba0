import TgGate.ReadRefinement

namespace TgGate

open Library

/-!
# What a step does to the reads of an account

Most steps of the account's threads leave the pending reads to their tickets.
The others receive a response, take tickets out of the router or complete them,
and a reader asks, is answered or gives up.  `ReadingStep` lists them once, with
their guards.
-/

/-- The parts of the receive loop that touch the pending reads. -/
def ReceivePhase.touchesReads : ReceivePhase → Bool
  | .receiving | .fulfilling _ | .failingReads => true
  | _ => false

namespace TdAccount

/-- The manager stays, and its request ids are not used again. -/
structure KeepsManager (before after : TdAccount) : Prop where
  manager : after.manager = before.manager
  managers : after.managers = before.managers
  next : before.nextRequestId ≤ after.nextRequestId

/-- The manager goes, or a new one comes, between two sessions. -/
structure ChangesManager (before after : TdAccount) : Prop where
  closed : before.operator.closed = true
  joined : before.operator.afterJoin = true
  managers : before.managers ≤ after.managers
  fresh :
    ∀ manager,
      after.manager = some manager →
      before.managers ≤ manager ∧ manager < after.managers

/-- The pending reads keep their tickets and no response arrives. -/
structure LeavesReads (before after : TdAccount) : Prop where
  requests :
    after.readRequests.requests = before.readRequests.requests
  tickets : after.tickets = before.tickets
  session : before.KeepsManager after ∨ before.ChangesManager after
  held :
    ∀ requestId,
      after.held? = some requestId → before.held? = some requestId

section Leaves

variable {before after account : TdAccount}

/-- Sending uses up at most the next request id. -/
theorem KeepsManager.of_sent
    {sends : Prop} [Decidable sends]
    (manager : after.manager = before.manager)
    (managers : after.managers = before.managers)
    (next :
      after.nextRequestId =
        if sends then
          before.nextRequestId + 1
        else
          before.nextRequestId) :
    before.KeepsManager after := by
  refine ⟨manager, managers, ?_⟩
  rw [next]
  split <;> omega

theorem KeepsManager.refl (account : TdAccount) :
    account.KeepsManager account :=
  ⟨rfl, rfl, le_rfl⟩

theorem LeavesReads.refl (account : TdAccount) :
    account.LeavesReads account :=
  ⟨rfl, rfl, .inl (.refl account), fun _ => id⟩

/-- Only fields that no reader looks at are changed. -/
theorem LeavesReads.of_same
    (requests :
      after.readRequests.requests = before.readRequests.requests)
    (tickets : after.tickets = before.tickets)
    (keeps : before.KeepsManager after)
    (thread : after.receiveThread = before.receiveThread) :
    before.LeavesReads after where
  requests := requests
  tickets := tickets
  session := .inl keeps
  held requestId := by
    rw [held?, held?, thread]
    exact id

/-- The receive thread handles no response any more. -/
theorem LeavesReads.of_unheld
    (requests :
      after.readRequests.requests = before.readRequests.requests)
    (tickets : after.tickets = before.tickets)
    (keeps : before.KeepsManager after)
    (unheld : after.held? = none) :
    before.LeavesReads after where
  requests := requests
  tickets := tickets
  session := .inl keeps
  held requestId isHeld := by
    rw [unheld] at isHeld
    cases isHeld

theorem leavesReads_submit (kind : InputKind) (input : SecretBuffer) :
    account.LeavesReads (account.submit kind input).1 := by
  unfold submit
  split
  · exact .of_same rfl rfl ⟨rfl, rfl, le_rfl⟩ rfl
  · split
    · exact .of_same rfl rfl ⟨rfl, rfl, le_rfl⟩ rfl
    · split
      · exact .of_same rfl rfl ⟨rfl, rfl, le_rfl⟩ rfl
      · simp only [fst_send]
        exact .of_same rfl rfl (.of_sent rfl rfl rfl) rfl

theorem leavesReads_beginAuthorization (options : TdAccountOptions) :
    account.LeavesReads (account.beginAuthorization options).1 := by
  unfold beginAuthorization
  split <;> exact .of_same rfl rfl ⟨rfl, rfl, le_rfl⟩ rfl

theorem leavesReads_whenIdle
    {function : TdAccount → TdAccount × TdEvent}
    (called : account.LeavesReads (function account).1) :
    account.LeavesReads (account.whenIdle function).1 := by
  unfold whenIdle
  split
  · exact called
  · exact .refl account

theorem leavesReads_advanceStop
    (supply : TdSupply)
    {next? : Option TdAccountOptions}
    {phase : StopPhase}
    (here : account.operator = .stopping phase next?)
    (keeps : phase ≠ .failingReads) :
    account.LeavesReads (account.advanceStop supply next? phase).1 := by
  cases phase with
  | closing =>
      simp only [advanceStop, requestClose]
      split
      · simp only [fst_send]
        exact .of_same rfl rfl (.of_sent rfl rfl rfl) rfl
      · exact .of_same rfl rfl ⟨rfl, rfl, le_rfl⟩ rfl
  | failingReads =>
      exact absurd rfl keeps
  | joining =>
      simp only [advanceStop]
      split
      · exact .of_unheld rfl rfl ⟨rfl, rfl, le_rfl⟩ rfl
      · exact .refl account
  | resetting =>
      refine ⟨rfl, rfl, .inr ⟨?_, ?_, le_rfl, ?_⟩, fun _ => id⟩
      · rw [here]
        rfl
      · rw [here]
        rfl
      · intro manager impossible
        cases impossible
  | clearing | emptying =>
      exact .of_same rfl rfl ⟨rfl, rfl, le_rfl⟩ rfl

theorem leavesReads_advanceOperator
    (supply : TdSupply)
    {phase : OperatorPhase}
    (here : account.operator = phase)
    (keeps : ∀ next?, phase ≠ .stopping .failingReads next?) :
    account.LeavesReads (account.advanceOperator supply phase).1 := by
  cases phase with
  | idle =>
      exact .refl account
  | stopping phase next? =>
      refine leavesReads_advanceStop supply here ?_
      rintro rfl
      exact keeps next? rfl
  | installing options =>
      refine
        ⟨rfl, rfl, .inr ⟨?_, ?_, Nat.le_succ _, ?_⟩, fun _ => id⟩
      · rw [here]
        rfl
      · rw [here]
        rfl
      · rintro manager ⟨⟩
        exact ⟨le_rfl, Nat.lt_succ_self _⟩
  | startingThread =>
      simp only [advanceOperator]
      split
      · exact .of_unheld rfl rfl ⟨rfl, rfl, le_rfl⟩ rfl
      · exact .of_same rfl rfl ⟨rfl, rfl, le_rfl⟩ rfl
  | activating =>
      simp only [advanceOperator, fst_send]
      exact .of_same rfl rfl (.of_sent rfl rfl rfl) rfl

theorem leavesReads_advanceReceive
    (supply : TdSupply)
    {phase : ReceivePhase}
    (here : account.receiveThread = some phase)
    (keeps : phase.touchesReads = false) :
    account.LeavesReads (account.advanceReceive supply phase).1 := by
  cases phase with
  | receiving | fulfilling | failingReads =>
      cases keeps
  | checking =>
      refine .of_unheld rfl rfl ⟨rfl, rfl, le_rfl⟩ ?_
      simp only [advanceReceive, receiveAt, held?]
      split <;> rfl
  | routing response =>
      refine
        ⟨rfl, rfl, .inl ⟨rfl, rfl, le_rfl⟩, fun requestId isHeld => ?_⟩
      rw [held?, here]
      simp only [advanceReceive, receiveAt, held?, Option.bind_some]
        at isHeld
      split at isHeld <;> exact isHeld
  | discarding response =>
      refine .of_unheld rfl rfl ⟨rfl, rfl, le_rfl⟩ ?_
      simp only [advanceReceive, receiveAt, held?, TdResponse.branch]
      split
      · rfl
      · split <;> rfl
  | settingStatus state =>
      refine .of_unheld rfl rfl ⟨rfl, rfl, le_rfl⟩ ?_
      cases state <;> rfl
  | sendingParameters | sendingPhoneNumber =>
      simp only [advanceReceive, fst_send]
      exact .of_unheld rfl rfl (.of_sent rfl rfl rfl) rfl
  | clearingInput | reporting | clearingOptions | finishing =>
      exact .of_unheld rfl rfl ⟨rfl, rfl, le_rfl⟩ rfl
  | finished =>
      exact .refl account

end Leaves

/-- The account refuses to send a read request, with the error it gives. -/
inductive RefusesRead (account : TdAccount) : Bytes → Prop where
  | unauthorized
      (unauthorized :
        account.running = false ∨ account.stopping = true ∨
          account.manager = none ∨
            account.authorizationStatus ≠ bytes "Authorized") :
      RefusesRead account (bytes "Telegram account is not authorized")
  /-- The router is closed, or the id is still in use. -/
  | stopping
      (refused :
        account.readRequests.accepting = false ∨
          UInt64.ofNat account.nextRequestId ∈
            account.readRequests.requests) :
      RefusesRead account (bytes "Telegram account is stopping")

/-- The account after a read request was sent. -/
def afterRead (account : TdAccount) : TdAccount :=
  { account with
    readRequests :=
      { account.readRequests with
        requests :=
          account.readRequests.requests.emplace
            (UInt64.ofNat account.nextRequestId) account.tickets }
    tickets := account.tickets + 1
    nextRequestId := account.nextRequestId + 1 }

/-- A read request is refused or sent under a free id. -/
theorem requestRead_cases
    (account : TdAccount)
    (request : TdReadFunction) :
    (∃ error,
      account.RefusesRead error ∧
        (account.requestRead request).2 = .refused error ∧
          account.LeavesReads (account.requestRead request).1) ∨
      ∃ manager,
        account.manager = some manager ∧
          account.readRequests.accepting = true ∧
          UInt64.ofNat account.nextRequestId ∉
              account.readRequests.requests ∧
            account.requestRead request =
              (account.afterRead,
                .sent manager account.clientId account.nextRequestId
                  (.read request)) := by
  unfold requestRead
  split
  · next unauthorized =>
      refine .inl ⟨_, .unauthorized ?_, rfl, .refl account⟩
      simpa using unauthorized
  · next authorized =>
      simp only [not_or, Option.isNone_iff_eq_none] at authorized
      obtain ⟨manager, owned⟩ :=
        Option.ne_none_iff_exists'.mp authorized.2.2.1
      rcases account.readRequests.openRequest_cases
        (UInt64.ofNat account.nextRequestId) account.tickets with
          ⟨closed, refused⟩ | ⟨accepting, free, opened⟩
      · rw [refused]
        exact .inl
          ⟨_, .stopping closed, rfl,
            .of_same rfl rfl ⟨rfl, rfl, Nat.le_succ _⟩ rfl⟩
      · rw [opened]
        refine .inr ⟨manager, owned, accepting, free, ?_⟩
        simp only [send, owned, afterRead]

end TdAccount

/-- A read request that a reader has sent. -/
structure SentRead where
  reader : Nat
  manager : Nat
  requestId : Nat
  request : TdReadFunction

/-- What the readers have asked and what has been received, in order. -/
structure ReadRecord where
  sent : List SentRead := []
  received : List (Nat × TdApiResponse) := []

/-- The read request that an event sends. -/
def sentRead? : Event TdReadingCall TdReadingEvent → Option SentRead
  | ⟨.read reader,
      .account (.sent manager _ requestId (.read request))⟩ =>
      some { reader, manager, requestId, request }
  | _ => none

/-- The response that an event receives, with the manager it came from. -/
def receivedResponse? :
    Event TdReadingCall TdReadingEvent → Option (Nat × TdApiResponse)
  | ⟨_, .received manager response⟩ => some (manager, response)
  | _ => none

/-- The record after an event. -/
def ReadRecord.after
    (record : ReadRecord)
    (event : Event TdReadingCall TdReadingEvent) : ReadRecord where
  sent := record.sent ++ (sentRead? event).toList
  received := record.received ++ (receivedResponse? event).toList

/-- A reader sends a request. -/
def ReadRecord.asks
    (reader manager requestId : Nat)
    (request : TdReadFunction)
    (record : ReadRecord) : ReadRecord :=
  { record with
    sent := record.sent ++ [{ reader, manager, requestId, request }] }

/-- A response arrives. -/
def ReadRecord.receives
    (manager : Nat)
    (response : TdApiResponse)
    (record : ReadRecord) : ReadRecord :=
  { record with received := record.received ++ [(manager, response)] }

/-- The record of a history. -/
def readRecord
    (history : List (Event TdReadingCall TdReadingEvent)) :
    ReadRecord where
  sent := history.filterMap sentRead?
  received := history.filterMap receivedResponse?

theorem readRecord_snoc
    (history : List (Event TdReadingCall TdReadingEvent))
    (event : Event TdReadingCall TdReadingEvent) :
    readRecord (history ++ [event]) =
      (readRecord history).after event := by
  simp only [readRecord, ReadRecord.after, List.filterMap_append,
    List.filterMap_cons, List.filterMap_nil]
  cases sentRead? event <;> cases receivedResponse? event <;> rfl

@[simp] theorem ReadRecord.after_of_silent
    {record : ReadRecord}
    {event : Event TdReadingCall TdReadingEvent}
    (unsent : sentRead? event = none)
    (unreceived : receivedResponse? event = none) :
    record.after event = record := by
  simp [after, unsent, unreceived]

/-- What cuts a read short, other than an answer of TDLib. -/
inductive ReadCause where
  /-- A reader's request was not sent. -/
  | refused (index : Nat) (inquiry : Inquiry) (error : Bytes)
  /-- A reader's time was up before its ticket was completed. -/
  | expired (index : Nat) (ticket : Ticket)
  /-- The router was closed while the ticket was pending. -/
  | closed (ticket : Ticket) (error : Bytes)

namespace TdReading

/-- A step in a state is a cause. -/
inductive Causes (reading : TdReading) :
    TdReadingCall → ReadCause → Prop where
  | refuses
      {index : Nat}
      {reader : Reader}
      {inquiry : Inquiry}
      {error : Bytes}
      (found : reading.readers[index]? = some reader)
      (here : reader.phase = .requesting inquiry)
      (refusal : reading.account.RefusesRead error) :
      Causes reading (.read index) (.refused index inquiry error)
  | expires
      {index : Nat}
      {reader : Reader}
      {inquiry : Inquiry}
      {requestId : Nat}
      {ticket : Ticket}
      (found : reading.readers[index]? = some reader)
      (here : reader.phase = .waiting inquiry requestId ticket)
      (notReady : (reading.requestState ticket).ready = false) :
      Causes reading (.read index) (.expired index ticket)
  | stops
      {supply : TdSupply}
      {next? : Option TdAccountOptions}
      {requestId : UInt64}
      {ticket : Ticket}
      (here : reading.account.operator = .stopping .failingReads next?)
      (free : reading.operatorHolds = [])
      (pending :
        AList.lookup requestId reading.account.readRequests.requests =
          some ticket) :
      Causes reading (.operator supply)
        (.closed ticket (bytes "TDLib account stopped"))
  | ends
      {response? : Option TdApiResponse}
      {iteration : List UInt64}
      {requestId : UInt64}
      {ticket : Ticket}
      (here : reading.account.receiveThread = some .failingReads)
      (free : reading.receiverHolds = [])
      (pending :
        AList.lookup requestId reading.account.readRequests.requests =
          some ticket) :
      Causes reading (.receive response? iteration)
        (.closed ticket (bytes "TDLib authorization was closed"))

/-- The errors of requests that were pending when the account was closed. -/
def closingErrors : List Bytes := [
  bytes "TDLib account stopped",
  bytes "TDLib authorization was closed"
]

/-- The tickets that a closing router hands over, all failed alike. -/
def failedBy (error : Bytes) (tickets : List Ticket) : List HeldTicket :=
  tickets.map fun ticket => (ticket, .failed error)

/-- The request state of a read is allocated and registered. -/
def opens (reading : TdReading) : TdReading :=
  { reading with
    account := reading.account.afterRead
    states := reading.states ++ [({} : RequestState TdApiObject)] }

/-- What a step does to the reads, guards included. -/
inductive ReadingStep
    (before : TdReading)
    (record : ReadRecord)
    (call : TdReadingCall) : TdReading → ReadRecord → Prop where
  | leaves
      {account : TdAccount}
      (leaves : before.account.LeavesReads account) :
      ReadingStep before record call
        { before with account := account } record
  | operatorCloses
      {account : TdAccount}
      {iteration : List UInt64}
      (free : before.operatorHolds = [])
      (complete :
        iteration.Perm before.account.readRequests.requests.keys)
      (router :
        account.readRequests =
          (before.account.readRequests.close iteration).2)
      (tickets : account.tickets = before.account.tickets)
      (keeps : before.account.KeepsManager account)
      (thread : account.receiveThread = before.account.receiveThread)
      (causes :
        ∀ ticket ∈ (before.account.readRequests.close iteration).1,
          before.Causes call
            (.closed ticket (bytes "TDLib account stopped"))) :
      ReadingStep before record call
        { before with
          account := account
          operatorHolds :=
            failedBy (bytes "TDLib account stopped")
              (before.account.readRequests.close iteration).1 }
        record
  | receiverCloses
      {account : TdAccount}
      {iteration : List UInt64}
      (free : before.receiverHolds = [])
      (complete :
        iteration.Perm before.account.readRequests.requests.keys)
      (router :
        account.readRequests =
          (before.account.readRequests.close iteration).2)
      (tickets : account.tickets = before.account.tickets)
      (keeps : before.account.KeepsManager account)
      (unheld : account.held? = none)
      (causes :
        ∀ ticket ∈ (before.account.readRequests.close iteration).1,
          before.Causes call
            (.closed ticket (bytes "TDLib authorization was closed"))) :
      ReadingStep before record call
        { before with
          account := account
          receiverHolds :=
            failedBy (bytes "TDLib authorization was closed")
              (before.account.readRequests.close iteration).1 }
        record
  | receives
      {manager : Nat}
      {response : TdApiResponse}
      (here : before.account.receiveThread = some .receiving)
      (owned : before.account.manager = some manager) :
      ReadingStep before record call
        { before with
          account :=
            before.account.receiveAt (.routing response.received)
          response := response }
        (record.receives manager response)
  | fulfils
      {requestId : Nat}
      {ticket : Ticket}
      (here :
        before.account.receiveThread = some (.fulfilling requestId))
      (free : before.receiverHolds = [])
      (pending :
        AList.lookup (UInt64.ofNat requestId)
          before.account.readRequests.requests = some ticket) :
      ReadingStep before record call
        { before with
          account :=
            { before.account with
              readRequests :=
                { before.account.readRequests with
                  requests :=
                    before.account.readRequests.requests.erase
                      (UInt64.ofNat requestId) } }.receiveAt .checking
          receiverHolds :=
            [(ticket, .fulfilled before.response.object)] }
        record
  | operatorCompletes
      {held : HeldTicket}
      {rest : List HeldTicket}
      (holds : before.operatorHolds = held :: rest) :
      ReadingStep before record call
        { before.complete held with operatorHolds := rest } record
  | receiverCompletes
      {held : HeldTicket}
      {rest : List HeldTicket}
      (holds : before.receiverHolds = held :: rest) :
      ReadingStep before record call
        { before.complete held with receiverHolds := rest } record
  | enters
      {entered : ReadCall} :
      ReadingStep before record call
        { before with
          readers := before.readers ++ [({ call := entered } : Reader)] }
        record
  | begins
      {index : Nat}
      {reader : Reader}
      (found : before.readers[index]? = some reader)
      (here : reader.phase = .entering) :
      ReadingStep before record call
        (before.readerAt index (.ofTurn reader.call.begins)) record
  | refuses
      {index : Nat}
      {reader : Reader}
      {inquiry : Inquiry}
      {error : Bytes}
      {account : TdAccount}
      (found : before.readers[index]? = some reader)
      (here : reader.phase = .requesting inquiry)
      (causes : before.Causes call (.refused index inquiry error))
      (leaves : before.account.LeavesReads account) :
      ReadingStep before record call
        ({ before with account := account }.readerAt index
          (.returned (.error error)))
        record
  | asks
      {index : Nat}
      {reader : Reader}
      {inquiry : Inquiry}
      {manager : Nat}
      (found : before.readers[index]? = some reader)
      (here : reader.phase = .requesting inquiry)
      (owned : before.account.manager = some manager)
      (accepting : before.account.readRequests.accepting = true)
      (free :
        UInt64.ofNat before.account.nextRequestId ∉
          before.account.readRequests.requests) :
      ReadingStep before record call
        (before.opens.readerAt index
          (.waiting inquiry before.account.nextRequestId
            before.account.tickets))
        (record.asks index manager before.account.nextRequestId
          inquiry.request)
  | resumes
      {index : Nat}
      {reader : Reader}
      {inquiry : Inquiry}
      {requestId : Nat}
      {ticket : Ticket}
      (found : before.readers[index]? = some reader)
      (here : reader.phase = .waiting inquiry requestId ticket)
      (ready : (before.requestState ticket).ready = true) :
      ReadingStep before record call
        (before.readerAt index
          (.afterWait inquiry
            { response := (before.requestState ticket).response
              error := (before.requestState ticket).error }))
        record
  | expires
      {index : Nat}
      {reader : Reader}
      {inquiry : Inquiry}
      {requestId : Nat}
      {ticket : Ticket}
      (found : before.readers[index]? = some reader)
      (here : reader.phase = .waiting inquiry requestId ticket)
      (causes : before.Causes call (.expired index ticket)) :
      ReadingStep before record call
        (before.readerAt index (.expired inquiry requestId ticket))
        record
  | timesOut
      {index : Nat}
      {reader : Reader}
      {inquiry : Inquiry}
      {requestId : Nat}
      {ticket : Ticket}
      (found : before.readers[index]? = some reader)
      (here : reader.phase = .expired inquiry requestId ticket) :
      ReadingStep before record call
        ({ before with
            account :=
              (before.account.timeOutRead requestId ticket).1
          }.readerAt index
            (.afterWait inquiry
              { error := bytes "TDLib read request timed out" }))
        record

section Steps

variable {reading : TdReading}
variable {record : ReadRecord}

/-- A step that changes the account alone. -/
theorem readingStep_of_leaves
    {account : TdAccount}
    {event : Event TdReadingCall TdReadingEvent}
    {call : TdReadingCall}
    (leaves : reading.account.LeavesReads account)
    (unsent : sentRead? event = none)
    (unreceived : receivedResponse? event = none) :
    ReadingStep reading record call
      { reading with account := account } (record.after event) := by
  rw [ReadRecord.after_of_silent unsent unreceived]
  exact .leaves leaves

/-- What `fail_read_requests` hands over and what it leaves. -/
theorem failedTickets_of_failed
    {account failed : TdAccount}
    {supply : TdSupply}
    (isFailed : account.failReadRequests? supply = some failed)
    (error : Bytes) :
    supply.iteration.Perm account.readRequests.requests.keys ∧
      failed =
          { account with
            readRequests :=
              (account.readRequests.close supply.iteration).2 } ∧
        account.failedTickets supply error =
          failedBy error
            (account.readRequests.close supply.iteration).1 := by
  have failedTickets : account.failedTickets supply error =
      failedBy error
        (account.readRequests.close supply.iteration).1 := by
    rw [TdAccount.failedTickets, isFailed]
    rfl
  unfold TdAccount.failReadRequests? at isFailed
  split at isFailed
  · next complete =>
      exact ⟨complete, (Option.some.inj isFailed).symm, failedTickets⟩
  · cases isFailed

theorem readingStep_advanceOperator (supply : TdSupply) :
    ReadingStep reading record (.operator supply)
      (reading.advanceOperator supply).1
      (record.after
        ⟨.operator supply, (reading.advanceOperator supply).2⟩) := by
  unfold advanceOperator
  cases holds : reading.operatorHolds with
  | cons held rest =>
      rw [ReadRecord.after_of_silent rfl rfl]
      exact .operatorCompletes holds
  | nil =>
      rw [ReadRecord.after_of_silent rfl rfl]
      have leaves
          {account : TdAccount}
          (leaves : reading.account.LeavesReads account) :
          ReadingStep reading record (.operator supply)
            { reading with account := account, operatorHolds := [] }
            record := by
        rw [← holds]
        exact .leaves leaves
      simp only [TdAccount.step]
      cases here : reading.account.operator with
      | stopping phase next? =>
          cases phase with
          | failingReads =>
              simp only [TdAccount.advanceOperator,
                TdAccount.advanceStop]
              cases isFailed :
                  reading.account.failReadRequests? supply with
              | none =>
                  simp only [TdAccount.failedTickets, isFailed]
                  exact leaves (.refl _)
              | some failed =>
                  obtain ⟨complete, rfl, hands⟩ :=
                    failedTickets_of_failed isFailed
                      (bytes "TDLib account stopped")
                  rw [hands]
                  refine .operatorCloses holds complete rfl rfl
                    ⟨rfl, rfl, le_rfl⟩ rfl fun ticket member => ?_
                  obtain ⟨requestId, -, pending⟩ :=
                    List.mem_filterMap.mp member
                  exact .stops here holds pending
          | closing | joining | resetting | clearing | emptying =>
              exact leaves
                (TdAccount.leavesReads_advanceOperator supply here
                  (fun _ impossible => by cases impossible))
      | idle | installing | startingThread | activating =>
          exact leaves
            (TdAccount.leavesReads_advanceOperator supply here
              (fun _ impossible => by cases impossible))

theorem readingStep_advanceLoop
    {phase : ReceivePhase}
    (here : reading.account.receiveThread = some phase)
    (free : reading.receiverHolds = [])
    (response? : Option TdApiResponse)
    (iteration : List UInt64) :
    ReadingStep reading record (.receive response? iteration)
      (reading.advanceLoop response? iteration phase).1
      (record.after
        ⟨.receive response? iteration,
          (reading.advanceLoop response? iteration phase).2⟩) := by
  have leaves
      {account : TdAccount}
      (leaves : reading.account.LeavesReads account) :
      ReadingStep reading record (.receive response? iteration)
        { reading with account := account, receiverHolds := [] }
        record := by
    rw [← free]
    exact .leaves leaves
  cases phase with
  | receiving =>
      simp only [advanceLoop, TdAccount.step, here,
        TdAccount.advanceReceive]
      cases owned : reading.account.manager with
      | none =>
          exact readingStep_of_leaves (.of_unheld rfl rfl ⟨rfl, rfl, le_rfl⟩ rfl) rfl rfl
      | some manager =>
          cases response? with
          | none =>
              exact readingStep_of_leaves (.of_unheld rfl rfl ⟨rfl, rfl, le_rfl⟩ rfl)
                rfl rfl
          | some response =>
              have recorded :
                  record.after
                      ⟨.receive (some response) iteration,
                        .received manager response⟩ =
                    record.receives manager response := by
                simp [ReadRecord.after, ReadRecord.receives, sentRead?,
                  receivedResponse?]
              rw [recorded]
              exact .receives here owned
  | fulfilling requestId =>
      simp only [advanceLoop, TdAccount.step, here,
        TdAccount.advanceReceive, received,
        RequestRouter.takeRegistered]
      rw [ReadRecord.after_of_silent rfl rfl]
      cases pending :
          AList.lookup (UInt64.ofNat requestId)
            reading.account.readRequests.requests with
      | none =>
          exact leaves (.of_unheld rfl rfl ⟨rfl, rfl, le_rfl⟩ rfl)
      | some ticket =>
          exact .fulfils here free pending
  | failingReads =>
      rw [ReadRecord.after_of_silent rfl rfl]
      simp only [advanceLoop, TdAccount.step, here,
        TdAccount.advanceReceive, received]
      cases isFailed :
          reading.account.failReadRequests?
            { iteration := iteration } with
      | none =>
          simp only [TdAccount.failedTickets, isFailed]
          exact leaves (.refl _)
      | some failed =>
          obtain ⟨complete, rfl, hands⟩ :=
            failedTickets_of_failed isFailed
              (bytes "TDLib authorization was closed")
          rw [hands]
          refine .receiverCloses free complete rfl rfl
            ⟨rfl, rfl, le_rfl⟩ rfl fun ticket member => ?_
          obtain ⟨requestId, -, pending⟩ := List.mem_filterMap.mp member
          exact .ends here free pending
  | checking | routing | discarding | clearingInput | reporting
  | settingStatus | sendingParameters | sendingPhoneNumber
  | clearingOptions | finishing | finished =>
      rw [ReadRecord.after_of_silent rfl rfl]
      simp only [advanceLoop, TdAccount.step, here, received]
      exact leaves (TdAccount.leavesReads_advanceReceive _ here rfl)

theorem readingStep_advanceReceiver
    (response? : Option TdApiResponse)
    (iteration : List UInt64) :
    ReadingStep reading record (.receive response? iteration)
      (reading.advanceReceiver response? iteration).1
      (record.after
        ⟨.receive response? iteration,
          (reading.advanceReceiver response? iteration).2⟩) := by
  unfold advanceReceiver
  cases holds : reading.receiverHolds with
  | cons held rest =>
      rw [ReadRecord.after_of_silent rfl rfl]
      exact .receiverCompletes holds
  | nil =>
      cases here : reading.account.receiveThread with
      | none =>
          exact readingStep_of_leaves (.refl _) rfl rfl
      | some phase =>
          exact readingStep_advanceLoop here holds response? iteration

theorem readingStep_advanceReader
    {index : Nat}
    {reader : Reader}
    (found : reading.readers[index]? = some reader) :
    ReadingStep reading record (.read index)
      (reading.advanceReader index reader).1
      (record.after
        ⟨.read index, (reading.advanceReader index reader).2⟩) := by
  unfold advanceReader
  cases here : reader.phase with
  | entering =>
      rw [ReadRecord.after_of_silent rfl rfl]
      exact .begins found here
  | requesting inquiry =>
      simp only [requestRead]
      rcases reading.account.requestRead_cases inquiry.request with
        ⟨error, refusal, refused, leaves⟩ |
          ⟨manager, owned, accepting, free, sent⟩
      · rw [refused, ReadRecord.after_of_silent rfl rfl]
        exact .refuses found here (.refuses found here refusal) leaves
      · rw [sent]
        have recorded :
            record.after
                ⟨.read index,
                  .account
                    (.sent manager reading.account.clientId
                      reading.account.nextRequestId
                      (.read inquiry.request))⟩ =
              record.asks index manager reading.account.nextRequestId
                inquiry.request := by
          simp [ReadRecord.after, ReadRecord.asks, sentRead?,
            receivedResponse?]
        rw [recorded]
        exact .asks found here owned accepting free
  | waiting inquiry requestId ticket =>
      rw [ReadRecord.after_of_silent rfl rfl]
      cases ready : (reading.requestState ticket).ready with
      | true =>
          simp only [ready, ↓reduceIte]
          exact .resumes found here ready
      | false =>
          simp only [ready, Bool.false_eq_true, ↓reduceIte]
          exact .expires found here (.expires found here ready)
  | expired inquiry requestId ticket =>
      rw [ReadRecord.after_of_silent rfl rfl]
      exact .timesOut found here
  | returned result =>
      exact readingStep_of_leaves (.refl _) rfl rfl

/-- Every step of the system is one of these. -/
theorem readingStep
    (reading : TdReading)
    (record : ReadRecord)
    (call : TdReadingCall) :
    ReadingStep reading record call (tdReading.step reading call).1
      (record.after (tdReading.eventAt reading call)) := by
  cases call with
  | beginAuthorization options =>
      exact readingStep_of_leaves
        (TdAccount.leavesReads_whenIdle
          (TdAccount.leavesReads_beginAuthorization options)) rfl rfl
  | stop =>
      have leaves :
          reading.account.LeavesReads (reading.account.step .stop).1 :=
        TdAccount.leavesReads_whenIdle (.of_same rfl rfl ⟨rfl, rfl, le_rfl⟩ rfl)
      exact readingStep_of_leaves leaves rfl rfl
  | submitCode code =>
      exact readingStep_of_leaves
        (TdAccount.leavesReads_whenIdle
          (TdAccount.leavesReads_submit .code code)) rfl rfl
  | submitPassword password =>
      exact readingStep_of_leaves
        (TdAccount.leavesReads_whenIdle
          (TdAccount.leavesReads_submit .password password)) rfl rfl
  | operator supply =>
      exact readingStep_advanceOperator supply
  | receive response? iteration =>
      exact readingStep_advanceReceiver response? iteration
  | enterRead call =>
      rw [ReadRecord.after_of_silent rfl rfl]
      exact .enters
  | read index =>
      simp only [tdReading, Machine.eventAt, step]
      cases found : reading.readers[index]? with
      | none =>
          exact readingStep_of_leaves (.refl _) rfl rfl
      | some reader =>
          exact readingStep_advanceReader found

end Steps

end TdReading

end TgGate
