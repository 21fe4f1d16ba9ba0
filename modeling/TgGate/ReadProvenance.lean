import TgGate.ReadingSteps

namespace TgGate

open Library

/-!
# Where the answers of a read come from

A ticket is completed with an object only if TDLib gave it in the session of the
request and under its id.  The invariant follows the response from the receive
loop into the request state: the tickets in the router belong to the current
manager, and a manager is replaced only while no request is pending and no
receive thread exists.
-/

namespace ReadRecord

/-- TDLib answered a request in its session and under its id. -/
def Answers
    (record : ReadRecord)
    (sent : SentRead)
    (object : TdApiObject) : Prop :=
  ∃ response : TdApiResponse,
    (sent.manager, response) ∈ record.received ∧
      UInt64.ofNat response.requestId = UInt64.ofNat sent.requestId ∧
        response.object = object

/-- A reader sent a request that TDLib answered. -/
def Answered
    (record : ReadRecord)
    (reader : Nat)
    (request : TdReadFunction)
    (object : TdApiObject) : Prop :=
  ∃ sent ∈ record.sent,
    sent.reader = reader ∧
      sent.request = request ∧ record.Answers sent object

/-- The requests of a reader in the order in which it sent them. -/
def requestsOf
    (record : ReadRecord)
    (reader : Nat) : List TdReadFunction :=
  (record.sent.filter (·.reader = reader)).map SentRead.request

/-- The object is TDLib's answer to the request of a ticket. -/
def AnswersTicket
    (record : ReadRecord)
    (ticket : Ticket)
    (object : TdApiObject) : Prop :=
  ∃ sent,
    record.sent[ticket]? = some sent ∧ record.Answers sent object

/-- What a ticket may be completed with. -/
def Completes (record : ReadRecord) (held : HeldTicket) : Prop :=
  match held.2 with
  | .fulfilled object => record.AnswersTicket held.1 object
  | .failed error => error ∈ TdReading.closingErrors

/-- Everything in a request state is accounted for. -/
structure Accounts
    (record : ReadRecord)
    (ticket : Ticket)
    (state : RequestState TdApiObject) : Prop where
  response :
    ∀ object,
      state.response = some object → record.AnswersTicket ticket object
  error : state.error ≠ [] → state.error ∈ TdReading.closingErrors
  ready :
    state.ready = true → state.error ≠ [] ∨ state.response.isSome = true

/-- The later record knows everything that the earlier one does. -/
structure Extends (record later : ReadRecord) : Prop where
  sent : record.sent <+: later.sent
  received : record.received ⊆ later.received

theorem extends_receives
    (record : ReadRecord)
    (manager : Nat)
    (response : TdApiResponse) :
    record.Extends (record.receives manager response) :=
  ⟨List.prefix_refl _, List.subset_append_left _ _⟩

theorem extends_asks
    (record : ReadRecord)
    (reader manager requestId : Nat)
    (request : TdReadFunction) :
    record.Extends (record.asks reader manager requestId request) :=
  ⟨List.prefix_append _ _, fun _ => id⟩

section Extends

variable {record later : ReadRecord}
variable {sent : SentRead}
variable {ticket : Ticket}
variable {object : TdApiObject}

theorem Extends.refl (record : ReadRecord) : record.Extends record :=
  ⟨List.prefix_refl _, fun _ => id⟩

theorem Extends.getElem?
    (extension : record.Extends later)
    (found : record.sent[ticket]? = some sent) :
    later.sent[ticket]? = some sent := by
  obtain ⟨added, shape⟩ := extension.sent
  obtain ⟨bound, -⟩ := List.getElem?_eq_some_iff.mp found
  rw [← shape, List.getElem?_append_left bound]
  exact found

theorem Extends.answers
    (extension : record.Extends later)
    (answers : record.Answers sent object) :
    later.Answers sent object := by
  obtain ⟨response, received, answering⟩ := answers
  exact ⟨response, extension.received received, answering⟩

theorem Extends.answered
    (extension : record.Extends later)
    {reader : Nat}
    {request : TdReadFunction}
    (answered : record.Answered reader request object) :
    later.Answered reader request object := by
  obtain ⟨sent, member, own, asked, answers⟩ := answered
  exact ⟨sent, extension.sent.subset member, own, asked,
    extension.answers answers⟩

theorem Extends.answersTicket
    (extension : record.Extends later)
    (answers : record.AnswersTicket ticket object) :
    later.AnswersTicket ticket object := by
  obtain ⟨sent, found, answers⟩ := answers
  exact ⟨sent, extension.getElem? found, extension.answers answers⟩

theorem Extends.completes
    (extension : record.Extends later)
    {held : HeldTicket}
    (completes : record.Completes held) :
    later.Completes held := by
  unfold Completes at completes ⊢
  split at completes
  · exact extension.answersTicket completes
  · exact completes

theorem Extends.accounts
    (extension : record.Extends later)
    {state : RequestState TdApiObject}
    (accounts : record.Accounts ticket state) :
    later.Accounts ticket state where
  response object isResponse :=
    extension.answersTicket (accounts.response object isResponse)
  error := accounts.error
  ready := accounts.ready

/-- Completing a request state keeps it accounted for. -/
theorem Accounts.complete
    {state : RequestState TdApiObject}
    {completion : Completion TdApiObject}
    (accounts : record.Accounts ticket state)
    (completes : record.Completes (ticket, completion)) :
    record.Accounts ticket (completion.apply state) := by
  cases completion with
  | fulfilled answer =>
      exact {
        response := by
          rintro object ⟨⟩
          exact completes
        error := accounts.error
        ready := fun _ => .inr rfl }
  | failed error =>
      exact {
        response := accounts.response
        error := fun _ => completes
        ready := fun _ => .inl (by
          rintro (rfl : error = [])
          have nonempty : [] ∉ TdReading.closingErrors := by decide
          exact nonempty completes) }

end Extends

end ReadRecord

namespace TdAccount

/-- Between two sessions there is no pending read and no receive thread. -/
structure RestsBetweenSessions (account : TdAccount) : Prop where
  empty :
    account.operator.closed = true → account.readRequests.Empty
  alone :
    account.operator.afterJoin = true → account.receiveThread = none

theorem refusesReads_run (calls : List TdAccountCall) :
    (tdAccountMachine.state calls).RefusesReads := by
  induction calls using List.reverseRecOn with
  | nil =>
      exact {
        empty := fun impossible => by cases impossible
        closed := fun impossible => by cases impossible }
  | append_singleton calls call inductionHypothesis =>
      rw [Machine.state_snoc]
      have alone := (guardsSecrets_run calls).joined
      have called := @readStep_step _ {} alone call
      exact refuses_readStep inductionHypothesis called

end TdAccount

/-- Among its readers, too, the account rests between its sessions. -/
theorem restsBetweenSessions_run (calls : List TdReadingCall) :
    (tdReading.state calls).account.RestsBetweenSessions := by
  obtain ⟨own, same, -⟩ := reading_refines_account calls
  rw [same]
  have refuses := TdAccount.refusesReads_run own
  exact {
    empty := fun closed => refuses.empty (refuses.closed closed)
    alone := (TdAccount.guardsSecrets_run own).joined }

namespace TdReading

/-- Responses are only ever delivered to the requests they answer. -/
structure Delivers
    (reading : TdReading)
    (record : ReadRecord) : Prop where
  counted : reading.account.tickets = record.sent.length
  allocated : reading.states.length = record.sent.length
  pending :
    ∀ requestId ticket,
      AList.lookup requestId reading.account.readRequests.requests =
          some ticket →
      ∃ sent,
        record.sent[ticket]? = some sent ∧
          UInt64.ofNat sent.requestId = requestId ∧
            reading.account.manager = some sent.manager
  handled :
    ∀ requestId,
      reading.account.held? = some requestId →
      ∃ manager,
        reading.account.manager = some manager ∧
          (manager, reading.response) ∈ record.received ∧
            UInt64.ofNat reading.response.requestId = requestId
  receiverHolds :
    ∀ held ∈ reading.receiverHolds, record.Completes held
  operatorHolds :
    ∀ held ∈ reading.operatorHolds, record.Completes held
  accounted :
    ∀ (ticket : Ticket) (state : RequestState TdApiObject),
      reading.states[ticket]? = some state → record.Accounts ticket state

section Delivers

variable {before after reading : TdReading}
variable {record later : ReadRecord}

/-- The positions of the readers do not matter. -/
theorem Delivers.readerAt
    (delivers : reading.Delivers record)
    (index : Nat)
    (phase : ReaderPhase) :
    (reading.readerAt index phase).Delivers record :=
  ⟨delivers.counted, delivers.allocated, delivers.pending,
    delivers.handled, delivers.receiverHolds, delivers.operatorHolds,
    delivers.accounted⟩

/-- The account moves and leaves the pending reads to their tickets. -/
theorem Delivers.leaves
    {account : TdAccount}
    (delivers : reading.Delivers record)
    (rests : reading.account.RestsBetweenSessions)
    (leaves : reading.account.LeavesReads account) :
    { reading with account := account }.Delivers record where
  counted := leaves.tickets.trans delivers.counted
  allocated := delivers.allocated
  pending requestId ticket found := by
    rw [leaves.requests] at found
    obtain ⟨sent, isSent, sameId, owned⟩ :=
      delivers.pending requestId ticket found
    rcases leaves.session with keeps | changes
    · exact ⟨sent, isSent, sameId, keeps.manager.trans owned⟩
    · have isPending : requestId ∈ reading.account.readRequests.requests :=
        AList.lookup_isSome.mp (Option.isSome_of_eq_some found)
      exact absurd isPending (rests.empty changes.closed requestId)
  handled requestId isHeld := by
    have wasHeld := leaves.held requestId isHeld
    obtain ⟨manager, owned, received, sameId⟩ :=
      delivers.handled requestId wasHeld
    rcases leaves.session with keeps | changes
    · exact ⟨manager, keeps.manager.trans owned, received, sameId⟩
    · rw [TdAccount.held?, rests.alone changes.joined] at wasHeld
      cases wasHeld
  receiverHolds := delivers.receiverHolds
  operatorHolds := delivers.operatorHolds
  accounted := delivers.accounted

/-- What is known stays known; the pending reads and the response stay. -/
theorem Delivers.extends
    (delivers : reading.Delivers record)
    (extension : record.Extends later)
    (sameLength : later.sent.length = record.sent.length) :
    reading.Delivers later where
  counted := delivers.counted.trans sameLength.symm
  allocated := delivers.allocated.trans sameLength.symm
  pending requestId ticket found := by
    obtain ⟨sent, isSent, pending⟩ :=
      delivers.pending requestId ticket found
    exact ⟨sent, extension.getElem? isSent, pending⟩
  handled requestId isHeld := by
    obtain ⟨manager, owned, received, sameId⟩ :=
      delivers.handled requestId isHeld
    exact ⟨manager, owned, extension.received received, sameId⟩
  receiverHolds held member :=
    extension.completes (delivers.receiverHolds held member)
  operatorHolds held member :=
    extension.completes (delivers.operatorHolds held member)
  accounted ticket state found :=
    extension.accounts (delivers.accounted ticket state found)

/-- A state is completed with what belongs to its ticket. -/
theorem Delivers.complete
    {held : HeldTicket}
    (delivers : reading.Delivers record)
    (completes : record.Completes held) :
    (reading.complete held).Delivers record where
  counted := delivers.counted
  allocated := (List.length_modify ..).trans delivers.allocated
  pending := delivers.pending
  handled := delivers.handled
  receiverHolds := delivers.receiverHolds
  operatorHolds := delivers.operatorHolds
  accounted ticket state found := by
    simp only [TdReading.complete, List.getElem?_modify] at found
    obtain ⟨old, wasFound, rfl⟩ := Option.map_eq_some_iff.mp found
    have accounted := delivers.accounted ticket old wasFound
    split
    · next same =>
        subst same
        exact accounted.complete completes
    · exact accounted

/-- Failing tickets of a closed router is a completion. -/
theorem completes_failedBy
    {error : Bytes}
    {tickets : List Ticket}
    (isClosing : error ∈ closingErrors) :
    ∀ held ∈ failedBy error tickets, record.Completes held := by
  intro held member
  obtain ⟨ticket, -, rfl⟩ := List.mem_map.mp member
  exact isClosing

theorem delivers_receives
    {manager : Nat}
    {response : TdApiResponse}
    (delivers : before.Delivers record)
    (owned : before.account.manager = some manager) :
    { before with
      account := before.account.receiveAt (.routing response.received)
      response := response }.Delivers
        (record.receives manager response) := by
  have known :=
    delivers.extends (record.extends_receives manager response) rfl
  exact {
    counted := known.counted
    allocated := known.allocated
    pending := known.pending
    handled := by
      intro requestId isHeld
      obtain rfl := Option.some.inj isHeld
      exact ⟨manager, owned,
        List.mem_append_right _ List.mem_cons_self, rfl⟩
    receiverHolds := known.receiverHolds
    operatorHolds := known.operatorHolds
    accounted := known.accounted }

/-- The response in hand answers the request that is pending under its id. -/
theorem answersTicket_of_handled
    (delivers : reading.Delivers record)
    {requestId : UInt64}
    {ticket : Ticket}
    (isHeld : reading.account.held? = some requestId)
    (pending :
      AList.lookup requestId reading.account.readRequests.requests =
        some ticket) :
    record.AnswersTicket ticket reading.response.object := by
  obtain ⟨sent, found, sentUnder, ofManager⟩ :=
    delivers.pending requestId ticket pending
  obtain ⟨manager, owned, received, receivedUnder⟩ :=
    delivers.handled requestId isHeld
  rw [ofManager, Option.some.injEq] at owned
  subst owned
  exact ⟨sent, found, reading.response, received,
    receivedUnder.trans sentUnder.symm, rfl⟩

theorem delivers_opens
    {index manager : Nat}
    {request : TdReadFunction}
    (delivers : before.Delivers record)
    (owned : before.account.manager = some manager)
    (free :
      UInt64.ofNat before.account.nextRequestId ∉
        before.account.readRequests.requests) :
    before.opens.Delivers
      (record.asks index manager before.account.nextRequestId
        request) := by
  have extension :=
    record.extends_asks index manager before.account.nextRequestId request
  exact {
    counted := by
      simp [opens, ReadRecord.asks, TdAccount.afterRead, delivers.counted]
    allocated := by
      simp [opens, ReadRecord.asks, delivers.allocated]
    pending := by
      intro requestId ticket found
      simp only [opens, TdAccount.afterRead,
        UnorderedMap.lookup_emplace] at found
      split at found
      · next isNext =>
          subst isNext
          rw [AList.lookup_eq_none.mpr free, Option.none_or,
            Option.some.injEq, delivers.counted] at found
          subst found
          exact ⟨_, List.getElem?_concat_length, rfl, owned⟩
      · obtain ⟨sent, isSent, pending⟩ :=
          delivers.pending requestId ticket found
        exact ⟨sent, extension.getElem? isSent, pending⟩
    handled := by
      intro requestId isHeld
      exact delivers.handled requestId isHeld
    receiverHolds := fun held member =>
      extension.completes (delivers.receiverHolds held member)
    operatorHolds := fun held member =>
      extension.completes (delivers.operatorHolds held member)
    accounted := by
      intro ticket state found
      simp only [opens, List.getElem?_append] at found
      split at found
      · exact extension.accounts (delivers.accounted ticket state found)
      · obtain rfl := List.mem_singleton.mp (List.mem_of_getElem? found)
        exact {
          response := fun _ impossible => by cases impossible
          error := fun impossible => absurd rfl impossible
          ready := fun impossible => by cases impossible } }

/-- The pending reads of a router after some have been taken out of it. -/
theorem Delivers.takes
    {account : TdAccount}
    (delivers : reading.Delivers record)
    (tickets : account.tickets = reading.account.tickets)
    (manager : account.manager = reading.account.manager)
    (fewer :
      ∀ requestId ticket,
        AList.lookup requestId account.readRequests.requests =
            some ticket →
        AList.lookup requestId reading.account.readRequests.requests =
            some ticket)
    (held :
      ∀ requestId,
        account.held? = some requestId →
        reading.account.held? = some requestId) :
    { reading with account := account }.Delivers record where
  counted := tickets.trans delivers.counted
  allocated := delivers.allocated
  pending requestId ticket found := by
    obtain ⟨sent, isSent, sameId, owned⟩ :=
      delivers.pending requestId ticket (fewer requestId ticket found)
    exact ⟨sent, isSent, sameId, manager.trans owned⟩
  handled requestId isHeld := by
    obtain ⟨owner, owned, received⟩ :=
      delivers.handled requestId (held requestId isHeld)
    exact ⟨owner, manager.trans owned, received⟩
  receiverHolds := delivers.receiverHolds
  operatorHolds := delivers.operatorHolds
  accounted := delivers.accounted

/-- Every step delivers responses to the requests they answer. -/
theorem delivers_step
    (delivers : before.Delivers record)
    (rests : before.account.RestsBetweenSessions)
    {call : TdReadingCall}
    (step : ReadingStep before record call after later) :
    after.Delivers later := by
  cases step with
  | leaves leaves =>
      exact delivers.leaves rests leaves
  | @operatorCloses account iteration free complete router tickets
      keeps thread =>
      have taken : { before with account := account }.Delivers record := by
        refine delivers.takes tickets keeps.manager ?_ ?_
        · intro requestId ticket found
          rw [router, RequestRouter.requests_close] at found
          cases found
        · intro requestId isHeld
          rwa [TdAccount.held?, thread] at isHeld
      exact { taken with
        operatorHolds := completes_failedBy (.head _) }
  | @receiverCloses account iteration free complete router tickets
      keeps unheld =>
      have taken : { before with account := account }.Delivers record := by
        refine delivers.takes tickets keeps.manager ?_ ?_
        · intro requestId ticket found
          rw [router, RequestRouter.requests_close] at found
          cases found
        · intro requestId isHeld
          rw [unheld] at isHeld
          cases isHeld
      exact { taken with
        receiverHolds := completes_failedBy (.tail _ (.head _)) }
  | receives here owned =>
      exact delivers_receives delivers owned
  | @fulfils requestId ticket here free pending =>
      have isHeld :
          before.account.held? = some (UInt64.ofNat requestId) := by
        rw [TdAccount.held?, here]
        rfl
      have answers := answersTicket_of_handled delivers isHeld pending
      have taken :
          { before with
            account :=
              { before.account with
                readRequests :=
                  { before.account.readRequests with
                    requests :=
                      before.account.readRequests.requests.erase
                        (UInt64.ofNat requestId) } }.receiveAt .checking
          }.Delivers record := by
        refine delivers.takes rfl rfl ?_ ?_
        · intro other otherTicket found
          exact (UnorderedMap.lookup_erase_eq_some_iff.mp found).2
        · intro other isHeld
          cases isHeld
      exact { taken with
        receiverHolds := by
          intro held member
          obtain rfl := List.mem_singleton.mp member
          exact answers }
  | operatorCompletes holds =>
      have completed :=
        delivers.complete
          (delivers.operatorHolds _ (holds ▸ List.mem_cons_self))
      exact { completed with
        operatorHolds := fun held member =>
          delivers.operatorHolds held
            (holds ▸ List.mem_cons_of_mem _ member) }
  | receiverCompletes holds =>
      have completed :=
        delivers.complete
          (delivers.receiverHolds _ (holds ▸ List.mem_cons_self))
      exact { completed with
        receiverHolds := fun held member =>
          delivers.receiverHolds held
            (holds ▸ List.mem_cons_of_mem _ member) }
  | enters =>
      exact ⟨delivers.counted, delivers.allocated, delivers.pending,
        delivers.handled, delivers.receiverHolds, delivers.operatorHolds,
        delivers.accounted⟩
  | begins | resumes | expires =>
      exact delivers.readerAt _ _
  | refuses found here refusal leaves =>
      exact (delivers.leaves rests leaves).readerAt _ _
  | asks found here owned accepting free =>
      exact (delivers_opens delivers owned free).readerAt _ _
  | @timesOut index reader inquiry requestId ticket found here =>
      have taken :
          { before with
            account := (before.account.timeOutRead requestId ticket).1
          }.Delivers record := by
        refine delivers.takes rfl rfl ?_ fun _ => id
        intro other otherTicket pending
        exact (RequestRouter.lookup_unregisterTimedOut_eq_some_iff.mp
          pending).1
      exact taken.readerAt _ _

end Delivers

end TdReading

/-- In every run responses are delivered to the requests they answer. -/
theorem delivers_run (calls : List TdReadingCall) :
    (tdReading.state calls).Delivers
      (readRecord (tdReading.history calls)) := by
  induction calls using List.reverseRecOn with
  | nil =>
      exact {
        counted := rfl
        allocated := rfl
        pending := fun _ _ impossible => by cases impossible
        handled := fun _ impossible => by cases impossible
        receiverHolds := fun _ impossible => by cases impossible
        operatorHolds := fun _ impossible => by cases impossible
        accounted := fun _ _ impossible => by cases impossible }
  | append_singleton calls call inductionHypothesis =>
      rw [Machine.state_snoc, Machine.history_snoc, readRecord_snoc]
      exact TdReading.delivers_step inductionHypothesis
        (restsBetweenSessions_run calls)
        (TdReading.readingStep _ _ call)

end TgGate
