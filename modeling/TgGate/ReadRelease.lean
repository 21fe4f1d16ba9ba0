import TgGate.ReadOutcomes
import TgGate.StopProgress

namespace TgGate

open Library

/-!
# A stopped account leaves no reader waiting

Until a reader gives up, its ticket is in the router, in the hands of a thread
that is about to complete it, or completed.  `stop` empties the router and
completes what it took out before it joins the receive thread, and the receive
thread does not end while it still holds a ticket.  When the manager is gone
nothing is left to wait for.
-/

namespace TdReading

/-- Where the ticket of a waiting reader is. -/
inductive Custody
    (reading : TdReading)
    (requestId : Nat)
    (ticket : Ticket) : Prop where
  | pending
      (found :
        AList.lookup (UInt64.ofNat requestId)
            reading.account.readRequests.requests =
          some ticket)
  | receiver
      {completion : Completion TdApiObject}
      (member : (ticket, completion) ∈ reading.receiverHolds)
  | operator
      {completion : Completion TdApiObject}
      (member : (ticket, completion) ∈ reading.operatorHolds)
  | ready
      (ready : (reading.requestState ticket).ready = true)

/-- Every waiting reader's ticket is taken care of. -/
def Tends (reading : TdReading) : Prop :=
  ∀ (index : Nat) (reader : Reader)
    (inquiry : Inquiry) (requestId : Nat) (ticket : Ticket),
    reading.readers[index]? = some reader →
    reader.phase = .waiting inquiry requestId ticket →
    reading.Custody requestId ticket

section Custody

variable {before after reading : TdReading}
variable {record later : ReadRecord}
variable {requestId : Nat}
variable {ticket : Ticket}

/-- The pending reads, the holdings and the request states are the same. -/
theorem Custody.of_same
    (custody : before.Custody requestId ticket)
    (requests :
      after.account.readRequests.requests =
        before.account.readRequests.requests)
    (receiver : after.receiverHolds = before.receiverHolds)
    (operator : after.operatorHolds = before.operatorHolds)
    (states : after.states = before.states) :
    after.Custody requestId ticket := by
  cases custody with
  | pending found =>
      exact .pending (requests ▸ found)
  | receiver member =>
      exact .receiver (receiver ▸ member)
  | operator member =>
      exact .operator (operator ▸ member)
  | ready ready =>
      refine .ready ?_
      rw [requestState, states]
      exact ready

/-- Completing makes the ticket ready and leaves the others as they are. -/
theorem ready_complete
    {held : HeldTicket}
    (kept :
      (reading.requestState ticket).ready = true ∨
        held.1 = ticket ∧ ticket < reading.states.length) :
    ((reading.complete held).requestState ticket).ready = true := by
  have applied (state : RequestState TdApiObject) :
      (held.2.apply state).ready = true := by
    cases held.2 <;> rfl
  simp only [requestState, complete, List.getElem?_modify]
  rcases kept with ready | ⟨rfl, allocated⟩
  · unfold requestState at ready
    cases found : reading.states[ticket]? with
    | none =>
        rw [found] at ready
        cases ready
    | some state =>
        rw [found] at ready
        simp only [Option.map_eq_map, Option.map_some,
          Option.getD_some] at ready ⊢
        split
        · exact applied state
        · exact ready
  · rw [List.getElem?_eq_getElem allocated]
    simp [applied]

/-- Taking tickets out of a closing router hands over every pending one. -/
theorem mem_failedBy_close
    {router : RequestRouter}
    {iteration : List UInt64}
    {key : UInt64}
    (error : Bytes)
    (complete : iteration.Perm router.requests.keys)
    (found : AList.lookup key router.requests = some ticket) :
    (ticket, .failed error) ∈
      failedBy error (router.close iteration).1 := by
  have listed : key ∈ iteration := by
    rw [complete.mem_iff]
    exact AList.mem_keys.mp
      (AList.lookup_isSome.mp (Option.isSome_of_eq_some found))
  exact List.mem_map_of_mem
    (List.mem_filterMap.mpr ⟨key, listed, found⟩)

/-- A step keeps a ticket in custody unless its own reader gives up. -/
theorem custody_step
    (custody : before.Custody requestId ticket)
    (allocated : ticket < before.states.length)
    (unexpired :
      ∀ (index : Nat) (reader : Reader)
        (inquiry : Inquiry) (otherId : Nat),
        before.readers[index]? = some reader →
        reader.phase ≠ .expired inquiry otherId ticket)
    {call : TdReadingCall}
    (step : ReadingStep before record call after later) :
    after.Custody requestId ticket := by
  cases step with
  | leaves leaves | refuses found here refusal leaves =>
      exact custody.of_same leaves.requests rfl rfl rfl
  | receives | enters | begins | resumes | expires =>
      exact custody.of_same rfl rfl rfl rfl
  | operatorCloses free complete router =>
      cases custody with
      | pending found =>
          exact .operator (mem_failedBy_close _ complete found)
      | receiver member =>
          exact .receiver member
      | operator member =>
          rw [free] at member
          cases member
      | ready ready =>
          exact .ready ready
  | receiverCloses free complete router =>
      cases custody with
      | pending found =>
          exact .receiver (mem_failedBy_close _ complete found)
      | receiver member =>
          rw [free] at member
          cases member
      | operator member =>
          exact .operator member
      | ready ready =>
          exact .ready ready
  | @fulfils otherId otherTicket here free pending =>
      cases custody with
      | pending found =>
          by_cases same : UInt64.ofNat requestId = UInt64.ofNat otherId
          · rw [same, pending, Option.some.injEq] at found
            subst found
            exact .receiver List.mem_cons_self
          · exact .pending
              (UnorderedMap.lookup_erase_eq_some_iff.mpr ⟨same, found⟩)
      | receiver member =>
          rw [free] at member
          cases member
      | operator member =>
          exact .operator member
      | ready ready =>
          exact .ready ready
  | @operatorCompletes held rest holds =>
      cases custody with
      | pending found =>
          exact .pending found
      | receiver member =>
          exact .receiver member
      | operator member =>
          rw [holds] at member
          rcases List.mem_cons.mp member with rfl | member
          · exact .ready (ready_complete (.inr ⟨rfl, allocated⟩))
          · exact .operator member
      | ready ready =>
          exact .ready (ready_complete (.inl ready))
  | @receiverCompletes held rest holds =>
      cases custody with
      | pending found =>
          exact .pending found
      | receiver member =>
          rw [holds] at member
          rcases List.mem_cons.mp member with rfl | member
          · exact .ready (ready_complete (.inr ⟨rfl, allocated⟩))
          · exact .receiver member
      | operator member =>
          exact .operator member
      | ready ready =>
          exact .ready (ready_complete (.inl ready))
  | asks found here owned accepting free =>
      cases custody with
      | pending found =>
          refine .pending ?_
          have isOther :
              UInt64.ofNat requestId ≠
                UInt64.ofNat before.account.nextRequestId := by
            intro same
            rw [same, AList.lookup_eq_none.mpr free] at found
            cases found
          simpa [opens, TdAccount.afterRead, isOther] using found
      | receiver member =>
          exact .receiver member
      | operator member =>
          exact .operator member
      | ready ready =>
          refine .ready ?_
          simp only [requestState, readerAt, opens] at ready ⊢
          rwa [List.getElem?_append_left allocated]
  | @timesOut index reader inquiry otherId otherTicket found here =>
      cases custody with
      | pending isPending =>
          refine .pending
            (RequestRouter.lookup_unregisterTimedOut_eq_some_iff.mpr
              ⟨isPending, ?_⟩)
          rintro ⟨-, rfl⟩
          exact unexpired index reader inquiry otherId found here
      | receiver member =>
          exact .receiver member
      | operator member =>
          exact .operator member
      | ready ready =>
          exact .ready ready

end Custody

section Tends

variable {before after reading : TdReading}
variable {record later : ReadRecord}
variable {caused : ReadCause → Prop}

/-- After a turn nobody waits. -/
theorem ofTurn_ne_waiting
    {turn : ReadTurn}
    {inquiry : Inquiry}
    {requestId : Nat}
    {ticket : Ticket} :
    ReaderPhase.ofTurn turn ≠ .waiting inquiry requestId ticket := by
  cases turn <;> exact fun impossible => by cases impossible

/-- After `wait` nobody waits. -/
theorem afterWait_ne_waiting
    {asked inquiry : Inquiry}
    {result : RequestRouter.Result TdApiObject}
    {requestId : Nat}
    {ticket : Ticket} :
    ReaderPhase.afterWait asked result ≠
      .waiting inquiry requestId ticket := by
  unfold ReaderPhase.afterWait
  split
  · exact fun impossible => by cases impossible
  · exact ofTurn_ne_waiting

/-- Who waits after one reader moved did so before, unless it is that one. -/
theorem waiting_readerAt
    {index other : Nat}
    {phase : ReaderPhase}
    {reader : Reader}
    (found : (reading.readerAt index phase).readers[other]? = some reader) :
    reader.phase = phase ∨ reading.readers[other]? = some reader := by
  simp only [readerAt, List.getElem?_modify] at found
  obtain ⟨old, wasFound, rfl⟩ := Option.map_eq_some_iff.mp found
  split
  · exact .inl rfl
  · exact .inr wasFound

/-- The ticket that a reader waits for is its own. -/
theorem Explains.sent_of_waiting
    (explains : reading.Explains record caused)
    {index : Nat}
    {reader : Reader}
    {inquiry : Inquiry}
    {requestId : Nat}
    {ticket : Ticket}
    (found : reading.readers[index]? = some reader)
    (waits :
      reader.phase = .waiting inquiry requestId ticket ∨
        reader.phase = .expired inquiry requestId ticket) :
    ∃ sent,
      record.sent[ticket]? = some sent ∧ sent.reader = index := by
  have explained := explains.explained index reader found
  rcases waits with here | here
  · rw [here] at explained
    obtain ⟨answers, reaches, requested, sent, isSent, own, -⟩ := explained
    exact ⟨sent, isSent, own⟩
  · rw [here] at explained
    obtain ⟨answers, reaches, requested, sends, -⟩ := explained
    obtain ⟨sent, isSent, own, -⟩ := sends
    exact ⟨sent, isSent, own⟩

/-- Every step keeps the tickets of the waiting readers in custody. -/
theorem tends_step
    (tends : before.Tends)
    (delivers : before.Delivers record)
    (explains : before.Explains record caused)
    {call : TdReadingCall}
    (step : ReadingStep before record call after later) :
    after.Tends := by
  intro index reader inquiry requestId ticket found waits
  -- A reader that waited before the step keeps its ticket in custody.
  have kept
      (wasFound : before.readers[index]? = some reader) :
      after.Custody requestId ticket := by
    obtain ⟨sent, isSent, own⟩ :=
      explains.sent_of_waiting wasFound (.inl waits)
    have allocated : ticket < before.states.length := by
      rw [delivers.allocated]
      exact (List.getElem?_eq_some_iff.mp isSent).1
    refine custody_step
      (tends index reader inquiry requestId ticket wasFound waits)
      allocated ?_ step
    intro other expired otherInquiry otherId isFound isExpired
    obtain ⟨otherSent, isOtherSent, otherOwn⟩ :=
      explains.sent_of_waiting isFound (.inr isExpired)
    obtain rfl : sent = otherSent :=
      Option.some.inj (isSent.symm.trans isOtherSent)
    rw [← otherOwn, own, wasFound] at isFound
    obtain rfl := Option.some.inj isFound
    rw [waits] at isExpired
    cases isExpired
  cases step with
  | leaves | operatorCloses | receiverCloses | receives | fulfils
  | operatorCompletes | receiverCompletes =>
      exact kept found
  | enters =>
      rw [List.getElem?_append] at found
      split at found
      · exact kept found
      · obtain rfl := List.mem_singleton.mp (List.mem_of_getElem? found)
        cases waits
  | begins | resumes | expires | refuses | timesOut =>
      rcases waiting_readerAt found with moved | wasFound
      · rw [waits] at moved
        first
          | exact absurd moved.symm ofTurn_ne_waiting
          | exact absurd moved.symm afterWait_ne_waiting
          | cases moved
      · exact kept wasFound
  | asks isFound here owned accepting free =>
      rcases waiting_readerAt found with moved | wasFound
      · rw [waits] at moved
        cases moved
        refine .pending ?_
        simp [opens, readerAt, TdAccount.afterRead,
          AList.lookup_eq_none.mpr free]
      · exact kept wasFound

end Tends

end TdReading

theorem tends_run (calls : List TdReadingCall) :
    (tdReading.state calls).Tends := by
  induction calls using List.reverseRecOn with
  | nil =>
      intro index reader inquiry requestId ticket impossible
      cases impossible
  | append_singleton calls call inductionHypothesis =>
      rw [Machine.state_snoc]
      exact TdReading.tends_step inductionHypothesis (delivers_run calls)
        (explains_run calls) (TdReading.readingStep _ _ call)

namespace TdReading

/-- A thread that holds tickets is not past the part that took them out. -/
structure HoldsTickets (reading : TdReading) : Prop where
  receiver :
    reading.receiverHolds ≠ [] →
    ∃ phase,
      reading.account.receiveThread = some phase ∧ phase ≠ .finished
  operator :
    reading.operatorHolds ≠ [] →
    ∃ next? manager,
      reading.account.operator = .stopping .joining next? ∧
        reading.account.manager = some manager

section HoldsTickets

variable {reading : TdReading}
variable {record : ReadRecord}
variable {call : TdReadingCall}

/-- Only the receive thread's own steps change what it holds. -/
theorem receiverHolds_step
    (notReceive : ∀ response? iteration, call ≠ .receive response? iteration) :
    (reading.step call).1.receiverHolds = reading.receiverHolds := by
  cases call with
  | beginAuthorization | stop | submitCode | submitPassword | enterRead =>
      rfl
  | operator supply =>
      simp only [step, advanceOperator]
      split <;> rfl
  | receive response? iteration =>
      exact absurd rfl (notReceive response? iteration)
  | read index =>
      simp only [step]
      split
      · rfl
      · unfold advanceReader
        split
        · rfl
        · simp only [requestRead]
          split <;> rfl
        all_goals rfl

/-- Only the operator's thread's own steps change what it holds. -/
theorem operatorHolds_step
    (notOperator : ∀ supply, call ≠ .operator supply) :
    (reading.step call).1.operatorHolds = reading.operatorHolds := by
  cases call with
  | beginAuthorization | stop | submitCode | submitPassword | enterRead =>
      rfl
  | operator supply =>
      exact absurd rfl (notOperator supply)
  | receive response? iteration =>
      simp only [step, advanceReceiver]
      split
      · rfl
      · rfl
      · unfold advanceLoop
        split
        · dsimp only
          split <;> rfl
        · rfl
  | read index =>
      simp only [step]
      split
      · rfl
      · unfold advanceReader
        split
        · rfl
        · simp only [requestRead]
          split <;> rfl
        all_goals rfl

/-- The loop takes tickets out before its last check. -/
theorem unfinished_advanceLoop
    {phase : ReceivePhase}
    {response? : Option TdApiResponse}
    {iteration : List UInt64}
    (here : reading.account.receiveThread = some phase)
    (free : reading.receiverHolds = [])
    (nonempty :
      (reading.advanceLoop response? iteration phase).1.receiverHolds ≠
        []) :
    ∃ next,
      (reading.advanceLoop response? iteration
          phase).1.account.receiveThread = some next ∧
        next ≠ .finished := by
  cases phase with
  | receiving =>
      simp only [advanceLoop] at nonempty
      split at nonempty <;> exact absurd free nonempty
  | fulfilling requestId =>
      simp only [advanceLoop, TdAccount.step, here]
      exact ⟨.checking, rfl, fun impossible => by cases impossible⟩
  | failingReads =>
      simp only [advanceLoop, TdAccount.step, here, received,
        TdAccount.failedTickets, TdAccount.advanceReceive] at nonempty ⊢
      cases isFailed :
          TdAccount.failReadRequests? { iteration } reading.account with
      | none =>
          rw [isFailed] at nonempty
          exact absurd rfl nonempty
      | some failed =>
          exact ⟨.finishing, rfl, fun impossible => by cases impossible⟩
  | _ =>
      exact absurd rfl nonempty

theorem receiver_step
    (holds : reading.HoldsTickets)
    (alone :
      reading.account.operator.afterJoin = true →
      reading.account.receiveThread = none)
    (nonempty : (reading.step call).1.receiverHolds ≠ []) :
    ∃ phase,
      (reading.step call).1.account.receiveThread = some phase ∧
        phase ≠ .finished := by
  by_cases isReceive :
      ∃ response? iteration, call = .receive response? iteration
  · obtain ⟨response?, iteration, rfl⟩ := isReceive
    simp only [step, advanceReceiver] at nonempty ⊢
    cases held : reading.receiverHolds with
    | cons first rest =>
        exact holds.receiver (held ▸ List.cons_ne_nil _ _)
    | nil =>
        rw [held] at nonempty
        cases here : reading.account.receiveThread with
        | none =>
            rw [here] at nonempty
            exact absurd held nonempty
        | some phase =>
            rw [here] at nonempty
            exact unfinished_advanceLoop here held nonempty
  · have notReceive :
        ∀ response? iteration, call ≠ .receive response? iteration :=
      fun response? iteration same =>
        isReceive ⟨response?, iteration, same⟩
    rw [receiverHolds_step notReceive] at nonempty
    obtain ⟨phase, here, unfinished⟩ := holds.receiver nonempty
    refine ⟨phase, ?_, unfinished⟩
    rw [(step_refines call).1]
    cases contains : reading.accountCall? call with
    | none =>
        exact here
    | some own =>
        refine TdAccount.receiveThread_of_threadStep
          (TdAccount.threadStep_step reading.account own) ?_ alone here
          unfinished
        intro supply same
        exact isReceive ((call_of_accountCall contains).2 supply same)

/-- The tickets of a closing router belong to its manager. -/
theorem manager_of_closed
    (delivers : reading.Delivers record)
    {iteration : List UInt64}
    (nonempty : (reading.account.readRequests.close iteration).1 ≠ []) :
    ∃ manager, reading.account.manager = some manager := by
  obtain ⟨ticket, rest, shape⟩ := List.exists_cons_of_ne_nil nonempty
  have member :
      ticket ∈ (reading.account.readRequests.close iteration).1 :=
    shape ▸ List.mem_cons_self
  obtain ⟨requestId, -, pending⟩ := List.mem_filterMap.mp member
  obtain ⟨sent, -, -, owned⟩ := delivers.pending requestId ticket pending
  exact ⟨sent.manager, owned⟩

theorem operator_step
    (holds : reading.HoldsTickets)
    (delivers : reading.Delivers record)
    (nonempty : (reading.step call).1.operatorHolds ≠ []) :
    ∃ next? manager,
      (reading.step call).1.account.operator =
          .stopping .joining next? ∧
        (reading.step call).1.account.manager = some manager := by
  by_cases isOperator : ∃ supply, call = .operator supply
  · obtain ⟨supply, rfl⟩ := isOperator
    simp only [step, advanceOperator] at nonempty ⊢
    cases held : reading.operatorHolds with
    | cons first rest =>
        exact holds.operator (held ▸ List.cons_ne_nil _ _)
    | nil =>
        rw [held] at nonempty
        simp only at nonempty
        split at nonempty
        · next next? here =>
            simp only [TdAccount.step, here, TdAccount.advanceOperator,
              TdAccount.advanceStop]
            unfold TdAccount.failedTickets at nonempty
            cases isFailed : reading.account.failReadRequests? supply with
            | none =>
                rw [isFailed] at nonempty
                exact absurd rfl nonempty
            | some failed =>
                rw [isFailed] at nonempty
                obtain ⟨manager, owned⟩ :=
                  manager_of_closed delivers
                    (fun none => nonempty (by rw [none]; rfl))
                rw [TdAccount.eq_of_failReadRequests? isFailed]
                exact ⟨next?, manager, rfl, owned⟩
        · exact absurd rfl nonempty
  · have notOperator : ∀ supply, call ≠ .operator supply :=
      fun supply same => isOperator ⟨supply, same⟩
    rw [operatorHolds_step notOperator] at nonempty
    obtain ⟨next?, manager, joining, owned⟩ := holds.operator nonempty
    refine ⟨next?, manager, ?_⟩
    rw [(step_refines call).1]
    cases contains : reading.accountCall? call with
    | none =>
        exact ⟨joining, owned⟩
    | some own =>
        constructor
        · refine (TdAccount.operator_step_of_busy ?_ ?_).trans joining
          · rw [joining]
            exact fun impossible => by cases impossible
          · intro supply same
            exact isOperator
              ⟨supply, (call_of_accountCall contains).1 supply same⟩
        · exact (TdAccount.manager_of_threadStep
            (TdAccount.threadStep_step reading.account own)
            joining).trans owned

end HoldsTickets

end TdReading

theorem holdsTickets_run (calls : List TdReadingCall) :
    (tdReading.state calls).HoldsTickets := by
  induction calls using List.reverseRecOn with
  | nil =>
      exact {
        receiver := fun impossible => absurd rfl impossible
        operator := fun impossible => absurd rfl impossible }
  | append_singleton calls call inductionHypothesis =>
      rw [Machine.state_snoc]
      exact {
        receiver :=
          TdReading.receiver_step inductionHypothesis
            (restsBetweenSessions_run calls).alone
        operator :=
          TdReading.operator_step inductionHypothesis
            (delivers_run calls) }

/-- Without a manager every waiting reader's ticket has been completed. -/
theorem ready_of_unowned
    {calls : List TdReadingCall}
    (unowned : (tdReading.state calls).account.manager = none)
    {index : Nat}
    {reader : Reader}
    {inquiry : Inquiry}
    {requestId : Nat}
    {ticket : Ticket}
    (found : (tdReading.state calls).readers[index]? = some reader)
    (waits : reader.phase = .waiting inquiry requestId ticket) :
    ((tdReading.state calls).requestState ticket).ready = true := by
  have holds := holdsTickets_run calls
  cases tends_run calls index reader inquiry requestId ticket found
    waits with
  | pending isPending =>
      obtain ⟨sent, -, -, owned⟩ :=
        (delivers_run calls).pending _ _ isPending
      rw [unowned] at owned
      cases owned
  | receiver member =>
      obtain ⟨phase, here, -⟩ :=
        holds.receiver (List.ne_nil_of_mem member)
      obtain ⟨own, same, -⟩ := reading_refines_account calls
      have owned :=
        (TdAccount.ownsManager_run own).thread phase (same ▸ here)
      rw [← same, unowned] at owned
      cases owned
  | operator member =>
      obtain ⟨next?, manager, -, owned⟩ :=
        holds.operator (List.ne_nil_of_mem member)
      rw [unowned] at owned
      cases owned
  | ready ready =>
      exact ready

namespace TdReading

/-- The reader is about to ask or has returned. -/
inductive AsksOrReturns : ReaderPhase → Prop where
  | asks (inquiry : Inquiry) : AsksOrReturns (.requesting inquiry)
  | returns (result : Result ReadValue) : AsksOrReturns (.returned result)

theorem asksOrReturns_ofTurn (turn : ReadTurn) :
    AsksOrReturns (.ofTurn turn) := by
  cases turn with
  | asks inquiry =>
      exact .asks inquiry
  | returns result =>
      exact .returns result

theorem asksOrReturns_afterWait
    (inquiry : Inquiry)
    (result : RequestRouter.Result TdApiObject) :
    AsksOrReturns (.afterWait inquiry result) := by
  unfold ReaderPhase.afterWait
  split
  · exact .returns _
  · exact asksOrReturns_ofTurn _

section Returning

variable {reading : TdReading}
variable {index : Nat}
variable {reader : Reader}

theorem getElem?_readerAt
    (found : reading.readers[index]? = some reader)
    (phase : ReaderPhase) :
    (reading.readerAt index phase).readers[index]? =
      some { reader with phase := phase } := by
  simp [readerAt, found]

/-- Without a manager nothing is sent. -/
theorem requestRead_of_unowned
    (unowned : reading.account.manager = none)
    (inquiry : Inquiry) :
    (reading.requestRead index inquiry).1 =
      reading.readerAt index
        (.returned
          (.error (bytes "Telegram account is not authorized"))) := by
  have refused :
      reading.account.requestRead inquiry.request =
        (reading.account,
          .refused (bytes "Telegram account is not authorized")) := by
    unfold TdAccount.requestRead
    rw [if_pos]
    simp [unowned]
  simp only [requestRead, refused]

/-- The reader goes on, and the account stays without a manager. -/
theorem step_read_of_unowned
    (unowned : reading.account.manager = none)
    (found : reading.readers[index]? = some reader)
    (ready :
      ∀ inquiry requestId ticket,
        reader.phase = .waiting inquiry requestId ticket →
        (reading.requestState ticket).ready = true) :
    (reading.step (.read index)).1.account.manager = none ∧
      ∃ phase,
        (reading.step (.read index)).1.readers[index]? =
            some { reader with phase := phase } ∧
          AsksOrReturns phase := by
  have goes
      {next : TdReading}
      {phase : ReaderPhase}
      (same : next.readers = reading.readers)
      (asksOrReturns : AsksOrReturns phase) :
      ∃ other,
        (next.readerAt index phase).readers[index]? =
            some { reader with phase := other } ∧
          AsksOrReturns other :=
    ⟨phase, getElem?_readerAt (same ▸ found) phase, asksOrReturns⟩
  simp only [step, found]
  unfold advanceReader
  cases here : reader.phase with
  | entering =>
      exact ⟨unowned, goes rfl (asksOrReturns_ofTurn _)⟩
  | requesting inquiry =>
      simp only [requestRead_of_unowned unowned]
      exact ⟨unowned, goes rfl (.returns _)⟩
  | waiting inquiry requestId ticket =>
      simp only [ready inquiry requestId ticket here, ↓reduceIte]
      exact ⟨unowned, goes rfl (asksOrReturns_afterWait _ _)⟩
  | expired inquiry requestId ticket =>
      exact ⟨unowned, goes rfl (asksOrReturns_afterWait _ _)⟩
  | returned result =>
      exact ⟨unowned, .returned result, by rw [found, ← here],
        .returns result⟩

/-- A reader that asks without a manager returns, and so it stays. -/
theorem step_read_of_asksOrReturns
    (unowned : reading.account.manager = none)
    (found : reading.readers[index]? = some reader)
    (asksOrReturns : AsksOrReturns reader.phase) :
    ∃ result,
      (reading.step (.read index)).1.readers[index]? =
        some { reader with phase := .returned result } := by
  simp only [step, found]
  unfold advanceReader
  cases here : reader.phase with
  | requesting inquiry =>
      simp only [requestRead_of_unowned unowned]
      exact ⟨_, getElem?_readerAt found _⟩
  | returned result =>
      exact ⟨result, by rw [found, ← here]⟩
  | entering | waiting | expired =>
      rw [here] at asksOrReturns
      cases asksOrReturns

end Returning

end TdReading

/--
When an account has been stopped, no reader is left waiting: the request of one
that waits has been completed, and wherever a call of `list_chats` or
`get_messages` is, it returns within two of its own steps.
-/
theorem stopped_readers_return
    {calls : List TdReadingCall}
    (stopped : (tdReading.state calls).account.manager = none)
    {index : Nat}
    {reader : Reader}
    (found : (tdReading.state calls).readers[index]? = some reader) :
    (∀ inquiry requestId ticket,
      reader.phase = .waiting inquiry requestId ticket →
      ((tdReading.state calls).requestState ticket).ready = true) ∧
    ∃ result,
      (tdReading.state
          (calls ++ [.read index] ++ [.read index])).readers[index]? =
        some { reader with phase := .returned result } := by
  have ready :
      ∀ inquiry requestId ticket,
        reader.phase = .waiting inquiry requestId ticket →
        ((tdReading.state calls).requestState ticket).ready = true :=
    fun _ _ _ waits => ready_of_unowned stopped found waits
  obtain ⟨stillStopped, phase, isFound, asksOrReturns⟩ :=
    TdReading.step_read_of_unowned stopped found ready
  have returns :=
    TdReading.step_read_of_asksOrReturns stillStopped isFound
      asksOrReturns
  rw [Machine.state_snoc, Machine.state_snoc]
  exact ⟨ready, returns⟩

/-- The operator stops an account while a reader waits for its chats. -/
def stoppedReading : List TdReadingCall :=
  authorizedReading ++ [.enterRead .listChats, .read 0, .read 0] ++
    [.stop, .operator {}, .operator { iteration := [2] }, .operator {}] ++
    [.receive none [],
      .receive (some {
        requestId := 0
        object := .updateAuthorizationState (some .closed) }) []] ++
    List.replicate 7 (.receive none []) ++
    List.replicate 2 (.operator {})

theorem readers_stoppedReading :
    (tdReading.state stoppedReading).readers[0]? =
      some { call := .listChats, phase := .waiting .chats 2 0 } :=
  rfl

theorem stopped_readers_return_stopped :
    ((tdReading.state stoppedReading).requestState 0).ready = true ∧
    ∃ result,
      (tdReading.state
          (stoppedReading ++ [.read 0] ++ [.read 0])).readers[0]? =
        some { call := .listChats, phase := .returned result } := by
  obtain ⟨ready, returns⟩ :=
    stopped_readers_return (by decide +kernel) readers_stoppedReading
  exact ⟨ready .chats 2 0 rfl, returns⟩

end TgGate
