import TgGate.ReadCauses

namespace TgGate

open Library

/-!
# What a read returns

Reading is sequential for the caller and concurrent underneath.  In every
interleaving a call sends the requests of its function in their order, and what
it returns is what the function makes of TDLib's answers to these very requests,
or the one error that cut it short.
-/

/-- The answers so far bring the function of a reader to an inquiry. -/
structure ReadRecord.Reaches
    (record : ReadRecord)
    (index : Nat)
    (call : ReadCall)
    (answers : List TdApiObject)
    (inquiry : Inquiry) : Prop where
  asks : call.dialogue.turn answers = .asks inquiry
  carriedOut :
    call.dialogue.CarriedOut (record.Answered index) answers

/-- The reader sent the request of a ticket. -/
def ReadRecord.Sends
    (record : ReadRecord)
    (index : Nat)
    (ticket : Ticket)
    (request : TdReadFunction) : Prop :=
  ∃ sent,
    record.sent[ticket]? = some sent ∧
      sent.reader = index ∧ sent.request = request

/-- How a call of a reader can end, with the requests it has sent. -/
inductive ReadOutcome
    (record : ReadRecord)
    (caused : ReadCause → Prop)
    (index : Nat)
    (call : ReadCall) : Result ReadValue → Prop where
  | completes
      {answers : List TdApiObject}
      {result : Result ReadValue}
      (ends : call.dialogue.turn answers = .returns result)
      (carriedOut :
        call.dialogue.CarriedOut (record.Answered index) answers)
      (requested :
        record.requestsOf index = call.dialogue.asked answers) :
      ReadOutcome record caused index call result
  | refused
      {answers : List TdApiObject}
      {inquiry : Inquiry}
      {error : Bytes}
      (reaches : record.Reaches index call answers inquiry)
      (requested :
        record.requestsOf index = call.dialogue.asked answers)
      (refusal : caused (.refused index inquiry error)) :
      ReadOutcome record caused index call (.error error)
  | expired
      {answers : List TdApiObject}
      {inquiry : Inquiry}
      {ticket : Ticket}
      (reaches : record.Reaches index call answers inquiry)
      (requested :
        record.requestsOf index =
          call.dialogue.asked answers ++ [inquiry.request])
      (sends : record.Sends index ticket inquiry.request)
      (expiry : caused (.expired index ticket)) :
      ReadOutcome record caused index call
        (.error (bytes "TDLib read request timed out"))
  | closed
      {answers : List TdApiObject}
      {inquiry : Inquiry}
      {ticket : Ticket}
      {error : Bytes}
      (reaches : record.Reaches index call answers inquiry)
      (requested :
        record.requestsOf index =
          call.dialogue.asked answers ++ [inquiry.request])
      (sends : record.Sends index ticket inquiry.request)
      (closing : caused (.closed ticket error)) :
      ReadOutcome record caused index call (.error error)
  | rejected
      {answers : List TdApiObject}
      {inquiry : Inquiry}
      {code : Int32}
      {message : Bytes}
      (reaches : record.Reaches index call answers inquiry)
      (requested :
        record.requestsOf index =
          call.dialogue.asked answers ++ [inquiry.request])
      (answered :
        record.Answered index inquiry.request (.error code message)) :
      ReadOutcome record caused index call (.error (tdlibError code message))

/-- The position of a reader agrees with what it sent and was answered. -/
def ReaderPhase.Explained
    (record : ReadRecord)
    (caused : ReadCause → Prop)
    (index : Nat)
    (call : ReadCall) : ReaderPhase → Prop
  | .entering => record.requestsOf index = []
  | .requesting inquiry =>
      ∃ answers,
        record.Reaches index call answers inquiry ∧
          record.requestsOf index = call.dialogue.asked answers
  | .waiting inquiry _ ticket =>
      ∃ answers,
        record.Reaches index call answers inquiry ∧
          record.requestsOf index =
              call.dialogue.asked answers ++ [inquiry.request] ∧
            record.Sends index ticket inquiry.request
  | .expired inquiry _ ticket =>
      ∃ answers,
        record.Reaches index call answers inquiry ∧
          record.requestsOf index =
              call.dialogue.asked answers ++ [inquiry.request] ∧
            record.Sends index ticket inquiry.request ∧
              caused (.expired index ticket)
  | .returned result => ReadOutcome record caused index call result

namespace TdReading

/-- Every reader's position is explained. -/
structure Explains
    (reading : TdReading)
    (record : ReadRecord)
    (caused : ReadCause → Prop) : Prop where
  bounded : ∀ sent ∈ record.sent, sent.reader < reading.readers.length
  explained :
    ∀ (index : Nat) (reader : Reader),
      reading.readers[index]? = some reader →
      reader.phase.Explained record caused index reader.call

end TdReading

section Explained

variable {record later : ReadRecord}
variable {caused causedLater : ReadCause → Prop}
variable {index : Nat}
variable {call : ReadCall}

theorem ReadRecord.Reaches.mono
    {answers : List TdApiObject}
    {inquiry : Inquiry}
    (reaches : record.Reaches index call answers inquiry)
    (extension : record.Extends later) :
    later.Reaches index call answers inquiry where
  asks := reaches.asks
  carriedOut :=
    reaches.carriedOut.mono fun _ _ => extension.answered

theorem ReadRecord.Sends.mono
    {ticket : Ticket}
    {request : TdReadFunction}
    (sends : record.Sends index ticket request)
    (extension : record.Extends later) :
    later.Sends index ticket request := by
  obtain ⟨sent, found, own⟩ := sends
  exact ⟨sent, extension.getElem? found, own⟩

theorem ReadOutcome.mono
    {result : Result ReadValue}
    (outcome : ReadOutcome record caused index call result)
    (extension : record.Extends later)
    (mono : ∀ cause, caused cause → causedLater cause)
    (same : later.requestsOf index = record.requestsOf index) :
    ReadOutcome later causedLater index call result := by
  cases outcome with
  | completes ends carriedOut requested =>
      exact .completes ends
        (carriedOut.mono fun _ _ => extension.answered)
        (same.trans requested)
  | refused reaches requested refusal =>
      exact .refused (reaches.mono extension) (same.trans requested)
        (mono _ refusal)
  | expired reaches requested sends expiry =>
      exact .expired (reaches.mono extension) (same.trans requested)
        (sends.mono extension) (mono _ expiry)
  | closed reaches requested sends closing =>
      exact .closed (reaches.mono extension) (same.trans requested)
        (sends.mono extension) (mono _ closing)
  | rejected reaches requested answered =>
      exact .rejected (reaches.mono extension) (same.trans requested)
        (extension.answered answered)

/-- What other readers send and are answered explains a position as well. -/
theorem ReaderPhase.Explained.mono
    {phase : ReaderPhase}
    (explained : phase.Explained record caused index call)
    (extension : record.Extends later)
    (mono : ∀ cause, caused cause → causedLater cause)
    (same : later.requestsOf index = record.requestsOf index) :
    phase.Explained later causedLater index call := by
  cases phase with
  | entering =>
      exact same.trans explained
  | requesting inquiry =>
      obtain ⟨answers, reaches, requested⟩ := explained
      exact ⟨answers, reaches.mono extension, same.trans requested⟩
  | waiting inquiry requestId ticket =>
      obtain ⟨answers, reaches, requested, sends⟩ := explained
      exact ⟨answers, reaches.mono extension, same.trans requested,
        sends.mono extension⟩
  | expired inquiry requestId ticket =>
      obtain ⟨answers, reaches, requested, sends, expiry⟩ := explained
      exact ⟨answers, reaches.mono extension, same.trans requested,
        sends.mono extension, mono _ expiry⟩
  | returned result =>
      exact ReadOutcome.mono explained extension mono same

/-- The turn that the answers lead to explains where the reader goes on. -/
theorem explained_ofTurn
    {answers : List TdApiObject}
    (carriedOut :
      call.dialogue.CarriedOut (record.Answered index) answers)
    (requested :
      record.requestsOf index = call.dialogue.asked answers) :
    (ReaderPhase.ofTurn (call.dialogue.turn answers)).Explained
      record caused index call := by
  cases stands : call.dialogue.turn answers with
  | asks inquiry =>
      exact ⟨answers, ⟨stands, carriedOut⟩, requested⟩
  | returns result =>
      exact .completes stands carriedOut requested

/-- An answer to its request takes the reader on. -/
theorem explained_answered
    {answers : List TdApiObject}
    {inquiry : Inquiry}
    {object : TdApiObject}
    (reaches : record.Reaches index call answers inquiry)
    (requested :
      record.requestsOf index =
        call.dialogue.asked answers ++ [inquiry.request])
    (answered : record.Answered index inquiry.request object) :
    (ReaderPhase.ofTurn (inquiry.resume object)).Explained
      record caused index call := by
  have resumed :=
    Dialogue.turn_concat reaches.asks object
  have askedNow :=
    Dialogue.asked_concat reaches.asks object
  have explained :=
    @explained_ofTurn record caused index call _
      (reaches.carriedOut.concat reaches.asks answered)
      (requested.trans askedNow.symm)
  rwa [resumed] at explained

/-- What `wait` returns explains where the reader goes on. -/
theorem explained_afterWait
    {answers : List TdApiObject}
    {inquiry : Inquiry}
    {ticket : Ticket}
    {state : RequestState TdApiObject}
    (reaches : record.Reaches index call answers inquiry)
    (requested :
      record.requestsOf index =
        call.dialogue.asked answers ++ [inquiry.request])
    (sends : record.Sends index ticket inquiry.request)
    (accounts : record.Accounts ticket state)
    (closed : state.error ≠ [] → caused (.closed ticket state.error))
    (ready : state.ready = true) :
    (ReaderPhase.afterWait inquiry
      { response := state.response, error := state.error }).Explained
        record caused index call := by
  unfold ReaderPhase.afterWait readResponse
  by_cases failed : state.error = []
  · have responded : state.response.isSome = true :=
      (accounts.ready ready).resolve_left (not_not_intro failed)
    obtain ⟨object, isResponse⟩ := Option.isSome_iff_exists.mp responded
    obtain ⟨answeredSent, answeredFound, answers⟩ :=
      accounts.response object isResponse
    obtain ⟨sent, found, own, asked⟩ := sends
    obtain rfl : sent = answeredSent :=
      Option.some.inj (found.symm.trans answeredFound)
    have answered : record.Answered index inquiry.request object :=
      ⟨sent, List.mem_of_getElem? found, own, asked, answers⟩
    simp only [failed, ne_eq, not_true_eq_false, ↓reduceIte, isResponse]
    cases object with
    | error code message =>
        exact .rejected reaches requested answered
    | updateAuthorizationState | chats | chat | messages | other =>
        exact explained_answered reaches requested answered
  · simp only [ne_eq, failed, not_false_eq_true, ↓reduceIte]
    exact .closed reaches requested sends (closed failed)

end Explained

namespace TdReading

section Steps

variable {before after reading : TdReading}
variable {record later : ReadRecord}
variable {caused causedLater : ReadCause → Prop}

theorem requestsOf_asks_of_ne
    {index other manager requestId : Nat}
    {request : TdReadFunction}
    (different : other ≠ index) :
    (record.asks index manager requestId request).requestsOf other =
      record.requestsOf other := by
  simp [ReadRecord.asks, ReadRecord.requestsOf, List.filter_append,
    Ne.symm different]

theorem requestsOf_asks_self
    {index manager requestId : Nat}
    {request : TdReadFunction} :
    (record.asks index manager requestId request).requestsOf index =
      record.requestsOf index ++ [request] := by
  simp [ReadRecord.asks, ReadRecord.requestsOf, List.filter_append]

/-- More causes explain no less. -/
theorem Explains.mono
    (explains : reading.Explains record caused)
    (mono : ∀ cause, caused cause → causedLater cause) :
    reading.Explains record causedLater where
  bounded := explains.bounded
  explained index reader found :=
    (explains.explained index reader found).mono (.refl record) mono rfl

/-- No reader moves. -/
theorem Explains.keeps
    (explains : before.Explains record caused)
    (readers : after.readers = before.readers) :
    after.Explains record caused := by
  refine ⟨?_, ?_⟩ <;> rw [readers]
  · exact explains.bounded
  · exact explains.explained

/-- One reader moves, and its new position is explained. -/
theorem Explains.readerAt
    {index : Nat}
    {phase : ReaderPhase}
    (explains : reading.Explains record caused)
    (explained :
      ∀ reader,
        reading.readers[index]? = some reader →
        phase.Explained record caused index reader.call) :
    (reading.readerAt index phase).Explains record caused where
  bounded sent member := by
    rw [TdReading.readerAt, List.length_modify]
    exact explains.bounded sent member
  explained other reader found := by
    simp only [TdReading.readerAt, List.getElem?_modify] at found
    obtain ⟨old, wasFound, rfl⟩ := Option.map_eq_some_iff.mp found
    split
    · next same =>
        subst same
        exact explained old wasFound
    · exact explains.explained other old wasFound

/-- A reader enters a function. -/
theorem explains_enters
    (call : ReadCall)
    (explains : before.Explains record caused) :
    { before with
      readers := before.readers ++ [({ call := call } : Reader)]
    }.Explains record caused where
  bounded sent member := by
    have bound := explains.bounded sent member
    simp only [List.length_append, List.length_singleton]
    omega
  explained index reader found := by
    rw [List.getElem?_append] at found
    split at found
    · exact explains.explained index reader found
    · next outside =>
        obtain rfl := List.mem_singleton.mp (List.mem_of_getElem? found)
        -- Nothing that was sent before belongs to the new reader.
        simp only [ReaderPhase.Explained, ReadRecord.requestsOf,
          List.map_eq_nil_iff, List.filter_eq_nil_iff]
        intro sent member own
        have bound := explains.bounded sent member
        have isIndex : sent.reader = index := by simpa using own
        omega

/-- A reader sends its request. -/
theorem explains_asks
    {index manager : Nat}
    {reader : Reader}
    {inquiry : Inquiry}
    (explains : before.Explains record caused)
    (counted : before.account.tickets = record.sent.length)
    (found : before.readers[index]? = some reader)
    (here : reader.phase = .requesting inquiry) :
    (before.opens.readerAt index
      (.waiting inquiry before.account.nextRequestId
        before.account.tickets)).Explains
          (record.asks index manager before.account.nextRequestId
            inquiry.request)
          caused := by
  have extension :=
    record.extends_asks index manager before.account.nextRequestId
      inquiry.request
  obtain ⟨answers, reaches, requested⟩ :
      ∃ answers,
        record.Reaches index reader.call answers inquiry ∧
          record.requestsOf index =
            reader.call.dialogue.asked answers := by
    have explained := explains.explained index reader found
    rw [here] at explained
    exact explained
  constructor
  · intro sent member
    rw [TdReading.readerAt, List.length_modify]
    rcases List.mem_append.mp member with old | isNew
    · exact explains.bounded sent old
    · obtain rfl := List.mem_singleton.mp isNew
      exact (List.getElem?_eq_some_iff.mp found).1
  · intro other otherReader isFound
    simp only [TdReading.readerAt, opens, List.getElem?_modify]
      at isFound
    obtain ⟨old, wasFound, rfl⟩ := Option.map_eq_some_iff.mp isFound
    split
    · next same =>
        subst same
        obtain rfl : reader = old :=
          Option.some.inj (found.symm.trans wasFound)
        let sent : SentRead := {
          reader := index
          manager := manager
          requestId := before.account.nextRequestId
          request := inquiry.request }
        refine
          ⟨answers, reaches.mono extension, ?_, sent, ?_, rfl, rfl⟩
        · rw [requestsOf_asks_self, requested]
        · rw [counted]
          exact List.getElem?_concat_length
    · next different =>
        exact (explains.explained other old wasFound).mono extension
          (fun _ => id) (requestsOf_asks_of_ne (Ne.symm different))

/-- Every step keeps the positions of the readers explained. -/
theorem explains_step
    {call : TdReadingCall}
    (explained : before.Explains record caused)
    (delivers : before.Delivers record)
    (fails : before.FailsFor caused)
    (mono : ∀ cause, caused cause → causedLater cause)
    (own : ∀ cause, before.Causes call cause → causedLater cause)
    (step : ReadingStep before record call after later) :
    after.Explains later causedLater := by
  have explains := explained.mono mono
  cases step with
  | leaves | operatorCloses | receiverCloses | fulfils
  | operatorCompletes | receiverCompletes =>
      exact explains.keeps rfl
  | @receives manager response here owned =>
      have extension := record.extends_receives manager response
      exact {
        bounded := explains.bounded
        explained := fun index reader found =>
          (explains.explained index reader found).mono extension
            (fun _ => id) rfl }
  | enters =>
      exact explains_enters _ explains
  | @begins index reader found here =>
      refine explains.readerAt fun other isFound => ?_
      obtain rfl : reader = other :=
        Option.some.inj (found.symm.trans isFound)
      have unasked := explains.explained index reader found
      rw [here] at unasked
      have explained :
          (ReaderPhase.ofTurn (reader.call.dialogue.turn [])).Explained
            record causedLater index reader.call :=
        explained_ofTurn Dialogue.carriedOut_nil
          (unasked.trans (by simp))
      rwa [Dialogue.turn_nil] at explained
  | @refuses index reader inquiry error account found here causes =>
      have kept :
          { before with account := account }.Explains record
            causedLater :=
        explains.keeps rfl
      refine kept.readerAt fun other isFound => ?_
      obtain rfl : reader = other :=
        Option.some.inj (found.symm.trans isFound)
      have explained := explains.explained index reader found
      rw [here] at explained
      obtain ⟨answers, reaches, requested⟩ := explained
      exact .refused reaches requested (own _ causes)
  | asks found here =>
      exact explains_asks explains delivers.counted found here
  | @resumes index reader inquiry requestId ticket found here ready =>
      refine explains.readerAt fun other isFound => ?_
      obtain rfl : reader = other :=
        Option.some.inj (found.symm.trans isFound)
      have explained := explains.explained index reader found
      rw [here] at explained
      obtain ⟨answers, reaches, requested, sends⟩ := explained
      have allocated : ticket < before.states.length := by
        obtain ⟨sent, isSent, -⟩ := sends
        rw [delivers.allocated]
        exact (List.getElem?_eq_some_iff.mp isSent).1
      have isState :
          before.states[ticket]? = some (before.requestState ticket) := by
        rw [requestState, List.getElem?_eq_getElem allocated]
        rfl
      exact explained_afterWait reaches requested sends
        (delivers.accounted ticket _ isState)
        ((fails.mono mono).states ticket _ isState) ready
  | @expires index reader inquiry requestId ticket found here causes =>
      refine explains.readerAt fun other isFound => ?_
      obtain rfl : reader = other :=
        Option.some.inj (found.symm.trans isFound)
      have explained := explains.explained index reader found
      rw [here] at explained
      obtain ⟨answers, reaches, requested, sends⟩ := explained
      exact ⟨answers, reaches, requested, sends, own _ causes⟩
  | @timesOut index reader inquiry requestId ticket found here =>
      have kept :
          { before with
            account := (before.account.timeOutRead requestId ticket).1
          }.Explains record causedLater :=
        explains.keeps rfl
      refine kept.readerAt fun other isFound => ?_
      obtain rfl : reader = other :=
        Option.some.inj (found.symm.trans isFound)
      have explained := explains.explained index reader found
      rw [here] at explained
      obtain ⟨answers, reaches, requested, sends, expiry⟩ := explained
      exact .expired reaches requested sends expiry

end Steps

end TdReading

/-- In every run the positions of all readers are explained. -/
theorem explains_run (calls : List TdReadingCall) :
    (tdReading.state calls).Explains
      (readRecord (tdReading.history calls)) (CausedIn calls) := by
  induction calls using List.reverseRecOn with
  | nil =>
      exact {
        bounded := fun _ impossible => by cases impossible
        explained := fun _ _ impossible => by cases impossible }
  | append_singleton calls call inductionHypothesis =>
      rw [Machine.state_snoc, Machine.history_snoc, readRecord_snoc]
      exact TdReading.explains_step inductionHypothesis
        (delivers_run calls) (failsFor_run calls)
        (fun _ caused => caused.snoc call) (fun _ => causedIn_snoc)
        (TdReading.readingStep _ _ call)

/-!
## Values and errors

The dialogue of `list_chats` is a loop over the ids of its first answer, so a
value stands for one answer per id; `get_messages` asks once.
-/

/-- The loop of `list_chats` returns one chat for each remaining id. -/
theorem exists_chats_of_nextChat
    {Answered : TdReadFunction → TdApiObject → Prop}
    {chatIds : List Int64}
    {result : List Chat}
    {answers : List TdApiObject}
    {value : ReadValue}
    (carriedOut :
      List.Forall₂ Answered
        (ReadCall.listChats.dialogue.askedFrom (nextChat result chatIds)
          answers)
        answers)
    (ends :
      ReadCall.listChats.dialogue.turnFrom (nextChat result chatIds)
          answers =
        .returns (.value value)) :
    ∃ chats,
      value = .chats (result ++ chats) ∧
        ReadCall.listChats.dialogue.askedFrom (nextChat result chatIds)
            answers =
          chatIds.map TdReadFunction.getChat ∧
          List.Forall₂
            (fun chatId chat =>
              Answered (.getChat chatId) (.chat chat.id chat.title))
            chatIds chats := by
  induction chatIds generalizing result answers with
  | nil =>
      simp only [nextChat, Dialogue.turnFrom_returns,
        Turn.returns.injEq, Result.value.injEq] at ends
      exact ⟨[], by simp [ends], by simp [nextChat], .nil⟩
  | cons chatId rest inductionHypothesis =>
      cases answers with
      | nil =>
          cases ends
      | cons answer answers =>
          cases carriedOut with
          | cons answered carriedOut =>
              cases answer with
              | chat id title =>
                  obtain ⟨chats, isValue, asked, listed⟩ :=
                    inductionHypothesis carriedOut ends
                  refine ⟨{ id, title } :: chats, ?_, ?_,
                    .cons answered listed⟩
                  · simp [isValue]
                  · exact congrArg (List.cons _) asked
              | error | updateAuthorizationState | chats | messages
              | other =>
                  simp [nextChat, Dialogue.turnFrom, ReadCall.dialogue,
                    Inquiry.resume] at ends

/--
What a value says about the call that returned it: the requests the call has
sent, in order, and the answers the value was made of.
-/
def ReadRecord.Yields
    (record : ReadRecord)
    (index : Nat) : ReadCall → ReadValue → Prop
  | .listChats, .chats chats =>
      ∃ chatIds,
        record.requestsOf index =
            .getChats 100 :: chatIds.map .getChat ∧
          record.Answered index (.getChats 100) (.chats chatIds) ∧
            List.Forall₂
              (fun chatId chat =>
                record.Answered index (.getChat chatId)
                  (.chat chat.id chat.title))
              chatIds chats
  | .getMessages chatId limit, .messages messages =>
      let request :=
        TdReadFunction.getChatHistory chatId (Int32.ofNat limit.toNat)
      ∃ history,
        record.requestsOf index = [request] ∧
          record.Answered index request (.messages history) ∧
            messages = history.filterMap textMessage?
  | .listChats, .messages _ | .getMessages _ _, .chats _ => False

/-- A dialogue that was carried out yields what it returns. -/
theorem yields_of_completes
    {record : ReadRecord}
    {index : Nat}
    {call : ReadCall}
    {answers : List TdApiObject}
    {value : ReadValue}
    (ends : call.dialogue.turn answers = .returns (.value value))
    (carriedOut :
      call.dialogue.CarriedOut (record.Answered index) answers)
    (requested :
      record.requestsOf index = call.dialogue.asked answers) :
    record.Yields index call value := by
  unfold Dialogue.CarriedOut at carriedOut
  cases call with
  | listChats =>
      cases answers with
      | nil =>
          cases ends
      | cons answer answers =>
          cases carriedOut with
          | cons answered carriedOut =>
              cases answer with
              | chats chatIds =>
                  obtain ⟨chats, rfl, asked, listed⟩ :=
                    exists_chats_of_nextChat carriedOut ends
                  refine ⟨chatIds, ?_, answered, listed⟩
                  rw [requested]
                  exact congrArg (List.cons _) asked
              | error | updateAuthorizationState | chat | messages
              | other =>
                  simp [Dialogue.turn, Dialogue.turnFrom,
                    ReadCall.dialogue, ReadCall.begins, Inquiry.resume]
                    at ends
  | getMessages chatId limit =>
      simp only [Dialogue.turn, Dialogue.asked, ReadCall.dialogue,
        ReadCall.begins] at ends carriedOut requested
      split at ends
      · simp at ends
      · next valid =>
          rw [if_neg valid] at carriedOut requested
          cases answers with
          | nil =>
              cases ends
          | cons answer answers =>
              cases carriedOut with
              | cons answered carriedOut =>
                  cases answer with
                  | messages history =>
                      simp only [Dialogue.turnFrom, Inquiry.resume,
                        Dialogue.turnFrom_returns, Turn.returns.injEq,
                        Result.value.injEq] at ends
                      subst ends
                      refine ⟨history, ?_, answered, rfl⟩
                      rw [requested]
                      simp [Dialogue.askedFrom, Inquiry.resume,
                        Inquiry.request]
                  | error | updateAuthorizationState | chats | chat
                  | other =>
                      simp [Dialogue.turnFrom, Inquiry.resume] at ends

/-- A call that ended with a value was carried out to its end. -/
theorem ReadOutcome.yields
    {record : ReadRecord}
    {caused : ReadCause → Prop}
    {index : Nat}
    {call : ReadCall}
    {value : ReadValue}
    (outcome : ReadOutcome record caused index call (.value value)) :
    record.Yields index call value := by
  cases outcome with
  | completes ends carriedOut requested =>
      exact yields_of_completes ends carriedOut requested

/--
In every interleaving a value that a reader returns was made of TDLib's answers
to the requests of this call: `list_chats` has asked for the list and then once
for each listed id, in order, and lists one chat for each, and `get_messages`
has asked once and keeps the text messages of the answer.  No part of a value
comes from another call, and no answer is left out.
-/
theorem values_are_own_answers
    {calls : List TdReadingCall}
    {index : Nat}
    {reader : Reader}
    {value : ReadValue}
    (found : (tdReading.state calls).readers[index]? = some reader)
    (returned : reader.phase = .returned (.value value)) :
    (readRecord (tdReading.history calls)).Yields index reader.call
      value := by
  have outcome := (explains_run calls).explained index reader found
  rw [returned] at outcome
  exact ReadOutcome.yields outcome

/-- The operator starts a session, and TDLib reports it authorized. -/
def authorizedReading : List TdReadingCall :=
  .beginAuthorization workOptions :: List.replicate 9 (.operator {}) ++
    [.receive none [],
      .receive (some {
        requestId := 0
        object := .updateAuthorizationState (some .ready) }) []] ++
    List.replicate 3 (.receive none [])

/-- The receive thread is given an answer and passes it on. -/
def receivedAnswer
    (requestId : Nat)
    (object : TdApiObject) : List TdReadingCall :=
  [.receive none [], .receive (some { requestId, object }) []] ++
    List.replicate 3 (.receive none [])

/-- A reader lists the one chat of the account. -/
def listedReading : List TdReadingCall :=
  authorizedReading ++ [.enterRead .listChats, .read 0, .read 0] ++
    receivedAnswer 2 (.chats [5]) ++ [.read 0, .read 0] ++
    receivedAnswer 3 (.chat 5 (bytes "Team")) ++ [.read 0]

theorem readers_listedReading :
    (tdReading.state listedReading).readers[0]? =
      some {
        call := .listChats
        phase := .returned (.value (.chats [{
          id := 5
          title := bytes "Team" }])) } :=
  rfl

theorem values_are_own_answers_listed :
    (readRecord (tdReading.history listedReading)).Yields 0 .listChats
      (.chats [{ id := 5, title := bytes "Team" }]) :=
  values_are_own_answers readers_listedReading rfl

/-- The object is of the type that the request asks for. -/
def TdReadFunction.expects : TdReadFunction → TdApiObject → Bool
  | .getChats _, .chats _ => true
  | .getChat _, .chat _ _ => true
  | .getChatHistory _ _, .messages _ => true
  | _, _ => false

/-- The error of an answer of another type. -/
def TdReadFunction.unexpected : TdReadFunction → Bytes
  | .getChats _ =>
      bytes "TDLib returned an unexpected chat list response"
  | .getChat _ => bytes "TDLib returned an unexpected chat response"
  | .getChatHistory _ _ =>
      bytes "TDLib returned an unexpected message history response"

/-- Why a call has returned an error, in terms of what it has sent. -/
inductive ReadFailure
    (record : ReadRecord)
    (caused : ReadCause → Prop)
    (index : Nat)
    (call : ReadCall) : Bytes → Prop where
  /-- The arguments are refused before anything is sent. -/
  | invalid
      {chatId : Int64}
      {limit : UInt64}
      (isCall : call = .getMessages chatId limit)
      (outside : chatId = 0 ∨ limit = 0 ∨ limit > 100)
      (unsent : record.requestsOf index = []) :
      ReadFailure record caused index call
        (bytes "Chat id and a message limit from 1 to 100 are required")
  /-- What it had sent was answered; the next request was not sent. -/
  | refused
      {answers : List TdApiObject}
      {inquiry : Inquiry}
      {error : Bytes}
      (reaches : record.Reaches index call answers inquiry)
      (unsent : record.requestsOf index = call.dialogue.asked answers)
      (refusal : caused (.refused index inquiry error)) :
      ReadFailure record caused index call error
  /-- The last request was given up. -/
  | expired
      {request : TdReadFunction}
      {ticket : Ticket}
      (last : (record.requestsOf index).getLast? = some request)
      (sends : record.Sends index ticket request)
      (expiry : caused (.expired index ticket)) :
      ReadFailure record caused index call
        (bytes "TDLib read request timed out")
  /-- The last request was cut off by the end of the session. -/
  | closed
      {request : TdReadFunction}
      {ticket : Ticket}
      {error : Bytes}
      (last : (record.requestsOf index).getLast? = some request)
      (sends : record.Sends index ticket request)
      (closing : caused (.closed ticket error)) :
      ReadFailure record caused index call error
  | unexpected
      {request : TdReadFunction}
      {object : TdApiObject}
      (last : (record.requestsOf index).getLast? = some request)
      (answered : record.Answered index request object)
      (mismatch : request.expects object = false) :
      ReadFailure record caused index call request.unexpected
  | rejected
      {request : TdReadFunction}
      {code : Int32}
      {message : Bytes}
      (last : (record.requestsOf index).getLast? = some request)
      (answered :
        record.Answered index request (.error code message)) :
      ReadFailure record caused index call (tdlibError code message)

/-- Only an object of another type ends a dialogue with an error. -/
theorem unexpected_of_resume
    {inquiry : Inquiry}
    {object : TdApiObject}
    {message : Bytes}
    (ended : inquiry.resume object = .returns (.error message)) :
    inquiry.request.expects object = false ∧
      message = inquiry.request.unexpected := by
  cases inquiry with
  | chats =>
      cases object with
      | chats chatIds =>
          cases chatIds <;> cases ended
      | _ =>
          cases ended
          exact ⟨rfl, rfl⟩
  | chat chatId rest result =>
      cases object with
      | chat id title =>
          cases rest <;> cases ended
      | _ =>
          cases ended
          exact ⟨rfl, rfl⟩
  | history chatId limit =>
      cases object with
      | messages history =>
          cases ended
      | _ =>
          cases ended
          exact ⟨rfl, rfl⟩

/-- Only invalid arguments end a dialogue before it asks. -/
theorem invalid_of_begins
    {call : ReadCall}
    {message : Bytes}
    (ended : call.begins = .returns (.error message)) :
    message =
        bytes "Chat id and a message limit from 1 to 100 are required" ∧
      ∃ chatId limit,
        call = .getMessages chatId limit ∧
          (chatId = 0 ∨ limit = 0 ∨ limit > 100) := by
  cases call with
  | listChats =>
      cases ended
  | getMessages chatId limit =>
      by_cases outside : chatId = 0 ∨ limit = 0 ∨ limit > 100
      · rw [ReadCall.begins, if_pos outside] at ended
        cases ended
        exact ⟨rfl, chatId, limit, rfl, outside⟩
      · rw [ReadCall.begins, if_neg outside] at ended
        cases ended

/-- A call that ended with an error was cut short or refused. -/
theorem ReadOutcome.failure
    {record : ReadRecord}
    {caused : ReadCause → Prop}
    {index : Nat}
    {call : ReadCall}
    {message : Bytes}
    (outcome : ReadOutcome record caused index call (.error message)) :
    ReadFailure record caused index call message := by
  cases outcome with
  | completes ends carriedOut requested =>
      rcases carriedOut.last ends with
        ⟨rfl, begins⟩ | ⟨inquiry, object, resumed, answered, last⟩
      · obtain ⟨rfl, chatId, limit, isCall, outside⟩ :=
          invalid_of_begins begins
        exact .invalid isCall outside (requested.trans (by simp))
      · obtain ⟨mismatch, rfl⟩ := unexpected_of_resume resumed
        exact .unexpected ((congrArg _ requested).trans last) answered
          mismatch
  | refused reaches requested refusal =>
      exact .refused reaches requested refusal
  | expired reaches requested sends expiry =>
      refine .expired ?_ sends expiry
      rw [requested, List.getLast?_concat]
  | closed reaches requested sends closing =>
      refine .closed ?_ sends closing
      rw [requested, List.getLast?_concat]
  | rejected reaches requested answered =>
      refine .rejected ?_ answered
      rw [requested, List.getLast?_concat]

/--
In every interleaving an error that a reader returns names what ended its call:
arguments that are refused before anything is sent, an account that is not
authorized or no longer accepts requests, a request that was given up or cut off
by the end of the session, or TDLib's own answer to the last request of this
call, which was an error or of another type than was asked for.
-/
theorem errors_name_their_cause
    {calls : List TdReadingCall}
    {index : Nat}
    {reader : Reader}
    {message : Bytes}
    (found : (tdReading.state calls).readers[index]? = some reader)
    (returned : reader.phase = .returned (.error message)) :
    ReadFailure (readRecord (tdReading.history calls)) (CausedIn calls)
      index reader.call message := by
  have outcome := (explains_run calls).explained index reader found
  rw [returned] at outcome
  exact ReadOutcome.failure outcome

/-- The answer for the listed chat is an error. -/
def rejectedReading : List TdReadingCall :=
  authorizedReading ++ [.enterRead .listChats, .read 0, .read 0] ++
    receivedAnswer 2 (.chats [5]) ++ [.read 0, .read 0] ++
    receivedAnswer 3 (.error 400 (bytes "CHAT_INVALID")) ++ [.read 0]

theorem readers_rejectedReading :
    (tdReading.state rejectedReading).readers[0]? =
      some {
        call := .listChats
        phase :=
          .returned (.error (bytes "TDLib 400: CHAT_INVALID")) } :=
  rfl

theorem errors_name_their_cause_rejected :
    ReadFailure (readRecord (tdReading.history rejectedReading))
      (CausedIn rejectedReading) 0 .listChats (bytes "TDLib 400: CHAT_INVALID") :=
  errors_name_their_cause readers_rejectedReading rfl

end TgGate
