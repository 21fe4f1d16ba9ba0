import TgGate.Library.Dialogue
import TgGate.TdAccount
import TgGate.TelegramApplication

namespace TgGate

open Library

/-!
# Reading chats and messages

`list_chats` and `get_messages` run on the threads of their callers.  Each is a
dialogue with TDLib: `request_read` sends a question, waits for the ticket of
its answer and hands the answer to the function, which asks again or returns.

The module puts the readers beside the two threads of the account.  The request
states live outside the router, each under a mutex of its own: whoever takes
tickets out of the router holds them until it has completed their states one by
one.  A reader stops waiting at any step from its deadline on.
-/

/-- The content of a message, as far as `get_messages` looks at it. -/
inductive TdMessageContent where
  | text (text? : Option Bytes)
  | other
  deriving DecidableEq

/-- A message of a history. -/
structure TdMessage where
  id : Int64
  chatId : Int64
  content? : Option TdMessageContent
  deriving DecidableEq

/-- An object that TDLib hands to the receive loop. -/
inductive TdApiObject where
  | error (code : Int32) (message : Bytes)
  | updateAuthorizationState (state? : Option TdAuthorizationState)
  | chats (chatIds : List Int64)
  | chat (id : Int64) (title : Bytes)
  | messages (messages : List (Option TdMessage))
  | other
  deriving DecidableEq

/-- What the receive loop looks at when no reader asked for the object. -/
def TdApiObject.received : TdApiObject → TdObjectReceived
  | .error code message => .error code message
  | .updateAuthorizationState state? => .updateAuthorizationState state?
  | .chats _ | .chat _ _ | .messages _ | .other => .other

/-- `ClientManager::Response` with the whole object. -/
structure TdApiResponse where
  requestId : Nat
  object : TdApiObject
  deriving DecidableEq

/-- The response as the account's threads see it. -/
def TdApiResponse.received (response : TdApiResponse) : TdResponse where
  requestId := response.requestId
  object := response.object.received

/-- What the functions that read return. -/
inductive ReadValue where
  | chats (chats : List Chat)
  | messages (messages : List Message)

/-- A call of one of the functions that read. -/
inductive ReadCall where
  | listChats
  | getMessages (chatId : Int64) (limit : UInt64)
  deriving DecidableEq

/-- The statement of a function that awaits `request_read`. -/
inductive Inquiry where
  | chats
  | chat (chatId : Int64) (rest : List Int64) (result : List Chat)
  | history (chatId : Int64) (limit : Int32)

/-- The request that the statement sends. -/
def Inquiry.request : Inquiry → TdReadFunction
  | .chats => .getChats 100
  | .chat chatId _ _ => .getChat chatId
  | .history chatId limit => .getChatHistory chatId limit

/-- A function that reads, between two of its requests. -/
abbrev ReadTurn := Turn Inquiry (Result ReadValue)

/-- The loop of `list_chats` over the remaining ids. -/
def nextChat (result : List Chat) : List Int64 → ReadTurn
  | [] => .returns (.value (.chats result))
  | chatId :: rest => .asks (.chat chatId rest result)

/-- The message that `get_messages` makes of an entry of the history. -/
def textMessage? : Option TdMessage → Option Message
  | some { id, chatId, content? := some (.text (some text)) } =>
      some { id, chatId, text }
  | _ => none

/-- What a function does with the answer to its request. -/
def Inquiry.resume : Inquiry → TdApiObject → ReadTurn
  | .chats, .chats chatIds => nextChat [] chatIds
  | .chats, _ =>
      .returns (.error
        (bytes "TDLib returned an unexpected chat list response"))
  | .chat _ rest result, .chat id title =>
      nextChat (result ++ [{ id, title }]) rest
  | .chat _ _ _, _ =>
      .returns (.error
        (bytes "TDLib returned an unexpected chat response"))
  | .history _ _, .messages messages =>
      .returns (.value (.messages (messages.filterMap textMessage?)))
  | .history _ _, _ =>
      .returns (.error
        (bytes "TDLib returned an unexpected message history response"))

/-- The beginning of a function up to its first request. -/
def ReadCall.begins : ReadCall → ReadTurn
  | .listChats => .asks .chats
  | .getMessages chatId limit =>
      if chatId = 0 ∨ limit = 0 ∨ limit > 100 then
        .returns (.error (bytes
          "Chat id and a message limit from 1 to 100 are required"))
      else
        .asks (.history chatId (Int32.ofNat limit.toNat))

/-- `list_chats` and `get_messages` as dialogues with TDLib. -/
def ReadCall.dialogue (call : ReadCall) :
    Dialogue Inquiry TdReadFunction TdApiObject (Result ReadValue) where
  begins := call.begins
  question := Inquiry.request
  resume := Inquiry.resume

/-- The text made of an error that TDLib answers. -/
def tdlibError (code : Int32) (message : Bytes) : Bytes :=
  bytes "TDLib " ++ toDecimal code.toInt ++ bytes ": " ++ message

/-- What `request_read` makes of the result of `wait`. -/
def readResponse
    (result : RequestRouter.Result TdApiObject) :
    Except Bytes TdApiObject :=
  if result.error ≠ [] then
    .error result.error
  else
    match result.response with
    | none =>
        .error (bytes "TDLib read request completed without a response")
    | some (.error code message) => .error (tdlibError code message)
    | some object => .ok object

/-- How far a reader is: the part it takes next. -/
inductive ReaderPhase where
  | entering
  | requesting (inquiry : Inquiry)
  | waiting (inquiry : Inquiry) (requestId : Nat) (ticket : Ticket)
  | expired (inquiry : Inquiry) (requestId : Nat) (ticket : Ticket)
  | returned (result : Result ReadValue)

/-- The reader goes on after a part of its function. -/
def ReaderPhase.ofTurn : ReadTurn → ReaderPhase
  | .asks inquiry => .requesting inquiry
  | .returns result => .returned result

/-- The reader goes on after `wait`. -/
def ReaderPhase.afterWait
    (inquiry : Inquiry)
    (result : RequestRouter.Result TdApiObject) : ReaderPhase :=
  match readResponse result with
  | .error message => .returned (.error message)
  | .ok object => .ofTurn (inquiry.resume object)

/-- A thread inside one of the functions that read. -/
structure Reader where
  call : ReadCall
  phase : ReaderPhase := .entering

/-- A request state that was taken out of the router and what is to become of it. -/
abbrev HeldTicket := Ticket × Completion TdApiObject

/-- The account, the request states and all threads that use them. -/
structure TdReading where
  account : TdAccount := {}
  /-- The request states, one for each ticket. -/
  states : List (RequestState TdApiObject) := []
  /-- The variable `response` of the receive loop. -/
  response : TdApiResponse := { requestId := 0, object := .other }
  /-- What the receive thread still has to complete. -/
  receiverHolds : List HeldTicket := []
  /-- What the operator's thread still has to complete. -/
  operatorHolds : List HeldTicket := []
  readers : List Reader := []

/-- What a step shows. -/
inductive TdReadingEvent where
  | account (event : TdEvent)
  | received (manager : Nat) (response : TdApiResponse)
  | completed (ticket : Ticket)

/-- A step of one of the threads. -/
inductive TdReadingCall where
  /-- The operator's thread enters a function. -/
  | beginAuthorization (options : TdAccountOptions)
  | stop
  | submitCode (code : SecretBuffer)
  | submitPassword (password : SecretBuffer)
  /-- The operator's thread goes on inside its function. -/
  | operator (supply : TdSupply)
  /-- The receive thread goes on. -/
  | receive (response? : Option TdApiResponse) (iteration : List UInt64)
  /-- A reader enters a function. -/
  | enterRead (call : ReadCall)
  /-- A reader goes on inside its function. -/
  | read (index : Nat)

/-- The tickets that `fail_read_requests` collects. -/
def TdAccount.failedTickets
    (supply : TdSupply)
    (error : Bytes)
    (account : TdAccount) : List HeldTicket :=
  match account.failReadRequests? supply with
  | none => []
  | some _ =>
      (account.readRequests.close supply.iteration).1.map fun ticket =>
        (ticket, .failed error)

namespace TdReading

/-- The request state that a ticket points to. -/
def requestState
    (ticket : Ticket)
    (reading : TdReading) : RequestState TdApiObject :=
  reading.states[ticket]?.getD {}

/-- Complete a request state under its own mutex. -/
def complete (held : HeldTicket) (reading : TdReading) : TdReading :=
  { reading with
    states := reading.states.modify held.1 held.2.apply }

/-- A reader goes on at another part. -/
def readerAt
    (index : Nat)
    (phase : ReaderPhase)
    (reading : TdReading) : TdReading :=
  { reading with
    readers := reading.readers.modify index fun reader =>
      { reader with phase := phase } }

/-- The operator's thread enters a function. -/
def enter
    (call : TdAccountCall)
    (reading : TdReading) : TdReading × TdReadingEvent :=
  let (account, event) := reading.account.step call
  ({ reading with account := account }, .account event)

/-- The operator's thread goes on; it first completes what it holds. -/
def advanceOperator
    (supply : TdSupply)
    (reading : TdReading) : TdReading × TdReadingEvent :=
  match reading.operatorHolds with
  | held :: rest =>
      ({ reading.complete held with operatorHolds := rest },
        .completed held.1)
  | [] =>
      let (account, event) := reading.account.step (.operator supply)
      ({ reading with
          account := account
          operatorHolds :=
            match reading.account.operator with
            | .stopping .failingReads _ =>
                reading.account.failedTickets supply
                  (bytes "TDLib account stopped")
            | _ => [] },
        .account event)

/-- What the receive thread holds after its next part. -/
def received
    (supply : TdSupply)
    (reading : TdReading) : ReceivePhase → List HeldTicket
  | .fulfilling requestId =>
      let (ticket?, _) :=
        reading.account.readRequests.takeRegistered
          (UInt64.ofNat requestId)
      ticket?.toList.map fun ticket =>
        (ticket, .fulfilled reading.response.object)
  | .failingReads =>
      reading.account.failedTickets supply
        (bytes "TDLib authorization was closed")
  | _ => []

/-- The receive thread goes on inside its loop. -/
def advanceLoop
    (response? : Option TdApiResponse)
    (iteration : List UInt64)
    (reading : TdReading) :
    ReceivePhase → TdReading × TdReadingEvent
  | .receiving =>
      let supply : TdSupply := {
        response? := response?.map TdApiResponse.received }
      let (account, event) := reading.account.step (.receive supply)
      match reading.account.manager, response? with
      | some manager, some response =>
          ({ reading with account := account, response := response },
            .received manager response)
      | _, _ => ({ reading with account := account }, .account event)
  | phase =>
      let supply : TdSupply := { iteration := iteration }
      let (account, event) := reading.account.step (.receive supply)
      ({ reading with
          account := account
          receiverHolds := reading.received supply phase },
        .account event)

/-- The receive thread goes on; it first completes what it holds. -/
def advanceReceiver
    (response? : Option TdApiResponse)
    (iteration : List UInt64)
    (reading : TdReading) : TdReading × TdReadingEvent :=
  match reading.receiverHolds, reading.account.receiveThread with
  | held :: rest, _ =>
      ({ reading.complete held with receiverHolds := rest },
        .completed held.1)
  | [], none => (reading, .account .nothing)
  | [], some phase => reading.advanceLoop response? iteration phase

/-- The locked part of `request_read`. -/
def requestRead
    (index : Nat)
    (inquiry : Inquiry)
    (reading : TdReading) : TdReading × TdReadingEvent :=
  let asked := reading.account.requestRead inquiry.request
  let requested : TdReading := { reading with account := asked.1 }
  (match asked.2 with
    | .refused error =>
        requested.readerAt index (.returned (.error error))
    | _ =>
        let state : RequestState TdApiObject := {}
        { requested with states := reading.states ++ [state] }.readerAt
          index
          (.waiting inquiry reading.account.nextRequestId
            reading.account.tickets),
    .account asked.2)

/-- A reader goes on inside its function. -/
def advanceReader
    (index : Nat)
    (reader : Reader)
    (reading : TdReading) : TdReading × TdReadingEvent :=
  match reader.phase with
  | .entering =>
      (reading.readerAt index (.ofTurn reader.call.begins),
        .account .nothing)
  | .requesting inquiry => reading.requestRead index inquiry
  | .waiting inquiry requestId ticket =>
      let state := reading.requestState ticket
      (reading.readerAt index
          (if state.ready then
            .afterWait inquiry
              { response := state.response, error := state.error }
          else
            .expired inquiry requestId ticket),
        .account .nothing)
  | .expired inquiry requestId ticket =>
      let account :=
        (reading.account.timeOutRead requestId ticket).1
      ({ reading with account := account }.readerAt index
          (.afterWait inquiry
            { error := bytes "TDLib read request timed out" }),
        .account .nothing)
  | .returned _ => (reading, .account .nothing)

/-- One step; a step that no thread can take changes nothing. -/
def step (reading : TdReading) :
    TdReadingCall → TdReading × TdReadingEvent
  | .beginAuthorization options =>
      reading.enter (.beginAuthorization options)
  | .stop => reading.enter .stop
  | .submitCode code => reading.enter (.submitCode code)
  | .submitPassword password => reading.enter (.submitPassword password)
  | .operator supply => reading.advanceOperator supply
  | .receive response? iteration =>
      reading.advanceReceiver response? iteration
  | .enterRead call =>
      ({ reading with readers := reading.readers ++ [{ call := call }] },
        .account .nothing)
  | .read index =>
      match reading.readers[index]? with
      | none => (reading, .account .nothing)
      | some reader => reading.advanceReader index reader

end TdReading

/-- All interleavings of an account's threads and its readers. -/
def tdReading : Machine TdReading TdReadingCall TdReadingEvent where
  initial := {}
  step := TdReading.step

end TgGate
