import TgGate.DesktopAccounts
import TgGate.Library.Machine
import TgGate.RequestRouter

namespace TgGate

open Library

/-!
# A TDLib account and its two threads

`TdAccount` owns the `ClientManager` of one account.  The operator's thread
calls `begin_authorization`, `stop`, `submit_code` and `submit_password` one
after another; the receive thread runs `receive_loop`; readers send their
requests from threads of their own.  All of them share the fields below under
one mutex, which no function holds from its beginning to its end.  Every
function is therefore split where it releases the mutex, and the two threads
remember how far they are.

Managers are told apart by the order of their creation.  Request ids are
natural numbers: the 64-bit counter restarts with every manager and is advanced
by one for each request, so it agrees with them while a session has sent fewer
than 2^64 requests.
-/

/-- The states of the authorization that the receive loop can be told. -/
inductive TdAuthorizationState where
  | waitTdlibParameters
  | waitPhoneNumber
  | waitCode
  | waitPassword
  | waitRegistration
  | waitOtherDeviceConfirmation
  | ready
  | loggingOut
  | closing
  | closed
  | other
  deriving Repr, DecidableEq

/-- `state_name`. -/
def TdAuthorizationState.stateName : TdAuthorizationState → Bytes
  | .waitTdlibParameters => bytes "Preparing TDLib"
  | .waitPhoneNumber => bytes "Waiting for phone number"
  | .waitCode => bytes "Waiting for authentication code"
  | .waitPassword => bytes "Waiting for 2FA password"
  | .waitRegistration => bytes "Registration is required"
  | .waitOtherDeviceConfirmation =>
      bytes "Waiting for confirmation on another device"
  | .ready => bytes "Authorized"
  | .loggingOut => bytes "Logging out"
  | .closing => bytes "Closing"
  | .closed => bytes "Closed"
  | .other => bytes "Waiting for a Telegram authorization step"

/-- The fields of `setTdlibParameters`. -/
structure TdlibParameters where
  useTestDc : Bool
  databaseDirectory : Bytes
  filesDirectory : Bytes
  databaseEncryptionKey : Bytes
  useFileDatabase : Bool
  useChatInfoDatabase : Bool
  useMessageDatabase : Bool
  useSecretChats : Bool
  apiId : Int32
  apiHash : Bytes
  systemLanguageCode : Bytes
  deviceModel : Bytes
  systemVersion : Bytes
  applicationVersion : Bytes
  deriving DecidableEq

/-- The requests of `list_chats` and `get_messages`. -/
inductive TdReadFunction where
  | getChats (limit : Int32)
  | getChat (chatId : Int64)
  | getChatHistory (chatId : Int64) (limit : Int32)
  deriving DecidableEq

/-- A request to TDLib. -/
inductive TdFunction where
  | getAuthorizationState
  | close
  | setTdlibParameters (parameters : TdlibParameters)
  | setAuthenticationPhoneNumber (phoneNumber : Bytes)
  | checkAuthenticationCode (code : Bytes)
  | checkAuthenticationPassword (password : Bytes)
  | read (request : TdReadFunction)
  deriving DecidableEq

/-- What TDLib answers or reports. -/
inductive TdObjectReceived where
  | error (code : Int32) (message : Bytes)
  | updateAuthorizationState (state? : Option TdAuthorizationState)
  | other

/--
`ClientManager::Response` with an object; updates have the request id 0.  An
answer carries the id of its request, which is below 2^64 like the counter's.
-/
structure TdResponse where
  requestId : Nat
  object : TdObjectReceived

/-- What the operator enters when TDLib asks for it. -/
inductive InputKind where
  | code
  | password
  deriving Repr, DecidableEq

namespace InputKind

/-- The state in which TDLib asks for the input. -/
def awaited : InputKind → TdAuthorizationState
  | .code => .waitCode
  | .password => .waitPassword

/-- The status the submission insists on. -/
def status : InputKind → Bytes
  | .code => bytes "Waiting for authentication code"
  | .password => bytes "Waiting for 2FA password"

/-- The error of an empty submission. -/
def missing : InputKind → Bytes
  | .code => bytes "Authentication code is required"
  | .password => bytes "2FA password is required"

/-- The error of a submission that is not asked for. -/
def notAwaited : InputKind → Bytes
  | .code => bytes "TDLib is not waiting for an authentication code"
  | .password => bytes "TDLib is not waiting for a 2FA password"

/-- The request that carries the input. -/
def check : InputKind → Bytes → TdFunction
  | .code => .checkAuthenticationCode
  | .password => .checkAuthenticationPassword

end InputKind

/-- How far a call of `stop` is: the part it takes next. -/
inductive StopPhase where
  | closing
  | failingReads
  | joining
  | resetting
  | clearing
  | emptying
  deriving Repr, DecidableEq

/--
How far the operator's thread is: the part it takes next.  A `stop` remembers
the options of the `begin_authorization` that called it.
-/
inductive OperatorPhase where
  | idle
  | stopping (phase : StopPhase) (next? : Option TdAccountOptions)
  | installing (options : TdAccountOptions)
  | startingThread
  | activating

/-- How far the receive thread is: the part it takes next. -/
inductive ReceivePhase where
  | checking
  | receiving
  | routing (response : TdResponse)
  | fulfilling (requestId : Nat)
  | discarding (response : TdResponse)
  | clearingInput (requestId : Nat) (code : Int32) (message : Bytes)
  | reporting (code : Int32) (message : Bytes)
  | settingStatus (state : TdAuthorizationState)
  | sendingParameters
  | sendingPhoneNumber
  | clearingOptions
  | failingReads
  | finishing
  | finished

/-- The fields of `TdAccount` with the positions of its threads. -/
structure TdAccount where
  running : Bool := false
  /-- `receive_thread_`, if it is joinable. -/
  receiveThread : Option ReceivePhase := none
  manager : Option Nat := none
  clientId : Int32 := 0
  /-- A counter of 64 bits, without its wrapping. -/
  nextRequestId : Nat := 1
  /-- The code or password in flight; 0 for none. -/
  authorizationInputRequestId : Nat := 0
  readRequests : RequestRouter := .initial
  options : TdAccountOptions := {}
  authorizationStatus : Bytes := bytes "Stopped"
  lastError : Bytes := []
  stopping : Bool := false
  operator : OperatorPhase := .idle
  /-- How many managers have been created. -/
  managers : Nat := 0
  /-- How many tickets have been allocated for readers. -/
  tickets : Nat := 0

/-- What a step does, as far as it concerns TDLib or the caller. -/
inductive TdEvent where
  | nothing
  | accepted (manager : Nat) (clientId : Int32) (options : TdAccountOptions)
  | refused (error : Bytes)
  | sent
      (manager : Nat)
      (clientId : Int32)
      (requestId : Nat)
      (function : TdFunction)
  | inputErrorProcessed (requestId : Nat)
  | stateProcessed (state : TdAuthorizationState)
  | closedProcessed
  | stopped
  deriving DecidableEq

/-- What the outside world contributes to a step. -/
structure TdSupply where
  /-- What `create_client_id` returns. -/
  clientId : Int32 := 1
  /-- The order in which the hash map of the router is traversed. -/
  iteration : List UInt64 := []
  /-- Starting a thread may throw. -/
  threadStarts : Bool := true
  /-- What `receive` returns. -/
  response? : Option TdResponse := none

/-- A step of one of the threads. -/
inductive TdAccountCall where
  /-- The operator's thread enters a function. -/
  | beginAuthorization (options : TdAccountOptions)
  | stop
  | submitCode (code : SecretBuffer)
  | submitPassword (password : SecretBuffer)
  /-- The operator's thread goes on inside its function. -/
  | operator (supply : TdSupply)
  /-- The receive thread goes on. -/
  | receive (supply : TdSupply)
  /-- A reader sends a request. -/
  | requestRead (request : TdReadFunction)
  /-- A reader gives up. -/
  | timeOutRead (requestId : Nat) (ticket : Ticket)

/-- The parameters `send_tdlib_parameters` makes from the options. -/
def TdAccountOptions.tdlibParameters
    (options : TdAccountOptions) : TdlibParameters where
  useTestDc := false
  databaseDirectory := options.databaseDirectory
  filesDirectory := options.filesDirectory
  databaseEncryptionKey := options.databaseEncryptionKey.content
  useFileDatabase := true
  useChatInfoDatabase := true
  useMessageDatabase := true
  useSecretChats := false
  apiId := options.apiId
  apiHash := options.apiHash.content
  systemLanguageCode := bytes "en"
  deviceModel := bytes "TgGate"
  systemVersion := bytes "Windows"
  applicationVersion := bytes "0.1.0"

/-- What the receive loop does after `set_status`. -/
def TdAuthorizationState.branch : TdAuthorizationState → ReceivePhase
  | .waitTdlibParameters => .sendingParameters
  | .waitPhoneNumber => .sendingPhoneNumber
  | .closed => .clearingOptions
  | _ => .checking

/-- What the receive loop does with a response that no reader asked for. -/
def TdResponse.branch (response : TdResponse) : ReceivePhase :=
  match response.object with
  | .error code message =>
      .clearingInput response.requestId code message
  | .updateAuthorizationState (some state) => .settingStatus state
  | .updateAuthorizationState none | .other => .checking

namespace TdAccount

/-- The operator's thread goes on at another part. -/
def operatorAt
    (phase : OperatorPhase)
    (account : TdAccount) : TdAccount :=
  { account with operator := phase }

/-- The receive thread goes on at another part. -/
def receiveAt
    (phase : ReceivePhase)
    (account : TdAccount) : TdAccount :=
  { account with receiveThread := some phase }

/-- `manager_->send` with the next request id, if there is a manager. -/
def send
    (function : TdFunction)
    (account : TdAccount) : TdAccount × TdEvent :=
  match account.manager with
  | none => (account, .nothing)
  | some manager =>
      ({ account with nextRequestId := account.nextRequestId + 1 },
        .sent manager account.clientId account.nextRequestId function)

/-- `set_error`. -/
def setError (error : Bytes) (account : TdAccount) : TdAccount :=
  { account with lastError := error }

/-- `set_status`. -/
def setStatus (status : Bytes) (account : TdAccount) : TdAccount :=
  { account with
    authorizationStatus := status
    authorizationInputRequestId := 0 }

/-- `clear_authorization_input`. -/
def clearAuthorizationInput
    (requestId : Nat)
    (account : TdAccount) : TdAccount :=
  { account with
    authorizationInputRequestId :=
      if account.authorizationInputRequestId = requestId then
        0
      else
        account.authorizationInputRequestId }

/-- `clear_sensitive_options`. -/
def clearSensitiveOptions (account : TdAccount) : TdAccount :=
  { account with
    options := { account.options with
      apiHash := account.options.apiHash.clear
      databaseEncryptionKey :=
        account.options.databaseEncryptionKey.clear
      phoneNumber := [] } }

/-- `fail_read_requests`, which must list every pending id. -/
def failReadRequests?
    (supply : TdSupply)
    (account : TdAccount) : Option TdAccount :=
  if supply.iteration.Perm account.readRequests.requests.keys then
    some { account with
      readRequests :=
        (account.readRequests.close supply.iteration).2 }
  else
    none

/-- Report a refusal in `last_error_`. -/
def refuse
    (error : Bytes)
    (account : TdAccount) : TdAccount × TdEvent :=
  (account.setError error, .refused error)

/-- The validation of `begin_authorization`; a valid call goes on to `stop`. -/
def beginAuthorization
    (options : TdAccountOptions)
    (account : TdAccount) : TdAccount × TdEvent :=
  if options.isComplete then
    (account.operatorAt (.stopping .closing (some options)), .nothing)
  else
    account.refuse (bytes
      "Account id, api_id, api_hash, database key, and phone number are required")

/-- The locked part of `begin_authorization` after its `stop`. -/
def install
    (clientId : Int32)
    (options : TdAccountOptions)
    (account : TdAccount) : TdAccount × TdEvent :=
  ({ account with
      readRequests := account.readRequests.reopen
      options := options
      lastError := []
      authorizationStatus := bytes "Starting TDLib"
      stopping := false
      manager := some account.managers
      clientId := clientId
      nextRequestId := 1
      running := true
      managers := account.managers + 1 },
    .accepted account.managers clientId options)

/-- What `submit_code` and `submit_password` have in common. -/
def submit
    (kind : InputKind)
    (input : SecretBuffer)
    (account : TdAccount) : TdAccount × TdEvent :=
  if input.isEmpty then
    account.refuse kind.missing
  else if account.authorizationInputRequestId ≠ 0 then
    account.refuse
      (bytes "An authorization input request is already in flight")
  else if account.manager.isNone ∨
      account.authorizationStatus ≠ kind.status then
    account.refuse kind.notAwaited
  else
    let (sent, event) := account.send (kind.check input.content)
    ({ sent with authorizationInputRequestId := account.nextRequestId },
      event)

/-- `submit_code`. -/
def submitCode
    (code : SecretBuffer) : TdAccount → TdAccount × TdEvent :=
  submit .code code

/-- `submit_password`. -/
def submitPassword
    (password : SecretBuffer) : TdAccount → TdAccount × TdEvent :=
  submit .password password

/-- The locked part of `request_read`. -/
def requestRead
    (request : TdReadFunction)
    (account : TdAccount) : TdAccount × TdEvent :=
  if !account.running ∨ account.stopping ∨ account.manager.isNone ∨
      account.authorizationStatus ≠ bytes "Authorized" then
    (account, .refused (bytes "Telegram account is not authorized"))
  else
    match account.readRequests.openRequest
        (UInt64.ofNat account.nextRequestId) account.tickets with
    | (none, _) =>
        ({ account with nextRequestId := account.nextRequestId + 1 },
          .refused (bytes "Telegram account is stopping"))
    | (some _, router) =>
        { account with
          readRequests := router
          tickets := account.tickets + 1 }.send (.read request)

/-- What a reader does after its time is up. -/
def timeOutRead
    (requestId : Nat)
    (ticket : Ticket)
    (account : TdAccount) : TdAccount × TdEvent :=
  ({ account with
      readRequests :=
        (account.readRequests.unregisterTimedOut
          (UInt64.ofNat requestId) ticket).2 },
    .nothing)

/-- The first locked part of `stop`. -/
def requestClose (account : TdAccount) : TdAccount × TdEvent :=
  if account.manager.isSome ∧ ¬account.stopping then
    { account with
      stopping := true
      authorizationStatus := bytes "Closing" }.send .close
  else
    (account, .nothing)

/-- The second locked part of `stop`, after the receive thread has ended. -/
def reset (account : TdAccount) : TdAccount :=
  { account with
    manager := none
    clientId := 0
    authorizationInputRequestId := 0
    authorizationStatus := bytes "Stopped"
    stopping := false
    running := false }

/-- `join` returns: there is no thread or its function has returned. -/
def canJoin (account : TdAccount) : Bool :=
  match account.receiveThread with
  | none => true
  | some .finished => true
  | some _ => false

/-- The operator's thread goes on inside `stop`. -/
def advanceStop
    (supply : TdSupply)
    (next? : Option TdAccountOptions)
    (account : TdAccount) : StopPhase → TdAccount × TdEvent
  | .closing =>
      let (closing, event) := account.requestClose
      (closing.operatorAt (.stopping .failingReads next?), event)
  | .failingReads =>
      match account.failReadRequests? supply with
      | none => (account, .nothing)
      | some failed =>
          (failed.operatorAt (.stopping .joining next?), .nothing)
  | .joining =>
      if account.canJoin then
        ({ account with receiveThread := none }.operatorAt
          (.stopping .resetting next?), .nothing)
      else
        (account, .nothing)
  | .resetting =>
      (account.reset.operatorAt (.stopping .clearing next?), .nothing)
  | .clearing =>
      (account.clearSensitiveOptions.operatorAt
        (.stopping .emptying next?), .nothing)
  | .emptying =>
      ({ account with options := {} }.operatorAt
        (match next? with
          | none => .idle
          | some options => .installing options),
        .stopped)

/-- The operator's thread goes on inside its function. -/
def advanceOperator
    (supply : TdSupply)
    (account : TdAccount) : OperatorPhase → TdAccount × TdEvent
  | .idle => (account, .nothing)
  | .stopping phase next? => account.advanceStop supply next? phase
  | .installing options =>
      let (installed, event) := account.install supply.clientId options
      (installed.operatorAt .startingThread, event)
  | .startingThread =>
      if supply.threadStarts then
        ((account.receiveAt .checking).operatorAt .activating, .nothing)
      else
        (account.operatorAt .idle, .nothing)
  | .activating =>
      let (activated, event) := account.send .getAuthorizationState
      (activated.operatorAt .idle, event)

/-- The receive thread goes on inside `receive_loop`. -/
def advanceReceive
    (supply : TdSupply)
    (account : TdAccount) : ReceivePhase → TdAccount × TdEvent
  | .checking =>
      (account.receiveAt
        (if account.running then .receiving else .finished), .nothing)
  | .receiving =>
      (account.receiveAt
        (match account.manager, supply.response? with
          | none, _ => .finished
          | some _, none => .checking
          | some _, some response => .routing response),
        .nothing)
  | .routing response =>
      (account.receiveAt
        (if account.readRequests.contains
            (UInt64.ofNat response.requestId) then
          .fulfilling response.requestId
        else
          .discarding response),
        .nothing)
  | .fulfilling requestId =>
      ({ account with
          readRequests :=
            (account.readRequests.takeRegistered
              (UInt64.ofNat requestId)).2 }.receiveAt .checking,
        .nothing)
  | .discarding response =>
      let (late, router) :=
        account.readRequests.discardLate (UInt64.ofNat response.requestId)
      ({ account with readRequests := router }.receiveAt
        (if late then .checking else response.branch), .nothing)
  | .clearingInput requestId code message =>
      ((account.clearAuthorizationInput requestId).receiveAt
        (.reporting code message), .inputErrorProcessed requestId)
  | .reporting code message =>
      ((account.setError
          (bytes "TDLib " ++ toDecimal code.toInt ++ bytes ": " ++
            message)).receiveAt .checking, .nothing)
  | .settingStatus state =>
      ((account.setStatus state.stateName).receiveAt state.branch,
        .stateProcessed state)
  | .sendingParameters =>
      let (parameterised, event) :=
        account.send (.setTdlibParameters account.options.tdlibParameters)
      (parameterised.receiveAt .checking, event)
  | .sendingPhoneNumber =>
      let (sent, event) :=
        account.send
          (.setAuthenticationPhoneNumber account.options.phoneNumber)
      (sent.receiveAt .checking, event)
  | .clearingOptions =>
      (account.clearSensitiveOptions.receiveAt .failingReads, .nothing)
  | .failingReads =>
      match account.failReadRequests? supply with
      | none => (account, .nothing)
      | some failed => (failed.receiveAt .finishing, .nothing)
  | .finishing =>
      ({ account with stopping := true, running := false }.receiveAt
        .checking, .closedProcessed)
  | .finished => (account, .nothing)

/-- A function can be called when the operator's thread is in none. -/
def whenIdle
    (function : TdAccount → TdAccount × TdEvent)
    (account : TdAccount) : TdAccount × TdEvent :=
  match account.operator with
  | .idle => function account
  | _ => (account, .nothing)

/-- One step; a step that no thread can take changes nothing. -/
def step (account : TdAccount) : TdAccountCall → TdAccount × TdEvent
  | .beginAuthorization options =>
      account.whenIdle (beginAuthorization options)
  | .stop =>
      account.whenIdle fun account =>
        (account.operatorAt (.stopping .closing none), .nothing)
  | .submitCode code => account.whenIdle (submitCode code)
  | .submitPassword password => account.whenIdle (submitPassword password)
  | .operator supply => account.advanceOperator supply account.operator
  | .receive supply =>
      match account.receiveThread with
      | none => (account, .nothing)
      | some phase => account.advanceReceive supply phase
  | .requestRead request => account.requestRead request
  | .timeOutRead requestId ticket => account.timeOutRead requestId ticket

end TdAccount

/-- All interleavings of the threads of one account. -/
def tdAccountMachine : Machine TdAccount TdAccountCall TdEvent where
  initial := {}
  step := TdAccount.step

namespace TdAccount

/-- The client and the id under which the account would send now. -/
structure Addresses
    (account : TdAccount)
    (manager : Nat)
    (clientId : Int32)
    (requestId : Nat) : Prop where
  manager : account.manager = some manager
  clientId : account.clientId = clientId
  requestId : account.nextRequestId = requestId

section Sending

variable {account : TdAccount} {function : TdFunction}

/-- Sending consumes a request id and changes nothing else. -/
@[simp] theorem fst_send :
    (account.send function).1 =
      { account with
        nextRequestId :=
          if account.manager.isSome then
            account.nextRequestId + 1
          else
            account.nextRequestId } := by
  unfold send
  cases account with
  | mk _ _ manager =>
      cases manager <;> rfl

/-- What is sent goes to the client of the manager under the next id. -/
theorem snd_send_eq_sent_iff
    {manager requestId : Nat}
    {clientId : Int32}
    {sent : TdFunction} :
    (account.send function).2 =
        .sent manager clientId requestId sent ↔
      account.Addresses manager clientId requestId ∧
        function = sent := by
  unfold send
  constructor
  · intro isSent
    cases owned : account.manager with
    | none =>
        rw [owned] at isSent
        cases isSent
    | some owner =>
        rw [owned] at isSent
        obtain ⟨rfl, rfl, rfl, rfl⟩ := TdEvent.sent.inj isSent
        exact ⟨⟨owned, rfl, rfl⟩, rfl⟩
  · rintro ⟨⟨owned, rfl, rfl⟩, rfl⟩
    rw [owned]

/-- Sending shows nothing but what is sent. -/
theorem snd_send_cases
    (function : TdFunction)
    (account : TdAccount) :
    (account.send function).2 = .nothing ∨
      ∃ manager clientId requestId,
        (account.send function).2 =
          .sent manager clientId requestId function := by
  unfold send
  cases account.manager with
  | none =>
      exact .inl rfl
  | some manager =>
      exact .inr ⟨manager, account.clientId, account.nextRequestId, rfl⟩

end Sending

/-- Failing the pending reads changes the router only. -/
theorem eq_of_failReadRequests?
    {before after : TdAccount}
    {supply : TdSupply}
    (failed : before.failReadRequests? supply = some after) :
    after = { before with readRequests := after.readRequests } := by
  unfold failReadRequests? at failed
  split at failed
  · obtain rfl := Option.some.inj failed
    rfl
  · cases failed

/-- The functions a step can send, with the guards of the step. -/
inductive Sends (account : TdAccount) : TdFunction → Prop where
  | activates
      (here : account.operator = .activating) :
      Sends account .getAuthorizationState
  | closes
      {next? : Option TdAccountOptions}
      (here : account.operator = .stopping .closing next?)
      (first : ¬account.stopping) :
      Sends account .close
  | parameterises
      (here : account.receiveThread = some .sendingParameters) :
      Sends account
        (.setTdlibParameters account.options.tdlibParameters)
  | identifies
      (here : account.receiveThread = some .sendingPhoneNumber) :
      Sends account
        (.setAuthenticationPhoneNumber account.options.phoneNumber)
  | submits
      (kind : InputKind)
      (input : SecretBuffer)
      (present : input.isEmpty = false)
      (free : account.authorizationInputRequestId = 0)
      (asked : account.authorizationStatus = kind.status) :
      Sends account (kind.check input.content)
  | reads
      (request : TdReadFunction)
      (authorized :
        account.authorizationStatus = bytes "Authorized") :
      Sends account (.read request)

section Sends

variable {account : TdAccount}
variable {manager requestId : Nat}
variable {clientId : Int32}
variable {function : TdFunction}

theorem sends_submit
    {kind : InputKind}
    {input : SecretBuffer}
    (sent :
      (account.submit kind input).2 =
        .sent manager clientId requestId function) :
    account.Addresses manager clientId requestId ∧
      account.Sends function := by
  unfold submit at sent
  split at sent
  · cases sent
  · next present =>
      split at sent
      · cases sent
      · next free =>
          split at sent
          · cases sent
          · next asked =>
              obtain ⟨addresses, rfl⟩ := snd_send_eq_sent_iff.mp sent
              rw [not_or, not_not] at asked
              exact ⟨addresses,
                .submits kind input (by simpa using present)
                  (not_not.mp free) asked.2⟩

theorem sends_advanceOperator
    {supply : TdSupply}
    (sent :
      (account.advanceOperator supply account.operator).2 =
        .sent manager clientId requestId function) :
    account.Addresses manager clientId requestId ∧
      account.Sends function := by
  cases here : account.operator with
  | idle =>
      rw [here] at sent
      cases sent
  | stopping phase next? =>
      rw [here] at sent
      simp only [advanceOperator] at sent
      cases phase with
      | closing =>
          simp only [advanceStop, requestClose] at sent
          split at sent
          · next first =>
              obtain ⟨⟨owned, client, next⟩, rfl⟩ :=
                snd_send_eq_sent_iff.mp sent
              exact ⟨⟨owned, client, next⟩, .closes here first.2⟩
          · cases sent
      | failingReads | joining =>
          simp only [advanceStop] at sent
          split at sent <;> cases sent
      | resetting | clearing | emptying =>
          cases sent
  | installing options =>
      rw [here] at sent
      cases sent
  | startingThread =>
      rw [here] at sent
      simp only [advanceOperator] at sent
      split at sent <;> cases sent
  | activating =>
      rw [here] at sent
      obtain ⟨addresses, rfl⟩ := snd_send_eq_sent_iff.mp sent
      exact ⟨addresses, .activates here⟩

theorem sends_advanceReceive
    {supply : TdSupply}
    {phase : ReceivePhase}
    (here : account.receiveThread = some phase)
    (sent :
      (account.advanceReceive supply phase).2 =
        .sent manager clientId requestId function) :
    account.Addresses manager clientId requestId ∧
      account.Sends function := by
  cases phase with
  | sendingParameters =>
      obtain ⟨addresses, rfl⟩ := snd_send_eq_sent_iff.mp sent
      exact ⟨addresses, .parameterises here⟩
  | sendingPhoneNumber =>
      obtain ⟨addresses, rfl⟩ := snd_send_eq_sent_iff.mp sent
      exact ⟨addresses, .identifies here⟩
  | failingReads =>
      simp only [advanceReceive] at sent
      split at sent <;> cases sent
  | checking | receiving | routing | fulfilling | discarding
  | clearingInput | reporting | settingStatus | clearingOptions
  | finishing | finished =>
      cases sent

theorem sends_requestRead
    {request : TdReadFunction}
    (sent :
      (account.requestRead request).2 =
        .sent manager clientId requestId function) :
    account.Addresses manager clientId requestId ∧
      account.Sends function := by
  unfold requestRead at sent
  split at sent
  · cases sent
  · next authorized =>
      simp only [not_or, not_not] at authorized
      split at sent
      · cases sent
      · obtain ⟨⟨owned, client, next⟩, rfl⟩ :=
          snd_send_eq_sent_iff.mp sent
        exact ⟨⟨owned, client, next⟩,
          .reads request authorized.2.2.2⟩

/-- Parameters are sent in one place only. -/
theorem parameterises_of_sends
    {parameters : TdlibParameters}
    (sends : account.Sends (.setTdlibParameters parameters)) :
    account.receiveThread = some .sendingParameters ∧
      parameters = account.options.tdlibParameters := by
  generalize isFunction :
    TdFunction.setTdlibParameters parameters = function at sends
  cases sends with
  | parameterises here =>
      exact ⟨here, TdFunction.setTdlibParameters.inj isFunction⟩
  | submits kind =>
      cases kind <;> cases isFunction
  | activates | closes | identifies | reads =>
      cases isFunction

/-- An input is sent only if none is in flight and TDLib asks for it. -/
theorem asked_of_sends
    {kind : InputKind}
    {text : Bytes}
    (sends : account.Sends (kind.check text)) :
    account.authorizationInputRequestId = 0 ∧
      account.authorizationStatus = kind.status := by
  generalize isFunction : kind.check text = function at sends
  cases sends with
  | submits other input present free asked =>
      cases kind <;> cases other
      case code.code | password.password =>
        exact ⟨free, asked⟩
      case code.password | password.code =>
        cases isFunction
  | activates | closes | parameterises | identifies | reads =>
      cases kind <;> cases isFunction

/-- What a called function answers, if it is called at all. -/
theorem eq_of_snd_whenIdle
    {call : TdAccount → TdAccount × TdEvent}
    {event : TdEvent}
    (answered : (account.whenIdle call).2 = event)
    (loud : event ≠ .nothing) :
    (call account).2 = event := by
  unfold whenIdle at answered
  split at answered
  · exact answered
  · exact absurd answered.symm loud

/-- Everything that is sent is one of the known functions. -/
theorem sends_of_step
    {call : TdAccountCall}
    (sent :
      (account.step call).2 =
        .sent manager clientId requestId function) :
    account.Addresses manager clientId requestId ∧
      account.Sends function := by
  cases call with
  | beginAuthorization options =>
      have refused := eq_of_snd_whenIdle sent (by simp)
      unfold beginAuthorization at refused
      split at refused <;> cases refused
  | stop =>
      cases eq_of_snd_whenIdle sent (by simp)
  | submitCode code =>
      exact sends_submit (eq_of_snd_whenIdle sent (by simp))
  | submitPassword password =>
      exact sends_submit (eq_of_snd_whenIdle sent (by simp))
  | operator supply =>
      exact sends_advanceOperator sent
  | receive supply =>
      cases here : account.receiveThread with
      | none =>
          simp [step, here] at sent
      | some phase =>
          simp only [step, here] at sent
          exact sends_advanceReceive here sent
  | requestRead request =>
      exact sends_requestRead sent
  | timeOutRead requestId ticket =>
      cases sent

end Sends

end TdAccount

/-- Complete options. -/
def workOptions : TdAccountOptions where
  accountId := bytes "work"
  databaseDirectory := bytes "data/tdlib/work/db"
  filesDirectory := bytes "data/tdlib/work/files"
  apiId := 12345
  apiHash := { content := bytes "hash", bounded := by decide +kernel }
  databaseEncryptionKey :=
    { content := bytes "key", bounded := by decide +kernel }
  phoneNumber := bytes "+100"

/-- The calls that lead from a stopped account to a running one. -/
def startedSession : List TdAccountCall :=
  .beginAuthorization workOptions :: List.replicate 9 (.operator {})

/-- The receive thread takes an authorization state as far as its status. -/
def receivedState (state : TdAuthorizationState) : List TdAccountCall :=
  .receive {} ::
    .receive { response? := some {
      requestId := 0
      object := .updateAuthorizationState (some state)
    } } ::
      List.replicate 3 (.receive {})

end TgGate
