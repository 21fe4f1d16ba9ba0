import TgGate.ChatAllowlist
import TgGate.PortReads

namespace TgGate

open Library

/-!
# Which messages a client is shown

`get_messages` forwards what the port returns.  With the accounts behind the port
every message of a response is made of an entry of TDLib's answer to a request
for the history of the chat that the client asked for, so the policy's check of
that chat is enough if TDLib's histories keep to their chat.
-/

/-- A result with its value wrapped. -/
def Result.map
    {Value Other : Type}
    (wrap : Value → Other) : Result Value → Result Other
  | .value own => .value (wrap own)
  | .error message => .error message

namespace TdTelegramService

/-- Some call of the port has returned this in the run. -/
def HasReturned
    (calls : List TdTelegramServiceCall)
    (accountId : Bytes)
    (call : ReadCall)
    (result : Result ReadValue) : Prop :=
  ∃ (index : Nat) (caller : PortCaller),
    (tdTelegramService.state calls).callers[index]? = some caller ∧
      caller.accountId = accountId ∧
        caller.call = call ∧
          (tdTelegramService.state calls).result? caller = some result

/-- The port answers as the accounts did in a run; it may also throw. -/
structure Serves
    (calls : List TdTelegramServiceCall)
    (telegram : ITelegramService) : Prop where
  listChats :
    ∀ accountId result,
      telegram.listChats accountId = .ok result →
      HasReturned calls accountId .listChats (result.map .chats)
  getMessages :
    ∀ accountId chatId limit result,
      telegram.getMessages accountId chatId limit = .ok result →
      HasReturned calls accountId (.getMessages chatId limit)
        (result.map .messages)
  sendMessage :
    ∀ accountId chatId text result,
      telegram.sendMessage accountId chatId text = .ok result →
      result = sendMessage accountId chatId text

end TdTelegramService

/-- Every answer to a request for a history holds messages of its chat only. -/
def ReadRecord.KeepsToChats (record : ReadRecord) : Prop :=
  ∀ position chatId limit history,
    record.Answered position (.getChatHistory chatId limit)
        (.messages history) →
    ∀ message : TdMessage, some message ∈ history →
    message.chatId = chatId

/-- A text message is its entry's, with the chat of the entry. -/
theorem exists_entry_of_textMessage?
    {entry : Option TdMessage}
    {message : Message}
    (made : textMessage? entry = some message) :
    ∃ original,
      entry = some original ∧
        message.id = original.id ∧
          message.chatId = original.chatId ∧
            original.content? = some (.text (some message.text)) := by
  unfold textMessage? at made
  split at made
  · obtain rfl := Option.some.inj made
    exact ⟨_, rfl, rfl, rfl, rfl⟩
  · cases made

/-- A message that the port returned is an entry of the chat's history. -/
theorem exists_entry_of_getMessages
    {calls : List TdTelegramServiceCall}
    {telegram : ITelegramService}
    {accountId : Bytes}
    {chatId : Int64}
    {limit : UInt64}
    {messages : List Message}
    (serves : TdTelegramService.Serves calls telegram)
    (returned :
      telegram.getMessages accountId chatId limit =
        .ok (.value messages))
    {message : Message}
    (member : message ∈ messages) :
    ∃ address position history entry,
      (accountRecord address
          (tdTelegramService.history calls)).Answered position
            (.getChatHistory chatId (Int32.ofNat limit.toNat))
            (.messages history) ∧
        some entry ∈ history ∧
          textMessage? (some entry) = some message := by
  obtain ⟨index, caller, found, sameId, sameCall, result⟩ :=
    serves.getMessages accountId chatId limit _ returned
  cases place : caller.place with
  | found account? =>
      cases account? <;>
        simp only [TdTelegramService.result?, place] at result <;>
        cases result
  | inside address position =>
      have outcome := readOutcome_of_inside found place result
      rw [sameCall] at outcome
      obtain ⟨history, -, answered, rfl⟩ := outcome.yields
      obtain ⟨listed?, isEntry, made⟩ := List.mem_filterMap.mp member
      obtain ⟨entry, rfl, -⟩ := exists_entry_of_textMessage? made
      exact ⟨address, position, history, entry, answered, isEntry, made⟩

namespace TelegramApplicationService

/--
With the accounts behind the port, in every interleaving a response to
`get_messages` shows allowlisted chats only, provided that TDLib's histories hold
messages of the chat they were asked for.
-/
theorem shown_messages_are_allowed
    {calls : List TdTelegramServiceCall}
    {environment : Environment}
    (serves : TdTelegramService.Serves calls environment.telegram)
    (keeps :
      ∀ address,
        (accountRecord address
          (tdTelegramService.history calls)).KeepsToChats)
    (service : TelegramApplicationService)
    (profile : McpClientProfile)
    (accountId : Bytes)
    (chatId : Int64)
    (limit : UInt64) :
    ShowsAllowedChatsOnly profile (bytes "messages") (bytes "chat_id")
      (service.getMessages policyEngine environment profile accountId
        chatId limit).1 := by
  refine (service.getMessages_showsAllowedChatsOnly_iff policyEngine
    environment profile accountId chatId limit).mpr ?_
  intro allowed messages returned message member
  have permitted :
      (policyEngine.evaluate profile
        { toolName := bytes "telegram_get_messages"
          accountId := accountId
          chatId := some chatId }).effect ≠ .deny := by
    intro denied
    simp [PolicyDecision.isAllowed, denied] at allowed
  obtain ⟨address, position, history, entry, answered, isEntry, made⟩ :=
    exists_entry_of_getMessages serves returned member
  obtain ⟨original, isOriginal, -, sameChat, -⟩ :=
    exists_entry_of_textMessage? made
  obtain rfl := Option.some.inj isOriginal
  rw [sameChat, keeps address position chatId _ history answered entry
    isEntry]
  exact (listed_of_permitted permitted).chat chatId rfl

end TelegramApplicationService

/-- TDLib answers the request of a call for a history. -/
def historyAnswer : TdApiResponse where
  requestId := 2
  object := .messages [
    some {
      id := 1
      chatId := 42
      content? := some (.text (some (bytes "hello"))) },
    none,
    some { id := 2, chatId := 42, content? := some .other }]

/-- A call reads the history of chat 42. -/
def historyReading : List TdTelegramServiceCall :=
  [.makeAccount] ++ accountSteps 0 authorizedReading ++
    [.attach (bytes "work") (some 0),
      .lookUp (bytes "work") (.getMessages 42 50),
      .enter 0] ++
    accountSteps 0
      ([.read 0, .read 0] ++
        receivedAnswer historyAnswer.requestId historyAnswer.object ++
        [.read 0])

set_option maxRecDepth 2000 in
theorem accountRecord_historyReading :
    accountRecord 0 (tdTelegramService.history historyReading) = {
      sent := [{
        reader := 0
        manager := 0
        requestId := 2
        request := .getChatHistory 42 50 }]
      received := [
        (0, {
          requestId := 0
          object := .updateAuthorizationState (some .ready) }),
        (0, historyAnswer)] } :=
  rfl

set_option maxRecDepth 2000 in
theorem length_accounts_historyReading :
    (tdTelegramService.state historyReading).accounts.length = 1 :=
  rfl

/-- The histories of the run hold messages of chat 42 only. -/
theorem keepsToChats_historyReading (address : Nat) :
    (accountRecord address
      (tdTelegramService.history historyReading)).KeepsToChats := by
  intro position chatId limit history answered message member
  obtain ⟨sent, isSent, -, asked, response, received, -, isHistory⟩ :=
    answered
  cases address with
  | zero =>
      rw [accountRecord_historyReading] at isSent received
      obtain rfl := List.mem_singleton.mp isSent
      cases asked
      rcases List.mem_cons.mp received with isUpdate | received
      · cases isUpdate
        cases isHistory
      · obtain rfl :=
          (Prod.mk.inj (List.mem_singleton.mp received)).2
        cases isHistory
        simp only [List.mem_cons, Option.some.injEq, reduceCtorEq,
          List.not_mem_nil, or_false, false_or] at member
        rcases member with rfl | rfl <;> rfl
  | succ address =>
      have unborn :=
        (accounts_run historyReading).unborn (address + 1)
          (by rw [length_accounts_historyReading]; omega)
      rw [accountRecord, unborn] at isSent
      cases isSent

/-- The port of the call. -/
def historyPort : ITelegramService where
  listChats _ := .error .runtimeError
  getMessages accountId chatId limit :=
    if accountId = bytes "work" ∧ chatId = 42 ∧ limit = 50 then
      .ok (.value [{ id := 1, chatId := 42, text := bytes "hello" }])
    else
      .error .runtimeError
  sendMessage accountId chatId text :=
    .ok (TdTelegramService.sendMessage accountId chatId text)

set_option maxRecDepth 2000 in
theorem serves_historyPort :
    TdTelegramService.Serves historyReading historyPort where
  listChats _ _ thrown := by cases thrown
  getMessages accountId chatId limit result returned := by
    simp only [historyPort] at returned
    split at returned
    · next own =>
        obtain ⟨rfl, rfl, rfl⟩ := own
        cases returned
        exact ⟨0,
          { accountId := bytes "work"
            call := .getMessages 42 50
            place := .inside 0 0 },
          rfl, rfl, rfl, rfl⟩
    · cases returned
  sendMessage accountId chatId text result returned := by
    cases returned
    rfl

theorem shown_messages_are_allowed_history :
    ShowsAllowedChatsOnly TelegramApplicationService.chatReader
      (bytes "messages") (bytes "chat_id")
      (TelegramApplicationService.getMessages {} policyEngine
        { telegram := historyPort }
        TelegramApplicationService.chatReader (bytes "work") 42 50).1 :=
  TelegramApplicationService.shown_messages_are_allowed
    serves_historyPort keepsToChats_historyReading {}
    TelegramApplicationService.chatReader (bytes "work") 42 50

end TgGate
