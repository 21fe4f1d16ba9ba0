import TgGate.TelegramApplication

namespace TgGate

open Library

/-!
# Which chats a response may show

The two read tools treat the backend differently.  `listChats` filters what the
backend returns against the allowlist of the profile.  `getMessages` checks the
chat that was asked for and then forwards whatever messages come back.
-/

/-- The elements of an array member of a response; none if it has no such. -/
def responseItems (response : Json) (arrayKey : Bytes) : List Json :=
  match response.find? arrayKey with
  | some (.array elements) => elements
  | _ => []

/-- A response item names an allowlisted chat under the given key. -/
def NamesAllowedChat
    (profile : McpClientProfile)
    (chatKey : Bytes)
    (item : Json) : Prop :=
  ∃ chatId ∈ profile.allowedChats,
    item.find? chatKey = some (.numberInteger chatId)

/-- Every item of a response, if there is one, names an allowlisted chat. -/
def ShowsAllowedChatsOnly
    (profile : McpClientProfile)
    (arrayKey chatKey : Bytes)
    (outcome : Except Exception Json) : Prop :=
  ∀ response,
    outcome = .ok response →
    ∀ item ∈ responseItems response arrayKey,
      NamesAllowedChat profile chatKey item

namespace TelegramApplicationService

/-- A failed request shows no items. -/
theorem showsAllowedChatsOnly_error
    {profile : McpClientProfile}
    {arrayKey chatKey message : Bytes}
    (notOk : arrayKey ≠ bytes "ok")
    (notError : arrayKey ≠ bytes "error") :
    ShowsAllowedChatsOnly profile arrayKey chatKey
      (.ok (error message)) := by
  intro response same item member
  cases same
  simp [responseItems, error, notOk, notError] at member

@[simp] theorem namesAllowedChat_chatJson
    {profile : McpClientProfile}
    {chat : Chat} :
    NamesAllowedChat profile (bytes "id") (chatJson chat) ↔
      chat.id ∈ profile.allowedChats := by
  simp [NamesAllowedChat, chatJson]

@[simp] theorem namesAllowedChat_messageJson
    {profile : McpClientProfile}
    {message : Message} :
    NamesAllowedChat profile (bytes "chat_id") (messageJson message) ↔
      message.chatId ∈ profile.allowedChats := by
  simp [NamesAllowedChat, messageJson]

section Responses

variable
  (service : TelegramApplicationService)
  (engine : IPolicyEngine)
  (environment : Environment)
  (profile : McpClientProfile)
  (accountId : Bytes)

/-- Listed chats are filtered, whatever the backend returns. -/
theorem listChats_showsAllowedChatsOnly :
    ShowsAllowedChatsOnly profile (bytes "chats") (bytes "id")
      (service.listChats engine environment profile accountId).1 := by
  simp only [listChats]
  split
  · exact showsAllowedChatsOnly_error (by simp) (by simp)
  · split
    · intro response thrown
      cases thrown
    · exact showsAllowedChatsOnly_error (by simp) (by simp)
    · intro response same item member
      cases same
      simp only [responseItems, Json.find?_ofMembers,
        Json.lookupMember_cons, bytes_inj, String.reduceEq,
        ↓reduceIte, List.mem_map, List.mem_filter,
        contains_eq_true] at member
      rcases member with ⟨chat, ⟨-, allowed⟩, rfl⟩
      exact namesAllowedChat_chatJson.mpr allowed

/--
What a backend must return for `getMessages` to show allowlisted chats only:
if the request passes the policy and messages come back, each of them belongs
to an allowlisted chat.
-/
def BackendKeepsToAllowedChats (chatId : Int64) (limit : UInt64) : Prop :=
  (engine.evaluate profile
      { toolName := bytes "telegram_get_messages"
        accountId := accountId
        chatId := some chatId }).isAllowed = true →
    ∀ messages,
      environment.telegram.getMessages accountId chatId
          (min limit kMaximumMessages) =
        .ok (.value messages) →
      ∀ message ∈ messages, message.chatId ∈ profile.allowedChats

/-- Messages are forwarded, so the backend decides which chats are shown. -/
theorem getMessages_showsAllowedChatsOnly_iff
    (chatId : Int64)
    (limit : UInt64) :
    ShowsAllowedChatsOnly profile (bytes "messages") (bytes "chat_id")
        (service.getMessages engine environment profile
          accountId chatId limit).1 ↔
      BackendKeepsToAllowedChats engine environment profile
        accountId chatId limit := by
  simp only [getMessages, BackendKeepsToAllowedChats]
  split
  · next denied =>
      refine iff_of_true
        (showsAllowedChatsOnly_error (by simp) (by simp)) ?_
      intro allowed
      simp [allowed] at denied
  · next allowed =>
      simp only [Bool.not_eq_true', Bool.not_eq_false] at allowed
      cases environment.telegram.getMessages accountId chatId
          (min limit kMaximumMessages) with
      | error thrown =>
          refine iff_of_true ?_ ?_
          · intro response same
            cases same
          · intro _ messages same
            cases same
      | ok answer =>
          cases answer with
          | error message =>
              refine iff_of_true
                (showsAllowedChatsOnly_error (by simp) (by simp)) ?_
              intro _ messages same
              cases same
          | value messages =>
              simp [ShowsAllowedChatsOnly, responseItems, allowed]

/--
Chat titles and messages of other chats stay hidden: for `listChats` always,
for `getMessages` exactly when the backend keeps to allowlisted chats.
-/
theorem showsAllowedChatsOnly_iff
    (chatId : Int64)
    (limit : UInt64) :
    ShowsAllowedChatsOnly profile (bytes "chats") (bytes "id")
        (service.listChats engine environment profile accountId).1 ∧
      (ShowsAllowedChatsOnly profile (bytes "messages")
          (bytes "chat_id")
          (service.getMessages engine environment profile
            accountId chatId limit).1 ↔
        BackendKeepsToAllowedChats engine environment profile
          accountId chatId limit) :=
  ⟨service.listChats_showsAllowedChatsOnly engine environment profile
      accountId,
    service.getMessages_showsAllowedChatsOnly_iff engine environment
      profile accountId chatId limit⟩

end Responses

/-- A client that may read one chat. -/
def chatReader : McpClientProfile where
  id := bytes "reader"
  allowedAccounts := [bytes "work"]
  allowedTools := [bytes "telegram_get_messages"]
  allowedChats := [42]

/-- A backend that answers with a message of another chat. -/
def strayBackend : ITelegramService where
  listChats := unavailableTelegramService.listChats
  getMessages _ _ _ :=
    .ok (.value
      [{ id := 1, chatId := 7, text := bytes "not for this client" }])
  sendMessage := unavailableTelegramService.sendMessage

/-- The stray message reaches the client. -/
theorem getMessages_showsStrayMessage :
    ∃ response,
      (getMessages {} policyEngine { telegram := strayBackend }
          chatReader (bytes "work") 42 50).1 = .ok response ∧
        ∃ item ∈ responseItems response (bytes "messages"),
          ¬ NamesAllowedChat chatReader (bytes "chat_id") item := by
  refine ⟨_, rfl, messageJson
    { id := 1, chatId := 7, text := bytes "not for this client" },
    List.mem_singleton.mpr rfl, ?_⟩
  rw [namesAllowedChat_messageJson]
  decide

end TelegramApplicationService

end TgGate
