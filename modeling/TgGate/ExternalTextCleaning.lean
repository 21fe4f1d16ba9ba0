import TgGate.ChatAllowlist
import TgGate.ExternalText

namespace TgGate

open Library

/-!
# Which responses carry clean external text

Both read tools tag what comes from Telegram as untrusted.  `getMessages` sends
every text through `sanitizeExternalText`; `listChats` forwards titles as the
backend returns them.
-/

/-- The truncation marker. -/
def truncationMarker : Bytes :=
  bytes "… [truncated]"

/-- A byte that external text may contain. -/
def KeptByte (byte : UInt8) : Prop :=
  byte < 0x20 → byte = 10 ∨ byte = 9

/-- No control bytes, and at most as long as a truncated text. -/
structure CleanText (text : Bytes) : Prop where
  printable :
    ∀ byte ∈ text, KeptByte byte
  bounded :
    text.length ≤
      TelegramApplicationService.kMaximumExternalTextBytes +
        truncationMarker.length

/-- The texts of the response items that are tagged as external. -/
def externalTexts
    (response : Json)
    (arrayKey textKey : Bytes) : List Bytes :=
  (responseItems response arrayKey).filterMap fun item =>
    match item.find? (bytes "trust"), item.find? textKey with
    | some (.string trust), some (.string text) =>
        if trust = TelegramApplicationService.kExternalTrust then
          some text
        else
          none
    | _, _ => none

/-- Every external text of a response, if there is one, is clean. -/
def ShowsCleanText
    (arrayKey textKey : Bytes)
    (outcome : Except Exception Json) : Prop :=
  ∀ response,
    outcome = .ok response →
    ∀ text ∈ externalTexts response arrayKey textKey, CleanText text

namespace TelegramApplicationService

/-- Filtering leaves no control byte. -/
theorem keptByte_of_mem_keptText
    {text : Bytes}
    {byte : UInt8}
    (member : byte ∈ keptText text) :
    KeptByte byte := by
  intro control
  have kept := (List.mem_filter.mp member).2
  simp only [control, decide_true, Bool.true_and,
    Bool.not_eq_true', Bool.and_eq_false_iff, decide_eq_false_iff_not,
    ne_eq, Decidable.not_not] at kept
  exact kept

/-- The marker itself needs no cleaning. -/
theorem keptByte_of_mem_truncationMarker
    {byte : UInt8}
    (member : byte ∈ truncationMarker) :
    KeptByte byte := by
  have every : keptText truncationMarker = truncationMarker := by
    decide
  rw [← every] at member
  exact keptByte_of_mem_keptText member

/-- Sanitised text is clean. -/
theorem cleanText_sanitizeExternalText (text : Bytes) :
    CleanText (sanitizeExternalText text) := by
  have sanitized :
      sanitizeExternalText text =
        if (keptText text).length > kMaximumExternalTextBytes then
          (keptText text).take kMaximumExternalTextBytes ++
            truncationMarker
        else
          keptText text :=
    rfl
  rw [sanitized]
  split
  · refine ⟨fun byte member => ?_, ?_⟩
    · rcases List.mem_append.mp member with front | marker
      · exact keptByte_of_mem_keptText (List.mem_of_mem_take front)
      · exact keptByte_of_mem_truncationMarker marker
    · rw [List.length_append]
      exact Nat.add_le_add_right (List.length_take_le _ _) _
  · next short =>
      exact ⟨fun byte member => keptByte_of_mem_keptText member,
        Nat.le_add_right_of_le (Nat.not_lt.mp short)⟩

/-- A failed request shows no external text. -/
theorem showsCleanText_error
    {arrayKey textKey message : Bytes}
    (notOk : arrayKey ≠ bytes "ok")
    (notError : arrayKey ≠ bytes "error") :
    ShowsCleanText arrayKey textKey (.ok (error message)) := by
  intro response same text member
  obtain rfl := Except.ok.inj same
  simp [externalTexts, responseItems, error, notOk, notError] at member

/-- A response with chats carries their titles as they are. -/
theorem externalTexts_chats (chats : List Chat) :
    externalTexts
        (.ofMembers
          [(bytes "ok", .boolean true),
            (bytes "chats", .array (chats.map chatJson))])
        (bytes "chats") (bytes "title") =
      chats.map Chat.title := by
  simp [externalTexts, responseItems, List.filterMap_map,
    Function.comp_def, chatJson, List.filterMap_eq_map']

/-- A response with messages carries their sanitised texts. -/
theorem externalTexts_messages (messages : List Message) :
    externalTexts (messagesResult messages)
        (bytes "messages") (bytes "text") =
      messages.map fun message => sanitizeExternalText message.text := by
  simp [externalTexts, responseItems, messagesResult,
    List.filterMap_map, Function.comp_def, messageJson,
    List.filterMap_eq_map']

/--
What a backend must return for `listChats` to show clean titles: if the request
passes the policy and chats come back, the listed ones are titled cleanly.
-/
def BackendTitlesClean
    (engine : IPolicyEngine)
    (environment : Environment)
    (profile : McpClientProfile)
    (accountId : Bytes) : Prop :=
  (engine.evaluate profile
      { toolName := bytes "telegram_list_chats"
        accountId := accountId }).isAllowed = true →
    ∀ chats,
      environment.telegram.listChats accountId = .ok (.value chats) →
      ∀ chat ∈ chats,
        chat.id ∈ profile.allowedChats →
        CleanText chat.title

section Responses

variable
  (service : TelegramApplicationService)
  (engine : IPolicyEngine)
  (environment : Environment)
  (profile : McpClientProfile)
  (accountId : Bytes)

/-- Titles are forwarded, so the backend decides whether they are clean. -/
theorem listChats_showsCleanText_iff :
    ShowsCleanText (bytes "chats") (bytes "title")
        (service.listChats engine environment profile accountId).1 ↔
      BackendTitlesClean engine environment profile accountId := by
  simp only [listChats, BackendTitlesClean]
  split
  · next denied =>
      refine iff_of_true
        (showsCleanText_error (by simp) (by simp)) ?_
      intro allowed
      simp [allowed] at denied
  · next allowed =>
      simp only [Bool.not_eq_true', Bool.not_eq_false] at allowed
      cases environment.telegram.listChats accountId with
      | error thrown =>
          refine iff_of_true ?_ ?_
          · intro response same
            cases same
          · intro _ chats same
            cases same
      | ok answer =>
          cases answer with
          | error message =>
              refine iff_of_true
                (showsCleanText_error (by simp) (by simp)) ?_
              intro _ chats same
              cases same
          | value chats =>
              simp only [ShowsCleanText, Except.ok.injEq, forall_eq',
                externalTexts_chats, List.forall_mem_map,
                List.mem_filter, contains_eq_true, and_imp, allowed,
                Result.value.injEq, forall_const]

/-- Message texts are sanitised, whatever the backend returns. -/
theorem getMessages_showsCleanText (chatId : Int64) (limit : UInt64) :
    ShowsCleanText (bytes "messages") (bytes "text")
      (service.getMessages engine environment profile
        accountId chatId limit).1 := by
  simp only [getMessages]
  split
  · exact showsCleanText_error (by simp) (by simp)
  · split
    · intro response thrown
      cases thrown
    · exact showsCleanText_error (by simp) (by simp)
    · next messages _ =>
        intro response same text member
        obtain rfl := Except.ok.inj same
        rw [← messagesResult, externalTexts_messages] at member
        obtain ⟨message, -, rfl⟩ := List.mem_map.mp member
        exact cleanText_sanitizeExternalText _

/--
Both read tools show clean text only, exactly when the backend titles the
listed chats cleanly.
-/
theorem showsCleanText_iff (chatId : Int64) (limit : UInt64) :
    (ShowsCleanText (bytes "chats") (bytes "title")
        (service.listChats engine environment profile accountId).1 ∧
      ShowsCleanText (bytes "messages") (bytes "text")
        (service.getMessages engine environment profile
          accountId chatId limit).1) ↔
      BackendTitlesClean engine environment profile accountId := by
  rw [listChats_showsCleanText_iff]
  exact and_iff_left
    (service.getMessages_showsCleanText engine environment profile
      accountId chatId limit)

end Responses

/-- A backend with a chat whose title clears the terminal. -/
def escapeTitleBackend : ITelegramService where
  listChats _ :=
    .ok (.value [{ id := 42, title := 0x1B :: bytes "[2J" }])
  getMessages := unavailableTelegramService.getMessages
  sendMessage := unavailableTelegramService.sendMessage

/-- A client that may list that chat. -/
def titleReader : McpClientProfile where
  id := bytes "reader"
  allowedAccounts := [bytes "work"]
  allowedTools := [bytes "telegram_list_chats"]
  allowedChats := [42]

/-- The escape sequence reaches the client. -/
theorem listChats_showsEscapeTitle :
    ¬ ShowsCleanText (bytes "chats") (bytes "title")
      (listChats {} policyEngine { telegram := escapeTitleBackend }
        titleReader (bytes "work")).1 := by
  rw [listChats_showsCleanText_iff]
  intro clean
  have title :=
    clean rfl _ rfl { id := 42, title := 0x1B :: bytes "[2J" }
      (List.mem_singleton.mpr rfl) (List.mem_singleton.mpr rfl)
  exact absurd (title.printable 0x1B List.mem_cons_self) (by
    unfold KeptByte
    decide)

end TelegramApplicationService

end TgGate
