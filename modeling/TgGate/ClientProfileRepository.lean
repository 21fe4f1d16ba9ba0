import Mathlib.Data.List.Forall2
import TgGate.Library.JsonText
import TgGate.Policy

namespace TgGate

open Library

/-!
# Client profiles: default deny

`ClientProfileRepository` reads the permissions of the MCP clients from
`clients.json`.  Every permission is optional in the document, and what is left
out must not be granted by the policy engine.  `Grants` says what an entry of the
document grants by itself; `evaluate_of_readsAs` relates it to the decision that
the engine makes on the parsed profile.
-/

namespace ClientProfileRepository

/-- `parse_write_policy`. -/
def parseWritePolicy (value : Bytes) : Option WritePolicy :=
  if value = bytes "deny" then
    some .deny
  else if value = bytes "require_approval" then
    some .requireApproval
  else if value = bytes "auto_approve" then
    some .autoApprove
  else
    none

/-- The fields of the document. -/
def rootFields : List Bytes :=
  [bytes "schema_version", bytes "clients"]

/-- The fields of a client entry. -/
def clientFields : List Bytes := [
  bytes "id",
  bytes "display_name",
  bytes "enabled",
  bytes "allowed_accounts",
  bytes "allowed_tools",
  bytes "allowed_chats",
  bytes "write_policy"
]

/-- Read the fields of one entry, except for its write policy. -/
def readClient
    (library : DocumentLibrary)
    (value : Json) : Except JsonException McpClientProfile := do
  let id ← value.stringAt (bytes "id")
  let displayName ← value.stringAt (bytes "display_name")
  let enabled ← value.valueOr (bytes "enabled") Json.getBoolean true
  let allowedAccounts ←
    value.valueOr (bytes "allowed_accounts") Json.getStrings []
  let allowedTools ←
    value.valueOr (bytes "allowed_tools") Json.getStrings []
  let allowedChats ←
    value.valueOr (bytes "allowed_chats")
      (Json.getInt64s library.toJsonLibrary) []
  return {
    id := id
    displayName := displayName
    enabled := enabled
    allowedAccounts := allowedAccounts
    allowedTools := allowedTools
    allowedChats := allowedChats
  }

/-- The write policy an entry states. -/
def readWritePolicy
    (value : Json) : Except JsonException (Option WritePolicy) := do
  let writePolicy ←
    value.valueOr (bytes "write_policy") Json.getString (bytes "deny")
  return parseWritePolicy writePolicy

/-- Accept an entry next to the entries before it. -/
def acceptClient
    (identifiers : List Bytes)
    (profile : McpClientProfile)
    (writePolicy? : Option WritePolicy) :
    Except ParseFailure McpClientProfile :=
  let invalid :=
    bytes ("Every client needs a unique non-empty id and " ++
      "a valid write_policy")
  if profile.id.isEmpty || profile.id ∈ identifiers then
    .error (.rejected invalid)
  else
    match writePolicy? with
    | none => .error (.rejected invalid)
    | some writePolicy => .ok { profile with writePolicy := writePolicy }

/-- The loop over the entries. -/
def parseClients
    (library : DocumentLibrary)
    (identifiers : List Bytes) :
    List Json → Except ParseFailure (List McpClientProfile)
  | [] => .ok []
  | value :: rest => do
      ParseFailure.require value.isObject
        (bytes "A client profile must be an object")
      ParseFailure.require (value.keys.all (· ∈ clientFields))
        (bytes "Unknown field in client profile")
      let profile ← ParseFailure.mayThrow (readClient library value)
      let writePolicy? ← ParseFailure.mayThrow (readWritePolicy value)
      let profile ← acceptClient identifiers profile writePolicy?
      let parsed ← parseClients library (profile.id :: identifiers) rest
      return profile :: parsed

/-- The member `clients` is an array. -/
def hasClientsArray (document : Json) : Bool :=
  match document.find? (bytes "clients") with
  | some clients => clients.isArray
  | none => false

/-- `ClientProfileRepository::parse`. -/
def parse
    (library : DocumentLibrary)
    (document : Json) : Except ParseFailure (List McpClientProfile) := do
  let malformed :=
    bytes ("Client configuration requires schema_version 1 " ++
      "and a clients array")
  ParseFailure.require document.isObject malformed
  let schemaVersion ←
    ParseFailure.mayThrow
      (document.valueOr (bytes "schema_version")
        (Json.getInt32 library) 0)
  ParseFailure.require (schemaVersion = 1) malformed
  ParseFailure.require (hasClientsArray document) malformed
  ParseFailure.require (document.keys.all (· ∈ rootFields))
    (bytes "Unknown field in client configuration")
  ParseFailure.rejectThrown
      (bytes "Invalid client profile field type") do
    let clients ← ParseFailure.mayThrow (document.atKey (bytes "clients"))
    parseClients library [] clients.elements

/-- `ClientProfileRepository::load` of a file that may be missing. -/
def load
    (library : DocumentLibrary)
    (content : Option Bytes) :
    Except ParseFailure (List McpClientProfile) :=
  match content with
  | none =>
      .error (.rejected (bytes "Cannot open client profile file"))
  | some text =>
      ParseFailure.rejectThrown
          (bytes "Client profile file is not valid JSON") do
        let document ← ParseFailure.mayThrow (library.parse text)
        parse library document

/-- An entry lists a value, as its elements are converted, under a key. -/
def Lists
    {Value : Type}
    (convert : Json → Except JsonException Value)
    (client : Json)
    (key : Bytes)
    (value : Value) : Prop :=
  ∃ elements,
    client.find? key = some (.array elements) ∧
      ∃ element ∈ elements, convert element = .ok value

/-- What an entry states about writes, and its effect. -/
inductive StatesWriteEffect (client : Json) : PolicyEffect → Prop where
  | autoApprove
      (stated :
        client.find? (bytes "write_policy") =
          some (.string (bytes "auto_approve"))) :
      StatesWriteEffect client .allow
  | requireApproval
      (stated :
        client.find? (bytes "write_policy") =
          some (.string (bytes "require_approval"))) :
      StatesWriteEffect client .requireApproval

/-- The entry of the document grants an invocation with an effect. -/
structure Grants
    (library : DocumentLibrary)
    (client : Json)
    (invocation : ToolInvocation)
    (effect : PolicyEffect) : Prop where
  enabled :
    client.find? (bytes "enabled") ≠ some (.boolean false)
  account :
    Lists Json.getString client (bytes "allowed_accounts")
      invocation.accountId
  tool :
    Lists Json.getString client (bytes "allowed_tools")
      invocation.toolName
  chat :
    ∀ chatId ∈ invocation.chatId,
      Lists (Json.getInt64 library.toJsonLibrary) client
        (bytes "allowed_chats") chatId
  read :
    invocation.isWrite = false → effect = .allow
  write :
    invocation.isWrite = true → StatesWriteEffect client effect

/-- What the parser has read from an entry into a profile. -/
structure ReadsAs
    (library : DocumentLibrary)
    (client : Json)
    (profile : McpClientProfile) : Prop where
  enabled :
    client.valueOr (bytes "enabled") Json.getBoolean true =
      .ok profile.enabled
  allowedAccounts :
    client.valueOr (bytes "allowed_accounts") Json.getStrings [] =
      .ok profile.allowedAccounts
  allowedTools :
    client.valueOr (bytes "allowed_tools") Json.getStrings [] =
      .ok profile.allowedTools
  allowedChats :
    client.valueOr (bytes "allowed_chats")
        (Json.getInt64s library.toJsonLibrary) [] =
      .ok profile.allowedChats
  writePolicy :
    readWritePolicy client = .ok (some profile.writePolicy)

section ReadsAs

variable {library : DocumentLibrary}
variable {client : Json}
variable {profile : McpClientProfile}

/-- An accepted entry is read as its profile. -/
theorem readsAs_of_acceptClient
    {identifiers : List Bytes}
    {fields : McpClientProfile}
    {writePolicy? : Option WritePolicy}
    (read : readClient library client = .ok fields)
    (policy : readWritePolicy client = .ok writePolicy?)
    (accepted :
      acceptClient identifiers fields writePolicy? = .ok profile) :
    ReadsAs library client profile := by
  unfold acceptClient at accepted
  split at accepted
  · cases accepted
  · cases writePolicy? with
    | none =>
        cases accepted
    | some writePolicy =>
        obtain rfl := Except.ok.inj accepted
        simp only [readClient, Json.bind_eq_ok_iff] at read
        obtain ⟨id, -, displayName, -, enabled, enabledRead, accounts,
          accountsRead, tools, toolsRead, chats, chatsRead, shape⟩ := read
        obtain rfl := Except.ok.inj shape
        exact ⟨enabledRead, accountsRead, toolsRead, chatsRead, policy⟩

theorem enabled_iff (reads : ReadsAs library client profile) :
    profile.enabled = true ↔
      client.find? (bytes "enabled") ≠ some (.boolean false) := by
  rcases Json.valueOr_eq_ok_iff.mp reads.enabled with
    ⟨member, found, converted⟩ | ⟨-, absent, isDefault⟩
  · rw [found]
    cases member with
    | boolean value =>
        obtain rfl := Except.ok.inj converted
        cases profile.enabled <;> simp
    | null | numberInteger | numberUnsigned | numberFloat | string
    | array | object =>
        cases converted
  · simp [absent, ← isDefault]

/-- What the profile grants is granted by the entry, and conversely. -/
theorem listed_iff
    (reads : ReadsAs library client profile)
    (invocation : ToolInvocation) :
    Listed profile invocation ↔
      client.find? (bytes "enabled") ≠ some (.boolean false) ∧
        Lists Json.getString client (bytes "allowed_accounts")
          invocation.accountId ∧
        Lists Json.getString client (bytes "allowed_tools")
          invocation.toolName ∧
        ∀ chatId ∈ invocation.chatId,
          Lists (Json.getInt64 library.toJsonLibrary) client
            (bytes "allowed_chats") chatId := by
  have account : ∀ text, text ∈ profile.allowedAccounts ↔ _ := fun text =>
    Json.mem_of_valueOr_eq_ok Json.getStrings_eq_ok_iff
      reads.allowedAccounts
  have tool : ∀ text, text ∈ profile.allowedTools ↔ _ := fun text =>
    Json.mem_of_valueOr_eq_ok Json.getStrings_eq_ok_iff
      reads.allowedTools
  have chat : ∀ chatId, chatId ∈ profile.allowedChats ↔ _ := fun chatId =>
    Json.mem_of_valueOr_eq_ok (Json.getInt64s_eq_ok_iff _)
      reads.allowedChats
  constructor
  · intro listed
    exact ⟨(enabled_iff reads).mp listed.enabled,
      (account _).mp listed.account, (tool _).mp listed.tool,
      fun chatId given => (chat chatId).mp (listed.chat chatId given)⟩
  · intro granted
    rcases granted with ⟨enabled, accounts, tools, chats⟩
    exact ⟨(enabled_iff reads).mpr enabled,
      (account _).mpr accounts, (tool _).mpr tools,
      fun chatId given => (chat chatId).mpr (chats chatId given)⟩

/-- Only the two policies that the entry spells out have an effect. -/
theorem statesWriteEffect_iff
    (reads : ReadsAs library client profile)
    {effect : PolicyEffect}
    (granted : effect ≠ .deny) :
    StatesWriteEffect client effect ↔
      profile.writePolicy.effect = effect := by
  have policy := reads.writePolicy
  simp only [readWritePolicy, Json.bind_eq_ok_iff] at policy
  obtain ⟨text, textRead, shape⟩ := policy
  have parsed : parseWritePolicy text = some profile.writePolicy :=
    Except.ok.inj shape
  unfold parseWritePolicy at parsed
  constructor
  · intro stated
    have found :
        ∀ {spelled},
          client.find? (bytes "write_policy") = some (.string spelled) →
          text = spelled := by
      intro spelled here
      rw [Json.valueOr_of_find? here] at textRead
      exact (Except.ok.inj textRead).symm
    cases stated with
    | autoApprove stated =>
        rw [found stated] at parsed
        simp at parsed
        simp [← parsed, WritePolicy.effect]
    | requireApproval stated =>
        rw [found stated] at parsed
        simp at parsed
        simp [← parsed, WritePolicy.effect]
  · intro hasEffect
    rcases Json.valueOr_eq_ok_iff.mp textRead with
      ⟨member, found, converted⟩ | ⟨-, -, isDefault⟩
    · have isText := Json.getString_eq_ok_iff.mp converted
      rw [isText] at found
      split at parsed
      · obtain denied := Option.some.inj parsed
        rw [← denied] at hasEffect
        exact absurd hasEffect.symm granted
      · split at parsed
        · next spelled =>
            rw [spelled] at found
            rw [← hasEffect, ← Option.some.inj parsed]
            exact .requireApproval found
        · split at parsed
          · next spelled =>
              rw [spelled] at found
              rw [← hasEffect, ← Option.some.inj parsed]
              exact .autoApprove found
          · cases parsed
    · rw [if_pos isDefault.symm] at parsed
      rw [← Option.some.inj parsed] at hasEffect
      exact absurd hasEffect.symm granted

/-- The engine decides as the entry of the document says. -/
theorem evaluate_of_readsAs
    (reads : ReadsAs library client profile)
    (invocation : ToolInvocation)
    {effect : PolicyEffect}
    (granted : effect ≠ .deny) :
    (PolicyEngine.evaluate profile invocation).effect = effect ↔
      Grants library client invocation effect := by
  constructor
  · intro decided
    have listed : Listed profile invocation := by
      by_contra unlisted
      rw [PolicyEngine.effect_evaluate_of_not_listed unlisted] at decided
      exact granted decided.symm
    rw [PolicyEngine.effect_evaluate_of_listed listed] at decided
    obtain ⟨enabled, account, tool, chat⟩ :=
      (listed_iff reads invocation).mp listed
    refine ⟨enabled, account, tool, chat, ?_, ?_⟩
    · intro isRead
      rw [isRead] at decided
      exact decided.symm
    · intro isWrite
      rw [isWrite] at decided
      exact (statesWriteEffect_iff reads granted).mpr decided
  · intro grants
    have listed : Listed profile invocation :=
      (listed_iff reads invocation).mpr
        ⟨grants.enabled, grants.account, grants.tool, grants.chat⟩
    rw [PolicyEngine.effect_evaluate_of_listed listed]
    cases write : invocation.isWrite with
    | false =>
        exact (grants.read write).symm
    | true =>
        exact (statesWriteEffect_iff reads granted).mp (grants.write write)

end ReadsAs

theorem forall₂_readsAs_of_parseClients
    {library : DocumentLibrary}
    {identifiers : List Bytes}
    {entries : List Json}
    {profiles : List McpClientProfile}
    (parsed : parseClients library identifiers entries = .ok profiles) :
    List.Forall₂ (ReadsAs library) entries profiles := by
  induction entries generalizing identifiers profiles with
  | nil =>
      obtain rfl := Except.ok.inj parsed
      exact .nil
  | cons value rest inductionHypothesis =>
      simp only [parseClients, Json.bind_eq_ok_iff,
        ParseFailure.require_eq_ok_iff,
        ParseFailure.mayThrow_eq_ok_iff] at parsed
      obtain ⟨-, -, -, -, fields, read, writePolicy?, policy, profile,
        accepted, others, restParsed, shape⟩ := parsed
      obtain rfl := Except.ok.inj shape
      exact .cons (readsAs_of_acceptClient read policy accepted)
        (inductionHypothesis restParsed)

/-- An accepted document is read entry by entry. -/
theorem forall₂_readsAs_of_parse
    {library : DocumentLibrary}
    {document : Json}
    {profiles : List McpClientProfile}
    (parsed : parse library document = .ok profiles) :
    ∃ clients,
      document.find? (bytes "clients") = some (.array clients) ∧
        List.Forall₂ (ReadsAs library) clients profiles := by
  simp only [parse, Json.bind_eq_ok_iff, ParseFailure.require_eq_ok_iff,
    ParseFailure.mayThrow_eq_ok_iff,
    ParseFailure.rejectThrown_eq_ok_iff] at parsed
  obtain ⟨-, -, version, -, -, -, -, hasArray, -, -, member, read,
    clientsParsed⟩ := parsed
  unfold hasClientsArray at hasArray
  cases found : document.find? (bytes "clients") with
  | none =>
      rw [found] at hasArray
      cases hasArray
  | some value =>
      rw [Json.atKey_of_find? found] at read
      obtain rfl := Except.ok.inj read
      rw [found] at hasArray
      cases value with
      | array clients =>
          exact ⟨clients, rfl,
            forall₂_readsAs_of_parseClients clientsParsed⟩
      | null | boolean | numberInteger | numberUnsigned | numberFloat
      | string | object =>
          cases hasArray

/--
Whatever an accepted document does not grant is denied, and whatever it grants
is decided with the stated effect: entry by entry, for every invocation.
-/
theorem defaultDeny
    (library : DocumentLibrary)
    (document : Json)
    (profiles : List McpClientProfile)
    (parsed : parse library document = .ok profiles) :
    ∃ clients,
      document.find? (bytes "clients") = some (.array clients) ∧
        List.Forall₂
          (fun client profile =>
            ∀ invocation effect,
              effect ≠ .deny →
              ((PolicyEngine.evaluate profile invocation).effect =
                  effect ↔
                Grants library client invocation effect))
          clients profiles := by
  obtain ⟨clients, found, reads⟩ := forall₂_readsAs_of_parse parsed
  refine ⟨clients, found, reads.imp ?_⟩
  intro client profile clientReads invocation effect granted
  exact evaluate_of_readsAs clientReads invocation granted

/-- A client that may read and, after approval, write in one chat. -/
def workClients : Json :=
  .ofMembers [
    (bytes "schema_version", .numberUnsigned 1),
    (bytes "clients", .array [.ofMembers [
      (bytes "id", .string (bytes "client")),
      (bytes "display_name", .string (bytes "Client")),
      (bytes "allowed_accounts", .array [.string (bytes "work")]),
      (bytes "allowed_tools",
        .array [.string (bytes "telegram_prepare_send_message")]),
      (bytes "allowed_chats", .array [.numberUnsigned 42]),
      (bytes "write_policy", .string (bytes "require_approval"))
    ]])
  ]

theorem defaultDeny_workClients :
    ∃ profiles,
      parse (readingLibrary workClients) workClients = .ok profiles ∧
        ∃ clients,
          workClients.find? (bytes "clients") = some (.array clients) ∧
            List.Forall₂
              (fun client profile =>
                ∀ invocation effect,
                  effect ≠ .deny →
                  ((PolicyEngine.evaluate profile invocation).effect =
                      effect ↔
                    Grants (readingLibrary workClients) client invocation
                      effect))
              clients profiles := by
  have parsed :
      parse (readingLibrary workClients) workClients =
        .ok [{
          id := bytes "client"
          displayName := bytes "Client"
          allowedAccounts := [bytes "work"]
          allowedTools := [bytes "telegram_prepare_send_message"]
          allowedChats := [42]
          writePolicy := .requireApproval
        }] := by
    decide +kernel
  exact ⟨_, parsed, defaultDeny _ _ _ parsed⟩

end ClientProfileRepository

end TgGate
