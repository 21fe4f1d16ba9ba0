import TgGate.AccountDocuments
import TgGate.ClientProfileRepository
import TgGate.Library.OutputParameters
import TgGate.McpHostDocuments

namespace TgGate

open Library Statement

/-!
# The parsers as calls

The three configuration parsers hand their result back through a parameter and
report a rejected document in an error text.  `parseInto` is such a parser
statement by statement, with the assignments where the source makes them.  It
delivers what `parse` accepts, so that its output parameter is assigned only
when it returns true, and what it assigns then satisfies every check.
-/

namespace ClientProfileRepository

section Calls

variable (library : DocumentLibrary)

/-- The body of the loop over the entries, which has seen some ids. -/
def parseClientInto
    (gathered : Gathered (List Bytes) McpClientProfile)
    (value : Json) :
    Statement (List McpClientProfile)
      (Gathered (List Bytes) McpClientProfile) := do
  rejectUnless value.isObject
    (bytes "A client profile must be an object")
  rejectUnless (value.keys.all (· ∈ clientFields))
    (bytes "Unknown field in client profile")
  let profile ← access (readClient library value)
  let writePolicy? ← access (readWritePolicy value)
  let invalid :=
    bytes ("Every client needs a unique non-empty id and " ++
      "a valid write_policy")
  if profile.id.isEmpty || profile.id ∈ gathered.seen then
    reject invalid
  else
    match writePolicy? with
    | none => reject invalid
    | some writePolicy =>
        return {
          seen := profile.id :: gathered.seen
          parsed :=
            gathered.parsed ++ [{ profile with writePolicy := writePolicy }]
        }

/-- `ClientProfileRepository::parse` with its output parameter. -/
def parseInto
    (document : Json) : Statement (List McpClientProfile) Empty := do
  let malformed :=
    bytes ("Client configuration requires schema_version 1 " ++
      "and a clients array")
  rejectUnless document.isObject malformed
  let schemaVersion ←
    access
      (document.valueOr (bytes "schema_version")
        (Json.getInt32 library) 0)
  rejectUnless (schemaVersion = 1) malformed
  rejectUnless (hasClientsArray document) malformed
  rejectUnless (document.keys.all (· ∈ rootFields))
    (bytes "Unknown field in client configuration")
  let parsed ←
    catchException (bytes "Invalid client profile field type") do
      let clients ← access (document.atKey (bytes "clients"))
      forEach (parseClientInto library) { seen := [] } clients.elements
  assignOutput parsed
  returnResult true

/-- What the parser makes of one entry. -/
def parseClient
    (identifiers : List Bytes)
    (value : Json) : Except ParseFailure McpClientProfile := do
  ParseFailure.require value.isObject
    (bytes "A client profile must be an object")
  ParseFailure.require (value.keys.all (· ∈ clientFields))
    (bytes "Unknown field in client profile")
  let profile ← ParseFailure.mayThrow (readClient library value)
  let writePolicy? ← ParseFailure.mayThrow (readWritePolicy value)
  acceptClient identifiers profile writePolicy?

/-- The ids that the loop has seen with another profile. -/
def seeClient
    (identifiers : List Bytes)
    (profile : McpClientProfile) : List Bytes :=
  profile.id :: identifiers

theorem parsesClients :
    ParsesEntries (parseClient library) seeClient
      (parseClients library) where
  nil _ := rfl
  cons identifiers value rest := by
    simp only [parseClients, parseClient, seeClient, bind_assoc]

theorem follows_parseClientInto
    (gathered : Gathered (List Bytes) McpClientProfile)
    (value : Json) :
    Follows (parseClientInto library gathered value)
      (gather (parseClient library) seeClient gathered value) := by
  unfold gather parseClient
  simp only [bind_assoc]
  refine (follows_rejectUnless _ _).bind fun _ => ?_
  refine (follows_rejectUnless _ _).bind fun _ => ?_
  refine (follows_access _).bind fun profile => ?_
  refine (follows_access _).bind fun writePolicy? => ?_
  unfold acceptClient
  by_cases known :
      (profile.id.isEmpty || profile.id ∈ gathered.seen) = true
  · rw [if_pos known, if_pos known]
    exact follows_reject _
  · rw [if_neg known, if_neg known]
    cases writePolicy? with
    | none =>
        exact follows_reject _
    | some writePolicy =>
        exact follows_pure _

/-- The call assigns what the parser accepts. -/
theorem delivers_parseInto (document : Json) :
    Delivers (parseInto library document) (parse library document) := by
  refine (follows_rejectUnless _ _).delivers fun _ => ?_
  refine (follows_access _).delivers fun schemaVersion => ?_
  refine (follows_rejectUnless _ _).delivers fun _ => ?_
  refine (follows_rejectUnless _ _).delivers fun _ => ?_
  refine (follows_rejectUnless _ _).delivers fun _ => ?_
  refine Follows.delivers_assignOutput (Follows.catchException ?_ _)
  refine (follows_access _).bind fun clients => ?_
  exact (parsesClients library).follows_forEach_start
    (follows_parseClientInto library) [] clients.elements

end Calls

section Checks

variable {library : DocumentLibrary}

/-- What an accepted entry satisfies, and the profile it was read as. -/
structure AcceptedClient
    (library : DocumentLibrary)
    (client : Json)
    (profile : McpClientProfile) : Prop where
  object : client.isObject = true
  fields : ∀ key ∈ client.keys, key ∈ clientFields
  named : profile.id ≠ []
  read :
    ∃ read writePolicy,
      readClient library client = .ok read ∧
        readWritePolicy client = .ok (some writePolicy) ∧
        profile = { read with writePolicy := writePolicy }

/-- What an accepted document and its profiles satisfy. -/
structure Accepted
    (library : DocumentLibrary)
    (document : Json)
    (profiles : List McpClientProfile) : Prop where
  fields : ∀ key ∈ document.keys, key ∈ rootFields
  distinct : (profiles.map McpClientProfile.id).Nodup
  entries :
    ∃ clients,
      document.find? (bytes "clients") = some (.array clients) ∧
        List.Forall₂ (AcceptedClient library) clients profiles

/-- An accepted entry has an id that was not seen before. -/
theorem accepted_of_parseClient
    {identifiers : List Bytes}
    {client : Json}
    {profile : McpClientProfile}
    (parsed : parseClient library identifiers client = .ok profile) :
    AcceptedClient library client profile ∧
      profile.id ∉ identifiers := by
  simp only [parseClient, Json.bind_eq_ok_iff,
    ParseFailure.require_eq_ok_iff,
    ParseFailure.mayThrow_eq_ok_iff] at parsed
  obtain ⟨-, object, -, fields, read, isRead, writePolicy?, isPolicy,
    accepted⟩ := parsed
  unfold acceptClient at accepted
  split at accepted
  · cases accepted
  · next fresh =>
      simp only [Bool.or_eq_true, List.isEmpty_iff, decide_eq_true_eq,
        not_or] at fresh
      cases writePolicy? with
      | none =>
          cases accepted
      | some writePolicy =>
          obtain rfl := Except.ok.inj accepted
          refine ⟨⟨object, ?_, fresh.1, read, writePolicy, isRead,
            isPolicy, rfl⟩, fresh.2⟩
          simpa using fields

theorem accepted_of_parse
    {document : Json}
    {profiles : List McpClientProfile}
    (parsed : parse library document = .ok profiles) :
    Accepted library document profiles := by
  obtain ⟨clients, found, -⟩ := forall₂_readsAs_of_parse parsed
  simp only [parse, Json.bind_eq_ok_iff, ParseFailure.require_eq_ok_iff,
    ParseFailure.mayThrow_eq_ok_iff,
    ParseFailure.rejectThrown_eq_ok_iff,
    Json.atKey_of_find? found] at parsed
  obtain ⟨-, -, version, -, -, -, -, -, -, fields, member, isMember,
    clientsParsed⟩ := parsed
  obtain rfl := Except.ok.inj isMember
  refine ⟨by simpa using fields, ?_, clients, found, ?_⟩
  · exact ((parsesClients library).nodup
      (fun stepped => (accepted_of_parseClient stepped).2)
      (fun _ _ => rfl) clientsParsed).1
  · refine ((parsesClients library).forall₂ clientsParsed).imp ?_
    rintro client profile ⟨identifiers, stepped⟩
    exact (accepted_of_parseClient stepped).1

end Checks

end ClientProfileRepository

namespace AccountRepository

/-- The ids and data directories of the entries before an entry. -/
structure SeenAccounts where
  identifiers : List Bytes := []
  dataDirectories : List Bytes := []

/-- What the loop has seen with another account. -/
def SeenAccounts.see
    (seen : SeenAccounts)
    (account : AccountConfiguration) : SeenAccounts where
  identifiers := account.id :: seen.identifiers
  dataDirectories :=
    account.filesDirectory.genericString ::
      account.databaseDirectory.genericString :: seen.dataDirectories

section Calls

variable (library : DocumentLibrary)

/-- The body of the loop over the entries. -/
def parseAccountInto
    (gathered : Gathered SeenAccounts AccountConfiguration)
    (value : Json) :
    Statement (List AccountConfiguration)
      (Gathered SeenAccounts AccountConfiguration) := do
  rejectUnless
    (value.isObject && !value.contains (bytes "api_hash") &&
      hasOnlyAccountFields value)
    (bytes "Account contains an unsupported or plaintext secret field")
  let account ← access (readAccount library value)
  rejectUnless
    (accountIsAcceptable gathered.seen.identifiers
      gathered.seen.dataDirectories account)
    (bytes ("Every account needs unique safe data directories " ++
      "and a non-negative api_id"))
  return {
    seen := gathered.seen.see account
    parsed := gathered.parsed ++ [account]
  }

/-- `AccountRepository::parse` with its output parameter. -/
def parseInto
    (document : Json) : Statement (List AccountConfiguration) Empty := do
  let malformed :=
    bytes ("Account configuration requires schema_version 1 " ++
      "and an accounts array")
  rejectUnless document.isObject malformed
  let schemaVersion ←
    access
      (document.valueOr (bytes "schema_version")
        (Json.getInt32 library) 0)
  rejectUnless (schemaVersion = 1) malformed
  rejectUnless (hasAccountsArray document) malformed
  rejectUnless (document.keys.all (· ∈ rootFields))
    (bytes "Unknown field in account configuration")
  let parsed ←
    catchException (bytes "Invalid account configuration field type") do
      let accounts ← access (document.atKey (bytes "accounts"))
      forEach (parseAccountInto library) { seen := {} } accounts.elements
  assignOutput parsed
  returnResult true

/-- What the parser makes of one entry. -/
def parseAccount
    (seen : SeenAccounts)
    (value : Json) : Except ParseFailure AccountConfiguration := do
  ParseFailure.require
    (value.isObject && !value.contains (bytes "api_hash") &&
      hasOnlyAccountFields value)
    (bytes "Account contains an unsupported or plaintext secret field")
  let account ← ParseFailure.mayThrow (readAccount library value)
  ParseFailure.require
    (accountIsAcceptable seen.identifiers seen.dataDirectories account)
    (bytes ("Every account needs unique safe data directories " ++
      "and a non-negative api_id"))
  return account

theorem parsesAccounts :
    ParsesEntries (parseAccount library) SeenAccounts.see
      (fun seen =>
        parseAccounts library seen.identifiers seen.dataDirectories) where
  nil _ := rfl
  cons seen value rest := by
    simp only [parseAccounts, parseAccount, SeenAccounts.see, bind_assoc,
      pure_bind]

theorem follows_parseAccountInto
    (gathered : Gathered SeenAccounts AccountConfiguration)
    (value : Json) :
    Follows (parseAccountInto library gathered value)
      (gather (parseAccount library) SeenAccounts.see gathered value) := by
  unfold gather parseAccount
  simp only [bind_assoc, pure_bind]
  refine (follows_rejectUnless _ _).bind fun _ => ?_
  refine (follows_access _).bind fun account => ?_
  refine (follows_rejectUnless _ _).bind fun _ => ?_
  exact follows_pure _

/-- The call assigns what the parser accepts. -/
theorem delivers_parseInto (document : Json) :
    Delivers (parseInto library document) (parse library document) := by
  refine (follows_rejectUnless _ _).delivers fun _ => ?_
  refine (follows_access _).delivers fun schemaVersion => ?_
  refine (follows_rejectUnless _ _).delivers fun _ => ?_
  refine (follows_rejectUnless _ _).delivers fun _ => ?_
  refine (follows_rejectUnless _ _).delivers fun _ => ?_
  refine Follows.delivers_assignOutput (Follows.catchException ?_ _)
  refine (follows_access _).bind fun accounts => ?_
  exact (parsesAccounts library).follows_forEach_start
    (follows_parseAccountInto library) {} accounts.elements

end Calls

section Checks

variable {library : DocumentLibrary}

/-- What an accepted entry satisfies, and the account it was read as. -/
structure AcceptedAccount
    (library : DocumentLibrary)
    (value : Json)
    (account : AccountConfiguration) : Prop where
  object : value.isObject = true
  fields : ∀ key ∈ value.keys, key ∈ accountFields
  named : account.id ≠ []
  read : readAccount library value = .ok account

/-- What an accepted document and its accounts satisfy. -/
structure Accepted
    (library : DocumentLibrary)
    (document : Json)
    (accounts : List AccountConfiguration) : Prop where
  fields : ∀ key ∈ document.keys, key ∈ rootFields
  distinct : (accounts.map AccountConfiguration.id).Nodup
  entries :
    ∃ values,
      document.find? (bytes "accounts") = some (.array values) ∧
        List.Forall₂ (AcceptedAccount library) values accounts

theorem accepted_of_parseAccount
    {seen : SeenAccounts}
    {value : Json}
    {account : AccountConfiguration}
    (parsed : parseAccount library seen value = .ok account) :
    AcceptedAccount library value account := by
  simp only [parseAccount, Json.bind_eq_ok_iff,
    ParseFailure.require_eq_ok_iff,
    ParseFailure.mayThrow_eq_ok_iff] at parsed
  obtain ⟨-, shaped, read, isRead, -, acceptable, shape⟩ := parsed
  obtain rfl := Except.ok.inj shape
  simp only [hasOnlyAccountFields, Bool.and_eq_true, List.all_eq_true,
    decide_eq_true_eq] at shaped
  simp only [accountIsAcceptable, Bool.and_eq_true] at acceptable
  refine ⟨shaped.1.1, shaped.2, ?_, isRead⟩
  intro unnamed
  simp [unnamed] at acceptable

/-- The array that the document has under `accounts`. -/
theorem find?_of_hasAccountsArray
    {document : Json}
    (hasArray : hasAccountsArray document = true) :
    ∃ values,
      document.find? (bytes "accounts") = some (.array values) := by
  unfold hasAccountsArray at hasArray
  split at hasArray
  · next accounts found =>
      obtain ⟨values, rfl⟩ := Json.isArray_iff.mp hasArray
      exact ⟨values, found⟩
  · cases hasArray

theorem accepted_of_parse
    {document : Json}
    {accounts : List AccountConfiguration}
    (parsed : parse library document = .ok accounts) :
    Accepted library document accounts := by
  have distinct := (acceptable_of_parse parsed).distinct
  simp only [parse, Json.bind_eq_ok_iff, ParseFailure.require_eq_ok_iff,
    ParseFailure.mayThrow_eq_ok_iff,
    ParseFailure.rejectThrown_eq_ok_iff] at parsed
  obtain ⟨-, -, version, -, -, -, -, hasArray, -, fields, member,
    isMember, accountsParsed⟩ := parsed
  obtain ⟨values, found⟩ := find?_of_hasAccountsArray hasArray
  rw [Json.atKey_of_find? found] at isMember
  obtain rfl := Except.ok.inj isMember
  refine ⟨by simpa using fields, distinct, values, found, ?_⟩
  have fromStart :
      parseAccounts library ({} : SeenAccounts).identifiers
          ({} : SeenAccounts).dataDirectories (Json.array values).elements =
        .ok accounts :=
    accountsParsed
  refine ((parsesAccounts library).forall₂ fromStart).imp ?_
  rintro value account ⟨seen, stepped⟩
  exact accepted_of_parseAccount stepped

end Checks

end AccountRepository

namespace McpHostConfigurationRepository

/-- The fields of a credential entry. -/
def credentialFields : List Bytes :=
  [bytes "client_id", bytes "bearer_token_dpapi"]

section Calls

/-- The body of the loop over the entries, which has seen some ids. -/
def parseCredentialInto
    (gathered : Gathered (List Bytes) McpClientCredential)
    (value : Json) :
    Statement McpHostConfiguration
      (Gathered (List Bytes) McpClientCredential) := do
  rejectUnless (isCredentialEntry value)
    (bytes ("MCP client credentials require client_id and " ++
      "bearer_token_dpapi only"))
  let clientId ← access (value.stringAt (bytes "client_id"))
  rejectUnless (!clientId.isEmpty && clientId ∉ gathered.seen)
    (bytes "MCP client credential ids must be unique and non-empty")
  let bearerTokenDpapi ←
    access (value.stringAt (bytes "bearer_token_dpapi"))
  return {
    seen := clientId :: gathered.seen
    parsed :=
      gathered.parsed ++ [{
        clientId := clientId
        bearerTokenDpapi := bearerTokenDpapi
      }]
  }

/--
`McpHostConfigurationRepository::parse` with its output parameter, which is
assigned at two places.
-/
def parseInto
    (library : DocumentLibrary)
    (document : Json) : Statement McpHostConfiguration Empty := do
  let unversioned :=
    bytes ("MCP host configuration requires schema_version 2 " ++
      "(or legacy schema_version 1)")
  rejectUnless document.isObject unversioned
  let schemaVersion ←
    access
      (document.valueOr (bytes "schema_version")
        (Json.getInt32 library) 0)
  rejectUnless (schemaVersion = 1 || schemaVersion = 2) unversioned
  let fields := if schemaVersion = 2 then v2Fields else v1Fields
  rejectUnless (document.keys.all (· ∈ fields))
    (bytes ("MCP host configuration contains an unknown or " ++
      "plaintext secret field"))
  catchException (bytes "Invalid MCP host configuration field type") do
    let parsed ← access (readSettings library document)
    rejectUnless (settingsAreAcceptable parsed)
      (bytes ("MCP host must use loopback, a valid port, and " ++
        "bounded request limits"))
    if schemaVersion = 1 then
      let legacyToken ←
        access
          (document.valueOr (bytes "bearer_token_dpapi") Json.getString [])
      rejectUnless
        (legacyToken.isEmpty ||
          memberIsString document (bytes "bearer_token_dpapi"))
        (bytes "Invalid legacy MCP bearer token field type")
      assignOutput { parsed with legacyBearerTokenDpapi := legacyToken }
      returnResult true
    else
      let credentials :=
        (document.find? (bytes "client_credentials")).getD .null
      rejectUnless credentials.isArray
        (bytes "MCP host configuration requires a client_credentials array")
      let clientCredentials ←
        forEach parseCredentialInto { seen := [] } credentials.elements
      assignOutput { parsed with clientCredentials := clientCredentials }
      returnResult true

/-- What the parser makes of one entry. -/
def parseCredential
    (clientIds : List Bytes)
    (value : Json) : Except ParseFailure McpClientCredential := do
  ParseFailure.require (isCredentialEntry value)
    (bytes ("MCP client credentials require client_id and " ++
      "bearer_token_dpapi only"))
  let clientId ←
    ParseFailure.mayThrow (value.stringAt (bytes "client_id"))
  ParseFailure.require (!clientId.isEmpty && clientId ∉ clientIds)
    (bytes "MCP client credential ids must be unique and non-empty")
  let bearerTokenDpapi ←
    ParseFailure.mayThrow (value.stringAt (bytes "bearer_token_dpapi"))
  return {
    clientId := clientId
    bearerTokenDpapi := bearerTokenDpapi
  }

/-- The ids that the loop has seen with another credential. -/
def seeCredential
    (clientIds : List Bytes)
    (credential : McpClientCredential) : List Bytes :=
  credential.clientId :: clientIds

theorem parsesCredentials :
    ParsesEntries parseCredential seeCredential parseCredentials where
  nil _ := rfl
  cons clientIds value rest := by
    simp only [parseCredentials, parseCredential, seeCredential,
      bind_assoc, pure_bind]

theorem follows_parseCredentialInto
    (gathered : Gathered (List Bytes) McpClientCredential)
    (value : Json) :
    Follows (parseCredentialInto gathered value)
      (gather parseCredential seeCredential gathered value) := by
  unfold gather parseCredential
  simp only [bind_assoc, pure_bind]
  refine (follows_rejectUnless _ _).bind fun _ => ?_
  refine (follows_access _).bind fun clientId => ?_
  refine (follows_rejectUnless _ _).bind fun _ => ?_
  refine (follows_access _).bind fun bearerTokenDpapi => ?_
  exact follows_pure _

/-- The call assigns what the parser accepts. -/
theorem delivers_parseInto
    (library : DocumentLibrary)
    (document : Json) :
    Delivers (parseInto library document) (parse library document) := by
  refine (follows_rejectUnless _ _).delivers fun _ => ?_
  refine (follows_access _).delivers fun schemaVersion => ?_
  refine (follows_rejectUnless _ _).delivers fun _ => ?_
  refine (follows_rejectUnless _ _).delivers fun _ => ?_
  refine Delivers.catchException ?_ _
  refine (follows_access _).delivers fun parsed => ?_
  refine (follows_rejectUnless _ _).delivers fun _ => ?_
  by_cases legacy : schemaVersion = 1
  · rw [if_pos legacy, if_pos legacy]
    unfold parseLegacyToken
    simp only [bind_assoc, pure_bind]
    refine (follows_access _).delivers fun legacyToken => ?_
    refine (follows_rejectUnless _ _).delivers fun _ => ?_
    exact delivers_assignOutput _
  · rw [if_neg legacy, if_neg legacy]
    unfold parseClientCredentials
    simp only [bind_assoc]
    refine (follows_rejectUnless _ _).delivers fun _ => ?_
    refine Follows.delivers ?_ fun clientCredentials => delivers_assignOutput _
    exact parsesCredentials.follows_forEach_start
      follows_parseCredentialInto [] _

end Calls

section Checks

variable {library : DocumentLibrary}

/-- What an accepted entry satisfies, and the credential it was read as. -/
structure AcceptedCredential
    (value : Json)
    (credential : McpClientCredential) : Prop where
  object : value.isObject = true
  fields : ∀ key ∈ value.keys, key ∈ credentialFields
  named : credential.clientId ≠ []
  clientId :
    value.find? (bytes "client_id") = some (.string credential.clientId)
  bearerTokenDpapi :
    value.find? (bytes "bearer_token_dpapi") =
      some (.string credential.bearerTokenDpapi)

/-- What an accepted document of either schema has besides the settings. -/
inductive AcceptedSchema
    (library : DocumentLibrary)
    (document : Json)
    (credentials : List McpClientCredential) : Prop where
  | legacy
      (version :
        document.valueOr (bytes "schema_version") (Json.getInt32 library)
            0 =
          .ok 1)
      (fields : ∀ key ∈ document.keys, key ∈ v1Fields)
      (noCredentials : credentials = []) :
      AcceptedSchema library document credentials
  | current
      (values : List Json)
      (version :
        document.valueOr (bytes "schema_version") (Json.getInt32 library)
            0 =
          .ok 2)
      (fields : ∀ key ∈ document.keys, key ∈ v2Fields)
      (found :
        document.find? (bytes "client_credentials") =
          some (.array values))
      (entries : List.Forall₂ AcceptedCredential values credentials) :
      AcceptedSchema library document credentials

/-- The host listens locally and its limits are in range. -/
structure BoundedSettings (configuration : McpHostConfiguration) : Prop where
  loopback :
    configuration.bindAddress = bytes "127.0.0.1" ∨
      configuration.bindAddress = bytes "::1"
  port : configuration.port ≠ 0
  bodyPositive : 1 ≤ configuration.maxRequestBodyBytes.toNat
  bodyBounded :
    configuration.maxRequestBodyBytes.toNat ≤ 16 * 1024 * 1024
  connectionsPositive : 1 ≤ configuration.maximumConnections.toNat
  connectionsBounded : configuration.maximumConnections.toNat ≤ 128

/-- What an accepted document and its configuration satisfy. -/
structure Accepted
    (library : DocumentLibrary)
    (document : Json)
    (configuration : McpHostConfiguration) : Prop where
  schema :
    AcceptedSchema library document configuration.clientCredentials
  distinct :
    (configuration.clientCredentials.map
      McpClientCredential.clientId).Nodup
  settings : BoundedSettings configuration

theorem one_le_toNat_of_ne_zero {value : UInt64} (nonzero : value ≠ 0) :
    1 ≤ value.toNat := by
  by_contra zero
  have isZero : value.toNat = 0 := by omega
  exact nonzero (UInt64.toNat_inj.mp isZero)

theorem boundedSettings_of_acceptable
    {configuration : McpHostConfiguration}
    (acceptable : settingsAreAcceptable configuration = true) :
    BoundedSettings configuration := by
  simp only [settingsAreAcceptable, isLoopback, Bool.and_eq_true,
    Bool.or_eq_true, decide_eq_true_eq] at acceptable
  rcases acceptable with
    ⟨⟨⟨⟨⟨loopback, port⟩, bodyNonzero⟩, body⟩, connectionsNonzero⟩,
      connections⟩
  exact ⟨loopback, port, one_le_toNat_of_ne_zero bodyNonzero, body,
    one_le_toNat_of_ne_zero connectionsNonzero, connections⟩

theorem accepted_of_parseCredential
    {clientIds : List Bytes}
    {value : Json}
    {credential : McpClientCredential}
    (parsed : parseCredential clientIds value = .ok credential) :
    AcceptedCredential value credential := by
  simp only [parseCredential, Json.bind_eq_ok_iff,
    ParseFailure.require_eq_ok_iff, ParseFailure.mayThrow_eq_ok_iff,
    Json.stringAt_eq_ok_iff] at parsed
  obtain ⟨-, isEntry, clientId, hasId, -, fresh, bearerTokenDpapi,
    hasToken, shape⟩ := parsed
  obtain rfl := Except.ok.inj shape
  simp only [isCredentialEntry, Bool.and_eq_true, decide_eq_true_eq]
    at isEntry
  refine ⟨isEntry.1.1.1, ?_, ?_, hasId, hasToken⟩
  · intro key member
    have twoKeys :=
      Json.key_of_size_two isEntry.1.1.2 hasId hasToken (by decide) member
    simpa [credentialFields] using twoKeys
  · rintro rfl
    simp at fresh

theorem accepted_of_parse
    {document : Json}
    {configuration : McpHostConfiguration}
    (parsed : parse library document = .ok configuration) :
    Accepted library document configuration := by
  have distinct := (wellFormed_of_parse parsed).distinct
  have bounded :=
    boundedSettings_of_acceptable (storable_of_parse parsed).acceptable
  simp only [parse, Json.bind_eq_ok_iff, ParseFailure.require_eq_ok_iff,
    ParseFailure.mayThrow_eq_ok_iff,
    ParseFailure.rejectThrown_eq_ok_iff] at parsed
  obtain ⟨-, -, schemaVersion, version, -, known, -, fields, settings,
    read, -, -, versioned⟩ := parsed
  obtain ⟨noCredentials, -⟩ := readSettings_credentials read
  refine ⟨?_, distinct, bounded⟩
  by_cases legacy : schemaVersion = 1
  · subst legacy
    rw [if_pos rfl] at versioned
    obtain ⟨legacyToken, -, shape⟩ := Json.bind_eq_ok_iff.mp versioned
    obtain rfl := Except.ok.inj shape
    rw [if_neg (by decide)] at fields
    exact .legacy version (by simpa using fields) noCredentials
  · have current : schemaVersion = 2 := by
      simpa [legacy] using known
    subst current
    rw [if_neg (by decide)] at versioned
    obtain ⟨credentials, credentialsParsed, shape⟩ :=
      Json.bind_eq_ok_iff.mp versioned
    obtain rfl := Except.ok.inj shape
    rw [if_pos rfl] at fields
    simp only [parseClientCredentials, Json.bind_eq_ok_iff,
      ParseFailure.require_eq_ok_iff] at credentialsParsed
    obtain ⟨-, isArray, entriesParsed⟩ := credentialsParsed
    cases found : document.find? (bytes "client_credentials") with
    | none =>
        rw [found] at isArray
        cases isArray
    | some member =>
        rw [found, Option.getD_some] at isArray entriesParsed
        obtain ⟨values, rfl⟩ := Json.isArray_iff.mp isArray
        refine .current values version (by simpa using fields) found ?_
        refine (parsesCredentials.forall₂ entriesParsed).imp ?_
        rintro value credential ⟨clientIds, stepped⟩
        exact accepted_of_parseCredential stepped

end Checks

end McpHostConfigurationRepository

section Atomicity

/-- What the caller of a parser finds in its output variable. -/
structure AtomicCall
    {Value : Type}
    (body : Statement Value Empty)
    (Accepted : Value → Prop)
    (outputs : Outputs Value) : Prop where
  unchanged :
    (call body outputs).1 ≠ .ok true →
    (call body outputs).2.output = outputs.output
  accepted :
    (call body outputs).1 = .ok true →
    Accepted (call body outputs).2.output

/-- A body that delivers what a parser accepts is atomic. -/
theorem atomicCall_of_delivers
    {Value : Type}
    {body : Statement Value Empty}
    {parser : Except ParseFailure Value}
    {Accepted : Value → Prop}
    (delivers : Delivers body parser)
    (accepts : ∀ {value}, parser = .ok value → Accepted value)
    (outputs : Outputs Value) :
    AtomicCall body Accepted outputs where
  unchanged := delivers.output_unchanged
  accepted succeeded := accepts (delivers.parser_eq succeeded)

/--
Each of the three parsers leaves its output parameter alone unless it returns
true, and what it assigns then has passed every check of its schema.
-/
theorem parsers_atomic
    (library : DocumentLibrary)
    (document : Json) :
    (∀ outputs,
        AtomicCall
          (ClientProfileRepository.parseInto library document)
          (ClientProfileRepository.Accepted library document) outputs) ∧
      (∀ outputs,
        AtomicCall
          (AccountRepository.parseInto library document)
          (AccountRepository.Accepted library document) outputs) ∧
      ∀ outputs,
        AtomicCall
          (McpHostConfigurationRepository.parseInto library document)
          (McpHostConfigurationRepository.Accepted library document)
          outputs := by
  refine ⟨?_, ?_, ?_⟩
  · exact atomicCall_of_delivers
      (ClientProfileRepository.delivers_parseInto library document)
      ClientProfileRepository.accepted_of_parse
  · exact atomicCall_of_delivers
      (AccountRepository.delivers_parseInto library document)
      AccountRepository.accepted_of_parse
  · exact atomicCall_of_delivers
      (McpHostConfigurationRepository.delivers_parseInto library document)
      McpHostConfigurationRepository.accepted_of_parse

end Atomicity

end TgGate
