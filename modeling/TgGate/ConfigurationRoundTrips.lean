import TgGate.AccountDocuments
import TgGate.DirectoryLocations
import TgGate.HostLifecycle
import TgGate.Library.JsonReread
import Mathlib.Logic.Relation

namespace TgGate

open Library

/-!
# Configurations come back from their documents

`save` builds a document that `parse` accepts and reads as the configuration it
was built from.  For the host this holds of everything that completing and
replacing credentials makes of a parsed configuration, for the accounts of any
replacement of their protected secrets.
-/

namespace AccountRepository

section Reread

variable (library : DocumentLibrary)

theorem readAccount_reread (value : Json) :
    readAccount library value.reread = readAccount library value := by
  simp only [readAccount, Json.stringAt_reread,
    Json.valueOr_reread (Json.getInt32_reread library),
    Json.valueOr_reread Json.getString_reread]

theorem parseAccounts_map_reread
    (identifiers dataDirectories : List Bytes)
    (entries : List Json) :
    parseAccounts library identifiers dataDirectories
        (entries.map Json.reread) =
      parseAccounts library identifiers dataDirectories entries := by
  induction entries generalizing identifiers dataDirectories with
  | nil =>
      rfl
  | cons value rest inductionHypothesis =>
      simp only [List.map_cons, parseAccounts, inductionHypothesis,
        readAccount_reread, Json.isObject_reread, Json.contains_reread,
        hasOnlyAccountFields, Json.keys_reread]

theorem hasAccountsArray_reread (document : Json) :
    hasAccountsArray document.reread = hasAccountsArray document := by
  unfold hasAccountsArray
  rw [Json.find?_reread]
  cases document.find? (bytes "accounts") with
  | none =>
      rfl
  | some accounts =>
      exact Json.isArray_reread accounts

/-- A document is parsed as what is read back of it. -/
theorem parse_reread (document : Json) :
    parse library document.reread = parse library document := by
  simp only [parse, Json.isObject_reread, Json.keys_reread,
    Json.valueOr_reread (Json.getInt32_reread library),
    hasAccountsArray_reread, Json.atKey_reread]
  cases document.atKey (bytes "accounts") with
  | error thrown =>
      rfl
  | ok accounts =>
      simp only [Except.map, Json.elements_reread,
        parseAccounts_map_reread, ParseFailure.mayThrow, Except.mapError,
        bind, Except.bind]

end Reread

section Secrets

/-- A protected secret is kept or replaced by the text of some bytes. -/
def KeptOrEncoded (earlier later : Bytes) : Prop :=
  later = earlier ∨ ∃ protectedBytes, later = hexEncode protectedBytes

/-- An account with its protected secrets replaced. -/
structure ReplacesSecrets
    (account rewritten : AccountConfiguration) : Prop where
  location : location rewritten = location account
  displayName : rewritten.displayName = account.displayName
  apiHash : KeptOrEncoded account.apiHashDpapi rewritten.apiHashDpapi
  databaseKey :
    KeptOrEncoded account.databaseKeyDpapi rewritten.databaseKeyDpapi

/-- Replacing secrets does not touch what the parser checks. -/
theorem map_location_of_replacesSecrets
    {accounts rewritten : List AccountConfiguration}
    (replaced : List.Forall₂ ReplacesSecrets accounts rewritten) :
    accounts.map location = rewritten.map location := by
  induction replaced with
  | nil =>
      rfl
  | cons replaces _ inductionHypothesis =>
      rw [List.map_cons, List.map_cons, inductionHypothesis,
        replaces.location]

/-- Two accounts are the same, with paths compared by generic spelling. -/
structure SameAccount
    (account other : AccountConfiguration) : Prop where
  id : other.id = account.id
  displayName : other.displayName = account.displayName
  databaseDirectory :
    other.databaseDirectory.genericString =
      account.databaseDirectory.genericString
  filesDirectory :
    other.filesDirectory.genericString =
      account.filesDirectory.genericString
  apiId : other.apiId = account.apiId
  apiHash : other.apiHashDpapi = account.apiHashDpapi
  databaseKey : other.databaseKeyDpapi = account.databaseKeyDpapi

theorem sameAccount_spelledGenerically (account : AccountConfiguration) :
    SameAccount account (spelledGenerically account) where
  id := rfl
  displayName := rfl
  databaseDirectory := FilesystemPath.genericString_genericString _
  filesDirectory := FilesystemPath.genericString_genericString _
  apiId := rfl
  apiHash := rfl
  databaseKey := rfl

/--
Accounts that were read from a document, with any of their protected secrets
replaced, come back from their own document: the same accounts in the same order,
with their data directories in generic spelling.
-/
theorem parse_document_of_replacesSecrets
    (library : DocumentLibrary)
    (source : Json)
    (accounts rewritten : List AccountConfiguration)
    (parsed : parse library source = .ok accounts)
    (replaced : List.Forall₂ ReplacesSecrets accounts rewritten) :
    ∃ reparsed,
      parse library (document rewritten) = .ok reparsed ∧
        parse library (document rewritten).reread = .ok reparsed ∧
        List.Forall₂ SameAccount rewritten reparsed := by
  have acceptable : Acceptable rewritten :=
    acceptableAfter_congr (map_location_of_replacesSecrets replaced)
      (acceptable_of_parse parsed)
  rw [parse_reread]
  refine ⟨_, parse_document library acceptable,
    parse_document library acceptable, ?_⟩
  rw [List.forall₂_map_right_iff, List.forall₂_same]
  exact fun account _ => sameAccount_spelledGenerically account

/-- The account of a document after both secrets were given to it. -/
def oneAccountProtected : AccountConfiguration :=
  { oneAccountParsed (bytes "data/a") (bytes "data//b") with
    apiHashDpapi := hexEncode [1, 2]
    databaseKeyDpapi := hexEncode [3] }

theorem parse_document_of_replacesSecrets_oneAccount :
    ∃ reparsed,
      parse (readingLibrary .null) (document [oneAccountProtected]) =
          .ok reparsed ∧
        parse (readingLibrary .null)
            (document [oneAccountProtected]).reread =
          .ok reparsed ∧
        List.Forall₂ SameAccount [oneAccountProtected] reparsed := by
  have parsed :
      parse (readingLibrary .null)
          (oneAccount (bytes "data/a") (bytes "data//b")) =
        .ok [oneAccountParsed (bytes "data/a") (bytes "data//b")] := by
    decide +kernel
  exact parse_document_of_replacesSecrets _ _ _ _ parsed
    (.cons ⟨rfl, rfl, .inr ⟨[1, 2], rfl⟩, .inr ⟨[3], rfl⟩⟩ .nil)

end Secrets

end AccountRepository

namespace McpHostConfigurationRepository

section Reread

variable (library : DocumentLibrary)

theorem readSettings_reread (document : Json) :
    readSettings library document.reread =
      readSettings library document := by
  simp only [readSettings, Json.valueOr_reread Json.getBoolean_reread,
    Json.valueOr_reread Json.getString_reread,
    Json.valueOr_reread (Json.getUInt16_reread library),
    Json.valueOr_reread (Json.getUInt64_reread library),
    Json.valueOr_reread Json.getStrings_reread]

theorem memberIsString_reread (value : Json) (key : Bytes) :
    memberIsString value.reread key = memberIsString value key := by
  unfold memberIsString
  rw [Json.find?_reread]
  cases value.find? key with
  | none =>
      rfl
  | some member =>
      exact Json.isString_reread member

theorem parseCredentials_map_reread
    (clientIds : List Bytes)
    (entries : List Json) :
    parseCredentials clientIds (entries.map Json.reread) =
      parseCredentials clientIds entries := by
  induction entries generalizing clientIds with
  | nil =>
      rfl
  | cons value rest inductionHypothesis =>
      simp only [List.map_cons, parseCredentials, inductionHypothesis,
        isCredentialEntry, Json.isObject_reread, Json.size_reread,
        memberIsString_reread, Json.stringAt_reread]

theorem parseClientCredentials_reread (document : Json) :
    parseClientCredentials document.reread =
      parseClientCredentials document := by
  unfold parseClientCredentials
  rw [Json.find?_reread]
  cases document.find? (bytes "client_credentials") with
  | none =>
      rfl
  | some credentials =>
      simp only [Option.map_some, Option.getD_some, Json.isArray_reread,
        Json.elements_reread, parseCredentials_map_reread]

theorem parseLegacyToken_reread (document : Json) :
    parseLegacyToken document.reread = parseLegacyToken document := by
  simp only [parseLegacyToken, memberIsString_reread,
    Json.valueOr_reread Json.getString_reread]

/-- A document is parsed as what is read back of it. -/
theorem parse_reread (document : Json) :
    parse library document.reread = parse library document := by
  simp only [parse, Json.isObject_reread, Json.keys_reread,
    Json.valueOr_reread (Json.getInt32_reread library),
    readSettings_reread, parseLegacyToken_reread,
    parseClientCredentials_reread]

end Reread

section Calls

variable {World : Type}
variable {library : DocumentLibrary}
variable {platform : Platform World}
variable {loaded configuration changed : McpHostConfiguration}

/-- A call that succeeds in changing a configuration, at any time. -/
inductive CredentialCall
    (platform : Platform World) :
    McpHostConfiguration → McpHostConfiguration → Prop where
  | ensure
      {configuration ensured : McpHostConfiguration}
      {profiles : List McpClientProfile}
      {world later : World}
      (distinct : (profiles.map McpClientProfile.id).Nodup)
      (named : ∀ profile ∈ profiles, profile.id ≠ [])
      (succeeded :
        ensureClientCredentials platform configuration profiles world =
          .ok (ensured, later)) :
      CredentialCall platform configuration ensured
  | regenerate
      {configuration regenerated : McpHostConfiguration}
      {clientId : Bytes}
      {world later : World}
      (succeeded :
        regenerateClientCredential platform configuration clientId world =
          .ok (regenerated, later)) :
      CredentialCall platform configuration regenerated

/-- A configuration that loses nothing when it is written. -/
structure Current (configuration : McpHostConfiguration) : Prop where
  storable : Storable configuration
  noLegacy : configuration.legacyBearerTokenDpapi = []

/-- A document of the current schema has no legacy token. -/
theorem current_of_parse
    {source : Json}
    (version :
      source.valueOr (bytes "schema_version") (Json.getInt32 library) 0 =
        .ok 2)
    (parsed : parse library source = .ok loaded) :
    Current loaded := by
  refine ⟨storable_of_parse parsed, ?_⟩
  simp only [parse, Json.bind_eq_ok_iff, ParseFailure.require_eq_ok_iff,
    ParseFailure.mayThrow_eq_ok_iff,
    ParseFailure.rejectThrown_eq_ok_iff, version] at parsed
  obtain ⟨-, -, schemaVersion, isVersion, -, -, -, -, settings, read, -,
    -, versioned⟩ := parsed
  obtain rfl := Except.ok.inj isVersion
  rw [if_neg (by decide)] at versioned
  obtain ⟨credentials, -, shape⟩ := Json.bind_eq_ok_iff.mp versioned
  obtain rfl := Except.ok.inj shape
  exact (readSettings_credentials read).2

/-- Replacing a token keeps the ids of the credentials. -/
theorem Current.regenerate
    (current : Current configuration)
    {clientId : Bytes}
    {world later : World}
    (succeeded :
      regenerateClientCredential platform configuration clientId world =
        .ok (changed, later)) :
    Current changed := by
  have rotates := rotates_of_regenerateClientCredential succeeded
  refine ⟨⟨?_, ?_, ?_⟩, ?_⟩
  · rw [rotates.settings]
    exact current.storable.acceptable
  · rw [rotates.ids]
    exact current.storable.distinct
  · intro credential member unnamed
    have listed := List.mem_map_of_mem (f := McpClientCredential.clientId)
      member
    rw [rotates.ids] at listed
    obtain ⟨earlier, earlierMember, sameId⟩ := List.mem_map.mp listed
    exact current.storable.named earlier earlierMember
      (sameId.trans unnamed)
  · rw [rotates.settings]
    exact current.noLegacy

/-- Every call keeps a configuration current. -/
theorem Current.call
    (current : Current configuration)
    (called : CredentialCall platform configuration changed) :
    Current changed := by
  cases called with
  | ensure distinct named succeeded =>
      have completes :=
        completes_ensureClientCredentials
          ⟨current.storable.distinct, .inl current.noLegacy⟩
          current.storable named succeeded
      exact ⟨completes.storable, completes.current⟩
  | regenerate succeeded =>
      exact current.regenerate succeeded

/-- A current configuration is read back from its document. -/
theorem Current.parse_document
    (current : Current configuration)
    (library : DocumentLibrary) :
    parse library (document configuration) = .ok configuration := by
  have whole : withoutLegacy configuration = configuration := by
    unfold withoutLegacy
    rw [← current.noLegacy]
  rw [← parse_reread, parse_reread_document_iff, whole]
  exact ⟨current.storable, rfl⟩

/--
What any sequence of calls makes of a configuration that was read from a
document of the current schema comes back from its own document.
-/
theorem parse_document_of_calls
    (library : DocumentLibrary)
    (platform : Platform World)
    (source : Json)
    (version :
      source.valueOr (bytes "schema_version") (Json.getInt32 library) 0 =
        .ok 2)
    (loaded configuration : McpHostConfiguration)
    (parsed : parse library source = .ok loaded)
    (calls :
      Relation.ReflTransGen (CredentialCall platform) loaded
        configuration) :
    parse library (document configuration) = .ok configuration ∧
      parse library (document configuration).reread =
        .ok configuration := by
  have current : Current configuration := by
    induction calls with
    | refl =>
        exact current_of_parse version parsed
    | tail _ called inductionHypothesis =>
        exact inductionHypothesis.call called
  rw [parse_reread]
  exact ⟨current.parse_document library, current.parse_document library⟩

/-- A configuration of two clients with stored tokens. -/
def twoClients : McpHostConfiguration where
  enabled := true
  clientCredentials := [
    ⟨bytes "a", agentToken 97⟩,
    ⟨bytes "b", agentToken 98⟩
  ]

/-- The configuration with a token, made of drawn bytes, for a third one. -/
def threeClients (fresh : Bytes) : McpHostConfiguration where
  enabled := true
  clientCredentials :=
    twoClients.clientCredentials ++
      [⟨bytes "c", hexEncode (hexEncode fresh)⟩]

/-- A third client is added to two, and then given another token. -/
theorem parse_document_of_calls_threeClients :
    parse (readingLibrary .null)
          (document (threeClients (List.replicate 32 2))) =
        .ok (threeClients (List.replicate 32 2)) ∧
      parse (readingLibrary .null)
          (document (threeClients (List.replicate 32 2))).reread =
        .ok (threeClients (List.replicate 32 2)) := by
  have ensured :
      CredentialCall McpHost.plainSecrets.platform twoClients
        (threeClients (List.replicate 32 1)) :=
    @CredentialCall.ensure _ _ _ _
      (McpHost.twoProfiles ++ [{ id := bytes "c" }])
      [some (List.replicate 32 1)] []
      (by decide) (by decide) (by decide +kernel)
  have regenerated :
      CredentialCall McpHost.plainSecrets.platform
        (threeClients (List.replicate 32 1))
        (threeClients (List.replicate 32 2)) :=
    @CredentialCall.regenerate _ _ _ _ (bytes "c")
      [some (List.replicate 32 2)] [] (by decide +kernel)
  exact parse_document_of_calls _ McpHost.plainSecrets.platform
    (document twoClients).reread (by decide +kernel) twoClients _
    (by decide +kernel) (.tail (.tail .refl ensured) regenerated)

end Calls

end McpHostConfigurationRepository

end TgGate
