import TgGate.BearerTokens
import TgGate.ConfigurationSave

namespace TgGate

open Library

/-!
# Documents of the MCP host

`save` writes the current schema and `parse` checks what it reads.  A written
document is parsed back exactly if the configuration passes these checks, and
then to the same settings and credentials; a legacy token is not written.
-/

namespace McpHostConfigurationRepository

/-- What `parse` checks of a configuration of the current schema. -/
structure Storable (configuration : McpHostConfiguration) : Prop where
  acceptable : settingsAreAcceptable configuration = true
  distinct :
    (configuration.clientCredentials.map
      McpClientCredential.clientId).Nodup
  named :
    ∀ credential ∈ configuration.clientCredentials,
      credential.clientId ≠ []

/-- A configuration without its legacy token. -/
def withoutLegacy
    (configuration : McpHostConfiguration) : McpHostConfiguration :=
  { configuration with legacyBearerTokenDpapi := [] }

section Entries

variable (credential : McpClientCredential)

/-- The written entry, with its members in the order of their keys. -/
theorem reread_credentialDocument :
    (credentialDocument credential).reread =
      .object [
        (bytes "bearer_token_dpapi",
          .string credential.bearerTokenDpapi),
        (bytes "client_id", .string credential.clientId)
      ] := by
  have shape :
      credentialDocument credential =
        .object [
          (bytes "bearer_token_dpapi",
            .string credential.bearerTokenDpapi),
          (bytes "client_id", .string credential.clientId)
        ] :=
    rfl
  rw [shape]
  simp [Json.reread, Json.rereadMembers]

theorem isCredentialEntry_reread :
    isCredentialEntry (credentialDocument credential).reread = true := by
  rw [reread_credentialDocument]
  rfl

theorem clientId_reread :
    (credentialDocument credential).reread.stringAt
        (bytes "client_id") =
      .ok credential.clientId := by
  simp [credentialDocument]

theorem bearerTokenDpapi_reread :
    (credentialDocument credential).reread.stringAt
        (bytes "bearer_token_dpapi") =
      .ok credential.bearerTokenDpapi := by
  simp [credentialDocument]

end Entries

/-- Written entries are parsed exactly if their ids are distinct and named. -/
theorem parseCredentials_written_iff
    {clientIds : List Bytes}
    {credentials parsed : List McpClientCredential} :
    parseCredentials clientIds
          (credentials.map fun credential =>
            (credentialDocument credential).reread) =
        .ok parsed ↔
      parsed = credentials ∧
        (credentials.map McpClientCredential.clientId).Nodup ∧
        ∀ credential ∈ credentials,
          credential.clientId ≠ [] ∧
            credential.clientId ∉ clientIds := by
  induction credentials generalizing clientIds parsed with
  | nil =>
      simp [parseCredentials, eq_comm]
  | cons credential rest inductionHypothesis =>
      simp only [List.map_cons, parseCredentials, Json.bind_eq_ok_iff,
        ParseFailure.require_eq_ok_iff, ParseFailure.mayThrow_eq_ok_iff,
        isCredentialEntry_reread, clientId_reread,
        bearerTokenDpapi_reread, inductionHypothesis]
      constructor
      · intro accepted
        obtain ⟨-, -, clientId, sameId, -, fresh, token, sameToken, others,
          ⟨rfl, othersDistinct, othersFresh⟩, shape⟩ := accepted
        obtain rfl := Except.ok.inj sameId
        obtain rfl := Except.ok.inj sameToken
        obtain rfl := Except.ok.inj shape
        simp only [Bool.and_eq_true, Bool.not_eq_true',
          List.isEmpty_eq_false_iff, decide_eq_true_eq] at fresh
        refine ⟨rfl, ?_, ?_⟩
        · rw [List.nodup_cons]
          refine ⟨?_, othersDistinct⟩
          intro repeated
          obtain ⟨other, member, same⟩ := List.mem_map.mp repeated
          exact (othersFresh other member).2 (by simp [same])
        · intro other member
          rcases List.mem_cons.mp member with rfl | inRest
          · exact fresh
          · obtain ⟨named, unused⟩ := othersFresh other inRest
            exact ⟨named, fun used =>
              unused (List.mem_cons_of_mem _ used)⟩
      · intro accepted
        obtain ⟨rfl, distinct, fresh⟩ := accepted
        rw [List.nodup_cons] at distinct
        obtain ⟨named, unused⟩ := fresh credential List.mem_cons_self
        refine ⟨(), trivial, credential.clientId, rfl, (), ?_,
          credential.bearerTokenDpapi, rfl, rest,
          ⟨rfl, distinct.2, ?_⟩, rfl⟩
        · simp [named, unused]
        · intro other member
          obtain ⟨otherNamed, otherUnused⟩ :=
            fresh other (List.mem_cons_of_mem _ member)
          refine ⟨otherNamed, ?_⟩
          intro used
          rcases List.mem_cons.mp used with same | inIds
          · exact distinct.1 (same ▸ List.mem_map_of_mem member)
          · exact otherUnused inIds

section Document

variable (library : DocumentLibrary)
variable (configuration : McpHostConfiguration)

/-- The settings of a written document are read back. -/
theorem readSettings_reread_document :
    readSettings library (document configuration).reread =
      .ok {
        configuration with
        clientCredentials := []
        legacyBearerTokenDpapi := []
      } := by
  have origins :=
    Json.getStrings_reread_array configuration.allowedOrigins
  simp [-Json.reread_array, readSettings, document,
    Json.valueOr_reread_ofMembers, Json.getBoolean, Json.getString,
    Json.getUInt16, Json.getUInt64, origins, bind, Except.bind, pure,
    Except.pure]

/-- The fields of a written document are those of the current schema. -/
theorem keys_document :
    (document configuration).keys.all (· ∈ v2Fields) = true := by
  rw [List.all_eq_true]
  intro key member
  exact decide_eq_true (Json.key_of_mem_keys_ofMembers member)

theorem parseClientCredentials_reread_document :
    parseClientCredentials (document configuration).reread =
      parseCredentials []
        (configuration.clientCredentials.map fun credential =>
          (credentialDocument credential).reread) := by
  have entries :
      (document configuration).reread.find?
          (bytes "client_credentials") =
        some (.array
          (configuration.clientCredentials.map fun credential =>
            (credentialDocument credential).reread)) := by
    simp [document, Function.comp_def]
  rw [parseClientCredentials, entries]
  rfl

/--
A written document is accepted exactly if the configuration is storable, and as
what was written of it.
-/
theorem parse_reread_document_iff {parsed : McpHostConfiguration} :
    parse library (document configuration).reread = .ok parsed ↔
      Storable configuration ∧
        parsed = withoutLegacy configuration := by
  have isObject : (document configuration).reread.isObject = true := by
    rw [Json.isObject_reread]
    rfl
  have version :
      (document configuration).reread.valueOr (bytes "schema_version")
          (Json.getInt32 library) 0 =
        .ok 2 := by
    rw [document, Json.valueOr_reread_ofMembers]
    rfl
  have fields :
      (document configuration).reread.keys.all (· ∈ v2Fields) = true := by
    rw [Json.keys_reread]
    exact keys_document configuration
  simp only [parse, Json.bind_eq_ok_iff, ParseFailure.require_eq_ok_iff,
    ParseFailure.mayThrow_eq_ok_iff,
    ParseFailure.rejectThrown_eq_ok_iff, version,
    readSettings_reread_document, parseClientCredentials_reread_document]
  constructor
  · intro accepted
    obtain ⟨-, -, schemaVersion, isVersion, -, -, -, -, settings,
      areSettings, -, acceptable, versioned⟩ := accepted
    obtain rfl := Except.ok.inj isVersion
    obtain rfl := Except.ok.inj areSettings
    rw [if_neg (by decide)] at versioned
    obtain ⟨credentials, entriesParsed, shape⟩ :=
      Json.bind_eq_ok_iff.mp versioned
    obtain rfl := Except.ok.inj shape
    obtain ⟨rfl, distinct, fresh⟩ :=
      parseCredentials_written_iff.mp entriesParsed
    exact ⟨⟨acceptable, distinct,
      fun credential member => (fresh credential member).1⟩, rfl⟩
  · intro storable
    obtain ⟨⟨acceptable, distinct, named⟩, rfl⟩ := storable
    refine ⟨(), isObject, 2, rfl, (), by decide, (), fields, _, rfl, (),
      acceptable, ?_⟩
    rw [if_neg (by decide), Json.bind_eq_ok_iff]
    refine ⟨configuration.clientCredentials,
      parseCredentials_written_iff.mpr ⟨rfl, distinct, ?_⟩, rfl⟩
    intro credential member
    exact ⟨named credential member, List.not_mem_nil⟩

end Document

section Loading

variable {library : DocumentLibrary}

/-- Parsed credentials have ids. -/
theorem parseCredentials_named
    {clientIds : List Bytes}
    {entries : List Json}
    {credentials : List McpClientCredential}
    (parsed : parseCredentials clientIds entries = .ok credentials) :
    ∀ credential ∈ credentials, credential.clientId ≠ [] := by
  induction entries generalizing clientIds credentials with
  | nil =>
      obtain rfl := Except.ok.inj parsed
      simp
  | cons value rest inductionHypothesis =>
      obtain ⟨first, others, rfl, named, -, restParsed⟩ :=
        exists_of_parseCredentials_cons parsed
      intro credential member
      rcases List.mem_cons.mp member with rfl | inOthers
      · exact named
      · exact inductionHypothesis restParsed credential inOthers

/-- Every configuration that the parser returns is storable. -/
theorem storable_of_parse
    {document : Json}
    {configuration : McpHostConfiguration}
    (parsed : parse library document = .ok configuration) :
    Storable configuration := by
  have distinct := (wellFormed_of_parse parsed).distinct
  simp only [parse, Json.bind_eq_ok_iff, ParseFailure.require_eq_ok_iff,
    ParseFailure.mayThrow_eq_ok_iff,
    ParseFailure.rejectThrown_eq_ok_iff] at parsed
  obtain ⟨-, -, schemaVersion, -, -, -, -, -, settings, read, -,
    acceptable, versioned⟩ := parsed
  split at versioned
  · obtain ⟨legacyToken, -, shape⟩ := Json.bind_eq_ok_iff.mp versioned
    obtain rfl := Except.ok.inj shape
    refine ⟨acceptable, distinct, ?_⟩
    rw [(readSettings_credentials read).1]
    simp
  · obtain ⟨credentials, credentialsParsed, shape⟩ :=
      Json.bind_eq_ok_iff.mp versioned
    obtain rfl := Except.ok.inj shape
    simp only [parseClientCredentials, Json.bind_eq_ok_iff]
      at credentialsParsed
    obtain ⟨-, -, entriesParsed⟩ := credentialsParsed
    exact ⟨acceptable, distinct, parseCredentials_named entriesParsed⟩

/-- What is loaded was parsed from a document. -/
theorem load_eq_ok_iff
    {content : Option Bytes}
    {configuration : McpHostConfiguration} :
    load library content = .ok configuration ↔
      ∃ text document,
        content = some text ∧
          library.parse text = .ok document ∧
          parse library document = .ok configuration := by
  cases content with
  | none =>
      simp [load]
  | some text =>
      simp only [load, ParseFailure.rejectThrown_eq_ok_iff,
        Json.bind_eq_ok_iff, ParseFailure.mayThrow_eq_ok_iff,
        Option.some.injEq]
      constructor
      · intro loaded
        obtain ⟨document, read, parsed⟩ := loaded
        exact ⟨text, document, rfl, read, parsed⟩
      · intro loaded
        obtain ⟨_, document, rfl, read, parsed⟩ := loaded
        exact ⟨document, read, parsed⟩

theorem storable_of_load
    {content : Option Bytes}
    {configuration : McpHostConfiguration}
    (loaded : load library content = .ok configuration) :
    Storable configuration := by
  obtain ⟨text, document, rfl, -, parsed⟩ := load_eq_ok_iff.mp loaded
  exact storable_of_parse parsed

/-- The text that `save` writes is loaded back. -/
theorem load_text
    {configuration : McpHostConfiguration}
    (storable : Storable configuration)
    (readsBack : ReadsBack library (document configuration))
    {content : Bytes}
    (written : text library configuration = .ok content) :
    load library (some content) =
      .ok (withoutLegacy configuration) := by
  obtain ⟨dumped, isDumped, shape⟩ := Json.bind_eq_ok_iff.mp written
  obtain rfl := Except.ok.inj shape
  exact load_eq_ok_iff.mpr ⟨_, _, rfl, readsBack.parses isDumped,
    (parse_reread_document_iff library configuration).mpr
      ⟨storable, rfl⟩⟩

end Loading

section Saving

variable {library : DocumentLibrary}
variable {outcome : ReplacementOutcome}
variable {path : FilesystemPath}
variable {configuration : McpHostConfiguration}
variable {files : FileSystem}

/-- A save that is not truncated replaces the whole file or leaves it. -/
theorem save_cases
    (whole : ¬ TruncatedAtClose outcome (text library configuration)) :
    ((save library outcome path configuration files).1 = .ok (.ok ()) ∧
        ∃ content,
          text library configuration = .ok content ∧
            (save library outcome path configuration files).2 path =
              some content) ∨
      (save library outcome path configuration files).1 ≠ .ok (.ok ()) ∧
        (save library outcome path configuration files).2 path =
          files path := by
  rw [mcpHostConfigurationRepository_save_eq]
  by_cases reported : outcome.Reported
  · cases written : text library configuration with
    | error thrown =>
        right
        simp [saveThrough, replaceFile, reported.1, Except.map,
          write_temporaryPath]
    | ok content =>
        left
        obtain ⟨succeeded, held⟩ :=
          saveThrough_of_reported saveError outcome path files reported
            content
        have complete : outcome.stored content = content := by
          rw [stored_eq_iff]
          by_contra short
          exact whole ⟨reported, content, written, by omega⟩
        exact ⟨succeeded, content, rfl, by rw [held, complete]⟩
  · right
    exact ⟨fst_saveThrough_ne_of_not_reported saveError outcome path _
        files reported,
      (replaceFile_of_not_reported outcome path files reported _).2⟩

end Saving

section Written

/-- A library that writes and reads the documents of some configurations. -/
def writtenLibrary
    (sources : List (Bytes × Json))
    (known : List (McpHostConfiguration × Bytes)) : DocumentLibrary where
  parse text :=
    match known.find? fun entry => entry.2 ++ bytes "\n" = text with
    | some (configuration, _) => .ok (document configuration).reread
    | none =>
        match sources.find? fun entry => entry.1 = text with
        | some (_, source) => .ok source
        | none => .error .parseError
  dump _ := .ok []
  dumpIndented _ written :=
    match parse (readingLibrary .null) written.reread with
    | .ok configuration =>
        match known.find? fun entry => entry.1 = configuration with
        | some (_, text) => .ok text
        | none => .error .typeError
    | .error _ => .error .typeError
  floatToInt64 _ := 0
  floatToUInt32 _ := 0
  floatToInt32 _ := 0
  floatToUInt16 _ := 0
  floatToUInt64 _ := 0

theorem readsBack_writtenLibrary
    {sources : List (Bytes × Json)}
    {known : List (McpHostConfiguration × Bytes)}
    (distinct : (known.map fun entry => entry.2 ++ bytes "\n").Nodup)
    (configuration : McpHostConfiguration) :
    ReadsBack (writtenLibrary sources known) (document configuration) where
  parses := by
    intro width text dumped
    simp only [writtenLibrary] at dumped ⊢
    cases parsed :
        parse (readingLibrary .null) (document configuration).reread with
    | error failure =>
        rw [parsed] at dumped
        cases dumped
    | ok read =>
        obtain ⟨-, rfl⟩ :=
          (parse_reread_document_iff _ configuration).mp parsed
        rw [parsed] at dumped
        cases found :
            known.find? fun entry =>
              entry.1 = withoutLegacy configuration with
        | none =>
            simp [found] at dumped
        | some entry =>
            simp only [found, Except.ok.injEq] at dumped
            subst dumped
            rw [find?_key_of_mem distinct
              (List.mem_of_find?_eq_some found)]
            have isConfiguration : entry.1 = withoutLegacy configuration :=
              key_of_find? found
            simp only [isConfiguration]
            rfl

/-- Where all known texts fit, no save is truncated at close. -/
theorem not_truncatedAtClose_writtenLibrary
    {sources : List (Bytes × Json)}
    {known : List (McpHostConfiguration × Bytes)}
    {outcome : ReplacementOutcome}
    (fits :
      ∀ entry ∈ known,
        (entry.2 ++ bytes "\n").length ≤
          outcome.drained + outcome.flushed)
    (configuration : McpHostConfiguration) :
    ¬ TruncatedAtClose outcome
      (text (writtenLibrary sources known) configuration) := by
  intro truncated
  obtain ⟨-, content, written, short⟩ := truncated
  obtain ⟨dumped, isDumped, shape⟩ := Json.bind_eq_ok_iff.mp written
  obtain rfl := Except.ok.inj shape
  have listed : ∃ entry ∈ known, entry.2 = dumped := by
    simp only [writtenLibrary] at isDumped
    split at isDumped
    · split at isDumped
      · next found =>
          obtain rfl := Except.ok.inj isDumped
          exact ⟨_, List.mem_of_find?_eq_some found, rfl⟩
      · cases isDumped
    · cases isDumped
  obtain ⟨entry, member, rfl⟩ := listed
  exact absurd short (Nat.not_lt.mpr (fits entry member))

/-- A profile. -/
def agentProfile : McpClientProfile where
  id := bytes "agent"

/-- A protected token of 64 equal characters. -/
def agentToken (character : UInt8) : Bytes :=
  hexEncode (List.replicate 64 character)

/-- A configuration with a token for this profile. -/
def agentConfiguration (token : Bytes) : McpHostConfiguration where
  enabled := true
  clientCredentials := [⟨bytes "agent", token⟩]

/-- The text of its document. -/
def agentText (token : Bytes) : Bytes :=
  bytes ("\x7b\n" ++
      "  \"allowed_origins\": [],\n" ++
      "  \"bind_address\": \"127.0.0.1\",\n" ++
      "  \"client_credentials\": [\n" ++
      "    \x7b\n" ++
      "      \"bearer_token_dpapi\": \"") ++
    token ++
    bytes ("\",\n" ++
      "      \"client_id\": \"agent\"\n" ++
      "    \x7d\n" ++
      "  ],\n" ++
      "  \"enabled\": true,\n" ++
      "  \"max_request_body_bytes\": 1048576,\n" ++
      "  \"maximum_connections\": 16,\n" ++
      "  \"port\": 8765,\n" ++
      "  \"schema_version\": 2\n" ++
      "\x7d")

end Written

end McpHostConfigurationRepository

namespace McpHost

open McpHostConfigurationRepository

section Files

variable {World : Type}
variable (library : DocumentLibrary)
variable (platform : Platform World)
variable (saveOutcome : ReplacementOutcome)
variable (startHost : HttpHostOptions → Option Bytes)
variable (path : FilesystemPath)
variable (profiles : List McpClientProfile)
variable (host : McpHost)
variable (files : FileSystem)
variable {world : World}

/-- A start of an enabled host is that of its loaded configuration. -/
theorem start_of_load
    {loaded : McpHostConfiguration}
    (loading : load library (files path) = .ok loaded)
    (enabled : loaded.enabled = true)
    (someProfile : profiles ≠ []) :
    start library platform saveOutcome startHost path profiles host files
        world =
      startEnabled library platform saveOutcome startHost path profiles
        host.stop loaded files world := by
  simp [start, loading, enabled, someProfile]

/-- A disabled host, or one without profiles, does not touch the files. -/
theorem files_start_of_idle
    {loaded : McpHostConfiguration}
    (loading : load library (files path) = .ok loaded)
    (idle : ¬ (loaded.enabled = true ∧ profiles ≠ [])) :
    (start library platform saveOutcome startHost path profiles host files
        world).2.1 =
      files := by
  by_cases disabled : loaded.enabled = false
  · simp [start, loading, disabled]
  · have noProfile : profiles = [] := by
      by_contra someProfile
      exact idle ⟨by simpa using disabled, someProfile⟩
    simp [start, loading, disabled, noProfile, fail]

end Files

end McpHost

end TgGate
