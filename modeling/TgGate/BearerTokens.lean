import TgGate.CredentialStages
import TgGate.HttpGate
import TgGate.Library.JsonText
import TgGate.Library.KeyedList
import TgGate.McpHostLifecycle

namespace TgGate

open Library

/-!
# One bearer token for one profile

The parser rejects two credentials with the same client id, and a legacy token
is refused when there are several profiles.  Nothing compares the tokens
themselves once they are decrypted, so a configuration file that stores one
token for two clients gives both of them the same token.

DPAPI is a pair of functions of which one inverts the other, and the random
bytes are drawn from a list of outcomes.
-/

/-- DPAPI without failures that depend on the time of the call. -/
structure SecretPair where
  protect : Bytes → Bytes → Option Bytes
  unprotect : Bytes → Bytes → Option Bytes
  restores :
    ∀ {plainText purpose cipherText},
      protect plainText purpose = some cipherText →
      unprotect cipherText purpose = some plainText

/-- The outcomes of the random number generator, in the order of calls. -/
abbrev Draws := List (Option Bytes)

/-- The pair as a platform that draws its random bytes from a list. -/
def SecretPair.platform (secrets : SecretPair) : Platform Draws where
  protect plainText purpose draws :=
    (secrets.protect plainText purpose).map (·, draws)
  unprotect cipherText purpose draws :=
    (secrets.unprotect cipherText purpose).map (·, draws)
  randomBytes _ draws :=
    match draws with
    | some fresh :: later => some (fresh, later)
    | _ => none
  pathExists _ _ := false

namespace McpHostConfigurationRepository

section Parsing

/-- What a parsed configuration satisfies. -/
structure WellFormed (configuration : McpHostConfiguration) : Prop where
  distinct :
    (configuration.clientCredentials.map
      McpClientCredential.clientId).Nodup
  legacyAlone :
    configuration.legacyBearerTokenDpapi = [] ∨
      configuration.clientCredentials = []

/-- The first credential has a new id of its own. -/
theorem exists_of_parseCredentials_cons
    {clientIds : List Bytes}
    {value : Json}
    {rest : List Json}
    {credentials : List McpClientCredential}
    (parsed :
      parseCredentials clientIds (value :: rest) = .ok credentials) :
    ∃ credential others,
      credentials = credential :: others ∧
        credential.clientId ≠ [] ∧
        credential.clientId ∉ clientIds ∧
        parseCredentials (credential.clientId :: clientIds) rest =
          .ok others := by
  simp only [parseCredentials, Json.bind_eq_ok_iff,
    ParseFailure.require_eq_ok_iff, ParseFailure.mayThrow_eq_ok_iff]
    at parsed
  obtain ⟨-, -, clientId, -, -, fresh, bearerTokenDpapi, -, others,
    restParsed, shape⟩ := parsed
  simp only [Bool.and_eq_true, Bool.not_eq_true',
    List.isEmpty_eq_false_iff, decide_eq_true_eq] at fresh
  exact ⟨_, others, (Except.ok.inj shape).symm, fresh.1, fresh.2,
    restParsed⟩

theorem parseCredentials_ids
    {clientIds : List Bytes}
    {entries : List Json}
    {credentials : List McpClientCredential}
    (parsed : parseCredentials clientIds entries = .ok credentials) :
    (credentials.map McpClientCredential.clientId).Nodup ∧
      ∀ credential ∈ credentials, credential.clientId ∉ clientIds := by
  induction entries generalizing clientIds credentials with
  | nil =>
      obtain rfl := Except.ok.inj parsed
      simp
  | cons value rest inductionHypothesis =>
      obtain ⟨credential, others, rfl, -, fresh, restParsed⟩ :=
        exists_of_parseCredentials_cons parsed
      obtain ⟨othersDistinct, othersFresh⟩ :=
        inductionHypothesis restParsed
      constructor
      · rw [List.map_cons, List.nodup_cons]
        refine ⟨?_, othersDistinct⟩
        intro repeated
        obtain ⟨other, member, same⟩ := List.mem_map.mp repeated
        exact othersFresh other member (by simp [same])
      · intro other member
        rcases List.mem_cons.mp member with rfl | inOthers
        · exact fresh
        · intro inIds
          exact othersFresh other inOthers
            (List.mem_cons_of_mem _ inIds)

/-- Reading the settings leaves both kinds of credentials empty. -/
theorem readSettings_credentials
    {library : DocumentLibrary}
    {document : Json}
    {configuration : McpHostConfiguration}
    (read : readSettings library document = .ok configuration) :
    configuration.clientCredentials = [] ∧
      configuration.legacyBearerTokenDpapi = [] := by
  simp only [readSettings, Json.bind_eq_ok_iff] at read
  obtain ⟨enabled, -, address, -, port, -, size, -, connections, -,
    origins, -, shape⟩ := read
  obtain rfl := Except.ok.inj shape
  exact ⟨rfl, rfl⟩

theorem wellFormed_of_parse
    {library : DocumentLibrary}
    {document : Json}
    {configuration : McpHostConfiguration}
    (parsed : parse library document = .ok configuration) :
    WellFormed configuration := by
  simp only [parse, Json.bind_eq_ok_iff, ParseFailure.require_eq_ok_iff,
    ParseFailure.mayThrow_eq_ok_iff,
    ParseFailure.rejectThrown_eq_ok_iff] at parsed
  obtain ⟨-, -, schemaVersion, -, -, -, -, -, settings, read, -, -,
    versioned⟩ := parsed
  obtain ⟨noCredentials, noLegacy⟩ := readSettings_credentials read
  split at versioned
  · simp only [Json.bind_eq_ok_iff] at versioned
    obtain ⟨legacyToken, -, shape⟩ := versioned
    obtain rfl := Except.ok.inj shape
    exact ⟨by simp [noCredentials], .inr noCredentials⟩
  · simp only [Json.bind_eq_ok_iff] at versioned
    obtain ⟨credentials, credentialsParsed, shape⟩ := versioned
    obtain rfl := Except.ok.inj shape
    simp only [parseClientCredentials, Json.bind_eq_ok_iff]
      at credentialsParsed
    obtain ⟨-, -, entriesParsed⟩ := credentialsParsed
    exact ⟨(parseCredentials_ids entriesParsed).1, .inl noLegacy⟩

theorem wellFormed_of_load
    {library : DocumentLibrary}
    {content : Option Bytes}
    {configuration : McpHostConfiguration}
    (loaded : load library content = .ok configuration) :
    WellFormed configuration := by
  cases content with
  | none =>
      cases loaded
  | some text =>
      simp only [load, ParseFailure.rejectThrown_eq_ok_iff, Json.bind_eq_ok_iff]
        at loaded
      obtain ⟨document, -, parsed⟩ := loaded
      exact wellFormed_of_parse parsed

end Parsing

section Credentials

variable (secrets : SecretPair)

/-- The valid bearer token that a protected token decrypts to. -/
def plainToken (protectedToken : Bytes) : Option Bytes :=
  match hexDecode protectedToken with
  | none => none
  | some protectedBytes =>
      (secrets.unprotect protectedBytes kTokenPurpose).filter isBearerToken

theorem unprotectBearerToken_eq_some_iff
    {protectedToken : Bytes}
    {draws : Draws}
    {result : SecretBuffer × Draws} :
    unprotectBearerToken secrets.platform protectedToken draws =
        some result ↔
      plainToken secrets protectedToken = some result.1.content ∧
        result.2 = draws := by
  rcases result with ⟨token, later⟩
  rw [unprotectBearerToken_iff]
  unfold plainToken SecretPair.platform
  cases hexDecode protectedToken with
  | none =>
      simp
  | some protectedBytes =>
      simp only [Option.some.injEq, exists_eq_left',
        Option.map_eq_some_iff, Prod.mk.injEq, Option.filter_eq_some_iff]
      constructor
      · rintro ⟨⟨plainBytes, unprotected, rfl, rfl⟩, isToken⟩
        exact ⟨⟨unprotected, isToken⟩, rfl⟩
      · rintro ⟨⟨unprotected, isToken⟩, rfl⟩
        exact ⟨⟨token.content, unprotected, rfl, rfl⟩, isToken⟩

/-- A credential whose token was made from freshly drawn bytes. -/
def Generated (credential : McpClientCredential) (fresh : Bytes) : Prop :=
  ∃ cipherText,
    secrets.protect (hexEncode fresh) kTokenPurpose = some cipherText ∧
      credential.bearerTokenDpapi = hexEncode cipherText

/-- A generated token decrypts to the text of the drawn bytes. -/
theorem Generated.plainToken_eq
    {credential : McpClientCredential}
    {fresh token : Bytes}
    (generated : Generated secrets credential fresh)
    (decrypted :
      plainToken secrets credential.bearerTokenDpapi = some token) :
    token = hexEncode fresh := by
  obtain ⟨cipherText, protects, blob⟩ := generated
  rw [blob] at decrypted
  unfold plainToken at decrypted
  by_cases empty : cipherText = []
  · simp [empty] at decrypted
  · rw [hexDecode_hexEncode empty] at decrypted
    simp only [secrets.restores protects, Option.filter_some] at decrypted
    split at decrypted
    · exact (Option.some.inj decrypted).symm
    · cases decrypted

/-- The bytes of generated credentials are drawn from the front of the list. -/
theorem generated_of_generates
    {draws later : Draws}
    {added : List McpClientCredential}
    {fresh : List Bytes}
    (made : Generates secrets.platform draws added fresh later) :
    draws = fresh.map some ++ later ∧
      List.Forall₂ (Generated secrets) added fresh := by
  induction made with
  | nil =>
      exact ⟨rfl, .nil⟩
  | @cons draws drawn sealed later clientId first cipherText _ _ draw
      protects _ inductionHypothesis =>
      have taken : draws = some first :: drawn := by
        rcases draws with _ | ⟨_ | drawnFirst, rest⟩
        · cases draw
        · cases draw
        · obtain ⟨rfl, rfl⟩ := Prod.mk.inj (Option.some.inj draw)
          rfl
      obtain ⟨_, isProtected, rfl, rfl⟩ :=
        Option.map_eq_some_iff.mp protects
      obtain ⟨restDrawn, restMade⟩ := inductionHypothesis
      exact ⟨by rw [taken, restDrawn]; rfl,
        .cons ⟨_, isProtected, rfl⟩ restMade⟩

/-- The protected tokens that a configuration brings along. -/
def storedTokens (configuration : McpHostConfiguration) : List Bytes :=
  configuration.clientCredentials.map
      McpClientCredential.bearerTokenDpapi ++
    if configuration.legacyBearerTokenDpapi.isEmpty then
      []
    else
      [configuration.legacyBearerTokenDpapi]

/-- Migration moves the legacy token among the credentials. -/
theorem migrateLegacyToken_eq_ok
    {profiles : List McpClientProfile}
    {configuration migrated : McpHostConfiguration}
    {draws later : Draws}
    (wellFormed : WellFormed configuration)
    (succeeded :
      migrateLegacyToken secrets.platform profiles configuration draws =
        .ok (migrated, later)) :
    later = draws ∧
      (migrated.clientCredentials.map
        McpClientCredential.clientId).Nodup ∧
      migrated.clientCredentials.map
          McpClientCredential.bearerTokenDpapi =
        storedTokens configuration := by
  unfold migrateLegacyToken at succeeded
  unfold storedTokens
  split at succeeded
  · next noLegacy =>
      rw [Attempt.pure_eq_ok_iff, Prod.mk.injEq] at succeeded
      rcases succeeded with ⟨rfl, rfl⟩
      exact ⟨rfl, wellFormed.distinct, by simp [noLegacy]⟩
  · next legacy =>
      have alone : configuration.clientCredentials = [] :=
        wellFormed.legacyAlone.resolve_left (by simpa using legacy)
      split at succeeded
      · next profile =>
          simp only [Attempt.bind_eq_ok_iff, Attempt.orError_eq_ok_iff,
            Attempt.pure_eq_ok_iff, Prod.mk.injEq,
            unprotectBearerToken_eq_some_iff] at succeeded
          obtain ⟨token, between, ⟨-, rfl⟩, rfl, rfl⟩ := succeeded
          exact ⟨rfl, by simp [alone], by simp [alone, legacy]⟩
      · simp at succeeded

/-- Checking the credentials draws nothing. -/
theorem draws_of_checkCredentials
    {profiles : List McpClientProfile}
    {credentials : List McpClientCredential}
    {draws later : Draws}
    {result : Unit}
    (succeeded :
      checkCredentials secrets.platform profiles credentials draws =
        .ok (result, later)) :
    later = draws := by
  induction credentials generalizing draws with
  | nil =>
      simp only [checkCredentials, Attempt.pure_eq_ok_iff,
        Prod.mk.injEq] at succeeded
      exact succeeded.2
  | cons credential rest inductionHypothesis =>
      simp only [checkCredentials, Attempt.bind_eq_ok_iff,
        Attempt.require_eq_ok_iff, Attempt.orError_eq_ok_iff,
        unprotectBearerToken_eq_some_iff] at succeeded
      obtain ⟨-, draws, ⟨-, rfl⟩, -, draws, ⟨-, rfl⟩, token, draws,
        ⟨-, rfl⟩, restChecked⟩ := succeeded
      exact inductionHypothesis restChecked

/--
Creating credentials adds one for every profile without one, each made from the
next drawn bytes.
-/
theorem createCredentials_eq_ok
    {profiles : List McpClientProfile}
    {configuration ensured : McpHostConfiguration}
    {draws later : Draws}
    (distinct : (profiles.map McpClientProfile.id).Nodup)
    (succeeded :
      createCredentials secrets.platform configuration profiles draws =
        .ok (ensured, later)) :
    ∃ added fresh,
      ensured.clientCredentials =
          configuration.clientCredentials ++ added ∧
        added.map McpClientCredential.clientId =
          (profiles.map McpClientProfile.id).filter
            (· ∉ configuration.clientCredentials.map
              McpClientCredential.clientId) ∧
        draws = fresh.map some ++ later ∧
        List.Forall₂ (Generated secrets) added fresh := by
  obtain ⟨added, fresh, rfl, ids, made⟩ :=
    generates_of_createCredentials distinct succeeded
  obtain ⟨drawn, allMade⟩ := generated_of_generates secrets made
  exact ⟨added, fresh, rfl, ids, drawn, allMade⟩

/-- Collecting clients decrypts the credential of each profile. -/
theorem collectClients_eq_ok
    {profiles : List McpClientProfile}
    {configuration : McpHostConfiguration}
    {clients : List AuthenticatedClient}
    {draws later : Draws}
    (succeeded :
      McpHost.collectClients secrets.platform configuration profiles
        draws = .ok (clients, later)) :
    clients.map AuthenticatedClient.profile = profiles ∧
      clients.map (fun client => some client.bearerToken) =
        (profiles.map McpClientProfile.id).map fun sought =>
          (findClientCredential configuration sought).bind
            fun credential =>
              plainToken secrets credential.bearerTokenDpapi := by
  induction profiles generalizing draws clients with
  | nil =>
      simp only [McpHost.collectClients, Attempt.pure_eq_ok_iff,
        Prod.mk.injEq] at succeeded
      rcases succeeded with ⟨rfl, -⟩
      exact ⟨rfl, rfl⟩
  | cons profile rest inductionHypothesis =>
      simp only [McpHost.collectClients, Attempt.bind_eq_ok_iff,
        Attempt.ofOption_eq_ok_iff, Attempt.orError_eq_ok_iff,
        unprotectBearerToken_eq_some_iff, Attempt.pure_eq_ok_iff,
        Prod.mk.injEq] at succeeded
      obtain ⟨credential, draws, ⟨found, rfl⟩, token, draws,
        ⟨decrypted, rfl⟩, others, draws, restCollected, rfl, rfl⟩ :=
        succeeded
      obtain ⟨sameProfiles, sameTokens⟩ :=
        inductionHypothesis restCollected
      constructor
      · rw [List.map_cons, sameProfiles]
      · rw [List.map_cons, sameTokens, List.map_cons, List.map_cons,
          found, Option.bind_some, decrypted]

end Credentials

end McpHostConfigurationRepository

namespace McpHost

open McpHostConfigurationRepository

section Stages

variable {World : Type}
variable {library : DocumentLibrary}
variable {platform : Platform World}
variable {saveOutcome : ReplacementOutcome}
variable {startHost : HttpHostOptions → Option Bytes}
variable {path : FilesystemPath}
variable {profiles : List McpClientProfile}
variable {host : McpHost}
variable {files : FileSystem}
variable {world : World}

/-- Reporting an error does not start the host. -/
theorem running_fail (error : Bytes) :
    (host.fail error files).2.2.running = host.running :=
  rfl

/-- A host that is launched has the clients it was launched with. -/
theorem clients_launch
    {configuration : McpHostConfiguration}
    {clients : List AuthenticatedClient}
    (stopped : host.running = false)
    (runs :
      (launch startHost host configuration clients files).2.2.running =
        true) :
    (launch startHost host configuration clients files).2.2.clients =
      clients := by
  unfold launch at runs ⊢
  cases answered : startHost (hostOptions configuration) with
  | some error =>
      rw [answered] at runs
      simp [running_fail, stopped] at runs
  | none =>
      rfl

/-- Launching does not touch the files. -/
theorem files_launch
    (configuration : McpHostConfiguration)
    (clients : List AuthenticatedClient) :
    (launch startHost host configuration clients files).2.1 = files := by
  unfold launch
  cases startHost (hostOptions configuration) <;> rfl

/-- Once the credentials are complete only their save touches the files. -/
theorem files_startEnabled
    {loaded ensured : McpHostConfiguration}
    {later : World}
    (ensuring :
      ensureClientCredentials platform loaded profiles world =
        .ok (ensured, later)) :
    (startEnabled library platform saveOutcome startHost path profiles
        host loaded files world).2.1 =
      (saveAdded library saveOutcome path loaded ensured files).2 := by
  simp only [startEnabled, ensuring]
  generalize
    saveAdded library saveOutcome path loaded ensured files = saved
  rcases saved with ⟨thrown | error | done, savedFiles⟩
  · rfl
  · rfl
  · cases collecting :
        collectClients platform ensured profiles later with
    | error error =>
        rfl
    | ok collected =>
        exact files_launch ensured collected.1

theorem stages_of_startEnabled
    {loaded : McpHostConfiguration}
    (stopped : host.running = false)
    (runs :
      (startEnabled library platform saveOutcome startHost path profiles
        host loaded files world).2.2.running = true) :
    ∃ ensured between clients later,
      ensureClientCredentials platform loaded profiles world =
          .ok (ensured, between) ∧
        (saveAdded library saveOutcome path loaded ensured files).1 =
          .ok (.ok ()) ∧
        collectClients platform ensured profiles between =
          .ok (clients, later) ∧
        (startEnabled library platform saveOutcome startHost path profiles
          host loaded files world).2.2.clients = clients := by
  unfold startEnabled at runs ⊢
  cases ensuring :
      ensureClientCredentials platform loaded profiles world with
  | error error =>
      simp [ensuring, running_fail, stopped] at runs
  | ok outcome =>
      rcases outcome with ⟨ensured, between⟩
      simp only [ensuring] at runs ⊢
      generalize saving :
        saveAdded library saveOutcome path loaded ensured files = saved
        at runs ⊢
      rcases saved with ⟨thrown | error | done, savedFiles⟩
      · simp [stopped] at runs
      · simp [running_fail, stopped] at runs
      · simp only at runs ⊢
        cases collecting :
            collectClients platform ensured profiles between with
        | error error =>
            simp [collecting, running_fail, stopped] at runs
        | ok collected =>
            rcases collected with ⟨clients, later⟩
            simp only [collecting] at runs ⊢
            exact ⟨ensured, between, clients, later, rfl, by rw [saving],
              collecting, clients_launch stopped runs⟩

/-- What a start that leaves the host running went through. -/
theorem stages_of_running
    (runs :
      (start library platform saveOutcome startHost path profiles host
        files world).2.2.running = true) :
    ∃ loaded ensured between clients later,
      load library (files path) = .ok loaded ∧
        ensureClientCredentials platform loaded profiles world =
          .ok (ensured, between) ∧
        (saveAdded library saveOutcome path loaded ensured files).1 =
          .ok (.ok ()) ∧
        collectClients platform ensured profiles between =
          .ok (clients, later) ∧
        (start library platform saveOutcome startHost path profiles host
          files world).2.2.clients = clients ∧
        (start library platform saveOutcome startHost path profiles host
          files world).2.1 =
          (saveAdded library saveOutcome path loaded ensured files).2 := by
  have stopped : host.stop.running = false := rfl
  unfold start at runs ⊢
  rcases loading : load library (files path) with
    (exception | error) | loaded
  · simp [loading, stopped] at runs
  · simp [loading, running_fail, stopped] at runs
  · simp only [loading] at runs ⊢
    by_cases disabled : loaded.enabled = false
    · simp [disabled, stopped] at runs
    · by_cases noProfiles : profiles.isEmpty = true
      · simp [disabled, noProfiles, running_fail, stopped] at runs
      · simp only [disabled, noProfiles, Bool.false_eq_true,
          ↓reduceIte] at runs ⊢
        obtain ⟨ensured, between, clients, later, ensuring, saved,
          collecting, shape⟩ := stages_of_startEnabled stopped runs
        exact ⟨loaded, ensured, between, clients, later, rfl, ensuring,
          saved, collecting, shape, files_startEnabled ensuring⟩

end Stages

section Tokens

variable {secrets : SecretPair}
variable {profiles : List McpClientProfile}

/-- Completing the credentials binds one to the id of every profile. -/
theorem ensureClientCredentials_eq_ok
    {loaded ensured : McpHostConfiguration}
    {draws later : Draws}
    (wellFormed : WellFormed loaded)
    (distinct : (profiles.map McpClientProfile.id).Nodup)
    (succeeded :
      ensureClientCredentials secrets.platform loaded profiles draws =
        .ok (ensured, later)) :
    ∃ stored added fresh,
      ensured.clientCredentials = stored ++ added ∧
        stored.map McpClientCredential.bearerTokenDpapi =
          storedTokens loaded ∧
        draws = fresh.map some ++ later ∧
        List.Forall₂ (Generated secrets) added fresh ∧
        (ensured.clientCredentials.map
          McpClientCredential.clientId).Nodup ∧
        (profiles.map McpClientProfile.id).Perm
          (ensured.clientCredentials.map
            McpClientCredential.clientId) := by
  simp only [ensureClientCredentials, Attempt.bind_eq_ok_iff]
    at succeeded
  obtain ⟨migrated, between, migrating, ⟨⟩, between, checked,
    created⟩ := succeeded
  obtain ⟨rfl, migratedDistinct, migratedTokens⟩ :=
    migrateLegacyToken_eq_ok secrets wellFormed migrating
  have known := checked_of_checkCredentials checked
  obtain rfl := draws_of_checkCredentials secrets checked
  obtain ⟨added, fresh, appended, ids, drawn, made⟩ :=
    createCredentials_eq_ok secrets distinct created
  have allIds :
      ensured.clientCredentials.map McpClientCredential.clientId =
        migrated.clientCredentials.map McpClientCredential.clientId ++
          (profiles.map McpClientProfile.id).filter
            (· ∉ migrated.clientCredentials.map
              McpClientCredential.clientId) := by
    rw [appended, List.map_append, ids]
  refine ⟨migrated.clientCredentials, added, fresh, appended,
    migratedTokens, drawn, made, ?_, ?_⟩
  · rw [allIds]
    exact nodup_append_missing migratedDistinct distinct
  · rw [allIds]
    refine (perm_append_missing migratedDistinct distinct ?_).symm
    intro id present
    obtain ⟨credential, inMigrated, rfl⟩ := List.mem_map.mp present
    exact (known credential inMigrated).known

/-- Freshly made credentials that decrypt hold the drawn bytes. -/
theorem map_plainToken_of_generated
    {added : List McpClientCredential}
    {fresh : List Bytes}
    (made : List.Forall₂ (Generated secrets) added fresh)
    (decrypts :
      ∀ credential ∈ added,
        ∃ token,
          plainToken secrets credential.bearerTokenDpapi = some token) :
    (added.map fun credential =>
        plainToken secrets credential.bearerTokenDpapi) =
      (fresh.map some).map (Option.map hexEncode) := by
  induction made with
  | nil =>
      rfl
  | cons generated _ inductionHypothesis =>
      obtain ⟨token, decrypted⟩ := decrypts _ List.mem_cons_self
      rw [List.map_cons, decrypted,
        generated.plainToken_eq secrets decrypted,
        inductionHypothesis fun credential member =>
          decrypts credential (List.mem_cons_of_mem _ member)]
      rfl

/--
The tokens that a start uses: those stored in the configuration, decrypted, and
the texts of the bytes drawn for the profiles that have none.
-/
def usedTokens
    (secrets : SecretPair)
    (loaded : McpHostConfiguration)
    (profiles : List McpClientProfile)
    (draws : Draws) : List (Option Bytes) :=
  (storedTokens loaded).map (plainToken secrets) ++
    (draws.take (profiles.length - (storedTokens loaded).length)).map
      (Option.map hexEncode)

/-- The clients of a running host hold exactly these tokens. -/
theorem tokens_perm_usedTokens
    {loaded ensured : McpHostConfiguration}
    {clients : List AuthenticatedClient}
    {draws between later : Draws}
    (wellFormed : WellFormed loaded)
    (distinct : (profiles.map McpClientProfile.id).Nodup)
    (ensuring :
      ensureClientCredentials secrets.platform loaded profiles draws =
        .ok (ensured, between))
    (collecting :
      collectClients secrets.platform ensured profiles between =
        .ok (clients, later)) :
    (clients.map fun client => some client.bearerToken).Perm
      (usedTokens secrets loaded profiles draws) := by
  obtain ⟨stored, added, fresh, appended, storedShape, drawn, made,
    allDistinct, samePerm⟩ :=
    ensureClientCredentials_eq_ok wellFormed distinct ensuring
  have tokens :
      (clients.map fun client => some client.bearerToken).Perm
        (ensured.clientCredentials.map fun credential =>
          plainToken secrets credential.bearerTokenDpapi) := by
    have found := (map_find?_perm allDistinct samePerm).map
      fun credential =>
        credential.bind fun credential =>
          plainToken secrets credential.bearerTokenDpapi
    rw [(collectClients_eq_ok secrets collecting).2]
    simpa [List.map_map, Function.comp_def, findClientCredential]
      using found
  have decrypts :
      ∀ credential ∈ added,
        ∃ token,
          plainToken secrets credential.bearerTokenDpapi =
            some token := by
    intro credential member
    have inAll : credential ∈ ensured.clientCredentials := by
      rw [appended]
      exact List.mem_append_right _ member
    obtain ⟨client, -, held⟩ :=
      List.mem_map.mp (tokens.mem_iff.mpr (List.mem_map_of_mem inAll))
    exact ⟨client.bearerToken, held.symm⟩
  have missing :
      profiles.length - (storedTokens loaded).length =
        (fresh.map some).length := by
    have sameLength := samePerm.length_eq
    have storedLength := congrArg List.length storedShape
    have madeLength := made.length_eq
    simp only [List.length_map, appended, List.length_append]
      at sameLength storedLength ⊢
    omega
  have storedPlain :
      (stored.map fun credential =>
          plainToken secrets credential.bearerTokenDpapi) =
        (storedTokens loaded).map (plainToken secrets) := by
    rw [← storedShape, List.map_map]
    rfl
  refine tokens.trans (List.Perm.of_eq ?_)
  unfold usedTokens
  rw [missing, drawn, List.take_left, appended, List.map_append,
    map_plainToken_of_generated made decrypts, storedPlain]

end Tokens

/-- No two clients share a token, so a request's token names one client. -/
structure TokensIdentify (clients : List AuthenticatedClient) : Prop where
  distinct : (clients.map AuthenticatedClient.bearerToken).Nodup
  resolves :
    ∀ authorization,
      ∀ first ∈ clients,
        ∀ second ∈ clients,
          matchesBearerToken authorization first.bearerToken = true →
          matchesBearerToken authorization second.bearerToken = true →
          first = second

/-- Distinct tokens are enough for a token to name its client. -/
theorem tokensIdentify_iff {clients : List AuthenticatedClient} :
    TokensIdentify clients ↔
      (clients.map AuthenticatedClient.bearerToken).Nodup := by
  constructor
  · exact TokensIdentify.distinct
  · intro distinct
    refine ⟨distinct, ?_⟩
    intro authorization first firstMember second secondMember
      firstMatches secondMatches
    obtain ⟨scheme, shape, schemeLength, -⟩ :=
      matchesBearerToken_iff.mp firstMatches
    obtain ⟨other, otherShape, otherLength, -⟩ :=
      matchesBearerToken_iff.mp secondMatches
    have sameToken : first.bearerToken = second.bearerToken :=
      (List.append_inj (shape.symm.trans otherShape)
        (schemeLength.trans otherLength.symm)).2
    exact List.inj_on_of_nodup_map distinct firstMember secondMember
      sameToken

/-- The tokens used with a configuration file, none if it cannot be loaded. -/
def bearerTokens
    (library : DocumentLibrary)
    (secrets : SecretPair)
    (content : Option Bytes)
    (profiles : List McpClientProfile)
    (draws : Draws) : List (Option Bytes) :=
  match load library content with
  | .error _ => []
  | .ok loaded => usedTokens secrets loaded profiles draws

/--
When the host runs, a token identifies one profile exactly if the stored
tokens decrypt to distinct texts and the generated ones differ from them and
from each other.
-/
theorem start_tokensIdentify_iff
    (library : DocumentLibrary)
    (secrets : SecretPair)
    (saveOutcome : ReplacementOutcome)
    (startHost : HttpHostOptions → Option Bytes)
    (path : FilesystemPath)
    (profiles : List McpClientProfile)
    (host : McpHost)
    (files : FileSystem)
    (draws : Draws)
    (distinct : (profiles.map McpClientProfile.id).Nodup)
    (runs :
      (start library secrets.platform saveOutcome startHost path profiles
        host files draws).2.2.running = true) :
    TokensIdentify
        (start library secrets.platform saveOutcome startHost path
          profiles host files draws).2.2.clients ↔
      (bearerTokens library secrets (files path) profiles
        draws).Nodup := by
  obtain ⟨loaded, ensured, between, clients, later, loading, ensuring,
    -, collecting, shape, -⟩ := stages_of_running runs
  have tokens :=
    tokens_perm_usedTokens (wellFormed_of_load loading) distinct ensuring
      collecting
  have someTokens :
      (clients.map fun client => some client.bearerToken) =
        (clients.map AuthenticatedClient.bearerToken).map some := by
    rw [List.map_map]
    rfl
  unfold bearerTokens
  rw [shape, tokensIdentify_iff, loading, ← tokens.nodup_iff, someTokens,
    List.nodup_map_iff (Option.some_injective _)]

section TwoProfiles

/-- A pair that stores plain texts as they are. -/
def plainSecrets : SecretPair where
  protect plainText _ := some plainText
  unprotect cipherText _ := some cipherText
  restores := by
    rintro plainText purpose cipherText ⟨⟩
    rfl

/-- A configuration that stores a token for each of two clients. -/
def twoClientsDocument (first second : Bytes) : Json :=
  .ofMembers [
    (bytes "schema_version", .numberUnsigned 2),
    (bytes "enabled", .boolean true),
    (bytes "client_credentials", .array [
      credentialDocument ⟨bytes "a", hexEncode first⟩,
      credentialDocument ⟨bytes "b", hexEncode second⟩
    ])
  ]

/-- The profiles of the two clients. -/
def twoProfiles : List McpClientProfile :=
  [{ id := bytes "a" }, { id := bytes "b" }]

/-- Start a stopped host on a configuration with two stored tokens. -/
def startTwoClients
    (first second : Bytes) : StartResult × FileSystem × McpHost :=
  start (readingLibrary (twoClientsDocument first second))
    plainSecrets.platform
    { opened := true, drained := 0, streamed := true, flushed := 0,
      renameFailure := none }
    (fun _ => none) (bytes "mcp-host.json") twoProfiles {}
    (fun _ => some (compactText (twoClientsDocument first second))) []

/-- Distinct stored tokens keep the two clients apart. -/
theorem start_tokensIdentify_iff_two :
    TokensIdentify
      (startTwoClients (List.replicate 64 97)
        (List.replicate 64 98)).2.2.clients := by
  have runs :
      (startTwoClients (List.replicate 64 97)
        (List.replicate 64 98)).2.2.running = true := by
    decide +kernel
  have distinctTokens :
      (bearerTokens
        (readingLibrary
          (twoClientsDocument (List.replicate 64 97)
            (List.replicate 64 98)))
        plainSecrets
        (some (compactText
          (twoClientsDocument (List.replicate 64 97)
            (List.replicate 64 98))))
        twoProfiles []).Nodup := by
    decide +kernel
  unfold startTwoClients at runs ⊢
  exact (start_tokensIdentify_iff _ plainSecrets _ _ _ twoProfiles _ _ _
    (by decide) runs).mpr distinctTokens

/-- One token stored for two clients is accepted for both of them. -/
theorem start_shared_token :
    ¬ ∀ (library : DocumentLibrary)
        (secrets : SecretPair)
        (saveOutcome : ReplacementOutcome)
        (startHost : HttpHostOptions → Option Bytes)
        (path : FilesystemPath)
        (profiles : List McpClientProfile)
        (host : McpHost)
        (files : FileSystem)
        (draws : Draws),
        (profiles.map McpClientProfile.id).Nodup →
        (start library secrets.platform saveOutcome startHost path
          profiles host files draws).1 = .ok (.ok ()) →
        (start library secrets.platform saveOutcome startHost path
          profiles host files draws).2.2.running = true →
        TokensIdentify
          (start library secrets.platform saveOutcome startHost path
            profiles host files draws).2.2.clients := by
  intro identify
  have succeeds :
      (startTwoClients (List.replicate 64 97)
        (List.replicate 64 97)).1 = .ok (.ok ()) := by
    decide +kernel
  have runs :
      (startTwoClients (List.replicate 64 97)
        (List.replicate 64 97)).2.2.running = true := by
    decide +kernel
  have shared :
      ¬ ((startTwoClients (List.replicate 64 97)
        (List.replicate 64 97)).2.2.clients.map
          AuthenticatedClient.bearerToken).Nodup := by
    decide +kernel
  unfold startTwoClients at succeeds runs shared
  exact shared
    (identify _ plainSecrets _ _ _ twoProfiles _ _ _ (by decide)
      succeeds runs).distinct

end TwoProfiles

end McpHost

end TgGate
