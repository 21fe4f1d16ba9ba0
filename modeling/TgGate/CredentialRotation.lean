import TgGate.ConfigurationRoundTrips
import TgGate.CredentialCompletion
import TgGate.Library.OutputParameters
import Mathlib.Data.List.Find

namespace TgGate

open Library

/-!
# Replacing one client's token

`regenerate_client_credential` changes the configuration of its caller only
when it returns true.  Once the host has been started again from the saved
configuration, the old token of that client belongs to nobody and the new one to
that client.  Every other request is answered for the same profile as before.
-/

/-- What DPAPI protected it gives back unchanged, if it gives it back. -/
structure Platform.Faithful {World : Type} (platform : Platform World) :
    Prop extends platform.Consistent where
  restores :
    ∀ {plainText purpose cipherText restored : Bytes}
      {world later other after : World},
      platform.protect plainText purpose world = some (cipherText, later) →
      platform.unprotect cipherText purpose other =
        some (restored, after) →
      restored = plainText

namespace McpHostConfigurationRepository

section Call

variable {World : Type}
variable (platform : Platform World)

/-- `regenerate_client_credential` of what its output parameter holds. -/
def regenerateFrom
    (configuration : McpHostConfiguration)
    (clientId : Bytes)
    (world : World) : Statement McpHostConfiguration Empty := do
  Statement.rejectUnless
    (findClientCredential configuration clientId).isSome
    (bytes "MCP credential does not exist for this client")
  match generateProtectedBearerToken platform world with
  | none =>
      Statement.reject
        (bytes ("Windows CSPRNG or DPAPI failed while rotating the MCP " ++
          "bearer token"))
  | some (protectedToken, _) =>
      Statement.assignOutput { configuration with
        clientCredentials :=
          modifyFirst (·.clientId = clientId)
            (fun credential =>
              { credential with bearerTokenDpapi := protectedToken })
            configuration.clientCredentials }
      Statement.returnResult true

/-- `regenerate_client_credential` with its output parameter. -/
def regenerateInto
    (clientId : Bytes)
    (world : World) : Statement McpHostConfiguration Empty :=
  fun outputs =>
    regenerateFrom platform outputs.output clientId world outputs

/-- The configuration that a regeneration computes, or its error text. -/
def regenerated
    (configuration : McpHostConfiguration)
    (clientId : Bytes)
    (world : World) : Except ParseFailure McpHostConfiguration :=
  match regenerateClientCredential platform configuration clientId world with
  | .ok (rotated, _) => .ok rotated
  | .error error => .error (.rejected error)

theorem delivers_regenerateFrom
    (configuration : McpHostConfiguration)
    (clientId : Bytes)
    (world : World) :
    Delivers (regenerateFrom platform configuration clientId world)
      (regenerated platform configuration clientId world) := by
  unfold regenerateFrom regenerated regenerateClientCredential
  intro outputs
  cases (findClientCredential configuration clientId).isSome with
  | false =>
      rfl
  | true =>
      rw [@Attempt.bind_of_ok _ _ _ _ (Attempt.require true _) _ world world
        () rfl]
      cases generated : generateProtectedBearerToken platform world with
      | none =>
          rw [Attempt.bind_of_error (by rw [Attempt.orError, generated])]
          rfl
      | some result =>
          rw [Attempt.bind_of_ok (by rw [Attempt.orError, generated])]
          rfl

theorem regenerateClientCredential_eq_ok_of_regenerated
    {configuration rotated : McpHostConfiguration}
    {clientId : Bytes}
    {world : World}
    (succeeded :
      regenerated platform configuration clientId world = .ok rotated) :
    ∃ later,
      regenerateClientCredential platform configuration clientId world =
        .ok (rotated, later) := by
  unfold regenerated at succeeded
  split at succeeded
  · next later computed =>
      obtain rfl := Except.ok.inj succeeded
      exact ⟨later, computed⟩
  · cases succeeded

/-- A regeneration stores what was drawn for it, protected. -/
structure StoresDrawn
    (rotated : McpHostConfiguration)
    (clientId : Bytes)
    (world : World)
    (drawn : Bytes) : Prop where
  random : ∃ later, platform.randomBytes 32 world = some (drawn, later)
  stored :
    ∃ credential cipherText sealed later,
      findClientCredential rotated clientId = some credential ∧
        credential.bearerTokenDpapi = hexEncode cipherText ∧
        platform.protect (hexEncode drawn) kTokenPurpose sealed =
          some (cipherText, later)

theorem exists_storesDrawn_of_regenerateClientCredential
    {configuration rotated : McpHostConfiguration}
    {clientId : Bytes}
    {world later : World}
    (succeeded :
      regenerateClientCredential platform configuration clientId world =
        .ok (rotated, later)) :
    ∃ drawn, StoresDrawn platform rotated clientId world drawn := by
  simp only [regenerateClientCredential, Attempt.bind_eq_ok_iff,
    Attempt.require_eq_ok_iff, Attempt.orError_eq_ok_iff,
    Attempt.pure_eq_ok_iff, Prod.mk.injEq] at succeeded
  obtain ⟨-, _, ⟨known, rfl⟩, protectedToken, between, generated, rfl, -⟩ :=
    succeeded
  obtain ⟨drawn, afterDraw, cipherText, random, protects, rfl⟩ :=
    generateProtectedBearerToken_eq_some_iff.mp generated
  obtain ⟨credential, found⟩ := Option.isSome_iff_exists.mp known
  refine ⟨drawn, ⟨afterDraw, random⟩,
    { credential with bearerTokenDpapi := hexEncode cipherText },
    cipherText, afterDraw, between, ?_, rfl, protects⟩
  refine (find?_modifyFirst_self fun _ earlier => ?_).trans ?_
  · have isClient : _ = clientId := key_of_find? earlier
    exact isClient
  · exact congrArg _ found

end Call

section Tokens

variable {World : Type}
variable {platform : Platform World}
variable {profiles : List McpClientProfile}
variable {configuration rotated : McpHostConfiguration}
variable {clientId token : Bytes}

/-- The token that is stored for a client. -/
def TokenOf
    (platform : Platform World)
    (configuration : McpHostConfiguration)
    (clientId token : Bytes) : Prop :=
  ∃ credential,
    findClientCredential configuration clientId = some credential ∧
      DecryptsTo platform credential.bearerTokenDpapi token

/-- No token is stored for two clients. -/
def TokensDiffer
    (platform : Platform World)
    (configuration : McpHostConfiguration) : Prop :=
  ∀ first second token,
    TokenOf platform configuration first token →
    TokenOf platform configuration second token →
    first = second

/-- A client has at most one token. -/
theorem TokenOf.unique
    (consistent : platform.Consistent)
    {first second : Bytes}
    (stored : TokenOf platform configuration clientId first)
    (alsoStored : TokenOf platform configuration clientId second) :
    first = second := by
  obtain ⟨credential, found, decrypts⟩ := stored
  obtain ⟨other, otherFound, otherDecrypts⟩ := alsoStored
  rw [found, Option.some.injEq] at otherFound
  subst otherFound
  exact DecryptsTo.unique consistent decrypts otherDecrypts

/-- A stored token that can be decrypted is the one that was drawn. -/
theorem StoresDrawn.tokenOf
    {world : World}
    {drawn : Bytes}
    (stores : StoresDrawn platform rotated clientId world drawn)
    (faithful : platform.Faithful)
    (stored : TokenOf platform rotated clientId token) :
    token = hexEncode drawn := by
  obtain ⟨credential, cipherText, sealed, later, found, shape, protects⟩ :=
    stores.stored
  obtain ⟨other, otherFound, decryptWorld, secret, after, decrypted, rfl⟩ :=
    stored
  rw [found, Option.some.injEq] at otherFound
  subst otherFound
  obtain ⟨protectedBytes, decoded, plain, -⟩ :=
    unprotectBearerToken_iff.mp decrypted
  rw [shape] at decoded
  have nonempty : cipherText ≠ [] := by
    rintro rfl
    cases decoded
  rw [hexDecode_hexEncode nonempty, Option.some.injEq] at decoded
  subst decoded
  exact faithful.restores protects plain

/-- A client of each profile, with the token that is stored for it. -/
structure Serving
    (platform : Platform World)
    (profiles : List McpClientProfile)
    (configuration : McpHostConfiguration)
    (host : McpHost) : Prop where
  profiles : host.clients.map AuthenticatedClient.profile = profiles
  tokens :
    ∀ client ∈ host.clients,
      TokenOf platform configuration client.profile.id client.bearerToken
  /-- Every credential was checked. -/
  readable :
    ∀ clientId,
      (findClientCredential configuration clientId).isSome = true →
      ∃ token, TokenOf platform configuration clientId token

/-- The request carries a token in its `Authorization` header. -/
def Bears (request : HttpRequest) (token : Bytes) : Prop :=
  PresentsToken (header request (bytes "Authorization")) token

/-- A request bears at most one token. -/
theorem Bears.unique
    {request : HttpRequest}
    {first second : Bytes}
    (bears : Bears request first)
    (alsoBears : Bears request second) :
    first = second := by
  obtain ⟨scheme, shape, schemeLength, -⟩ := bears
  obtain ⟨other, otherShape, otherLength, -⟩ := alsoBears
  exact (List.append_inj (shape.symm.trans otherShape)
    (schemeLength.trans otherLength.symm)).2

/-- The profile for which a request is answered. -/
def resolved (host : McpHost) (request : HttpRequest) :
    Option McpClientProfile :=
  (host.service.authenticate request).map AuthenticatedClient.profile

/-- A stored token belongs to the first enabled profile of its client. -/
theorem Serving.resolved_of_bears
    {host : McpHost}
    (serving : Serving platform profiles configuration host)
    (consistent : platform.Consistent)
    (differ : TokensDiffer platform configuration)
    (stored : TokenOf platform configuration clientId token)
    {request : HttpRequest}
    (bears : Bears request token) :
    resolved host request =
      profiles.find? fun profile =>
        profile.enabled && profile.id = clientId := by
  have checks :
      ∀ client ∈ host.clients,
        (client.profile.enabled &&
            matchesBearerToken (header request (bytes "Authorization"))
              client.bearerToken) =
          (client.profile.enabled && client.profile.id = clientId) := by
    intro client member
    have held := serving.tokens client member
    congr 1
    rw [Bool.eq_iff_iff, matchesBearerToken_iff, decide_eq_true_eq]
    constructor
    · intro presents
      obtain rfl := bears.unique presents
      exact differ _ _ _ held stored
    · rintro rfl
      obtain rfl := held.unique consistent stored
      exact bears
  rw [← serving.profiles, List.find?_map]
  exact congrArg _ (List.find?_congr checks)

/-- A token that is not stored belongs to nobody. -/
theorem Serving.resolved_of_unknown
    {host : McpHost}
    (serving : Serving platform profiles configuration host)
    {request : HttpRequest}
    (unknown :
      ∀ clientId token,
        TokenOf platform configuration clientId token →
        ¬ Bears request token) :
    resolved host request = none := by
  have nobody : host.service.authenticate request = none := by
    apply List.find?_eq_none.mpr
    intro client member accepted
    rw [Bool.and_eq_true, matchesBearerToken_iff] at accepted
    exact unknown _ _ (serving.tokens client member) accepted.2
  simp [resolved, nobody]

end Tokens

section Rotation

variable {World : Type}
variable {platform : Platform World}
variable {profiles : List McpClientProfile}
variable {configuration rotated : McpHostConfiguration}
variable {clientId : Bytes}

/-- The profiles that have a credential keep it. -/
theorem Rotates.complete
    (rotates : Rotates configuration rotated clientId)
    (complete :
      ∀ profile ∈ profiles,
        profile.id ∈ configuration.clientCredentials.map
          McpClientCredential.clientId) :
    ∀ profile ∈ profiles,
      profile.id ∈ rotated.clientCredentials.map
        McpClientCredential.clientId := by
  rw [rotates.ids]
  exact complete

/-- The tokens of the other clients stay. -/
theorem Rotates.tokenOf_iff
    (rotates : Rotates configuration rotated clientId)
    {other token : Bytes}
    (otherNe : other ≠ clientId) :
    TokenOf platform rotated other token ↔
      TokenOf platform configuration other token := by
  unfold TokenOf
  rw [rotates.others other otherNe]

/-- The token is stored for no client. -/
def Fresh
    (platform : Platform World)
    (configuration : McpHostConfiguration)
    (token : Bytes) : Prop :=
  ∀ other, ¬ TokenOf platform configuration other token

/-- A fresh token differs from every other one. -/
theorem Rotates.tokensDiffer
    (rotates : Rotates configuration rotated clientId)
    (differ : TokensDiffer platform configuration)
    {fresh : Bytes}
    (isFresh : Fresh platform configuration fresh)
    (only :
      ∀ token, TokenOf platform rotated clientId token → token = fresh) :
    TokensDiffer platform rotated := by
  have notBefore
      {token other : Bytes}
      (stored : TokenOf platform rotated clientId token)
      (before : TokenOf platform configuration other token) : False := by
    obtain rfl := only token stored
    exact isFresh other before
  intro first second token firstStored secondStored
  by_cases isFirst : first = clientId
  · by_cases isSecond : second = clientId
    · rw [isFirst, isSecond]
    · subst isFirst
      exact (notBefore firstStored
        ((rotates.tokenOf_iff isSecond).mp secondStored)).elim
  · have firstEarlier := (rotates.tokenOf_iff isFirst).mp firstStored
    by_cases isSecond : second = clientId
    · subst isSecond
      exact (notBefore secondStored firstEarlier).elim
    · exact differ first second token firstEarlier
        ((rotates.tokenOf_iff isSecond).mp secondStored)

/-- Only one client is affected by a new token. -/
structure Isolated
    (platform : Platform World)
    (profiles : List McpClientProfile)
    (configuration rotated : McpHostConfiguration)
    (clientId fresh : Bytes)
    (before after : McpHost) : Prop where
  /-- The fresh token is the one that is stored for the client. -/
  stored :
    ∀ token, TokenOf platform rotated clientId token ↔ token = fresh
  /-- The old token belongs to nobody. -/
  revoked :
    ∀ token request,
      TokenOf platform configuration clientId token →
      Bears request token →
      after.service.authenticate request = none
  /-- It belongs to the client if the client is enabled. -/
  replaced :
    ∀ request,
      Bears request fresh →
      resolved after request =
        profiles.find? fun profile =>
          profile.enabled && profile.id = clientId
  /-- A request with the token of another client is answered as before. -/
  kept :
    ∀ other token request,
      other ≠ clientId →
      TokenOf platform configuration other token →
      Bears request token →
      resolved after request = resolved before request
  /-- So is every request that bears neither the old nor the new token. -/
  unaffected :
    ∀ request,
      (∀ token,
        TokenOf platform configuration clientId token ∨ token = fresh →
        ¬ Bears request token) →
      resolved after request = resolved before request

theorem Rotates.isolated
    {before after : McpHost}
    (rotates : Rotates configuration rotated clientId)
    (consistent : platform.Consistent)
    (differ : TokensDiffer platform configuration)
    {fresh : Bytes}
    (isFresh : Fresh platform configuration fresh)
    (stored :
      ∀ token, TokenOf platform rotated clientId token ↔ token = fresh)
    (servedBefore : Serving platform profiles configuration before)
    (servedAfter : Serving platform profiles rotated after) :
    Isolated platform profiles configuration rotated clientId fresh before
      after := by
  have differAfter :=
    rotates.tokensDiffer differ isFresh fun token => (stored token).mp
  have kept :
      ∀ other token request,
        other ≠ clientId →
        TokenOf platform configuration other token →
        Bears request token →
        resolved after request = resolved before request := by
    intro other token request otherNe stored bears
    rw [servedBefore.resolved_of_bears consistent differ stored bears,
      servedAfter.resolved_of_bears consistent differAfter
        ((rotates.tokenOf_iff otherNe).mpr stored) bears]
  refine ⟨stored, ?_, ?_, kept, ?_⟩
  · intro token request storedBefore bears
    rw [← Option.map_eq_none_iff]
    apply servedAfter.resolved_of_unknown
    intro other otherToken otherStored otherBears
    obtain rfl := bears.unique otherBears
    by_cases isClient : other = clientId
    · subst isClient
      obtain rfl := (stored token).mp otherStored
      exact isFresh other storedBefore
    · exact isClient (differ other clientId token
        ((rotates.tokenOf_iff isClient).mp otherStored) storedBefore)
  · intro request bears
    exact servedAfter.resolved_of_bears consistent differAfter
      ((stored fresh).mpr rfl) bears
  · intro request bearsNeither
    by_cases known :
        ∃ other token,
          TokenOf platform configuration other token ∧ Bears request token
    · obtain ⟨other, token, storedBefore, bears⟩ := known
      refine kept other token request ?_ storedBefore bears
      rintro rfl
      exact bearsNeither token (.inl storedBefore) bears
    · simp only [not_exists, not_and] at known
      rw [servedBefore.resolved_of_unknown known,
        servedAfter.resolved_of_unknown]
      intro other token otherStored bears
      by_cases isClient : other = clientId
      · subst isClient
        exact bearsNeither token (.inr ((stored token).mp otherStored))
          bears
      · exact known other token
          ((rotates.tokenOf_iff isClient).mp otherStored) bears

end Rotation

section Restart

variable {World : Type}
variable (library : DocumentLibrary)
variable (platform : Platform World)

/-- A host that is started, and started again after a save. -/
structure RestartSetting (World : Type) where
  path : FilesystemPath
  profiles : List McpClientProfile
  host : McpHost
  files : FileSystem
  start : StartSupply World
  saveOutcome : ReplacementOutcome
  restart : StartSupply World

namespace RestartSetting

/-- The first start. -/
def started (setting : RestartSetting World) :
    StartResult × FileSystem × McpHost :=
  McpHost.start library platform setting.start.saveOutcome
    setting.start.startHost setting.path setting.profiles setting.host
    setting.files setting.start.world

/-- The save of a configuration while the host is running. -/
def saved
    (setting : RestartSetting World)
    (configuration : McpHostConfiguration) : StartResult × FileSystem :=
  save library setting.saveOutcome setting.path configuration
    (setting.started library platform).2.1

/-- The start after the save. -/
def restarted
    (setting : RestartSetting World)
    (configuration : McpHostConfiguration) :
    StartResult × FileSystem × McpHost :=
  McpHost.start library platform setting.restart.saveOutcome
    setting.restart.startHost setting.path setting.profiles
    (setting.started library platform).2.2
    (setting.saved library platform configuration).2
    setting.restart.world

/-- The host runs with a configuration that has a token for each profile. -/
structure Serves
    (setting : RestartSetting World)
    (configuration : McpHostConfiguration) : Prop where
  loads : load library (setting.files setting.path) = .ok configuration
  complete :
    ∀ profile ∈ setting.profiles,
      profile.id ∈ configuration.clientCredentials.map
        McpClientCredential.clientId
  runs : (setting.started library platform).2.2.running = true

/-- The host runs again after the configuration was saved as a whole. -/
structure RunsAgain
    (setting : RestartSetting World)
    (configuration : McpHostConfiguration) : Prop where
  saves : (setting.saved library platform configuration).1 = .ok (.ok ())
  whole :
    ¬ TruncatedAtClose setting.saveOutcome (text library configuration)
  runs :
    (setting.restarted library platform configuration).2.2.running = true

end RestartSetting

variable {library platform}

/-- A running host serves the complete configuration that it loaded. -/
theorem serving_of_running
    {supply : StartSupply World}
    {path : FilesystemPath}
    {profiles : List McpClientProfile}
    {host : McpHost}
    {files : FileSystem}
    {configuration : McpHostConfiguration}
    (loads : load library (files path) = .ok configuration)
    (noLegacy : configuration.legacyBearerTokenDpapi = [])
    (complete :
      ∀ profile ∈ profiles,
        profile.id ∈ configuration.clientCredentials.map
          McpClientCredential.clientId)
    (runs :
      (McpHost.start library platform supply.saveOutcome supply.startHost
        path profiles host files supply.world).2.2.running = true) :
    Serving platform profiles configuration
      (McpHost.start library platform supply.saveOutcome supply.startHost
        path profiles host files supply.world).2.2 := by
  obtain ⟨loaded, ensured, between, clients, later, loading, ensuring, -,
    collecting, sameClients, -⟩ := McpHost.stages_of_running runs
  obtain rfl := Except.ok.inj (loads.symm.trans loading)
  simp only [ensureClientCredentials, Attempt.bind_eq_ok_iff] at ensuring
  obtain ⟨migrated, _, migrating, _, checkedWorld, checking, creating⟩ :=
    ensuring
  have sameConfiguration : migrated = configuration := by
    cases migrates_of_migrateLegacyToken migrating with
    | unchanged =>
        rfl
    | bound _ _ legacy =>
        exact absurd noLegacy legacy
  subst sameConfiguration
  rw [createCredentials_of_present complete checkedWorld, Except.ok.injEq,
    Prod.mk.injEq] at creating
  obtain ⟨rfl, -⟩ := creating
  obtain ⟨sameProfiles, hold⟩ :=
    holdsToken_of_collectClients platform collecting
  constructor
  · rw [sameClients]
    exact sameProfiles
  · rw [sameClients]
    exact hold
  · intro clientId known
    obtain ⟨credential, found⟩ := Option.isSome_iff_exists.mp known
    have checked :=
      checked_of_checkCredentials checking credential
        (List.mem_of_find?_eq_some found)
    obtain ⟨decryptWorld, ⟨secret, after⟩, decrypted⟩ := checked.decrypts
    exact ⟨secret.content, credential, found, decryptWorld, secret, after,
      decrypted, rfl⟩

/-- A configuration with a credential has no legacy token. -/
theorem current_of_load
    {content : Option Bytes}
    {configuration : McpHostConfiguration}
    {clientId : Bytes}
    (loads : load library content = .ok configuration)
    (known :
      (findClientCredential configuration clientId).isSome = true) :
    Current configuration := by
  refine ⟨storable_of_load loads, ?_⟩
  refine (wellFormed_of_load loads).legacyAlone.resolve_right ?_
  intro noCredentials
  simp [findClientCredential, noCredentials] at known

/-- What was saved as a whole is what the next start loads. -/
theorem RestartSetting.RunsAgain.loads
    {setting : RestartSetting World}
    {configuration : McpHostConfiguration}
    (runsAgain : setting.RunsAgain library platform configuration)
    (readsBack : ReadsBack library (document configuration))
    (current : Current configuration) :
    load library
        ((setting.saved library platform configuration).2 setting.path) =
      .ok configuration := by
  rcases @save_cases library setting.saveOutcome setting.path configuration
      (setting.started library platform).2.1 runsAgain.whole with
    ⟨-, content, written, held⟩ | ⟨failed, -⟩
  · unfold RestartSetting.saved
    rw [held, load_text current.storable readsBack written]
    unfold withoutLegacy
    rw [← current.noLegacy]
  · exact absurd runsAgain.saves failed

end Restart

/-- What the regeneration of a client's token comes to. -/
structure RotatesOneClient
    {World : Type}
    (library : DocumentLibrary)
    (platform : Platform World)
    (configuration : McpHostConfiguration)
    (clientId : Bytes)
    (world : World)
    (called : Except JsonException Bool × Outputs McpHostConfiguration) :
    Prop where
  /-- A call that fails has not touched the configuration. -/
  unchanged :
    called.1 ≠ .ok true →
    called.2.output = configuration
  /--
  One that succeeds has drawn a token.  If no client had this token, a restart
  affects this client only, which has it from then on.
  -/
  isolated :
    called.1 = .ok true →
    ∃ drawn later,
      platform.randomBytes 32 world = some (drawn, later) ∧
        ∀ setting : RestartSetting World,
          setting.Serves library platform configuration →
          setting.RunsAgain library platform called.2.output →
          TokensDiffer platform configuration →
          Fresh platform configuration (hexEncode drawn) →
          Isolated platform setting.profiles configuration
            called.2.output clientId (hexEncode drawn)
            (setting.started library platform).2.2
            (setting.restarted library platform called.2.output).2.2

/-- Replacing a client's token rotates that client's token only. -/
theorem rotatesOneClient_regenerateInto
    {World : Type}
    (library : DocumentLibrary)
    (platform : Platform World)
    (faithful : platform.Faithful)
    (readsBack :
      ∀ configuration, ReadsBack library (document configuration))
    (configuration : McpHostConfiguration)
    (clientId error : Bytes)
    (world : World) :
    RotatesOneClient library platform configuration clientId world
      (Statement.call (regenerateInto platform clientId world)
        { output := configuration, error := error }) where
  unchanged failed :=
    (delivers_regenerateFrom platform configuration clientId
      world).output_unchanged failed
  isolated := by
    intro succeeded
    have computed :=
      (delivers_regenerateFrom platform configuration clientId
        world).parser_eq succeeded
    obtain ⟨later, regenerates⟩ :=
      regenerateClientCredential_eq_ok_of_regenerated platform computed
    obtain ⟨drawn, stores⟩ :=
      exists_storesDrawn_of_regenerateClientCredential platform regenerates
    obtain ⟨afterDraw, random⟩ := stores.random
    refine ⟨drawn, afterDraw, random, ?_⟩
    intro setting serves runsAgain differ isFresh
    have rotates := rotates_of_regenerateClientCredential regenerates
    have current := current_of_load serves.loads rotates.known
    have currentAfter := current.regenerate regenerates
    have servedAfter :=
      serving_of_running
        (runsAgain.loads (readsBack _) currentAfter)
        currentAfter.noLegacy (rotates.complete serves.complete)
        runsAgain.runs
    refine rotates.isolated faithful.toConsistent differ isFresh ?_
      (serving_of_running serves.loads current.noLegacy serves.complete
        serves.runs)
      servedAfter
    -- The restart has decrypted the credential, so a token is stored.
    intro token
    constructor
    · exact stores.tokenOf faithful
    · rintro rfl
      obtain ⟨credential, -, -, -, found, -⟩ := stores.stored
      obtain ⟨token, stored⟩ :=
        servedAfter.readable clientId
          (Option.isSome_iff_exists.mpr ⟨credential, found⟩)
      obtain rfl := stores.tokenOf faithful stored
      exact stored

section TwoClients

/-- A configuration with the protected tokens of two clients. -/
def pairConfiguration (first second : Bytes) : McpHostConfiguration where
  enabled := true
  clientCredentials := [
    ⟨bytes "a", hexEncode first⟩,
    ⟨bytes "b", hexEncode second⟩
  ]

/-- The text of its document. -/
def pairText (first second : Bytes) : Bytes :=
  bytes ("\x7b\n" ++
      "  \"allowed_origins\": [],\n" ++
      "  \"bind_address\": \"127.0.0.1\",\n" ++
      "  \"client_credentials\": [\n" ++
      "    \x7b\n" ++
      "      \"bearer_token_dpapi\": \"") ++
    hexEncode first ++
    bytes ("\",\n" ++
      "      \"client_id\": \"a\"\n" ++
      "    \x7d,\n" ++
      "    \x7b\n" ++
      "      \"bearer_token_dpapi\": \"") ++
    hexEncode second ++
    bytes ("\",\n" ++
      "      \"client_id\": \"b\"\n" ++
      "    \x7d\n" ++
      "  ],\n" ++
      "  \"enabled\": true,\n" ++
      "  \"max_request_body_bytes\": 1048576,\n" ++
      "  \"maximum_connections\": 16,\n" ++
      "  \"port\": 8765,\n" ++
      "  \"schema_version\": 2\n" ++
      "\x7d")

/-- Two tokens, and the one that replaces the second. -/
def firstToken : Bytes := List.replicate 64 97

def secondToken : Bytes := List.replicate 64 98

def thirdToken : Bytes := hexEncode (List.replicate 32 7)

/-- The documents before and after the replacement. -/
def pairDocuments : List (McpHostConfiguration × Bytes) := [
  (pairConfiguration firstToken secondToken,
    pairText firstToken secondToken),
  (pairConfiguration firstToken thirdToken, pairText firstToken thirdToken)
]

/-- A host with two clients. -/
def pairSetting : RestartSetting Draws where
  path := bytes "mcp-host.json"
  profiles := McpHost.twoProfiles
  host := {}
  files := fun _ => some (pairText firstToken secondToken ++ bytes "\n")
  start := agentSupply []
  saveOutcome := (agentSupply []).saveOutcome
  restart := agentSupply []

/-- What the platform of the example stores decrypts to itself. -/
theorem eq_of_decryptsTo_hexEncode
    {stored token : Bytes}
    (decrypts :
      DecryptsTo McpHost.plainSecrets.platform (hexEncode stored) token) :
    token = stored := by
  obtain ⟨world, secret, later, decrypted, rfl⟩ := decrypts
  obtain ⟨protectedBytes, decoded, plain, -⟩ :=
    unprotectBearerToken_iff.mp decrypted
  have nonempty : stored ≠ [] := by
    rintro rfl
    cases decoded
  rw [hexDecode_hexEncode nonempty, Option.some.injEq] at decoded
  subst decoded
  simp only [SecretPair.platform, McpHost.plainSecrets, Option.map_some,
    Option.some.injEq, Prod.mk.injEq] at plain
  exact plain.1.symm

/-- The tokens of the two clients. -/
theorem tokenOf_pairConfiguration
    {first second clientId token : Bytes}
    (stored :
      TokenOf McpHost.plainSecrets.platform
        (pairConfiguration first second) clientId token) :
    clientId = bytes "a" ∧ token = first ∨
      clientId = bytes "b" ∧ token = second := by
  obtain ⟨credential, found, decrypts⟩ := stored
  have isClient : credential.clientId = clientId := key_of_find? found
  have member := List.mem_of_find?_eq_some found
  simp only [pairConfiguration, List.mem_cons, List.not_mem_nil, or_false]
    at member
  rcases member with rfl | rfl
  · exact .inl ⟨isClient.symm, eq_of_decryptsTo_hexEncode decrypts⟩
  · exact .inr ⟨isClient.symm, eq_of_decryptsTo_hexEncode decrypts⟩

theorem tokensDiffer_pairConfiguration :
    TokensDiffer McpHost.plainSecrets.platform
      (pairConfiguration firstToken secondToken) := by
  have differ : firstToken ≠ secondToken := by
    decide
  intro first second token firstStored secondStored
  rcases tokenOf_pairConfiguration firstStored with
    ⟨rfl, rfl⟩ | ⟨rfl, rfl⟩
  · rcases tokenOf_pairConfiguration secondStored with
      ⟨rfl, -⟩ | ⟨-, same⟩
    · rfl
    · exact absurd same differ
  · rcases tokenOf_pairConfiguration secondStored with
      ⟨-, same⟩ | ⟨rfl, -⟩
    · exact absurd same.symm differ
    · rfl

theorem fresh_pairConfiguration :
    Fresh McpHost.plainSecrets.platform
      (pairConfiguration firstToken secondToken) thirdToken := by
  intro other earlier
  rcases tokenOf_pairConfiguration earlier with ⟨-, same⟩ | ⟨-, same⟩
  · exact absurd same (by decide)
  · exact absurd same (by decide)

theorem faithful_plainSecrets :
    McpHost.plainSecrets.platform.Faithful where
  toConsistent := consistent_platform McpHost.plainSecrets
  restores := by
    intro plainText purpose cipherText restored world later other after
      protects plain
    simp only [SecretPair.platform, McpHost.plainSecrets, Option.map_some,
      Option.some.injEq, Prod.mk.injEq] at protects plain
    exact plain.1.symm.trans protects.1.symm

theorem call_regenerateInto_pair :
    Statement.call
        (regenerateInto McpHost.plainSecrets.platform (bytes "b")
          [some (List.replicate 32 7)])
        { output := pairConfiguration firstToken secondToken
          error := [] } =
      (.ok true, {
        output := pairConfiguration firstToken thirdToken
        error := [] }) := by
  have computed :
      regenerateClientCredential McpHost.plainSecrets.platform
          (pairConfiguration firstToken secondToken) (bytes "b")
          [some (List.replicate 32 7)] =
        .ok (pairConfiguration firstToken thirdToken, []) := by
    decide +kernel
  have answered :=
    (delivers_regenerateFrom McpHost.plainSecrets.platform
      (pairConfiguration firstToken secondToken) (bytes "b")
      [some (List.replicate 32 7)]).call_eq
        { output := pairConfiguration firstToken secondToken
          error := [] }
  unfold regenerated at answered
  rw [computed] at answered
  exact answered

theorem serves_pairSetting :
    pairSetting.Serves (writtenLibrary [] pairDocuments)
      McpHost.plainSecrets.platform
      (pairConfiguration firstToken secondToken) where
  loads := by
    decide +kernel
  complete := by
    decide +kernel
  runs := by
    decide +kernel

theorem runsAgain_pairSetting :
    pairSetting.RunsAgain (writtenLibrary [] pairDocuments)
      McpHost.plainSecrets.platform
      (pairConfiguration firstToken thirdToken) where
  saves := by
    decide +kernel
  whole := by
    have fits :
        ∀ entry ∈ pairDocuments,
          (entry.2 ++ bytes "\n").length ≤ 1024 + 0 := by
      decide +kernel
    exact not_truncatedAtClose_writtenLibrary fits _
  runs := by
    decide +kernel

/-- The second of two clients gets another token. -/
theorem rotatesOneClient_regenerateInto_pair :
    Isolated McpHost.plainSecrets.platform McpHost.twoProfiles
      (pairConfiguration firstToken secondToken)
      (pairConfiguration firstToken thirdToken) (bytes "b") thirdToken
      (pairSetting.started (writtenLibrary [] pairDocuments)
        McpHost.plainSecrets.platform).2.2
      (pairSetting.restarted (writtenLibrary [] pairDocuments)
        McpHost.plainSecrets.platform
        (pairConfiguration firstToken thirdToken)).2.2 := by
  have distinct :
      (pairDocuments.map fun entry => entry.2 ++ bytes "\n").Nodup := by
    decide +kernel
  have rotates :=
    rotatesOneClient_regenerateInto (writtenLibrary [] pairDocuments)
      McpHost.plainSecrets.platform faithful_plainSecrets
      (readsBack_writtenLibrary distinct)
      (pairConfiguration firstToken secondToken) (bytes "b") []
      [some (List.replicate 32 7)]
  rw [call_regenerateInto_pair] at rotates
  obtain ⟨drawn, later, random, isolated⟩ := rotates.isolated rfl
  have isDrawn : List.replicate 32 7 = drawn :=
    congrArg Prod.fst (Option.some.inj random)
  subst isDrawn
  dsimp only at isolated
  exact isolated pairSetting serves_pairSetting runsAgain_pairSetting
    tokensDiffer_pairConfiguration fresh_pairConfiguration

end TwoClients

end McpHostConfigurationRepository

end TgGate
