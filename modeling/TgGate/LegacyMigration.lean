import TgGate.McpHostDocuments

namespace TgGate

open Library

/-!
# Migration of the legacy schema

A legacy document stores one token for all clients.  It is bound to the only
profile when the host starts, and the file is then rewritten in the current
schema.  With any other number of profiles, or a token that cannot be
decrypted, the file stays as it is.
-/

namespace McpHostConfigurationRepository

/-- The legacy token as the only credential, which belongs to a profile. -/
def bindLegacyToken
    (configuration : McpHostConfiguration)
    (profile : McpClientProfile) : McpHostConfiguration :=
  { configuration with
    clientCredentials := [{
      clientId := profile.id
      bearerTokenDpapi := configuration.legacyBearerTokenDpapi
    }]
    legacyBearerTokenDpapi := [] }

section Migration

variable {World : Type}
variable {library : DocumentLibrary}
variable {platform : Platform World}
variable {configuration : McpHostConfiguration}
variable {world : World}

/-- The stored token decrypts to a bearer token, whenever it is asked for. -/
def Decrypts (platform : Platform World) (protectedToken : Bytes) : Prop :=
  ∀ world,
    ∃ token later,
      unprotectBearerToken platform protectedToken world =
        some (token, later)

/-- The legacy token is bound to the only profile. -/
theorem migrateLegacyToken_single
    {profile : McpClientProfile}
    (wellFormed : WellFormed configuration)
    (legacy : configuration.legacyBearerTokenDpapi ≠ [])
    (decrypts : Decrypts platform configuration.legacyBearerTokenDpapi) :
    ∃ later,
      migrateLegacyToken platform [profile] configuration world =
        .ok (bindLegacyToken configuration profile, later) := by
  obtain ⟨token, later, decrypted⟩ := decrypts world
  have alone : configuration.clientCredentials = [] :=
    wellFormed.legacyAlone.resolve_left legacy
  refine ⟨later, ?_⟩
  rw [migrateLegacyToken, if_neg (by simpa using legacy),
    Attempt.bind_eq_ok_iff]
  refine ⟨token, later, Attempt.orError_eq_ok_iff.mpr decrypted, ?_⟩
  rw [Attempt.pure_eq_ok_iff, alone]
  rfl

/-- The bound credential belongs to the profile and decrypts. -/
theorem checkCredentials_bindLegacyToken
    {profile : McpClientProfile}
    (legacy : configuration.legacyBearerTokenDpapi ≠ [])
    (decrypts : Decrypts platform configuration.legacyBearerTokenDpapi) :
    ∃ later,
      checkCredentials platform [profile]
          (bindLegacyToken configuration profile).clientCredentials
          world =
        .ok ((), later) := by
  apply exists_checkCredentials_eq_ok
  · simp [bindLegacyToken]
  · intro credential member other
    obtain rfl := List.mem_singleton.mp member
    obtain ⟨token, later, decrypted⟩ := decrypts other
    exact ⟨legacy, (token, later), decrypted⟩

/-- The profile has its credential, so none is created. -/
theorem createCredentials_bindLegacyToken
    {profile : McpClientProfile} :
    createCredentials platform (bindLegacyToken configuration profile)
        [profile] world =
      .ok (bindLegacyToken configuration profile, world) := by
  apply createCredentials_of_present
  simp [bindLegacyToken]

/-- Completing the credentials binds the legacy token and does no more. -/
theorem ensureClientCredentials_single
    {profile : McpClientProfile}
    (wellFormed : WellFormed configuration)
    (legacy : configuration.legacyBearerTokenDpapi ≠ [])
    (decrypts : Decrypts platform configuration.legacyBearerTokenDpapi) :
    ∃ later,
      ensureClientCredentials platform configuration [profile] world =
        .ok (bindLegacyToken configuration profile, later) := by
  obtain ⟨between, migrated⟩ :=
    @migrateLegacyToken_single _ _ _ world profile wellFormed legacy
      decrypts
  obtain ⟨later, checked⟩ :=
    @checkCredentials_bindLegacyToken _ _ _ between profile legacy decrypts
  refine ⟨later, ?_⟩
  simp only [ensureClientCredentials, Attempt.bind_eq_ok_iff]
  exact ⟨_, between, migrated, (), later, checked,
    createCredentials_bindLegacyToken⟩

/-- A legacy token that cannot be bound is an error. -/
theorem ensureClientCredentials_refuses
    {profiles : List McpClientProfile}
    (legacy : configuration.legacyBearerTokenDpapi ≠ [])
    (unbindable :
      profiles.length ≠ 1 ∨
        unprotectBearerToken platform
          configuration.legacyBearerTokenDpapi world = none) :
    ∃ error,
      ensureClientCredentials platform configuration profiles world =
        .error error := by
  have notMigrated :
      ∀ result,
        migrateLegacyToken platform profiles configuration world ≠
          .ok result := by
    intro result migrated
    unfold migrateLegacyToken at migrated
    rw [if_neg (by simpa using legacy)] at migrated
    rcases profiles with _ | ⟨profile, _ | ⟨second, others⟩⟩
    · simp at migrated
    · simp only [Attempt.bind_eq_ok_iff, Attempt.orError_eq_ok_iff]
        at migrated
      obtain ⟨token, later, decrypted, -⟩ := migrated
      rcases unbindable with several | undecryptable
      · exact several rfl
      · rw [undecryptable] at decrypted
        cases decrypted
    · simp at migrated
  cases ensuring :
      ensureClientCredentials platform configuration profiles world with
  | error error =>
      exact ⟨error, rfl⟩
  | ok ensured =>
      simp only [ensureClientCredentials, Attempt.bind_eq_ok_iff]
        at ensuring
      obtain ⟨migrated, between, migrates, -⟩ := ensuring
      exact absurd migrates (notMigrated _)

end Migration

end McpHostConfigurationRepository

open McpHostConfigurationRepository McpHost

section Meaning

variable {World : Type}
variable (library : DocumentLibrary)
variable (platform : Platform World)
variable (parsed : McpHostConfiguration)

/-- The legacy token stays the token of the only profile. -/
structure BindsLegacyToken (profile : McpClientProfile) : Prop where
  ensures :
    ∀ world,
      ∃ later,
        ensureClientCredentials platform parsed [profile] world =
          .ok (bindLegacyToken parsed profile, later)
  /-- The document that is written then is parsed back. -/
  parses :
    parse library (document (bindLegacyToken parsed profile)).reread =
      .ok (bindLegacyToken parsed profile)
  /-- A start writes it, whatever happens to the host afterwards. -/
  saves :
    ∀ (saveOutcome : ReplacementOutcome)
      (startHost : HttpHostOptions → Option Bytes)
      (path : FilesystemPath)
      (host : McpHost)
      (files : FileSystem)
      (world : World),
      load library (files path) = .ok parsed →
      parsed.enabled = true →
      ¬ TruncatedAtClose saveOutcome
        (text library (bindLegacyToken parsed profile)) →
      (save library saveOutcome path (bindLegacyToken parsed profile)
        files).1 = .ok (.ok ()) →
      load library
          ((start library platform saveOutcome startHost path [profile]
            host files world).2.1 path) =
        .ok (bindLegacyToken parsed profile)

/-- Without a single profile and a valid token nothing is changed. -/
structure KeepsLegacyDocument
    (profiles : List McpClientProfile)
    (world : World) : Prop where
  refuses :
    ∃ error,
      ensureClientCredentials platform parsed profiles world =
        .error error
  unchanged :
    ∀ (saveOutcome : ReplacementOutcome)
      (startHost : HttpHostOptions → Option Bytes)
      (path : FilesystemPath)
      (host : McpHost)
      (files : FileSystem),
      load library (files path) = .ok parsed →
      (start library platform saveOutcome startHost path profiles host
        files world).2.1 = files

end Meaning

/--
Migrating an accepted legacy document keeps its settings and its token, or does
not touch the file.
-/
theorem migration_preserves
    {World : Type}
    (library : DocumentLibrary)
    (platform : Platform World)
    (readsBack :
      ∀ configuration, ReadsBack library (document configuration))
    {source : Json}
    {parsed : McpHostConfiguration}
    (accepted : parse library source = .ok parsed)
    (legacy : parsed.legacyBearerTokenDpapi ≠ [])
    (profiles : List McpClientProfile)
    (named : ∀ profile ∈ profiles, profile.id ≠ []) :
    (∀ profile,
        profiles = [profile] →
        Decrypts platform parsed.legacyBearerTokenDpapi →
        BindsLegacyToken library platform parsed profile) ∧
      ∀ world,
        profiles.length ≠ 1 ∨
          unprotectBearerToken platform parsed.legacyBearerTokenDpapi
            world = none →
        KeepsLegacyDocument library platform parsed profiles world := by
  have wellFormed := wellFormed_of_parse accepted
  have alone : parsed.clientCredentials = [] :=
    wellFormed.legacyAlone.resolve_left legacy
  constructor
  · rintro profile rfl decrypts
    have storable : Storable (bindLegacyToken parsed profile) := {
      acceptable := (storable_of_parse accepted).acceptable
      distinct := by simp [bindLegacyToken]
      named := by simpa [bindLegacyToken] using named }
    refine ⟨fun world =>
      ensureClientCredentials_single wellFormed legacy decrypts,
      (parse_reread_document_iff library _).mpr ⟨storable, rfl⟩, ?_⟩
    intro saveOutcome startHost path host files world loading enabled
      whole succeeded
    obtain ⟨later, ensuring⟩ :=
      @ensureClientCredentials_single _ _ _ world profile wellFormed legacy
        decrypts
    rw [start_of_load library platform saveOutcome startHost path
        [profile] host files loading enabled (by simp),
      files_startEnabled ensuring]
    have grown :
        (bindLegacyToken parsed profile).clientCredentials.length ≠
          parsed.clientCredentials.length := by
      simp [bindLegacyToken, alone]
    rw [saveAdded, if_pos grown]
    rcases @save_cases _ _ path _ files whole with
      ⟨-, content, written, held⟩ | ⟨failed, -⟩
    · rw [held]
      exact load_text storable (readsBack _) written
    · exact absurd succeeded failed
  · intro world unbindable
    obtain ⟨error, refused⟩ :=
      ensureClientCredentials_refuses legacy unbindable
    refine ⟨⟨error, refused⟩, ?_⟩
    intro saveOutcome startHost path host files loading
    by_cases starts : parsed.enabled = true ∧ profiles ≠ []
    · rw [start_of_load library platform saveOutcome startHost path
        profiles host files loading starts.1 starts.2, startEnabled,
        refused]
      rfl
    · exact files_start_of_idle library platform saveOutcome startHost path
        profiles host files loading starts

section LegacyDocument

/-- A legacy document with a token. -/
def legacySource (token : Bytes) : Json :=
  .ofMembers [
    (bytes "schema_version", .numberUnsigned 1),
    (bytes "enabled", .boolean true),
    (bytes "bearer_token_dpapi", .string token)
  ]

/-- A library that knows both documents. -/
def legacyLibrary : DocumentLibrary :=
  writtenLibrary
    [(compactText (legacySource (agentToken 97)),
      legacySource (agentToken 97))]
    [(agentConfiguration (agentToken 97), agentText (agentToken 97))]

/-- What is parsed of the legacy document. -/
def legacyConfiguration : McpHostConfiguration where
  enabled := true
  legacyBearerTokenDpapi := agentToken 97

/-- The legacy token of this document is bound to the profile. -/
theorem migration_preserves_agent :
    BindsLegacyToken legacyLibrary plainSecrets.platform
      legacyConfiguration agentProfile := by
  have accepted :
      parse legacyLibrary (legacySource (agentToken 97)) =
        .ok legacyConfiguration := by
    decide +kernel
  have plain :
      plainToken plainSecrets (agentToken 97) =
        some (List.replicate 64 97) := by
    decide +kernel
  refine (migration_preserves legacyLibrary plainSecrets.platform
    (readsBack_writtenLibrary (by simp)) accepted (by decide)
    [agentProfile] (by decide)).1 agentProfile rfl ?_
  intro draws
  exact ⟨⟨List.replicate 64 97, by decide⟩, draws,
    (unprotectBearerToken_eq_some_iff plainSecrets).mpr ⟨plain, rfl⟩⟩

end LegacyDocument

end TgGate
