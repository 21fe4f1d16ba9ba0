import TgGate.BearerTokens
import TgGate.CredentialStages
import TgGate.SecretPurposes

namespace TgGate

open Library

/-!
# Completed credentials

A successful `ensure_client_credentials` leaves one credential for each profile.
What was there before stays where it is, what is new was made of the random
bytes that were drawn for it, and every token can be decrypted from then on.  A
complete configuration is left alone by another call.
-/

/-- DPAPI and the random number generator, as far as tokens depend on them. -/
structure Platform.KeepsTokens
    {World : Type}
    (platform : Platform World) : Prop extends platform.Restores where
  stable :
    ∀ {cipherText purpose plainText : Bytes} {world later : World},
      platform.unprotect cipherText purpose world =
        some (plainText, later) →
      ∀ other,
        ∃ after,
          platform.unprotect cipherText purpose other =
            some (plainText, after)
  sized :
    ∀ {count : Nat} {random : Bytes} {world later : World},
      platform.randomBytes count world = some (random, later) →
      random.length = count

namespace McpHostConfigurationRepository

section Completion

variable {World : Type}
variable {platform : Platform World}
variable {profiles : List McpClientProfile}
variable {configuration migrated ensured : McpHostConfiguration}
variable {world later : World}

/-- A protected token can be decrypted to a bearer token at any time. -/
structure DecryptsAlways
    (platform : Platform World)
    (protectedToken token : Bytes) : Prop where
  isToken : isBearerToken token = true
  decrypts :
    ∀ world,
      ∃ secret later,
        unprotectBearerToken platform protectedToken world =
            some (secret, later) ∧
          secret.content = token

/-- Bearer tokens fit a secret buffer. -/
theorem exists_secret_of_isBearerToken
    {token : Bytes}
    (isToken : isBearerToken token = true) :
    ∃ secret : SecretBuffer, secret.content = token := by
  simp only [isBearerToken, Bool.and_eq_true, decide_eq_true_eq]
    at isToken
  refine ⟨⟨token, ?_⟩, rfl⟩
  rw [isToken.1]
  decide

/-- A text that always decrypts to a bearer token always gives it. -/
theorem decryptsAlways_of_unprotect
    {protectedToken protectedBytes token : Bytes}
    (decoded : hexDecode protectedToken = some protectedBytes)
    (isToken : isBearerToken token = true)
    (restores :
      ∀ world,
        ∃ later,
          platform.unprotect protectedBytes kTokenPurpose world =
            some (token, later)) :
    DecryptsAlways platform protectedToken token := by
  refine ⟨isToken, ?_⟩
  intro world
  obtain ⟨later, plain⟩ := restores world
  obtain ⟨secret, rfl⟩ := exists_secret_of_isBearerToken isToken
  exact ⟨secret, later,
    unprotectBearerToken_iff.mpr ⟨_, decoded, plain, isToken⟩, rfl⟩

/-- What could be decrypted once can be decrypted at any time. -/
theorem decryptsAlways_of_decrypted
    (keeps : platform.KeepsTokens)
    {protectedToken : Bytes}
    {secret : SecretBuffer}
    (decrypted :
      unprotectBearerToken platform protectedToken world =
        some (secret, later)) :
    DecryptsAlways platform protectedToken secret.content := by
  obtain ⟨protectedBytes, decoded, plain, isToken⟩ :=
    unprotectBearerToken_iff.mp decrypted
  exact decryptsAlways_of_unprotect decoded isToken (keeps.stable plain)

/-- The text of 32 bytes is a bearer token. -/
theorem isBearerToken_hexEncode
    {fresh : Bytes}
    (sized : fresh.length = 32) :
    isBearerToken (hexEncode fresh) = true := by
  have digits : (hexEncode fresh).all isXDigit = true :=
    List.all_eq_true.mpr fun _ member => isXDigit_of_mem_hexEncode member
  simp [isBearerToken, digits, sized]

/-- What a generated credential holds. -/
structure HoldsFresh
    (platform : Platform World)
    (credential : McpClientCredential)
    (fresh : Bytes) : Prop where
  sized : fresh.length = 32
  decrypts :
    DecryptsAlways platform credential.bearerTokenDpapi (hexEncode fresh)

/-- Generated credentials hold the bytes that were drawn for them. -/
theorem holdsFresh_of_generates
    (keeps : platform.KeepsTokens)
    {added : List McpClientCredential}
    {fresh : List Bytes}
    (made : Generates platform world added fresh later) :
    List.Forall₂ (HoldsFresh platform) added fresh := by
  induction made with
  | nil =>
      exact .nil
  | cons draws protects _ inductionHypothesis =>
      have sized := keeps.sized draws
      refine .cons ⟨sized, ?_⟩ inductionHypothesis
      exact decryptsAlways_of_unprotect
        (hexDecode_hexEncode (keeps.nonempty protects))
        (isBearerToken_hexEncode sized) (keeps.restores protects)

/-- A configuration in which every profile has its credential. -/
structure Complete
    (platform : Platform World)
    (profiles : List McpClientProfile)
    (configuration : McpHostConfiguration) : Prop where
  ids :
    (configuration.clientCredentials.map
        McpClientCredential.clientId).Perm
      (profiles.map McpClientProfile.id)
  distinct :
    (configuration.clientCredentials.map
      McpClientCredential.clientId).Nodup
  cleared : configuration.legacyBearerTokenDpapi = []
  tokens :
    ∀ credential ∈ configuration.clientCredentials,
      ∃ token,
        DecryptsAlways platform credential.bearerTokenDpapi token

/-- What can be decrypted is not empty. -/
theorem DecryptsAlways.nonempty
    {protectedToken token : Bytes}
    (decrypts : DecryptsAlways platform protectedToken token)
    (world : World) :
    protectedToken ≠ [] := by
  rintro rfl
  obtain ⟨secret, later, decrypted, -⟩ := decrypts.decrypts world
  obtain ⟨protectedBytes, decoded, -⟩ :=
    unprotectBearerToken_iff.mp decrypted
  cases decoded

/-- Every token of a complete configuration is there and decrypts. -/
theorem Complete.readable
    (complete : Complete platform profiles configuration) :
    ∀ credential ∈ configuration.clientCredentials,
      ∀ world,
        credential.bearerTokenDpapi ≠ [] ∧
          ∃ result,
            unprotectBearerToken platform credential.bearerTokenDpapi
                world =
              some result := by
  intro credential member world
  obtain ⟨token, decrypts⟩ := complete.tokens credential member
  obtain ⟨secret, later, decrypted, -⟩ := decrypts.decrypts world
  exact ⟨decrypts.nonempty world, (secret, later), decrypted⟩

/-- A complete configuration is left alone. -/
theorem Complete.ensureClientCredentials_eq_ok
    (complete : Complete platform profiles configuration)
    (world : World) :
    ∃ later,
      ensureClientCredentials platform configuration profiles world =
        .ok (configuration, later) := by
  have known :
      ∀ credential ∈ configuration.clientCredentials,
        credential.clientId ∈ profiles.map McpClientProfile.id :=
    fun credential member =>
      complete.ids.mem_iff.mp (List.mem_map_of_mem member)
  have present :
      ∀ profile ∈ profiles,
        profile.id ∈ configuration.clientCredentials.map
          McpClientCredential.clientId :=
    fun profile member =>
      complete.ids.mem_iff.mpr (List.mem_map_of_mem member)
  obtain ⟨later, checked⟩ :=
    exists_checkCredentials_eq_ok known complete.readable world
  refine ⟨later, ?_⟩
  simp only [ensureClientCredentials, Attempt.bind_eq_ok_iff]
  refine ⟨configuration, world, ?_, (), later, checked,
    createCredentials_of_present present later⟩
  simp [migrateLegacyToken, complete.cleared]

/-- What a successful call makes of a configuration. -/
structure Completion
    (platform : Platform World)
    (profiles : List McpClientProfile)
    (configuration ensured : McpHostConfiguration)
    (later : World) : Prop where
  complete : Complete platform profiles ensured
  kept :
    configuration.clientCredentials <+: ensured.clientCredentials
  bound :
    configuration.legacyBearerTokenDpapi ≠ [] →
    ∃ profile,
      profiles = [profile] ∧
        ensured.clientCredentials =
          [⟨profile.id, configuration.legacyBearerTokenDpapi⟩]
  /-- What follows the stored credentials was made of drawn bytes. -/
  generated :
    ∃ migrated start added fresh,
      Migrates profiles configuration migrated ∧
        ensured = { migrated with
          clientCredentials := migrated.clientCredentials ++ added } ∧
        Generates platform start added fresh later ∧
        List.Forall₂ (HoldsFresh platform) added fresh
  repeated :
    ∀ world,
      ∃ after,
        ensureClientCredentials platform ensured profiles world =
          .ok (ensured, after)

theorem Migrates.distinct
    (migrates : Migrates profiles configuration migrated)
    (wellFormed : WellFormed configuration) :
    (migrated.clientCredentials.map McpClientCredential.clientId).Nodup := by
  cases migrates with
  | unchanged =>
      exact wellFormed.distinct
  | bound profile _ legacy =>
      simp [wellFormed.legacyAlone.resolve_left legacy]

/-- The stages together complete a configuration. -/
theorem complete_of_stages
    (keeps : platform.KeepsTokens)
    (wellFormed : WellFormed configuration)
    (distinct : (profiles.map McpClientProfile.id).Nodup)
    (migrates : Migrates profiles configuration migrated)
    (checked :
      ∀ credential ∈ migrated.clientCredentials,
        Checked platform profiles credential)
    {added : List McpClientCredential}
    {fresh : List Bytes}
    (ids :
      added.map McpClientCredential.clientId =
        (profiles.map McpClientProfile.id).filter
          (· ∉ migrated.clientCredentials.map
            McpClientCredential.clientId))
    (holds : List.Forall₂ (HoldsFresh platform) added fresh) :
    Complete platform profiles { migrated with
      clientCredentials := migrated.clientCredentials ++ added } where
  ids := by
    rw [List.map_append, ids]
    refine perm_append_missing (migrates.distinct wellFormed) distinct ?_
    intro id present
    obtain ⟨credential, member, rfl⟩ := List.mem_map.mp present
    exact (checked credential member).known
  distinct := by
    rw [List.map_append, ids]
    exact nodup_append_missing (migrates.distinct wellFormed) distinct
  cleared := migrates.current
  tokens := by
    intro credential member
    rcases List.mem_append.mp member with stored | isNew
    · obtain ⟨world, ⟨secret, later⟩, decrypted⟩ :=
        (checked credential stored).decrypts
      exact ⟨secret.content, decryptsAlways_of_decrypted keeps decrypted⟩
    · have both :
          List.Forall₂
            (fun credential bytes =>
              (∃ token,
                DecryptsAlways platform credential.bearerTokenDpapi token) ∧
                HoldsFresh platform credential bytes)
            added fresh :=
        holds.imp fun _ _ holdsFresh =>
          ⟨⟨_, holdsFresh.decrypts⟩, holdsFresh⟩
      exact ((List.forall₂_and_left added fresh).mp both).1 credential isNew

/-- The only profile gets the legacy token, and nothing is missing then. -/
theorem bound_of_stages
    (wellFormed : WellFormed configuration)
    (migrates : Migrates profiles configuration migrated)
    {added : List McpClientCredential}
    (ids :
      added.map McpClientCredential.clientId =
        (profiles.map McpClientProfile.id).filter
          (· ∉ migrated.clientCredentials.map
            McpClientCredential.clientId))
    (legacy : configuration.legacyBearerTokenDpapi ≠ []) :
    ∃ profile,
      profiles = [profile] ∧
        migrated.clientCredentials ++ added =
          [⟨profile.id, configuration.legacyBearerTokenDpapi⟩] := by
  cases migrates with
  | unchanged current =>
      exact absurd current legacy
  | bound profile single _ =>
      have alone := wellFormed.legacyAlone.resolve_left legacy
      have nothingAdded : added = [] := by
        rw [← List.map_eq_nil_iff, ids, single]
        simp
      exact ⟨profile, single, by simp [alone, nothingAdded]⟩

end Completion

/-- A successful call completes the credentials. -/
theorem completion_of_ensureClientCredentials
    {World : Type}
    (platform : Platform World)
    (keeps : platform.KeepsTokens)
    (profiles : List McpClientProfile)
    (distinct : (profiles.map McpClientProfile.id).Nodup)
    (configuration ensured : McpHostConfiguration)
    (wellFormed : WellFormed configuration)
    (world later : World)
    (succeeded :
      ensureClientCredentials platform configuration profiles world =
        .ok (ensured, later)) :
    Completion platform profiles configuration ensured later := by
  simp only [ensureClientCredentials, Attempt.bind_eq_ok_iff] at succeeded
  obtain ⟨migrated, between, migrating, ⟨⟩, checkedWorld, checking,
    creating⟩ := succeeded
  have migrates := migrates_of_migrateLegacyToken migrating
  obtain ⟨added, fresh, rfl, ids, made⟩ :=
    generates_of_createCredentials distinct creating
  have holds := holdsFresh_of_generates keeps made
  have complete :=
    complete_of_stages keeps wellFormed distinct migrates
      (checked_of_checkCredentials checking) ids holds
  exact {
    complete := complete
    kept := migrates.kept.trans (List.prefix_append _ _)
    bound := bound_of_stages wellFormed migrates ids
    generated :=
      ⟨migrated, checkedWorld, added, fresh, migrates, rfl, made, holds⟩
    repeated := complete.ensureClientCredentials_eq_ok
  }

/-- The sealing platform keeps tokens. -/
theorem keepsTokens_sealingPlatform : sealingPlatform.KeepsTokens where
  toRestores := bindsPurposes_sealingPlatform.toRestores
  stable := by
    intro cipherText purpose plainText world later plain other
    exact ⟨later, plain⟩
  sized := by
    intro count random world later draws
    obtain rfl := congrArg Prod.fst (Option.some.inj draws)
    exact List.length_replicate

/-- The protected token of the sealing platform for repeated bytes. -/
def sealedToken (byte : UInt8) : Bytes :=
  hexEncode
    (hexEncode kTokenPurpose ++ 0 :: hexEncode (List.replicate 32 byte))

set_option maxRecDepth 8000 in
/-- The writer gets a token and the reader keeps the stored one. -/
theorem completion_of_ensureClientCredentials_writer :
    Completion sealingPlatform
      [{ id := bytes "writer" }, { id := bytes "reader" }]
      { clientCredentials := [⟨bytes "reader", sealedToken 9⟩] }
      { clientCredentials := [
          ⟨bytes "reader", sealedToken 9⟩,
          ⟨bytes "writer", sealedToken 7⟩] }
      () :=
  completion_of_ensureClientCredentials sealingPlatform
    keepsTokens_sealingPlatform _ (by decide) _ _ ⟨by simp, .inl rfl⟩ ()
    () rfl

end McpHostConfigurationRepository

end TgGate
