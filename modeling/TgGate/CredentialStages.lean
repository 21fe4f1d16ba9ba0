import TgGate.McpHostConfiguration

namespace TgGate

open Library

/-!
# The stages of completing credentials

`ensure_client_credentials` binds a legacy token to the only profile, checks
every credential that is stored and creates those that are missing.  This is
what each of the stages leaves behind, whatever the platform answers, and what
`regenerate_client_credential` does.
-/

namespace McpHostConfigurationRepository

section Stages

variable {World : Type}
variable {platform : Platform World}
variable {profiles : List McpClientProfile}
variable {configuration : McpHostConfiguration}
variable {world later : World}

/-- A token is returned if DPAPI makes a bearer token of the decoded text. -/
theorem unprotectBearerToken_iff
    {protectedToken : Bytes}
    {secret : SecretBuffer} :
    unprotectBearerToken platform protectedToken world =
        some (secret, later) ↔
      ∃ protectedBytes,
        hexDecode protectedToken = some protectedBytes ∧
          platform.unprotect protectedBytes kTokenPurpose world =
            some (secret.content, later) ∧
          isBearerToken secret.content = true := by
  unfold unprotectBearerToken
  cases decoded : hexDecode protectedToken with
  | none =>
      simp
  | some protectedBytes =>
      simp only [Option.some.injEq, exists_eq_left']
      rcases plain :
          platform.unprotect protectedBytes kTokenPurpose world with
        _ | ⟨plainBytes, between⟩
      · simp
      · simp only [Option.some.injEq, Prod.mk.injEq]
        by_cases isToken : isBearerToken plainBytes = true
        · simp only [isToken, ↓reduceIte, Option.map_eq_some_iff,
            SecretBuffer.ofBytes?_eq_some_iff, Prod.mk.injEq]
          constructor
          · rintro ⟨_, rfl, rfl, rfl⟩
            exact ⟨⟨rfl, rfl⟩, isToken⟩
          · rintro ⟨⟨rfl, rfl⟩, -⟩
            exact ⟨secret, rfl, rfl, rfl⟩
        · rw [if_neg isToken]
          refine iff_of_false (by simp) ?_
          rintro ⟨⟨rfl, rfl⟩, isOne⟩
          exact isToken isOne

/-- What binding a legacy token leaves behind. -/
inductive Migrates
    (profiles : List McpClientProfile)
    (configuration : McpHostConfiguration) :
    McpHostConfiguration → Prop where
  | unchanged
      (current : configuration.legacyBearerTokenDpapi = []) :
      Migrates profiles configuration configuration
  | bound
      (profile : McpClientProfile)
      (single : profiles = [profile])
      (legacy : configuration.legacyBearerTokenDpapi ≠ []) :
      Migrates profiles configuration { configuration with
        clientCredentials := configuration.clientCredentials ++ [{
          clientId := profile.id
          bearerTokenDpapi := configuration.legacyBearerTokenDpapi
        }]
        legacyBearerTokenDpapi := [] }

theorem Migrates.current
    {migrated : McpHostConfiguration}
    (migrates : Migrates profiles configuration migrated) :
    migrated.legacyBearerTokenDpapi = [] := by
  cases migrates with
  | unchanged current =>
      exact current
  | bound =>
      rfl

/-- The credentials that are there stay in front. -/
theorem Migrates.kept
    {migrated : McpHostConfiguration}
    (migrates : Migrates profiles configuration migrated) :
    configuration.clientCredentials <+: migrated.clientCredentials := by
  cases migrates with
  | unchanged =>
      exact List.prefix_rfl
  | bound =>
      exact List.prefix_append _ _

theorem migrates_of_migrateLegacyToken
    {migrated : McpHostConfiguration}
    (succeeded :
      migrateLegacyToken platform profiles configuration world =
        .ok (migrated, later)) :
    Migrates profiles configuration migrated := by
  unfold migrateLegacyToken at succeeded
  by_cases noLegacy : configuration.legacyBearerTokenDpapi.isEmpty = true
  · rw [if_pos noLegacy, Attempt.pure_eq_ok_iff, Prod.mk.injEq]
      at succeeded
    obtain ⟨rfl, -⟩ := succeeded
    exact .unchanged (List.isEmpty_iff.mp noLegacy)
  · rw [if_neg noLegacy] at succeeded
    rcases profiles with _ | ⟨profile, _ | ⟨second, others⟩⟩
    · simp at succeeded
    · simp only [Attempt.bind_eq_ok_iff, Attempt.pure_eq_ok_iff,
        Prod.mk.injEq] at succeeded
      obtain ⟨-, -, -, rfl, -⟩ := succeeded
      exact .bound profile rfl (by simpa using noLegacy)
    · simp at succeeded

/-- A credential passes the check, at some time. -/
structure Checked
    (platform : Platform World)
    (profiles : List McpClientProfile)
    (credential : McpClientCredential) : Prop where
  known : credential.clientId ∈ profiles.map McpClientProfile.id
  nonempty : credential.bearerTokenDpapi ≠ []
  decrypts :
    ∃ (world : World) (result : SecretBuffer × World),
      unprotectBearerToken platform credential.bearerTokenDpapi world =
        some result

/-- Checking passes over every credential. -/
theorem checked_of_checkCredentials
    {credentials : List McpClientCredential}
    {result : Unit}
    (succeeded :
      checkCredentials platform profiles credentials world =
        .ok (result, later)) :
    ∀ credential ∈ credentials,
      Checked platform profiles credential := by
  induction credentials generalizing world with
  | nil =>
      simp
  | cons credential rest inductionHypothesis =>
      simp only [checkCredentials, Attempt.bind_eq_ok_iff,
        Attempt.require_eq_ok_iff, Attempt.orError_eq_ok_iff] at succeeded
      obtain ⟨_, _, ⟨known, rfl⟩, _, _, ⟨nonempty, rfl⟩, secret, between,
        decrypted, restChecked⟩ := succeeded
      intro other member
      rcases List.mem_cons.mp member with rfl | inRest
      · exact ⟨by simpa using known, by simpa using nonempty, _, _,
          decrypted⟩
      · exact inductionHypothesis restChecked other inRest

/-- Known credentials whose tokens decrypt at any time pass the check. -/
theorem exists_checkCredentials_eq_ok
    {credentials : List McpClientCredential}
    (known :
      ∀ credential ∈ credentials,
        credential.clientId ∈ profiles.map McpClientProfile.id)
    (readable :
      ∀ credential ∈ credentials,
        ∀ world,
          credential.bearerTokenDpapi ≠ [] ∧
            ∃ result,
              unprotectBearerToken platform credential.bearerTokenDpapi
                  world =
                some result)
    (world : World) :
    ∃ later,
      checkCredentials platform profiles credentials world =
        .ok ((), later) := by
  induction credentials generalizing world with
  | nil =>
      exact ⟨world, rfl⟩
  | cons credential rest inductionHypothesis =>
      obtain ⟨nonempty, ⟨secret, between⟩, decrypted⟩ :=
        readable credential List.mem_cons_self world
      obtain ⟨later, restChecked⟩ :=
        inductionHypothesis
          (fun other member => known other (List.mem_cons_of_mem _ member))
          (fun other member =>
            readable other (List.mem_cons_of_mem _ member))
          between
      refine ⟨later, ?_⟩
      simp only [checkCredentials, Attempt.bind_eq_ok_iff,
        Attempt.require_eq_ok_iff, Attempt.orError_eq_ok_iff]
      refine ⟨(), world, ⟨?_, rfl⟩, (), world, ⟨?_, rfl⟩, secret, between,
        decrypted, restChecked⟩
      · simpa using known credential List.mem_cons_self
      · simpa using nonempty

/-- No credential is created where none is missing. -/
theorem createCredentials_of_present
    (present :
      ∀ profile ∈ profiles,
        profile.id ∈ configuration.clientCredentials.map
          McpClientCredential.clientId)
    (world : World) :
    createCredentials platform configuration profiles world =
      .ok (configuration, world) := by
  induction profiles with
  | nil =>
      rfl
  | cons profile rest inductionHypothesis =>
      have found :
          (findClientCredential configuration profile.id).isSome = true :=
        isSome_find?_key.mpr (present profile List.mem_cons_self)
      unfold createCredentials
      rw [if_pos found]
      exact inductionHypothesis fun other member =>
        present other (List.mem_cons_of_mem _ member)

/-- Credentials whose tokens were made of successively drawn bytes. -/
inductive Generates
    (platform : Platform World) :
    World → List McpClientCredential → List Bytes → World → Prop where
  | nil {world : World} : Generates platform world [] [] world
  | cons
      {world drawn sealed later : World}
      {clientId fresh cipherText : Bytes}
      {others : List McpClientCredential}
      {othersFresh : List Bytes}
      (draws : platform.randomBytes 32 world = some (fresh, drawn))
      (protects :
        platform.protect (hexEncode fresh) kTokenPurpose drawn =
          some (cipherText, sealed))
      (rest : Generates platform sealed others othersFresh later) :
      Generates platform world
        (⟨clientId, hexEncode cipherText⟩ :: others)
        (fresh :: othersFresh) later

theorem generateProtectedBearerToken_eq_some_iff
    {protectedToken : Bytes} :
    generateProtectedBearerToken platform world =
        some (protectedToken, later) ↔
      ∃ fresh drawn cipherText,
        platform.randomBytes 32 world = some (fresh, drawn) ∧
          platform.protect (hexEncode fresh) kTokenPurpose drawn =
            some (cipherText, later) ∧
          protectedToken = hexEncode cipherText := by
  unfold generateProtectedBearerToken
  rcases platform.randomBytes 32 world with _ | ⟨fresh, drawn⟩
  · simp
  · rcases protects :
        platform.protect (hexEncode fresh) kTokenPurpose drawn with
      _ | ⟨cipherText, sealed⟩
    · simp [protects]
    · simp only [protects, Option.some.injEq, Prod.mk.injEq]
      constructor
      · rintro ⟨rfl, rfl⟩
        exact ⟨fresh, drawn, cipherText, ⟨rfl, rfl⟩, protects, rfl⟩
      · rintro ⟨_, _, other, ⟨rfl, rfl⟩, otherProtects, rfl⟩
        rw [protects, Option.some.injEq, Prod.mk.injEq] at otherProtects
        obtain ⟨rfl, rfl⟩ := otherProtects
        exact ⟨rfl, rfl⟩

/--
Creating credentials appends one for every profile without one, each made from
the next drawn bytes.
-/
theorem generates_of_createCredentials
    {ensured : McpHostConfiguration}
    (distinct : (profiles.map McpClientProfile.id).Nodup)
    (succeeded :
      createCredentials platform configuration profiles world =
        .ok (ensured, later)) :
    ∃ added fresh,
      ensured = { configuration with
          clientCredentials := configuration.clientCredentials ++ added } ∧
        added.map McpClientCredential.clientId =
          (profiles.map McpClientProfile.id).filter
            (· ∉ configuration.clientCredentials.map
              McpClientCredential.clientId) ∧
        Generates platform world added fresh later := by
  induction profiles generalizing configuration world with
  | nil =>
      simp only [createCredentials, Attempt.pure_eq_ok_iff,
        Prod.mk.injEq] at succeeded
      rcases succeeded with ⟨rfl, rfl⟩
      exact ⟨[], [], by simp, rfl, .nil⟩
  | cons profile rest inductionHypothesis =>
      rw [List.map_cons, List.nodup_cons] at distinct
      unfold createCredentials at succeeded
      by_cases present :
          (findClientCredential configuration profile.id).isSome = true
      · rw [if_pos present] at succeeded
        obtain ⟨added, fresh, shape, ids, made⟩ :=
          inductionHypothesis distinct.2 succeeded
        have known : profile.id ∈ configuration.clientCredentials.map
            McpClientCredential.clientId :=
          isSome_find?_key.mp present
        refine ⟨added, fresh, shape, ?_, made⟩
        rw [ids, List.map_cons,
          List.filter_cons_of_neg (by simpa using known)]
      · rw [if_neg present] at succeeded
        simp only [Attempt.bind_eq_ok_iff, Attempt.orError_eq_ok_iff]
          at succeeded
        obtain ⟨protectedToken, between, generated, restCreated⟩ :=
          succeeded
        obtain ⟨first, drawn, cipherText, draws, protects, rfl⟩ :=
          generateProtectedBearerToken_eq_some_iff.mp generated
        obtain ⟨added, fresh, rfl, ids, made⟩ :=
          inductionHypothesis distinct.2 restCreated
        have unknown : profile.id ∉ configuration.clientCredentials.map
            McpClientCredential.clientId :=
          fun known => present (isSome_find?_key.mpr known)
        refine ⟨⟨profile.id, hexEncode cipherText⟩ :: added,
          first :: fresh, ?_, ?_, .cons draws protects made⟩
        · simp
        · rw [List.map_cons, ids, List.map_cons,
            List.filter_cons_of_pos (by simpa using unknown)]
          congr 1
          apply List.filter_congr
          intro id member
          have idNe : id ≠ profile.id := by
            rintro rfl
            exact distinct.1 member
          simp [idNe]

/-- What another token for a client leaves of a configuration. -/
structure Rotates
    (configuration rotated : McpHostConfiguration)
    (clientId : Bytes) : Prop where
  known :
    (findClientCredential configuration clientId).isSome = true
  settings :
    rotated = { configuration with
      clientCredentials := rotated.clientCredentials }
  ids :
    rotated.clientCredentials.map McpClientCredential.clientId =
      configuration.clientCredentials.map McpClientCredential.clientId
  others :
    ∀ other,
      other ≠ clientId →
      findClientCredential rotated other =
        findClientCredential configuration other

theorem rotates_of_regenerateClientCredential
    {rotated : McpHostConfiguration}
    {clientId : Bytes}
    (succeeded :
      regenerateClientCredential platform configuration clientId world =
        .ok (rotated, later)) :
    Rotates configuration rotated clientId := by
  simp only [regenerateClientCredential, Attempt.bind_eq_ok_iff,
    Attempt.require_eq_ok_iff, Attempt.pure_eq_ok_iff, Prod.mk.injEq]
    at succeeded
  obtain ⟨-, -, ⟨known, -⟩, protectedToken, between, -, rfl, -⟩ := succeeded
  refine ⟨known, rfl, map_modifyFirst fun _ _ => rfl, ?_⟩
  intro other otherNe
  refine find?_modifyFirst_of_ne ?_ otherNe
  intro credential found
  have isClient : credential.clientId = clientId := key_of_find? found
  exact isClient

end Stages

end McpHostConfigurationRepository

end TgGate
