import TgGate.AccountRepository
import TgGate.Library.HexPairs
import TgGate.McpHostConfiguration

namespace TgGate

open Library

/-!
# Purposes of secrets

DPAPI gives a secret back only under the purpose that it was protected for.
The purposes of the API hashes, of the database keys and of the bearer tokens
never coincide, whatever the account ids are, so a stored secret cannot be
taken for one of another kind or of another account.
-/

/-- What DPAPI protects it gives back, whenever it is asked to. -/
structure Platform.Restores {World : Type} (platform : Platform World) :
    Prop where
  nonempty :
    ∀ {plainText purpose cipherText : Bytes} {world later : World},
      platform.protect plainText purpose world =
        some (cipherText, later) →
      cipherText ≠ []
  restores :
    ∀ {plainText purpose cipherText : Bytes} {world later : World},
      platform.protect plainText purpose world =
        some (cipherText, later) →
      ∀ other,
        ∃ after,
          platform.unprotect cipherText purpose other =
            some (plainText, after)

/-- It gives it back under the same purpose only. -/
structure Platform.BindsPurposes
    {World : Type}
    (platform : Platform World) : Prop extends platform.Restores where
  separates :
    ∀ {plainText purpose cipherText : Bytes} {world later : World},
      platform.protect plainText purpose world =
        some (cipherText, later) →
      ∀ different ≠ purpose,
        ∀ other,
          platform.unprotect cipherText different other = none

open AccountRepository McpHostConfigurationRepository

/-- No purpose serves two kinds of secrets or two accounts. -/
structure PurposesApart : Prop where
  apiHashes :
    ∀ first second,
      dpapiPurpose first = dpapiPurpose second → first = second
  databaseKeys :
    ∀ first second,
      databaseKeyDpapiPurpose first = databaseKeyDpapiPurpose second →
      first = second
  kinds :
    ∀ first second, dpapiPurpose first ≠ databaseKeyDpapiPurpose second
  tokenFromApiHash : ∀ accountId, dpapiPurpose accountId ≠ kTokenPurpose
  tokenFromDatabaseKey :
    ∀ accountId, databaseKeyDpapiPurpose accountId ≠ kTokenPurpose

/-- A purpose of an account does not begin like that of the tokens. -/
theorem account_append_ne_kTokenPurpose (rest : Bytes) :
    bytes "tggate/account/" ++ rest ≠ kTokenPurpose := by
  intro same
  have sameStart := congrArg (List.take 15) same
  rw [List.take_left' (by decide)] at sameStart
  exact absurd sameStart (by decide)

theorem purposesApart : PurposesApart where
  apiHashes := by
    intro first second same
    exact List.append_cancel_left (List.append_cancel_right same)
  databaseKeys := by
    intro first second same
    exact List.append_cancel_left (List.append_cancel_right same)
  kinds := by
    intro first second same
    have hashEnd : (bytes "/api_hash").getLast? = some 104 := by
      decide
    have keyEnd : (bytes "/database_key").getLast? = some 121 := by
      decide
    have sameEnd := congrArg List.getLast? same
    simp [dpapiPurpose, databaseKeyDpapiPurpose, List.getLast?_append,
      hashEnd, keyEnd] at sameEnd
  tokenFromApiHash := by
    intro accountId
    rw [dpapiPurpose, List.append_assoc]
    exact account_append_ne_kTokenPurpose _
  tokenFromDatabaseKey := by
    intro accountId
    rw [databaseKeyDpapiPurpose, List.append_assoc]
    exact account_append_ne_kTokenPurpose _

/-- A protected API hash is one of its account and of nothing else. -/
structure BoundApiHash
    {World : Type}
    (platform : Platform World)
    (accountId apiHash stored : Bytes) : Prop where
  restores :
    ∀ world,
      ∃ secret later,
        unprotectApiHash platform accountId stored world =
            .ok (secret, later) ∧
          secret.content = apiHash
  otherAccounts :
    ∀ other ≠ accountId,
      ∀ world,
        unprotectApiHash platform other stored world = .error .absent
  databaseKeys :
    ∀ other world,
      unprotectDatabaseKey platform other stored world = none
  bearerTokens :
    ∀ world, unprotectBearerToken platform stored world = none

section Secrets

variable {World : Type}
variable {platform : Platform World}
variable {accountId apiHash stored : Bytes}
variable {world later : World}

/-- What is stored for an API hash. -/
theorem protectApiHash_eq_some
    (succeeded :
      protectApiHash platform accountId apiHash world =
        some (stored, later)) :
    accountId ≠ [] ∧
      ∃ cipherText,
        platform.protect apiHash (dpapiPurpose accountId) world =
            some (cipherText, later) ∧
          stored = hexEncode cipherText := by
  unfold protectApiHash at succeeded
  split at succeeded
  · cases succeeded
  · next present =>
      cases protects :
          platform.protect apiHash (dpapiPurpose accountId) world with
      | none =>
          simp [protects] at succeeded
      | some result =>
          rcases result with ⟨cipherText, after⟩
          simp only [protects, Option.some.injEq, Prod.mk.injEq]
            at succeeded
          rcases succeeded with ⟨rfl, rfl⟩
          refine ⟨?_, cipherText, rfl, rfl⟩
          rintro rfl
          simp at present

/-- A stored text that can be decoded is left to the platform. -/
theorem unprotectApiHash_of_decodes
    {cipherText : Bytes}
    (named : accountId ≠ [])
    (decodes : hexDecode stored = some cipherText) :
    unprotectApiHash platform accountId stored world =
      (Attempt.orError
          (platform.unprotect cipherText (dpapiPurpose accountId))
          SecretFailure.absent >>=
        fun plainBytes =>
          Attempt.ofOption (SecretBuffer.ofBytes? plainBytes)
            .capacityExceeded) world := by
  cases accountId with
  | nil =>
      exact absurd rfl named
  | cons first rest =>
      unfold unprotectApiHash
      rw [decodes]
      rfl

/-- A secret that the platform refuses is not returned. -/
theorem unprotectApiHash_of_refused
    {cipherText : Bytes}
    (decodes : hexDecode stored = some cipherText)
    (refused :
      platform.unprotect cipherText (dpapiPurpose accountId) world =
        none) :
    unprotectApiHash platform accountId stored world =
      .error .absent := by
  by_cases named : accountId = []
  · subst named
    rfl
  · rw [unprotectApiHash_of_decodes named decodes]
    change StateT.bind _ _ world = _
    simp only [StateT.bind, Attempt.orError, refused]
    rfl

end Secrets

/-- A protected API hash is given back to its account and to nothing else. -/
theorem boundApiHash_protectApiHash
    {World : Type}
    (platform : Platform World)
    (binds : platform.BindsPurposes)
    (accountId apiHash stored : Bytes)
    (world later : World)
    (bounded : apiHash.length ≤ maximumSecretSize)
    (succeeded :
      protectApiHash platform accountId apiHash world =
        some (stored, later)) :
    BoundApiHash platform accountId apiHash stored ∧ PurposesApart := by
  obtain ⟨named, cipherText, protects, rfl⟩ :=
    protectApiHash_eq_some succeeded
  have decodes := hexDecode_hexEncode (binds.nonempty protects)
  have refused :
      ∀ purpose ≠ dpapiPurpose accountId,
        ∀ other, platform.unprotect cipherText purpose other = none :=
    binds.separates protects
  refine ⟨⟨?_, ?_, ?_, ?_⟩, purposesApart⟩
  · intro other
    obtain ⟨after, restored⟩ := binds.restores protects other
    refine ⟨⟨apiHash, bounded⟩, after, ?_, rfl⟩
    rw [unprotectApiHash_of_decodes named decodes, Attempt.bind_eq_ok_iff]
    refine ⟨apiHash, after, Attempt.orError_eq_ok_iff.mpr restored, ?_⟩
    rw [Attempt.ofOption_eq_ok_iff]
    exact ⟨SecretBuffer.ofBytes?_eq_some_iff.mpr rfl, rfl⟩
  · intro different isDifferent other
    apply unprotectApiHash_of_refused decodes
    apply refused
    intro same
    exact isDifferent (purposesApart.apiHashes _ _ same)
  · intro different other
    have keyRefused :=
      refused _ (purposesApart.kinds accountId different).symm other
    simp [unprotectDatabaseKey, decodes, keyRefused]
  · intro other
    have tokenRefused :=
      refused _ (purposesApart.tokenFromApiHash accountId).symm other
    simp [unprotectBearerToken, decodes, tokenRefused]

section Sealing

/-- A platform that writes the purpose in front of the plain text. -/
def sealingPlatform : Platform Unit where
  protect plainText purpose _ :=
    some (hexEncode purpose ++ 0 :: plainText, ())
  unprotect cipherText purpose _ :=
    if cipherText.takeWhile (· ≠ 0) = hexEncode purpose then
      some ((cipherText.dropWhile (· ≠ 0)).tail, ())
    else
      none
  randomBytes count _ := some (List.replicate count 7, ())
  pathExists _ _ := false

theorem nonzero_hexEncode (purpose : Bytes) :
    ∀ character ∈ hexEncode purpose, (character ≠ 0 : Bool) = true := by
  intro character member
  have digit := isXDigit_of_mem_hexEncode member
  rw [decide_eq_true_eq]
  rintro rfl
  exact absurd digit (by decide)

theorem bindsPurposes_sealingPlatform :
    sealingPlatform.BindsPurposes where
  nonempty := by
    intro plainText purpose cipherText world later protects
    obtain rfl := congrArg Prod.fst (Option.some.inj protects)
    simp
  restores := by
    intro plainText purpose cipherText world later protects other
    obtain rfl := congrArg Prod.fst (Option.some.inj protects)
    refine ⟨(), ?_⟩
    simp only [sealingPlatform]
    rw [List.takeWhile_append_of_pos (nonzero_hexEncode purpose),
      List.dropWhile_append_of_pos (nonzero_hexEncode purpose)]
    simp
  separates := by
    intro plainText purpose cipherText world later protects different
      isDifferent other
    obtain rfl := congrArg Prod.fst (Option.some.inj protects)
    simp only [sealingPlatform]
    rw [List.takeWhile_append_of_pos (nonzero_hexEncode purpose),
      if_neg]
    intro same
    apply isDifferent
    apply hexEncode_injective
    simpa using same.symm

/-- The API hash of one account, protected by that platform. -/
theorem boundApiHash_protectApiHash_work :
    BoundApiHash sealingPlatform (bytes "work") (bytes "hash")
        (hexEncode
          (hexEncode (dpapiPurpose (bytes "work")) ++
            0 :: bytes "hash")) ∧
      PurposesApart :=
  boundApiHash_protectApiHash sealingPlatform
    bindsPurposes_sealingPlatform (bytes "work") (bytes "hash") _ () ()
    (by decide) rfl

end Sealing

end TgGate
