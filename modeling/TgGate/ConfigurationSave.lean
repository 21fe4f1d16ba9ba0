import TgGate.AccountRepository
import TgGate.McpHostConfiguration

namespace TgGate

open Library

/-!
# Saving a configuration

A save should be all-or-nothing.  Every failure that `save` observes leaves the
target alone, but the buffered rest of the text is written when the stream is
destroyed, after the last check of its state and before the rename.  A failure
there replaces the target by a truncated document.
-/

/-- What one call of `save` returns, or throws, and leaves behind. -/
abbrev SaveResult :=
  Except JsonException (Except Bytes Unit) × FileSystem

/-- A save that succeeds is complete; one that fails changes nothing. -/
structure AllOrNothing
    (path : FilesystemPath)
    (intended : Except JsonException Bytes)
    (before : FileSystem)
    (saved : SaveResult) : Prop where
  complete :
    saved.1 = .ok (.ok ()) →
      ∃ content,
        intended = .ok content ∧ saved.2 path = some content
  unchanged :
    ∀ error,
      saved.1 = .ok (.error error) →
      saved.2 path = before path

/--
Everything that is checked succeeds, yet a part of the text does not reach the
temporary file before the stream is gone.
-/
def TruncatedAtClose
    (outcome : ReplacementOutcome)
    (intended : Except JsonException Bytes) : Prop :=
  outcome.Reported ∧
    ∃ content,
      intended = .ok content ∧
        outcome.drained + outcome.flushed < content.length

/-- How both repositories save. -/
def saveThrough
    (saveError : ReplacementError → Bytes)
    (outcome : ReplacementOutcome)
    (path : FilesystemPath)
    (intended : Except JsonException Bytes)
    (files : FileSystem) : SaveResult :=
  let replaced := replaceFile outcome path intended files
  (replaced.1.map (·.mapError saveError), replaced.2)

section SaveThrough

variable (saveError : ReplacementError → Bytes)
variable (outcome : ReplacementOutcome)
variable (path : FilesystemPath)
variable (intended : Except JsonException Bytes)
variable (files : FileSystem)

/-- A save succeeds only if every checked step does. -/
theorem fst_saveThrough_ne_of_not_reported
    (unreported : ¬ outcome.Reported) :
    (saveThrough saveError outcome path intended files).1 ≠
      .ok (.ok ()) := by
  obtain ⟨failed, -⟩ :=
    replaceFile_of_not_reported outcome path files unreported intended
  intro succeeded
  unfold saveThrough at succeeded
  rcases replaced : (replaceFile outcome path intended files).1 with
    thrown | error | done
  · simp [replaced, Except.map] at succeeded
  · simp [replaced, Except.map, Except.mapError] at succeeded
  · exact failed replaced

/-- A failed check protects the target. -/
theorem allOrNothing_of_not_reported
    (unreported : ¬ outcome.Reported) :
    AllOrNothing path intended files
      (saveThrough saveError outcome path intended files) where
  complete succeeded :=
    absurd succeeded
      (fst_saveThrough_ne_of_not_reported saveError outcome path intended
        files unreported)
  unchanged _ _ :=
    (replaceFile_of_not_reported outcome path files unreported
      intended).2

/-- If every check succeeds, the target holds what reached the file. -/
theorem saveThrough_of_reported
    (reported : outcome.Reported)
    (content : Bytes) :
    (saveThrough saveError outcome path (.ok content) files).1 =
        .ok (.ok ()) ∧
      (saveThrough saveError outcome path (.ok content) files).2 path =
        some (outcome.stored content) := by
  unfold saveThrough
  rw [replaceFile_of_reported outcome path files reported]
  exact ⟨rfl, rename_temporaryPath files path _⟩

/-- If the text cannot be computed, `save` throws. -/
theorem allOrNothing_of_throws
    (reported : outcome.Reported)
    (thrown : JsonException) :
    AllOrNothing path (.error thrown) files
      (saveThrough saveError outcome path (.error thrown) files) := by
  rcases reported with ⟨opened, -, -⟩
  constructor <;> simp [saveThrough, replaceFile, opened, Except.map]

/-- A save is all-or-nothing unless the text is truncated at close. -/
theorem allOrNothing_saveThrough_iff :
    AllOrNothing path intended files
        (saveThrough saveError outcome path intended files) ↔
      ¬ TruncatedAtClose outcome intended := by
  by_cases reported : outcome.Reported
  · cases intended with
    | error thrown =>
        constructor
        · rintro - ⟨-, content, impossible, -⟩
          cases impossible
        · rintro -
          exact allOrNothing_of_throws saveError outcome path files
            reported thrown
    | ok content =>
        obtain ⟨succeeded, held⟩ :=
          saveThrough_of_reported saveError outcome path files reported
            content
        constructor
        · rintro allOrNothing ⟨-, whole, wholeShape, short⟩
          obtain rfl := Except.ok.inj wholeShape
          obtain ⟨complete, completeShape, holds⟩ :=
            allOrNothing.complete succeeded
          obtain rfl := Except.ok.inj completeShape
          rw [held, Option.some.injEq, stored_eq_iff] at holds
          omega
        · intro whole
          have enough :
              content.length ≤ outcome.drained + outcome.flushed := by
            by_contra short
            exact whole ⟨reported, content, rfl, by omega⟩
          refine ⟨fun _ => ⟨content, rfl, ?_⟩, ?_⟩
          · rw [held, stored_eq_iff.mpr enough]
          · intro error failed
            rw [succeeded] at failed
            simp at failed
  · constructor
    · rintro - ⟨reaches, -⟩
      exact reported reaches
    · rintro -
      exact allOrNothing_of_not_reported saveError outcome path intended
        files reported

end SaveThrough

theorem accountRepository_save_eq
    (library : DocumentLibrary)
    (outcome : ReplacementOutcome)
    (path : FilesystemPath)
    (accounts : List AccountConfiguration)
    (files : FileSystem) :
    AccountRepository.save library outcome path accounts files =
      saveThrough AccountRepository.saveError outcome path
        (AccountRepository.text library accounts) files :=
  rfl

theorem mcpHostConfigurationRepository_save_eq
    (library : DocumentLibrary)
    (outcome : ReplacementOutcome)
    (path : FilesystemPath)
    (configuration : McpHostConfiguration)
    (files : FileSystem) :
    McpHostConfigurationRepository.save library outcome path
        configuration files =
      saveThrough McpHostConfigurationRepository.saveError outcome path
        (McpHostConfigurationRepository.text library configuration)
        files :=
  rfl

/--
Saving the accounts, and saving the host configuration, is all-or-nothing
exactly when the text is not truncated at close.
-/
theorem save_allOrNothing_iff
    (library : DocumentLibrary)
    (outcome : ReplacementOutcome)
    (path : FilesystemPath)
    (files : FileSystem)
    (accounts : List AccountConfiguration)
    (configuration : McpHostConfiguration) :
    (AllOrNothing path (AccountRepository.text library accounts) files
          (AccountRepository.save library outcome path accounts files) ↔
        ¬ TruncatedAtClose outcome
          (AccountRepository.text library accounts)) ∧
      (AllOrNothing path
          (McpHostConfigurationRepository.text library configuration)
          files
          (McpHostConfigurationRepository.save library outcome path
            configuration files) ↔
        ¬ TruncatedAtClose outcome
          (McpHostConfigurationRepository.text library
            configuration)) := by
  rw [accountRepository_save_eq, mcpHostConfigurationRepository_save_eq]
  exact ⟨allOrNothing_saveThrough_iff .., allOrNothing_saveThrough_iff ..⟩

/-- The disk fills up between the last check and the end of the stream. -/
def diskFullAtClose : ReplacementOutcome where
  opened := true
  drained := 0
  streamed := true
  flushed := 0
  renameFailure := none

/-- A library that writes the document of an empty account list. -/
def emptyAccountsLibrary : DocumentLibrary where
  parse _ := .error .parseError
  dump _ := .ok []
  dumpIndented _ _ :=
    .ok (bytes
      "\x7b\n  \"accounts\": [],\n  \"schema_version\": 1\n\x7d")
  floatToInt64 _ := 0
  floatToUInt32 _ := 0
  floatToInt32 _ := 0
  floatToUInt16 _ := 0
  floatToUInt64 _ := 0

/-- Saving an empty account list on a full disk empties the file. -/
theorem save_truncated :
    ¬ ∀ (library : DocumentLibrary)
        (outcome : ReplacementOutcome)
        (path : FilesystemPath)
        (files : FileSystem)
        (accounts : List AccountConfiguration)
        (configuration : McpHostConfiguration),
        AllOrNothing path (AccountRepository.text library accounts) files
            (AccountRepository.save library outcome path accounts
              files) ∧
          AllOrNothing path
            (McpHostConfigurationRepository.text library configuration)
            files
            (McpHostConfigurationRepository.save library outcome path
              configuration files) := by
  intro allOrNothing
  obtain ⟨saved, -⟩ :=
    allOrNothing emptyAccountsLibrary diskFullAtClose
      (bytes "accounts.json") (fun _ => some (bytes "old")) [] {}
  rw [accountRepository_save_eq, allOrNothing_saveThrough_iff] at saved
  apply saved
  exact ⟨⟨rfl, rfl, rfl⟩, _, rfl, by decide⟩

end TgGate
