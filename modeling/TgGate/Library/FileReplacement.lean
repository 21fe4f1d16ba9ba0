import Mathlib.Data.List.TakeDrop
import Mathlib.Logic.Function.Basic
import TgGate.Library.ByteString

namespace TgGate.Library

/-!
# Replacing a file through a temporary one

The new content goes to a temporary file, which is then renamed over the
target.  `std::ofstream` buffers: a part of the content reaches the file while
it is streamed and the rest when the stream is destroyed.  The stream state
shows failures of the first part only; the destructor discards its own.
-/

/-- The files by path. -/
abbrev FileSystem := Bytes → Option Bytes

/-- What the operating system does in the steps of one replacement. -/
structure ReplacementOutcome where
  /-- The temporary file is opened and truncated. -/
  opened : Bool
  /-- How many bytes reach the file while they are streamed. -/
  drained : Nat
  /-- The stream is still good after everything was streamed. -/
  streamed : Bool
  /-- How many more bytes reach the file when the stream is destroyed. -/
  flushed : Nat
  /-- The message of a failing rename. -/
  renameFailure : Option Bytes

/-- Why a replacement reports failure. -/
inductive ReplacementError where
  | cannotOpen
  | cannotWrite
  | cannotRename (message : Bytes)
  deriving Repr, DecidableEq

/-- The temporary file next to the target. -/
def temporaryPath (path : Bytes) : Bytes :=
  path ++ bytes ".tmp"

/-- The content of the temporary file after the stream is destroyed. -/
def ReplacementOutcome.stored
    (outcome : ReplacementOutcome)
    (content : Bytes) : Bytes :=
  content.take (outcome.drained + outcome.flushed)

/-- Write a file. -/
def FileSystem.write
    (files : FileSystem)
    (path content : Bytes) : FileSystem :=
  Function.update files path (some content)

/-- Move a file over another one. -/
def FileSystem.rename
    (files : FileSystem)
    (source target : Bytes) : FileSystem :=
  Function.update (Function.update files target (files source)) source none

/--
The replacement.  The content is computed after the temporary file has been
opened, and computing it may throw.
-/
def replaceFile
    {Thrown : Type}
    (outcome : ReplacementOutcome)
    (path : Bytes)
    (content : Except Thrown Bytes)
    (files : FileSystem) :
    Except Thrown (Except ReplacementError Unit) × FileSystem :=
  let temporary := temporaryPath path
  if outcome.opened = false then
    (.ok (.error .cannotOpen), files)
  else
    match content with
    | .error thrown => (.error thrown, files.write temporary [])
    | .ok content =>
        let files := files.write temporary (outcome.stored content)
        if outcome.streamed = false then
          (.ok (.error .cannotWrite), files)
        else
          match outcome.renameFailure with
          | some message => (.ok (.error (.cannotRename message)), files)
          | none => (.ok (.ok ()), files.rename temporary path)

/-- Every step whose failure is reported succeeds. -/
def ReplacementOutcome.Reported (outcome : ReplacementOutcome) : Prop :=
  outcome.opened = true ∧ outcome.streamed = true ∧
    outcome.renameFailure = none

theorem temporaryPath_ne (path : Bytes) : temporaryPath path ≠ path := by
  intro same
  have sameLength := congrArg List.length same
  have suffixLength : (bytes ".tmp").length = 4 := by decide
  simp only [temporaryPath, List.length_append] at sameLength
  omega

/-- Writing the temporary file leaves the target alone. -/
theorem write_temporaryPath
    (files : FileSystem)
    (path content : Bytes) :
    files.write (temporaryPath path) content path = files path :=
  Function.update_of_ne (temporaryPath_ne path).symm _ _

/-- A rename gives the target the content of the temporary file. -/
theorem rename_temporaryPath
    (files : FileSystem)
    (path content : Bytes) :
    (files.write (temporaryPath path) content).rename
        (temporaryPath path) path path =
      some content := by
  unfold FileSystem.rename
  rw [Function.update_of_ne (temporaryPath_ne path).symm,
    Function.update_self]
  exact Function.update_self _ _ _

section Replacement

variable {Thrown : Type}
variable (outcome : ReplacementOutcome)
variable (path : Bytes)
variable (files : FileSystem)

/-- A replacement returns success when no reported step fails. -/
theorem replaceFile_of_reported
    (reported : outcome.Reported)
    (content : Bytes) :
    replaceFile outcome path (.ok content : Except Thrown Bytes) files =
      (.ok (.ok ()),
        (files.write (temporaryPath path)
          (outcome.stored content)).rename (temporaryPath path) path) := by
  rcases reported with ⟨opened, streamed, renamed⟩
  simp [replaceFile, opened, streamed, renamed]

/-- In every other case the target keeps its content. -/
theorem replaceFile_of_not_reported
    (unreported : ¬ outcome.Reported)
    (content : Except Thrown Bytes) :
    (replaceFile outcome path content files).1 ≠ .ok (.ok ()) ∧
      (replaceFile outcome path content files).2 path = files path := by
  unfold replaceFile
  by_cases opened : outcome.opened = false
  · simp [opened]
  · simp only [opened]
    cases content with
    | error thrown =>
        simp [write_temporaryPath]
    | ok content =>
        by_cases streamed : outcome.streamed = false
        · simp [streamed, write_temporaryPath]
        · simp only [streamed]
          cases renamed : outcome.renameFailure with
          | some message =>
              simp [write_temporaryPath]
          | none =>
              refine absurd ⟨?_, ?_, renamed⟩ unreported
              · simpa using opened
              · simpa using streamed

/-- A replacement changes the file and its temporary file only. -/
theorem replaceFile_of_ne
    {other : Bytes}
    (different : other ≠ path)
    (notTemporary : other ≠ temporaryPath path)
    (content : Except Thrown Bytes) :
    (replaceFile outcome path content files).2 other = files other := by
  have written (content : Bytes) :
      files.write (temporaryPath path) content other = files other :=
    Function.update_of_ne notTemporary _ _
  have renamed (content : Bytes) :
      (files.write (temporaryPath path) content).rename
          (temporaryPath path) path other =
        files other := by
    rw [FileSystem.rename, Function.update_of_ne notTemporary,
      Function.update_of_ne different]
    exact written content
  unfold replaceFile
  cases outcome.opened with
  | false =>
      rfl
  | true =>
      cases content with
      | error thrown =>
          exact written []
      | ok content =>
          cases outcome.streamed with
          | false =>
              exact written _
          | true =>
              cases outcome.renameFailure with
              | some message =>
                  exact written _
              | none =>
                  exact renamed _

end Replacement

/-- All of the content reached the file. -/
theorem stored_eq_iff
    {outcome : ReplacementOutcome}
    {content : Bytes} :
    outcome.stored content = content ↔
      content.length ≤ outcome.drained + outcome.flushed :=
  List.take_eq_self_iff content

end TgGate.Library
