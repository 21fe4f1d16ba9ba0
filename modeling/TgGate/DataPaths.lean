import TgGate.DirectoryLocations
import TgGate.Library.PathStack

namespace TgGate

open Library

/-!
# Data paths stay under data

The parser accepts a data directory exactly if its components, processed from
the left, never leave the starting directory and end at or below `data`.
-/

namespace AccountRepository

/-- A relative path whose components end at `data` or below. -/
structure StaysUnderData (path : FilesystemPath) : Prop where
  nonempty : path ≠ []
  relative : FilesystemPath.isAbsolute path = false
  processed :
    ∃ below,
      FilesystemPath.stackOf (FilesystemPath.components path) =
        some (bytes "data" :: below)

/-- The normal form of a safe path is its location, which begins with `data`. -/
theorem isSafeTdlibDataPath_iff {path : FilesystemPath} :
    isSafeTdlibDataPath path = true ↔ StaysUnderData path := by
  constructor
  · intro safe
    obtain ⟨start, inside⟩ := dataLocation_of_isSafeTdlibDataPath safe
    unfold isSafeTdlibDataPath at safe
    split at safe
    · cases safe
    · next accepted =>
        simp only [Bool.or_eq_true, List.isEmpty_iff, not_or,
          Bool.not_eq_true] at accepted
        obtain ⟨below, shape⟩ := List.head?_eq_some_iff.mp start
        refine ⟨accepted.1, accepted.2, below, ?_⟩
        rw [FilesystemPath.stackOf_eq_some_iff, ← shape]
        exact ⟨rfl, inside⟩
  · intro stays
    obtain ⟨below, processed⟩ := stays.processed
    obtain ⟨location, inside⟩ :=
      FilesystemPath.stackOf_eq_some_iff.mp processed
    have notDot : bytes "data" :: below ≠ [FilesystemPath.dot] := by
      intro same
      exact absurd (List.cons.inj same).1 (by decide)
    have notEmpty : path.isEmpty = false := by
      simpa using stays.nonempty
    unfold isSafeTdlibDataPath
    simp only [notEmpty, stays.relative,
      FilesystemPath.lexicallyNormal_eq_resolve, location]
    simp [notDot, inside]

/-- All data directories of acceptable accounts are safe. -/
theorem isSafeTdlibDataPath_of_acceptableAfter
    {identifiers dataDirectories : List Bytes}
    {accounts : List AccountConfiguration}
    (acceptable : AcceptableAfter identifiers dataDirectories accounts) :
    ∀ directory ∈ directories accounts,
      isSafeTdlibDataPath directory = true := by
  induction accounts generalizing identifiers dataDirectories with
  | nil =>
      simp [directories]
  | cons account rest inductionHypothesis =>
      rcases acceptable with ⟨accepted, restAcceptable⟩
      simp only [accountIsAcceptable, Bool.and_eq_true] at accepted
      rcases accepted with ⟨⟨⟨⟨-, database⟩, files⟩, -⟩, -⟩
      intro directory member
      have shape :
          directories (account :: rest) =
            account.databaseDirectory :: account.filesDirectory ::
              directories rest :=
        rfl
      rw [shape, List.mem_cons, List.mem_cons] at member
      rcases member with rfl | rfl | inRest
      · exact database
      · exact files
      · exact inductionHypothesis restAcceptable directory inRest

/--
A path is safe exactly if it stays under `data`, and so does every directory
that an accepted document names.
-/
theorem dataPaths_stayUnderData :
    (∀ path,
        isSafeTdlibDataPath path = true ↔ StaysUnderData path) ∧
      ∀ (library : DocumentLibrary)
        (document : Json)
        (accounts : List AccountConfiguration),
        parse library document = .ok accounts →
        ∀ directory ∈ directories accounts,
          StaysUnderData directory := by
  constructor
  · intro path
    exact isSafeTdlibDataPath_iff
  · intro library document accounts parsed directory member
    exact isSafeTdlibDataPath_iff.mp
      (isSafeTdlibDataPath_of_acceptableAfter
        (acceptable_of_parse parsed) directory member)

/-- The directories of a document with one account. -/
theorem dataPaths_stayUnderData_oneAccount :
    ∀ directory ∈
      directories [oneAccountParsed (bytes "data/a") (bytes "data/b")],
      StaysUnderData directory := by
  have parsed :
      parse (readingLibrary .null)
          (oneAccount (bytes "data/a") (bytes "data/b")) =
        .ok [oneAccountParsed (bytes "data/a") (bytes "data/b")] := by
    decide +kernel
  exact dataPaths_stayUnderData.2 _ _ _ parsed

/-- Leaving `data` and coming back is accepted, leaving for good is not. -/
example :
    isSafeTdlibDataPath (bytes "./data/../x/..//data/a/") = true ∧
      isSafeTdlibDataPath (bytes "data/../../data") = false := by
  decide +kernel

end AccountRepository

end TgGate
