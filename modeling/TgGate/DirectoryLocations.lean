import TgGate.AccountDocuments
import TgGate.Library.PathResolution

namespace TgGate

open Library

/-!
# Where the data directories are

The parser judges the safety of a data directory by its normal form, but it
compares the directories of a document as `generic_string` spells them, which
joins repeated separators and does nothing else.  Two other spellings of one
location are therefore accepted for two databases.
-/

namespace AccountRepository

/-- The location a data directory leads to. -/
def dataLocation (directory : FilesystemPath) : List Bytes :=
  FilesystemPath.resolve (FilesystemPath.components directory)

/-- The data directories are pairwise distinct locations. -/
def DistinctLocations (accounts : List AccountConfiguration) : Prop :=
  ((directories accounts).map dataLocation).Nodup

/-- Two spellings differ only in components without effect. -/
def SpellsAlike (first second : FilesystemPath) : Prop :=
  FilesystemPath.Respells
    (FilesystemPath.components first) (FilesystemPath.components second)

/-- A safe data directory leads to a location below `data`. -/
theorem dataLocation_of_isSafeTdlibDataPath
    {directory : FilesystemPath}
    (safe : isSafeTdlibDataPath directory = true) :
    (dataLocation directory).head? = some (bytes "data") ∧
      FilesystemPath.dotDot ∉ dataLocation directory := by
  unfold isSafeTdlibDataPath at safe
  split at safe
  · cases safe
  · rw [FilesystemPath.lexicallyNormal_eq_resolve] at safe
    dsimp only at safe
    by_cases empty :
        FilesystemPath.resolve (FilesystemPath.components directory) = []
    · rw [if_pos empty, if_pos rfl] at safe
      cases safe
    · rw [if_neg empty] at safe
      split at safe
      · cases safe
      · split at safe
        · cases safe
        next inside =>
          exact ⟨of_decide_eq_true safe, inside⟩

/-- The directories of an accepted document are spelled differently. -/
theorem nodup_genericDirectories_of_parse
    {library : DocumentLibrary}
    {document : Json}
    {accounts : List AccountConfiguration}
    (parsed : parse library document = .ok accounts) :
    (genericDirectories accounts).Nodup :=
  (nodup_genericDirectories_of_acceptableAfter
    (acceptable_of_parse parsed)).1

/--
The data directories of an accepted document are pairwise distinct locations
exactly if no two different generic spellings of it differ only in components
without effect.
-/
theorem distinctLocations_iff
    (library : DocumentLibrary)
    (document : Json)
    (accounts : List AccountConfiguration)
    (parsed : parse library document = .ok accounts) :
    DistinctLocations accounts ↔
      (directories accounts).Pairwise fun first second =>
        first.genericString ≠ second.genericString →
        ¬SpellsAlike first second := by
  have spelled := nodup_genericDirectories_of_parse parsed
  unfold genericDirectories at spelled
  unfold DistinctLocations
  rw [List.Nodup, List.pairwise_map] at spelled ⊢
  constructor
  · intro distinct
    refine distinct.imp ?_
    intro first second apart _ alike
    exact apart (FilesystemPath.respells_iff.mp alike)
  · intro unlike
    refine unlike.imp₂ ?_ spelled
    intro first second apart different same
    exact apart different (FilesystemPath.respells_iff.mpr same)

/-- A document with one account and the given data directories. -/
def oneAccount (database files : Bytes) : Json :=
  .ofMembers [
    (bytes "schema_version", .numberUnsigned 1),
    (bytes "accounts", .array [.ofMembers [
      (bytes "id", .string (bytes "work")),
      (bytes "display_name", .string (bytes "Work")),
      (bytes "database_directory", .string database),
      (bytes "files_directory", .string files)
    ]])
  ]

/-- The account of that document. -/
def oneAccountParsed (database files : Bytes) : AccountConfiguration where
  id := bytes "work"
  displayName := bytes "Work"
  databaseDirectory := database
  filesDirectory := files

theorem distinctLocations_iff_oneAccount :
    DistinctLocations
        [oneAccountParsed (bytes "data/a") (bytes "data//b")] ↔
      (directories
        [oneAccountParsed (bytes "data/a") (bytes "data//b")]).Pairwise
          fun first second =>
            first.genericString ≠ second.genericString →
            ¬SpellsAlike first second := by
  have parsed :
      parse (readingLibrary .null)
          (oneAccount (bytes "data/a") (bytes "data//b")) =
        .ok [oneAccountParsed (bytes "data/a") (bytes "data//b")] := by
    decide +kernel
  exact distinctLocations_iff _ _ _ parsed

/-- A repeated separator does not make another directory. -/
example :
    parse (readingLibrary .null)
        (oneAccount (bytes "data/a") (bytes "data//a")) =
      .error (.rejected
        (bytes ("Every account needs unique safe data directories " ++
          "and a non-negative api_id"))) := by
  decide +kernel

/-- One location is accepted under two spellings. -/
theorem parse_oneAccount_twice :
    ¬ ∀ (library : DocumentLibrary)
        (document : Json)
        (accounts : List AccountConfiguration),
        parse library document = .ok accounts →
        DistinctLocations accounts := by
  intro distinct
  have parsed :
      parse (readingLibrary .null)
          (oneAccount (bytes "data/a") (bytes "data/./a")) =
        .ok [oneAccountParsed (bytes "data/a") (bytes "data/./a")] := by
    decide +kernel
  have shared :
      ¬ ((directories
          [oneAccountParsed (bytes "data/a") (bytes "data/./a")]).map
            dataLocation).Nodup := by
    decide +kernel
  exact shared (distinct _ _ _ parsed)

end AccountRepository

end TgGate
