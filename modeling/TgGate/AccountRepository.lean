import TgGate.Library.FilesystemPath
import TgGate.Library.FileReplacement
import TgGate.Library.Hex
import TgGate.Library.JsonDocument
import TgGate.SecretStorage

namespace TgGate

open Library

/-!
# The account configuration

`AccountRepository` reads and writes `accounts.json` and converts between the
protected secrets it holds and their plain texts.  A protected secret is the
hexadecimal text of what DPAPI returned; each kind of secret of each account
has a purpose of its own.
-/

/-- One configured Telegram account. -/
structure AccountConfiguration where
  id : Bytes
  displayName : Bytes
  databaseDirectory : FilesystemPath
  filesDirectory : FilesystemPath
  apiId : Int32 := 0
  apiHashDpapi : Bytes := []
  databaseKeyDpapi : Bytes := []
  deriving DecidableEq

namespace AccountRepository

/-- `dpapi_purpose`. -/
def dpapiPurpose (accountId : Bytes) : Bytes :=
  bytes "tggate/account/" ++ accountId ++ bytes "/api_hash"

/-- `database_key_dpapi_purpose`. -/
def databaseKeyDpapiPurpose (accountId : Bytes) : Bytes :=
  bytes "tggate/account/" ++ accountId ++ bytes "/database_key"

/-- A data directory is relative and stays below `data`. -/
def isSafeTdlibDataPath (path : FilesystemPath) : Bool :=
  if path.isEmpty || FilesystemPath.isAbsolute path then
    false
  else
    let normalized := FilesystemPath.lexicallyNormal path
    if normalized = [FilesystemPath.dot] then
      false
    else if FilesystemPath.dotDot ∈ normalized then
      false
    else
      normalized.head? = some (bytes "data")

/-- The fields of an account entry. -/
def accountFields : List Bytes := [
  bytes "id",
  bytes "display_name",
  bytes "database_directory",
  bytes "files_directory",
  bytes "api_id",
  bytes "api_hash_dpapi",
  bytes "database_key_dpapi"
]

/-- `has_only_account_fields`. -/
def hasOnlyAccountFields (value : Json) : Bool :=
  value.keys.all (· ∈ accountFields)

/-- The fields of the document. -/
def rootFields : List Bytes :=
  [bytes "schema_version", bytes "accounts"]

/-- Read the fields of one entry. -/
def readAccount
    (library : DocumentLibrary)
    (value : Json) : Except JsonException AccountConfiguration := do
  let id ← value.stringAt (bytes "id")
  let displayName ← value.stringAt (bytes "display_name")
  let databaseDirectory ← value.stringAt (bytes "database_directory")
  let filesDirectory ← value.stringAt (bytes "files_directory")
  let apiId ← value.valueOr (bytes "api_id") (Json.getInt32 library) 0
  let apiHashDpapi ←
    value.valueOr (bytes "api_hash_dpapi") Json.getString []
  let databaseKeyDpapi ←
    value.valueOr (bytes "database_key_dpapi") Json.getString []
  return {
    id := id
    displayName := displayName
    databaseDirectory := databaseDirectory
    filesDirectory := filesDirectory
    apiId := apiId
    apiHashDpapi := apiHashDpapi
    databaseKeyDpapi := databaseKeyDpapi
  }

/-- What an entry must satisfy next to the entries before it. -/
def accountIsAcceptable
    (identifiers dataDirectories : List Bytes)
    (account : AccountConfiguration) : Bool :=
  !account.id.isEmpty && account.id ∉ identifiers &&
    !account.databaseDirectory.isEmpty &&
    !account.filesDirectory.isEmpty &&
    0 ≤ account.apiId &&
    isSafeTdlibDataPath account.databaseDirectory &&
    isSafeTdlibDataPath account.filesDirectory &&
    account.databaseDirectory.genericString ∉ dataDirectories &&
    account.filesDirectory.genericString ∉
      account.databaseDirectory.genericString :: dataDirectories

/-- The loop over the entries. -/
def parseAccounts
    (library : DocumentLibrary)
    (identifiers dataDirectories : List Bytes) :
    List Json → Except ParseFailure (List AccountConfiguration)
  | [] => .ok []
  | value :: rest => do
      ParseFailure.require
        (value.isObject && !value.contains (bytes "api_hash") &&
          hasOnlyAccountFields value)
        (bytes "Account contains an unsupported or plaintext secret field")
      let account ← ParseFailure.mayThrow (readAccount library value)
      ParseFailure.require
        (accountIsAcceptable identifiers dataDirectories account)
        (bytes ("Every account needs unique safe data directories " ++
          "and a non-negative api_id"))
      let parsed ←
        parseAccounts library (account.id :: identifiers)
          (account.filesDirectory.genericString ::
            account.databaseDirectory.genericString :: dataDirectories)
          rest
      return account :: parsed

/-- The member `accounts` is an array. -/
def hasAccountsArray (document : Json) : Bool :=
  match document.find? (bytes "accounts") with
  | some accounts => accounts.isArray
  | none => false

/-- `AccountRepository::parse`. -/
def parse
    (library : DocumentLibrary)
    (document : Json) :
    Except ParseFailure (List AccountConfiguration) := do
  let malformed :=
    bytes ("Account configuration requires schema_version 1 " ++
      "and an accounts array")
  ParseFailure.require document.isObject malformed
  let schemaVersion ←
    ParseFailure.mayThrow
      (document.valueOr (bytes "schema_version")
        (Json.getInt32 library) 0)
  ParseFailure.require (schemaVersion = 1) malformed
  ParseFailure.require (hasAccountsArray document) malformed
  ParseFailure.require (document.keys.all (· ∈ rootFields))
    (bytes "Unknown field in account configuration")
  ParseFailure.rejectThrown
      (bytes "Invalid account configuration field type") do
    let accounts ← ParseFailure.mayThrow (document.atKey (bytes "accounts"))
    parseAccounts library [] [] accounts.elements

/-- `AccountRepository::load` of a file that may be missing. -/
def load
    (library : DocumentLibrary)
    (content : Option Bytes) :
    Except ParseFailure (List AccountConfiguration) :=
  match content with
  | none =>
      .error (.rejected (bytes "Cannot open account configuration file"))
  | some text =>
      ParseFailure.rejectThrown
          (bytes "Account configuration file is not valid JSON") do
        let document ← ParseFailure.mayThrow (library.parse text)
        parse library document

/-- The entry written for an account. -/
def accountDocument (account : AccountConfiguration) : Json :=
  .ofMembers [
    (bytes "id", .string account.id),
    (bytes "display_name", .string account.displayName),
    (bytes "database_directory",
      .string account.databaseDirectory.genericString),
    (bytes "files_directory",
      .string account.filesDirectory.genericString),
    (bytes "api_id", .numberInteger account.apiId.toInt64),
    (bytes "api_hash_dpapi", .string account.apiHashDpapi),
    (bytes "database_key_dpapi", .string account.databaseKeyDpapi)
  ]

/-- The document that `save` builds. -/
def document (accounts : List AccountConfiguration) : Json :=
  .ofMembers [
    (bytes "schema_version", .numberInteger 1),
    (bytes "accounts", .array (accounts.map accountDocument))
  ]

/-- The text that `save` writes. -/
def text
    (library : DocumentLibrary)
    (accounts : List AccountConfiguration) :
    Except JsonException Bytes := do
  let dumped ← library.dumpIndented 2 (document accounts)
  return dumped ++ bytes "\n"

/-- The error text of `save`. -/
def saveError : ReplacementError → Bytes
  | .cannotOpen => bytes "Cannot write temporary account configuration"
  | .cannotWrite => bytes "Cannot finish writing account configuration"
  | .cannotRename message =>
      bytes "Cannot atomically replace account configuration: " ++ message

/-- `AccountRepository::save`. -/
def save
    (library : DocumentLibrary)
    (outcome : ReplacementOutcome)
    (path : FilesystemPath)
    (accounts : List AccountConfiguration)
    (files : FileSystem) :
    Except JsonException (Except Bytes Unit) × FileSystem :=
  let (result, files) :=
    replaceFile outcome path (text library accounts) files
  (result.map (·.mapError saveError), files)

section Secrets

variable {World : Type}
variable (platform : Platform World)

/-- Why no API hash is returned. -/
inductive SecretFailure where
  | absent
  | capacityExceeded
  deriving Repr, DecidableEq

/-- `AccountRepository::protect_api_hash`. -/
def protectApiHash
    (accountId apiHash : Bytes)
    (world : World) : Option (Bytes × World) :=
  if accountId.isEmpty || apiHash.isEmpty then
    none
  else
    match platform.protect apiHash (dpapiPurpose accountId) world with
    | none => none
    | some (protectedBytes, world) =>
        some (hexEncode protectedBytes, world)

/-- `AccountRepository::unprotect_api_hash`. -/
def unprotectApiHash
    (accountId apiHashDpapi : Bytes) :
    Attempt World SecretFailure SecretBuffer := do
  Attempt.require (!accountId.isEmpty) .absent
  let protectedBytes ← Attempt.ofOption (hexDecode apiHashDpapi) .absent
  let plainBytes ←
    Attempt.orError
      (platform.unprotect protectedBytes (dpapiPurpose accountId))
      .absent
  Attempt.ofOption (SecretBuffer.ofBytes? plainBytes) .capacityExceeded

/-- `AccountRepository::unprotect_database_key`. -/
def unprotectDatabaseKey
    (accountId databaseKeyDpapi : Bytes)
    (world : World) : Option (SecretBuffer × World) :=
  if accountId.isEmpty then
    none
  else
    match hexDecode databaseKeyDpapi with
    | none => none
    | some protectedBytes =>
        match platform.unprotect protectedBytes
            (databaseKeyDpapiPurpose accountId) world with
        | none => none
        | some (plainBytes, world) =>
            if sized : plainBytes.length = 32 then
              some (⟨plainBytes, by rw [sized]; decide⟩, world)
            else
              none

/-- A database that exists must not be given a new key. -/
def requireAbsent
    (directory : FilesystemPath)
    (error : Bytes) : Attempt World Bytes Unit :=
  fun world =>
    Attempt.require (!platform.pathExists directory world) error world

/-- `AccountRepository::ensure_database_key`. -/
def ensureDatabaseKey
    (account : AccountConfiguration) :
    Attempt World Bytes AccountConfiguration := do
  Attempt.require (!account.id.isEmpty)
    (bytes "Cannot create a database key for an account without an id")
  if !account.databaseKeyDpapi.isEmpty then
    let _ ←
      Attempt.orError
        (unprotectDatabaseKey platform account.id account.databaseKeyDpapi)
        (bytes ("TDLib database key cannot be decrypted for this " ++
          "Windows user and computer"))
    return account
  else
    requireAbsent platform account.databaseDirectory
      (bytes ("TDLib database directory already exists but its " ++
        "protected database key is absent"))
    let key ←
      Attempt.orError (platform.randomBytes 32)
        (bytes "Windows CSPRNG failed while creating the TDLib database key")
    let protectedKey ←
      Attempt.orError
        (platform.protect key (databaseKeyDpapiPurpose account.id))
        (bytes ("Windows DPAPI failed while protecting the TDLib " ++
          "database key"))
    return { account with databaseKeyDpapi := hexEncode protectedKey }

end Secrets

end AccountRepository

end TgGate
