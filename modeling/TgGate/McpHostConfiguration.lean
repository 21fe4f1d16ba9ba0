import TgGate.Library.FilesystemPath
import TgGate.Library.FileReplacement
import TgGate.Library.Hex
import TgGate.Library.JsonDocument
import TgGate.Library.KeyedList
import TgGate.Policy
import TgGate.SecretStorage

namespace TgGate

open Library

/-!
# The configuration of the MCP host

`McpHostConfigurationRepository` reads and writes `mcp-host.json` and manages
the bearer tokens of the client profiles.  The current schema stores one
protected token for each client; the legacy schema stores a single one, which
is kept in memory until it is bound to the only profile.
-/

/-- The protected bearer token of one client. -/
structure McpClientCredential where
  clientId : Bytes
  bearerTokenDpapi : Bytes
  deriving DecidableEq

/-- The settings of the host and its credentials. -/
structure McpHostConfiguration where
  enabled : Bool := false
  bindAddress : Bytes := bytes "127.0.0.1"
  port : UInt16 := 8765
  maxRequestBodyBytes : UInt64 := 1024 * 1024
  maximumConnections : UInt64 := 16
  allowedOrigins : List Bytes := []
  clientCredentials : List McpClientCredential := []
  legacyBearerTokenDpapi : Bytes := []
  deriving DecidableEq

namespace McpHostConfigurationRepository

/-- The purpose of every bearer token. -/
def kTokenPurpose : Bytes := bytes "tggate/mcp-host/bearer-token"

/-- `is_loopback`. -/
def isLoopback (value : Bytes) : Bool :=
  value = bytes "127.0.0.1" || value = bytes "::1"

/-- The fields that both schemas have. -/
def commonFields : List Bytes := [
  bytes "schema_version",
  bytes "enabled",
  bytes "bind_address",
  bytes "port",
  bytes "max_request_body_bytes",
  bytes "maximum_connections",
  bytes "allowed_origins"
]

/-- The fields of the current schema. -/
def v2Fields : List Bytes :=
  commonFields ++ [bytes "client_credentials"]

/-- The fields of the legacy schema. -/
def v1Fields : List Bytes :=
  commonFields ++ [bytes "bearer_token_dpapi"]

/-- Read the settings that both schemas have. -/
def readSettings
    (library : DocumentLibrary)
    (document : Json) : Except JsonException McpHostConfiguration := do
  let enabled ←
    document.valueOr (bytes "enabled") Json.getBoolean false
  let bindAddress ←
    document.valueOr (bytes "bind_address") Json.getString
      (bytes "127.0.0.1")
  let port ←
    document.valueOr (bytes "port") (Json.getUInt16 library) 8765
  let maxRequestBodyBytes ←
    document.valueOr (bytes "max_request_body_bytes")
      (Json.getUInt64 library) (1024 * 1024)
  let maximumConnections ←
    document.valueOr (bytes "maximum_connections")
      (Json.getUInt64 library) 16
  let allowedOrigins ←
    document.valueOr (bytes "allowed_origins") Json.getStrings []
  return {
    enabled := enabled
    bindAddress := bindAddress
    port := port
    maxRequestBodyBytes := maxRequestBodyBytes
    maximumConnections := maximumConnections
    allowedOrigins := allowedOrigins
  }

/-- The host listens locally and bounds its requests. -/
def settingsAreAcceptable (parsed : McpHostConfiguration) : Bool :=
  isLoopback parsed.bindAddress && parsed.port ≠ 0 &&
    parsed.maxRequestBodyBytes ≠ 0 &&
    parsed.maxRequestBodyBytes ≤ 16 * 1024 * 1024 &&
    parsed.maximumConnections ≠ 0 && parsed.maximumConnections ≤ 128

/-- A member is a string. -/
def memberIsString (value : Json) (key : Bytes) : Bool :=
  match value.find? key with
  | some member => member.isString
  | none => false

/-- An entry has its two fields, both strings, and no others. -/
def isCredentialEntry (value : Json) : Bool :=
  value.isObject && value.size = 2 &&
    memberIsString value (bytes "client_id") &&
    memberIsString value (bytes "bearer_token_dpapi")

/-- The loop over the credential entries. -/
def parseCredentials (clientIds : List Bytes) :
    List Json → Except ParseFailure (List McpClientCredential)
  | [] => .ok []
  | value :: rest => do
      ParseFailure.require (isCredentialEntry value)
        (bytes ("MCP client credentials require client_id and " ++
          "bearer_token_dpapi only"))
      let clientId ←
        ParseFailure.mayThrow (value.stringAt (bytes "client_id"))
      ParseFailure.require (!clientId.isEmpty && clientId ∉ clientIds)
        (bytes "MCP client credential ids must be unique and non-empty")
      let bearerTokenDpapi ←
        ParseFailure.mayThrow (value.stringAt (bytes "bearer_token_dpapi"))
      let parsed ← parseCredentials (clientId :: clientIds) rest
      return {
        clientId := clientId
        bearerTokenDpapi := bearerTokenDpapi
      } :: parsed

/-- The credentials of the current schema. -/
def parseClientCredentials
    (document : Json) :
    Except ParseFailure (List McpClientCredential) := do
  let credentials :=
    (document.find? (bytes "client_credentials")).getD .null
  ParseFailure.require credentials.isArray
    (bytes "MCP host configuration requires a client_credentials array")
  parseCredentials [] credentials.elements

/-- The token of the legacy schema. -/
def parseLegacyToken
    (document : Json) : Except ParseFailure Bytes := do
  let legacyToken ←
    ParseFailure.mayThrow
      (document.valueOr (bytes "bearer_token_dpapi") Json.getString [])
  ParseFailure.require
    (legacyToken.isEmpty ||
      memberIsString document (bytes "bearer_token_dpapi"))
    (bytes "Invalid legacy MCP bearer token field type")
  return legacyToken

/-- `McpHostConfigurationRepository::parse`. -/
def parse
    (library : DocumentLibrary)
    (document : Json) : Except ParseFailure McpHostConfiguration := do
  let unversioned :=
    bytes ("MCP host configuration requires schema_version 2 " ++
      "(or legacy schema_version 1)")
  ParseFailure.require document.isObject unversioned
  let schemaVersion ←
    ParseFailure.mayThrow
      (document.valueOr (bytes "schema_version")
        (Json.getInt32 library) 0)
  ParseFailure.require (schemaVersion = 1 || schemaVersion = 2) unversioned
  let fields := if schemaVersion = 2 then v2Fields else v1Fields
  ParseFailure.require (document.keys.all (· ∈ fields))
    (bytes ("MCP host configuration contains an unknown or " ++
      "plaintext secret field"))
  ParseFailure.rejectThrown
      (bytes "Invalid MCP host configuration field type") do
    let parsed ← ParseFailure.mayThrow (readSettings library document)
    ParseFailure.require (settingsAreAcceptable parsed)
      (bytes ("MCP host must use loopback, a valid port, and " ++
        "bounded request limits"))
    if schemaVersion = 1 then
      let legacyToken ← parseLegacyToken document
      return { parsed with legacyBearerTokenDpapi := legacyToken }
    else
      let credentials ← parseClientCredentials document
      return { parsed with clientCredentials := credentials }

/-- `McpHostConfigurationRepository::load` of a file that may be missing. -/
def load
    (library : DocumentLibrary)
    (content : Option Bytes) :
    Except ParseFailure McpHostConfiguration :=
  match content with
  | none =>
      .error (.rejected (bytes "Cannot open MCP host configuration"))
  | some text =>
      ParseFailure.rejectThrown
          (bytes "MCP host configuration is not valid JSON") do
        let document ← ParseFailure.mayThrow (library.parse text)
        parse library document

/-- The entry written for a credential. -/
def credentialDocument (credential : McpClientCredential) : Json :=
  .ofMembers [
    (bytes "client_id", .string credential.clientId),
    (bytes "bearer_token_dpapi", .string credential.bearerTokenDpapi)
  ]

/-- The document that `save` builds. -/
def document (configuration : McpHostConfiguration) : Json :=
  .ofMembers [
    (bytes "schema_version", .numberInteger 2),
    (bytes "enabled", .boolean configuration.enabled),
    (bytes "bind_address", .string configuration.bindAddress),
    (bytes "port",
      .numberUnsigned configuration.port.toUInt64),
    (bytes "max_request_body_bytes",
      .numberUnsigned configuration.maxRequestBodyBytes),
    (bytes "maximum_connections",
      .numberUnsigned configuration.maximumConnections),
    (bytes "allowed_origins",
      .array (configuration.allowedOrigins.map .string)),
    (bytes "client_credentials",
      .array (configuration.clientCredentials.map credentialDocument))
  ]

/-- The text that `save` writes. -/
def text
    (library : DocumentLibrary)
    (configuration : McpHostConfiguration) :
    Except JsonException Bytes := do
  let dumped ← library.dumpIndented 2 (document configuration)
  return dumped ++ bytes "\n"

/-- The error text of `save`. -/
def saveError : ReplacementError → Bytes
  | .cannotOpen => bytes "Cannot write temporary MCP host configuration"
  | .cannotWrite => bytes "Cannot finish writing MCP host configuration"
  | .cannotRename message =>
      bytes "Cannot atomically replace MCP host configuration: " ++ message

/-- `McpHostConfigurationRepository::save`. -/
def save
    (library : DocumentLibrary)
    (outcome : ReplacementOutcome)
    (path : FilesystemPath)
    (configuration : McpHostConfiguration)
    (files : FileSystem) :
    Except JsonException (Except Bytes Unit) × FileSystem :=
  let (result, files) :=
    replaceFile outcome path (text library configuration) files
  (result.map (·.mapError saveError), files)

/-- `find_client_credential`. -/
def findClientCredential
    (configuration : McpHostConfiguration)
    (clientId : Bytes) : Option McpClientCredential :=
  configuration.clientCredentials.find? (·.clientId = clientId)

section Credentials

variable {World : Type}
variable (platform : Platform World)

/-- A token is 64 hexadecimal digits. -/
def isBearerToken (plainBytes : Bytes) : Bool :=
  plainBytes.length = 64 && plainBytes.all isXDigit

/-- `unprotect_bearer_token`. -/
def unprotectBearerToken
    (protectedToken : Bytes)
    (world : World) : Option (SecretBuffer × World) :=
  match hexDecode protectedToken with
  | none => none
  | some protectedBytes =>
      match platform.unprotect protectedBytes kTokenPurpose world with
      | none => none
      | some (plainBytes, world) =>
          if isBearerToken plainBytes then
            (SecretBuffer.ofBytes? plainBytes).map (·, world)
          else
            none

/-- `generate_protected_bearer_token`. -/
def generateProtectedBearerToken
    (world : World) : Option (Bytes × World) :=
  match platform.randomBytes 32 world with
  | none => none
  | some (tokenBytes, world) =>
      match platform.protect (hexEncode tokenBytes) kTokenPurpose world with
      | none => none
      | some (protectedToken, world) =>
          some (hexEncode protectedToken, world)

/-- Bind a legacy token to the only profile. -/
def migrateLegacyToken
    (profiles : List McpClientProfile)
    (configuration : McpHostConfiguration) :
    Attempt World Bytes McpHostConfiguration :=
  if configuration.legacyBearerTokenDpapi.isEmpty then
    pure configuration
  else
    match profiles with
    | [profile] => do
        let _ ←
          Attempt.orError
            (unprotectBearerToken platform
              configuration.legacyBearerTokenDpapi)
            (bytes ("Legacy MCP bearer token cannot be decrypted for " ++
              "this Windows user and computer"))
        return { configuration with
          clientCredentials := configuration.clientCredentials ++ [{
            clientId := profile.id
            bearerTokenDpapi := configuration.legacyBearerTokenDpapi
          }]
          legacyBearerTokenDpapi := [] }
    | _ =>
        Attempt.ofOption none
          (bytes ("Legacy MCP configuration has one shared bearer " ++
            "token; configure per-client credentials explicitly"))

/-- Every credential belongs to a profile and can be decrypted. -/
def checkCredentials
    (profiles : List McpClientProfile) :
    List McpClientCredential → Attempt World Bytes Unit
  | [] => pure ()
  | credential :: rest => do
      Attempt.require (profiles.any (·.id = credential.clientId))
        (bytes "MCP credential references an unknown client profile")
      let undecryptable :=
        bytes ("MCP bearer token cannot be decrypted for this " ++
          "Windows user and computer")
      Attempt.require (!credential.bearerTokenDpapi.isEmpty) undecryptable
      let _ ←
        Attempt.orError
          (unprotectBearerToken platform credential.bearerTokenDpapi)
          undecryptable
      checkCredentials profiles rest

/-- Create the missing credentials, in the order of the profiles. -/
def createCredentials
    (configuration : McpHostConfiguration) :
    List McpClientProfile → Attempt World Bytes McpHostConfiguration
  | [] => pure configuration
  | profile :: rest =>
      if (findClientCredential configuration profile.id).isSome then
        createCredentials configuration rest
      else do
        let protectedToken ←
          Attempt.orError (generateProtectedBearerToken platform)
            (bytes ("Windows CSPRNG or DPAPI failed while creating an " ++
              "MCP bearer token"))
        createCredentials
          { configuration with
            clientCredentials := configuration.clientCredentials ++ [{
              clientId := profile.id
              bearerTokenDpapi := protectedToken
            }] }
          rest

/--
`ensure_client_credentials`.  Its callers discard the configuration that a
failing call leaves behind.
-/
def ensureClientCredentials
    (configuration : McpHostConfiguration)
    (profiles : List McpClientProfile) :
    Attempt World Bytes McpHostConfiguration := do
  let configuration ←
    migrateLegacyToken platform profiles configuration
  checkCredentials platform profiles configuration.clientCredentials
  createCredentials platform configuration profiles

/-- `regenerate_client_credential`. -/
def regenerateClientCredential
    (configuration : McpHostConfiguration)
    (clientId : Bytes) : Attempt World Bytes McpHostConfiguration := do
  Attempt.require (findClientCredential configuration clientId).isSome
    (bytes "MCP credential does not exist for this client")
  let protectedToken ←
    Attempt.orError (generateProtectedBearerToken platform)
      (bytes ("Windows CSPRNG or DPAPI failed while rotating the MCP " ++
        "bearer token"))
  return { configuration with
    clientCredentials :=
      modifyFirst (·.clientId = clientId)
        (fun credential =>
          { credential with bearerTokenDpapi := protectedToken })
        configuration.clientCredentials }

end Credentials

end McpHostConfigurationRepository

end TgGate
