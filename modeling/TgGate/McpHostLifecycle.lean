import TgGate.LocalMcpHttpService
import TgGate.McpHostConfiguration

namespace TgGate

open Library

/-!
# Starting and stopping the MCP host

`LocalMcpHttpService.start` loads the configuration, completes its credentials,
saves it when credentials were added, decrypts the token of every profile and
starts the HTTP host.  Every failure leaves the host stopped.
-/

/-- What is handed to the HTTP host. -/
structure HttpHostOptions where
  enabled : Bool
  bindAddress : Bytes
  port : UInt16
  maxRequestBodyBytes : UInt64
  maximumConnections : UInt64

/-- The state of the service between its calls. -/
structure McpHost where
  configuration : McpHostConfiguration := {}
  clients : List AuthenticatedClient := []
  running : Bool := false
  status : Bytes := bytes "MCP host is not started"

/-- What `start` returns, or throws. -/
abbrev StartResult := Except JsonException (Except Bytes Unit)

namespace McpHost

open McpHostConfigurationRepository

/-- What the request handler reads of the state. -/
def service (host : McpHost) : LocalMcpHttpService where
  allowedOrigins := host.configuration.allowedOrigins
  clients := host.clients

/-- The status while the host is listening begins with this text. -/
def listening : Bytes := bytes "MCP host is listening"

/-- `LocalMcpHttpService::stop`. -/
def stop (host : McpHost) : McpHost where
  configuration := {}
  clients := []
  running := false
  status :=
    if listening.isPrefixOf host.status then
      bytes "MCP host is not started"
    else
      host.status

/-- The options of the HTTP host. -/
def hostOptions (configuration : McpHostConfiguration) :
    HttpHostOptions where
  enabled := configuration.enabled
  bindAddress := configuration.bindAddress
  port := configuration.port
  maxRequestBodyBytes := configuration.maxRequestBodyBytes
  maximumConnections := configuration.maximumConnections

/-- The status of a running host. -/
def listeningStatus (configuration : McpHostConfiguration) : Bytes :=
  bytes "MCP host is listening on " ++ configuration.bindAddress ++
    bytes ":" ++ toDecimal configuration.port.toNat

/-- Decrypt the token of every profile, in order. -/
def collectClients
    {World : Type}
    (platform : Platform World)
    (configuration : McpHostConfiguration) :
    List McpClientProfile → Attempt World Bytes (List AuthenticatedClient)
  | [] => pure []
  | profile :: rest => do
      let credential ←
        Attempt.ofOption (findClientCredential configuration profile.id)
          (bytes "MCP client profile has no bearer credential")
      let token ←
        Attempt.orError
          (unprotectBearerToken platform credential.bearerTokenDpapi)
          (bytes ("MCP bearer token cannot be decrypted for this " ++
            "Windows user and computer"))
      let clients ← collectClients platform configuration rest
      return { profile := profile, bearerToken := token.content } :: clients

/-- Report an error through the result and the status. -/
def fail
    (host : McpHost)
    (error : Bytes)
    (files : FileSystem) : StartResult × FileSystem × McpHost :=
  (.ok (.error error), files, { host with status := error })

section Start

variable {World : Type}
variable (library : DocumentLibrary)
variable (platform : Platform World)
variable (saveOutcome : ReplacementOutcome)
variable (startHost : HttpHostOptions → Option Bytes)
variable (path : FilesystemPath)
variable (profiles : List McpClientProfile)

/-- Save the configuration if credentials were added to it. -/
def saveAdded
    (loaded ensured : McpHostConfiguration)
    (files : FileSystem) : StartResult × FileSystem :=
  if ensured.clientCredentials.length ≠ loaded.clientCredentials.length then
    save library saveOutcome path ensured files
  else
    (.ok (.ok ()), files)

/-- Take over the clients and start the HTTP host; an error is its own. -/
def launch
    (host : McpHost)
    (configuration : McpHostConfiguration)
    (clients : List AuthenticatedClient)
    (files : FileSystem) : StartResult × FileSystem × McpHost :=
  let host :=
    { host with configuration := configuration, clients := clients }
  match startHost (hostOptions configuration) with
  | some error => fail { host with clients := [] } error files
  | none =>
      (.ok (.ok ()), files,
        { host with
          running := true
          status := listeningStatus configuration })

/-- `start` after an enabled configuration was loaded. -/
def startEnabled
    (host : McpHost)
    (loaded : McpHostConfiguration)
    (files : FileSystem)
    (world : World) : StartResult × FileSystem × McpHost :=
  match ensureClientCredentials platform loaded profiles world with
  | .error error => host.fail error files
  | .ok (ensured, world) =>
      let (saved, files) :=
        saveAdded library saveOutcome path loaded ensured files
      match saved with
      | .error thrown => (.error thrown, files, host)
      | .ok (.error error) => host.fail error files
      | .ok (.ok ()) =>
          match collectClients platform ensured profiles world with
          | .error error => host.fail error files
          | .ok (clients, _) =>
              launch startHost host ensured clients files

/-- `LocalMcpHttpService::start`. -/
def start
    (host : McpHost)
    (files : FileSystem)
    (world : World) : StartResult × FileSystem × McpHost :=
  let host := host.stop
  match load library (files path) with
  | .error (.thrown exception) => (.error exception, files, host)
  | .error (.rejected error) => host.fail error files
  | .ok loaded =>
      if loaded.enabled = false then
        (.ok (.ok ()), files,
          { host with
            status :=
              bytes "MCP host is disabled by runtime configuration" })
      else if profiles.isEmpty then
        host.fail
          (bytes "MCP host requires at least one configured client profile")
          files
      else
        startEnabled library platform saveOutcome startHost path profiles
          host loaded files world

end Start

end McpHost

end TgGate
