import TgGate.Library.Machine
import TgGate.McpHostLifecycle

namespace TgGate

open Library

/-!
# The operator's bearer tokens

The operator exports the token of a client, or replaces it.  Both read the
configuration file again; after a replacement a running host is started anew on
the file that was written.
-/

/-- What the outside world supplies to one start. -/
structure StartSupply (World : Type) where
  world : World
  saveOutcome : ReplacementOutcome
  startHost : HttpHostOptions → Option Bytes

/-- What it supplies to a replacement and the start that may follow. -/
structure RegenerateSupply (World : Type) where
  world : World
  saveOutcome : ReplacementOutcome
  restart : StartSupply World

/-- The part of `DesktopUiState` around the MCP host. -/
structure McpHostDesktop where
  mcpHost : McpHost := {}
  profiles : List McpClientProfile
  /-- `layout.mcp_host`. -/
  mcpHostPath : FilesystemPath
  configError : Bytes := []

namespace McpHostDesktop

open McpHostConfigurationRepository McpHost

section Calls

variable {World : Type}
variable (library : DocumentLibrary)
variable (platform : Platform World)

/-- `mcp_bearer_token_for_export`. -/
def mcpBearerTokenForExport
    (desktop : McpHostDesktop)
    (clientId : Bytes)
    (files : FileSystem)
    (world : World) : Except JsonException (Option Bytes) :=
  match load library (files desktop.mcpHostPath) with
  | .error (.thrown exception) => .error exception
  | .error (.rejected _) => .ok none
  | .ok configuration =>
      match findClientCredential configuration clientId with
      | none => .ok none
      | some credential =>
          .ok ((unprotectBearerToken platform credential.bearerTokenDpapi
            world).map fun decrypted => decrypted.1.content)

/-- A start of the host on the configuration file. -/
def startMcpHost
    (desktop : McpHostDesktop)
    (profiles : List McpClientProfile)
    (supply : StartSupply World)
    (files : FileSystem) : StartResult × FileSystem × McpHostDesktop :=
  let (result, files, mcpHost) :=
    start library platform supply.saveOutcome supply.startHost
      desktop.mcpHostPath profiles desktop.mcpHost files supply.world
  (result, files, { desktop with mcpHost := mcpHost })

/-- The configuration with a new token for a client. -/
def rotate
    (desktop : McpHostDesktop)
    (loaded : McpHostConfiguration)
    (clientId : Bytes) : Attempt World Bytes McpHostConfiguration := do
  let ensured ←
    ensureClientCredentials platform loaded desktop.profiles
  regenerateClientCredential platform ensured clientId

/-- Load the configuration, replace a token and save. -/
def saveRotated
    (desktop : McpHostDesktop)
    (clientId : Bytes)
    (supply : RegenerateSupply World)
    (files : FileSystem) : StartResult × FileSystem :=
  match load library (files desktop.mcpHostPath) with
  | .error (.thrown exception) => (.error exception, files)
  | .error (.rejected error) => (.ok (.error error), files)
  | .ok loaded =>
      match rotate platform desktop loaded clientId supply.world with
      | .error error => (.ok (.error error), files)
      | .ok (rotated, _) =>
          save library supply.saveOutcome desktop.mcpHostPath rotated
            files

/-- `regenerate_mcp_bearer_token`. -/
def regenerateMcpBearerToken
    (desktop : McpHostDesktop)
    (clientId : Bytes)
    (supply : RegenerateSupply World)
    (files : FileSystem) :
    Except JsonException Bool × FileSystem × McpHostDesktop :=
  match saveRotated library platform desktop clientId supply files with
  | (.error exception, files) => (.error exception, files, desktop)
  | (.ok (.error error), files) =>
      (.ok false, files, { desktop with configError := error })
  | (.ok (.ok ()), files) =>
      if desktop.mcpHost.running then
        match startMcpHost library platform desktop desktop.profiles
            supply.restart files with
        | (.error exception, files, desktop) =>
            (.error exception, files, desktop)
        | (.ok (.error error), files, desktop) =>
            (.ok false, files, { desktop with configError := error })
        | (.ok (.ok ()), files, desktop) => (.ok true, files, desktop)
      else
        (.ok true, files, desktop)

end Calls

end McpHostDesktop

/-- A call around the host, with what the outside world supplies. -/
inductive HostCall (World : Type) where
  | start
      (profiles : List McpClientProfile)
      (supply : StartSupply World)
  | stop
  | regenerate (clientId : Bytes) (supply : RegenerateSupply World)

/-- What a call returns or throws. -/
inductive HostReply where
  | started (result : StartResult)
  | stopped
  | regenerated (result : Except JsonException Bool)

/-- The desktop, the files and the profiles of the latest start. -/
structure HostState where
  desktop : McpHostDesktop
  files : FileSystem
  started : List McpClientProfile := []

namespace HostState

section Steps

variable {World : Type}
variable (library : DocumentLibrary)
variable (platform : Platform World)

/-- The profiles of the latest start after a replacement. -/
def startedAfter
    (state : HostState)
    (saved : StartResult) : List McpClientProfile :=
  match saved with
  | .ok (.ok ()) =>
      if state.desktop.mcpHost.running then
        state.desktop.profiles
      else
        state.started
  | _ => state.started

/-- One call. -/
def advance
    (state : HostState) : HostCall World → HostState × HostReply
  | .start profiles supply =>
      let (result, files, desktop) :=
        state.desktop.startMcpHost library platform profiles supply
          state.files
      ({ desktop := desktop, files := files, started := profiles },
        .started result)
  | .stop =>
      ({ state with
          desktop :=
            { state.desktop with
              mcpHost := state.desktop.mcpHost.stop } },
        .stopped)
  | .regenerate clientId supply =>
      let saved :=
        (state.desktop.saveRotated library platform clientId supply
          state.files).1
      let (result, files, desktop) :=
        state.desktop.regenerateMcpBearerToken library platform clientId
          supply state.files
      ({ desktop := desktop
         files := files
         started := state.startedAfter saved },
        .regenerated result)

end Steps

end HostState

/-- The calls around the host, from any files. -/
def hostMachine
    {World : Type}
    (library : DocumentLibrary)
    (platform : Platform World)
    (profiles : List McpClientProfile)
    (path : FilesystemPath)
    (files : FileSystem) :
    Machine HostState (HostCall World) HostReply where
  initial := {
    desktop := { profiles := profiles, mcpHostPath := path }
    files := files
  }
  step := HostState.advance library platform

end TgGate
