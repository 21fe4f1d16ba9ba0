import TgGate.BearerTokens
import TgGate.ClientProfileRepository
import TgGate.ConfigurationSave
import TgGate.McpHostLifecycle
import TgGate.RuntimeLayout

namespace TgGate

open Library

/-!
# The start of the application

The constructor of `DesktopUiState::Impl` stages the initial files, loads the
profiles and the accounts and starts the MCP host.  Only the host configuration
may be rewritten, when credentials were added to it; what the user has in any
other file survives the start.

Other programs may write between the steps of `ensure`.  What follows it is one
step, `construct`: it is not interleaved with writes of other programs.
-/

/-- What the constructor of `DesktopUiState::Impl` sets. -/
structure DesktopStartup where
  profiles : List McpClientProfile := []
  accountConfigurations : List AccountConfiguration := []
  configLoaded : Bool := false
  accountsLoaded : Bool := false
  configurationReady : Bool
  configError : Bytes := []
  accountError : Bytes := []
  configurationStatus : Bytes
  mcpHost : McpHost := {}

namespace DesktopStartup

section Constructor

variable {World : Type}
variable (library : DocumentLibrary)
variable (platform : Platform World)
variable (saveOutcome : ReplacementOutcome)
variable (startHost : HttpHostOptions → Option Bytes)
variable (layout : RuntimeLayout)

def loadProfiles
    (files : FileSystem)
    (startup : DesktopStartup) : Except JsonException DesktopStartup :=
  match ClientProfileRepository.load library
      (files layout.clientProfiles) with
  | .ok profiles =>
      .ok { startup with profiles := profiles, configLoaded := true }
  | .error (.rejected error) => .ok { startup with configError := error }
  | .error (.thrown exception) => .error exception

def loadAccounts
    (files : FileSystem)
    (startup : DesktopStartup) : Except JsonException DesktopStartup :=
  match AccountRepository.load library (files layout.accounts) with
  | .ok accounts =>
      .ok { startup with
        accountConfigurations := accounts
        accountsLoaded := true }
  | .error (.rejected error) => .ok { startup with accountError := error }
  | .error (.thrown exception) => .error exception

/-- The MCP host is started if the profiles were loaded. -/
def startMcpHost
    (startup : DesktopStartup)
    (files : FileSystem)
    (world : World) : Except JsonException DesktopStartup × FileSystem :=
  if startup.configLoaded then
    let (result, files, mcpHost) :=
      McpHost.start library platform saveOutcome startHost layout.mcpHost
        startup.profiles startup.mcpHost files world
    match result with
    | .error thrown => (.error thrown, files)
    | .ok (.error error) =>
        (.ok { startup with mcpHost := mcpHost, configError := error },
          files)
    | .ok (.ok ()) => (.ok { startup with mcpHost := mcpHost }, files)
  else
    (.ok startup, files)

/-- The constructor, from what `ensure` has returned. -/
def construct
    (ready : Bool)
    (status : Bytes)
    (files : FileSystem)
    (world : World) : Except JsonException DesktopStartup × FileSystem :=
  let startup : DesktopStartup := {
    configurationReady := ready
    configurationStatus := status }
  if ready = false then
    (.ok startup, files)
  else
    let loaded := do
      let startup ← startup.loadProfiles library layout files
      startup.loadAccounts library layout files
    match loaded with
    | .error thrown => (.error thrown, files)
    | .ok startup =>
        startup.startMcpHost library platform saveOutcome startHost layout
          files world

end Constructor

end DesktopStartup

/-!
## What the start leaves alone
-/

section Start

variable {World : Type}
variable {library : DocumentLibrary}
variable {platform : Platform World}
variable {saveOutcome : ReplacementOutcome}
variable {startHost : HttpHostOptions → Option Bytes}
variable {path other : FilesystemPath}
variable {profiles : List McpClientProfile}
variable {host : McpHost}
variable {files : FileSystem}
variable {world : World}

theorem files_launch
    (configuration : McpHostConfiguration)
    (clients : List AuthenticatedClient) :
    (McpHost.launch startHost host configuration clients files).2.1 =
      files := by
  unfold McpHost.launch
  cases startHost (McpHost.hostOptions configuration) <;> rfl

theorem files_saveAdded
    {loaded ensured : McpHostConfiguration}
    (different : other ≠ path)
    (notTemporary : other ≠ temporaryPath path) :
    (McpHost.saveAdded library saveOutcome path loaded ensured
      files).2 other = files other := by
  unfold McpHost.saveAdded
  split
  · exact replaceFile_of_ne _ _ _ different notTemporary _
  · rfl

/-- Starting the host changes no other file than its configuration. -/
theorem files_start
    (different : other ≠ path)
    (notTemporary : other ≠ temporaryPath path) :
    (McpHost.start library platform saveOutcome startHost path profiles
      host files world).2.1 other = files other := by
  unfold McpHost.start
  split
  · rfl
  · rfl
  · next loaded _ =>
      simp only
      split
      · rfl
      · split
        · rfl
        · unfold McpHost.startEnabled
          split
          · rfl
          · next ensured later _ =>
              have saved :=
                @files_saveAdded library saveOutcome path other files loaded
                  ensured different notTemporary
              simp only
              split
              · exact saved
              · exact saved
              · split
                · exact saved
                · rw [files_launch]
                  exact saved

theorem files_startMcpHost
    {layout : RuntimeLayout}
    (startup : DesktopStartup)
    (different : other ≠ layout.mcpHost)
    (notTemporary : other ≠ temporaryPath layout.mcpHost) :
    (startup.startMcpHost library platform saveOutcome startHost layout
      files world).2 other = files other := by
  have started :=
    @files_start _ library platform saveOutcome startHost layout.mcpHost
      other startup.profiles startup.mcpHost files world different
      notTemporary
  unfold DesktopStartup.startMcpHost
  split
  · simp only
    split <;> exact started
  · rfl

theorem files_construct
    {layout : RuntimeLayout}
    {ready : Bool}
    {status : Bytes}
    (different : other ≠ layout.mcpHost)
    (notTemporary : other ≠ temporaryPath layout.mcpHost) :
    (DesktopStartup.construct library platform saveOutcome startHost layout
      ready status files world).2 other = files other := by
  unfold DesktopStartup.construct
  simp only
  split
  · rfl
  · split
    · rfl
    · exact files_startMcpHost _ different notTemporary

end Start

/--
What the user has in any file but the host configuration and its temporary file
survives the start of the application, whatever the operating system does and
whenever another program has written it before `ensure` returned.
-/
theorem startup_keeps_user_files
    {World : Type}
    (library : DocumentLibrary)
    (platform : Platform World)
    (saveOutcome : ReplacementOutcome)
    (startHost : HttpHostOptions → Option Bytes)
    {layout : RuntimeLayout}
    {files : FileSystem}
    {first later : List RuntimeLayoutBootstrap.Call}
    {path content : Bytes}
    (present :
      ((runtimeLayoutBootstrap layout files).state first).files path =
        some content)
    (untouched : ∀ call ∈ later, call.touches path = false)
    (different : path ≠ layout.mcpHost)
    (notTemporary : path ≠ temporaryPath layout.mcpHost)
    (ready : Bool)
    (status : Bytes)
    (world : World) :
    (DesktopStartup.construct library platform saveOutcome startHost layout
      ready status
      ((runtimeLayoutBootstrap layout files).state (first ++ later)).files
      world).2 path = some content := by
  rw [files_construct different notTemporary, Machine.state,
    Machine.stateFrom_append]
  exact files_stateFrom_of_untouched present untouched

/-- The user makes the accounts while `ensure` stages the other files. -/
def accountsMade : List RuntimeLayoutBootstrap.Call :=
  List.replicate 3 (.ensure calmSupply) ++
    [.writes (bytes "data/config/accounts.json") (bytes "mine")]

/-- What the constructor finds. -/
def accountsStaged : RuntimeLayoutBootstrap :=
  (runtimeLayoutBootstrap {} freshFiles).state
    (accountsMade ++ List.replicate 4 (.ensure calmSupply))

set_option maxRecDepth 4000 in
theorem startup_keeps_user_files_accounts :
    accountsStaged.phase = .returned true (RuntimeLayout.readyStatus {}) ∧
      (DesktopStartup.construct (readingLibrary (.array []))
        McpHost.plainSecrets.platform diskFullAtClose (fun _ => none) {}
        true (RuntimeLayout.readyStatus {}) accountsStaged.files []).2
          (bytes "data/config/accounts.json") =
        some (bytes "mine") := by
  refine ⟨by decide +kernel, ?_⟩
  exact startup_keeps_user_files _ _ _ _ (by decide +kernel)
    (by decide +kernel) (by decide) (by decide) _ _ _

end TgGate
