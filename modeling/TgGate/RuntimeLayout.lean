import TgGate.Library.FileReplacement
import TgGate.Library.FilesystemPath
import TgGate.Library.Machine

namespace TgGate

open Library

/-!
# The initial files

`RuntimeLayoutBootstrap::ensure` looks whether a file is there and copies its
template if it is not.  The two are steps of their own, so another program may
make the file in between.  Because the copy does not overwrite, existing user
configuration is still never replaced.

`FileSystem` has files only.  A directory is remembered when it has been made or
found, and one that is missing when a file is copied into it counts as a failure
of the copy; no path names both a directory and a file.
-/

/-- `operator/` of `std::filesystem::path`. -/
def joinPath (directory name : FilesystemPath) : FilesystemPath :=
  if FilesystemPath.isAbsolute name then
    name
  else if directory = [] ∨ directory.getLast? = some 47 then
    directory ++ name
  else
    directory ++ 47 :: name

structure RuntimeLayout where
  root : FilesystemPath := bytes "data"
  configDirectory : FilesystemPath := joinPath root (bytes "config")
  tdlibDirectory : FilesystemPath := joinPath root (bytes "tdlib")
  clientProfiles : FilesystemPath :=
    joinPath configDirectory (bytes "client-profiles.json")
  accounts : FilesystemPath :=
    joinPath configDirectory (bytes "accounts.json")
  mcpHost : FilesystemPath :=
    joinPath configDirectory (bytes "mcp-host.json")
  /-- Without `TGGATE_CONFIG_TEMPLATE_DIR`. -/
  templateDirectory : FilesystemPath := bytes "configs"

/-- The files that are staged, in this order. -/
inductive LayoutFile where
  | clientProfiles
  | accounts
  | mcpHost
  deriving Repr, DecidableEq

namespace LayoutFile

/-- The template's name. -/
def template : LayoutFile → Bytes
  | .clientProfiles => bytes "client-profiles.example.json"
  | .accounts => bytes "accounts.example.json"
  | .mcpHost => bytes "mcp-host.example.json"

/-- What the status says before the message of the failure. -/
def stagingError : LayoutFile → Bytes
  | .clientProfiles => bytes "Cannot stage client profile configuration: "
  | .accounts => bytes "Cannot stage account configuration: "
  | .mcpHost => bytes "Cannot stage MCP host configuration: "

/-- The file that is staged next. -/
def next? : LayoutFile → Option LayoutFile
  | .clientProfiles => some .accounts
  | .accounts => some .mcpHost
  | .mcpHost => none

/-- The files staged before this one. -/
def earlier : LayoutFile → List LayoutFile
  | .clientProfiles => []
  | .accounts => [.clientProfiles]
  | .mcpHost => [.clientProfiles, .accounts]

end LayoutFile

namespace RuntimeLayout

variable (layout : RuntimeLayout)

def destination : LayoutFile → FilesystemPath
  | .clientProfiles => layout.clientProfiles
  | .accounts => layout.accounts
  | .mcpHost => layout.mcpHost

def source (file : LayoutFile) : FilesystemPath :=
  joinPath layout.templateDirectory file.template

/-- The status after success. -/
def readyStatus : Bytes :=
  bytes "Runtime configuration is ready at " ++ layout.configDirectory

end RuntimeLayout

/-- How `copy_file` ends, as far as the operating system decides it. -/
structure CopyOutcome where
  /-- The messages for an existing destination and a missing source. -/
  fileExists : Bytes
  noSuchFile : Bytes
  /-- The copy fails; a file may be left with a part of the content. -/
  failure : Option (Bytes × Option Nat)

/-- `copy_file` with `copy_options::none`: the error and the files. -/
def copyFile
    (outcome : CopyOutcome)
    (source destination : FilesystemPath)
    (files : FileSystem) : Option Bytes × FileSystem :=
  match files source, files destination with
  | none, _ => (some outcome.noSuchFile, files)
  | some _, some _ => (some outcome.fileExists, files)
  | some content, none =>
      match outcome.failure with
      | none => (none, files.write destination content)
      | some (message, none) => (some message, files)
      | some (message, some length) =>
          (some message, files.write destination (content.take length))

/-- What the operating system does in one step of `ensure`. -/
structure BootstrapSupply where
  /-- `create_directories` fails with this message. -/
  directoryFailure : Option Bytes
  /-- `exists` throws with this message. -/
  existsFailure : Option Bytes
  copy : CopyOutcome

/-- Where `ensure` is. -/
inductive BootstrapPhase where
  | creatingConfig
  | creatingTdlib
  | checking (file : LayoutFile)
  | copying (file : LayoutFile)
  | returned (result : Bool) (status : Bytes)
  | threw (message : Bytes)
  deriving Repr, DecidableEq

/-- A call of `ensure` and the files that it shares with other programs. -/
structure RuntimeLayoutBootstrap where
  files : FileSystem
  /-- The directories that have been made or found. -/
  directories : List FilesystemPath := []
  phase : BootstrapPhase := .creatingConfig

namespace RuntimeLayoutBootstrap

/-- The next step of `ensure`, or one of another program. -/
inductive Call where
  | ensure (supply : BootstrapSupply)
  | writes (path : FilesystemPath) (content : Bytes)
  | removes (path : FilesystemPath)

/-- The phase behind a file that is there. -/
def afterStaging
    (layout : RuntimeLayout)
    (file : LayoutFile) : BootstrapPhase :=
  match file.next? with
  | some next => .checking next
  | none => .returned true layout.readyStatus

/-- `create_directories`, and the phase behind it. -/
def createDirectories
    (supply : BootstrapSupply)
    (directory : FilesystemPath)
    (next : BootstrapPhase)
    (bootstrap : RuntimeLayoutBootstrap) : RuntimeLayoutBootstrap :=
  match supply.directoryFailure with
  | some message =>
      { bootstrap with
        phase :=
          .returned false
            (bytes "Cannot create TgGate data directories: " ++ message) }
  | none =>
      { bootstrap with
        directories := bootstrap.directories ++ [directory]
        phase := next }

/-- One step of `RuntimeLayoutBootstrap::ensure`. -/
def advance
    (layout : RuntimeLayout)
    (supply : BootstrapSupply)
    (bootstrap : RuntimeLayoutBootstrap) : RuntimeLayoutBootstrap :=
  match bootstrap.phase with
  | .creatingConfig =>
      bootstrap.createDirectories supply layout.configDirectory
        .creatingTdlib
  | .creatingTdlib =>
      bootstrap.createDirectories supply layout.tdlibDirectory
        (.checking .clientProfiles)
  -- `copy_if_missing`
  | .checking file =>
      match supply.existsFailure with
      | some message => { bootstrap with phase := .threw message }
      | none =>
          if (bootstrap.files (layout.destination file)).isSome then
            { bootstrap with phase := afterStaging layout file }
          else
            { bootstrap with phase := .copying file }
  | .copying file =>
      let copied :=
        copyFile supply.copy (layout.source file)
          (layout.destination file) bootstrap.files
      { bootstrap with
        files := copied.2
        phase :=
          match copied.1 with
          | none => afterStaging layout file
          | some message =>
              .returned false (file.stagingError ++ message) }
  | .returned _ _ | .threw _ => bootstrap

def step
    (layout : RuntimeLayout)
    (bootstrap : RuntimeLayoutBootstrap) : Call → RuntimeLayoutBootstrap
  | .ensure supply => bootstrap.advance layout supply
  | .writes path content =>
      { bootstrap with files := bootstrap.files.write path content }
  | .removes path =>
      { bootstrap with
        files := Function.update bootstrap.files path none }

/-- The other program writes or removes this file. -/
def Call.touches (path : FilesystemPath) : Call → Bool
  | .ensure _ => false
  | .writes other _ | .removes other => other = path

end RuntimeLayoutBootstrap

/-- One call of `ensure` among other programs. -/
def runtimeLayoutBootstrap
    (layout : RuntimeLayout)
    (files : FileSystem) :
    Machine RuntimeLayoutBootstrap RuntimeLayoutBootstrap.Call Unit where
  initial := { files := files }
  step bootstrap call := (bootstrap.step layout call, ())

/-!
## Existing files
-/

/-- A copy leaves what is there. -/
theorem copyFile_keeps
    {outcome : CopyOutcome}
    {source destination path : FilesystemPath}
    {files : FileSystem}
    {content : Bytes}
    (present : files path = some content) :
    (copyFile outcome source destination files).2 path = some content := by
  unfold copyFile
  split
  · exact present
  · exact present
  · next _ missing =>
      have different : path ≠ destination := by
        rintro rfl
        rw [present] at missing
        cases missing
      have written (other : Bytes) :
          files.write destination other path = some content :=
        (Function.update_of_ne different _ _).trans present
      split
      · exact written _
      · exact present
      · exact written _

/-- A copy that succeeds leaves a file. -/
theorem isSome_of_copyFile
    {outcome : CopyOutcome}
    {source destination : FilesystemPath}
    {files : FileSystem}
    (copied : (copyFile outcome source destination files).1 = none) :
    ((copyFile outcome source destination files).2
      destination).isSome = true := by
  unfold copyFile at copied ⊢
  split at copied
  · cases copied
  · cases copied
  · split at copied
    · simp [FileSystem.write]
    · cases copied
    · cases copied

namespace RuntimeLayoutBootstrap

section Steps

variable {layout : RuntimeLayout}
variable {bootstrap : RuntimeLayoutBootstrap}

@[simp] theorem files_createDirectories
    (supply : BootstrapSupply)
    (directory : FilesystemPath)
    (next : BootstrapPhase) :
    (bootstrap.createDirectories supply directory next).files =
      bootstrap.files := by
  unfold createDirectories
  cases supply.directoryFailure <;> rfl

/-- No step of `ensure` changes a file that is there. -/
theorem advance_keeps
    (supply : BootstrapSupply)
    {path content : Bytes}
    (present : bootstrap.files path = some content) :
    (bootstrap.advance layout supply).files path = some content := by
  unfold advance
  cases bootstrap.phase with
  | creatingConfig | creatingTdlib =>
      simpa only [files_createDirectories] using present
  | checking file =>
      cases supply.existsFailure with
      | some message =>
          exact present
      | none =>
          simp only
          split <;> exact present
  | copying file =>
      exact copyFile_keeps present
  | returned | threw =>
      exact present

theorem step_keeps
    {call : Call}
    {path content : Bytes}
    (present : bootstrap.files path = some content)
    (untouched : call.touches path = false) :
    (bootstrap.step layout call).files path = some content := by
  cases call with
  | ensure supply =>
      exact advance_keeps supply present
  | writes other _ | removes other =>
      have different : path ≠ other := by
        rintro rfl
        simp [Call.touches] at untouched
      exact (Function.update_of_ne different _ _).trans present

end Steps

end RuntimeLayoutBootstrap

/-- Until another program touches it, a file that is there stays. -/
theorem files_stateFrom_of_untouched
    {layout : RuntimeLayout}
    {files : FileSystem}
    {start : RuntimeLayoutBootstrap}
    {calls : List RuntimeLayoutBootstrap.Call}
    {path content : Bytes}
    (present : start.files path = some content)
    (untouched : ∀ call ∈ calls, call.touches path = false) :
    ((runtimeLayoutBootstrap layout files).stateFrom start calls).files
        path =
      some content := by
  induction calls generalizing start with
  | nil =>
      exact present
  | cons call rest inductionHypothesis =>
      obtain ⟨here, later⟩ := List.forall_mem_cons.mp untouched
      exact inductionHypothesis
        (RuntimeLayoutBootstrap.step_keeps present here) later

/-!
## What `ensure` returns
-/

/-- The directories made in a phase. -/
def BootstrapPhase.made (layout : RuntimeLayout) :
    BootstrapPhase → List FilesystemPath
  | .creatingConfig | .returned false _ | .threw _ => []
  | .creatingTdlib => [layout.configDirectory]
  | .checking _ | .copying _ | .returned true _ =>
      [layout.configDirectory, layout.tdlibDirectory]

/-- The files that `ensure` has gone past in a phase. -/
def BootstrapPhase.staged : BootstrapPhase → List LayoutFile
  | .creatingConfig | .creatingTdlib | .returned false _ | .threw _ => []
  | .checking file | .copying file => file.earlier
  | .returned true _ => [.clientProfiles, .accounts, .mcpHost]

/-- Why `ensure` returns failure from a state. -/
inductive BootstrapFailure
    (layout : RuntimeLayout)
    (before : RuntimeLayoutBootstrap)
    (supply : BootstrapSupply) : Bytes → Prop where
  | directories
      {message : Bytes}
      (here :
        before.phase = .creatingConfig ∨ before.phase = .creatingTdlib)
      (failure : supply.directoryFailure = some message) :
      BootstrapFailure layout before supply
        (bytes "Cannot create TgGate data directories: " ++ message)
  | staging
      {file : LayoutFile}
      {message : Bytes}
      (here : before.phase = .copying file)
      (failure :
        (copyFile supply.copy (layout.source file)
          (layout.destination file) before.files).1 =
            some message) :
      BootstrapFailure layout before supply (file.stagingError ++ message)

section Runs

variable (layout : RuntimeLayout)
variable (files : FileSystem)

/-- The file was there when `ensure` went past it. -/
def StagedIn
    (calls : List RuntimeLayoutBootstrap.Call)
    (file : LayoutFile) : Prop :=
  ∃ first,
    first <+: calls ∧
      ((runtimeLayoutBootstrap layout files).state first).phase =
          RuntimeLayoutBootstrap.afterStaging layout file ∧
        (((runtimeLayoutBootstrap layout files).state first).files
          (layout.destination file)).isSome = true

/-- What a result of `ensure` means. -/
inductive EnsureOutcome
    (calls : List RuntimeLayoutBootstrap.Call) : Bool → Bytes → Prop where
  | ready
      (made :
        [layout.configDirectory, layout.tdlibDirectory] ⊆
          ((runtimeLayoutBootstrap layout files).state calls).directories)
      (staged : ∀ file, StagedIn layout files calls file) :
      EnsureOutcome calls true layout.readyStatus
  | failed
      {first rest : List RuntimeLayoutBootstrap.Call}
      {supply : BootstrapSupply}
      {status : Bytes}
      (here : calls = first ++ .ensure supply :: rest)
      (failure :
        BootstrapFailure layout
          ((runtimeLayoutBootstrap layout files).state first) supply
          status) :
      EnsureOutcome calls false status

/-- What holds of a state that a run of `ensure` has reached. -/
structure BootstrapProgress
    (calls : List RuntimeLayoutBootstrap.Call)
    (bootstrap : RuntimeLayoutBootstrap) : Prop where
  made : bootstrap.phase.made layout ⊆ bootstrap.directories
  staged :
    ∀ file ∈ bootstrap.phase.staged, StagedIn layout files calls file
  ready :
    ∀ status,
      bootstrap.phase = .returned true status →
      status = layout.readyStatus
  failed :
    ∀ status,
      bootstrap.phase = .returned false status →
      ∃ first supply rest,
        calls = first ++ .ensure supply :: rest ∧
          BootstrapFailure layout
            ((runtimeLayoutBootstrap layout files).state first) supply
            status

end Runs

section Progress

variable {layout : RuntimeLayout}
variable {files : FileSystem}
variable {calls : List RuntimeLayoutBootstrap.Call}
variable {bootstrap : RuntimeLayoutBootstrap}
variable {file : LayoutFile}

theorem StagedIn.append
    (staged : StagedIn layout files calls file)
    (call : RuntimeLayoutBootstrap.Call) :
    StagedIn layout files (calls ++ [call]) file := by
  obtain ⟨first, earlier, there⟩ := staged
  exact ⟨first, earlier.trans (List.prefix_append _ _), there⟩

theorem staged_afterStaging
    {other : LayoutFile}
    (member :
      other ∈ (RuntimeLayoutBootstrap.afterStaging layout file).staged) :
    other = file ∨ other ∈ file.earlier := by
  cases file <;> cases other <;>
    simp_all [RuntimeLayoutBootstrap.afterStaging, LayoutFile.next?,
      BootstrapPhase.staged, LayoutFile.earlier]

/-- A step that leaves the phase leaves what is known of it. -/
theorem BootstrapProgress.keeps
    {after : RuntimeLayoutBootstrap}
    (progress : BootstrapProgress layout files calls bootstrap)
    (call : RuntimeLayoutBootstrap.Call)
    (directories : after.directories = bootstrap.directories)
    (phase : after.phase = bootstrap.phase) :
    BootstrapProgress layout files (calls ++ [call]) after where
  made := by
    rw [phase, directories]
    exact progress.made
  staged file member := by
    rw [phase] at member
    exact (progress.staged file member).append call
  ready status here := progress.ready status (phase ▸ here)
  failed status here := by
    obtain ⟨first, supply, rest, split, failure⟩ :=
      progress.failed status (phase ▸ here)
    refine ⟨first, supply, rest ++ [call], ?_, failure⟩
    rw [split, List.append_assoc, List.cons_append]

/-- `ensure` returns failure. -/
theorem bootstrapProgress_of_failure
    {supply : BootstrapSupply}
    {status : Bytes}
    (failure :
      BootstrapFailure layout
        ((runtimeLayoutBootstrap layout files).state calls) supply status)
    (here : bootstrap.phase = .returned false status) :
    BootstrapProgress layout files (calls ++ [.ensure supply]) bootstrap where
  made := by
    rw [here]
    exact List.nil_subset _
  staged file member := by
    rw [here] at member
    cases member
  ready _ impossible := by
    rw [here] at impossible
    cases impossible
  failed other same := by
    obtain rfl : status = other := by
      rw [here] at same
      cases same
      rfl
    exact ⟨calls, supply, [], rfl, failure⟩

/-- `ensure` goes past a file that is there. -/
theorem BootstrapProgress.goesPast
    {call : RuntimeLayoutBootstrap.Call}
    (progress :
      BootstrapProgress layout files calls
        ((runtimeLayoutBootstrap layout files).state calls))
    (earlier :
      ((runtimeLayoutBootstrap layout files).state calls).phase =
          .checking file ∨
        ((runtimeLayoutBootstrap layout files).state calls).phase =
          .copying file)
    (reached :
      (runtimeLayoutBootstrap layout files).state (calls ++ [call]) =
        bootstrap)
    (directories :
      bootstrap.directories =
        ((runtimeLayoutBootstrap layout files).state calls).directories)
    (here :
      bootstrap.phase = RuntimeLayoutBootstrap.afterStaging layout file)
    (there :
      (bootstrap.files (layout.destination file)).isSome = true) :
    BootstrapProgress layout files (calls ++ [call]) bootstrap := by
  have made := progress.made
  have staged := progress.staged
  have past : StagedIn layout files (calls ++ [call]) file :=
    ⟨calls ++ [call], List.prefix_refl _, by rwa [reached],
      by rwa [reached]⟩
  constructor
  · rw [here, directories]
    rcases earlier with earlier | earlier <;> rw [earlier] at made <;>
      cases file <;> exact made
  · intro other member
    rw [here] at member
    rcases staged_afterStaging member with rfl | before
    · exact past
    · refine (staged other ?_).append call
      rcases earlier with earlier | earlier <;> rw [earlier] <;>
        exact before
  · intro status isReady
    rw [here] at isReady
    cases file <;> cases isReady
    rfl
  · intro status impossible
    rw [here] at impossible
    cases file <;> cases impossible

/-- `create_directories` makes a directory or ends `ensure`. -/
theorem bootstrapProgress_createDirectories
    {supply : BootstrapSupply}
    {directory : FilesystemPath}
    {next : BootstrapPhase}
    (here :
      ((runtimeLayoutBootstrap layout files).state calls).phase =
          .creatingConfig ∨
        ((runtimeLayoutBootstrap layout files).state calls).phase =
          .creatingTdlib)
    (made :
      next.made layout ⊆
        ((runtimeLayoutBootstrap layout files).state
          calls).directories ++ [directory])
    (unstaged : next.staged = [])
    (goesOn : ∀ result status, next ≠ .returned result status) :
    BootstrapProgress layout files (calls ++ [.ensure supply])
      (((runtimeLayoutBootstrap layout files).state
        calls).createDirectories supply directory next) := by
  unfold RuntimeLayoutBootstrap.createDirectories
  cases failure : supply.directoryFailure with
  | some message =>
      exact bootstrapProgress_of_failure (.directories here failure) rfl
  | none =>
      exact {
        made := made
        staged := fun file member => by
          rw [unstaged] at member
          cases member
        ready := fun status impossible =>
          absurd impossible (goesOn true status)
        failed := fun status impossible =>
          absurd impossible (goesOn false status) }

theorem bootstrapProgress_advance
    (progress :
      BootstrapProgress layout files calls
        ((runtimeLayoutBootstrap layout files).state calls))
    (supply : BootstrapSupply) :
    BootstrapProgress layout files (calls ++ [.ensure supply])
      (((runtimeLayoutBootstrap layout files).state calls).advance layout
        supply) := by
  have reached :
      (runtimeLayoutBootstrap layout files).state
          (calls ++ [.ensure supply]) =
        ((runtimeLayoutBootstrap layout files).state calls).advance layout
          supply :=
    (runtimeLayoutBootstrap layout files).state_snoc calls (.ensure supply)
  have made := progress.made
  unfold RuntimeLayoutBootstrap.advance at reached ⊢
  cases here :
      ((runtimeLayoutBootstrap layout files).state calls).phase with
  | creatingConfig =>
      exact bootstrapProgress_createDirectories (.inl here)
        (List.subset_append_right _ _) rfl (by rintro _ _ ⟨⟩)
  | creatingTdlib =>
      rw [here] at made
      exact bootstrapProgress_createDirectories (.inr here)
        (List.append_subset.mpr
          ⟨List.subset_append_of_subset_left _ made,
            List.subset_append_right _ _⟩)
        rfl (by rintro _ _ ⟨⟩)
  | checking file =>
      simp only [here] at reached ⊢
      cases failure : supply.existsFailure with
      | some message =>
          exact {
            made := List.nil_subset _
            staged := fun _ impossible => by cases impossible
            ready := fun _ impossible => by cases impossible
            failed := fun _ impossible => by cases impossible }
      | none =>
          simp only [failure] at reached ⊢
          split at reached
          · next there =>
              rw [if_pos there]
              exact progress.goesPast (.inl here) reached rfl rfl there
          · next missing =>
              rw [if_neg missing]
              rw [here] at made
              exact {
                made := made
                staged := fun other member =>
                  (progress.staged other (here ▸ member)).append _
                ready := fun _ impossible => by cases impossible
                failed := fun _ impossible => by cases impossible }
  | copying file =>
      simp only [here] at reached ⊢
      cases copied :
          (copyFile supply.copy (layout.source file)
            (layout.destination file)
            ((runtimeLayoutBootstrap layout files).state
              calls).files).1 with
      | some message =>
          exact bootstrapProgress_of_failure (.staging here copied) rfl
      | none =>
          simp only [copied] at reached
          exact progress.goesPast (.inr here) reached rfl rfl
            (isSome_of_copyFile copied)
  | returned | threw =>
      exact progress.keeps _ rfl rfl

theorem bootstrapProgress_run
    (calls : List RuntimeLayoutBootstrap.Call) :
    BootstrapProgress layout files calls
      ((runtimeLayoutBootstrap layout files).state calls) := by
  induction calls using List.reverseRecOn with
  | nil =>
      exact {
        made := List.nil_subset _
        staged := fun _ impossible => by cases impossible
        ready := fun _ impossible => by cases impossible
        failed := fun _ impossible => by cases impossible }
  | append_singleton calls call inductionHypothesis =>
      rw [Machine.state_snoc]
      cases call with
      | ensure supply =>
          exact bootstrapProgress_advance inductionHypothesis supply
      | writes | removes =>
          exact inductionHypothesis.keeps _ rfl rfl

end Progress

/-- What holds of every run of `ensure` among other programs. -/
structure BootstrapRun
    (layout : RuntimeLayout)
    (files : FileSystem)
    (calls : List RuntimeLayoutBootstrap.Call) : Prop where
  kept :
    ∀ (first later : List RuntimeLayoutBootstrap.Call)
      (path content : Bytes),
      calls = first ++ later →
      ((runtimeLayoutBootstrap layout files).state first).files path =
          some content →
      (∀ call ∈ later, call.touches path = false) →
      ((runtimeLayoutBootstrap layout files).state calls).files path =
        some content
  ended :
    ∀ result status,
      ((runtimeLayoutBootstrap layout files).state calls).phase =
          .returned result status →
      EnsureOutcome layout files calls result status

/--
In every interleaving with programs that write and remove files, `ensure` leaves
each existing file alone, also one that appears between the look and the copy.
When it returns success, both directories have been made and each file was there
when `ensure` went past it; otherwise the status tells the step that failed.
-/
theorem ensure_keeps_existing_files
    (layout : RuntimeLayout)
    (files : FileSystem)
    (calls : List RuntimeLayoutBootstrap.Call) :
    BootstrapRun layout files calls where
  kept first later path content split present untouched := by
    rw [split, Machine.state, Machine.stateFrom_append]
    exact files_stateFrom_of_untouched present untouched
  ended result status here := by
    have progress := @bootstrapProgress_run layout files calls
    cases result with
    | true =>
        obtain rfl := progress.ready status here
        have made := progress.made
        have staged := progress.staged
        rw [here] at made staged
        refine .ready made fun file => staged file ?_
        cases file <;> simp [BootstrapPhase.staged]
    | false =>
        obtain ⟨first, supply, rest, split, failure⟩ :=
          progress.failed status here
        exact .failed split failure

/-- Every call of the operating system succeeds. -/
def calmSupply : BootstrapSupply where
  directoryFailure := none
  existsFailure := none
  copy := {
    fileExists := bytes "File exists"
    noSuchFile := bytes "No such file or directory"
    failure := none }

/-- The templates of a fresh installation. -/
def freshFiles : FileSystem := fun path =>
  if path ∈ [bytes "configs/client-profiles.example.json",
      bytes "configs/accounts.example.json",
      bytes "configs/mcp-host.example.json"] then
    some (bytes "[]")
  else
    none

/-- A program makes the accounts between the look and the copy. -/
def racedBootstrap : List RuntimeLayoutBootstrap.Call :=
  List.replicate 5 (.ensure calmSupply) ++
    [.writes (bytes "data/config/accounts.json") (bytes "mine"),
      .ensure calmSupply]

set_option maxRecDepth 4000 in
example :
    let raced := (runtimeLayoutBootstrap {} freshFiles).state racedBootstrap
    raced.phase =
        .returned false
          (bytes "Cannot stage account configuration: File exists") ∧
      raced.files (bytes "data/config/accounts.json") =
        some (bytes "mine") := by
  decide +kernel

end TgGate
