import TgGate.DesktopCredentials
import TgGate.HttpGate
import TgGate.McpHostDocuments

namespace TgGate

open Library

/-!
# The host and its configuration file

A running host answers for the credentials that its configuration file stores:
every client holds the token that the file's credential for its profile
decrypts to.  A host that is not running has no clients.  Both hold after every
sequence of starts, stops and replacements, whatever fails in them, as long as
a save replaces the whole file or leaves it.
-/

namespace McpHostConfigurationRepository

section Completion

variable {World : Type}
variable {platform : Platform World}
variable {configuration : McpHostConfiguration}

/-- A credential for a new id keeps a configuration storable. -/
theorem Storable.add
    (storable : Storable configuration)
    {credential : McpClientCredential}
    (named : credential.clientId ≠ [])
    (unknown :
      (findClientCredential configuration credential.clientId).isSome ≠
        true) :
    Storable {
      configuration with
      clientCredentials :=
        configuration.clientCredentials ++ [credential] } where
  acceptable := storable.acceptable
  distinct := by
    rw [List.map_append, List.nodup_append]
    refine ⟨storable.distinct, by simp, ?_⟩
    intro id present other added
    obtain rfl := List.mem_singleton.mp added
    rintro rfl
    exact unknown (isSome_find?_key.mpr present)
  named := by
    intro other member
    rcases List.mem_append.mp member with earlier | added
    · exact storable.named other earlier
    · obtain rfl := List.mem_singleton.mp added
      exact named

/-- What completing the credentials of a storable configuration gives. -/
structure Completes (loaded ensured : McpHostConfiguration) : Prop where
  storable : Storable ensured
  current : ensured.legacyBearerTokenDpapi = []
  /-- Whether something was added shows in the number of credentials. -/
  counted :
    ensured = loaded ∨
      loaded.clientCredentials.length < ensured.clientCredentials.length

theorem Completes.trans
    {loaded between ensured : McpHostConfiguration}
    (first : Completes loaded between)
    (second : Completes between ensured) :
    Completes loaded ensured where
  storable := second.storable
  current := second.current
  counted := by
    rcases second.counted with rfl | grown
    · exact first.counted
    · rcases first.counted with rfl | before
      · exact .inr grown
      · exact .inr (before.trans grown)

theorem completes_migrateLegacyToken
    {profiles : List McpClientProfile}
    {migrated : McpHostConfiguration}
    {world later : World}
    (wellFormed : WellFormed configuration)
    (storable : Storable configuration)
    (named : ∀ profile ∈ profiles, profile.id ≠ [])
    (succeeded :
      migrateLegacyToken platform profiles configuration world =
        .ok (migrated, later)) :
    Completes configuration migrated := by
  cases migrates_of_migrateLegacyToken succeeded with
  | unchanged current =>
      exact ⟨storable, current, .inl rfl⟩
  | bound profile single legacy =>
      have alone : configuration.clientCredentials = [] :=
        wellFormed.legacyAlone.resolve_left legacy
      have added :=
        @Storable.add _ storable
          ⟨profile.id, configuration.legacyBearerTokenDpapi⟩
          (named profile (by simp [single]))
          (by simp [findClientCredential, alone])
      exact ⟨⟨added.acceptable, added.distinct, added.named⟩, rfl,
        .inr (by simp)⟩

theorem completes_createCredentials
    {profiles : List McpClientProfile}
    {ensured : McpHostConfiguration}
    {world later : World}
    (storable : Storable configuration)
    (current : configuration.legacyBearerTokenDpapi = [])
    (named : ∀ profile ∈ profiles, profile.id ≠ [])
    (succeeded :
      createCredentials platform configuration profiles world =
        .ok (ensured, later)) :
    Completes configuration ensured := by
  induction profiles generalizing configuration world with
  | nil =>
      simp only [createCredentials, Attempt.pure_eq_ok_iff,
        Prod.mk.injEq] at succeeded
      rcases succeeded with ⟨rfl, -⟩
      exact ⟨storable, current, .inl rfl⟩
  | cons profile rest inductionHypothesis =>
      have restNamed : ∀ other ∈ rest, other.id ≠ [] :=
        fun other member => named other (List.mem_cons_of_mem _ member)
      unfold createCredentials at succeeded
      by_cases present :
          (findClientCredential configuration profile.id).isSome = true
      · rw [if_pos present] at succeeded
        exact inductionHypothesis storable current restNamed succeeded
      · rw [if_neg present] at succeeded
        simp only [Attempt.bind_eq_ok_iff, Attempt.orError_eq_ok_iff]
          at succeeded
        obtain ⟨protectedToken, between, -, restCreated⟩ := succeeded
        have added :=
          @Storable.add _ storable ⟨profile.id, protectedToken⟩
            (named profile List.mem_cons_self) present
        have grown :
            Completes configuration {
              configuration with
              clientCredentials :=
                configuration.clientCredentials ++
                  [⟨profile.id, protectedToken⟩] } :=
          ⟨added, current, .inr (by simp)⟩
        exact grown.trans
          (inductionHypothesis added current restNamed restCreated)

/-- Completing the credentials of a loaded configuration. -/
theorem completes_ensureClientCredentials
    {profiles : List McpClientProfile}
    {ensured : McpHostConfiguration}
    {world later : World}
    (wellFormed : WellFormed configuration)
    (storable : Storable configuration)
    (named : ∀ profile ∈ profiles, profile.id ≠ [])
    (succeeded :
      ensureClientCredentials platform configuration profiles world =
        .ok (ensured, later)) :
    Completes configuration ensured := by
  simp only [ensureClientCredentials, Attempt.bind_eq_ok_iff] at succeeded
  obtain ⟨migrated, between, migrates, -, checkedWorld, -, creates⟩ :=
    succeeded
  have first :=
    completes_migrateLegacyToken wellFormed storable named migrates
  exact first.trans
    (completes_createCredentials first.storable first.current named
      creates)

end Completion

section Tokens

variable {World : Type}
variable (platform : Platform World)

/-- A protected token decrypts to a plain one, at some time. -/
def DecryptsTo (protectedToken token : Bytes) : Prop :=
  ∃ world secret later,
    unprotectBearerToken platform protectedToken world =
        some (secret, later) ∧
      secret.content = token

/-- A client holds the token that is stored for its profile. -/
def HoldsToken
    (configuration : McpHostConfiguration)
    (client : AuthenticatedClient) : Prop :=
  ∃ credential,
    findClientCredential configuration client.profile.id =
        some credential ∧
      DecryptsTo platform credential.bearerTokenDpapi client.bearerToken

/-- Collected clients are those of the profiles and hold their tokens. -/
theorem holdsToken_of_collectClients
    {configuration : McpHostConfiguration}
    {profiles : List McpClientProfile}
    {clients : List AuthenticatedClient}
    {world later : World}
    (succeeded :
      McpHost.collectClients platform configuration profiles world =
        .ok (clients, later)) :
    clients.map AuthenticatedClient.profile = profiles ∧
      ∀ client ∈ clients, HoldsToken platform configuration client := by
  induction profiles generalizing world later clients with
  | nil =>
      simp only [McpHost.collectClients, Attempt.pure_eq_ok_iff,
        Prod.mk.injEq] at succeeded
      rcases succeeded with ⟨rfl, -⟩
      exact ⟨rfl, by simp⟩
  | cons profile rest inductionHypothesis =>
      simp only [McpHost.collectClients, Attempt.bind_eq_ok_iff,
        Attempt.ofOption_eq_ok_iff, Attempt.orError_eq_ok_iff,
        Attempt.pure_eq_ok_iff, Prod.mk.injEq] at succeeded
      obtain ⟨credential, between, ⟨found, -⟩, secret, decryptedWorld,
        decrypted, others, restWorld, restCollected, rfl, -⟩ := succeeded
      obtain ⟨sameProfiles, restHold⟩ := inductionHypothesis restCollected
      refine ⟨by rw [List.map_cons, sameProfiles], ?_⟩
      intro client member
      rcases List.mem_cons.mp member with rfl | inRest
      · exact ⟨credential, found, between, secret, decryptedWorld,
          decrypted, rfl⟩
      · exact restHold client inRest

end Tokens

end McpHostConfigurationRepository

/-- DPAPI decrypts a text to the same plain text whenever it succeeds. -/
structure Platform.Consistent {World : Type} (platform : Platform World) :
    Prop where
  unprotect :
    ∀ {cipherText purpose first second : Bytes}
      {world other later after : World},
      platform.unprotect cipherText purpose world = some (first, later) →
      platform.unprotect cipherText purpose other = some (second, after) →
      first = second

namespace McpHostConfigurationRepository

section Uniqueness

variable {World : Type}
variable {platform : Platform World}
variable {protectedToken : Bytes}

/-- A protected token has at most one plain token. -/
theorem DecryptsTo.unique
    {first second : Bytes}
    (consistent : platform.Consistent)
    (firstDecrypts : DecryptsTo platform protectedToken first)
    (secondDecrypts : DecryptsTo platform protectedToken second) :
    first = second := by
  obtain ⟨world, secret, later, decrypted, rfl⟩ := firstDecrypts
  obtain ⟨other, otherSecret, after, otherDecrypted, rfl⟩ := secondDecrypts
  obtain ⟨protectedBytes, decoded, plain, -⟩ :=
    unprotectBearerToken_iff.mp decrypted
  obtain ⟨otherBytes, otherDecoded, otherPlain, -⟩ :=
    unprotectBearerToken_iff.mp otherDecrypted
  rw [decoded, Option.some.injEq] at otherDecoded
  subst otherDecoded
  exact consistent.unprotect plain otherPlain

end Uniqueness

end McpHostConfigurationRepository

namespace McpHost

open McpHostConfigurationRepository

section Starts

variable {World : Type}
variable {library : DocumentLibrary}
variable {platform : Platform World}
variable {path : FilesystemPath}
variable {profiles : List McpClientProfile}
variable {host : McpHost}
variable {files : FileSystem}

/-- A start that launches without running leaves no clients. -/
theorem clients_launch_of_stopped
    {startHost : HttpHostOptions → Option Bytes}
    {configuration : McpHostConfiguration}
    {clients : List AuthenticatedClient}
    (stopped :
      (launch startHost host configuration clients files).2.2.running =
        false) :
    (launch startHost host configuration clients files).2.2.clients =
      [] := by
  unfold launch at stopped ⊢
  cases answered : startHost (hostOptions configuration) with
  | some error =>
      rfl
  | none =>
      rw [answered] at stopped
      cases stopped

/-- Every way out of a start that does not run leaves no clients. -/
theorem clients_startEnabled_of_stopped
    {saveOutcome : ReplacementOutcome}
    {startHost : HttpHostOptions → Option Bytes}
    {loaded : McpHostConfiguration}
    {world : World}
    (noClients : host.clients = [])
    (stopped :
      (startEnabled library platform saveOutcome startHost path profiles
        host loaded files world).2.2.running = false) :
    (startEnabled library platform saveOutcome startHost path profiles
      host loaded files world).2.2.clients = [] := by
  unfold startEnabled at stopped ⊢
  cases ensuring :
      ensureClientCredentials platform loaded profiles world with
  | error error =>
      exact noClients
  | ok outcome =>
      rcases outcome with ⟨ensured, between⟩
      simp only [ensuring] at stopped ⊢
      generalize
        saveAdded library saveOutcome path loaded ensured files = saved
        at stopped ⊢
      rcases saved with ⟨thrown | error | done, savedFiles⟩
      · exact noClients
      · exact noClients
      · simp only at stopped ⊢
        cases collecting :
            collectClients platform ensured profiles between with
        | error error =>
            exact noClients
        | ok collected =>
            simp only [collecting] at stopped ⊢
            exact clients_launch_of_stopped stopped

theorem clients_start_of_stopped
    {saveOutcome : ReplacementOutcome}
    {startHost : HttpHostOptions → Option Bytes}
    {world : World}
    (stopped :
      (start library platform saveOutcome startHost path profiles host
        files world).2.2.running = false) :
    (start library platform saveOutcome startHost path profiles host
      files world).2.2.clients = [] := by
  have noClients : host.stop.clients = [] := rfl
  unfold start at stopped ⊢
  rcases loading : load library (files path) with
    (exception | error) | loaded
  · exact noClients
  · exact noClients
  · simp only [loading] at stopped ⊢
    by_cases disabled : loaded.enabled = false
    · simp [disabled, noClients]
    · by_cases noProfiles : profiles.isEmpty = true
      · simp [disabled, noProfiles, fail, noClients]
      · simp only [disabled, noProfiles, Bool.false_eq_true,
          ↓reduceIte] at stopped ⊢
        exact clients_startEnabled_of_stopped noClients stopped

/-- What a start saves is not truncated at close. -/
def SavesWhole
    (library : DocumentLibrary)
    (platform : Platform World)
    (path : FilesystemPath)
    (profiles : List McpClientProfile)
    (files : FileSystem)
    (supply : StartSupply World) : Prop :=
  ∀ loaded ensured later,
    load library (files path) = .ok loaded →
    ensureClientCredentials platform loaded profiles supply.world =
      .ok (ensured, later) →
    ¬ TruncatedAtClose supply.saveOutcome (text library ensured)

/-- The file of a running host stores the credentials of its clients. -/
theorem load_of_running
    {supply : StartSupply World}
    (readsBack :
      ∀ configuration, ReadsBack library (document configuration))
    (named : ∀ profile ∈ profiles, profile.id ≠ [])
    (whole : SavesWhole library platform path profiles files supply)
    (runs :
      (start library platform supply.saveOutcome supply.startHost path
        profiles host files supply.world).2.2.running = true) :
    ∃ configuration between clients later,
      load library
          ((start library platform supply.saveOutcome supply.startHost
            path profiles host files supply.world).2.1 path) =
        .ok configuration ∧
        collectClients platform configuration profiles between =
          .ok (clients, later) ∧
        (start library platform supply.saveOutcome supply.startHost path
          profiles host files supply.world).2.2.clients = clients := by
  obtain ⟨loaded, ensured, between, clients, later, loading, ensuring,
    saved, collecting, sameClients, sameFiles⟩ := stages_of_running runs
  have completes :=
    completes_ensureClientCredentials (wellFormed_of_load loading)
      (storable_of_load loading) named ensuring
  refine ⟨ensured, between, clients, later, ?_, collecting, sameClients⟩
  rw [sameFiles]
  rcases completes.counted with rfl | grown
  · simpa [saveAdded] using loading
  · have counted :
        ensured.clientCredentials.length ≠
          loaded.clientCredentials.length := by
      omega
    rw [saveAdded, if_pos counted] at saved ⊢
    rcases @save_cases _ _ path _ files
        (whole loaded ensured between loading ensuring) with
      ⟨-, content, written, held⟩ | ⟨failed, -⟩
    · rw [held, load_text completes.storable (readsBack ensured) written]
      have current := completes.current
      unfold withoutLegacy
      rw [← current]
    · exact absurd saved failed

end Starts

end McpHost

namespace HostState

open McpHostConfigurationRepository McpHost

section Agreement

variable {World : Type}
variable (library : DocumentLibrary)
variable (platform : Platform World)

/-- What a call saves is not truncated at close. -/
def SavesWhole (state : HostState) : HostCall World → Prop
  | .start profiles supply =>
      McpHost.SavesWhole library platform state.desktop.mcpHostPath
        profiles state.files supply
  | .stop => True
  | .regenerate clientId supply =>
      (∀ loaded rotated later,
        load library (state.files state.desktop.mcpHostPath) =
            .ok loaded →
        state.desktop.rotate platform loaded clientId supply.world =
            .ok (rotated, later) →
        ¬ TruncatedAtClose supply.saveOutcome (text library rotated)) ∧
        McpHost.SavesWhole library platform state.desktop.mcpHostPath
          state.desktop.profiles
          (state.desktop.saveRotated library platform clientId supply
            state.files).2
          supply.restart

/-- The clients of a call's profiles have ids. -/
def NamesProfiles : HostCall World → Prop
  | .start profiles _ => ∀ profile ∈ profiles, profile.id ≠ []
  | .stop => True
  | .regenerate _ _ => True

/-- The clients are those started, with the tokens that the file stores. -/
structure Answers
    (files : FileSystem)
    (path : FilesystemPath)
    (started : List McpClientProfile)
    (host : McpHost) : Prop where
  profiles : host.clients.map AuthenticatedClient.profile = started
  tokens :
    ∃ configuration,
      load library (files path) = .ok configuration ∧
        ∀ client ∈ host.clients,
          HoldsToken platform configuration client

/-- A running host answers for the file; another one has no clients. -/
structure Sound (state : HostState) : Prop where
  named : ∀ profile ∈ state.desktop.profiles, profile.id ≠ []
  running :
    state.desktop.mcpHost.running = true →
    Answers library platform state.files state.desktop.mcpHostPath
      state.started state.desktop.mcpHost
  stopped :
    state.desktop.mcpHost.running = false →
    state.desktop.mcpHost.clients = []

variable {library platform}

theorem answers_start
    {path : FilesystemPath}
    {profiles : List McpClientProfile}
    {host : McpHost}
    {files : FileSystem}
    {supply : StartSupply World}
    (readsBack :
      ∀ configuration, ReadsBack library (document configuration))
    (named : ∀ profile ∈ profiles, profile.id ≠ [])
    (whole :
      McpHost.SavesWhole library platform path profiles files supply)
    (runs :
      (start library platform supply.saveOutcome supply.startHost path
        profiles host files supply.world).2.2.running = true) :
    Answers library platform
      (start library platform supply.saveOutcome supply.startHost path
        profiles host files supply.world).2.1
      path profiles
      (start library platform supply.saveOutcome supply.startHost path
        profiles host files supply.world).2.2 := by
  obtain ⟨configuration, between, clients, later, loading, collecting,
    sameClients⟩ := load_of_running readsBack named whole runs
  obtain ⟨sameProfiles, hold⟩ :=
    holdsToken_of_collectClients platform collecting
  refine ⟨?_, configuration, loading, ?_⟩
  · rw [sameClients]
    exact sameProfiles
  · rw [sameClients]
    exact hold

/-- Only the content of the configuration file matters. -/
theorem Answers.congr
    {files others : FileSystem}
    {path : FilesystemPath}
    {started : List McpClientProfile}
    {host : McpHost}
    (answers : Answers library platform files path started host)
    (same : others path = files path) :
    Answers library platform others path started host where
  profiles := answers.profiles
  tokens := by
    rw [same]
    exact answers.tokens

/-- A replacement that does not succeed leaves the configuration file. -/
theorem saveRotated_cases
    {state : HostState}
    {clientId : Bytes}
    {supply : RegenerateSupply World}
    (whole :
      state.SavesWhole library platform (.regenerate clientId supply)) :
    (state.desktop.saveRotated library platform clientId supply
          state.files).1 = .ok (.ok ()) ∨
      (state.desktop.saveRotated library platform clientId supply
        state.files).2 state.desktop.mcpHostPath =
        state.files state.desktop.mcpHostPath := by
  unfold McpHostDesktop.saveRotated
  rcases loading :
      load library (state.files state.desktop.mcpHostPath) with
    (exception | error) | loaded
  · exact .inr rfl
  · exact .inr rfl
  · simp only
    cases rotating :
        state.desktop.rotate platform loaded clientId supply.world with
    | error error =>
        exact .inr rfl
    | ok outcome =>
        rcases outcome with ⟨rotated, later⟩
        have complete := whole.1 loaded rotated later loading rotating
        rcases @save_cases _ _ state.desktop.mcpHostPath _ state.files
            complete with ⟨succeeded, -⟩ | ⟨-, unchanged⟩
        · exact .inl succeeded
        · exact .inr unchanged

/-- A call that leaves the host and the configuration file keeps both. -/
theorem Sound.keep
    {state : HostState}
    (sound : Sound library platform state)
    {files : FileSystem}
    (same :
      files state.desktop.mcpHostPath =
        state.files state.desktop.mcpHostPath)
    (configError : Bytes) :
    Sound library platform {
      desktop := { state.desktop with configError := configError }
      files := files
      started := state.started } where
  named := sound.named
  running runs := (sound.running runs).congr same
  stopped := sound.stopped

/-- After a start both hold whatever was there before. -/
theorem sound_start
    {state : HostState}
    {profiles : List McpClientProfile}
    {files : FileSystem}
    {supply : StartSupply World}
    (readsBack :
      ∀ configuration, ReadsBack library (document configuration))
    (sound : Sound library platform state)
    (named : ∀ profile ∈ profiles, profile.id ≠ [])
    (whole :
      McpHost.SavesWhole library platform state.desktop.mcpHostPath
        profiles files supply)
    (configError : Bytes) :
    Sound library platform {
      desktop :=
        { (state.desktop.startMcpHost library platform profiles supply
            files).2.2 with
          configError := configError }
      files :=
        (state.desktop.startMcpHost library platform profiles supply
          files).2.1
      started := profiles } where
  named := sound.named
  running runs := answers_start readsBack named whole runs
  stopped stopped := clients_start_of_stopped stopped

theorem sound_regenerate
    {state : HostState}
    {clientId : Bytes}
    {supply : RegenerateSupply World}
    (readsBack :
      ∀ configuration, ReadsBack library (document configuration))
    (sound : Sound library platform state)
    (whole :
      state.SavesWhole library platform (.regenerate clientId supply)) :
    Sound library platform
      (state.advance library platform (.regenerate clientId supply)).1 := by
  have cases := saveRotated_cases whole
  have restarts := whole.2
  simp only [advance, McpHostDesktop.regenerateMcpBearerToken]
  generalize state.desktop.saveRotated library platform clientId supply
    state.files = saved at cases restarts ⊢
  rcases saved with ⟨exception | error | done, files⟩
  · exact sound.keep (cases.resolve_left (by simp)) _
  · exact sound.keep (cases.resolve_left (by simp)) _
  · simp only
    by_cases runs : state.desktop.mcpHost.running = true
    · have restarted :=
        sound_start readsBack sound sound.named restarts
      simp only [startedAfter, runs, ↓reduceIte]
      generalize state.desktop.startMcpHost library platform
        state.desktop.profiles supply.restart files = outcome
        at restarted ⊢
      rcases outcome with ⟨exception | error | done, later, desktop⟩
      · exact restarted desktop.configError
      · exact restarted error
      · exact restarted desktop.configError
    · -- The file changed, but nothing runs that would have to follow it.
      simp only [startedAfter, runs, Bool.false_eq_true, ↓reduceIte]
      exact ⟨sound.named, fun running => absurd running runs,
        sound.stopped⟩

/-- A call keeps the agreement. -/
theorem sound_advance
    {state : HostState}
    {call : HostCall World}
    (readsBack :
      ∀ configuration, ReadsBack library (document configuration))
    (sound : Sound library platform state)
    (named : NamesProfiles call)
    (whole : state.SavesWhole library platform call) :
    Sound library platform (state.advance library platform call).1 := by
  cases call with
  | start profiles supply =>
      exact sound_start readsBack sound named whole _
  | stop =>
      refine ⟨sound.named, ?_, fun _ => rfl⟩
      intro runs
      cases runs
  | regenerate clientId supply =>
      exact sound_regenerate readsBack sound whole

end Agreement

end HostState

section Runs

variable {World : Type}
variable (library : DocumentLibrary)
variable (platform : Platform World)
variable (profiles : List McpClientProfile)
variable (path : FilesystemPath)
variable (files : FileSystem)

/-- The agreement holds after every run. -/
theorem sound_hostMachine
    (readsBack :
      ∀ configuration,
        ReadsBack library
          (McpHostConfigurationRepository.document configuration))
    (named : ∀ profile ∈ profiles, profile.id ≠ [])
    (calls : List (HostCall World))
    (namedCalls : ∀ call ∈ calls, HostState.NamesProfiles call)
    (whole :
      ∀ earlier call,
        earlier ++ [call] <+: calls →
        ((hostMachine library platform profiles path files).state
          earlier).SavesWhole library platform call) :
    HostState.Sound library platform
      ((hostMachine library platform profiles path files).state
        calls) := by
  induction calls using List.reverseRecOn with
  | nil =>
      refine ⟨named, ?_, fun _ => rfl⟩
      intro runs
      cases runs
  | append_singleton calls call inductionHypothesis =>
      rw [Machine.state_snoc]
      have sound :=
        inductionHypothesis
          (fun other member =>
            namedCalls other (List.mem_append_left _ member))
          (fun earlier step isPrefix =>
            whole earlier step
              (isPrefix.trans (List.prefix_append _ _)))
      exact HostState.sound_advance readsBack sound
        (namedCalls call (by simp))
        (whole calls call (List.prefix_refl _))

end Runs

/-- Without clients no request to the endpoint reaches the handler. -/
theorem handle_of_no_clients
    {State : Type}
    {service : LocalMcpHttpService}
    (noClients : service.clients = [])
    (library : JsonLibrary)
    (invoke : Invoke State)
    {request : HttpRequest}
    (atPath : request.path = kMcpPath)
    (isPost : request.method = bytes "POST")
    (state : State) :
    ∃ status ∈ [401, 403],
      service.handle library invoke request state =
        (.ok { status := status }, state) := by
  have nobody : service.authenticate request = none := by
    simp [LocalMcpHttpService.authenticate, noClients]
  have notOptions : bytes "POST" ≠ bytes "OPTIONS" := by
    decide
  unfold LocalMcpHttpService.handle
  simp only [atPath, isPost, nobody, notOptions, ne_eq, not_true_eq_false,
    ↓reduceIte]
  split
  · exact ⟨403, by simp, rfl⟩
  · exact ⟨401, by simp, rfl⟩

/-- The host agrees with its configuration file and is otherwise closed. -/
structure HostAgrees
    {World : Type}
    (library : DocumentLibrary)
    (platform : Platform World)
    (state : HostState) : Prop where
  /-- The clients of a running host are those of the latest start. -/
  profiles :
    state.desktop.mcpHost.running = true →
    state.desktop.mcpHost.clients.map AuthenticatedClient.profile =
      state.started
  /-- Each has the token of the credential that the file stores now. -/
  tokens :
    state.desktop.mcpHost.running = true →
    ∃ configuration,
      McpHostConfigurationRepository.load library
          (state.files state.desktop.mcpHostPath) =
        .ok configuration ∧
        ∀ client ∈ state.desktop.mcpHost.clients,
          McpHostConfigurationRepository.HoldsToken platform
            configuration client
  /-- A token that is exported now is the one its client has. -/
  exports :
    state.desktop.mcpHost.running = true →
    ∀ client ∈ state.desktop.mcpHost.clients,
      ∀ world token,
        state.desktop.mcpBearerTokenForExport library platform
            client.profile.id state.files world =
          .ok (some token) →
        token = client.bearerToken
  /-- A host that does not run has no clients. -/
  closed :
    state.desktop.mcpHost.running = false →
    state.desktop.mcpHost.clients = []
  /-- No request then reaches the protocol handler. -/
  refuses :
    state.desktop.mcpHost.running = false →
    ∀ (State : Type)
      (invoke : Invoke State)
      (request : HttpRequest)
      (application : State),
      request.path = kMcpPath →
      request.method = bytes "POST" →
      ∃ status ∈ [401, 403],
        state.desktop.mcpHost.service.handle library.toJsonLibrary invoke
            request application =
          (.ok { status := status }, application)

theorem HostState.Sound.agrees
    {World : Type}
    {library : DocumentLibrary}
    {platform : Platform World}
    {state : HostState}
    (consistent : platform.Consistent)
    (sound : Sound library platform state) :
    HostAgrees library platform state where
  profiles runs := (sound.running runs).profiles
  tokens runs := (sound.running runs).tokens
  exports := by
    intro runs client member world token exported
    obtain ⟨configuration, loading, hold⟩ := (sound.running runs).tokens
    obtain ⟨credential, found, decrypts⟩ := hold client member
    simp only [McpHostDesktop.mcpBearerTokenForExport, loading, found,
      Except.ok.injEq, Option.map_eq_some_iff] at exported
    obtain ⟨⟨secret, later⟩, decrypted, rfl⟩ := exported
    exact McpHostConfigurationRepository.DecryptsTo.unique consistent
      ⟨world, secret, later, decrypted, rfl⟩ decrypts
  closed := sound.stopped
  refuses := by
    intro stopped State invoke request application atPath isPost
    exact handle_of_no_clients (sound.stopped stopped) _ invoke atPath
      isPost application

/--
After any sequence of starts, stops and replacements the host agrees with the
configuration file, provided that nothing else writes it and that every save
replaces it as a whole or fails.
-/
theorem hostAgrees_hostMachine
    {World : Type}
    (library : DocumentLibrary)
    (platform : Platform World)
    (profiles : List McpClientProfile)
    (path : FilesystemPath)
    (files : FileSystem)
    (consistent : platform.Consistent)
    (readsBack :
      ∀ configuration,
        ReadsBack library
          (McpHostConfigurationRepository.document configuration))
    (named : ∀ profile ∈ profiles, profile.id ≠ [])
    (calls : List (HostCall World))
    (namedCalls : ∀ call ∈ calls, HostState.NamesProfiles call)
    (whole :
      ∀ earlier call,
        earlier ++ [call] <+: calls →
        ((hostMachine library platform profiles path files).state
          earlier).SavesWhole library platform call) :
    HostAgrees library platform
      ((hostMachine library platform profiles path files).state calls) :=
  (sound_hostMachine library platform profiles path files readsBack named
    calls namedCalls whole).agrees consistent

section OneProfile

open McpHostConfigurationRepository

theorem consistent_platform (secrets : SecretPair) :
    secrets.platform.Consistent where
  unprotect := by
    intro cipherText purpose first second world other later after
      firstPlain secondPlain
    simp only [SecretPair.platform, Option.map_eq_some_iff, Prod.mk.injEq]
      at firstPlain secondPlain
    obtain ⟨_, found, rfl, -⟩ := firstPlain
    obtain ⟨_, otherFound, rfl, -⟩ := secondPlain
    rw [found] at otherFound
    exact Option.some.inj otherFound

/-- The token that replaces the first one. -/
def freshToken : Bytes :=
  hexEncode (hexEncode (List.replicate 32 7))

/-- The documents before and after the replacement. -/
def agentDocuments : List (McpHostConfiguration × Bytes) := [
  (agentConfiguration (agentToken 97), agentText (agentToken 97)),
  (agentConfiguration freshToken, agentText freshToken)
]

/-- The file that is there before the first start. -/
def agentFiles : FileSystem :=
  fun _ => some (agentText (agentToken 97) ++ bytes "\n")

/-- Everything works. -/
def agentSupply (draws : Draws) : StartSupply Draws where
  world := draws
  saveOutcome := {
    opened := true
    drained := 1024
    streamed := true
    flushed := 0
    renameFailure := none
  }
  startHost _ := none

/-- Start the host and replace the token of its client. -/
def agentCalls : List (HostCall Draws) := [
  .start [agentProfile] (agentSupply []),
  .regenerate (bytes "agent") {
    world := [some (List.replicate 32 7)]
    saveOutcome := (agentSupply []).saveOutcome
    restart := agentSupply []
  }
]

/-- The replacement leaves the host running with the new token. -/
theorem hostAgrees_hostMachine_agent :
    HostAgrees (writtenLibrary [] agentDocuments) McpHost.plainSecrets.platform
      ((hostMachine (writtenLibrary [] agentDocuments)
        McpHost.plainSecrets.platform [agentProfile] (bytes "mcp-host.json")
        agentFiles).state agentCalls) := by
  have fits :
      ∀ entry ∈ agentDocuments,
        (entry.2 ++ bytes "\n").length ≤ 1024 + 0 := by
    decide +kernel
  have distinct :
      (agentDocuments.map fun entry => entry.2 ++ bytes "\n").Nodup := by
    decide +kernel
  refine hostAgrees_hostMachine _ _ _ _ _
    (consistent_platform McpHost.plainSecrets)
    (readsBack_writtenLibrary distinct) (by decide) agentCalls ?_ ?_
  · intro call member
    simp only [agentCalls, List.mem_cons, List.not_mem_nil, or_false]
      at member
    rcases member with rfl | rfl
    · change ∀ profile ∈ [agentProfile], profile.id ≠ []
      decide
    · trivial
  · intro earlier call isPrefix
    have member : call ∈ agentCalls := isPrefix.subset (by simp)
    simp only [agentCalls, List.mem_cons, List.not_mem_nil, or_false]
      at member
    rcases member with rfl | rfl
    · intro loaded ensured later loading ensuring
      exact not_truncatedAtClose_writtenLibrary fits ensured
    · constructor
      · intro loaded rotated later loading rotating
        exact not_truncatedAtClose_writtenLibrary fits rotated
      · intro loaded ensured later loading ensuring
        exact not_truncatedAtClose_writtenLibrary fits ensured

/-- In this run the client has the token that was drawn. -/
example :
    ((hostMachine (writtenLibrary [] agentDocuments)
      McpHost.plainSecrets.platform [agentProfile] (bytes "mcp-host.json")
      agentFiles).state agentCalls).desktop.mcpHost.clients.map
        AuthenticatedClient.bearerToken =
      [hexEncode (List.replicate 32 7)] := by
  decide +kernel

end OneProfile

end TgGate
