import TgGate.DatabaseKeys

namespace TgGate

open Library AccountRepository

/-!
# Failing starts of an authorization

`start_authorization` assigns a protected API hash to the account in memory
before it asks for a database key, and the key before it saves.  A call that
fails in between leaves the new secret in memory only, from where the next
save of any account writes it.  A call that saves, and one that fails before
it has a new secret, leave memory and file in agreement.
-/

namespace AccountStore

variable {World : Type}

/-- The API hash is at hand; an entered one has been assigned. -/
inductive HashReady
    (platform : Platform World)
    (request : StartRequest World)
    (account : AccountConfiguration) :
    AccountConfiguration → SecretBuffer → World → Prop
  | entered
      {protectedHash : Bytes}
      {plainApiHash : SecretBuffer}
      {world : World}
      (nonempty : request.apiHash ≠ [])
      (isProtected :
        protectApiHash platform account.id request.apiHash
            request.world =
          some (protectedHash, world))
      (fits :
        SecretBuffer.ofBytes? request.apiHash = some plainApiHash) :
      HashReady platform request account
        { account with apiHashDpapi := protectedHash } plainApiHash world
  | stored
      {plainApiHash : SecretBuffer}
      {world : World}
      (empty : request.apiHash = [])
      (decrypted :
        unprotectApiHash platform account.id account.apiHashDpapi
            request.world =
          .ok (plainApiHash, world)) :
      HashReady platform request account account plainApiHash world

/-- A call that has a hash and a key, and whose save succeeds. -/
structure Saved
    (platform : Platform World)
    (request : StartRequest World)
    (store : AccountStore) : Prop where
  ready :
    ∃ account hashed plainApiHash world ensured,
      store.accounts.find? (·.id = request.accountId) = some account ∧
        HashReady platform request account hashed plainApiHash world ∧
        ensureDatabaseKey platform hashed world = .ok ensured
  saved : request.saved = .ok ()

/-- A call that has a new secret and fails before it is saved. -/
inductive LosesSecret
    (platform : Platform World)
    (request : StartRequest World)
    (store : AccountStore) : Prop
  | hash
      {account : AccountConfiguration}
      {protectedHash : Bytes}
      {world : World}
      (found :
        store.accounts.find? (·.id = request.accountId) = some account)
      (nonempty : request.apiHash ≠ [])
      (isProtected :
        protectApiHash platform account.id request.apiHash
            request.world =
          some (protectedHash, world))
      (isNew : protectedHash ≠ account.apiHashDpapi)
      (interrupted :
        SecretBuffer.ofBytes? request.apiHash = none ∨
          ∃ error,
            ensureDatabaseKey platform
                { account with apiHashDpapi := protectedHash } world =
              .error error)
  | save
      {account hashed ensured : AccountConfiguration}
      {plainApiHash : SecretBuffer}
      {world later : World}
      (found :
        store.accounts.find? (·.id = request.accountId) = some account)
      (ready :
        HashReady platform request account hashed plainApiHash world)
      (isEnsured :
        ensureDatabaseKey platform hashed world = .ok (ensured, later))
      (isNew : ensured ≠ account)
      (failed : ∃ error, request.saved = .error error)

/--
Memory holds what a process that loads the file would hold.  Paths compare by
their elements, so that repeated separators make no difference.
-/
def Persisted
    (library : DocumentLibrary)
    (store : AccountStore) : Prop :=
  store.accounts.map spelledGenerically =
    (load library store.file).accounts.map spelledGenerically

/-- Nothing changes in memory only. -/
structure LeavesIntact
    (library : DocumentLibrary)
    (platform : Platform World)
    (request : StartRequest World)
    (store : AccountStore) : Prop where
  unchanged :
    ∀ {error},
      (store.prepareAuthorization platform request).1 =
          .error (.refused error) →
      ¬ Saved platform request store →
      (store.prepareAuthorization platform request).2.accounts =
        store.accounts
  persisted :
    Persisted library (store.prepareAuthorization platform request).2

section Calls

variable {platform : Platform World}
variable {request : StartRequest World}
variable {store : AccountStore}
variable {account : AccountConfiguration}

/-- Assigning an account to itself changes nothing. -/
theorem assign_self
    (found :
      store.accounts.find? (·.id = request.accountId) = some account) :
    store.assign account = store := by
  have foundId : account.id = request.accountId := key_of_find? found
  have kept :
      (store.assign account).accounts.map id = store.accounts.map id := by
    refine map_modifyFirst fun item itemFound => ?_
    rw [foundId, found, Option.some.injEq] at itemFound
    exact itemFound
  rw [List.map_id, List.map_id] at kept
  change { store with accounts := (store.assign account).accounts } = store
  rw [kept]

/-- Assigning another account under the same id changes the list. -/
theorem accounts_assign_ne
    {changed : AccountConfiguration}
    (found :
      store.accounts.find? (·.id = request.accountId) = some account)
    (keeps : Keeps account changed)
    (isNew : changed ≠ account) :
    (store.assign changed).accounts.map spelledGenerically ≠
      store.accounts.map spelledGenerically := by
  intro same
  have after := find?_map_spelledGenerically
    (store.assign changed).accounts request.accountId
  rw [same, find?_map_spelledGenerically, found,
    find?_assign_self found keeps, Option.map_some, Option.map_some,
    Option.some.injEq] at after
  exact isNew (eq_of_spelledGenerically keeps.location after.symm)

/-- A hash that is ready has been chosen. -/
theorem HashReady.chooseApiHash_eq
    {hashed : AccountConfiguration}
    {plainApiHash : SecretBuffer}
    {world : World}
    (ready :
      HashReady platform request account hashed plainApiHash world) :
    chooseApiHash platform account request.apiHash request.world =
      (hashed, .ok (plainApiHash, world)) := by
  cases ready with
  | entered nonempty isProtected fits =>
      simp [chooseApiHash, nonempty, isProtected, fits]
  | stored empty decrypted =>
      simp [chooseApiHash, empty, decrypted]

/-- With a hash and a key, the call goes on to its save. -/
theorem prepareAuthorization_of_ready
    {hashed ensured : AccountConfiguration}
    {plainApiHash : SecretBuffer}
    {world later : World}
    (found :
      store.accounts.find? (·.id = request.accountId) = some account)
    (ready :
      HashReady platform request account hashed plainApiHash world)
    (isEnsured :
      ensureDatabaseKey platform hashed world = .ok (ensured, later)) :
    store.prepareAuthorization platform request =
      saveAndUnlock platform request ensured plainApiHash later
        (store.assign ensured) := by
  have sameId := (keeps_ensureDatabaseKey platform isEnsured).id_eq
  simp only [prepareAuthorization, found, ready.chooseApiHash_eq,
    isEnsured, assign_assign sameId]

/-- Without a key the call ends with the new hash in memory. -/
theorem prepareAuthorization_of_interrupted
    {protectedHash : Bytes}
    {world : World}
    (found :
      store.accounts.find? (·.id = request.accountId) = some account)
    (nonempty : request.apiHash ≠ [])
    (isProtected :
      protectApiHash platform account.id request.apiHash request.world =
        some (protectedHash, world))
    (interrupted :
      SecretBuffer.ofBytes? request.apiHash = none ∨
        ∃ error,
          ensureDatabaseKey platform
              { account with apiHashDpapi := protectedHash } world =
            .error error) :
    (store.prepareAuthorization platform request).2 =
      store.assign { account with apiHashDpapi := protectedHash } := by
  cases fits : SecretBuffer.ofBytes? request.apiHash with
  | none =>
      simp [prepareAuthorization, found, chooseApiHash, nonempty,
        isProtected, fits]
  | some plainApiHash =>
      obtain ⟨error, noKey⟩ :=
        interrupted.resolve_left (by simp [fits])
      simp [prepareAuthorization, found, chooseApiHash, nonempty,
        isProtected, fits, noKey]

/-- A call that fails to save keeps what it assigned. -/
theorem snd_saveAndUnlock_of_failed
    {ensured : AccountConfiguration}
    {plainApiHash : SecretBuffer}
    {later : World}
    {error : Bytes}
    (failed : request.saved = .error error) :
    (saveAndUnlock platform request ensured plainApiHash later
      store).2 = store := by
  rw [saveAndUnlock, failed]

/-- A call that saves writes what it assigned. -/
theorem snd_saveAndUnlock_of_saved
    {ensured : AccountConfiguration}
    {plainApiHash : SecretBuffer}
    {later : World}
    (saved : request.saved = .ok ()) :
    (saveAndUnlock platform request ensured plainApiHash later
      store).2 = store.save := by
  rw [saveAndUnlock, saved]
  simp only
  split <;> rfl

/-- A call that loses a secret has it in memory and not in the file. -/
theorem LosesSecret.diverges
    (loses : LosesSecret platform request store) :
    (store.prepareAuthorization platform request).2.file = store.file ∧
      (store.prepareAuthorization platform request).2.accounts.map
          spelledGenerically ≠
        store.accounts.map spelledGenerically := by
  cases loses with
  | @hash account protectedHash world found nonempty isProtected isNew
      interrupted =>
      rw [prepareAuthorization_of_interrupted found nonempty isProtected
        interrupted]
      refine ⟨rfl, accounts_assign_ne found ⟨rfl, fun _ => rfl⟩ ?_⟩
      intro same
      exact isNew (congrArg AccountConfiguration.apiHashDpapi same)
  | @save account hashed ensured plainApiHash world later found ready
      isEnsured isNew failed =>
      obtain ⟨error, failed⟩ := failed
      have hashKeeps :=
        keeps_chooseApiHash platform account request.apiHash
          request.world
      rw [ready.chooseApiHash_eq] at hashKeeps
      rw [prepareAuthorization_of_ready found ready isEnsured,
        snd_saveAndUnlock_of_failed failed]
      exact ⟨rfl, accounts_assign_ne found
        (hashKeeps.trans (keeps_ensureDatabaseKey platform isEnsured))
        isNew⟩

/-- The new hash of an interrupted call that loses none is the old one. -/
theorem snd_prepareAuthorization_of_interrupted
    {protectedHash : Bytes}
    {world : World}
    (kept : ¬ LosesSecret platform request store)
    (found :
      store.accounts.find? (·.id = request.accountId) = some account)
    (nonempty : request.apiHash ≠ [])
    (isProtected :
      protectApiHash platform account.id request.apiHash request.world =
        some (protectedHash, world))
    (interrupted :
      SecretBuffer.ofBytes? request.apiHash = none ∨
        ∃ error,
          ensureDatabaseKey platform
              { account with apiHashDpapi := protectedHash } world =
            .error error) :
    (store.prepareAuthorization platform request).2 = store := by
  have same : protectedHash = account.apiHashDpapi := by
    by_contra isNew
    exact kept
      (.hash found nonempty isProtected isNew interrupted)
  rw [prepareAuthorization_of_interrupted found nonempty isProtected
    interrupted, same]
  exact assign_self found

/-- A call with a hash and a key that loses none saves, or has no news. -/
theorem snd_prepareAuthorization_of_ready
    {hashed ensured : AccountConfiguration}
    {plainApiHash : SecretBuffer}
    {world later : World}
    (kept : ¬ LosesSecret platform request store)
    (found :
      store.accounts.find? (·.id = request.accountId) = some account)
    (ready :
      HashReady platform request account hashed plainApiHash world)
    (isEnsured :
      ensureDatabaseKey platform hashed world = .ok (ensured, later)) :
    (store.prepareAuthorization platform request).2 = store ∨
      Saved platform request store ∧
        ∃ changed,
          (store.prepareAuthorization platform request).2 =
            (store.assign changed).save := by
  rw [prepareAuthorization_of_ready found ready isEnsured]
  cases saved : request.saved with
  | error error =>
      have same : ensured = account := by
        by_contra isNew
        exact kept (.save found ready isEnsured isNew ⟨error, saved⟩)
      left
      rw [snd_saveAndUnlock_of_failed saved, same]
      exact assign_self found
  | ok done =>
      refine .inr ⟨⟨⟨account, hashed, plainApiHash, world,
        (ensured, later), found, ready, isEnsured⟩, saved⟩, ensured, ?_⟩
      exact snd_saveAndUnlock_of_saved saved

/-- A call that loses no secret changes nothing, or saves what it changes. -/
theorem snd_prepareAuthorization_of_not_loses
    (kept : ¬ LosesSecret platform request store) :
    (store.prepareAuthorization platform request).2 = store ∨
      Saved platform request store ∧
        ∃ changed,
          (store.prepareAuthorization platform request).2 =
            (store.assign changed).save := by
  cases found : store.accounts.find? (·.id = request.accountId) with
  | none =>
      left
      simp [prepareAuthorization, found]
  | some account =>
      by_cases empty : request.apiHash = []
      · cases decrypted :
            unprotectApiHash platform account.id account.apiHashDpapi
              request.world with
        | error failure =>
            left
            refine Eq.trans ?_ (assign_self found)
            cases failure <;>
              simp [prepareAuthorization, found, chooseApiHash, empty,
                decrypted]
        | ok chosen =>
            rcases chosen with ⟨plainApiHash, world⟩
            cases key : ensureDatabaseKey platform account world with
            | error error =>
                left
                refine Eq.trans ?_ (assign_self found)
                simp [prepareAuthorization, found, chooseApiHash, empty,
                  decrypted, key]
            | ok ensured =>
                exact snd_prepareAuthorization_of_ready kept found
                  (.stored empty decrypted) key
      · cases isProtected :
            protectApiHash platform account.id request.apiHash
              request.world with
        | none =>
            left
            refine Eq.trans ?_ (assign_self found)
            simp [prepareAuthorization, found, chooseApiHash, empty,
              isProtected]
        | some outcome =>
            rcases outcome with ⟨protectedHash, world⟩
            cases fits : SecretBuffer.ofBytes? request.apiHash with
            | none =>
                exact .inl (snd_prepareAuthorization_of_interrupted kept
                  found empty isProtected (.inl fits))
            | some plainApiHash =>
                cases key :
                    ensureDatabaseKey platform
                      { account with apiHashDpapi := protectedHash }
                      world with
                | error error =>
                    exact .inl (snd_prepareAuthorization_of_interrupted
                      kept found empty isProtected (.inr ⟨error, key⟩))
                | ok ensured =>
                    exact snd_prepareAuthorization_of_ready kept found
                      (.entered empty isProtected fits) key

/-- What was saved is what is loaded. -/
theorem persisted_save
    {library : DocumentLibrary}
    (acceptable : Acceptable store.accounts) :
    Persisted library store.save := by
  unfold Persisted load save
  simp only [readFile, parse_document library acceptable, List.map_map]
  refine List.map_congr_left fun account _ => ?_
  exact (spelledGenerically_spelledGenerically account).symm

/-- A call that loses no secret leaves memory and file in agreement. -/
theorem leavesIntact_of_not_loses
    {library : DocumentLibrary}
    (acceptable : Acceptable store.accounts)
    (persisted : Persisted library store)
    (kept : ¬ LosesSecret platform request store) :
    LeavesIntact library platform request store := by
  have accepted :
      Acceptable
        (store.prepareAuthorization platform request).2.accounts :=
    (prepared_prepareAuthorization platform request store).acceptable
      acceptable
  rcases snd_prepareAuthorization_of_not_loses kept with
    same | ⟨saved, changed, same⟩
  · refine ⟨fun _ _ => ?_, ?_⟩
    · rw [same]
    · rwa [same]
  · refine ⟨fun _ unsaved => absurd saved unsaved, ?_⟩
    rw [same] at accepted ⊢
    exact persisted_save accepted

end Calls

end AccountStore

section Runs

open AccountStore

variable {World : Type}

/-- Every start of a run leaves memory and file in agreement. -/
def RunIntact
    (library : DocumentLibrary)
    (platform : Platform World)
    (file : Option Json)
    (calls : List (AccountCall World)) : Prop :=
  ∀ earlier request later,
    calls = earlier ++ .start request :: later →
    LeavesIntact library platform request
      ((accountMachine library platform file).state earlier)

variable {library : DocumentLibrary}
variable {platform : Platform World}
variable {file : Option Json}
variable {calls : List (AccountCall World)}

/-- The accounts of a run stay acceptable. -/
theorem acceptable_run
    (calls : List (AccountCall World)) :
    Acceptable
      ((accountMachine library platform file).state calls).accounts := by
  induction calls using List.reverseRecOn with
  | nil =>
      exact acceptable_load library file
  | append_singleton calls call inductionHypothesis =>
      rw [Machine.state_snoc]
      cases call with
      | start request =>
          exact (prepared_prepareAuthorization platform request
            _).acceptable inductionHypothesis
      | restart =>
          exact acceptable_load library _

/-- An intact run ends with memory and file in agreement. -/
theorem RunIntact.persisted
    (intact : RunIntact library platform file calls) :
    Persisted library
      ((accountMachine library platform file).state calls) := by
  cases calls using List.reverseRecOn with
  | nil =>
      rfl
  | append_singleton calls call =>
      rw [Machine.state_snoc]
      cases call with
      | start request =>
          exact (intact calls request [] rfl).persisted
      | restart =>
          rfl

/-- A part of an intact run is intact. -/
theorem RunIntact.left
    {first second : List (AccountCall World)}
    (intact : RunIntact library platform file (first ++ second)) :
    RunIntact library platform file first := by
  intro earlier request later split
  refine intact earlier request (later ++ second) ?_
  rw [split, List.append_assoc, List.cons_append]

/-- Memory and file agree throughout a run that loses no secret. -/
theorem persisted_of_not_loses
    (kept :
      ∀ earlier request later,
        calls = earlier ++ .start request :: later →
        ¬ LosesSecret platform request
          ((accountMachine library platform file).state earlier))
    {earlier later : List (AccountCall World)}
    (split : calls = earlier ++ later) :
    Persisted library
      ((accountMachine library platform file).state earlier) := by
  induction earlier using List.reverseRecOn generalizing later with
  | nil =>
      rfl
  | append_singleton earlier call inductionHypothesis =>
      rw [List.append_assoc, List.singleton_append] at split
      rw [Machine.state_snoc]
      cases call with
      | start request =>
          exact (leavesIntact_of_not_loses (acceptable_run earlier)
            (inductionHypothesis split)
            (kept earlier request later split)).persisted
      | restart =>
          rfl

/--
A run is intact exactly if no call of it has a new secret and fails before it
is saved.
-/
theorem runIntact_iff
    (library : DocumentLibrary)
    (platform : Platform World)
    (file : Option Json)
    (calls : List (AccountCall World)) :
    RunIntact library platform file calls ↔
      ∀ earlier request later,
        calls = earlier ++ .start request :: later →
        ¬ LosesSecret platform request
          ((accountMachine library platform file).state earlier) := by
  constructor
  · intro intact earlier request later split loses
    have agreed : RunIntact library platform file earlier := by
      rw [split] at intact
      exact intact.left
    have before := agreed.persisted
    have after := (intact earlier request later split).persisted
    obtain ⟨sameFile, different⟩ := loses.diverges
    unfold Persisted at before after
    rw [sameFile, ← before] at after
    exact different after
  · intro kept earlier request later split
    exact leavesIntact_of_not_loses (acceptable_run earlier)
      (persisted_of_not_loses kept split)
      (kept earlier request later split)

/-- A platform that protects texts and has no random bytes. -/
def keylessPlatform : Platform Unit :=
  { plainPlatform with randomBytes := fun _ _ => none }

/-- The hash of a start without a key stays in memory alone. -/
theorem enteredHash_notPersisted :
    ((accountMachine workLibrary keylessPlatform (some workFile)).state
        [.start workRequest]).accounts =
      [{ workAccount with
          apiHashDpapi := hexEncode (bytes "0123456789abcdef") }] ∧
    ¬ RunIntact workLibrary keylessPlatform (some workFile)
      [.start workRequest] := by
  have assigned :
      ((accountMachine workLibrary keylessPlatform (some workFile)).state
          [.start workRequest]).accounts =
        [{ workAccount with
            apiHashDpapi := hexEncode (bytes "0123456789abcdef") }] := by
    decide +kernel
  have onDisk :
      (load workLibrary
          ((accountMachine workLibrary keylessPlatform
            (some workFile)).state [.start workRequest]).file).accounts =
        [workAccount] := by
    decide +kernel
  refine ⟨assigned, fun intact => ?_⟩
  have agreed := intact.persisted
  unfold Persisted at agreed
  rw [assigned, onDisk] at agreed
  exact absurd agreed (by decide)

end Runs

end TgGate
