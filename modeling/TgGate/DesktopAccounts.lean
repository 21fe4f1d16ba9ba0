import TgGate.AccountDocuments

namespace TgGate

open Library

/-!
# Starting authorization from the desktop

`DesktopUiState` keeps the account configurations in memory.  A call of
`start_authorization` prepares the options of a TDLib account: it takes over or
decrypts the API hash, makes sure that there is a database key, saves all
accounts and decrypts the key again.  Only then is a `TdAccount` created.

The accounts file is represented by the document it holds, and a save either
replaces that document or leaves it alone.
-/

/-- What a `TdAccount` is started with. -/
structure TdAccountOptions where
  accountId : Bytes := []
  databaseDirectory : FilesystemPath := []
  filesDirectory : FilesystemPath := []
  apiId : Int32 := 0
  apiHash : SecretBuffer := .nothing
  databaseEncryptionKey : SecretBuffer := .nothing
  phoneNumber : Bytes := []
  deriving DecidableEq

/-- Nothing that TDLib needs is missing. -/
def TdAccountOptions.isComplete (options : TdAccountOptions) : Bool :=
  !options.accountId.isEmpty && 0 < options.apiId &&
    !options.apiHash.isEmpty && !options.databaseEncryptionKey.isEmpty &&
    !options.phoneNumber.isEmpty

/-- The accounts file and the accounts in memory. -/
structure AccountStore where
  file : Option Json
  accounts : List AccountConfiguration

/-- One call of `start_authorization`, with the outcome of its save. -/
structure StartRequest (World : Type) where
  accountId : Bytes
  phoneNumber : Bytes
  apiHash : Bytes
  saved : Except Bytes Unit
  world : World

/-- Why a call ends before a `TdAccount` is created. -/
inductive Interruption where
  | refused (error : Bytes)
  | thrown
  deriving Repr, DecidableEq

namespace AccountStore

open AccountRepository

/-- Read the accounts file; nothing is loaded from a file that is refused. -/
def readFile
    (library : DocumentLibrary) :
    Option Json → Except ParseFailure (List AccountConfiguration)
  | none =>
      .error (.rejected (bytes "Cannot open account configuration file"))
  | some document => parse library document

/-- The store of a process that finds a file. -/
def load
    (library : DocumentLibrary)
    (file : Option Json) : AccountStore where
  file := file
  accounts :=
    match readFile library file with
    | .ok accounts => accounts
    | .error _ => []

/-- The accounts of a process are acceptable from the beginning. -/
theorem acceptable_load
    (library : DocumentLibrary)
    (file : Option Json) :
    Acceptable (load library file).accounts := by
  unfold load
  cases read : readFile library file with
  | error failure =>
      trivial
  | ok accounts =>
      cases file with
      | none =>
          cases read
      | some document =>
          exact acceptable_of_parse read

/-- Assign to the account that was found by its id. -/
def assign
    (account : AccountConfiguration)
    (store : AccountStore) : AccountStore :=
  { store with
    accounts :=
      modifyFirst (·.id = account.id) (fun _ => account)
        store.accounts }

/-- Replace the file by the document of the accounts in memory. -/
def save (store : AccountStore) : AccountStore :=
  { store with file := some (document store.accounts) }

section Start

variable {World : Type}
variable (platform : Platform World)

/--
Take over the API hash that was entered, or decrypt the stored one.  An entered
hash is stored before its buffer is built, which throws if it is too long.
-/
def chooseApiHash
    (account : AccountConfiguration)
    (apiHash : Bytes)
    (world : World) :
    AccountConfiguration × Except Interruption (SecretBuffer × World) :=
  if !apiHash.isEmpty then
    match protectApiHash platform account.id apiHash world with
    | none =>
        (account,
          .error (.refused
            (bytes "Cannot protect API hash with Windows DPAPI")))
    | some (protectedHash, world) =>
        ({ account with apiHashDpapi := protectedHash },
          match SecretBuffer.ofBytes? apiHash with
          | none => .error .thrown
          | some plainApiHash => .ok (plainApiHash, world))
  else
    (account,
      match unprotectApiHash platform account.id account.apiHashDpapi
          world with
      | .error .absent =>
          .error (.refused
            (bytes ("Enter the API hash once; it will be protected " ++
              "with DPAPI for later use")))
      | .error .capacityExceeded => .error .thrown
      | .ok result => .ok result)

/-- The options of an account whose secrets are in the clear. -/
def startOptions
    (account : AccountConfiguration)
    (plainApiHash databaseKey : SecretBuffer)
    (phoneNumber : Bytes) : TdAccountOptions where
  accountId := account.id
  databaseDirectory := account.databaseDirectory
  filesDirectory := account.filesDirectory
  apiId := account.apiId
  apiHash := plainApiHash
  databaseEncryptionKey := databaseKey
  phoneNumber := phoneNumber

/-- Save everything, then decrypt the database key of the account. -/
def saveAndUnlock
    (request : StartRequest World)
    (account : AccountConfiguration)
    (plainApiHash : SecretBuffer)
    (world : World)
    (store : AccountStore) :
    Except Interruption TdAccountOptions × AccountStore :=
  match request.saved with
  | .error error => (.error (.refused error), store)
  | .ok () =>
      match unprotectDatabaseKey platform account.id
          account.databaseKeyDpapi world with
      | none =>
          (.error (.refused
            (bytes ("TDLib database key cannot be decrypted for this " ++
              "Windows user and computer"))),
            store.save)
      | some (databaseKey, _) =>
          (.ok (startOptions account plainApiHash databaseKey
            request.phoneNumber), store.save)

/-- `start_authorization` up to the creation of the `TdAccount`. -/
def prepareAuthorization
    (request : StartRequest World)
    (store : AccountStore) :
    Except Interruption TdAccountOptions × AccountStore :=
  match store.accounts.find? (·.id = request.accountId) with
  | none => (.error (.refused (bytes "Unknown account")), store)
  | some account =>
      let (account, hash) :=
        chooseApiHash platform account request.apiHash request.world
      let store := store.assign account
      match hash with
      | .error interruption => (.error interruption, store)
      | .ok (plainApiHash, world) =>
          match ensureDatabaseKey platform account world with
          | .error error => (.error (.refused error), store)
          | .ok (account, world) =>
              saveAndUnlock platform request account plainApiHash world
                (store.assign account)

/-- The location of an account and a database key it already has stay. -/
structure Keeps (before after : AccountConfiguration) : Prop where
  location : location after = location before
  databaseKey :
    before.databaseKeyDpapi ≠ [] →
    after.databaseKeyDpapi = before.databaseKeyDpapi

theorem Keeps.id_eq
    {before after : AccountConfiguration}
    (keeps : Keeps before after) :
    after.id = before.id :=
  congrArg Location.id keeps.location

theorem Keeps.trans
    {before between after : AccountConfiguration}
    (first : Keeps before between)
    (second : Keeps between after) : Keeps before after where
  location := second.location.trans first.location
  databaseKey present := by
    have kept := first.databaseKey present
    rw [second.databaseKey (by rwa [kept]), kept]

/-- Choosing the API hash changes nothing but the API hash. -/
theorem keeps_chooseApiHash
    (account : AccountConfiguration)
    (apiHash : Bytes)
    (world : World) :
    Keeps account (chooseApiHash platform account apiHash world).1 := by
  unfold chooseApiHash
  split
  · split
    · exact ⟨rfl, fun _ => rfl⟩
    · exact ⟨rfl, fun _ => rfl⟩
  · exact ⟨rfl, fun _ => rfl⟩

/-- A key is made only for an account that has none. -/
theorem keeps_ensureDatabaseKey
    {account ensured : AccountConfiguration}
    {world later : World}
    (succeeded :
      ensureDatabaseKey platform account world = .ok (ensured, later)) :
    Keeps account ensured := by
  unfold ensureDatabaseKey at succeeded
  split at succeeded
  · simp only [Attempt.bind_eq_ok_iff, Attempt.pure_eq_ok_iff,
      Prod.mk.injEq] at succeeded
    obtain ⟨-, -, -, -, -, -, rfl, -⟩ := succeeded
    exact ⟨rfl, fun _ => rfl⟩
  · next noKey =>
      simp only [Attempt.bind_eq_ok_iff, Attempt.pure_eq_ok_iff,
        Prod.mk.injEq] at succeeded
      obtain ⟨-, -, -, -, -, -, key, -, -, protectedKey, -, -, rfl, -⟩ :=
        succeeded
      refine ⟨rfl, fun present => ?_⟩
      exact absurd (by simpa using present) noKey

/-- What one call of `start_authorization` does before TDLib is involved. -/
inductive Prepared
    (request : StartRequest World)
    (store : AccountStore) :
    Except Interruption TdAccountOptions → AccountStore → Prop
  | unknown
      (absent :
        store.accounts.find? (·.id = request.accountId) = none)
      (interruption : Interruption) :
      Prepared request store (.error interruption) store
  | interrupted
      {account changed : AccountConfiguration}
      (found :
        store.accounts.find? (·.id = request.accountId) = some account)
      (keeps : Keeps account changed)
      (interruption : Interruption) :
      Prepared request store (.error interruption)
        (store.assign changed)
  | locked
      {account changed : AccountConfiguration}
      (found :
        store.accounts.find? (·.id = request.accountId) = some account)
      (keeps : Keeps account changed)
      (interruption : Interruption) :
      Prepared request store (.error interruption)
        (store.assign changed).save
  | ready
      {account changed : AccountConfiguration}
      {plainApiHash databaseKey : SecretBuffer}
      {world later : World}
      (found :
        store.accounts.find? (·.id = request.accountId) = some account)
      (keeps : Keeps account changed)
      (unlocked :
        unprotectDatabaseKey platform changed.id changed.databaseKeyDpapi
            world =
          some (databaseKey, later)) :
      Prepared request store
        (.ok (startOptions changed plainApiHash databaseKey
          request.phoneNumber))
        (store.assign changed).save

/-- The second of two assignments to one account stands. -/
theorem assign_assign
    {first second : AccountConfiguration}
    (sameId : second.id = first.id)
    (store : AccountStore) :
    (store.assign first).assign second = store.assign second := by
  unfold assign
  rw [sameId]
  simp only
  rw [modifyFirst_modifyFirst (by simp)]

theorem prepared_saveAndUnlock
    {request : StartRequest World}
    {store : AccountStore}
    {account changed : AccountConfiguration}
    (found :
      store.accounts.find? (·.id = request.accountId) = some account)
    (keeps : Keeps account changed)
    (plainApiHash : SecretBuffer)
    (world : World) :
    Prepared platform request store
      (saveAndUnlock platform request changed plainApiHash world
        (store.assign changed)).1
      (saveAndUnlock platform request changed plainApiHash world
        (store.assign changed)).2 := by
  unfold saveAndUnlock
  split
  · exact .interrupted found keeps _
  · split
    · exact .locked found keeps _
    · next unlocked =>
        exact .ready found keeps unlocked

/-- Every call is one of these. -/
theorem prepared_prepareAuthorization
    (request : StartRequest World)
    (store : AccountStore) :
    Prepared platform request store
      (prepareAuthorization platform request store).1
      (prepareAuthorization platform request store).2 := by
  unfold prepareAuthorization
  split
  · next absent =>
      exact .unknown absent _
  · next account found =>
      have keeps :=
        keeps_chooseApiHash platform account request.apiHash
          request.world
      generalize
        chooseApiHash platform account request.apiHash request.world =
          chosen at keeps ⊢
      rcases chosen with ⟨hashed, interruption | ⟨plainApiHash, world⟩⟩
      · exact .interrupted found keeps _
      · simp only
        split
        · exact .interrupted found keeps _
        · next ensured later ensuring =>
            have ensuredKeeps := keeps_ensureDatabaseKey platform ensuring
            rw [assign_assign ensuredKeeps.id_eq]
            exact prepared_saveAndUnlock platform found
              (keeps.trans ensuredKeeps) plainApiHash later

end Start

section Assignment

variable {store : AccountStore}
variable {accountId : Bytes}
variable {account changed : AccountConfiguration}

/-- Assigning to an account keeps all locations. -/
theorem map_location_assign
    (found : store.accounts.find? (·.id = accountId) = some account)
    (keeps : Keeps account changed) :
    (store.assign changed).accounts.map location =
      store.accounts.map location := by
  have foundId : account.id = accountId := key_of_find? found
  refine map_modifyFirst fun item itemFound => ?_
  rw [keeps.id_eq, foundId, found, Option.some.injEq] at itemFound
  rw [keeps.location, itemFound]

/-- A search for the account finds what was assigned. -/
theorem find?_assign_self
    (found : store.accounts.find? (·.id = accountId) = some account)
    (keeps : Keeps account changed) :
    (store.assign changed).accounts.find? (·.id = accountId) =
      some changed := by
  have foundId : changed.id = accountId :=
    keeps.id_eq.trans (key_of_find? found)
  unfold assign
  rw [foundId, find?_modifyFirst_self fun _ _ => foundId, found]
  rfl

/-- A search for another account finds what it found before. -/
theorem find?_assign_of_ne
    {other : Bytes}
    (found : store.accounts.find? (·.id = accountId) = some account)
    (keeps : Keeps account changed)
    (different : other ≠ accountId) :
    (store.assign changed).accounts.find? (·.id = other) =
      store.accounts.find? (·.id = other) := by
  have foundId : changed.id = accountId :=
    keeps.id_eq.trans (key_of_find? found)
  unfold assign
  rw [foundId]
  exact find?_modifyFirst_of_ne (fun _ _ => foundId) different

/-- Every account is still there, with a database key that it had. -/
theorem exists_find?_assign
    {sought : Bytes}
    {before : AccountConfiguration}
    (found : store.accounts.find? (·.id = accountId) = some account)
    (keeps : Keeps account changed)
    (present : store.accounts.find? (·.id = sought) = some before) :
    ∃ after,
      (store.assign changed).accounts.find? (·.id = sought) =
          some after ∧
        Keeps before after := by
  by_cases isAccount : sought = accountId
  · subst sought
    obtain rfl : account = before := by
      simpa [found] using present
    exact ⟨changed, find?_assign_self found keeps, keeps⟩
  · exact ⟨before,
      (find?_assign_of_ne found keeps isAccount).trans present,
      rfl, fun _ => rfl⟩

/-- Acceptable accounts stay acceptable. -/
theorem acceptable_assign
    (found : store.accounts.find? (·.id = accountId) = some account)
    (keeps : Keeps account changed)
    (acceptable : Acceptable store.accounts) :
    Acceptable (store.assign changed).accounts :=
  acceptableAfter_congr (map_location_assign found keeps).symm acceptable

end Assignment

section PreparedCalls

variable {World : Type}
variable {platform : Platform World}
variable {request : StartRequest World}
variable {store after : AccountStore}
variable {prepared : Except Interruption TdAccountOptions}

/-- No call adds, removes or moves an account. -/
theorem Prepared.map_location
    (step : Prepared platform request store prepared after) :
    after.accounts.map location = store.accounts.map location := by
  cases step with
  | unknown absent interruption =>
      rfl
  | interrupted found keeps interruption =>
      exact map_location_assign found keeps
  | locked found keeps interruption =>
      exact map_location_assign found keeps
  | ready found keeps unlocked =>
      exact map_location_assign found keeps

/-- Every call leaves the accounts acceptable. -/
theorem Prepared.acceptable
    (step : Prepared platform request store prepared after)
    (acceptable : Acceptable store.accounts) :
    Acceptable after.accounts :=
  acceptableAfter_congr step.map_location.symm acceptable

/-- Options are prepared for the requested account, at its location. -/
theorem Prepared.exists_account
    {options : TdAccountOptions}
    (step : Prepared platform request store (.ok options) after) :
    options.accountId = request.accountId ∧
      ∃ account ∈ after.accounts,
        account.id = options.accountId ∧
          account.databaseDirectory = options.databaseDirectory := by
  cases step with
  | ready found keeps unlocked =>
      have sameId := keeps.id_eq.trans (key_of_find? found)
      exact ⟨sameId, _,
        List.mem_of_find?_eq_some (find?_assign_self found keeps),
        rfl, rfl⟩

end PreparedCalls

end AccountStore

section OneAccount

/-- A platform that stores plain texts and draws one key. -/
def plainPlatform : Platform Unit where
  protect plainText _ world := some (plainText, world)
  unprotect cipherText _ world := some (cipherText, world)
  randomBytes count world := some (List.replicate count 7, world)
  pathExists _ _ := false

/-- A library whose number conversions are not used. -/
def workLibrary : DocumentLibrary where
  parse _ := .error .parseError
  dump _ := .ok []
  dumpIndented _ _ := .ok []
  floatToInt64 _ := 0
  floatToUInt32 _ := 0
  floatToInt32 _ := 0
  floatToUInt16 _ := 0
  floatToUInt64 _ := 0

/-- An account that has no secrets yet. -/
def workAccount : AccountConfiguration where
  id := bytes "work"
  displayName := bytes "Work"
  databaseDirectory := bytes "data/tdlib/work/db"
  filesDirectory := bytes "data/tdlib/work/files"
  apiId := 12345

/-- The accounts file with this account. -/
def workFile : Json :=
  AccountRepository.document [workAccount]

/-- A start of this account with a new API hash. -/
def workRequest : StartRequest Unit where
  accountId := bytes "work"
  phoneNumber := bytes "+10000000000"
  apiHash := bytes "0123456789abcdef"
  saved := .ok ()
  world := ()

end OneAccount

end TgGate
