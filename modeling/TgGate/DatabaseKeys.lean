import TgGate.DesktopAccounts
import TgGate.Library.Machine

namespace TgGate

open Library AccountRepository

/-!
# Database keys across starts and restarts

Whenever TDLib is given a database key, the accounts file holds a protected
text of that key, and no later start of the same account uses another one.
What carries the argument is that a protected key in the file is also the one
in memory: a call never replaces a key that an account has, and a save writes
all accounts.
-/

/-- A platform whose DPAPI, where it answers, answers for good. -/
structure Vault (World : Type) where
  platform : Platform World
  decrypts : Bytes → Bytes → Option Bytes
  faithful :
    ∀ {cipherText purpose plainText world later},
      platform.unprotect cipherText purpose world =
        some (plainText, later) →
      decrypts cipherText purpose = some plainText

/-- The database key in a protected text of an account. -/
def Vault.databaseKey
    {World : Type}
    (vault : Vault World)
    (accountId databaseKeyDpapi : Bytes) : Option Bytes :=
  (hexDecode databaseKeyDpapi).bind fun protectedBytes =>
    vault.decrypts protectedBytes (databaseKeyDpapiPurpose accountId)

/-- A call of the desktop, or a restart of the process. -/
inductive AccountCall (World : Type) where
  | start (request : StartRequest World)
  | restart

/-- One call of `begin_authorization`. -/
structure BegunSession where
  accountId : Bytes
  databaseKey : Bytes
  deriving DecidableEq

/-- The session that prepared options begin. -/
def begunSession (options : TdAccountOptions) : BegunSession where
  accountId := options.accountId
  databaseKey := options.databaseEncryptionKey.content

/--
The desktop with its accounts file.  What TDLib makes of a session that was
begun changes neither the file nor the accounts.
-/
def accountMachine
    {World : Type}
    (library : DocumentLibrary)
    (platform : Platform World)
    (file : Option Json) :
    Machine AccountStore (AccountCall World) (Option BegunSession) where
  initial := AccountStore.load library file
  step store
    | .start request =>
        let (prepared, store) :=
          store.prepareAuthorization platform request
        (store, prepared.toOption.map begunSession)
    | .restart => (AccountStore.load library store.file, none)

/-- The sessions begun in a run. -/
def begunSessions
    {World : Type}
    (history : List (Event (AccountCall World) (Option BegunSession))) :
    List BegunSession :=
  history.filterMap Event.output

/-- The accounts file holds a text that decrypts to the key. -/
def HoldsKey
    {World : Type}
    (library : DocumentLibrary)
    (vault : Vault World)
    (file : Option Json)
    (session : BegunSession) : Prop :=
  ∃ accounts account,
    AccountStore.readFile library file = .ok accounts ∧
      accounts.find? (·.id = session.accountId) = some account ∧
      vault.databaseKey session.accountId account.databaseKeyDpapi =
        some session.databaseKey

/-- What holds after every call, given the sessions begun so far. -/
structure KeysPersisted
    {World : Type}
    (library : DocumentLibrary)
    (vault : Vault World)
    (store : AccountStore)
    (sessions : List BegunSession) : Prop where
  acceptable : Acceptable store.accounts
  agrees :
    ∀ {accounts},
      AccountStore.readFile library store.file = .ok accounts →
      ∀ {accountId persisted},
        accounts.find? (·.id = accountId) = some persisted →
        persisted.databaseKeyDpapi ≠ [] →
        ∃ account,
          store.accounts.find? (·.id = accountId) = some account ∧
            account.databaseKeyDpapi = persisted.databaseKeyDpapi
  held :
    ∀ session ∈ sessions, HoldsKey library vault store.file session

section Keys

variable {World : Type}
variable {library : DocumentLibrary}
variable {vault : Vault World}

/-- A text that decrypts to a key is not empty. -/
theorem Vault.nonempty_of_databaseKey
    {accountId databaseKeyDpapi key : Bytes}
    (decrypted : vault.databaseKey accountId databaseKeyDpapi = some key) :
    databaseKeyDpapi ≠ [] := by
  rintro rfl
  cases decrypted

/-- An unlocked key is the key in the protected text. -/
theorem databaseKey_of_unprotect
    {accountId databaseKeyDpapi : Bytes}
    {databaseKey : SecretBuffer}
    {world later : World}
    (unlocked :
      unprotectDatabaseKey vault.platform accountId databaseKeyDpapi
          world =
        some (databaseKey, later)) :
    vault.databaseKey accountId databaseKeyDpapi =
      some databaseKey.content := by
  unfold unprotectDatabaseKey at unlocked
  unfold Vault.databaseKey
  split at unlocked
  · cases unlocked
  · split at unlocked
    · cases unlocked
    · next protectedBytes decoded =>
        split at unlocked
        · cases unlocked
        · next plainBytes between unprotected =>
            split at unlocked
            · simp only [Option.some.injEq, Prod.mk.injEq] at unlocked
              rcases unlocked with ⟨rfl, -⟩
              rw [decoded, Option.bind_some]
              exact vault.faithful unprotected
            · cases unlocked

/-- Loading takes over what the file holds. -/
theorem keysPersisted_load
    {file : Option Json}
    {sessions : List BegunSession}
    (held : ∀ session ∈ sessions, HoldsKey library vault file session) :
    KeysPersisted library vault (AccountStore.load library file)
      sessions where
  acceptable := AccountStore.acceptable_load library file
  agrees := by
    intro accounts read accountId persisted found present
    refine ⟨persisted, ?_, rfl⟩
    have loaded :
        (AccountStore.load library file).accounts = accounts := by
      change AccountStore.readFile library file = .ok accounts at read
      simp [AccountStore.load, read]
    rw [loaded, found]
  held := held

section Assigned

variable {store : AccountStore}
variable {sessions : List BegunSession}
variable {accountId : Bytes}
variable {account changed : AccountConfiguration}

/-- Assigning in memory keeps what the file and memory agree on. -/
theorem keysPersisted_assign
    (persisted : KeysPersisted library vault store sessions)
    (found : store.accounts.find? (·.id = accountId) = some account)
    (keeps : AccountStore.Keeps account changed) :
    KeysPersisted library vault (store.assign changed) sessions where
  acceptable :=
    AccountStore.acceptable_assign found keeps persisted.acceptable
  agrees := by
    intro accounts read sought inFile foundInFile present
    obtain ⟨before, foundBefore, sameKey⟩ :=
      persisted.agrees read foundInFile present
    obtain ⟨after, foundAfter, afterKeeps⟩ :=
      AccountStore.exists_find?_assign found keeps foundBefore
    refine ⟨after, foundAfter, ?_⟩
    rw [afterKeeps.databaseKey (by rwa [sameKey]), sameKey]
  held := persisted.held

/-- A session whose account is in memory with its key is held by a save. -/
theorem holdsKey_save
    {session : BegunSession}
    (acceptable : Acceptable store.accounts)
    (found :
      store.accounts.find? (·.id = session.accountId) = some account)
    (decrypted :
      vault.databaseKey session.accountId account.databaseKeyDpapi =
        some session.databaseKey) :
    HoldsKey library vault store.save.file session := by
  refine ⟨_, spelledGenerically account,
    parse_document library acceptable, ?_, decrypted⟩
  rw [find?_map_spelledGenerically, found]
  rfl

/-- A save writes what memory holds, also for the sessions before it. -/
theorem keysPersisted_save
    (persisted : KeysPersisted library vault store sessions) :
    KeysPersisted library vault store.save sessions where
  acceptable := persisted.acceptable
  agrees := by
    intro accounts read sought inFile foundInFile _
    have written :
        AccountStore.readFile library store.save.file =
          .ok (store.accounts.map spelledGenerically) :=
      parse_document library persisted.acceptable
    obtain rfl := Except.ok.inj (read.symm.trans written)
    rw [find?_map_spelledGenerically] at foundInFile
    obtain ⟨account, found, rfl⟩ := Option.map_eq_some_iff.mp foundInFile
    exact ⟨account, found, rfl⟩
  held := by
    intro session begun
    obtain ⟨accounts, inFile, read, foundInFile, decrypted⟩ :=
      persisted.held session begun
    obtain ⟨inMemory, foundInMemory, sameKey⟩ :=
      persisted.agrees read foundInFile
        (vault.nonempty_of_databaseKey decrypted)
    exact holdsKey_save persisted.acceptable foundInMemory
      (by rwa [sameKey])

end Assigned

/-- One start keeps the keys persisted, including the one it begins with. -/
theorem keysPersisted_start
    {store after : AccountStore}
    {sessions : List BegunSession}
    {request : StartRequest World}
    {prepared : Except Interruption TdAccountOptions}
    (persisted : KeysPersisted library vault store sessions)
    (step :
      AccountStore.Prepared vault.platform request store prepared after) :
    KeysPersisted library vault after
      (sessions ++ (prepared.toOption.map begunSession).toList) := by
  cases step with
  | unknown absent interruption =>
      simpa [Except.toOption] using persisted
  | interrupted found keeps interruption =>
      simpa [Except.toOption] using
        keysPersisted_assign persisted found keeps
  | locked found keeps interruption =>
      simpa [Except.toOption] using
        keysPersisted_save (keysPersisted_assign persisted found keeps)
  | ready found keeps unlocked =>
      have assigned := keysPersisted_assign persisted found keeps
      have saved := keysPersisted_save assigned
      refine ⟨saved.acceptable, saved.agrees, ?_⟩
      intro session member
      rcases List.mem_append.mp member with earlier | begun
      · exact saved.held session earlier
      · simp only [Except.toOption, Option.map_some, Option.toList_some,
          List.mem_singleton] at begun
        subst session
        have sameId := keeps.id_eq.trans (key_of_find? found)
        refine holdsKey_save assigned.acceptable ?_
          (databaseKey_of_unprotect unlocked)
        simpa [begunSession, AccountStore.startOptions, sameId] using
          AccountStore.find?_assign_self found keeps

/-- A call adds the session it begins. -/
theorem begunSessions_snoc
    (history : List (Event (AccountCall World) (Option BegunSession)))
    (event : Event (AccountCall World) (Option BegunSession)) :
    begunSessions (history ++ [event]) =
      begunSessions history ++ event.output.toList := by
  unfold begunSessions
  rw [List.filterMap_append]
  rcases event with ⟨call, begun⟩
  cases begun <;> rfl

/-- After every run the keys of all sessions begun in it are persisted. -/
theorem keysPersisted_run
    (library : DocumentLibrary)
    (vault : Vault World)
    (file : Option Json)
    (calls : List (AccountCall World)) :
    KeysPersisted library vault
      ((accountMachine library vault.platform file).state calls)
      (begunSessions
        ((accountMachine library vault.platform file).history calls)) := by
  induction calls using List.reverseRecOn with
  | nil =>
      exact keysPersisted_load (by simp [begunSessions])
  | append_singleton calls call inductionHypothesis =>
      rw [Machine.state_snoc, Machine.history_snoc, begunSessions_snoc]
      cases call with
      | start request =>
          exact keysPersisted_start inductionHypothesis
            (AccountStore.prepared_prepareAuthorization vault.platform
              request _)
      | restart =>
          refine keysPersisted_load fun session begun => ?_
          exact inductionHypothesis.held session
            (by simpa [Machine.eventAt, accountMachine] using begun)

/-- Two sessions of one account that a file holds have one key. -/
theorem HoldsKey.unique
    {file : Option Json}
    {first second : BegunSession}
    (firstHeld : HoldsKey library vault file first)
    (secondHeld : HoldsKey library vault file second)
    (sameAccount : first.accountId = second.accountId) :
    first.databaseKey = second.databaseKey := by
  obtain ⟨accounts, account, read, found, decrypted⟩ := firstHeld
  obtain ⟨others, other, otherRead, otherFound, otherDecrypted⟩ :=
    secondHeld
  obtain rfl := Except.ok.inj (read.symm.trans otherRead)
  rw [← sameAccount, found, Option.some.injEq] at otherFound
  subst other
  rw [← sameAccount, decrypted, Option.some.injEq] at otherDecrypted
  exact otherDecrypted

end Keys

/--
A session is only ever begun with a key that the accounts file holds at that
moment, and all sessions of one account are begun with the same key.
-/
theorem begin_with_persisted_key
    {World : Type}
    (library : DocumentLibrary)
    (vault : Vault World)
    (file : Option Json)
    (calls : List (AccountCall World)) :
    (∀ earlier call later session,
        calls = earlier ++ call :: later →
        ((accountMachine library vault.platform file).step
            ((accountMachine library vault.platform file).state earlier)
            call).2 =
          some session →
        HoldsKey library vault
          ((accountMachine library vault.platform file).state
            (earlier ++ [call])).file
          session) ∧
      ∀ first ∈ begunSessions
          ((accountMachine library vault.platform file).history calls),
        ∀ second ∈ begunSessions
            ((accountMachine library vault.platform file).history calls),
          first.accountId = second.accountId →
          first.databaseKey = second.databaseKey := by
  constructor
  · intro earlier call later session _ begun
    refine (keysPersisted_run library vault file
      (earlier ++ [call])).held session ?_
    rw [Machine.history_snoc, begunSessions_snoc]
    exact List.mem_append_right _ (by simp [Machine.eventAt, begun])
  · intro first firstBegun second secondBegun sameAccount
    have persisted := keysPersisted_run library vault file calls
    exact HoldsKey.unique (persisted.held first firstBegun)
      (persisted.held second secondBegun) sameAccount

/-- The platform that stores plain texts decrypts faithfully. -/
def plainVault : Vault Unit where
  platform := plainPlatform
  decrypts cipherText _ := some cipherText
  faithful unprotected := by
    cases unprotected
    rfl

/-- The process is restarted between two starts of one account. -/
def restartedCalls : List (AccountCall Unit) :=
  [.start workRequest, .restart, .start workRequest]

/-- The session that both starts begin. -/
def restartedSession : BegunSession where
  accountId := bytes "work"
  databaseKey := List.replicate 32 7

/-- After the restart the file holds the key that was drawn before it. -/
theorem begin_with_persisted_key_restarted :
    HoldsKey workLibrary plainVault
        ((accountMachine workLibrary plainVault.platform
          (some workFile)).state restartedCalls).file
        restartedSession ∧
      begunSessions
          ((accountMachine workLibrary plainVault.platform
            (some workFile)).history restartedCalls) =
        [restartedSession, restartedSession] := by
  constructor
  · exact (begin_with_persisted_key workLibrary plainVault
      (some workFile) restartedCalls).1 [.start workRequest, .restart]
      (.start workRequest) [] restartedSession rfl (by decide +kernel)
  · decide +kernel

end TgGate
