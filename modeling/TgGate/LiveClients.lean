import TgGate.DesktopAccounts
import TgGate.Library.Machine
import TgGate.Library.UnorderedMap

namespace TgGate

open Library AccountRepository

/-!
# Live TDLib clients

`start_authorization` creates a `TdAccount`, begins its authorization, which
gives it a `ClientManager`, and attaches it to `TdTelegramService` afterwards.
Readers look an attached account up and hold a reference to it while they read.
An object lives as long as a reference to it does: one in the registry, the
local one of the call that created it, or one of a reader.

A second start of an account gives the new object a client before it displaces
the old one.  The steps below end wherever another thread can observe them.
-/

/-- A `TdAccount`, as far as its client is concerned. -/
structure TdObject where
  accountId : Bytes := []
  databaseDirectory : FilesystemPath := []
  ownsManager : Bool := false

/-- How far a call is with the object it created. -/
inductive StartPhase where
  | created
  | rejected
  | begun
  | unwinding
  | attached
  deriving Repr, DecidableEq

/-- The object has been given a client. -/
def StartPhase.owns : StartPhase → Bool
  | .created | .rejected => false
  | .begun | .unwinding | .attached => true

/-- The local reference of `start_authorization`. -/
structure PendingStart where
  address : Nat
  options : TdAccountOptions
  phase : StartPhase

/-- The objects with all references to them. -/
structure LiveClients where
  store : AccountStore
  objects : Nat → TdObject := fun _ => {}
  next : Nat := 0
  registry : UnorderedMap Bytes Nat := ∅
  pending : Option PendingStart := none
  readers : List Nat := []

/-- One step of the operator's thread or of a reader. -/
inductive LiveCall (World : Type) where
  /-- `start_authorization` up to the creation of the object. -/
  | prepare (request : StartRequest World)
  /-- `begin_authorization`; starting its thread may throw. -/
  | begin (threadStarts : Bool)
  /-- `attach` after a start that was accepted. -/
  | attach
  /-- The end of the call drops the local reference. -/
  | finish
  /-- A reader looks an account up. -/
  | find (accountId : Bytes)
  /-- A reader is done. -/
  | release (index : Nat)

namespace LiveClients

/-- Someone refers to the object at this address. -/
def Alive (clients : LiveClients) (address : Nat) : Prop :=
  (∃ accountId, clients.registry.lookup accountId = some address) ∨
    (∃ pending, clients.pending = some pending ∧
      pending.address = address) ∨
    address ∈ clients.readers

/-- Create the object of prepared options. -/
def create
    (options : TdAccountOptions)
    (clients : LiveClients) : LiveClients :=
  { clients with
    objects := Function.update clients.objects clients.next {
      accountId := options.accountId
      databaseDirectory := options.databaseDirectory
      ownsManager := false
    }
    next := clients.next + 1
    pending := some {
      address := clients.next
      options := options
      phase := .created
    } }

/-- Go on to another phase. -/
def enter
    (pending : PendingStart)
    (phase : StartPhase)
    (clients : LiveClients) : LiveClients :=
  { clients with pending := some { pending with phase := phase } }

/-- The new object with a client. -/
def withManager
    (pending : PendingStart)
    (clients : LiveClients) : LiveClients :=
  { clients with
    objects := Function.update clients.objects pending.address
      { clients.objects pending.address with ownsManager := true } }

/-- `begin_authorization` of the new object. -/
def beginAuthorization
    (threadStarts : Bool)
    (pending : PendingStart)
    (clients : LiveClients) : LiveClients :=
  if pending.options.isComplete then
    (clients.withManager pending).enter pending
      (if threadStarts then .begun else .unwinding)
  else
    clients.enter pending .rejected

/-- `TdTelegramService::attach`. -/
def attach
    (pending : PendingStart)
    (clients : LiveClients) : LiveClients :=
  { clients with
    registry :=
      clients.registry.insert pending.options.accountId pending.address }
  |>.enter pending .attached

/-- One step; a step that does not apply changes nothing. -/
def advance
    {World : Type}
    (platform : Platform World)
    (clients : LiveClients) : LiveCall World → LiveClients
  | .prepare request =>
      match clients.pending with
      | some _ => clients
      | none =>
          match clients.store.prepareAuthorization platform request with
          | (.error _, store) => { clients with store := store }
          | (.ok options, store) =>
              create options { clients with store := store }
  | .begin threadStarts =>
      match clients.pending with
      | some pending =>
          if pending.phase = .created then
            clients.beginAuthorization threadStarts pending
          else
            clients
      | none => clients
  | .attach =>
      match clients.pending with
      | some pending =>
          if pending.phase = .begun then
            clients.attach pending
          else
            clients
      | none => clients
  | .finish =>
      match clients.pending with
      | some pending =>
          if pending.phase = .created ∨ pending.phase = .begun then
            clients
          else
            { clients with pending := none }
      | none => clients
  | .find accountId =>
      match clients.registry.lookup accountId with
      | some address =>
          { clients with readers := address :: clients.readers }
      | none => clients
  | .release index =>
      { clients with readers := clients.readers.eraseIdx index }

end LiveClients

/-- The desktop and its readers from the start of the process. -/
def liveMachine
    {World : Type}
    (library : DocumentLibrary)
    (platform : Platform World)
    (file : Option Json) :
    Machine LiveClients (LiveCall World) Unit where
  initial := { store := AccountStore.load library file }
  step clients call := (clients.advance platform call, ())

namespace LiveClients

/-- What holds after every step of every run. -/
structure Sound (clients : LiveClients) : Prop where
  acceptable : Acceptable clients.store.accounts
  bounded : ∀ {address}, clients.Alive address → address < clients.next
  registered :
    ∀ {accountId address},
      clients.registry.lookup accountId = some address →
      (clients.objects address).accountId = accountId ∧
        (clients.objects address).ownsManager = true
  created :
    ∀ {pending},
      clients.pending = some pending →
      (clients.objects pending.address).accountId =
          pending.options.accountId ∧
        (clients.objects pending.address).ownsManager =
          pending.phase.owns
  unattached :
    ∀ {pending},
      clients.pending = some pending →
      pending.phase ≠ .attached →
      (∀ accountId,
          clients.registry.lookup accountId ≠ some pending.address) ∧
        pending.address ∉ clients.readers
  attached :
    ∀ {pending},
      clients.pending = some pending →
      pending.phase = .attached →
      clients.registry.lookup pending.options.accountId =
        some pending.address
  located :
    ∀ {address},
      clients.Alive address →
      ∃ place ∈ clients.store.accounts.map location,
        place.id = (clients.objects address).accountId ∧
          place.databaseDirectory =
            (clients.objects address).databaseDirectory

/-- What a step can do, with its guards. -/
inductive LiveStep
    {World : Type}
    (clients : LiveClients) :
    LiveCall World → LiveClients → Prop where
  | stays
      {call : LiveCall World} :
      LiveStep clients call clients
  | refuses
      {request : StartRequest World}
      {store : AccountStore}
      (acceptable :
        Acceptable clients.store.accounts → Acceptable store.accounts)
      (sameLocations :
        store.accounts.map location =
          clients.store.accounts.map location) :
      LiveStep clients (.prepare request)
        { clients with store := store }
  | creates
      {request : StartRequest World}
      {store : AccountStore}
      {options : TdAccountOptions}
      (idle : clients.pending = none)
      (acceptable :
        Acceptable clients.store.accounts → Acceptable store.accounts)
      (sameLocations :
        store.accounts.map location =
          clients.store.accounts.map location)
      (configured :
        ∃ place ∈ store.accounts.map location,
          place.id = options.accountId ∧
            place.databaseDirectory = options.databaseDirectory) :
      LiveStep clients (.prepare request)
        (create options { clients with store := store })
  | rejects
      {threadStarts : Bool}
      {pending : PendingStart}
      (found : clients.pending = some pending)
      (fresh : pending.phase = .created) :
      LiveStep clients (.begin threadStarts)
        (clients.enter pending .rejected)
  | begins
      {threadStarts : Bool}
      {pending : PendingStart}
      {phase : StartPhase}
      (found : clients.pending = some pending)
      (fresh : pending.phase = .created)
      (complete : pending.options.isComplete = true)
      (begun : phase = .begun ∨ phase = .unwinding) :
      LiveStep clients (.begin threadStarts)
        ((clients.withManager pending).enter pending phase)
  | attaches
      {pending : PendingStart}
      (found : clients.pending = some pending)
      (accepted : pending.phase = .begun) :
      LiveStep clients .attach (clients.attach pending)
  | finishes
      {pending : PendingStart}
      (found : clients.pending = some pending) :
      LiveStep clients .finish { clients with pending := none }
  | finds
      {accountId : Bytes}
      {address : Nat}
      (found : clients.registry.lookup accountId = some address) :
      LiveStep clients (.find accountId)
        { clients with readers := address :: clients.readers }
  | releases
      {index : Nat} :
      LiveStep clients (.release index)
        { clients with readers := clients.readers.eraseIdx index }

section Steps

variable {clients : LiveClients}

/-- Every step is one of these. -/
theorem liveStep_advance
    {World : Type}
    (platform : Platform World)
    (call : LiveCall World) :
    LiveStep clients call (clients.advance platform call) := by
  cases call with
  | prepare request =>
      unfold advance
      simp only
      split
      · exact .stays
      · next idle =>
          have step := AccountStore.prepared_prepareAuthorization platform
            request clients.store
          split
          · next shape =>
              rw [shape] at step
              exact .refuses step.acceptable step.map_location
          · next shape =>
              rw [shape] at step
              obtain ⟨-, account, member, sameId, sameDirectory⟩ :=
                step.exists_account
              exact .creates idle step.acceptable step.map_location
                ⟨location account, List.mem_map_of_mem member, sameId,
                  sameDirectory⟩
  | begin threadStarts =>
      unfold advance
      simp only
      split
      · next pending found =>
          split
          · next fresh =>
              unfold beginAuthorization
              split
              · next complete =>
                  refine .begins found fresh complete ?_
                  cases threadStarts <;> simp
              · exact .rejects found fresh
          · exact .stays
      · exact .stays
  | attach =>
      unfold advance
      simp only
      split
      · next pending found =>
          split
          · next accepted =>
              exact .attaches found accepted
          · exact .stays
      · exact .stays
  | finish =>
      unfold advance
      simp only
      split
      · next pending found =>
          split
          · exact .stays
          · exact .finishes found
      · exact .stays
  | find accountId =>
      unfold advance
      simp only
      split
      · next address found =>
          exact .finds found
      · exact .stays
  | release index =>
      exact .releases

/-- Going on to another phase keeps every object alive. -/
theorem alive_enter
    {pending : PendingStart}
    {phase : StartPhase}
    (found : clients.pending = some pending)
    (address : Nat) :
    (clients.enter pending phase).Alive address ↔
      clients.Alive address := by
  simp [Alive, enter, found]

/-- Only the store changes. -/
theorem sound_setStore
    {store : AccountStore}
    (sound : Sound clients)
    (acceptable : Acceptable store.accounts)
    (sameLocations :
      store.accounts.map location =
        clients.store.accounts.map location) :
    Sound { clients with store := store } where
  acceptable := acceptable
  bounded := sound.bounded
  registered := sound.registered
  created := sound.created
  unattached := sound.unattached
  attached := sound.attached
  located alive := by
    rw [sameLocations]
    exact sound.located alive

theorem alive_create
    {options : TdAccountOptions}
    (idle : clients.pending = none)
    (address : Nat) :
    (clients.create options).Alive address ↔
      clients.Alive address ∨ address = clients.next := by
  simp only [Alive, create, idle, Option.some.injEq, reduceCtorEq,
    false_and, exists_false, false_or]
  constructor
  · rintro (attached | ⟨pending, rfl, rfl⟩ | reader)
    · exact .inl (.inl attached)
    · exact .inr rfl
    · exact .inl (.inr reader)
  · rintro ((attached | reader) | rfl)
    · exact .inl attached
    · exact .inr (.inr reader)
    · exact .inr (.inl ⟨_, rfl, rfl⟩)

/-- A living object is not the one that is created. -/
theorem objects_create_of_alive
    {options : TdAccountOptions}
    {address : Nat}
    (sound : Sound clients)
    (alive : clients.Alive address) :
    (clients.create options).objects address =
      clients.objects address :=
  Function.update_of_ne (sound.bounded alive).ne _ _

theorem objects_create_next (options : TdAccountOptions) :
    (clients.create options).objects clients.next = {
      accountId := options.accountId
      databaseDirectory := options.databaseDirectory
      ownsManager := false
    } :=
  Function.update_self ..

theorem sound_create
    {options : TdAccountOptions}
    (sound : Sound clients)
    (idle : clients.pending = none)
    (configured :
      ∃ place ∈ clients.store.accounts.map location,
        place.id = options.accountId ∧
          place.databaseDirectory = options.databaseDirectory) :
    Sound (clients.create options) where
  acceptable := sound.acceptable
  bounded := by
    intro address alive
    rcases (alive_create idle address).mp alive with before | rfl
    · exact (sound.bounded before).trans (Nat.lt_succ_self _)
    · exact Nat.lt_succ_self _
  registered := by
    intro accountId address attached
    rw [objects_create_of_alive sound (.inl ⟨accountId, attached⟩)]
    exact sound.registered attached
  created := by
    intro pending found
    obtain rfl := Option.some.inj found
    rw [objects_create_next]
    exact ⟨rfl, rfl⟩
  unattached := by
    intro pending found _
    obtain rfl := Option.some.inj found
    constructor
    · intro accountId attached
      exact (sound.bounded (.inl ⟨accountId, attached⟩)).false
    · intro reader
      exact (sound.bounded (.inr (.inr reader))).false
  attached := by
    intro pending found isAttached
    obtain rfl := Option.some.inj found
    cases isAttached
  located := by
    intro address alive
    rcases (alive_create idle address).mp alive with before | rfl
    · rw [objects_create_of_alive sound before]
      exact sound.located before
    · rw [objects_create_next]
      exact configured

/-- A rejected start leaves its object without a client. -/
theorem sound_reject
    {pending : PendingStart}
    (sound : Sound clients)
    (found : clients.pending = some pending)
    (fresh : pending.phase = .created) :
    Sound (clients.enter pending .rejected) where
  acceptable := sound.acceptable
  bounded alive := sound.bounded ((alive_enter found _).mp alive)
  registered := sound.registered
  created := by
    intro entered enteredShape
    obtain rfl := Option.some.inj enteredShape
    have kept := sound.created found
    rw [fresh] at kept
    exact kept
  unattached := by
    intro entered enteredShape _
    obtain rfl := Option.some.inj enteredShape
    have kept := sound.unattached found (by simp [fresh])
    exact kept
  attached := by
    intro entered enteredShape isAttached
    obtain rfl := Option.some.inj enteredShape
    cases isAttached
  located alive := sound.located ((alive_enter found _).mp alive)

theorem alive_withManager_enter
    {pending : PendingStart}
    {phase : StartPhase}
    (found : clients.pending = some pending)
    (address : Nat) :
    ((clients.withManager pending).enter pending phase).Alive address ↔
      clients.Alive address := by
  simp [Alive, enter, withManager, found]

/-- The client of the new object is all that changes of the objects. -/
theorem objects_withManager
    (pending : PendingStart)
    (address : Nat) :
    (clients.withManager pending).objects address =
      if address = pending.address then
        { clients.objects pending.address with ownsManager := true }
      else
        clients.objects address :=
  Function.update_apply ..

theorem accountId_withManager
    (pending : PendingStart)
    (address : Nat) :
    ((clients.withManager pending).objects address).accountId =
      (clients.objects address).accountId := by
  rw [objects_withManager]
  split
  · next same =>
      rw [same]
  · rfl

theorem databaseDirectory_withManager
    (pending : PendingStart)
    (address : Nat) :
    ((clients.withManager pending).objects address).databaseDirectory =
      (clients.objects address).databaseDirectory := by
  rw [objects_withManager]
  split
  · next same =>
      rw [same]
  · rfl

/-- A start that is accepted, or throws afterwards, owns its client. -/
theorem sound_withManager
    {pending : PendingStart}
    {phase : StartPhase}
    (sound : Sound clients)
    (found : clients.pending = some pending)
    (fresh : pending.phase = .created)
    (owns : phase.owns = true)
    (notAttached : phase ≠ .attached) :
    Sound ((clients.withManager pending).enter pending phase) where
  acceptable := sound.acceptable
  bounded alive :=
    sound.bounded ((alive_withManager_enter found _).mp alive)
  registered := by
    intro accountId address attached
    change ((clients.withManager pending).objects address).accountId =
        accountId ∧
      ((clients.withManager pending).objects address).ownsManager = true
    have isOther : address ≠ pending.address := by
      rintro rfl
      exact (sound.unattached found (by simp [fresh])).1 accountId
        attached
    rw [objects_withManager, if_neg isOther]
    exact sound.registered attached
  created := by
    intro entered enteredShape
    obtain rfl := Option.some.inj enteredShape
    refine ⟨?_, ?_⟩
    · exact (accountId_withManager pending pending.address).trans
        (sound.created found).1
    · change ((clients.withManager pending).objects
          pending.address).ownsManager = phase.owns
      rw [objects_withManager, if_pos rfl, owns]
  unattached := by
    intro entered enteredShape _
    obtain rfl := Option.some.inj enteredShape
    have kept := sound.unattached found (by simp [fresh])
    exact kept
  attached := by
    intro entered enteredShape isAttached
    obtain rfl := Option.some.inj enteredShape
    exact absurd isAttached notAttached
  located := by
    intro address alive
    change ∃ place ∈ clients.store.accounts.map location,
      place.id =
          ((clients.withManager pending).objects address).accountId ∧
        place.databaseDirectory =
          ((clients.withManager pending).objects
            address).databaseDirectory
    rw [accountId_withManager, databaseDirectory_withManager]
    exact sound.located ((alive_withManager_enter found _).mp alive)

theorem alive_attach
    {pending : PendingStart}
    (found : clients.pending = some pending)
    {address : Nat}
    (alive : (clients.attach pending).Alive address) :
    clients.Alive address := by
  rcases alive with ⟨accountId, attached⟩ | ⟨entered, shape, same⟩ | reader
  · by_cases isAccount : accountId = pending.options.accountId
    · subst accountId
      rw [attach, enter, AList.lookup_insert] at attached
      exact .inr (.inl ⟨pending, found, Option.some.inj attached⟩)
    · rw [attach, enter, AList.lookup_insert_ne isAccount] at attached
      exact .inl ⟨accountId, attached⟩
  · obtain rfl := Option.some.inj shape
    exact .inr (.inl ⟨pending, found, same⟩)
  · exact .inr (.inr reader)

theorem sound_attach
    {pending : PendingStart}
    (sound : Sound clients)
    (found : clients.pending = some pending)
    (accepted : pending.phase = .begun) :
    Sound (clients.attach pending) where
  acceptable := sound.acceptable
  bounded alive := sound.bounded (alive_attach found alive)
  registered := by
    intro accountId address attached
    obtain ⟨sameAccount, owns⟩ := sound.created found
    by_cases isAccount : accountId = pending.options.accountId
    · subst accountId
      rw [attach, enter, AList.lookup_insert] at attached
      obtain rfl := Option.some.inj attached
      exact ⟨sameAccount, by rw [accepted] at owns; exact owns⟩
    · rw [attach, enter, AList.lookup_insert_ne isAccount] at attached
      exact sound.registered attached
  created := by
    intro entered enteredShape
    obtain rfl := Option.some.inj enteredShape
    have kept := sound.created found
    rw [accepted] at kept
    exact kept
  unattached := by
    intro entered enteredShape notAttached
    obtain rfl := Option.some.inj enteredShape
    exact absurd rfl notAttached
  attached := by
    intro entered enteredShape _
    obtain rfl := Option.some.inj enteredShape
    exact AList.lookup_insert _
  located alive := sound.located (alive_attach found alive)

/-- Who is alive after references were dropped was alive before. -/
theorem alive_drop
    {pending : Option PendingStart}
    {readers : List Nat}
    (fewerPending :
      ∀ kept, pending = some kept → clients.pending = some kept)
    (fewerReaders :
      ∀ address ∈ readers,
        address ∈ clients.readers ∨
          ∃ accountId,
            clients.registry.lookup accountId = some address)
    {address : Nat}
    (alive :
      Alive { clients with pending := pending, readers := readers }
        address) :
    clients.Alive address := by
  rcases alive with attached | ⟨kept, found, same⟩ | reader
  · exact .inl attached
  · exact .inr (.inl ⟨kept, fewerPending kept found, same⟩)
  · rcases fewerReaders address reader with before | attached
    · exact .inr (.inr before)
    · exact .inl attached

/-- Dropping references keeps what is left as it is. -/
theorem sound_drop
    {pending : Option PendingStart}
    {readers : List Nat}
    (sound : Sound clients)
    (fewerPending :
      ∀ kept, pending = some kept → clients.pending = some kept)
    (fewerReaders :
      ∀ address ∈ readers,
        address ∈ clients.readers ∨
          ∃ accountId,
            clients.registry.lookup accountId = some address) :
    Sound { clients with pending := pending, readers := readers } where
  acceptable := sound.acceptable
  bounded alive := sound.bounded (alive_drop fewerPending fewerReaders alive)
  registered := sound.registered
  created found := sound.created (fewerPending _ found)
  unattached := by
    intro kept found notAttached
    obtain ⟨notRegistered, notRead⟩ :=
      sound.unattached (fewerPending kept found) notAttached
    refine ⟨notRegistered, fun reader => ?_⟩
    rcases fewerReaders _ reader with before | ⟨accountId, attached⟩
    · exact notRead before
    · exact notRegistered accountId attached
  attached found := sound.attached (fewerPending _ found)
  located alive := sound.located (alive_drop fewerPending fewerReaders alive)

/-- A reader that looks an account up holds what is attached. -/
theorem attached_of_mem_find
    {accountId : Bytes}
    {address : Nat}
    (found : clients.registry.lookup accountId = some address) :
    ∀ other ∈ address :: clients.readers,
      other ∈ clients.readers ∨
        ∃ accountId, clients.registry.lookup accountId = some other := by
  intro other reader
  rcases List.mem_cons.mp reader with rfl | before
  · exact .inr ⟨accountId, found⟩
  · exact .inl before

/-- Every step keeps the objects and their references sound. -/
theorem sound_advance
    {World : Type}
    {call : LiveCall World}
    {after : LiveClients}
    (sound : Sound clients)
    (step : LiveStep clients call after) :
    Sound after := by
  cases step with
  | stays =>
      exact sound
  | refuses acceptable sameLocations =>
      exact sound_setStore sound (acceptable sound.acceptable)
        sameLocations
  | creates idle acceptable sameLocations configured =>
      have stored :=
        sound_setStore sound (acceptable sound.acceptable) sameLocations
      exact sound_create stored idle configured
  | rejects found fresh =>
      exact sound_reject sound found fresh
  | begins found fresh complete begun =>
      rcases begun with rfl | rfl
      · exact sound_withManager sound found fresh rfl (by simp)
      · exact sound_withManager sound found fresh rfl (by simp)
  | attaches found accepted =>
      exact sound_attach sound found accepted
  | finishes found =>
      exact sound_drop sound (by simp) fun _ reader => .inl reader
  | finds found =>
      exact sound_drop sound (fun _ same => same)
        (attached_of_mem_find found)
  | releases =>
      exact sound_drop sound (fun _ same => same)
        fun _ reader => .inl (List.mem_of_mem_eraseIdx reader)

end Steps

section Runs

variable {World : Type}
variable (library : DocumentLibrary)
variable (platform : Platform World)
variable (file : Option Json)

theorem sound_run (calls : List (LiveCall World)) :
    Sound ((liveMachine library platform file).state calls) := by
  refine Machine.stateFrom_of_step _ Sound ?_ ?_ calls
  · intro clients call sound
    exact sound_advance sound (liveStep_advance platform call)
  · exact {
      acceptable := AccountStore.acceptable_load library file
      bounded := by
        rintro address (⟨accountId, attached⟩ | ⟨pending, found, -⟩ | reader)
        · cases attached
        · cases found
        · cases reader
      registered := by
        intro accountId address attached
        cases attached
      created := by
        intro pending found
        cases found
      unattached := by
        intro pending found
        cases found
      attached := by
        intro pending found
        cases found
      located := by
        rintro address (⟨accountId, attached⟩ | ⟨pending, found, -⟩ | reader)
        · cases attached
        · cases found
        · cases reader
    }

end Runs

end LiveClients

end TgGate
