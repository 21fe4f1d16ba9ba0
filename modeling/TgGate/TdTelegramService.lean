import TgGate.Library.MemberRuns
import TgGate.ReadOutcomes

namespace TgGate

open Library

/-!
# The accounts behind the Telegram port

`TdTelegramService` is the registry that the port's calls go through.  A call
looks its account up under the registry's mutex and goes on inside the account
that it found, without the mutex.  In between, and while it reads, accounts are
made, attached, displaced and detached.

The registry owns no account.  Accounts are listed by address in the order in
which they were made; one that nobody refers to any more takes no step.
-/

/-- Where a call of the port stands. -/
inductive PortPlace where
  /-- `find` has returned. -/
  | found (account? : Option Nat)
  /-- In the account's function, as one of its readers. -/
  | inside (address reader : Nat)

/-- The account that a call has found. -/
def PortPlace.account? : PortPlace → Option Nat
  | .found account? => account?
  | .inside address _ => some address

/-- A thread inside one of the port's functions that read. -/
structure PortCaller where
  accountId : Bytes
  call : ReadCall
  place : PortPlace

/-- The registry, the accounts by address and the calls of the port. -/
structure TdTelegramService where
  accounts : List TdReading := []
  /-- The mapped pointer may be null. -/
  registry : UnorderedMap Bytes (Option Nat) := ∅
  callers : List PortCaller := []

/-- A step of the operator, of an account or of a call of the port. -/
inductive TdTelegramServiceCall where
  | makeAccount
  | account (address : Nat) (call : TdReadingCall)
  | attach (accountId : Bytes) (account? : Option Nat)
  | detach (accountId : Bytes)
  /-- `list_chats` or `get_messages` up to the end of `find`. -/
  | lookUp (accountId : Bytes) (call : ReadCall)
  /-- The call goes on inside the account that it found. -/
  | enter (index : Nat)

/-- What a step shows: the step of the account that it contains. -/
abbrev TdTelegramServiceEvent :=
  Option (Machine.MemberEvent TdReadingCall TdReadingEvent)

namespace TdTelegramService

/-- `find` under the registry's mutex. -/
def find (accountId : Bytes) (service : TdTelegramService) : Option Nat :=
  (service.registry.lookup accountId).join

/-- An account takes a step. -/
def advance
    (address : Nat)
    (call : TdReadingCall)
    (service : TdTelegramService) :
    TdTelegramService × TdTelegramServiceEvent :=
  match service.accounts[address]? with
  | none => (service, none)
  | some account =>
      ({ service with
          accounts := service.accounts.set address (account.step call).1 },
        some (address, tdReading.eventAt account call))

/-- A call enters the function of the account that it found. -/
def enter
    (index : Nat)
    (caller : PortCaller)
    (address : Nat)
    (service : TdTelegramService) :
    TdTelegramService × TdTelegramServiceEvent :=
  match service.accounts[address]? with
  | none => (service, none)
  | some account =>
      let (entered, event) :=
        service.advance address (.enterRead caller.call)
      ({ entered with
          callers := service.callers.set index
            { caller with
              place := .inside address account.readers.length } },
        event)

/-- One step; a step that nobody can take changes nothing. -/
def step (service : TdTelegramService) :
    TdTelegramServiceCall → TdTelegramService × TdTelegramServiceEvent
  | .makeAccount =>
      ({ service with
          accounts := service.accounts ++ [tdReading.initial] },
        none)
  | .account address call => service.advance address call
  | .attach accountId account? =>
      if account?.all (· < service.accounts.length) then
        ({ service with
            registry := service.registry.insert accountId account? },
          none)
      else
        (service, none)
  | .detach accountId =>
      ({ service with registry := service.registry.erase accountId }, none)
  | .lookUp accountId call =>
      ({ service with
          callers := service.callers ++
            [{ accountId, call, place := .found (service.find accountId) }] },
        none)
  | .enter index =>
      match service.callers[index]? with
      | none => (service, none)
      | some caller =>
          match caller.place with
          | .found (some address) => service.enter index caller address
          | .found none | .inside _ _ => (service, none)

/-- What a call has returned. -/
def result?
    (caller : PortCaller)
    (service : TdTelegramService) : Option (Result ReadValue) :=
  match caller.place with
  | .found none =>
      some (.error (bytes "Telegram account is not running"))
  | .found (some _) => none
  | .inside address index => do
      let account ← service.accounts[address]?
      let reader ← account.readers[index]?
      match reader.phase with
      | .returned result => some result
      | _ => none

/-- `send_message` does not look the account up. -/
def sendMessage
    (_accountId : Bytes)
    (_chatId : Int64)
    (_text : Bytes) : Result Message :=
  .error (bytes "Telegram write operations are not implemented yet")

end TdTelegramService

/-- All interleavings of the accounts, the registry and the calls of the port. -/
def tdTelegramService :
    Machine TdTelegramService TdTelegramServiceCall
      TdTelegramServiceEvent where
  initial := {}
  step := TdTelegramService.step

/-- A reader stays at its position and in its function. -/
theorem TdReading.ReadingStep.reader_stays
    {before after : TdReading}
    {record later : ReadRecord}
    {call : TdReadingCall}
    (step : ReadingStep before record call after later)
    {index : Nat}
    {reader : Reader}
    (found : before.readers[index]? = some reader) :
    ∃ next,
      after.readers[index]? = some next ∧ next.call = reader.call := by
  have moved (reading : TdReading) (other : Nat) (phase : ReaderPhase)
      (same : reading.readers = before.readers) :
      ∃ next,
        (reading.readerAt other phase).readers[index]? = some next ∧
          next.call = reader.call := by
    simp only [TdReading.readerAt, same, List.getElem?_modify, found]
    split <;> exact ⟨_, rfl, rfl⟩
  cases step with
  | leaves | operatorCloses | receiverCloses | receives | fulfils
  | operatorCompletes | receiverCompletes =>
      exact ⟨reader, found, rfl⟩
  | enters =>
      have bound := (List.getElem?_eq_some_iff.mp found).1
      exact ⟨reader, (List.getElem?_append_left bound).trans found, rfl⟩
  | begins | refuses | asks | resumes | expires | timesOut =>
      exact moved _ _ _ rfl

namespace TdTelegramService

/-- A step of the system moves at most one account. -/
theorem memberMove_advance
    (address : Nat)
    (call : TdReadingCall)
    (service : TdTelegramService) :
    tdReading.MemberMove service.accounts
      (service.advance address call).2
      (service.advance address call).1.accounts := by
  unfold advance
  cases found : service.accounts[address]? with
  | none =>
      exact .rests
  | some account =>
      exact .moves found call

theorem memberMove_step
    (service : TdTelegramService)
    (call : TdTelegramServiceCall) :
    tdReading.MemberMove service.accounts
      (tdTelegramService.step service call).2
      (tdTelegramService.step service call).1.accounts := by
  cases call with
  | makeAccount =>
      exact .creates
  | account address call =>
      exact memberMove_advance address call service
  | attach accountId account? =>
      simp only [tdTelegramService, step]
      split <;> exact .rests
  | detach | lookUp =>
      exact .rests
  | enter index =>
      simp only [tdTelegramService, step]
      cases service.callers[index]? with
      | none =>
          exact .rests
      | some caller =>
          simp only
          cases caller.place with
          | inside =>
              exact .rests
          | found account? =>
              cases account? with
              | none =>
                  exact .rests
              | some address =>
                  have moved :=
                    memberMove_advance address (.enterRead caller.call)
                      service
                  simp only [enter]
                  cases found : service.accounts[address]? with
                  | none =>
                      exact .rests
                  | some account =>
                      exact moved

end TdTelegramService

/-- Every account goes through a run of its own. -/
theorem accounts_run (calls : List TdTelegramServiceCall) :
    tdReading.MembersRun
      (tdTelegramService.state calls).accounts
      (Machine.shown id (tdTelegramService.history calls)) :=
  Machine.membersRun_of_moves rfl TdTelegramService.memberMove_step calls

/-- What one account's readers have asked and what TDLib has answered. -/
def accountRecord
    (address : Nat)
    (history : List (Event TdTelegramServiceCall TdTelegramServiceEvent)) :
    ReadRecord :=
  readRecord (Machine.eventsOf address (Machine.shown id history))

/-- The steps that one account has taken. -/
def accountCalls
    (address : Nat)
    (history : List (Event TdTelegramServiceCall TdTelegramServiceEvent)) :
    List TdReadingCall :=
  (Machine.eventsOf address (Machine.shown id history)).map Event.label

/-- The readers of every account are explained by the account's own run. -/
theorem accounts_explain
    {calls : List TdTelegramServiceCall}
    {address : Nat}
    {account : TdReading}
    (found :
      (tdTelegramService.state calls).accounts[address]? =
        some account) :
    account.Explains
      (accountRecord address (tdTelegramService.history calls))
      (CausedIn
        (accountCalls address (tdTelegramService.history calls))) := by
  obtain ⟨own, rfl, shown⟩ := (accounts_run calls).run address account found
  rw [accountRecord, accountCalls, ← shown, Machine.map_label_history]
  exact explains_run own

end TgGate
