import TgGate.LateResponses
import TgGate.TdReads

namespace TgGate

open Library

/-!
# The readers and the account

The machine of the readers refines the machine of the account: every step of a
thread takes at most one step of the account, and the rest of it concerns
request states and the positions of readers only.  What holds of the account in
all of its runs therefore holds of it among its readers.
-/

namespace TdReading

/-- The step of the account that a reader's part contains. -/
def readerCall? : ReaderPhase → Option TdAccountCall
  | .requesting inquiry => some (.requestRead inquiry.request)
  | .expired _ requestId ticket => some (.timeOutRead requestId ticket)
  | .entering | .waiting _ _ _ | .returned _ => none

/-- What the receive loop meets in one part. -/
def loopSupply
    (response? : Option TdApiResponse)
    (iteration : List UInt64) : ReceivePhase → TdSupply
  | .receiving => { response? := response?.map TdApiResponse.received }
  | _ => { iteration := iteration }

/-- The step of the account that a step contains. -/
def accountCall?
    (reading : TdReading) : TdReadingCall → Option TdAccountCall
  | .beginAuthorization options => some (.beginAuthorization options)
  | .stop => some .stop
  | .submitCode code => some (.submitCode code)
  | .submitPassword password => some (.submitPassword password)
  | .operator supply =>
      match reading.operatorHolds with
      | [] => some (.operator supply)
      | _ :: _ => none
  | .receive response? iteration =>
      match reading.receiverHolds, reading.account.receiveThread with
      | [], some phase =>
          some (.receive (loopSupply response? iteration phase))
      | _, _ => none
  | .enterRead _ => none
  | .read index =>
      reading.readers[index]?.bind fun reader => readerCall? reader.phase

end TdReading

/-- What an event tells TDLib or the caller of the account. -/
def TdEvent.visible? : TdEvent → Option TdEvent
  | .nothing => none
  | event => some event

/-- The same of an event of the whole system. -/
def TdReadingEvent.visible? : TdReadingEvent → Option TdEvent
  | .account event => event.visible?
  | .received _ _ | .completed _ => none

namespace TdReading

variable {reading : TdReading}

@[simp] theorem account_readerAt
    (index : Nat) (phase : ReaderPhase) :
    (reading.readerAt index phase).account = reading.account :=
  rfl

@[simp] theorem account_complete (held : HeldTicket) :
    (reading.complete held).account = reading.account :=
  rfl

/-- Only the threads of the account take the account's own steps. -/
theorem call_of_accountCall
    {call : TdReadingCall}
    {own : TdAccountCall}
    (contains : reading.accountCall? call = some own) :
    (∀ supply, own = .operator supply → call = .operator supply) ∧
      ∀ supply,
        own = .receive supply →
        ∃ response? iteration,
          call = .receive response? iteration := by
  cases call with
  | beginAuthorization | stop | submitCode | submitPassword =>
      obtain rfl := Option.some.inj contains
      constructor <;> rintro _ ⟨⟩
  | operator supply =>
      simp only [accountCall?] at contains
      split at contains
      · obtain rfl := Option.some.inj contains
        constructor <;> rintro _ ⟨⟩
        rfl
      · cases contains
  | receive response? iteration =>
      refine ⟨?_, fun _ _ => ⟨response?, iteration, rfl⟩⟩
      rintro supply rfl
      simp only [accountCall?] at contains
      split at contains <;> cases contains
  | enterRead =>
      cases contains
  | read index =>
      obtain ⟨reader, -, isCall⟩ := Option.bind_eq_some_iff.mp contains
      unfold readerCall? at isCall
      split at isCall <;> cases isCall
      all_goals constructor <;> rintro _ ⟨⟩

/-- Receiving shows nothing of the account. -/
theorem step_receiving
    {account : TdAccount}
    (here : account.receiveThread = some .receiving)
    (supply : TdSupply) :
    (account.step (.receive supply)).2 = .nothing := by
  simp only [TdAccount.step, here]
  rfl

theorem advanceLoop_refines
    {phase : ReceivePhase}
    (here : reading.account.receiveThread = some phase)
    (response? : Option TdApiResponse)
    (iteration : List UInt64) :
    (reading.advanceLoop response? iteration phase).1.account =
        (reading.account.step
          (.receive (loopSupply response? iteration phase))).1 ∧
      (reading.advanceLoop response? iteration phase).2.visible? =
        (reading.account.step
          (.receive (loopSupply response? iteration phase))).2.visible? := by
  cases phase with
  | receiving =>
      simp only [advanceLoop, loopSupply, step_receiving here]
      split <;> exact ⟨rfl, rfl⟩
  | _ => exact ⟨rfl, rfl⟩

theorem requestRead_refines (index : Nat) (inquiry : Inquiry) :
    (reading.requestRead index inquiry).1.account =
        (reading.account.requestRead inquiry.request).1 ∧
      (reading.requestRead index inquiry).2 =
        .account (reading.account.requestRead inquiry.request).2 := by
  refine ⟨?_, rfl⟩
  simp only [requestRead]
  split <;> rfl

/-- A step moves the account by the step it contains and shows the same. -/
theorem step_refines (call : TdReadingCall) :
    (reading.step call).1.account =
        tdAccountMachine.stateFrom reading.account
          (reading.accountCall? call).toList ∧
      (reading.step call).2.visible?.toList =
        Machine.shown TdEvent.visible?
          (tdAccountMachine.historyFrom reading.account
            (reading.accountCall? call).toList) := by
  have shown_one (own : TdAccountCall) :
      Machine.shown TdEvent.visible?
          (tdAccountMachine.historyFrom reading.account [own]) =
        (reading.account.step own).2.visible?.toList :=
    Machine.shown_singleton ..
  cases call with
  | beginAuthorization options =>
      exact ⟨rfl, (shown_one (.beginAuthorization options)).symm⟩
  | stop =>
      exact ⟨rfl, (shown_one .stop).symm⟩
  | submitCode code =>
      exact ⟨rfl, (shown_one (.submitCode code)).symm⟩
  | submitPassword password =>
      exact ⟨rfl, (shown_one (.submitPassword password)).symm⟩
  | operator supply =>
      simp only [step, advanceOperator, accountCall?]
      cases reading.operatorHolds with
      | nil =>
          exact ⟨rfl, (shown_one _).symm⟩
      | cons held rest =>
          exact ⟨rfl, rfl⟩
  | receive response? iteration =>
      simp only [step, advanceReceiver, accountCall?]
      cases reading.receiverHolds with
      | cons held rest =>
          exact ⟨rfl, rfl⟩
      | nil =>
          cases here : reading.account.receiveThread with
          | none =>
              exact ⟨rfl, rfl⟩
          | some phase =>
              obtain ⟨moves, shows⟩ :=
                advanceLoop_refines here response? iteration
              refine ⟨moves, ?_⟩
              rw [Option.toList_some, shown_one, ← shows]
  | enterRead call =>
      exact ⟨rfl, rfl⟩
  | read index =>
      simp only [step, accountCall?]
      cases reading.readers[index]? with
      | none =>
          exact ⟨rfl, rfl⟩
      | some reader =>
          simp only [advanceReader, Option.bind_some]
          cases reader.phase with
          | requesting inquiry =>
              obtain ⟨moves, shows⟩ :=
                @requestRead_refines reading index inquiry
              refine ⟨moves, ?_⟩
              rw [readerCall?, Option.toList_some, shown_one, shows]
              rfl
          | entering | waiting | expired | returned =>
              exact ⟨rfl, rfl⟩

end TdReading

/--
Every interleaving of the readers with the threads of the account is one of the
account alone: some run of the account ends in the same account, and TDLib and
the operator see the same events in the same order.
-/
theorem reading_refines_account (calls : List TdReadingCall) :
    ∃ own,
      (tdReading.state calls).account = tdAccountMachine.state own ∧
        Machine.shown TdReadingEvent.visible? (tdReading.history calls) =
          Machine.shown TdEvent.visible? (tdAccountMachine.history own) :=
  tdReading.exists_component_run tdAccountMachine TdReading.account
    TdReading.accountCall? TdReadingEvent.visible? TdEvent.visible? rfl
    (fun _ call => (TdReading.step_refines call).1)
    (fun _ call => (TdReading.step_refines call).2) calls

end TgGate
