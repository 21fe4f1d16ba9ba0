import TgGate.ExclusiveAnswers
import TgGate.StopProgress

namespace TgGate

open Library

/-!
# No interleaving blocks a `stop`

Readers, tickets that are still to be completed and whatever TDLib has said so
far do not matter: a `stop` that has been entered can be brought to its end by
the operator's thread and the receive thread alone, and all that TDLib has to do
is to report that the authorization is closed.

The account can do so on its own, and each of its steps can be taken among the
readers once the tickets in hand have been completed.
-/

/-- One of the two threads goes on, and TDLib reports nothing else. -/
def TdReadingCall.Closes : TdReadingCall → Prop
  | .operator _ => True
  | .receive response? _ =>
      ∀ response,
        response? = some response →
        response = {
          requestId := 0
          object := .updateAuthorizationState (some .closed) }
  | _ => False

namespace TdReading

/-- The account is the same, and no thread holds a ticket. -/
structure Freed (account : TdAccount) (reading : TdReading) : Prop where
  account : reading.account = account
  receiver : reading.receiverHolds = []
  operator : reading.operatorHolds = []

section Lifting

variable {reading : TdReading}

theorem closes_silent (iteration : List UInt64) :
    (TdReadingCall.receive none iteration).Closes :=
  fun _ impossible => by cases impossible

/-- The operator's thread completes what it holds. -/
theorem canReach_freed_of_receiver
    (free : reading.receiverHolds = []) :
    tdReading.CanReach TdReadingCall.Closes (Freed reading.account)
      reading := by
  generalize holds : reading.operatorHolds = held
  induction held generalizing reading with
  | nil =>
      exact .refl ⟨rfl, free, holds⟩
  | cons first rest inductionHypothesis =>
      have completes :
          (tdReading.step reading (.operator {})).1 =
            { reading.complete first with operatorHolds := rest } := by
        simp only [tdReading, step, advanceOperator, holds]
      refine .step (.operator {}) trivial ?_
      rw [completes]
      exact @inductionHypothesis
        { reading.complete first with operatorHolds := rest } free rfl

/-- Both threads complete what they hold. -/
theorem canReach_freed (reading : TdReading) :
    tdReading.CanReach TdReadingCall.Closes (Freed reading.account)
      reading := by
  generalize holds : reading.receiverHolds = held
  induction held generalizing reading with
  | nil =>
      exact canReach_freed_of_receiver holds
  | cons first rest inductionHypothesis =>
      have completes :
          (tdReading.step reading (.receive none [])).1 =
            { reading.complete first with receiverHolds := rest } := by
        simp only [tdReading, step, advanceReceiver, holds]
      refine .step (.receive none []) (closes_silent []) ?_
      rw [completes]
      exact inductionHypothesis
        { reading.complete first with receiverHolds := rest } rfl

/-- What the loop does depends on what it meets in the part. -/
theorem advanceReceive_loopSupply
    {account : TdAccount}
    {supply : TdSupply}
    {response? : Option TdApiResponse}
    (same : response?.map TdApiResponse.received = supply.response?)
    (phase : ReceivePhase) :
    account.advanceReceive (loopSupply response? supply.iteration phase)
        phase =
      account.advanceReceive supply phase := by
  cases phase with
  | receiving =>
      simp only [TdAccount.advanceReceive, loopSupply, same]
  | _ => rfl

/-- A step of the account can be taken when no ticket is held. -/
theorem canReach_step
    {account : TdAccount}
    (freed : reading.Freed account)
    {own : TdAccountCall}
    (closes : own.Closes) :
    tdReading.CanReach TdReadingCall.Closes
      (fun later => later.account = (account.step own).1) reading := by
  obtain ⟨rfl, receiver, operator⟩ := freed
  cases own with
  | operator supply =>
      refine .step (.operator supply) trivial (.refl ?_)
      simp only [tdReading, step, advanceOperator, operator]
  | receive supply =>
      cases here : reading.account.receiveThread with
      | none =>
          refine .refl ?_
          simp only [TdAccount.step, here]
      | some phase =>
          let response? : Option TdApiResponse :=
            supply.response?.map fun _ => {
              requestId := 0
              object := .updateAuthorizationState (some .closed) }
          have same :
              response?.map TdApiResponse.received =
                supply.response? := by
            cases isResponse : supply.response? with
            | none =>
                simp only [response?, isResponse, Option.map_none]
            | some response =>
                rw [closes response isResponse]
                simp only [response?, isResponse, Option.map_some]
                rfl
          have stillCloses :
              (TdReadingCall.receive response? supply.iteration).Closes := by
            intro response isResponse
            obtain ⟨-, -, rfl⟩ := Option.map_eq_some_iff.mp isResponse
            rfl
          refine .step _ stillCloses (.refl ?_)
          have moves :=
            (advanceLoop_refines here response? supply.iteration).1
          simp only [tdReading, step, advanceReceiver, receiver, here,
            TdAccount.step] at moves ⊢
          rw [moves, advanceReceive_loopSupply same]
  | beginAuthorization | stop | submitCode | submitPassword
  | requestRead | timeOutRead =>
      exact closes.elim

/-- What the account can reach alone, it can reach among its readers. -/
theorem canReach_of_account
    {Goal : TdAccount → Prop}
    (canReach :
      tdAccountMachine.CanReach TdAccountCall.Closes Goal
        reading.account) :
    tdReading.CanReach TdReadingCall.Closes
      (fun later => Goal later.account) reading := by
  obtain ⟨labels, closes, reached⟩ := canReach
  induction labels generalizing reading with
  | nil =>
      exact .refl reached
  | cons own rest inductionHypothesis =>
      have closesFirst := closes own List.mem_cons_self
      refine (canReach_freed reading).trans fun freed isFreed => ?_
      refine (canReach_step isFreed closesFirst).trans fun later same => ?_
      refine inductionHypothesis
        (fun call member => closes call (List.mem_cons_of_mem _ member)) ?_
      rw [same]
      exact reached

end Lifting

end TdReading

/-- While the ids of a session increase, no read has the id of the updates. -/
theorem sparesUpdates_run
    {calls : List TdReadingCall}
    (countsUp : CountsUp calls) :
    (tdReading.state calls).account.readRequests.SparesUpdates := by
  induction calls using List.reverseRecOn with
  | nil =>
      exact ⟨AList.notMem_empty _, Finset.notMem_empty _⟩
  | append_singleton calls call inductionHypothesis =>
      have spares :=
        inductionHypothesis fun first isPrefix =>
          countsUp first (isPrefix.trans (List.prefix_append _ _))
      have bounded := countsUp _ (List.prefix_refl _)
      rw [Machine.state_snoc] at bounded ⊢
      obtain ⟨own, same, -⟩ := reading_refines_account calls
      have positive :
          0 < (tdReading.state calls).account.nextRequestId := by
        rw [same]
        exact (TdAccount.ownsManager_run own).positive
      have moves :
          (tdReading.step (tdReading.state calls) call).1.account = _ :=
        (TdReading.step_refines call).1
      rw [moves] at bounded ⊢
      generalize (tdReading.state calls).accountCall? call = own?
        at bounded ⊢
      cases own? with
      | none =>
          exact spares
      | some step =>
          have readStep :
              TdAccount.ReadStep (tdReading.state calls).account {} _ _ :=
            TdAccount.readStep_step (restsBetweenSessions_run calls).alone
              step
          exact TdAccount.sparesUpdates_readStep spares positive bounded
            readStep

/--
In every reachable state in which the operator is inside `stop`, the two threads
of the account can bring it to its end with nothing from outside but TDLib's
report that the authorization is closed: no reader, no ticket in hand and no
earlier response stands in their way.
-/
theorem stop_can_end
    {calls : List TdReadingCall}
    (countsUp : CountsUp calls)
    {phase : StopPhase}
    {next? : Option TdAccountOptions}
    (inside :
      (tdReading.state calls).account.operator =
        .stopping phase next?) :
    ∃ rest : List TdReadingCall,
      (∀ call ∈ rest, call.Closes) ∧
        (tdReading.state (calls ++ rest)).account.Stopped next? := by
  obtain ⟨own, same, -⟩ := reading_refines_account calls
  have owns : (tdReading.state calls).account.OwnsManager := by
    rw [same]
    exact TdAccount.ownsManager_run own
  have canStop : (tdReading.state calls).account.CanStop next? :=
    TdAccount.canStop (sparesUpdates_run countsUp)
      (restsBetweenSessions_run calls).alone owns inside
  obtain ⟨rest, closes, stopped⟩ := TdReading.canReach_of_account canStop
  refine ⟨rest, closes, ?_⟩
  rw [Machine.state, Machine.stateFrom_append]
  exact stopped

/-- The operator enters `stop` while a reader waits for its chats. -/
def enteredStop : List TdReadingCall :=
  authorizedReading ++
    [.enterRead .listChats, .read 0, .read 0, .stop]

theorem stop_can_end_entered :
    ∃ rest : List TdReadingCall,
      (∀ call ∈ rest, call.Closes) ∧
        (tdReading.state (enteredStop ++ rest)).account.Stopped none := by
  have countsUp : CountsUp enteredStop := by
    have small :
        ∀ first ∈ enteredStop.inits,
          (tdReading.state first).account.nextRequestId ≤ 3 := by
      decide +kernel
    intro first isPrefix
    have bound := small first ((List.mem_inits _ _).mpr isPrefix)
    omega
  exact stop_can_end countsUp
    (show (tdReading.state enteredStop).account.operator =
      .stopping .closing none from rfl)

end TgGate
