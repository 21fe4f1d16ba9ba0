import TgGate.AuthorizationInputs
import TgGate.RetiredRequests
import TgGate.SessionSecrets

namespace TgGate

open Library

/-!
# The reads of a session, step by step

The log of a session is kept beside the run of the account.  `ReadStep` says
what a step of any thread can do to the router, the request ids and the
response that the receive thread handles, and what it enters into the log.
-/

namespace TdAccount

/-- The ids that a step of `fail_read_requests` retires. -/
def failed (supply : TdSupply) (account : TdAccount) : List UInt64 :=
  if supply.iteration.Perm account.readRequests.requests.keys then
    supply.iteration
  else
    []

end TdAccount

/-- The log after a step of the account. -/
def ReadLog.after
    (account : TdAccount)
    (log : ReadLog) : TdAccountCall → ReadLog
  | .requestRead request =>
      match (account.requestRead request).2 with
      | .sent _ _ requestId _ =>
          log.opens (UInt64.ofNat requestId) account.tickets
      | _ => log
  | .timeOutRead requestId ticket =>
      if AList.lookup (UInt64.ofNat requestId)
          account.readRequests.requests = some ticket then
        log.retires [UInt64.ofNat requestId]
      else
        log
  | .operator supply =>
      match account.operator with
      | .stopping .failingReads _ => log.retires (account.failed supply)
      | .installing _ => log.restarts
      | _ => log
  | .receive supply =>
      match account.receiveThread with
      | some .receiving =>
          match account.manager, supply.response? with
          | some _, some response =>
              log.receives (UInt64.ofNat response.requestId)
          | _, _ => log
      | some (.fulfilling _) | some (.discarding _) => log.settles
      | some .failingReads => log.retires (account.failed supply)
      | _ => log
  | _ => log

/-- The account together with the log of its session. -/
def loggedAccount :
    Machine (TdAccount × ReadLog) TdAccountCall TdEvent where
  initial := ({}, {})
  step logged call :=
    (((logged.1.step call).1, logged.2.after logged.1 call),
      (logged.1.step call).2)

/-- The log of the session that a run is in. -/
def readLog (calls : List TdAccountCall) : ReadLog :=
  (loggedAccount.state calls).2

/-- The log follows the run of the account. -/
theorem fst_state_loggedAccount (calls : List TdAccountCall) :
    (loggedAccount.state calls).1 = tdAccountMachine.state calls := by
  induction calls using List.reverseRecOn with
  | nil =>
      rfl
  | append_singleton calls call inductionHypothesis =>
      rw [Machine.state_snoc, Machine.state_snoc, ← inductionHypothesis]
      rfl

theorem readLog_snoc
    (calls : List TdAccountCall)
    (call : TdAccountCall) :
    readLog (calls ++ [call]) =
      (readLog calls).after (tdAccountMachine.state calls) call := by
  rw [readLog, Machine.state_snoc, ← fst_state_loggedAccount]
  rfl

/-- The response that a part of the receive thread handles. -/
def ReceivePhase.held? : ReceivePhase → Option UInt64
  | .routing response => some (UInt64.ofNat response.requestId)
  | .fulfilling requestId => some (UInt64.ofNat requestId)
  | .discarding response => some (UInt64.ofNat response.requestId)
  | _ => none

/-- The pending reads have been failed and no session is installed. -/
def OperatorPhase.closed : OperatorPhase → Bool
  | .stopping .closing _ | .stopping .failingReads _ => false
  | .stopping _ _ | .installing _ => true
  | _ => false

namespace TdAccount

/-- The response that the receive thread handles. -/
def held? (account : TdAccount) : Option UInt64 :=
  account.receiveThread.bind ReceivePhase.held?

/-- What a step does to the reads, guards included. -/
inductive ReadStep
    (before : TdAccount)
    (log : ReadLog) : TdAccount → ReadLog → Prop where
  | stays
      {after : TdAccount}
      (router : after.readRequests = before.readRequests)
      (later : before.nextRequestId ≤ after.nextRequestId)
      (thread :
        after.receiveThread = before.receiveThread ∨
          before.held? = none ∧ after.held? = none)
      (operator :
        after.operator.closed = true → before.operator.closed = true) :
      ReadStep before log after log
  | routes
      {response : TdResponse}
      (here : before.receiveThread = some (.routing response)) :
      ReadStep before log
        (before.receiveAt
          (if before.readRequests.contains
              (UInt64.ofNat response.requestId) then
            .fulfilling response.requestId
          else
            .discarding response))
        log
  | opens
      {after : TdAccount}
      (accepting : before.readRequests.accepting = true)
      (router :
        after.readRequests =
          { before.readRequests with
            requests :=
              before.readRequests.requests.emplace
                (UInt64.ofNat before.nextRequestId) before.tickets })
      (next : after.nextRequestId = before.nextRequestId + 1)
      (thread : after.receiveThread = before.receiveThread)
      (operator : after.operator = before.operator) :
      ReadStep before log after
        (log.opens (UInt64.ofNat before.nextRequestId) before.tickets)
  | expires
      {requestId : UInt64}
      {after : TdAccount}
      (pending : requestId ∈ before.readRequests.requests)
      (router :
        after.readRequests =
          { before.readRequests with
            requests :=
              before.readRequests.requests.erase requestId }.retire
                requestId)
      (next : after.nextRequestId = before.nextRequestId)
      (thread : after.receiveThread = before.receiveThread)
      (operator : after.operator = before.operator) :
      ReadStep before log after (log.retires [requestId])
  | closes
      {iteration : List UInt64}
      {after : TdAccount}
      (complete :
        iteration.Perm before.readRequests.requests.keys)
      (router :
        after.readRequests = (before.readRequests.close iteration).2)
      (next : after.nextRequestId = before.nextRequestId)
      (thread :
        after.receiveThread = before.receiveThread ∨
          before.held? = none ∧ after.held? = none) :
      ReadStep before log after (log.retires iteration)
  | receives
      {response : TdResponse}
      (here : before.receiveThread = some .receiving) :
      ReadStep before log (before.receiveAt (.routing response))
        (log.receives (UInt64.ofNat response.requestId))
  | fulfils
      {requestId : Nat}
      (here : before.receiveThread = some (.fulfilling requestId)) :
      ReadStep before log
        ({ before with
            readRequests :=
              (before.readRequests.takeRegistered
                (UInt64.ofNat requestId)).2 }.receiveAt .checking)
        log.settles
  | discards
      {response : TdResponse}
      {phase : ReceivePhase}
      (here : before.receiveThread = some (.discarding response))
      (next : phase.held? = none) :
      ReadStep before log
        ({ before with
            readRequests :=
              (before.readRequests.discardLate
                (UInt64.ofNat response.requestId)).2 }.receiveAt phase)
        log.settles
  | installs
      {after : TdAccount}
      (here : before.operator.closed = true)
      (alone : before.operator.afterJoin = true)
      (router : after.readRequests = before.readRequests.reopen)
      (thread : after.receiveThread = before.receiveThread)
      (operator : after.operator.closed = false) :
      ReadStep before log after log.restarts

section Steps

variable {before account : TdAccount}
variable {log : ReadLog}

/-- A step that leaves the reads and the receive thread alone. -/
theorem readStep_of_same
    {after : TdAccount}
    (router : after.readRequests = before.readRequests)
    (next : after.nextRequestId = before.nextRequestId)
    (thread : after.receiveThread = before.receiveThread)
    (operator :
      after.operator.closed = true → before.operator.closed = true) :
    ReadStep before log after log :=
  .stays router next.ge (.inl thread) operator

/-- A step that sends something else than a read. -/
theorem readStep_of_sent
    {sender after : TdAccount}
    {function : TdFunction}
    (router : after.readRequests = before.readRequests)
    (next :
      after.nextRequestId = (sender.send function).1.nextRequestId)
    (first : sender.nextRequestId = before.nextRequestId)
    (thread :
      after.receiveThread = before.receiveThread ∨
        before.held? = none ∧ after.held? = none)
    (operator :
      after.operator.closed = true → before.operator.closed = true) :
    ReadStep before log after log := by
  refine .stays router ?_ thread operator
  rw [← first, next]
  exact nextRequestId_le_send function sender

/-- Failing the pending reads retires them, if all of them are listed. -/
theorem readStep_of_failed
    {supply : TdSupply}
    {failed after : TdAccount}
    (isFailed : before.failReadRequests? supply = some failed)
    (router : after.readRequests = failed.readRequests)
    (next : after.nextRequestId = failed.nextRequestId)
    (thread :
      after.receiveThread = before.receiveThread ∨
        before.held? = none ∧ after.held? = none) :
    ReadStep before log after (log.retires (before.failed supply)) := by
  unfold failReadRequests? at isFailed
  split at isFailed
  · next complete =>
      obtain rfl := Option.some.inj isFailed
      rw [TdAccount.failed, if_pos complete]
      exact .closes complete router next thread
  · cases isFailed

/-- Otherwise nothing is retired. -/
theorem retires_of_not_failed
    {supply : TdSupply}
    (notFailed : account.failReadRequests? supply = none) :
    log.retires (account.failed supply) = log := by
  unfold failReadRequests? at notFailed
  split at notFailed
  · cases notFailed
  · next incomplete =>
      rw [TdAccount.failed, if_neg incomplete, ReadLog.retires_nil]

theorem readStep_submit
    (kind : InputKind)
    (input : SecretBuffer) :
    ReadStep account log (account.submit kind input).1 log := by
  unfold submit
  split
  · exact readStep_of_same rfl rfl rfl id
  · split
    · exact readStep_of_same rfl rfl rfl id
    · split
      · exact readStep_of_same rfl rfl rfl id
      · exact readStep_of_sent (by simp) rfl rfl (.inl (by simp))
          (by simp)

theorem readStep_beginAuthorization (options : TdAccountOptions) :
    ReadStep account log (account.beginAuthorization options).1 log := by
  unfold beginAuthorization
  split
  · exact readStep_of_same rfl rfl rfl fun closed => by cases closed
  · exact readStep_of_same rfl rfl rfl id

theorem readStep_requestRead (request : TdReadFunction) :
    ReadStep account log (account.requestRead request).1
      (log.after account (.requestRead request)) := by
  simp only [ReadLog.after]
  unfold requestRead
  split
  · exact readStep_of_same rfl rfl rfl id
  · next authorized =>
      simp only [not_or, not_not, Bool.not_eq_true,
        Option.isNone_eq_false_iff] at authorized
      obtain ⟨manager, owned⟩ :=
        Option.isSome_iff_exists.mp authorized.2.2.1
      rcases account.readRequests.openRequest_cases
        (UInt64.ofNat account.nextRequestId) account.tickets with
          ⟨-, refused⟩ | ⟨accepting, free, opened⟩
      · rw [refused]
        exact .stays rfl (Nat.le_succ _) (.inl rfl) id
      · rw [opened]
        simp only [send, owned]
        exact .opens accepting rfl rfl rfl rfl

theorem readStep_timeOutRead
    (requestId : Nat)
    (ticket : Ticket) :
    ReadStep account log (account.timeOutRead requestId ticket).1
      (log.after account (.timeOutRead requestId ticket)) := by
  simp only [ReadLog.after, timeOutRead, RequestRouter.unregisterTimedOut]
  cases found :
      AList.lookup (UInt64.ofNat requestId)
        account.readRequests.requests with
  | none =>
      exact readStep_of_same rfl rfl rfl id
  | some registered =>
      by_cases own : registered = ticket
      · have pending :
            UInt64.ofNat requestId ∈ account.readRequests.requests :=
          AList.lookup_isSome.mp (Option.isSome_of_eq_some found)
        simp only [own, ↓reduceIte]
        exact .expires pending rfl rfl rfl rfl
      · simp only [own, Option.some.injEq, ↓reduceIte]
        exact readStep_of_same rfl rfl rfl id

theorem readStep_advanceStop
    (supply : TdSupply)
    {next? : Option TdAccountOptions}
    {phase : StopPhase}
    (here : account.operator = .stopping phase next?) :
    ReadStep account log (account.advanceStop supply next? phase).1
      (log.after account (.operator supply)) := by
  simp only [ReadLog.after, here]
  cases phase with
  | closing =>
      simp only [advanceStop, requestClose]
      split
      · exact readStep_of_sent (by simp [operatorAt]) rfl rfl
          (.inl (by simp [operatorAt])) fun closed => by cases closed
      · exact readStep_of_same rfl rfl rfl fun closed => by cases closed
  | failingReads =>
      simp only [advanceStop]
      cases isFailed : account.failReadRequests? supply with
      | none =>
          rw [retires_of_not_failed isFailed]
          exact readStep_of_same rfl rfl rfl id
      | some failed =>
          refine readStep_of_failed isFailed rfl rfl (.inl ?_)
          rw [eq_of_failReadRequests? isFailed]
          rfl
  | joining =>
      simp only [advanceStop]
      split
      · next joined =>
          refine .stays rfl le_rfl (.inr ⟨?_, rfl⟩) fun _ => by
            rw [here]
            rfl
          unfold canJoin at joined
          unfold held?
          split at joined
          · next alone =>
              rw [alone]
              rfl
          · next finished =>
              rw [finished]
              rfl
          · cases joined
      · exact readStep_of_same rfl rfl rfl id
  | resetting | clearing | emptying =>
      refine readStep_of_same rfl rfl rfl fun _ => ?_
      rw [here]
      rfl

theorem readStep_advanceOperator
    (supply : TdSupply)
    {phase : OperatorPhase}
    (here : account.operator = phase)
    (alone :
      account.operator.afterJoin = true → account.receiveThread = none) :
    ReadStep account log (account.advanceOperator supply phase).1
      (log.after account (.operator supply)) := by
  cases phase with
  | stopping phase next? =>
      exact readStep_advanceStop supply here
  | idle =>
      simp only [ReadLog.after, here]
      exact readStep_of_same rfl rfl rfl id
  | installing options =>
      simp only [ReadLog.after, here]
      exact .installs (by rw [here]; rfl) (by rw [here]; rfl) rfl rfl rfl
  | startingThread =>
      simp only [ReadLog.after, here, advanceOperator]
      split
      · refine .stays rfl le_rfl (.inr ⟨?_, rfl⟩) fun closed => by
          cases closed
        rw [held?, alone (by rw [here]; rfl)]
        rfl
      · exact readStep_of_same rfl rfl rfl fun closed => by cases closed
  | activating =>
      simp only [ReadLog.after, here, advanceOperator]
      exact readStep_of_sent (by simp [operatorAt]) rfl rfl
        (.inl (by simp [operatorAt])) fun closed => by cases closed

theorem readStep_advanceReceive
    (supply : TdSupply)
    {phase : ReceivePhase}
    (here : account.receiveThread = some phase) :
    ReadStep account log (account.advanceReceive supply phase).1
      (log.after account (.receive supply)) := by
  have unheld : phase.held? = none → account.held? = none := by
    intro nothing
    rw [held?, here]
    exact nothing
  simp only [ReadLog.after, here]
  cases phase with
  | checking =>
      refine .stays rfl le_rfl (.inr ⟨unheld rfl, ?_⟩) id
      simp only [advanceReceive, receiveAt, held?]
      split <;> rfl
  | receiving =>
      simp only [advanceReceive]
      cases account.manager with
      | none =>
          exact .stays rfl le_rfl (.inr ⟨unheld rfl, rfl⟩) id
      | some manager =>
          cases supply.response? with
          | none =>
              exact .stays rfl le_rfl (.inr ⟨unheld rfl, rfl⟩) id
          | some response =>
              exact .receives here
  | routing response =>
      exact .routes here
  | fulfilling requestId =>
      exact .fulfils here
  | discarding response =>
      refine .discards here ?_
      split
      · rfl
      · unfold TdResponse.branch
        split <;> rfl
  | settingStatus state =>
      refine .stays rfl le_rfl (.inr ⟨unheld rfl, ?_⟩) id
      cases state <;> rfl
  | sendingParameters | sendingPhoneNumber =>
      exact readStep_of_sent (by simp [advanceReceive, receiveAt]) rfl rfl
        (.inr ⟨unheld rfl, rfl⟩) (by simp [advanceReceive, receiveAt])
  | failingReads =>
      simp only [advanceReceive]
      cases isFailed : account.failReadRequests? supply with
      | none =>
          rw [retires_of_not_failed isFailed]
          exact readStep_of_same rfl rfl rfl id
      | some failed =>
          exact readStep_of_failed isFailed rfl rfl
            (.inr ⟨unheld rfl, rfl⟩)
  | finished =>
      exact readStep_of_same rfl rfl rfl id
  | clearingInput | reporting | clearingOptions | finishing =>
      exact .stays rfl le_rfl (.inr ⟨unheld rfl, rfl⟩) id

theorem readStep_whenIdle
    {function : TdAccount → TdAccount × TdEvent}
    (called : ReadStep account log (function account).1 log) :
    ReadStep account log (account.whenIdle function).1 log := by
  unfold whenIdle
  split
  · exact called
  · exact readStep_of_same rfl rfl rfl id

/-- What any step does to the reads. -/
theorem readStep_step
    (alone :
      account.operator.afterJoin = true → account.receiveThread = none)
    (call : TdAccountCall) :
    ReadStep account log (account.step call).1
      (log.after account call) := by
  cases call with
  | beginAuthorization options =>
      exact readStep_whenIdle (readStep_beginAuthorization options)
  | stop =>
      apply readStep_whenIdle
      exact readStep_of_same rfl rfl rfl fun closed => by cases closed
  | submitCode code =>
      exact readStep_whenIdle (readStep_submit .code code)
  | submitPassword password =>
      exact readStep_whenIdle (readStep_submit .password password)
  | operator supply =>
      exact readStep_advanceOperator supply rfl alone
  | receive supply =>
      cases here : account.receiveThread with
      | none =>
          simp only [step, ReadLog.after, here]
          exact readStep_of_same rfl rfl rfl id
      | some phase =>
          simp only [step, here]
          exact readStep_advanceReceive supply here
  | requestRead request =>
      exact readStep_requestRead request
  | timeOutRead requestId ticket =>
      exact readStep_timeOutRead requestId ticket

end Steps

end TdAccount

end TgGate
