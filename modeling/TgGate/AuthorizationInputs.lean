import TgGate.TdAccount

namespace TgGate

open Library

/-!
# Codes and passwords follow TDLib's requests

A code or password is sent only while the status says that TDLib waits for it
and no earlier input is in flight.  The id of the input in flight is forgotten
when the next authorization state is processed, when its own error is, and when
the account is stopped.
-/

/-- The request carries an input. -/
def TdFunction.isInput : TdFunction → Bool
  | .checkAuthenticationCode _ => true
  | .checkAuthenticationPassword _ => true
  | _ => false

/-- The event sends an input. -/
def TdEvent.sendsInput : TdEvent → Bool
  | .sent _ _ _ function => function.isInput
  | _ => false

/-- What a history says about inputs. -/
structure InputRecord where
  /-- The last authorization state processed in the current session. -/
  state : Option TdAuthorizationState := none
  /-- The request id of the last input sent. -/
  lastInput : Option Nat := none
  /-- The same id, as long as nothing has taken the input back. -/
  inFlight : Option Nat := none

/-- The record after an event. -/
def InputRecord.after (record : InputRecord) : TdEvent → InputRecord
  | .accepted _ _ _ => { record with state := none, inFlight := none }
  | .stateProcessed state =>
      { record with state := some state, inFlight := none }
  | .inputErrorProcessed requestId =>
      { record with
        inFlight :=
          if record.inFlight = some requestId then
            none
          else
            record.inFlight }
  | .sent _ _ requestId function =>
      if function.isInput then
        { record with
          lastInput := some requestId
          inFlight := some requestId }
      else
        record
  | _ => record

/-- The record of a history. -/
def inputRecord
    (history : List (Event TdAccountCall TdEvent)) : InputRecord :=
  history.foldl (fun record event => record.after event.output) {}

@[simp] theorem isInput_check (kind : InputKind) (text : Bytes) :
    (kind.check text).isInput = true := by
  cases kind <;> rfl

theorem inputRecord_snoc
    (history : List (Event TdAccountCall TdEvent))
    (event : Event TdAccountCall TdEvent) :
    inputRecord (history ++ [event]) =
      (inputRecord history).after event.output :=
  List.foldl_concat ..

/-- Only the awaited state has the status a submission insists on. -/
theorem stateName_eq_status_iff
    {state : TdAuthorizationState}
    {kind : InputKind} :
    state.stateName = kind.status ↔ state = kind.awaited := by
  cases kind <;> cases state <;>
    simp [TdAuthorizationState.stateName, InputKind.status,
      InputKind.awaited]

namespace TdAccount

/-- The account takes this input. -/
def Accepts
    (account : TdAccount)
    (kind : InputKind)
    (input : SecretBuffer) : Prop :=
  ∃ manager clientId requestId,
    (account.submit kind input).2 =
      .sent manager clientId requestId (kind.check input.content)

/-- No submission insists on the current status. -/
def AsksNothing (account : TdAccount) : Prop :=
  ∀ kind : InputKind, account.authorizationStatus ≠ kind.status

/-- What a step does to the fields that guard a submission. -/
inductive InputStep (before : TdAccount) :
    TdAccount → TdEvent → Prop where
  | stays
      {after : TdAccount}
      {event : TdEvent}
      (input :
        after.authorizationInputRequestId =
          before.authorizationInputRequestId)
      (manager : after.manager = before.manager)
      (status :
        after.authorizationStatus = before.authorizationStatus ∨
          after.AsksNothing)
      (later : before.nextRequestId ≤ after.nextRequestId)
      (silent : ∀ record : InputRecord, record.after event = record) :
      InputStep before after event
  | resets
      {after : TdAccount}
      (input : after.authorizationInputRequestId = 0)
      (manager : after.manager = none)
      (status : after.AsksNothing)
      (later : before.nextRequestId ≤ after.nextRequestId) :
      InputStep before after .nothing
  | installs
      {after : TdAccount}
      {manager : Nat}
      {clientId : Int32}
      {options : TdAccountOptions}
      (input :
        after.authorizationInputRequestId =
          before.authorizationInputRequestId)
      (status : after.AsksNothing)
      (first : after.nextRequestId = 1) :
      InputStep before after (.accepted manager clientId options)
  | submits
      {after : TdAccount}
      {manager : Nat}
      {clientId : Int32}
      {kind : InputKind}
      {text : Bytes}
      (input : after.authorizationInputRequestId = before.nextRequestId)
      (status : after.authorizationStatus = before.authorizationStatus)
      (later : before.nextRequestId < after.nextRequestId) :
      InputStep before after
        (.sent manager clientId before.nextRequestId (kind.check text))
  | answers
      {after : TdAccount}
      {requestId : Nat}
      (input :
        after.authorizationInputRequestId =
          if before.authorizationInputRequestId = requestId then
            0
          else
            before.authorizationInputRequestId)
      (manager : after.manager = before.manager)
      (status : after.authorizationStatus = before.authorizationStatus)
      (later : before.nextRequestId ≤ after.nextRequestId) :
      InputStep before after (.inputErrorProcessed requestId)
  | processes
      {after : TdAccount}
      {state : TdAuthorizationState}
      (input : after.authorizationInputRequestId = 0)
      (status : after.authorizationStatus = state.stateName)
      (later : before.nextRequestId ≤ after.nextRequestId) :
      InputStep before after (.stateProcessed state)

section Steps

variable {before after account : TdAccount}
variable {kind : InputKind}
variable {input : SecretBuffer}

/-- A submission goes through exactly if its guards do. -/
theorem accepts_iff :
    account.Accepts kind input ↔
      input.isEmpty = false ∧
        account.authorizationInputRequestId = 0 ∧
          account.manager.isSome = true ∧
            account.authorizationStatus = kind.status := by
  unfold Accepts submit
  constructor
  · rintro ⟨manager, clientId, requestId, sent⟩
    split at sent
    · cases sent
    · next present =>
        split at sent
        · cases sent
        · next free =>
            split at sent
            · cases sent
            · next asked =>
                rw [not_or, not_not] at asked
                exact ⟨by simpa using present, not_not.mp free,
                  Option.isSome_iff_ne_none.mpr (by simpa using asked.1),
                  asked.2⟩
  · rintro ⟨present, free, owned, asked⟩
    obtain ⟨manager, isManager⟩ := Option.isSome_iff_exists.mp owned
    refine ⟨manager, account.clientId, account.nextRequestId, ?_⟩
    simp only [present, free, isManager, asked, Bool.false_eq_true,
      ↓reduceIte, ne_eq, not_true_eq_false, Option.isNone_some, or_self]
    exact snd_send_eq_sent_iff.mpr ⟨⟨isManager, rfl, rfl⟩, rfl⟩

theorem after_send
    {function : TdFunction}
    (noInput : function.isInput = false)
    (record : InputRecord) :
    record.after (account.send function).2 = record := by
  rcases snd_send_cases function account with
    nothing | ⟨manager, clientId, requestId, sent⟩
  · rw [nothing]
    rfl
  · rw [sent]
    simp [InputRecord.after, noInput]

theorem nextRequestId_le_send
    (function : TdFunction)
    (account : TdAccount) :
    account.nextRequestId ≤ (account.send function).1.nextRequestId := by
  rw [fst_send]
  simp only
  split <;> omega

/-- Sending something else than an input. -/
theorem inputStep_send
    {sender : TdAccount}
    {function : TdFunction}
    (noInput : function.isInput = false)
    (input :
      after.authorizationInputRequestId =
        before.authorizationInputRequestId)
    (manager : after.manager = before.manager)
    (status :
      after.authorizationStatus = before.authorizationStatus ∨
        after.AsksNothing)
    (first : sender.nextRequestId = before.nextRequestId)
    (next :
      after.nextRequestId = (sender.send function).1.nextRequestId) :
    InputStep before after (sender.send function).2 := by
  refine .stays input manager status ?_ (after_send noInput)
  rw [← first, next]
  exact nextRequestId_le_send function sender

/-- A step that touches none of the fields. -/
theorem inputStep_of_same
    {event : TdEvent}
    (input :
      after.authorizationInputRequestId =
        before.authorizationInputRequestId)
    (manager : after.manager = before.manager)
    (status : after.authorizationStatus = before.authorizationStatus)
    (next : after.nextRequestId = before.nextRequestId)
    (silent : ∀ record : InputRecord, record.after event = record) :
    InputStep before after event :=
  .stays input manager (.inl status) next.ge silent

theorem inputStep_refuse
    (error : Bytes) :
    InputStep account (account.refuse error).1
      (account.refuse error).2 :=
  inputStep_of_same rfl rfl rfl rfl fun _ => rfl

theorem inputStep_submit :
    InputStep account (account.submit kind input).1
      (account.submit kind input).2 := by
  unfold submit
  split
  · exact inputStep_refuse _
  · split
    · exact inputStep_refuse _
    · split
      · exact inputStep_refuse _
      · next asked =>
          rw [not_or, Bool.not_eq_true, Option.isNone_eq_false_iff,
            Option.isSome_iff_exists] at asked
          obtain ⟨⟨manager, isManager⟩, -⟩ := asked
          simp only [send, isManager]
          exact .submits rfl rfl (Nat.lt_succ_self _)

theorem inputStep_requestRead
    (request : TdReadFunction) :
    InputStep account (account.requestRead request).1
      (account.requestRead request).2 := by
  unfold requestRead
  split
  · exact inputStep_of_same rfl rfl rfl rfl fun _ => rfl
  · split
    · exact .stays rfl rfl (.inl rfl) (Nat.le_succ _) fun _ => rfl
    · exact inputStep_send rfl (by simp) (by simp) (.inl (by simp))
        rfl rfl

theorem inputStep_beginAuthorization
    (options : TdAccountOptions) :
    InputStep account (account.beginAuthorization options).1
      (account.beginAuthorization options).2 := by
  unfold beginAuthorization
  split
  · exact inputStep_of_same rfl rfl rfl rfl fun _ => rfl
  · exact inputStep_refuse _

theorem inputStep_advanceStop
    (supply : TdSupply)
    (next? : Option TdAccountOptions)
    (phase : StopPhase) :
    InputStep account (account.advanceStop supply next? phase).1
      (account.advanceStop supply next? phase).2 := by
  cases phase with
  | closing =>
      simp only [advanceStop, requestClose]
      split
      · refine inputStep_send rfl (by simp [operatorAt])
          (by simp [operatorAt]) (.inr ?_) rfl rfl
        intro kind
        cases kind <;> simp [operatorAt, InputKind.status]
      · exact inputStep_of_same rfl rfl rfl rfl fun _ => rfl
  | failingReads =>
      simp only [advanceStop]
      split
      · exact inputStep_of_same rfl rfl rfl rfl fun _ => rfl
      · next failed isFailed =>
          rw [eq_of_failReadRequests? isFailed]
          exact inputStep_of_same rfl rfl rfl rfl fun _ => rfl
  | joining =>
      simp only [advanceStop]
      split <;> exact inputStep_of_same rfl rfl rfl rfl fun _ => rfl
  | resetting =>
      refine .resets rfl rfl ?_ le_rfl
      intro kind
      cases kind <;>
        simp [advanceStop, operatorAt, reset, InputKind.status]
  | clearing | emptying =>
      exact inputStep_of_same rfl rfl rfl rfl fun _ => rfl

theorem inputStep_advanceOperator
    (supply : TdSupply)
    (phase : OperatorPhase) :
    InputStep account (account.advanceOperator supply phase).1
      (account.advanceOperator supply phase).2 := by
  cases phase with
  | idle =>
      exact inputStep_of_same rfl rfl rfl rfl fun _ => rfl
  | stopping phase next? =>
      exact inputStep_advanceStop supply next? phase
  | installing options =>
      refine .installs rfl ?_ rfl
      intro kind
      cases kind <;>
        simp [advanceOperator, install, operatorAt, InputKind.status]
  | startingThread =>
      simp only [advanceOperator]
      split <;> exact inputStep_of_same rfl rfl rfl rfl fun _ => rfl
  | activating =>
      exact inputStep_send rfl (by simp [advanceOperator, operatorAt])
        (by simp [advanceOperator, operatorAt])
        (.inl (by simp [advanceOperator, operatorAt])) rfl rfl

theorem inputStep_advanceReceive
    (supply : TdSupply)
    (phase : ReceivePhase) :
    InputStep account (account.advanceReceive supply phase).1
      (account.advanceReceive supply phase).2 := by
  cases phase with
  | clearingInput requestId code message =>
      exact .answers rfl rfl rfl le_rfl
  | settingStatus state =>
      exact .processes rfl rfl le_rfl
  | sendingParameters | sendingPhoneNumber =>
      exact inputStep_send rfl (by simp [advanceReceive, receiveAt])
        (by simp [advanceReceive, receiveAt])
        (.inl (by simp [advanceReceive, receiveAt])) rfl rfl
  | failingReads =>
      simp only [advanceReceive]
      split
      · exact inputStep_of_same rfl rfl rfl rfl fun _ => rfl
      · next failed isFailed =>
          rw [eq_of_failReadRequests? isFailed]
          exact inputStep_of_same rfl rfl rfl rfl fun _ => rfl
  | checking | receiving | routing | fulfilling | discarding
  | reporting | clearingOptions | finishing | finished =>
      exact inputStep_of_same rfl rfl rfl rfl fun _ => rfl

theorem inputStep_whenIdle
    {function : TdAccount → TdAccount × TdEvent}
    (called :
      InputStep account (function account).1 (function account).2) :
    InputStep account (account.whenIdle function).1
      (account.whenIdle function).2 := by
  unfold whenIdle
  split
  · exact called
  · exact inputStep_of_same rfl rfl rfl rfl fun _ => rfl

/-- What any step does to the fields that guard a submission. -/
theorem inputStep_step (call : TdAccountCall) :
    InputStep account (account.step call).1 (account.step call).2 := by
  cases call with
  | beginAuthorization options =>
      exact inputStep_whenIdle (inputStep_beginAuthorization options)
  | stop =>
      apply inputStep_whenIdle
      exact inputStep_of_same rfl rfl rfl rfl fun _ => rfl
  | submitCode code =>
      exact inputStep_whenIdle inputStep_submit
  | submitPassword password =>
      exact inputStep_whenIdle inputStep_submit
  | operator supply =>
      exact inputStep_advanceOperator supply account.operator
  | receive supply =>
      simp only [step]
      split
      · exact inputStep_of_same rfl rfl rfl rfl fun _ => rfl
      · exact inputStep_advanceReceive supply _
  | requestRead request =>
      exact inputStep_requestRead request
  | timeOutRead requestId ticket =>
      exact inputStep_of_same rfl rfl rfl rfl fun _ => rfl

end Steps

/-- How the guards of a submission relate to the history. -/
structure FollowsRecord
    (account : TdAccount)
    (record : InputRecord) : Prop where
  positive : 0 < account.nextRequestId
  asked :
    ∀ kind : InputKind,
      account.authorizationStatus = kind.status →
      record.state = some kind.awaited
  sentLast :
    account.authorizationInputRequestId ≠ 0 →
    record.lastInput = some account.authorizationInputRequestId
  inFlight :
    ∀ requestId,
      record.inFlight = some requestId →
      0 < requestId ∧
        (account.manager.isSome = true →
          account.authorizationInputRequestId = requestId)

section Records

variable {before after account : TdAccount}
variable {event : TdEvent}
variable {record : InputRecord}
variable {kind : InputKind}
variable {input : SecretBuffer}

theorem followsRecord_inputStep
    (step : InputStep before after event)
    (follows : before.FollowsRecord record) :
    after.FollowsRecord (record.after event) := by
  cases step with
  | stays input manager status later silent =>
      rw [silent]
      refine ⟨follows.positive.trans_le later, ?_, ?_, ?_⟩
      · intro kind asks
        rcases status with same | asksNothing
        · exact follows.asked kind (same ▸ asks)
        · exact absurd asks (asksNothing kind)
      · rw [input]
        exact follows.sentLast
      · rw [input, manager]
        exact follows.inFlight
  | resets input manager status later =>
      refine ⟨follows.positive.trans_le later, ?_, ?_, ?_⟩
      · intro kind asks
        exact absurd asks (status kind)
      · intro sent
        exact absurd input sent
      · intro requestId isInFlight
        refine ⟨(follows.inFlight requestId isInFlight).1, ?_⟩
        rw [manager]
        intro impossible
        cases impossible
  | installs input status first =>
      refine ⟨first ▸ Nat.one_pos, ?_, ?_, ?_⟩
      · intro kind asks
        exact absurd asks (status kind)
      · rw [input]
        exact follows.sentLast
      · intro requestId impossible
        cases impossible
  | submits input status later =>
      simp only [InputRecord.after, isInput_check, ↓reduceIte]
      refine ⟨follows.positive.trans later, ?_, ?_, ?_⟩
      · rw [status]
        exact follows.asked
      · intro _
        rw [input]
      · rintro _ ⟨⟩
        exact ⟨follows.positive, fun _ => input⟩
  | answers input manager status later =>
      refine ⟨follows.positive.trans_le later, ?_, ?_, ?_⟩
      · rw [status]
        exact follows.asked
      · rw [input]
        split
        · exact absurd rfl
        · exact follows.sentLast
      · intro requestId isInFlight
        simp only [InputRecord.after] at isInFlight
        split at isInFlight
        · cases isInFlight
        · next other =>
            obtain ⟨positive, isInput⟩ :=
              follows.inFlight requestId isInFlight
            refine ⟨positive, ?_⟩
            rw [manager]
            intro owned
            rw [input, isInput owned, if_neg]
            rintro rfl
            exact other isInFlight
  | processes input status later =>
      refine ⟨follows.positive.trans_le later, ?_, ?_, ?_⟩
      · intro kind asks
        rw [status, stateName_eq_status_iff] at asks
        rw [← asks]
        rfl
      · intro sent
        exact absurd input sent
      · intro requestId impossible
        cases impossible

/-- What makes a refused input acceptable. -/
theorem accepts_inputStep
    (step : InputStep before after event)
    (follows : before.FollowsRecord record)
    (refused : ¬before.Accepts kind input)
    (accepts : after.Accepts kind input) :
    event = .stateProcessed kind.awaited ∨
      ∃ requestId,
        event = .inputErrorProcessed requestId ∧
          record.lastInput = some requestId := by
  rw [accepts_iff] at refused
  obtain ⟨present, free, owned, asks⟩ := accepts_iff.mp accepts
  cases step with
  | stays input manager status later silent =>
      rcases status with same | asksNothing
      · exact absurd
          ⟨present, input ▸ free, manager ▸ owned, same ▸ asks⟩ refused
      · exact absurd asks (asksNothing kind)
  | resets input manager status later =>
      exact absurd asks (status kind)
  | installs input status first =>
      exact absurd asks (status kind)
  | submits input status later =>
      rw [input] at free
      exact absurd free follows.positive.ne'
  | answers input manager status later =>
      right
      rw [input] at free
      split at free
      · next isInput =>
          refine ⟨_, rfl, ?_⟩
          rw [← isInput]
          apply follows.sentLast
          intro noInput
          exact refused
            ⟨present, noInput, manager ▸ owned, status ▸ asks⟩
      · exact absurd
          ⟨present, free, manager ▸ owned, status ▸ asks⟩ refused
  | processes input status later =>
      left
      rw [status, stateName_eq_status_iff] at asks
      rw [asks]

end Records

/-- In every run the guards of a submission follow the history. -/
theorem followsRecord_run (calls : List TdAccountCall) :
    (tdAccountMachine.state calls).FollowsRecord
      (inputRecord (tdAccountMachine.history calls)) := by
  induction calls using List.reverseRecOn with
  | nil =>
      refine ⟨Nat.one_pos, ?_, absurd rfl, ?_⟩
      · intro kind asks
        cases kind <;>
          simp [tdAccountMachine, InputKind.status] at asks
      · intro requestId impossible
        cases impossible
  | append_singleton calls call inductionHypothesis =>
      rw [Machine.state_snoc, Machine.history_snoc, inputRecord_snoc]
      exact followsRecord_inputStep (inputStep_step call)
        inductionHypothesis

end TdAccount

/-- After `earlier`, the error of what was then the last input is processed. -/
def InputAnswered
    (earlier between : List (Event TdAccountCall TdEvent)) : Prop :=
  ∃ before error after requestId,
    between = before ++ error :: after ∧
      error.output = .inputErrorProcessed requestId ∧
        (inputRecord (earlier ++ before)).lastInput = some requestId

/-- The last input of the record is still in flight. -/
def InputRecord.Unanswered (record : InputRecord) : Prop :=
  ∃ requestId,
    record.lastInput = some requestId ∧
      record.inFlight = some requestId

namespace InputRecord

variable {record : InputRecord} {event : TdEvent}

/-- Only a processed state ends the time in which a session has none. -/
theorem state_after_eq_none
    (noState : ∀ state, event ≠ .stateProcessed state)
    (none : record.state = none) :
    (record.after event).state = Option.none := by
  cases event with
  | stateProcessed state =>
      exact absurd rfl (noState state)
  | sent manager clientId requestId function =>
      unfold after
      simp only
      split <;> exact none
  | accepted manager clientId options =>
      rfl
  | nothing | refused | inputErrorProcessed | closedProcessed
  | stopped =>
      exact none

/-- What ends the time in which the last input is in flight. -/
theorem unanswered_after
    (noState : ∀ state, event ≠ .stateProcessed state)
    (unanswered : record.Unanswered) :
    (record.after event).state = none ∨
      (record.after event).Unanswered ∨
        ∃ requestId,
          event = .inputErrorProcessed requestId ∧
            record.lastInput = some requestId := by
  obtain ⟨lastId, isLast, inFlight⟩ := unanswered
  cases event with
  | stateProcessed state =>
      exact absurd rfl (noState state)
  | accepted manager clientId options =>
      exact .inl rfl
  | sent manager clientId requestId function =>
      right
      left
      unfold after
      simp only
      split
      · exact ⟨requestId, rfl, rfl⟩
      · exact ⟨lastId, isLast, inFlight⟩
  | inputErrorProcessed requestId =>
      right
      by_cases own : lastId = requestId
      · subst own
        exact .inr ⟨lastId, rfl, isLast⟩
      · left
        refine ⟨lastId, isLast, ?_⟩
        simp [after, inFlight, own]
  | nothing | refused | closedProcessed | stopped =>
      exact .inr (.inl ⟨lastId, isLast, inFlight⟩)

end InputRecord

section Between

variable {earlier between : List (Event TdAccountCall TdEvent)}
variable {event : Event TdAccountCall TdEvent}

theorem inputAnswered_snoc
    (answered : InputAnswered earlier between) :
    InputAnswered earlier (between ++ [event]) := by
  obtain ⟨before, error, after, requestId, rfl, isError, isLast⟩ :=
    answered
  exact ⟨before, error, after ++ [event], requestId, by simp,
    isError, isLast⟩

/-- Right after an input was sent it is in flight. -/
theorem unanswered_of_sendsInput
    (sends : event.output.sendsInput = true) :
    (inputRecord (earlier ++ [event])).Unanswered := by
  rw [inputRecord_snoc]
  cases sent : event.output with
  | sent manager clientId requestId function =>
      rw [sent] at sends
      have isInput : function.isInput = true := sends
      refine ⟨requestId, ?_, ?_⟩
      · simp [InputRecord.after, isInput]
      · simp [InputRecord.after, isInput]
  | nothing | accepted | refused | inputErrorProcessed
  | stateProcessed | closedProcessed | stopped =>
      rw [sent] at sends
      cases sends

/--
As long as no state is processed an input stays in flight, unless its error is
processed or a new session begins.
-/
theorem unanswered_between
    (unanswered : (inputRecord earlier).Unanswered)
    (noState :
      ∀ event ∈ between,
        ∀ state, event.output ≠ .stateProcessed state) :
    (inputRecord (earlier ++ between)).state = none ∨
      (inputRecord (earlier ++ between)).Unanswered ∨
        InputAnswered earlier between := by
  induction between using List.reverseRecOn with
  | nil =>
      rw [List.append_nil]
      exact .inr (.inl unanswered)
  | append_singleton between event inductionHypothesis =>
      have silent := noState event (by simp)
      have before := inductionHypothesis fun other member =>
        noState other (by simp [member])
      rw [← List.append_assoc, inputRecord_snoc]
      rcases before with noSession | stillInFlight | answered
      · exact .inl (InputRecord.state_after_eq_none silent noSession)
      · rcases InputRecord.unanswered_after silent stillInFlight with
          noSession | stillInFlight | ⟨requestId, isError, isLast⟩
        · exact .inl noSession
        · exact .inr (.inl stillInFlight)
        · exact .inr (.inr
            ⟨between, event, [], requestId, rfl, isError, isLast⟩)
      · exact .inr (.inr (inputAnswered_snoc answered))

end Between

/-- An event that sends an input sends the check of some kind. -/
theorem exists_check_of_sendsInput
    {event : TdEvent}
    (sends : event.sendsInput = true) :
    ∃ manager clientId requestId kind text,
      event =
        .sent manager clientId requestId (InputKind.check kind text) := by
  cases event with
  | sent manager clientId requestId function =>
      cases function with
      | checkAuthenticationCode code =>
          exact ⟨manager, clientId, requestId, .code, code, rfl⟩
      | checkAuthenticationPassword password =>
          exact ⟨manager, clientId, requestId, .password, password, rfl⟩
      | getAuthorizationState | close | setTdlibParameters
      | setAuthenticationPhoneNumber | read =>
          cases sends
  | nothing | accepted | refused | inputErrorProcessed
  | stateProcessed | closedProcessed | stopped =>
      cases sends

/-- An input is sent when its state was processed last and none is in flight. -/
theorem asked_of_sent
    {calls : List TdAccountCall}
    {call : TdAccountCall}
    {manager requestId : Nat}
    {clientId : Int32}
    {kind : InputKind}
    {text : Bytes}
    (sent :
      ((tdAccountMachine.state calls).step call).2 =
        .sent manager clientId requestId (kind.check text)) :
    (inputRecord (tdAccountMachine.history calls)).state =
        some kind.awaited ∧
      (inputRecord (tdAccountMachine.history calls)).inFlight = none := by
  have follows := TdAccount.followsRecord_run calls
  obtain ⟨addresses, sends⟩ := TdAccount.sends_of_step sent
  obtain ⟨free, asks⟩ := TdAccount.asked_of_sends sends
  refine ⟨follows.asked kind asks, ?_⟩
  cases inFlight :
      (inputRecord (tdAccountMachine.history calls)).inFlight with
  | none =>
      rfl
  | some lastId =>
      obtain ⟨positive, isInput⟩ := follows.inFlight lastId inFlight
      have isFree := isInput (by rw [addresses.manager]; rfl)
      omega

/-- The counter of request ids never wraps within a session. -/
def IdsIncrease (calls : List TdAccountCall) : Prop :=
  ∀ first,
    first <+: calls →
    (tdAccountMachine.state first).nextRequestId ≤ 2 ^ 64

/-- Under such a counter the id of the last input has 64 bits. -/
theorem inputRequestId_lt_of_idsIncrease
    {calls : List TdAccountCall}
    (increase : IdsIncrease calls) :
    (tdAccountMachine.state calls).authorizationInputRequestId <
      2 ^ 64 := by
  induction calls using List.reverseRecOn with
  | nil =>
      exact Nat.two_pow_pos 64
  | append_singleton calls call inductionHypothesis =>
      have fits := increase _ (List.prefix_refl _)
      have known :=
        inductionHypothesis fun first isPrefix =>
          increase first (isPrefix.trans (List.prefix_append _ _))
      rw [Machine.state_snoc] at fits ⊢
      have step :
          (tdAccountMachine.state calls).InputStep
            (tdAccountMachine.step (tdAccountMachine.state calls) call).1
            (tdAccountMachine.step (tdAccountMachine.state calls)
              call).2 :=
        TdAccount.inputStep_step call
      generalize tdAccountMachine.step (tdAccountMachine.state calls) call =
        stepped at step fits ⊢
      obtain ⟨after, event⟩ := stepped
      cases step with
      | stays input | installs input =>
          exact input ▸ known
      | resets input | processes input =>
          exact input ▸ Nat.two_pow_pos 64
      | submits input status later =>
          rw [input]
          exact Nat.lt_of_lt_of_le later fits
      | answers input =>
          rw [input]
          split
          · exact Nat.two_pow_pos 64
          · exact known

/--
In every run an input is sent only if the last authorization state processed in
the session asks for it.  Between two inputs a state or the error of the last
input is processed.  An input that would be refused is accepted after a step
only if the step processes the state that asks for it or the error of the last
input.  While the counter does not wrap, ids of 64 bits compare as these do.
-/
theorem inputs_follow_requests (calls : List TdAccountCall) :
    (∀ earlier call manager clientId requestId kind text later,
        tdAccountMachine.history calls =
          earlier ++
            ⟨call,
              .sent manager clientId requestId
                (InputKind.check kind text)⟩ :: later →
        (inputRecord earlier).state = some kind.awaited) ∧
      (∀ earlier first between second later,
        tdAccountMachine.history calls =
          (earlier ++ [first]) ++ between ++ second :: later →
        first.output.sendsInput = true →
        second.output.sendsInput = true →
        (∀ event ∈ between,
          ∀ state, event.output ≠ .stateProcessed state) →
        InputAnswered (earlier ++ [first]) between) ∧
      (∀ call kind input,
        ¬(tdAccountMachine.state calls).Accepts kind input →
        ((tdAccountMachine.state calls).step call).1.Accepts kind input →
        ((tdAccountMachine.state calls).step call).2 =
            .stateProcessed kind.awaited ∨
          ∃ requestId,
            ((tdAccountMachine.state calls).step call).2 =
                .inputErrorProcessed requestId ∧
              (inputRecord
                (tdAccountMachine.history calls)).lastInput =
                  some requestId) ∧
      (IdsIncrease calls →
        ∀ requestId < 2 ^ 64,
          UInt64.ofNat
                (tdAccountMachine.state
                  calls).authorizationInputRequestId =
              UInt64.ofNat requestId ↔
            (tdAccountMachine.state calls).authorizationInputRequestId =
              requestId) := by
  refine ⟨?_, ?_, ?_, ?_⟩
  · intro earlier call manager clientId requestId kind text later split
    obtain ⟨first, label, rest, -, rfl, isEvent, -⟩ :=
      Machine.exists_run_of_history_split _ split
    obtain ⟨rfl, sent⟩ := Event.mk.inj isEvent
    exact (asked_of_sent sent.symm).1
  · intro earlier first between second later split sendsFirst
      sendsSecond noState
    obtain ⟨labels, label, rest, -, isHistory, rfl, -⟩ :=
      Machine.exists_run_of_history_split _ split
    obtain ⟨manager, clientId, requestId, kind, text, sent⟩ :=
      exists_check_of_sendsInput sendsSecond
    obtain ⟨asked, nothingInFlight⟩ := asked_of_sent sent
    rw [← isHistory] at asked nothingInFlight
    rcases unanswered_between (unanswered_of_sendsInput sendsFirst)
        noState with
      noSession | ⟨lastId, -, inFlight⟩ | answered
    · rw [noSession] at asked
      cases asked
    · rw [nothingInFlight] at inFlight
      cases inFlight
    · exact answered
  · intro call kind input refused accepts
    exact TdAccount.accepts_inputStep (TdAccount.inputStep_step call)
      (TdAccount.followsRecord_run calls) refused accepts
  · intro increase requestId small
    have fits := inputRequestId_lt_of_idsIncrease increase
    rw [← UInt64.toNat_inj, UInt64.toNat_ofNat', UInt64.toNat_ofNat',
      Nat.mod_eq_of_lt fits, Nat.mod_eq_of_lt small]

/-- The code that is sent in the example below. -/
def enteredCode : SecretBuffer :=
  { content := bytes "12345", bounded := by decide +kernel }

example :
    ((tdAccountMachine.history
        (startedSession ++ receivedState .waitCode ++
          [.submitCode enteredCode, .submitCode enteredCode])).map
        Event.output).drop 15 = [
      .sent 0 1 2 (.checkAuthenticationCode (bytes "12345")),
      .refused
        (bytes "An authorization input request is already in flight")
    ] := by
  decide +kernel

end TgGate
