import TgGate.TdAccount

namespace TgGate

open Library

/-!
# The secrets of a session

A session begins where an accepted `begin_authorization` installs its options
and creates its manager.  The secrets are cleared on two paths: by `stop`, which
first joins the receive thread, and by the receive thread itself, in the branch
of its loop after which it leaves the loop.  On both paths nothing can send the
options any more once they are cleared.
-/

/-- What an accepted `begin_authorization` installs. -/
structure TdSession where
  manager : Nat
  clientId : Int32
  options : TdAccountOptions

/-- The session after an event. -/
def TdEvent.sessionAfter
    (latest : Option TdSession) : TdEvent → Option TdSession
  | .accepted manager clientId options =>
      some { manager, clientId, options }
  | _ => latest

/-- Whether the secrets have to be gone after an event. -/
def TdEvent.expiredAfter (expired : Bool) : TdEvent → Bool
  | .accepted _ _ _ => false
  | .stopped => true
  | .closedProcessed => true
  | _ => expired

/-- The session of the most recent accepted `begin_authorization`. -/
def latestSession
    (history : List (Event TdAccountCall TdEvent)) : Option TdSession :=
  history.foldl
    (fun latest event => event.output.sessionAfter latest) none

/--
No session was accepted yet, or since the last one was accepted a `stop` has
returned or the closed state has been processed.
-/
def secretsExpired
    (history : List (Event TdAccountCall TdEvent)) : Bool :=
  history.foldl
    (fun expired event => event.output.expiredAfter expired) true

/-- The parameters carry the secrets of the options, and none is empty. -/
structure TdlibParameters.Carries
    (parameters : TdlibParameters)
    (options : TdAccountOptions) : Prop where
  apiHash : parameters.apiHash = options.apiHash.content
  apiHashPresent : parameters.apiHash ≠ []
  databaseEncryptionKey :
    parameters.databaseEncryptionKey =
      options.databaseEncryptionKey.content
  databaseEncryptionKeyPresent : parameters.databaseEncryptionKey ≠ []
  apiId : parameters.apiId = options.apiId
  databaseDirectory :
    parameters.databaseDirectory = options.databaseDirectory
  filesDirectory : parameters.filesDirectory = options.filesDirectory

/-- API hash, database key and phone number are empty. -/
structure TdAccountOptions.HoldsNoSecret
    (options : TdAccountOptions) : Prop where
  apiHash : options.apiHash.content = []
  databaseEncryptionKey : options.databaseEncryptionKey.content = []
  phoneNumber : options.phoneNumber = []

/-- Complete options are carried by the parameters made from them. -/
theorem carries_tdlibParameters
    {options : TdAccountOptions}
    (complete : options.isComplete = true) :
    options.tdlibParameters.Carries options := by
  simp only [TdAccountOptions.isComplete, SecretBuffer.isEmpty,
    Bool.and_eq_true, Bool.not_eq_true', List.isEmpty_eq_false_iff]
    at complete
  obtain ⟨⟨⟨-, apiHashPresent⟩, keyPresent⟩, -⟩ := complete
  exact {
    apiHash := rfl
    apiHashPresent := apiHashPresent
    databaseEncryptionKey := rfl
    databaseEncryptionKeyPresent := keyPresent
    apiId := rfl
    databaseDirectory := rfl
    filesDirectory := rfl
  }

/-- A stop in progress knows that the receive thread has ended. -/
def StopPhase.afterJoin : StopPhase → Bool
  | .closing | .failingReads | .joining => false
  | .resetting | .clearing | .emptying => true

namespace OperatorPhase

/-- No receive thread exists while the operator's thread is here. -/
def afterJoin : OperatorPhase → Bool
  | .stopping phase _ => phase.afterJoin
  | .installing _ | .startingThread => true
  | .idle | .activating => false

/-- The options that wait to be installed. -/
def waiting? : OperatorPhase → Option TdAccountOptions
  | .stopping _ next? => next?
  | .installing options => some options
  | .idle | .startingThread | .activating => none

/-- The secrets have just been cleared. -/
def cleared : OperatorPhase → Bool
  | .stopping .emptying _ => true
  | _ => false

end OperatorPhase

namespace ReceivePhase

/-- The receive thread may still use the options. -/
def serves (running : Bool) : ReceivePhase → Bool
  | .checking => running
  | .failingReads | .finishing | .finished => false
  | _ => true

/-- The secrets have just been cleared. -/
def cleared : ReceivePhase → Bool
  | .failingReads | .finishing => true
  | _ => false

end ReceivePhase

namespace TdAccount

/-- The account serves a session. -/
def Installed (account : TdAccount) (latest : Option TdSession) : Prop :=
  ∃ session,
    latest = some session ∧
      account.manager = some session.manager ∧
        account.clientId = session.clientId ∧
          account.options = session.options ∧
            session.options.isComplete = true

/-- What keeps the secrets with their session. -/
structure GuardsSecrets
    (account : TdAccount)
    (latest : Option TdSession)
    (expired : Bool) : Prop where
  serving :
    ∀ phase,
      account.receiveThread = some phase →
      phase.serves account.running = true →
      account.Installed latest
  starting :
    account.operator = .startingThread → account.Installed latest
  joined :
    account.operator.afterJoin = true → account.receiveThread = none
  complete :
    account.operator.waiting?.all TdAccountOptions.isComplete = true
  operatorCleared :
    account.operator.cleared = true → account.options.HoldsNoSecret
  receiverCleared :
    ∀ phase,
      account.receiveThread = some phase →
      phase.cleared = true →
      account.options.HoldsNoSecret
  gone : expired = true → account.options.HoldsNoSecret

/-- The fields of the session are the same. -/
structure SameSession (before after : TdAccount) : Prop where
  running : after.running = before.running
  manager : after.manager = before.manager
  clientId : after.clientId = before.clientId
  options : after.options = before.options

section Guards

variable {before after account : TdAccount}
variable {latest : Option TdSession}
variable {expired : Bool}

theorem installed_of_same
    (same : SameSession before after)
    (installed : before.Installed latest) :
    after.Installed latest := by
  unfold Installed
  rw [same.manager, same.clientId, same.options]
  exact installed

theorem sessionAfter_send
    {function : TdFunction} :
    (account.send function).2.sessionAfter latest = latest := by
  rcases snd_send_cases function account with
    nothing | ⟨manager, clientId, requestId, sent⟩
  · rw [nothing]
    rfl
  · rw [sent]
    rfl

theorem expiredAfter_send
    {function : TdFunction} :
    (account.send function).2.expiredAfter expired = expired := by
  rcases snd_send_cases function account with
    nothing | ⟨manager, clientId, requestId, sent⟩
  · rw [nothing]
    rfl
  · rw [sent]
    rfl

theorem holdsNoSecret_clearSensitiveOptions :
    account.clearSensitiveOptions.options.HoldsNoSecret :=
  ⟨rfl, rfl, rfl⟩

/-- Neither thread moves and the session stays. -/
theorem guardsSecrets_of_same
    (guards : before.GuardsSecrets latest expired)
    (sameThread : after.receiveThread = before.receiveThread)
    (sameOperator : after.operator = before.operator)
    (same : SameSession before after) :
    after.GuardsSecrets latest expired where
  serving phase := by
    rw [sameThread, same.running]
    intro here serves
    exact installed_of_same same (guards.serving phase here serves)
  starting := by
    rw [sameOperator]
    intro starting
    exact installed_of_same same (guards.starting starting)
  joined := by
    rw [sameOperator, sameThread]
    exact guards.joined
  complete := by
    rw [sameOperator]
    exact guards.complete
  operatorCleared := by
    rw [sameOperator, same.options]
    exact guards.operatorCleared
  receiverCleared phase := by
    rw [sameThread, same.options]
    exact guards.receiverCleared phase
  gone := by
    rw [same.options]
    exact guards.gone

/-- The receive thread moves and the session stays. -/
theorem guardsSecrets_receiveAt
    {old phase : ReceivePhase}
    (guards : before.GuardsSecrets latest expired)
    (here : before.receiveThread = some old)
    (there : after.receiveThread = some phase)
    (sameOperator : after.operator = before.operator)
    (same : SameSession before after)
    (serves :
      phase.serves before.running = true →
      old.serves before.running = true)
    (uncleared : phase.cleared = false) :
    after.GuardsSecrets latest expired where
  serving other isThread := by
    rw [there, Option.some.injEq] at isThread
    subst other
    rw [same.running]
    intro servesNow
    exact installed_of_same same
      (guards.serving old here (serves servesNow))
  starting := by
    rw [sameOperator]
    intro starting
    exact installed_of_same same (guards.starting starting)
  joined := by
    rw [sameOperator]
    intro afterJoin
    have alone := guards.joined afterJoin
    rw [here] at alone
    cases alone
  complete := by
    rw [sameOperator]
    exact guards.complete
  operatorCleared := by
    rw [sameOperator, same.options]
    exact guards.operatorCleared
  receiverCleared other isThread cleared := by
    rw [there, Option.some.injEq] at isThread
    subst other
    rw [uncleared] at cleared
    cases cleared
  gone := by
    rw [same.options]
    exact guards.gone

/-- The operator's thread moves and the session stays. -/
theorem guardsSecrets_operatorAt
    {phase : OperatorPhase}
    (guards : before.GuardsSecrets latest expired)
    (there : after.operator = phase)
    (sameThread : after.receiveThread = before.receiveThread)
    (same : SameSession before after)
    (unjoined : phase.afterJoin = false)
    (complete :
      phase.waiting?.all TdAccountOptions.isComplete = true) :
    after.GuardsSecrets latest expired where
  serving other := by
    rw [sameThread, same.running]
    intro here serves
    exact installed_of_same same (guards.serving other here serves)
  starting starting := by
    rw [there] at starting
    rw [starting] at unjoined
    cases unjoined
  joined afterJoin := by
    rw [there, unjoined] at afterJoin
    cases afterJoin
  complete := by
    rw [there]
    exact complete
  operatorCleared cleared := by
    rw [there] at cleared
    unfold OperatorPhase.cleared at cleared
    split at cleared
    · cases unjoined
    · cases cleared
  receiverCleared other := by
    rw [sameThread, same.options]
    exact guards.receiverCleared other
  gone := by
    rw [same.options]
    exact guards.gone

/-- Without a receive thread only the operator's position matters. -/
theorem guardsSecrets_of_alone
    (alone : after.receiveThread = none)
    (starting :
      after.operator = .startingThread → after.Installed latest)
    (complete :
      after.operator.waiting?.all TdAccountOptions.isComplete = true)
    (cleared :
      after.operator.cleared = true → after.options.HoldsNoSecret)
    (gone : expired = true → after.options.HoldsNoSecret) :
    after.GuardsSecrets latest expired where
  serving phase here := by
    rw [alone] at here
    cases here
  starting := starting
  joined _ := alone
  complete := complete
  operatorCleared := cleared
  receiverCleared phase here := by
    rw [alone] at here
    cases here
  gone := gone

/-- Without a receive thread, away from the ends of both clearings. -/
theorem guardsSecrets_of_joined
    {phase : OperatorPhase}
    (alone : after.receiveThread = none)
    (there : after.operator = phase)
    (notStarting : phase ≠ .startingThread)
    (uncleared : phase.cleared = false)
    (complete :
      phase.waiting?.all TdAccountOptions.isComplete = true)
    (gone : expired = true → after.options.HoldsNoSecret) :
    after.GuardsSecrets latest expired := by
  subst there
  refine guardsSecrets_of_alone alone ?_ complete ?_ gone
  · intro starting
    exact absurd starting notStarting
  · intro cleared
    rw [uncleared] at cleared
    cases cleared

/-- The receive thread has cleared the secrets and is about to end. -/
theorem guardsSecrets_of_cleared
    {phase : ReceivePhase}
    {expiredNow : Bool}
    (guards : before.GuardsSecrets latest expired)
    (unjoined : before.operator.afterJoin = false)
    (there : after.receiveThread = some phase)
    (sameOperator : after.operator = before.operator)
    (ending : phase.serves after.running = false)
    (cleared : after.options.HoldsNoSecret) :
    after.GuardsSecrets latest expiredNow where
  serving other isThread := by
    rw [there, Option.some.injEq] at isThread
    subst other
    rw [ending]
    intro impossible
    cases impossible
  starting starting := by
    rw [sameOperator] at starting
    rw [starting] at unjoined
    cases unjoined
  joined := by
    rw [sameOperator, unjoined]
    intro impossible
    cases impossible
  complete := by
    rw [sameOperator]
    exact guards.complete
  operatorCleared _ := cleared
  receiverCleared _ _ _ := cleared
  gone _ := cleared

theorem guardsSecrets_refuse
    (error : Bytes)
    (guards : account.GuardsSecrets latest expired) :
    (account.refuse error).1.GuardsSecrets latest expired :=
  guardsSecrets_of_same guards rfl rfl ⟨rfl, rfl, rfl, rfl⟩

theorem guardsSecrets_submit
    (kind : InputKind)
    (input : SecretBuffer)
    (guards : account.GuardsSecrets latest expired) :
    (account.submit kind input).1.GuardsSecrets
      ((account.submit kind input).2.sessionAfter latest)
      ((account.submit kind input).2.expiredAfter expired) := by
  unfold submit
  split
  · exact guardsSecrets_refuse _ guards
  · split
    · exact guardsSecrets_refuse _ guards
    · split
      · exact guardsSecrets_refuse _ guards
      · simp only [sessionAfter_send, expiredAfter_send, fst_send]
        exact guardsSecrets_of_same guards rfl rfl ⟨rfl, rfl, rfl, rfl⟩

theorem guardsSecrets_requestRead
    (request : TdReadFunction)
    (guards : account.GuardsSecrets latest expired) :
    (account.requestRead request).1.GuardsSecrets
      ((account.requestRead request).2.sessionAfter latest)
      ((account.requestRead request).2.expiredAfter expired) := by
  unfold requestRead
  split
  · exact guards
  · split
    · exact guardsSecrets_of_same guards rfl rfl ⟨rfl, rfl, rfl, rfl⟩
    · rw [sessionAfter_send, expiredAfter_send, fst_send]
      exact guardsSecrets_of_same guards rfl rfl ⟨rfl, rfl, rfl, rfl⟩

theorem guardsSecrets_beginAuthorization
    (options : TdAccountOptions)
    (guards : account.GuardsSecrets latest expired) :
    (account.beginAuthorization options).1.GuardsSecrets
      ((account.beginAuthorization options).2.sessionAfter latest)
      ((account.beginAuthorization options).2.expiredAfter expired) := by
  unfold beginAuthorization
  split
  · next complete =>
      exact guardsSecrets_operatorAt guards rfl rfl
        ⟨rfl, rfl, rfl, rfl⟩ rfl complete
  · exact guardsSecrets_refuse _ guards

/-- One part of `stop`. -/
theorem guardsSecrets_advanceStop
    {phase : StopPhase}
    {next? : Option TdAccountOptions}
    (supply : TdSupply)
    (guards : account.GuardsSecrets latest expired)
    (here : account.operator = .stopping phase next?) :
    (account.advanceStop supply next? phase).1.GuardsSecrets
      ((account.advanceStop supply next? phase).2.sessionAfter latest)
      ((account.advanceStop supply next? phase).2.expiredAfter
        expired) := by
  have complete : next?.all TdAccountOptions.isComplete = true := by
    have waiting := guards.complete
    rw [here] at waiting
    exact waiting
  have alone
      (afterJoin : phase.afterJoin = true) :
      account.receiveThread = none := by
    apply guards.joined
    rw [here]
    exact afterJoin
  cases phase with
  | closing =>
      simp only [advanceStop, requestClose]
      split
      · rw [sessionAfter_send, expiredAfter_send, fst_send]
        exact guardsSecrets_operatorAt guards rfl rfl
          ⟨rfl, rfl, rfl, rfl⟩ rfl complete
      · exact guardsSecrets_operatorAt guards rfl rfl
          ⟨rfl, rfl, rfl, rfl⟩ rfl complete
  | failingReads =>
      simp only [advanceStop]
      split
      · exact guards
      · next failed isFailed =>
          rw [eq_of_failReadRequests? isFailed]
          exact guardsSecrets_operatorAt guards rfl rfl
            ⟨rfl, rfl, rfl, rfl⟩ rfl complete
  | joining =>
      simp only [advanceStop]
      split
      · exact guardsSecrets_of_joined rfl rfl
          (fun impossible => by cases impossible) rfl complete
          guards.gone
      · exact guards
  | resetting =>
      exact guardsSecrets_of_joined (alone rfl) rfl
        (fun impossible => by cases impossible) rfl complete guards.gone
  | clearing =>
      exact guardsSecrets_of_alone (alone rfl)
        (fun impossible => by cases impossible) complete
        (fun _ => holdsNoSecret_clearSensitiveOptions)
        (fun _ => holdsNoSecret_clearSensitiveOptions)
  | emptying =>
      have noSecret :
          (account.advanceStop supply next?
            .emptying).1.options.HoldsNoSecret :=
        ⟨rfl, rfl, rfl⟩
      cases next? with
      | none =>
          exact guardsSecrets_of_joined (alone rfl) rfl
            (fun impossible => by cases impossible) rfl rfl
            (fun _ => noSecret)
      | some options =>
          exact guardsSecrets_of_joined (alone rfl) rfl
            (fun impossible => by cases impossible) rfl complete
            (fun _ => noSecret)

/-- One part of what the operator's thread does. -/
theorem guardsSecrets_advanceOperator
    {phase : OperatorPhase}
    (supply : TdSupply)
    (guards : account.GuardsSecrets latest expired)
    (here : account.operator = phase) :
    (account.advanceOperator supply phase).1.GuardsSecrets
      ((account.advanceOperator supply phase).2.sessionAfter latest)
      ((account.advanceOperator supply phase).2.expiredAfter
        expired) := by
  have alone
      (afterJoin : phase.afterJoin = true) :
      account.receiveThread = none := by
    apply guards.joined
    rw [here]
    exact afterJoin
  cases phase with
  | idle =>
      exact guards
  | stopping phase next? =>
      exact guardsSecrets_advanceStop supply guards here
  | installing options =>
      have complete : options.isComplete = true := by
        have waiting := guards.complete
        rw [here] at waiting
        exact waiting
      exact guardsSecrets_of_alone (alone rfl)
        (fun _ => ⟨_, rfl, rfl, rfl, rfl, complete⟩) rfl
        (fun impossible => by cases impossible)
        (fun impossible => by cases impossible)
  | startingThread =>
      simp only [advanceOperator]
      split
      · exact {
          serving := fun _ _ _ => guards.starting here
          starting := fun impossible => by cases impossible
          joined := fun impossible => by cases impossible
          complete := rfl
          operatorCleared := fun impossible => by cases impossible
          receiverCleared := by
            rintro _ ⟨⟩ ⟨⟩
          gone := guards.gone
        }
      · exact guardsSecrets_of_joined (alone rfl) rfl
            (fun impossible => by cases impossible) rfl rfl
          guards.gone
  | activating =>
      simp only [advanceOperator, sessionAfter_send, expiredAfter_send,
        fst_send]
      exact guardsSecrets_operatorAt guards rfl rfl
        ⟨rfl, rfl, rfl, rfl⟩ rfl rfl

/-- One part of the receive loop. -/
theorem guardsSecrets_advanceReceive
    {phase : ReceivePhase}
    (supply : TdSupply)
    (guards : account.GuardsSecrets latest expired)
    (here : account.receiveThread = some phase) :
    (account.advanceReceive supply phase).1.GuardsSecrets
      ((account.advanceReceive supply phase).2.sessionAfter latest)
      ((account.advanceReceive supply phase).2.expiredAfter
        expired) := by
  have working : account.operator.afterJoin = false := by
    cases afterJoin : account.operator.afterJoin with
    | false =>
        rfl
    | true =>
        have alone := guards.joined afterJoin
        rw [here] at alone
        cases alone
  cases phase with
  | checking =>
      refine guardsSecrets_receiveAt guards here rfl rfl
        ⟨rfl, rfl, rfl, rfl⟩ ?_ ?_
      · cases running : account.running <;>
          simp [ReceivePhase.serves]
      · cases running : account.running <;> rfl
  | receiving | routing =>
      refine guardsSecrets_receiveAt guards here rfl rfl
        ⟨rfl, rfl, rfl, rfl⟩ (fun _ => rfl) ?_
      split <;> rfl
  | fulfilling | clearingInput | reporting =>
      exact guardsSecrets_receiveAt guards here rfl rfl
        ⟨rfl, rfl, rfl, rfl⟩ (fun _ => rfl) rfl
  | discarding response =>
      refine guardsSecrets_receiveAt guards here rfl rfl
        ⟨rfl, rfl, rfl, rfl⟩ (fun _ => rfl) ?_
      split
      · rfl
      · unfold TdResponse.branch
        split <;> rfl
  | settingStatus state =>
      refine guardsSecrets_receiveAt guards here rfl rfl
        ⟨rfl, rfl, rfl, rfl⟩ (fun _ => rfl) ?_
      cases state <;> rfl
  | sendingParameters | sendingPhoneNumber =>
      simp only [advanceReceive, sessionAfter_send, expiredAfter_send,
        fst_send]
      exact guardsSecrets_receiveAt guards here rfl rfl
        ⟨rfl, rfl, rfl, rfl⟩ (fun _ => rfl) rfl
  | clearingOptions =>
      exact guardsSecrets_of_cleared guards working rfl rfl rfl
        holdsNoSecret_clearSensitiveOptions
  | failingReads =>
      have cleared : account.options.HoldsNoSecret :=
        guards.receiverCleared _ here rfl
      simp only [advanceReceive]
      split
      · exact guards
      · next failed isFailed =>
          rw [eq_of_failReadRequests? isFailed]
          exact guardsSecrets_of_cleared guards working rfl rfl rfl
            cleared
  | finishing =>
      have cleared : account.options.HoldsNoSecret :=
        guards.receiverCleared _ here rfl
      exact guardsSecrets_of_cleared guards working rfl rfl rfl cleared
  | finished =>
      exact guards

/-- A call of the operator keeps the guards if its function does. -/
theorem guardsSecrets_whenIdle
    {function : TdAccount → TdAccount × TdEvent}
    (guards : account.GuardsSecrets latest expired)
    (called :
      (function account).1.GuardsSecrets
        ((function account).2.sessionAfter latest)
        ((function account).2.expiredAfter expired)) :
    (account.whenIdle function).1.GuardsSecrets
      ((account.whenIdle function).2.sessionAfter latest)
      ((account.whenIdle function).2.expiredAfter expired) := by
  unfold whenIdle
  split
  · exact called
  · exact guards

/-- One step of any thread. -/
theorem guardsSecrets_step
    (call : TdAccountCall)
    (guards : account.GuardsSecrets latest expired) :
    (account.step call).1.GuardsSecrets
      ((account.step call).2.sessionAfter latest)
      ((account.step call).2.expiredAfter expired) := by
  cases call with
  | beginAuthorization options =>
      exact guardsSecrets_whenIdle guards
        (guardsSecrets_beginAuthorization options guards)
  | stop =>
      apply guardsSecrets_whenIdle guards
      exact guardsSecrets_operatorAt guards rfl rfl
        ⟨rfl, rfl, rfl, rfl⟩ rfl rfl
  | submitCode code =>
      exact guardsSecrets_whenIdle guards
        (guardsSecrets_submit .code code guards)
  | submitPassword password =>
      exact guardsSecrets_whenIdle guards
        (guardsSecrets_submit .password password guards)
  | operator supply =>
      exact guardsSecrets_advanceOperator supply guards rfl
  | receive supply =>
      simp only [step]
      split
      · exact guards
      · next phase here =>
          exact guardsSecrets_advanceReceive supply guards here
  | requestRead request =>
      exact guardsSecrets_requestRead request guards
  | timeOutRead requestId ticket =>
      exact guardsSecrets_of_same guards rfl rfl ⟨rfl, rfl, rfl, rfl⟩

end Guards

/-- In every run the secrets stay with their session. -/
theorem guardsSecrets_run (calls : List TdAccountCall) :
    (tdAccountMachine.state calls).GuardsSecrets
      (latestSession (tdAccountMachine.history calls))
      (secretsExpired (tdAccountMachine.history calls)) := by
  induction calls using List.reverseRecOn with
  | nil =>
      exact guardsSecrets_of_joined rfl rfl
        (fun impossible => by cases impossible) rfl rfl
        (fun _ => ⟨rfl, rfl, rfl⟩)
  | append_singleton calls call inductionHypothesis =>
      rw [Machine.state_snoc, Machine.history_snoc]
      unfold latestSession secretsExpired
      rw [List.foldl_concat, List.foldl_concat]
      exact guardsSecrets_step call inductionHypothesis

end TdAccount

/--
In every run the parameters that are sent carry the options of the session that
was accepted last, to the client of that session.  From the return of a `stop`,
and from the end of the processing of a closed state, until the next session is
accepted the account holds no secret.
-/
theorem parameters_follow_session (calls : List TdAccountCall) :
    (∀ earlier call manager clientId requestId parameters later,
        tdAccountMachine.history calls =
          earlier ++
            ⟨call,
              .sent manager clientId requestId
                (.setTdlibParameters parameters)⟩ :: later →
        ∃ options,
          latestSession earlier =
              some { manager, clientId, options } ∧
            parameters.Carries options) ∧
      (secretsExpired (tdAccountMachine.history calls) = true →
        (tdAccountMachine.state calls).options.HoldsNoSecret) := by
  refine ⟨?_, (TdAccount.guardsSecrets_run calls).gone⟩
  intro earlier call manager clientId requestId parameters later split
  obtain ⟨first, label, rest, -, rfl, isEvent, -⟩ :=
    Machine.exists_run_of_history_split _ split
  obtain ⟨rfl, sent⟩ := Event.mk.inj isEvent
  obtain ⟨addresses, sends⟩ := TdAccount.sends_of_step sent.symm
  obtain ⟨here, rfl⟩ := TdAccount.parameterises_of_sends sends
  obtain ⟨session, latest, owner, ofClient, installed, complete⟩ :=
    (TdAccount.guardsSecrets_run first).serving _ here rfl
  rw [addresses.manager, Option.some.injEq] at owner
  rw [addresses.clientId] at ofClient
  subst owner ofClient
  refine ⟨session.options, latest, ?_⟩
  rw [installed]
  exact carries_tdlibParameters complete

example :
    ((tdAccountMachine.history
        (startedSession ++ receivedState .waitTdlibParameters ++
          [.receive {}])).map Event.output).getLast? =
      some (.sent 0 1 2
        (.setTdlibParameters workOptions.tdlibParameters)) := by
  decide +kernel

end TgGate
