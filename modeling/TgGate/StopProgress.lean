import TgGate.LateResponses

namespace TgGate

open Library

/-!
# `stop` can always finish

`stop` joins the receive thread, and the receive thread leaves its loop only
when TDLib has reported that the authorization is closed.  Whatever has happened
before, the two threads alone can bring a `stop` to its end as soon as TDLib
reports so: neither waits for the other, for a reader or for the operator.

`ThreadStep` lists once what a step does to the positions of the two threads and
to the manager.
-/

/-- The object reports that the authorization is closed. -/
def TdObjectReceived.reportsClosed : TdObjectReceived → Bool
  | .updateAuthorizationState (some .closed) => true
  | _ => false

/-- The receive thread has been told so and is about to leave its loop. -/
def ReceivePhase.reportsClosed : ReceivePhase → Bool
  | .routing response | .discarding response =>
      response.object.reportsClosed
  | .settingStatus state => state = .closed
  | .clearingOptions | .failingReads | .finishing => true
  | _ => false

/-- The manager has been destroyed and none has been created yet. -/
def OperatorPhase.afterReset : OperatorPhase → Bool
  | .stopping .clearing _ | .stopping .emptying _ | .installing _ => true
  | _ => false

namespace TdAccount

/-- The manager stays and the loop is neither begun nor ended. -/
structure KeepsRunning (before after : TdAccount) : Prop where
  running : after.running = before.running
  manager : after.manager = before.manager
  managers : after.managers = before.managers
  next : before.nextRequestId ≤ after.nextRequestId

/-- What a step does to the two threads and the manager, guards included. -/
inductive ThreadStep
    (before : TdAccount) : TdAccountCall → TdAccount → Prop where
  | stays
      {call : TdAccountCall}
      {after : TdAccount}
      (keeps : before.KeepsRunning after)
      (thread : after.receiveThread = before.receiveThread)
      (operator : after.operator = before.operator) :
      ThreadStep before call after
  | operates
      {call : TdAccountCall}
      {after : TdAccount}
      (keeps : before.KeepsRunning after)
      (thread : after.receiveThread = before.receiveThread)
      (leaves : before.operator ≠ .startingThread)
      (enters : after.operator ≠ .startingThread)
      (joined :
        after.operator.afterJoin = true →
        before.operator.afterJoin = true)
      (reset :
        after.operator.afterReset = true →
        before.operator.afterReset = true) :
      ThreadStep before call after
  | joins
      {call : TdAccountCall}
      {after : TdAccount}
      {next? : Option TdAccountOptions}
      (keeps : before.KeepsRunning after)
      (here : before.operator = .stopping .joining next?)
      (joinable : before.canJoin = true)
      (thread : after.receiveThread = none)
      (there : after.operator = .stopping .resetting next?) :
      ThreadStep before call after
  | resets
      {call : TdAccountCall}
      {after : TdAccount}
      {next? : Option TdAccountOptions}
      (here : before.operator = .stopping .resetting next?)
      (manager : after.manager = none)
      (managers : after.managers = before.managers)
      (next : after.nextRequestId = before.nextRequestId)
      (running : after.running = false)
      (thread : after.receiveThread = before.receiveThread)
      (there : after.operator = .stopping .clearing next?) :
      ThreadStep before call after
  | installs
      {call : TdAccountCall}
      {after : TdAccount}
      {options : TdAccountOptions}
      (here : before.operator = .installing options)
      (manager : after.manager = some before.managers)
      (managers : after.managers = before.managers + 1)
      (next : after.nextRequestId = 1)
      (running : after.running = true)
      (thread : after.receiveThread = before.receiveThread)
      (there : after.operator = .startingThread) :
      ThreadStep before call after
  | starts
      {supply : TdSupply}
      {after : TdAccount}
      (keeps : before.KeepsRunning after)
      (here : before.operator = .startingThread)
      (thread : after.receiveThread = some .checking)
      (there : after.operator = .activating) :
      ThreadStep before (.operator supply) after
  | failsToStart
      {supply : TdSupply}
      {after : TdAccount}
      (keeps : before.KeepsRunning after)
      (here : before.operator = .startingThread)
      (fails : supply.threadStarts = false)
      (thread : after.receiveThread = before.receiveThread)
      (there : after.operator = .idle) :
      ThreadStep before (.operator supply) after
  | loops
      {supply : TdSupply}
      {after : TdAccount}
      {old new : ReceivePhase}
      (keeps : before.KeepsRunning after)
      (here : before.receiveThread = some old)
      (there : after.receiveThread = some new)
      (operator : after.operator = before.operator)
      (ends :
        new = .finished →
        before.running = false ∨ before.manager = none ∨
          old = .finished)
      (reports :
        new.reportsClosed = true →
        old.reportsClosed = true ∨
          old = .receiving ∧
            ∃ manager response,
              before.manager = some manager ∧
                supply.response? = some response ∧
                  response.object.reportsClosed = true) :
      ThreadStep before (.receive supply) after
  | finishes
      {supply : TdSupply}
      {after : TdAccount}
      (here : before.receiveThread = some .finishing)
      (there : after.receiveThread = some .checking)
      (manager : after.manager = before.manager)
      (managers : after.managers = before.managers)
      (next : after.nextRequestId = before.nextRequestId)
      (running : after.running = false)
      (operator : after.operator = before.operator) :
      ThreadStep before (.receive supply) after

section Steps

variable {before after account : TdAccount}
variable {call : TdAccountCall}

theorem KeepsRunning.refl (account : TdAccount) :
    account.KeepsRunning account :=
  ⟨rfl, rfl, rfl, le_rfl⟩

/-- Sending uses up at most the next request id. -/
theorem KeepsRunning.of_sent
    {sends : Prop} [Decidable sends]
    (running : after.running = before.running)
    (manager : after.manager = before.manager)
    (managers : after.managers = before.managers)
    (next :
      after.nextRequestId =
        if sends then
          before.nextRequestId + 1
        else
          before.nextRequestId) :
    before.KeepsRunning after := by
  refine ⟨running, manager, managers, ?_⟩
  rw [next]
  split <;> omega

theorem threadStep_submit (kind : InputKind) (input : SecretBuffer) :
    ThreadStep account call (account.submit kind input).1 := by
  unfold submit
  split
  · exact .stays ⟨rfl, rfl, rfl, le_rfl⟩ rfl rfl
  · split
    · exact .stays ⟨rfl, rfl, rfl, le_rfl⟩ rfl rfl
    · split
      · exact .stays ⟨rfl, rfl, rfl, le_rfl⟩ rfl rfl
      · simp only [fst_send]
        exact .stays (.of_sent rfl rfl rfl rfl) rfl rfl

theorem threadStep_requestRead (request : TdReadFunction) :
    ThreadStep account call (account.requestRead request).1 := by
  unfold requestRead
  split
  · exact .stays (.refl account) rfl rfl
  · split
    · exact .stays ⟨rfl, rfl, rfl, Nat.le_succ _⟩ rfl rfl
    · simp only [fst_send]
      exact .stays (.of_sent rfl rfl rfl rfl) rfl rfl

theorem threadStep_whenIdle
    {function : TdAccount → TdAccount × TdEvent}
    (called :
      account.operator = .idle →
      ThreadStep account call (function account).1) :
    ThreadStep account call (account.whenIdle function).1 := by
  unfold whenIdle
  split
  · next idle =>
      exact called idle
  · exact .stays (.refl account) rfl rfl

theorem threadStep_beginAuthorization
    (options : TdAccountOptions)
    (idle : account.operator = .idle) :
    ThreadStep account call (account.beginAuthorization options).1 := by
  unfold beginAuthorization
  split
  · refine .operates ⟨rfl, rfl, rfl, le_rfl⟩ rfl ?_ ?_ ?_ ?_
    · rw [idle]
      exact fun impossible => by cases impossible
    all_goals exact fun impossible => by cases impossible
  · exact .stays ⟨rfl, rfl, rfl, le_rfl⟩ rfl rfl

theorem threadStep_advanceStop
    (supply : TdSupply)
    {phase : StopPhase}
    {next? : Option TdAccountOptions}
    (here : account.operator = .stopping phase next?) :
    ThreadStep account call (account.advanceStop supply next? phase).1 := by
  -- Most parts move on to the next one and touch nothing else.
  have moves
      {after : TdAccount}
      (keeps : account.KeepsRunning after)
      (thread : after.receiveThread = account.receiveThread)
      (enters : after.operator ≠ .startingThread)
      (joined :
        after.operator.afterJoin = true → phase.afterJoin = true)
      (reset :
        after.operator.afterReset = true →
        account.operator.afterReset = true) :
      ThreadStep account call after := by
    refine .operates keeps thread ?_ enters ?_ reset
    · rw [here]
      exact fun impossible => by cases impossible
    · rw [here]
      exact joined
  cases phase with
  | closing =>
      simp only [advanceStop, requestClose]
      split
      · simp only [fst_send]
        exact moves (.of_sent rfl rfl rfl rfl) rfl
          (fun impossible => by cases impossible) id
          (fun impossible => by cases impossible)
      · exact moves ⟨rfl, rfl, rfl, le_rfl⟩ rfl
          (fun impossible => by cases impossible) id
          (fun impossible => by cases impossible)
  | failingReads =>
      simp only [advanceStop]
      cases isFailed : account.failReadRequests? supply with
      | none =>
          exact .stays (.refl account) rfl rfl
      | some failed =>
          rw [eq_of_failReadRequests? isFailed]
          exact moves ⟨rfl, rfl, rfl, le_rfl⟩ rfl
            (fun impossible => by cases impossible) id
            (fun impossible => by cases impossible)
  | joining =>
      simp only [advanceStop]
      split
      · next joinable =>
          exact .joins ⟨rfl, rfl, rfl, le_rfl⟩ here joinable rfl rfl
      · exact .stays (.refl account) rfl rfl
  | resetting =>
      exact .resets here rfl rfl rfl rfl rfl rfl
  | clearing =>
      refine moves ⟨rfl, rfl, rfl, le_rfl⟩ rfl
        (fun impossible => by cases impossible) (fun _ => rfl) ?_
      rw [here]
      exact fun _ => rfl
  | emptying =>
      refine moves ⟨rfl, rfl, rfl, le_rfl⟩ rfl ?_ (fun _ => rfl) ?_
      · cases next? <;> exact fun impossible => by cases impossible
      · rw [here]
        exact fun _ => rfl

theorem threadStep_advanceOperator
    (supply : TdSupply)
    {phase : OperatorPhase}
    (here : account.operator = phase) :
    ThreadStep account (.operator supply)
      (account.advanceOperator supply phase).1 := by
  cases phase with
  | idle =>
      exact .stays (.refl account) rfl rfl
  | stopping phase next? =>
      exact threadStep_advanceStop supply here
  | installing options =>
      exact .installs here rfl rfl rfl rfl rfl rfl
  | startingThread =>
      simp only [advanceOperator]
      split
      · exact .starts ⟨rfl, rfl, rfl, le_rfl⟩ here rfl rfl
      · next fails =>
          exact .failsToStart ⟨rfl, rfl, rfl, le_rfl⟩ here
            (by simpa using fails) rfl rfl
  | activating =>
      simp only [advanceOperator, fst_send]
      refine .operates (.of_sent rfl rfl rfl rfl) rfl ?_ ?_ ?_ ?_
      · rw [here]
        exact fun impossible => by cases impossible
      all_goals exact fun impossible => by cases impossible

/-- The object decides what becomes of a response. -/
theorem reportsClosed_branch {response : TdResponse}
    (reports : response.branch.reportsClosed = true) :
    response.object.reportsClosed = true := by
  unfold TdResponse.branch at reports
  split at reports
  · cases reports
  · next state isUpdate =>
      obtain rfl := of_decide_eq_true reports
      rw [isUpdate]
      rfl
  all_goals cases reports

theorem threadStep_advanceReceive
    (supply : TdSupply)
    {phase : ReceivePhase}
    (here : account.receiveThread = some phase) :
    ThreadStep account (.receive supply)
      (account.advanceReceive supply phase).1 := by
  -- In most parts the loop only goes on.
  have goes
      {after : TdAccount}
      {new : ReceivePhase}
      (keeps : account.KeepsRunning after)
      (there : after.receiveThread = some new)
      (operator : after.operator = account.operator)
      (unfinished : new ≠ .finished)
      (reports :
        new.reportsClosed = true → phase.reportsClosed = true) :
      ThreadStep account (.receive supply) after :=
    .loops keeps here there operator
      (fun finished => absurd finished unfinished)
      (fun reported => .inl (reports reported))
  cases phase with
  | checking =>
      simp only [advanceReceive]
      split
      · exact goes ⟨rfl, rfl, rfl, le_rfl⟩ rfl rfl
          (fun impossible => by cases impossible)
          (fun impossible => by cases impossible)
      · next stopped =>
          exact .loops ⟨rfl, rfl, rfl, le_rfl⟩ here rfl rfl
            (fun _ => .inl (by simpa using stopped))
            (fun impossible => by cases impossible)
  | receiving =>
      refine .loops ⟨rfl, rfl, rfl, le_rfl⟩ here rfl rfl ?_ ?_
      · intro finished
        cases owned : account.manager with
        | none =>
            exact .inr (.inl rfl)
        | some manager =>
            rw [owned] at finished
            cases received : supply.response? with
            | none | some =>
                rw [received] at finished
                cases finished
      · intro reports
        cases owned : account.manager with
        | none =>
            rw [owned] at reports
            cases reports
        | some manager =>
            rw [owned] at reports
            cases received : supply.response? with
            | none =>
                rw [received] at reports
                cases reports
            | some response =>
                rw [received] at reports
                exact .inr ⟨rfl, manager, response, rfl, rfl, reports⟩
  | routing response =>
      refine goes ⟨rfl, rfl, rfl, le_rfl⟩ rfl rfl ?_ ?_
      · split <;> exact fun impossible => by cases impossible
      · split
        · exact fun impossible => by cases impossible
        · exact id
  | fulfilling requestId | clearingInput | reporting =>
      exact goes ⟨rfl, rfl, rfl, le_rfl⟩ rfl rfl
        (fun impossible => by cases impossible)
        (fun impossible => by cases impossible)
  | discarding response =>
      refine goes ⟨rfl, rfl, rfl, le_rfl⟩ rfl rfl ?_ ?_
      · split
        · exact fun impossible => by cases impossible
        · unfold TdResponse.branch
          split <;> exact fun impossible => by cases impossible
      · split
        · exact fun impossible => by cases impossible
        · exact reportsClosed_branch
  | settingStatus state =>
      refine goes ⟨rfl, rfl, rfl, le_rfl⟩ rfl rfl ?_ ?_
      · cases state <;> exact fun impossible => by cases impossible
      · cases state with
        | closed =>
            exact fun _ => by simp [ReceivePhase.reportsClosed]
        | _ =>
            exact fun impossible => by cases impossible
  | sendingParameters | sendingPhoneNumber =>
      simp only [advanceReceive, fst_send]
      exact goes (.of_sent rfl rfl rfl rfl) rfl rfl
        (fun impossible => by cases impossible)
        (fun impossible => by cases impossible)
  | clearingOptions =>
      exact goes ⟨rfl, rfl, rfl, le_rfl⟩ rfl rfl
        (fun impossible => by cases impossible) (fun _ => rfl)
  | failingReads =>
      simp only [advanceReceive]
      cases isFailed : account.failReadRequests? supply with
      | none =>
          exact .stays (.refl account) rfl rfl
      | some failed =>
          rw [eq_of_failReadRequests? isFailed]
          exact goes ⟨rfl, rfl, rfl, le_rfl⟩ rfl rfl
            (fun impossible => by cases impossible) (fun _ => rfl)
  | finishing =>
      exact .finishes here rfl rfl rfl rfl rfl rfl
  | finished =>
      exact .stays (.refl account) rfl rfl

/-- Every step of the account is one of these. -/
theorem threadStep_step (account : TdAccount) (call : TdAccountCall) :
    ThreadStep account call (account.step call).1 := by
  cases call with
  | beginAuthorization options =>
      exact threadStep_whenIdle (threadStep_beginAuthorization options)
  | stop =>
      refine threadStep_whenIdle fun idle => ?_
      refine .operates ⟨rfl, rfl, rfl, le_rfl⟩ rfl ?_ ?_ ?_ ?_
      · rw [idle]
        exact fun impossible => by cases impossible
      all_goals exact fun impossible => by cases impossible
  | submitCode code =>
      exact threadStep_whenIdle fun _ => threadStep_submit .code code
  | submitPassword password =>
      exact threadStep_whenIdle fun _ =>
        threadStep_submit .password password
  | operator supply =>
      exact threadStep_advanceOperator supply rfl
  | receive supply =>
      simp only [step]
      split
      · exact .stays (.refl account) rfl rfl
      · next phase here =>
          exact threadStep_advanceReceive supply here
  | requestRead request =>
      exact threadStep_requestRead request
  | timeOutRead requestId ticket =>
      exact .stays ⟨rfl, rfl, rfl, le_rfl⟩ rfl rfl

end Steps

/-- The receive thread has a manager to receive from. -/
structure OwnsManager (account : TdAccount) : Prop where
  thread :
    ∀ phase,
      account.receiveThread = some phase → account.manager.isSome = true
  starting :
    account.operator = .startingThread → account.manager.isSome = true
  reset :
    account.operator.afterReset = true →
    account.manager = none ∧ account.running = false
  positive : 0 < account.nextRequestId

section OwnsManager

variable {before after : TdAccount}
variable {call : TdAccountCall}

theorem ownsManager_threadStep
    (owns : before.OwnsManager)
    (alone :
      before.operator.afterJoin = true → before.receiveThread = none)
    (step : ThreadStep before call after) :
    after.OwnsManager := by
  cases step with
  | stays keeps thread operator =>
      exact {
        thread := by
          rw [thread, keeps.manager]
          exact owns.thread
        starting := by
          rw [operator, keeps.manager]
          exact owns.starting
        reset := by
          rw [operator, keeps.manager, keeps.running]
          exact owns.reset
        positive := owns.positive.trans_le keeps.next }
  | operates keeps thread leaves enters joined reset =>
      exact {
        thread := by
          rw [thread, keeps.manager]
          exact owns.thread
        starting := fun starting => absurd starting enters
        reset := by
          rw [keeps.manager, keeps.running]
          exact fun isReset => owns.reset (reset isReset)
        positive := owns.positive.trans_le keeps.next }
  | joins keeps here joinable thread there =>
      exact {
        thread := by
          rw [thread]
          exact fun _ impossible => by cases impossible
        starting := by
          rw [there]
          exact fun impossible => by cases impossible
        reset := by
          rw [there]
          exact fun impossible => by cases impossible
        positive := owns.positive.trans_le keeps.next }
  | resets here manager managers next running thread there =>
      have joined : before.operator.afterJoin = true := by
        rw [here]
        rfl
      exact {
        thread := by
          rw [thread, alone joined]
          exact fun _ impossible => by cases impossible
        starting := by
          rw [there]
          exact fun impossible => by cases impossible
        reset := fun _ => ⟨manager, running⟩
        positive := owns.positive.trans_eq next.symm }
  | installs here manager managers next running thread there =>
      have owned : after.manager.isSome = true := by
        rw [manager]
        rfl
      exact {
        thread := fun _ _ => owned
        starting := fun _ => owned
        reset := by
          rw [there]
          exact fun impossible => by cases impossible
        positive := next ▸ Nat.one_pos }
  | starts keeps here thread there =>
      exact {
        thread := by
          rw [keeps.manager]
          exact fun _ _ => owns.starting here
        starting := by
          rw [there]
          exact fun impossible => by cases impossible
        reset := by
          rw [there]
          exact fun impossible => by cases impossible
        positive := owns.positive.trans_le keeps.next }
  | failsToStart keeps here fails thread there =>
      exact {
        thread := by
          rw [thread, keeps.manager]
          exact owns.thread
        starting := by
          rw [there]
          exact fun impossible => by cases impossible
        reset := by
          rw [there]
          exact fun impossible => by cases impossible
        positive := owns.positive.trans_le keeps.next }
  | loops keeps here there operator =>
      exact {
        thread := by
          rw [keeps.manager]
          exact fun _ _ => owns.thread _ here
        starting := by
          rw [operator, keeps.manager]
          exact owns.starting
        reset := by
          rw [operator, keeps.manager, keeps.running]
          exact owns.reset
        positive := owns.positive.trans_le keeps.next }
  | finishes here there manager managers next running operator =>
      exact {
        thread := by
          rw [manager]
          exact fun _ _ => owns.thread _ here
        starting := by
          rw [operator, manager]
          exact owns.starting
        reset := by
          rw [operator, manager]
          exact fun isReset => ⟨(owns.reset isReset).1, running⟩
        positive := owns.positive.trans_eq next.symm }

/-- In every run the receive thread has a manager to receive from. -/
theorem ownsManager_run (calls : List TdAccountCall) :
    (tdAccountMachine.state calls).OwnsManager := by
  induction calls using List.reverseRecOn with
  | nil =>
      exact {
        thread := fun _ impossible => by cases impossible
        starting := fun impossible => by cases impossible
        reset := fun impossible => by cases impossible
        positive := Nat.one_pos }
  | append_singleton calls call inductionHypothesis =>
      rw [Machine.state_snoc]
      exact ownsManager_threadStep inductionHypothesis
        (guardsSecrets_run calls).joined (threadStep_step _ call)

end OwnsManager

end TdAccount

/-- No read has the request id 0, under which TDLib reports its updates. -/
structure RequestRouter.SparesUpdates (router : RequestRouter) : Prop where
  pending : 0 ∉ router.requests
  retired : 0 ∉ router.retired

section SparesUpdates

variable {router : RequestRouter}
variable {requestId other : UInt64}

/-- Trimming remembers nothing new. -/
theorem RequestRouter.mem_of_mem_trimRetired
    {retired : Finset UInt64}
    {order : List UInt64}
    (member : other ∈ (trimRetired retired order).1) :
    other ∈ retired := by
  induction order generalizing retired with
  | nil =>
      exact member
  | cons oldest order inductionHypothesis =>
      unfold trimRetired at member
      split at member
      · exact Finset.mem_of_mem_erase (inductionHypothesis member)
      · exact member

theorem RequestRouter.SparesUpdates.retire
    (spares : router.SparesUpdates)
    (differs : 0 ≠ requestId) :
    (router.retire requestId).SparesUpdates where
  pending := spares.pending
  retired retired := by
    rcases Finset.mem_insert.mp (mem_of_mem_trimRetired retired) with
      same | wasRetired
    · exact differs same
    · exact spares.retired wasRetired

/-- Taking out a request registers nothing. -/
theorem RequestRouter.SparesUpdates.erase
    (spares : router.SparesUpdates)
    (requestId : UInt64) :
    { router with
      requests := router.requests.erase requestId }.SparesUpdates where
  pending pending := spares.pending (AList.mem_erase.mp pending).2
  retired := spares.retired

theorem RequestRouter.SparesUpdates.takeRegistered
    (spares : router.SparesUpdates)
    (requestId : UInt64) :
    (router.takeRegistered requestId).2.SparesUpdates := by
  unfold RequestRouter.takeRegistered
  split
  · exact spares
  · exact spares.erase requestId

theorem RequestRouter.SparesUpdates.discardLate
    (spares : router.SparesUpdates)
    (requestId : UInt64) :
    (router.discardLate requestId).2.SparesUpdates where
  pending := spares.pending
  retired retired := spares.retired (Finset.mem_of_mem_erase retired)

/-- Closing retires the pending ids, and 0 is none of them. -/
theorem RequestRouter.SparesUpdates.close
    {iteration : List UInt64}
    (spares : router.SparesUpdates)
    (complete : iteration.Perm router.requests.keys) :
    (router.close iteration).2.SparesUpdates := by
  have positive : ∀ requestId ∈ iteration, 0 ≠ requestId := by
    rintro _ member rfl
    exact spares.pending
      (AList.mem_keys.mpr ((complete.mem_iff).mp member))
  have retired :
      ∀ (rest : List UInt64) (router : RequestRouter),
        (∀ requestId ∈ rest, 0 ≠ requestId) →
        router.SparesUpdates →
        (router.retireEach rest).SparesUpdates := by
    intro rest
    induction rest with
    | nil =>
        exact fun _ _ spares => spares
    | cons requestId rest inductionHypothesis =>
        intro router positive spares
        rw [retireEach_cons]
        exact inductionHypothesis _
          (fun other member =>
            positive other (List.mem_cons_of_mem _ member))
          ((spares.erase requestId).retire
            (positive requestId List.mem_cons_self))
  rw [snd_close]
  exact {
    pending := AList.notMem_empty _
    retired := (retired iteration router positive spares).retired }

end SparesUpdates

namespace TdAccount

section Bounded

variable {before after : TdAccount}
variable {log later : ReadLog}

theorem sparesUpdates_readStep
    (spares : before.readRequests.SparesUpdates)
    (positive : 0 < before.nextRequestId)
    (bounded : after.nextRequestId ≤ 2 ^ 64)
    (step : ReadStep before log after later) :
    after.readRequests.SparesUpdates := by
  cases step with
  | stays router =>
      rw [router]
      exact spares
  | routes | receives =>
      exact spares
  | opens accepting router next =>
      rw [router]
      refine ⟨fun pending => ?_, spares.retired⟩
      rcases UnorderedMap.mem_emplace_iff.mp pending with
        isNext | wasPending
      · have small : before.nextRequestId < 2 ^ 64 := by
          omega
        have wraps := congrArg UInt64.toNat isNext
        rw [UInt64.toNat_ofNat_of_lt' small] at wraps
        exact positive.ne wraps
      · exact spares.pending wasPending
  | @expires requestId _ pending router =>
      rw [router]
      refine (spares.erase requestId).retire ?_
      rintro rfl
      exact spares.pending pending
  | closes complete router =>
      rw [router]
      exact spares.close complete
  | fulfils =>
      exact spares.takeRegistered _
  | discards =>
      exact spares.discardLate _
  | installs here alone router =>
      rw [router]
      exact ⟨spares.pending, Finset.notMem_empty _⟩

end Bounded

end TdAccount

/-- TDLib reports that the authorization is closed. -/
def closedReport : TdResponse where
  requestId := 0
  object := .updateAuthorizationState (some .closed)

/-- One of the two threads goes on, and TDLib reports nothing else. -/
def TdAccountCall.Closes : TdAccountCall → Prop
  | .operator _ => True
  | .receive supply =>
      ∀ response, supply.response? = some response → response = closedReport
  | _ => False

namespace TdAccount

/-- The receive thread has left its loop; the operator's is where it was. -/
structure Left (operator : OperatorPhase) (account : TdAccount) : Prop where
  thread : account.receiveThread = some .finished
  operator : account.operator = operator

/-- The receive thread can leave its loop. -/
def CanLeave (account : TdAccount) : Prop :=
  tdAccountMachine.CanReach TdAccountCall.Closes
    (Left account.operator) account

section Leaving

variable {account : TdAccount}

theorem operator_advanceReceive
    (supply : TdSupply)
    (phase : ReceivePhase) :
    (account.advanceReceive supply phase).1.operator =
      account.operator := by
  cases phase with
  | sendingParameters | sendingPhoneNumber =>
      simp only [advanceReceive, fst_send, receiveAt]
  | failingReads =>
      simp only [advanceReceive]
      cases isFailed : account.failReadRequests? supply with
      | none =>
          rfl
      | some failed =>
          rw [eq_of_failReadRequests? isFailed]
          rfl
  | _ => rfl

/-- The receive thread goes on with one part. -/
theorem canLeave_of_next
    {supply : TdSupply}
    {phase : ReceivePhase}
    (here : account.receiveThread = some phase)
    (closes : (TdAccountCall.receive supply).Closes)
    (later : (account.advanceReceive supply phase).1.CanLeave) :
    account.CanLeave := by
  have goes :
      (tdAccountMachine.step account (.receive supply)).1 =
        (account.advanceReceive supply phase).1 := by
    simp only [tdAccountMachine, step, here]
  refine .step (.receive supply) closes ?_
  rw [CanLeave, operator_advanceReceive] at later
  rwa [goes]

/-- Without a response there is nothing to compare. -/
theorem closes_of_silent
    {supply : TdSupply}
    (silent : supply.response? = none) :
    (TdAccountCall.receive supply).Closes := by
  intro response isResponse
  rw [silent] at isResponse
  cases isResponse

theorem canLeave_finished
    (here : account.receiveThread = some .finished) :
    account.CanLeave :=
  .refl ⟨here, rfl⟩

/-- The loop ends at its next check. -/
theorem canLeave_stopped
    (here : account.receiveThread = some .checking)
    (stopped : account.running = false) :
    account.CanLeave := by
  refine @canLeave_of_next _ {} _ here (closes_of_silent rfl) ?_
  refine canLeave_finished ?_
  simp [advanceReceive, receiveAt, stopped]

theorem canLeave_finishing
    (here : account.receiveThread = some .finishing) :
    account.CanLeave :=
  @canLeave_of_next _ {} _ here (closes_of_silent rfl)
    (canLeave_stopped rfl rfl)

theorem canLeave_failingReads
    (here : account.receiveThread = some .failingReads) :
    account.CanLeave := by
  let supply : TdSupply := {
    iteration := account.readRequests.requests.keys }
  have failed :
      account.failReadRequests? supply =
        some { account with
          readRequests :=
            (account.readRequests.close supply.iteration).2 } :=
    if_pos (List.Perm.refl _)
  refine @canLeave_of_next _ supply _ here (closes_of_silent rfl) ?_
  simp only [advanceReceive, failed]
  exact canLeave_finishing rfl

theorem canLeave_clearingOptions
    (here : account.receiveThread = some .clearingOptions) :
    account.CanLeave :=
  @canLeave_of_next _ {} _ here (closes_of_silent rfl)
    (canLeave_failingReads rfl)

/-- The loop has a report that the authorization is closed. -/
theorem canLeave_reported
    (spares : account.readRequests.SparesUpdates)
    (here : account.receiveThread = some (.routing closedReport)) :
    account.CanLeave := by
  refine @canLeave_of_next _ {} _ here (closes_of_silent rfl) ?_
  have notPending :
      account.readRequests.contains
        (UInt64.ofNat closedReport.requestId) = false :=
    decide_eq_false spares.pending
  have notLate :
      (account.readRequests.discardLate
        (UInt64.ofNat closedReport.requestId)).1 = false :=
    decide_eq_false spares.retired
  refine @canLeave_of_next _ {} (.discarding closedReport) ?_
    (closes_of_silent rfl) ?_
  · simp [advanceReceive, receiveAt, notPending]
  refine @canLeave_of_next _ {} (.settingStatus .closed) ?_
    (closes_of_silent rfl) (canLeave_clearingOptions rfl)
  · simp only [advanceReceive, receiveAt, notLate]
    rfl

/-- From its next check on the loop can receive the report. -/
theorem canLeave_checking
    (spares : account.readRequests.SparesUpdates)
    (here : account.receiveThread = some .checking) :
    account.CanLeave := by
  cases running : account.running with
  | false =>
      exact canLeave_stopped here running
  | true =>
      have receiving :
          (account.advanceReceive {} .checking).1 =
            account.receiveAt .receiving := by
        simp [advanceReceive, running]
      refine @canLeave_of_next _ {} _ here (closes_of_silent rfl) ?_
      rw [receiving]
      let supply : TdSupply := { response? := some closedReport }
      have closes : (TdAccountCall.receive supply).Closes := by
        rintro response ⟨⟩
        rfl
      refine @canLeave_of_next _ supply .receiving rfl closes ?_
      cases owned : account.manager with
      | none =>
          refine canLeave_finished ?_
          simp [advanceReceive, receiveAt, owned]
      | some manager =>
          refine canLeave_reported spares ?_
          simp [advanceReceive, receiveAt, owned, supply]

/-- One part brings the loop back to its next check. -/
theorem canLeave_of_checked
    {phase : ReceivePhase}
    (here : account.receiveThread = some phase)
    (spares :
      (account.advanceReceive {} phase).1.readRequests.SparesUpdates)
    (there :
      (account.advanceReceive {} phase).1.receiveThread =
        some .checking) :
    account.CanLeave :=
  @canLeave_of_next _ {} _ here (closes_of_silent rfl)
    (canLeave_checking spares there)

theorem canLeave_settingStatus
    {state : TdAuthorizationState}
    (spares : account.readRequests.SparesUpdates)
    (here : account.receiveThread = some (.settingStatus state)) :
    account.CanLeave := by
  cases state with
  | waitTdlibParameters =>
      refine @canLeave_of_next _ {} _ here (closes_of_silent rfl) ?_
      refine canLeave_of_checked rfl ?_ rfl
      simp only [advanceReceive, fst_send]
      exact spares
  | waitPhoneNumber =>
      refine @canLeave_of_next _ {} _ here (closes_of_silent rfl) ?_
      refine canLeave_of_checked rfl ?_ rfl
      simp only [advanceReceive, fst_send]
      exact spares
  | closed =>
      exact @canLeave_of_next _ {} _ here (closes_of_silent rfl)
        (canLeave_clearingOptions rfl)
  | _ =>
      exact canLeave_of_checked here spares rfl

theorem canLeave_discarding
    {response : TdResponse}
    (spares : account.readRequests.SparesUpdates)
    (here : account.receiveThread = some (.discarding response)) :
    account.CanLeave := by
  have sparesLater :=
    spares.discardLate (UInt64.ofNat response.requestId)
  refine @canLeave_of_next _ {} _ here (closes_of_silent rfl) ?_
  simp only [advanceReceive]
  split
  · exact canLeave_checking sparesLater rfl
  · unfold TdResponse.branch
    split
    · -- An error clears the input and is reported.
      exact @canLeave_of_next _ {} _ rfl (closes_of_silent rfl)
        (canLeave_of_checked rfl sparesLater rfl)
    · exact canLeave_settingStatus sparesLater rfl
    all_goals exact canLeave_checking sparesLater rfl

/-- Wherever the receive thread is, it can leave its loop. -/
theorem canLeave
    (spares : account.readRequests.SparesUpdates)
    {phase : ReceivePhase}
    (here : account.receiveThread = some phase) :
    account.CanLeave := by
  cases phase with
  | checking =>
      exact canLeave_checking spares here
  | receiving =>
      refine @canLeave_of_next _ {} _ here (closes_of_silent rfl) ?_
      cases owned : account.manager with
      | none =>
          refine canLeave_finished ?_
          simp [advanceReceive, receiveAt, owned]
      | some manager =>
          refine canLeave_checking spares ?_
          simp [advanceReceive, receiveAt, owned]
  | routing response =>
      refine @canLeave_of_next _ {} _ here (closes_of_silent rfl) ?_
      simp only [advanceReceive]
      split
      · exact canLeave_of_checked rfl (spares.takeRegistered _) rfl
      · exact canLeave_discarding spares rfl
  | fulfilling requestId =>
      exact canLeave_of_checked here (spares.takeRegistered _) rfl
  | discarding response =>
      exact canLeave_discarding spares here
  | clearingInput requestId code message =>
      exact @canLeave_of_next _ {} _ here (closes_of_silent rfl)
        (canLeave_of_checked rfl spares rfl)
  | reporting =>
      exact canLeave_of_checked here spares rfl
  | settingStatus state =>
      exact canLeave_settingStatus spares here
  | sendingParameters | sendingPhoneNumber =>
      refine canLeave_of_checked here ?_ rfl
      simp only [advanceReceive, fst_send]
      exact spares
  | clearingOptions =>
      exact canLeave_clearingOptions here
  | failingReads =>
      exact canLeave_failingReads here
  | finishing =>
      exact canLeave_finishing here
  | finished =>
      exact canLeave_finished here

end Leaving

/-- Where the operator's thread goes on after a `stop`. -/
def afterStop : Option TdAccountOptions → OperatorPhase
  | none => .idle
  | some options => .installing options

/-- A `stop` has ended: there is neither a manager nor a receive thread. -/
structure Stopped
    (next? : Option TdAccountOptions)
    (account : TdAccount) : Prop where
  operator : account.operator = afterStop next?
  manager : account.manager = none
  thread : account.receiveThread = none
  running : account.running = false
  options : account.options.HoldsNoSecret

/-- The `stop` that the operator's thread is in can end. -/
def CanStop
    (next? : Option TdAccountOptions)
    (account : TdAccount) : Prop :=
  tdAccountMachine.CanReach TdAccountCall.Closes (Stopped next?) account

section Stopping

variable {account : TdAccount}
variable {next? : Option TdAccountOptions}

/-- The operator's thread goes on with one part of its `stop`. -/
theorem canStop_of_next
    (supply : TdSupply)
    {phase : StopPhase}
    (here : account.operator = .stopping phase next?)
    (later : (account.advanceStop supply next? phase).1.CanStop next?) :
    account.CanStop next? := by
  refine .step (.operator supply) trivial ?_
  have goes :
      (tdAccountMachine.step account (.operator supply)).1 =
        (account.advanceStop supply next? phase).1 := by
    simp only [tdAccountMachine, step, here, advanceOperator]
  rwa [goes]

theorem canStop_emptying
    (gone : account.manager = none ∧ account.running = false)
    (thread : account.receiveThread = none)
    (here : account.operator = .stopping .emptying next?) :
    account.CanStop next? := by
  refine canStop_of_next {} here (.refl ?_)
  exact {
    operator := by cases next? <;> rfl
    manager := gone.1
    thread := thread
    running := gone.2
    options := ⟨rfl, rfl, rfl⟩ }

theorem canStop_clearing
    (gone : account.manager = none ∧ account.running = false)
    (thread : account.receiveThread = none)
    (here : account.operator = .stopping .clearing next?) :
    account.CanStop next? :=
  canStop_of_next {} here (canStop_emptying gone thread rfl)

theorem canStop_resetting
    (thread : account.receiveThread = none)
    (here : account.operator = .stopping .resetting next?) :
    account.CanStop next? :=
  canStop_of_next {} here (canStop_clearing ⟨rfl, rfl⟩ thread rfl)

theorem canStop_joining
    (spares : account.readRequests.SparesUpdates)
    (here : account.operator = .stopping .joining next?) :
    account.CanStop next? := by
  have joins
      {account : TdAccount}
      (here : account.operator = .stopping .joining next?)
      (joinable : account.canJoin = true) :
      account.CanStop next? := by
    refine canStop_of_next {} here ?_
    simp only [advanceStop, joinable, ↓reduceIte]
    exact canStop_resetting rfl rfl
  cases thread : account.receiveThread with
  | none =>
      refine joins here ?_
      rw [canJoin, thread]
  | some phase =>
      refine (canLeave spares thread).trans fun left isLeft => ?_
      refine joins (isLeft.operator.trans here) ?_
      rw [canJoin, isLeft.thread]

theorem canStop_failingReads
    (spares : account.readRequests.SparesUpdates)
    (here : account.operator = .stopping .failingReads next?) :
    account.CanStop next? := by
  let supply : TdSupply := {
    iteration := account.readRequests.requests.keys }
  have failed :
      account.failReadRequests? supply =
        some { account with
          readRequests :=
            (account.readRequests.close supply.iteration).2 } :=
    if_pos (List.Perm.refl _)
  refine canStop_of_next supply here ?_
  simp only [advanceStop, failed]
  exact canStop_joining (spares.close (List.Perm.refl _)) rfl

theorem canStop_closing
    (spares : account.readRequests.SparesUpdates)
    (here : account.operator = .stopping .closing next?) :
    account.CanStop next? := by
  refine canStop_of_next {} here ?_
  refine canStop_failingReads ?_ rfl
  simp only [advanceStop, requestClose]
  split
  · simp only [fst_send]
    exact spares
  · exact spares

/-- However far a `stop` is, it can end. -/
theorem canStop
    (spares : account.readRequests.SparesUpdates)
    (alone :
      account.operator.afterJoin = true → account.receiveThread = none)
    (owns : account.OwnsManager)
    {phase : StopPhase}
    (inside : account.operator = .stopping phase next?) :
    account.CanStop next? := by
  rw [inside] at alone
  have reset := owns.reset
  rw [inside] at reset
  cases phase with
  | closing =>
      exact canStop_closing spares inside
  | failingReads =>
      exact canStop_failingReads spares inside
  | joining =>
      exact canStop_joining spares inside
  | resetting =>
      exact canStop_resetting (alone rfl) inside
  | clearing =>
      exact canStop_clearing (reset rfl) (alone rfl) inside
  | emptying =>
      exact canStop_emptying (reset rfl) (alone rfl) inside

end Stopping

section Positions

variable {before after account : TdAccount}
variable {call : TdAccountCall}

/-- Only its own steps move the operator's thread inside a function. -/
theorem operator_step_of_busy
    (busy : account.operator ≠ .idle)
    (notOperator : ∀ supply, call ≠ .operator supply) :
    (account.step call).1.operator = account.operator := by
  have waits
      {function : TdAccount → TdAccount × TdEvent} :
      (account.whenIdle function).1.operator = account.operator := by
    unfold whenIdle
    split
    · next idle =>
        exact absurd idle busy
    · rfl
  cases call with
  | beginAuthorization | stop | submitCode | submitPassword =>
      exact waits
  | operator supply =>
      exact absurd rfl (notOperator supply)
  | receive supply =>
      simp only [step]
      split
      · rfl
      · exact operator_advanceReceive _ _
  | requestRead request =>
      simp only [step, requestRead]
      split
      · rfl
      · split
        · rfl
        · rw [fst_send]
  | timeOutRead =>
      rfl

/-- Only its own steps end the receive thread. -/
theorem receiveThread_of_threadStep
    (step : ThreadStep before call after)
    (notReceive : ∀ supply, call ≠ .receive supply)
    (alone :
      before.operator.afterJoin = true → before.receiveThread = none)
    {phase : ReceivePhase}
    (here : before.receiveThread = some phase)
    (unfinished : phase ≠ .finished) :
    after.receiveThread = some phase := by
  cases step with
  | stays _ thread | operates _ thread | resets _ _ _ _ _ thread
  | installs _ _ _ _ _ thread | failsToStart _ _ _ thread =>
      exact thread.trans here
  | joins keeps isJoining joinable =>
      unfold canJoin at joinable
      split at joinable
      · next none =>
          rw [here] at none
          cases none
      · next finished =>
          rw [here] at finished
          exact absurd (Option.some.inj finished) unfinished
      · cases joinable
  | starts keeps starting =>
      rw [alone (starting ▸ rfl)] at here
      cases here
  | loops | finishes =>
      exact absurd rfl (notReceive _)

/-- The manager stays while the receive thread is joined. -/
theorem manager_of_threadStep
    (step : ThreadStep before call after)
    {next? : Option TdAccountOptions}
    (joining : before.operator = .stopping .joining next?) :
    after.manager = before.manager := by
  cases step with
  | stays keeps | operates keeps | joins keeps | starts keeps
  | failsToStart keeps | loops keeps =>
      exact keeps.manager
  | resets here | installs here =>
      rw [joining] at here
      cases here
  | finishes _ _ manager =>
      exact manager

end Positions

end TdAccount

end TgGate
