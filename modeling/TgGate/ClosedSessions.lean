import TgGate.ReadOutcomes
import TgGate.StopProgress

namespace TgGate

open Library

/-!
# A manager is destroyed after TDLib has closed it

TDLib asks its clients to wait until it has reported that the authorization is
closed.  As long as its receive threads start, the account does: `stop` joins
the receive thread before it destroys the manager, and the thread leaves its
loop only after it has received that report from this manager.
-/

namespace TdAccount

/-- The receive thread is in its loop or about to begin it. -/
structure Serves (account : TdAccount) : Prop where
  running : account.running = true
  begun :
    account.operator = .startingThread ∨
      ∃ phase,
        account.receiveThread = some phase ∧ phase ≠ .finished

/-- Every manager but one that is still served has been closed by TDLib. -/
structure EndsSessions
    (account : TdAccount)
    (closed : Nat → Prop) : Prop where
  gone :
    ∀ manager < account.managers,
      account.manager ≠ some manager → closed manager
  served :
    ∀ manager,
      account.manager = some manager → closed manager ∨ account.Serves
  reported :
    ∀ phase manager,
      account.receiveThread = some phase →
      phase.reportsClosed = true →
      account.manager = some manager → closed manager

end TdAccount

/-- If the call starts a thread, the thread starts. -/
def TdAccountCall.StartsThread : TdAccountCall → Prop
  | .operator supply => supply.threadStarts = true
  | _ => True

namespace TdAccount

section EndsSessions

variable {before after account : TdAccount}
variable {closed : Nat → Prop}
variable {call : TdAccountCall}

/-- Nothing that the account serves is affected. -/
theorem EndsSessions.of_same
    (ends : before.EndsSessions closed)
    (manager : after.manager = before.manager)
    (managers : after.managers = before.managers)
    (serves :
      ∀ owner,
        before.manager = some owner → before.Serves → after.Serves)
    (reported :
      ∀ phase manager,
        after.receiveThread = some phase →
        phase.reportsClosed = true →
        before.manager = some manager → closed manager) :
    after.EndsSessions closed where
  gone := by
    rw [manager, managers]
    exact ends.gone
  served owner := by
    rw [manager]
    intro owned
    exact (ends.served owner owned).imp_right (serves owner owned)
  reported := by
    rw [manager]
    exact reported

/-- A manager that is not served any more has been closed. -/
theorem EndsSessions.closed_of_manager
    (ends : account.EndsSessions closed)
    (unserved : ¬account.Serves)
    {manager : Nat}
    (owned : account.manager = some manager) :
    closed manager :=
  (ends.served manager owned).resolve_right unserved

theorem not_serves
    (notStarting : account.operator ≠ .startingThread)
    (ended :
      account.receiveThread = none ∨
        account.receiveThread = some .finished) :
    ¬account.Serves := by
  rintro ⟨-, starting | ⟨phase, here, unfinished⟩⟩
  · exact notStarting starting
  · rcases ended with none | finished
    · rw [none] at here
      cases here
    · rw [finished] at here
      exact unfinished (Option.some.inj here).symm

theorem endsSessions_threadStep
    (ends : before.EndsSessions closed)
    (alone :
      before.operator.afterJoin = true → before.receiveThread = none)
    (starts : call.StartsThread)
    (receives :
      ∀ supply manager response,
        call = .receive supply →
        before.receiveThread = some .receiving →
        before.manager = some manager →
        supply.response? = some response →
        response.object.reportsClosed = true → closed manager)
    (step : ThreadStep before call after) :
    after.EndsSessions closed := by
  cases step with
  | stays keeps thread operator =>
      refine ends.of_same keeps.manager keeps.managers ?_ ?_
      · rintro _ _ ⟨running, begun⟩
        exact ⟨keeps.running.trans running, by rwa [operator, thread]⟩
      · rw [thread]
        exact ends.reported
  | operates keeps thread leaves enters =>
      refine ends.of_same keeps.manager keeps.managers ?_ ?_
      · rintro _ _ ⟨running, starting | begun⟩
        · exact absurd starting leaves
        · exact ⟨keeps.running.trans running, .inr (by rwa [thread])⟩
      · rw [thread]
        exact ends.reported
  | joins keeps here joinable thread there =>
      have unserved : ¬before.Serves := by
        refine not_serves ?_ ?_
        · rw [here]
          exact fun impossible => by cases impossible
        · unfold canJoin at joinable
          split at joinable
          · next none => exact .inl none
          · next finished => exact .inr finished
          · cases joinable
      refine ends.of_same keeps.manager keeps.managers ?_ ?_
      · exact fun _ _ serves => absurd serves unserved
      · rw [thread]
        exact fun _ _ impossible => by cases impossible
  | resets here manager managers next running thread there =>
      have joined : before.receiveThread = none := by
        refine alone ?_
        rw [here]
        rfl
      have unserved : ¬before.Serves := by
        refine not_serves ?_ (.inl joined)
        rw [here]
        exact fun impossible => by cases impossible
      constructor
      · intro other created _
        rw [managers] at created
        by_cases owned : before.manager = some other
        · exact ends.closed_of_manager unserved owned
        · exact ends.gone other created owned
      · rw [manager]
        exact fun _ impossible => by cases impossible
      · rw [manager]
        exact fun _ _ _ _ impossible => by cases impossible
  | installs here manager managers next running thread there =>
      have joined : before.receiveThread = none := by
        refine alone ?_
        rw [here]
        rfl
      have unserved : ¬before.Serves := by
        refine not_serves ?_ (.inl joined)
        rw [here]
        exact fun impossible => by cases impossible
      constructor
      · intro other created replaced
        rw [manager] at replaced
        rw [managers] at created
        have older : other < before.managers := by
          have differs : other ≠ before.managers :=
            fun same => replaced (congrArg some same.symm)
          omega
        by_cases owned : before.manager = some other
        · exact ends.closed_of_manager unserved owned
        · exact ends.gone other older owned
      · exact fun _ _ => .inr ⟨running, .inl there⟩
      · rw [thread, joined]
        exact fun _ _ impossible => by cases impossible
  | starts keeps here thread there =>
      refine ends.of_same keeps.manager keeps.managers ?_ ?_
      · rintro _ _ ⟨running, -⟩
        exact ⟨keeps.running.trans running,
          .inr ⟨_, thread, fun impossible => by cases impossible⟩⟩
      · rw [thread]
        rintro _ _ ⟨⟩ impossible
        cases impossible
  | failsToStart keeps here fails =>
      rw [TdAccountCall.StartsThread, fails] at starts
      cases starts
  | @loops supply _ old new keeps here there operator finished reports =>
      refine ends.of_same keeps.manager keeps.managers ?_ ?_
      · rintro owner owned ⟨running, begun⟩
        refine ⟨keeps.running.trans running, .inr ⟨new, there, ?_⟩⟩
        intro isFinished
        rcases finished isFinished with stopped | unowned | wasFinished
        · rw [running] at stopped
          cases stopped
        · rw [owned] at unowned
          cases unowned
        · rcases begun with starting | ⟨phase, isThread, unfinished⟩
          · rw [alone (starting ▸ rfl)] at here
            cases here
          · rw [here, Option.some.injEq] at isThread
            exact unfinished (isThread.symm.trans wasFinished)
      · intro phase manager isThread reported owned
        rw [there, Option.some.injEq] at isThread
        subst phase
        rcases reports reported with
          wasReported | ⟨isReceiving, owner, response, isOwner, received,
            reportsClosed⟩
        · exact ends.reported old manager here wasReported owned
        · rw [isReceiving] at here
          exact receives supply manager response rfl here owned received
            reportsClosed
  | finishes here there manager managers next running operator =>
      constructor
      · rw [manager, managers]
        exact ends.gone
      · intro owner owned
        rw [manager] at owned
        exact .inl (ends.reported _ owner here rfl owned)
      · rw [there]
        rintro _ _ ⟨⟩ impossible
        cases impossible

theorem EndsSessions.mono
    {later : Nat → Prop}
    (ends : account.EndsSessions closed)
    (more : ∀ manager, closed manager → later manager) :
    account.EndsSessions later where
  gone manager created replaced :=
    more manager (ends.gone manager created replaced)
  served manager owned :=
    (ends.served manager owned).imp_left (more manager)
  reported phase manager here reports owned :=
    more manager (ends.reported phase manager here reports owned)

end EndsSessions

end TdAccount

/-- If the call starts a thread, the thread starts. -/
def TdReadingCall.StartsThread : TdReadingCall → Prop
  | .operator supply => supply.threadStarts = true
  | _ => True

/-- The manager reported that the authorization is closed. -/
def ReadRecord.Closed (record : ReadRecord) (manager : Nat) : Prop :=
  ∃ response : TdApiResponse,
    (manager, response) ∈ record.received ∧
      response.object = .updateAuthorizationState (some .closed)

namespace TdReading

section Closing

variable {reading : TdReading}
variable {record : ReadRecord}
variable {call : TdReadingCall}

/-- A thread that a step starts is one that the account starts. -/
theorem startsThread_of_accountCall
    {own : TdAccountCall}
    (starts : call.StartsThread)
    (contains : reading.accountCall? call = some own) :
    own.StartsThread := by
  cases own with
  | operator supply =>
      rw [(call_of_accountCall contains).1 supply rfl] at starts
      exact starts
  | _ => trivial

/-- Only one object reports that the authorization is closed. -/
theorem eq_of_reportsClosed
    {object : TdApiObject}
    (reports : object.received.reportsClosed = true) :
    object = .updateAuthorizationState (some .closed) := by
  cases object with
  | updateAuthorizationState state? =>
      change TdObjectReceived.reportsClosed
        (.updateAuthorizationState state?) = true at reports
      unfold TdObjectReceived.reportsClosed at reports
      split at reports
      · next isUpdate =>
          obtain rfl := TdObjectReceived.updateAuthorizationState.inj
            isUpdate
          rfl
      · cases reports
  | error | chats | chat | messages | other =>
      cases reports

/-- A report that the loop receives is recorded. -/
theorem closed_of_received
    {supply : TdSupply}
    {manager : Nat}
    {response : TdResponse}
    (contains : reading.accountCall? call = some (.receive supply))
    (here : reading.account.receiveThread = some .receiving)
    (owned : reading.account.manager = some manager)
    (isReceived : supply.response? = some response)
    (reports : response.object.reportsClosed = true) :
    (record.after (tdReading.eventAt reading call)).Closed manager := by
  obtain ⟨response?, iteration, rfl⟩ :=
    (call_of_accountCall contains).2 supply rfl
  simp only [accountCall?, here] at contains
  split at contains
  · next free thread =>
      cases thread
      cases contains
      obtain ⟨whole, rfl, rfl⟩ := Option.map_eq_some_iff.mp isReceived
      have isEvent :
          tdReading.eventAt reading (.receive (some whole) iteration) =
            ⟨.receive (some whole) iteration,
              .received manager whole⟩ := by
        simp [Machine.eventAt, tdReading, step, advanceReceiver, free,
          here, advanceLoop, owned]
      rw [isEvent]
      exact ⟨whole, List.mem_append_right _ List.mem_cons_self,
        eq_of_reportsClosed reports⟩
  · cases contains

/-- Every step closes managers before it destroys them. -/
theorem endsSessions_step
    (ends : reading.account.EndsSessions record.Closed)
    (alone :
      reading.account.operator.afterJoin = true →
      reading.account.receiveThread = none)
    (starts : call.StartsThread) :
    (reading.step call).1.account.EndsSessions
      (record.after (tdReading.eventAt reading call)).Closed := by
  have known :
      reading.account.EndsSessions
        (record.after (tdReading.eventAt reading call)).Closed := by
    refine ends.mono ?_
    rintro manager ⟨response, member, isClosed⟩
    exact ⟨response, List.mem_append_left _ member, isClosed⟩
  rw [(step_refines call).1]
  cases contains : reading.accountCall? call with
  | none =>
      exact known
  | some own =>
      refine TdAccount.endsSessions_threadStep known alone
        (startsThread_of_accountCall starts contains) ?_
        (TdAccount.threadStep_step reading.account own)
      rintro supply manager response rfl here owned isReceived reports
      exact closed_of_received contains here owned isReceived reports

end Closing

end TdReading

theorem endsSessions_run
    {calls : List TdReadingCall}
    (starts : ∀ call ∈ calls, call.StartsThread) :
    (tdReading.state calls).account.EndsSessions
      (readRecord (tdReading.history calls)).Closed := by
  induction calls using List.reverseRecOn with
  | nil =>
      exact {
        gone := fun _ impossible => absurd impossible (Nat.not_lt_zero _)
        served := fun _ impossible => by cases impossible
        reported := fun _ _ impossible => by cases impossible }
  | append_singleton calls call inductionHypothesis =>
      have ends :=
        inductionHypothesis fun other member =>
          starts other (List.mem_append_left _ member)
      rw [Machine.state_snoc, Machine.history_snoc, readRecord_snoc]
      exact TdReading.endsSessions_step ends
        (restsBetweenSessions_run calls).alone
        (starts call List.mem_concat_self)

/--
As long as every receive thread starts, each manager that the account has
created and is no longer using had reported that its authorization is closed
before it was destroyed.
-/
theorem managers_are_closed_first
    (calls : List TdReadingCall)
    (starts : ∀ call ∈ calls, call.StartsThread)
    {manager : Nat}
    (created : manager < (tdReading.state calls).account.managers)
    (destroyed :
      (tdReading.state calls).account.manager ≠ some manager) :
    (readRecord (tdReading.history calls)).Closed manager :=
  (endsSessions_run starts).gone manager created destroyed

/-- TDLib reports a session closed, and the operator stops it. -/
def closedReading : List TdReadingCall :=
  authorizedReading ++
    [.receive none [],
      .receive (some {
        requestId := 0
        object := .updateAuthorizationState (some .closed) }) []] ++
    List.replicate 7 (.receive none []) ++
    .stop :: List.replicate 4 (.operator {})

theorem managers_are_closed_first_closed :
    (readRecord (tdReading.history closedReading)).Closed 0 := by
  have starts : ∀ call ∈ closedReading, call.StartsThread := by
    simp [closedReading, authorizedReading, TdReadingCall.StartsThread,
      or_imp, forall_and]
  exact managers_are_closed_first closedReading starts (by decide +kernel)
    (by decide +kernel)

end TgGate
