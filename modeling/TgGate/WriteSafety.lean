import TgGate.ApprovalLifetime
import TgGate.WritePipeline

namespace TgGate

open Library

/-!
# Every message that is sent was approved

A history of the pipeline explains each of its port calls.  Two invariants
carry the explanation.  `Stories` keeps, for every stored action and for every
request in progress, the events that brought it there.  `Ledger` keeps that an
action is taken by at most one request and sent at most once.
-/

/-- An event prepares the action with this id. -/
def Prepares
    (engine : IPolicyEngine)
    (actionId : Bytes)
    (event : WriteEvent) : Prop :=
  ∃ action,
    event.label.created? engine = some action ∧ action.id = actionId

/-- No successful denial of the action and no lockdown. -/
def Unrevoked (actionId : Bytes) (events : List WriteEvent) : Prop :=
  ∀ event ∈ events, ¬ Denies actionId event ∧ event.label ≠ .lockdown

/-- The action was approved before its deadline and not revoked. -/
structure Cleared
    (action : PendingAction)
    (events : List WriteEvent) : Prop where
  approved :
    ∃ event ∈ events, ∃ now,
      ApprovesAt now action.id event ∧ now < action.expiresAt
  unrevoked :
    Unrevoked action.id events

/-- The events of a history after the only preparation of an action. -/
def PreparedBefore
    (engine : IPolicyEngine)
    (action : PendingAction)
    (history later : List WriteEvent) : Prop :=
  ∃ before creation,
    history = before ++ creation :: later ∧
      creation.label.created? engine =
        some (action.withStatus .pending) ∧
      ∀ event ∈ before ++ later, ¬ Prepares engine action.id event

/-- How a request in progress came by its action. -/
structure Taken
    (engine : IPolicyEngine)
    (execution : Execution)
    (history middle : List WriteEvent)
    (take : WriteEvent)
    (after : List WriteEvent) : Prop where
  prepared :
    PreparedBefore engine execution.action history
      (middle ++ take :: after)
  cleared :
    Cleared execution.action middle
  takes :
    TakesFor execution.profile execution.action.id take
  owner :
    execution.action.clientId = execution.profile.id
  permitted :
    (engine.evaluate execution.profile
      execution.action.invocation).effect ≠ .deny

/-- The history explains the store and the requests in progress. -/
structure Stories
    (engine : IPolicyEngine)
    (pipeline : WritePipeline)
    (history : List WriteEvent) : Prop where
  stored :
    ∀ {actionId action},
      pipeline.approvals.lookup actionId = some action →
      ∃ later,
        PreparedBefore engine action history later ∧
          (action.status = .pending → Unrevoked action.id later) ∧
          (action.status = .approved → Cleared action later)
  free :
    ∀ {actionId},
      pipeline.approvals.lookup actionId = none →
      ∀ event ∈ history, ¬ Prepares engine actionId event
  executing :
    ∀ execution ∈ pipeline.executing,
      ∃ middle take after,
        Taken engine execution history middle take after

theorem Unrevoked.snoc
    {actionId : Bytes}
    {events : List WriteEvent}
    {event : WriteEvent}
    (unrevoked : Unrevoked actionId events)
    (notDenied : ¬ Denies actionId event)
    (noLockdown : event.label ≠ .lockdown) :
    Unrevoked actionId (events ++ [event]) := by
  intro other member
  rcases List.mem_append.mp member with before | isLast
  · exact unrevoked other before
  · rw [List.mem_singleton.mp isLast]
    exact ⟨notDenied, noLockdown⟩

theorem PreparedBefore.snoc
    {engine : IPolicyEngine}
    {action : PendingAction}
    {history later : List WriteEvent}
    {event : WriteEvent}
    (prepared : PreparedBefore engine action history later)
    (notAgain : ¬ Prepares engine action.id event) :
    PreparedBefore engine action (history ++ [event])
      (later ++ [event]) := by
  rcases prepared with ⟨before, creation, shape, created, once⟩
  refine ⟨before, creation, by simp [shape], created, ?_⟩
  intro other member
  rw [← List.append_assoc] at member
  rcases List.mem_append.mp member with inOld | isLast
  · exact once other inOld
  · rw [List.mem_singleton.mp isLast]
    exact notAgain

/-- A prepared action was prepared by some event. -/
theorem PreparedBefore.exists_prepares
    {engine : IPolicyEngine}
    {action : PendingAction}
    {history later : List WriteEvent}
    (prepared : PreparedBefore engine action history later) :
    ∃ event ∈ history, Prepares engine action.id event := by
  rcases prepared with ⟨before, creation, shape, created, -⟩
  exact ⟨creation, by simp [shape], _, created, rfl⟩

theorem Taken.snoc
    {engine : IPolicyEngine}
    {execution : Execution}
    {history middle after : List WriteEvent}
    {take event : WriteEvent}
    (taken : Taken engine execution history middle take after)
    (notAgain : ¬ Prepares engine execution.action.id event) :
    Taken engine execution (history ++ [event]) middle take
      (after ++ [event]) where
  prepared := by
    simpa using taken.prepared.snoc notAgain
  cleared := taken.cleared
  takes := taken.takes
  owner := taken.owner
  permitted := taken.permitted

/-- A decision never leaves an action pending. -/
theorem settled_status_ne_pending
    {now : TimePoint}
    {status : ActionStatus}
    {action : PendingAction}
    (decides : status ≠ .pending) :
    (action.settled now status).status ≠ .pending := by
  unfold PendingAction.settled
  split
  · exact decides
  · next refused =>
      rwa [ne_eq, ApprovalService.refresh_status_eq_pending_iff]

namespace Command

/-- A command that leaves an action pending found it so and revoked nothing. -/
theorem pending_of_effect
    {engine : IPolicyEngine}
    {command : Command}
    {action : PendingAction}
    (pending : (command.effect engine action).status = .pending) :
    action.status = .pending ∧
      command ≠ .lockdown ∧
        ∀ now, command ≠ .deny now action.id := by
  cases command with
  | prepareSendMessage environment profile accountId chatId text =>
      simp only [effect, operation?] at pending
      split at pending
      · next operation asked =>
          split at asked
          · cases asked
            exact ⟨pending, by simp, by simp⟩
          · cases asked
      · exact ⟨pending, by simp, by simp⟩
  | takeForExecution environment profile target =>
      refine ⟨?_, by simp, by simp⟩
      simp only [effect, operation?, Operation.effect] at pending
      split at pending
      · unfold PendingAction.taken at pending
        split at pending
        · split at pending <;> cases pending
        · rw [ApprovalService.refresh_status_eq_pending_iff] at pending
          exact pending.1
      · exact pending
  | sendApproved environment index =>
      exact ⟨pending, by simp, by simp⟩
  | approve now target =>
      refine ⟨?_, by simp, by simp⟩
      simp only [effect, operation?, Operation.effect] at pending
      split at pending
      · exact absurd pending (settled_status_ne_pending (by simp))
      · exact pending
  | deny now target =>
      simp only [effect, operation?, Operation.effect] at pending
      split at pending
      · exact absurd pending (settled_status_ne_pending (by simp))
      · next other =>
          refine ⟨pending, by simp, ?_⟩
          intro now isDeny
          cases isDeny
          exact other rfl
  | lockdown =>
      simp only [effect, operation?, Operation.effect,
        PendingAction.lockedDown] at pending
      split at pending
      · cases pending
      · next finished =>
          simp [ApprovalService.outstanding, pending] at finished

/-- An approved action has just been approved or stays so. -/
theorem approved_of_effect
    {engine : IPolicyEngine}
    {command : Command}
    {action : PendingAction}
    (approved : (command.effect engine action).status = .approved) :
    (∃ now,
      command = .approve now action.id ∧ action.AwaitsDecision now) ∨
      (action.status = .approved ∧ command ≠ .lockdown) := by
  cases command with
  | prepareSendMessage environment profile accountId chatId text =>
      simp only [effect, operation?] at approved
      split at approved
      · next operation asked =>
          split at asked
          · cases asked
            exact Or.inr ⟨approved, by simp⟩
          · cases asked
      · exact Or.inr ⟨approved, by simp⟩
  | takeForExecution environment profile target =>
      refine Or.inr ⟨?_, by simp⟩
      simp only [effect, operation?, Operation.effect] at approved
      split at approved
      · exact (taken_status_eq_approved_iff.mp approved).1
      · exact approved
  | sendApproved environment index =>
      exact Or.inr ⟨approved, by simp⟩
  | approve now target =>
      simp only [effect, operation?, Operation.effect] at approved
      split at approved
      · next isTarget =>
          rcases settled_status_eq_approved_iff.mp approved with
            ⟨awaits, -⟩ | already
          · exact Or.inl ⟨now, by rw [isTarget], awaits⟩
          · exact Or.inr ⟨already, by simp⟩
      · exact Or.inr ⟨approved, by simp⟩
  | deny now target =>
      refine Or.inr ⟨?_, by simp⟩
      simp only [effect, operation?, Operation.effect] at approved
      split at approved
      · simpa [settled_status_eq_approved_iff] using approved
      · exact approved
  | lockdown =>
      simp only [effect, operation?, Operation.effect,
        PendingAction.lockedDown] at approved
      split at approved
      · cases approved
      · next finished =>
          simp [ApprovalService.outstanding, approved] at finished

end Command

section Steps

variable
  {engine : IPolicyEngine}
  {pipeline : WritePipeline}
  {history : List WriteEvent}
  {command : Command}

/-- A fresh command does not prepare an action again. -/
theorem not_prepares_again
    (fresh :
      ∀ action,
        command.created? engine = some action →
        ∀ event ∈ history, ¬ Prepares engine action.id event)
    {actionId : Bytes}
    (prepared : ∃ event ∈ history, Prepares engine actionId event) :
    ¬ Prepares engine actionId
      ((writePipeline engine).eventAt pipeline command) := by
  rintro ⟨action, created, rfl⟩
  rcases prepared with ⟨event, member, prepares⟩
  exact fresh action created event member prepares

/-- The story of a stored action goes on. -/
theorem stored_story_step
    {actionId : Bytes}
    {action : PendingAction}
    {later : List WriteEvent}
    (stored : pipeline.approvals.lookup actionId = some action)
    (notAgain :
      ¬ Prepares engine action.id
        ((writePipeline engine).eventAt pipeline command))
    (prepared : PreparedBefore engine action history later)
    (pendingCase : action.status = .pending → Unrevoked action.id later)
    (approvedCase : action.status = .approved → Cleared action later) :
    ∃ later,
      PreparedBefore engine (command.effect engine action)
          (history ++ [(writePipeline engine).eventAt pipeline command])
          later ∧
        ((command.effect engine action).status = .pending →
          Unrevoked (command.effect engine action).id later) ∧
        ((command.effect engine action).status = .approved →
          Cleared (command.effect engine action) later) := by
  have sameId := ApprovalService.id_of_lookup stored
  subst actionId
  obtain ⟨status, shape⟩ :=
    command.exists_effect_eq_withStatus engine action
  refine ⟨later ++ [(writePipeline engine).eventAt pipeline command],
    ?_, ?_, ?_⟩
  · rw [shape]
    exact prepared.snoc notAgain
  · intro pending
    obtain ⟨wasPending, noLockdown, noDeny⟩ :=
      Command.pending_of_effect pending
    rw [shape]
    refine (pendingCase wasPending).snoc ?_ noLockdown
    rw [denies_eventAt_iff]
    rintro ⟨now, _, isDeny, -, -⟩
    exact noDeny now isDeny
  · intro approved
    rw [shape]
    rcases Command.approved_of_effect approved with
      ⟨now, isApprove, awaits⟩ | ⟨wasApproved, noLockdown⟩
    · have approves :
          ApprovesAt now action.id
            ((writePipeline engine).eventAt pipeline command) :=
        approvesAt_eventAt_iff.mpr ⟨isApprove, action, stored, awaits⟩
      refine ⟨⟨_, by simp, now, approves, awaits.2⟩, ?_⟩
      refine (pendingCase awaits.1).snoc ?_ ?_
      · rw [denies_eventAt_iff]
        rintro ⟨_, _, isDeny, -, -⟩
        rw [isApprove] at isDeny
        cases isDeny
      · rw [Machine.eventAt, isApprove]
        simp
    · obtain ⟨⟨event, member, approval⟩, unrevoked⟩ :=
        approvedCase wasApproved
      refine ⟨⟨event, by simp [member], approval⟩, ?_⟩
      refine unrevoked.snoc ?_ noLockdown
      rw [denies_eventAt_iff]
      rintro ⟨_, other, -, otherStored, pending, -⟩
      rw [stored, Option.some.injEq] at otherStored
      rw [← otherStored, wasApproved] at pending
      cases pending

/-- A new action's story begins with the command that creates it. -/
theorem created_story_step
    {actionId : Bytes}
    {action : PendingAction}
    (unprepared : ∀ event ∈ history, ¬ Prepares engine actionId event)
    (created : command.created? engine = some action)
    (sameId : action.id = actionId) :
    ∃ later,
      PreparedBefore engine action
          (history ++ [(writePipeline engine).eventAt pipeline command])
          later ∧
        (action.status = .pending → Unrevoked action.id later) ∧
        (action.status = .approved → Cleared action later) := by
  obtain ⟨operation, -, operationCreated⟩ :=
    Option.bind_eq_some_iff.mp created
  have isPending := status_of_created? operationCreated
  refine ⟨[], ⟨history, _, rfl, ?_, ?_⟩, ?_, ?_⟩
  · rw [PendingAction.withStatus_eq_self isPending]
    exact created
  · intro event member
    rw [sameId]
    exact unprepared event (by simpa using member)
  · intro _ event member
    simp at member
  · intro approved
    rw [isPending] at approved
    cases approved

/-- After a command, every stored action has a story. -/
theorem Stories.stored_step
    (stories : Stories engine pipeline history)
    (fresh :
      ∀ action,
        command.created? engine = some action →
        ∀ event ∈ history, ¬ Prepares engine action.id event)
    {actionId : Bytes}
    {action : PendingAction}
    (found :
      ((writePipeline engine).step pipeline command).1.approvals.lookup
          actionId =
        some action) :
    ∃ later,
      PreparedBefore engine action
          (history ++ [(writePipeline engine).eventAt pipeline command])
          later ∧
        (action.status = .pending → Unrevoked action.id later) ∧
        (action.status = .approved → Cleared action later) := by
  cases before : pipeline.approvals.lookup actionId with
  | some previous =>
      obtain ⟨later, prepared, pendingCase, approvedCase⟩ :=
        stories.stored before
      rw [pipeline_lookup_of_stored before, Option.some.injEq] at found
      rw [← found]
      exact stored_story_step before
        (not_prepares_again fresh prepared.exists_prepares)
        prepared pendingCase approvedCase
  | none =>
      rw [pipeline_lookup_of_free before] at found
      obtain ⟨created, sameId⟩ := created_of_filter found
      exact created_story_step (stories.free before) created sameId

/-- After a command, an id that is free was never prepared. -/
theorem Stories.free_step
    (stories : Stories engine pipeline history)
    {actionId : Bytes}
    (free :
      ((writePipeline engine).step pipeline command).1.approvals.lookup
          actionId =
        none) :
    ∀ event ∈
        history ++ [(writePipeline engine).eventAt pipeline command],
      ¬ Prepares engine actionId event := by
  intro event member
  have freeBefore : pipeline.approvals.lookup actionId = none := by
    cases before : pipeline.approvals.lookup actionId with
    | none =>
        rfl
    | some previous =>
        rw [pipeline_lookup_of_stored before] at free
        cases free
  rcases List.mem_append.mp member with inHistory | isLast
  · exact stories.free freeBefore event inHistory
  · rw [List.mem_singleton.mp isLast]
    rintro ⟨action, created, sameId⟩
    rw [pipeline_lookup_of_free freeBefore] at free
    have createdHere : command.created? engine = some action :=
      created
    rw [createdHere] at free
    simp [Option.filter_some, sameId] at free

/-- After a command, every request in progress has come by its action. -/
theorem Stories.executing_step
    (stories : Stories engine pipeline history)
    (fresh :
      ∀ action,
        command.created? engine = some action →
        ∀ event ∈ history, ¬ Prepares engine action.id event) :
    ∀ execution ∈
        ((writePipeline engine).step pipeline command).1.executing,
      ∃ middle take after,
        Taken engine execution
          (history ++ [(writePipeline engine).eventAt pipeline command])
          middle take after := by
  have goesOn (execution : Execution)
      (member : execution ∈ pipeline.executing) :
      ∃ middle take after,
        Taken engine execution
          (history ++
            [(writePipeline engine).eventAt pipeline command])
          middle take after := by
    obtain ⟨middle, take, after, taken⟩ :=
      stories.executing execution member
    exact ⟨middle, take, _,
      taken.snoc
        (not_prepares_again fresh taken.prepared.exists_prepares)⟩
  intro execution member
  cases stepShape engine pipeline command with
  | quiet executing =>
      rw [executing] at member
      exact goesOn execution member
  | @takes environment profile action label stored executable
      executing port output =>
      rw [executing] at member
      rcases List.mem_append.mp member with inOld | isNew
      · exact goesOn execution inOld
      · rw [List.mem_singleton.mp isNew]
        obtain ⟨later, prepared, -, approvedCase⟩ :=
          stories.stored stored
        have cleared := approvedCase executable.1
        refine ⟨later,
          (writePipeline engine).eventAt pipeline command, [],
          ?_, ?_, ?_, ?_, ?_⟩
        · exact prepared.snoc
            (not_prepares_again fresh prepared.exists_prepares)
        · exact ⟨cleared.approved, cleared.unrevoked⟩
        · refine ⟨environment, ?_⟩
          rw [Machine.eventAt, output, label]
          rfl
        · exact executable.2.1
        · exact executable.2.2
  | sends label found executing =>
      rw [executing] at member
      apply goesOn execution
      rw [found]
      simp only [List.mem_append, List.mem_cons] at member ⊢
      tauto

/-- One command keeps the history explaining the state. -/
theorem stories_step
    (stories : Stories engine pipeline history)
    (fresh :
      ∀ action,
        command.created? engine = some action →
        ∀ event ∈ history, ¬ Prepares engine action.id event) :
    Stories engine
      ((writePipeline engine).step pipeline command).1
      (history ++ [(writePipeline engine).eventAt pipeline command]) where
  stored found := stories.stored_step fresh found
  free free := stories.free_step free
  executing := stories.executing_step fresh

end Steps

/-- Actions are taken by one request and sent once. -/
structure Ledger
    (pipeline : WritePipeline)
    (history : List WriteEvent) : Prop where
  held :
    ∀ execution ∈ pipeline.executing,
      execution.action.status = .executed ∧
        pipeline.approvals.lookup execution.action.id =
          some execution.action
  once :
    (pipeline.executing.map fun execution =>
      execution.action.id).Nodup
  sent :
    ∀ event ∈ history,
      ∀ {actionId},
        Sends actionId event →
        (∃ action,
          action.status = .executed ∧
            pipeline.approvals.lookup actionId = some action) ∧
          ∀ execution ∈ pipeline.executing,
            execution.action.id ≠ actionId

/-- An executed action is finished. -/
theorem finished_of_status_eq_executed
    {action : PendingAction}
    (executed : action.status = .executed) :
    action.Finished := by
  simp [PendingAction.Finished, executed]

/-- An executed action stays stored as it is. -/
theorem pipeline_lookup_of_executed
    {engine : IPolicyEngine}
    {pipeline : WritePipeline}
    {actionId : Bytes}
    {action : PendingAction}
    (executed : action.status = .executed)
    (stored : pipeline.approvals.lookup actionId = some action)
    (command : Command) :
    ((writePipeline engine).step pipeline command).1.approvals.lookup
        actionId =
      some action := by
  rw [pipeline_lookup_of_stored stored,
    Command.effect_of_finished (finished_of_status_eq_executed executed)]

section LedgerSteps

variable
  {engine : IPolicyEngine}
  {pipeline : WritePipeline}
  {history : List WriteEvent}
  (ledger : Ledger pipeline history)
  (command : Command)

include ledger

/-- An action that is still approved is held by no request and not sent. -/
theorem Ledger.untaken
    {action : PendingAction}
    (stored : pipeline.approvals.lookup action.id = some action)
    (approved : action.status = .approved) :
    (∀ execution ∈ pipeline.executing,
        execution.action.id ≠ action.id) ∧
      ∀ event ∈ history, ¬ Sends action.id event := by
  have notExecuted {other : PendingAction}
      (executed : other.status = .executed)
      (found : pipeline.approvals.lookup action.id = some other) :
      False := by
    rw [stored, Option.some.injEq] at found
    rw [← found, approved] at executed
    cases executed
  constructor
  · intro execution member same
    obtain ⟨executed, found⟩ := ledger.held execution member
    rw [same] at found
    exact notExecuted executed found
  · intro event member sends
    obtain ⟨⟨other, executed, found⟩, -⟩ :=
      ledger.sent event member sends
    exact notExecuted executed found

/-- What the requests in progress hold stays executed in the store. -/
theorem Ledger.held_step :
    ∀ execution ∈
        ((writePipeline engine).step pipeline command).1.executing,
      execution.action.status = .executed ∧
        ((writePipeline engine).step pipeline
            command).1.approvals.lookup execution.action.id =
          some execution.action := by
  have heldStill (execution : Execution)
      (member : execution ∈ pipeline.executing) :
      execution.action.status = .executed ∧
        ((writePipeline engine).step pipeline
            command).1.approvals.lookup execution.action.id =
          some execution.action := by
    obtain ⟨executed, stored⟩ := ledger.held execution member
    exact ⟨executed, pipeline_lookup_of_executed executed stored command⟩
  intro execution member
  cases stepShape engine pipeline command with
  | quiet executing =>
      rw [executing] at member
      exact heldStill execution member
  | takes label stored executable executing =>
      rw [executing] at member
      rcases List.mem_append.mp member with inOld | isNew
      · exact heldStill execution inOld
      · rw [List.mem_singleton.mp isNew]
        refine ⟨rfl, ?_⟩
        simp only [PendingAction.withStatus_id]
        rw [pipeline_lookup_of_stored stored, label]
        simp [Command.effect, Command.operation?, Operation.effect,
          PendingAction.taken, executable.1, executable.2.1,
          executable.2.2]
  | sends label found executing =>
      rw [executing] at member
      apply heldStill execution
      rw [found]
      simp only [List.mem_append, List.mem_cons] at member ⊢
      tauto

/-- No action is taken by a second request. -/
theorem Ledger.once_step :
    (((writePipeline engine).step pipeline command).1.executing.map
      fun execution => execution.action.id).Nodup := by
  cases stepShape engine pipeline command with
  | quiet executing =>
      rw [executing]
      exact ledger.once
  | takes label stored executable executing =>
      rw [executing, List.map_append, List.nodup_append]
      refine ⟨ledger.once, by simp, ?_⟩
      intro heldId heldMember newId newMember
      obtain ⟨execution, member, rfl⟩ := List.mem_map.mp heldMember
      rw [List.map_singleton, List.mem_singleton] at newMember
      rw [newMember]
      exact (ledger.untaken stored executable.1).1 execution member
  | sends label found executing =>
      have once := ledger.once
      rw [found, List.map_append, List.map_cons,
        List.nodup_middle] at once
      rw [executing, List.map_append]
      exact (List.nodup_cons.mp once).2

/-- What was sent stays executed and out of the hands of requests. -/
theorem Ledger.sent_step :
    ∀ event ∈ history,
      ∀ {actionId},
        Sends actionId event →
        (∃ action,
          action.status = .executed ∧
            ((writePipeline engine).step pipeline
                command).1.approvals.lookup actionId =
              some action) ∧
          ∀ execution ∈
              ((writePipeline engine).step pipeline command).1.executing,
            execution.action.id ≠ actionId := by
  intro event member actionId sends
  obtain ⟨⟨action, executed, stored⟩, elsewhere⟩ :=
    ledger.sent event member sends
  refine ⟨⟨action, executed,
    pipeline_lookup_of_executed executed stored command⟩, ?_⟩
  intro execution inProgress
  cases stepShape engine pipeline command with
  | quiet executing =>
      rw [executing] at inProgress
      exact elsewhere execution inProgress
  | takes label taken executable executing =>
      rw [executing] at inProgress
      rcases List.mem_append.mp inProgress with inOld | isNew
      · exact elsewhere execution inOld
      · rw [List.mem_singleton.mp isNew]
        rintro rfl
        exact (ledger.untaken taken executable.1).2 event member sends
  | sends label found executing =>
      rw [executing] at inProgress
      apply elsewhere execution
      rw [found]
      simp only [List.mem_append, List.mem_cons] at inProgress ⊢
      tauto

/-- A request that sends gives its action up. -/
theorem Ledger.sends_step
    {actionId : Bytes}
    (sends :
      Sends actionId ((writePipeline engine).eventAt pipeline command)) :
    (∃ action,
      action.status = .executed ∧
        ((writePipeline engine).step pipeline
            command).1.approvals.lookup actionId =
          some action) ∧
      ∀ execution ∈
          ((writePipeline engine).step pipeline command).1.executing,
        execution.action.id ≠ actionId := by
  obtain ⟨execution, calls, outcome, reply, rfl⟩ := sends
  have sent :
      ((writePipeline engine).step pipeline command).2 =
        .sent execution calls outcome :=
    reply
  cases stepShape engine pipeline command with
  | quiet _ _ _ notSent =>
      exact absurd sent (notSent execution calls outcome)
  | takes _ _ _ _ _ taken =>
      rw [taken] at sent
      cases sent
  | sends label found executing port output =>
      obtain ⟨ownOutcome, output⟩ := output
      rw [output] at sent
      cases sent
      have inProgress : execution ∈ pipeline.executing := by
        simp [found]
      obtain ⟨executed, stored⟩ := ledger.held execution inProgress
      refine ⟨⟨execution.action, executed,
        pipeline_lookup_of_executed executed stored command⟩, ?_⟩
      intro other member same
      have once := ledger.once
      rw [found, List.map_append, List.map_cons, List.nodup_middle,
        ← List.map_append] at once
      rw [executing] at member
      exact (List.nodup_cons.mp once).1
        (List.mem_map.mpr ⟨other, member, same⟩)

/-- One command keeps the ledger. -/
theorem ledger_step :
    Ledger
      ((writePipeline engine).step pipeline command).1
      (history ++
        [(writePipeline engine).eventAt pipeline command]) where
  held := ledger.held_step command
  once := ledger.once_step command
  sent := by
    intro event member actionId sends
    rcases List.mem_append.mp member with inHistory | isLast
    · exact ledger.sent_step command event inHistory sends
    · rw [List.mem_singleton.mp isLast] at sends
      exact ledger.sends_step command sends

end LedgerSteps

/-- Events with fresh ids do not prepare the next one. -/
theorem not_prepares_of_freshLabels
    {engine : IPolicyEngine}
    {history : List WriteEvent}
    {command : Command}
    (fresh :
      FreshActionIds engine (history.map Event.label ++ [command]))
    {action : PendingAction}
    (created : command.created? engine = some action)
    {event : WriteEvent}
    (member : event ∈ history) :
    ¬ Prepares engine action.id event := by
  rintro ⟨other, otherCreated, sameId⟩
  obtain ⟨operation, asked, operationCreated⟩ :=
    Option.bind_eq_some_iff.mp created
  obtain ⟨otherOperation, otherAsked, otherOperationCreated⟩ :=
    Option.bind_eq_some_iff.mp otherCreated
  have shape :
      approvalRun engine (history.map Event.label ++ [command]) =
        approvalRun engine (history.map Event.label) ++
          operation :: [] := by
    simp [approvalRun, asked]
  have otherRun :
      otherOperation ∈ approvalRun engine (history.map Event.label) :=
    List.mem_filterMap.mpr
      ⟨event.label, List.mem_map_of_mem member, otherAsked⟩
  refine id_not_created_before fresh shape operationCreated ?_
  rw [← sameId]
  exact List.mem_map_of_mem
    (List.mem_filterMap.mpr
      ⟨otherOperation, otherRun, otherOperationCreated⟩)

/-- Fresh ids are not prepared a second time. -/
theorem not_prepares_of_fresh
    {engine : IPolicyEngine}
    {commands : List Command}
    {command : Command}
    (fresh : FreshActionIds engine (commands ++ [command]))
    {action : PendingAction}
    (created : command.created? engine = some action)
    {event : WriteEvent}
    (member : event ∈ (writePipeline engine).history commands) :
    ¬ Prepares engine action.id event := by
  rw [← (writePipeline engine).map_label_history commands] at fresh
  exact not_prepares_of_freshLabels fresh created member

/-- The ids of a shorter run are fresh as well. -/
theorem FreshActionIds.of_append
    {engine : IPolicyEngine}
    {first later : List Command}
    (fresh : FreshActionIds engine (first ++ later)) :
    FreshActionIds engine first := by
  unfold FreshActionIds FreshIds createdActions approvalRun at fresh ⊢
  rw [List.filterMap_append, List.filterMap_append,
    List.map_append, List.nodup_append] at fresh
  exact fresh.1

/-- In every run with fresh ids, the history explains the state. -/
theorem stories_state
    {engine : IPolicyEngine}
    {commands : List Command}
    (fresh : FreshActionIds engine commands) :
    Stories engine
      ((writePipeline engine).state commands)
      ((writePipeline engine).history commands) := by
  refine (writePipeline engine).invariant_of_step
    (FreshActionIds engine)
    (fun _ pipeline history => Stories engine pipeline history)
    FreshActionIds.of_append ?_ ?_ fresh
  · refine ⟨?_, by simp, by simp [writePipeline]⟩
    intro actionId action found
    simp [writePipeline, WritePipeline.approvals] at found
  · intro earlier command longer stories
    exact stories_step stories
      fun action created event member =>
        not_prepares_of_fresh longer created member

/-- In every run, actions are taken by one request and sent once. -/
theorem ledger_state
    (engine : IPolicyEngine)
    (commands : List Command) :
    Ledger
      ((writePipeline engine).state commands)
      ((writePipeline engine).history commands) := by
  refine (writePipeline engine).invariant_of_step
    (fun _ => True)
    (fun _ pipeline history => Ledger pipeline history)
    (fun _ => trivial) ?_ ?_ trivial
  · exact ⟨by simp [writePipeline], by simp [writePipeline], by simp⟩
  · intro earlier command _ ledger
    exact ledger_step ledger command

/-- A send event is the step of a request in progress. -/
theorem sends_eventAt
    {engine : IPolicyEngine}
    {pipeline : WritePipeline}
    {command : Command}
    {execution : Execution}
    {calls : List TelegramCall}
    {outcome : Except Exception Json}
    (output :
      ((writePipeline engine).eventAt pipeline command).output =
        .sent execution calls outcome) :
    execution ∈ pipeline.executing ∧
      (∃ environment index, command = .sendApproved environment index) ∧
      calls =
        (TelegramApplicationService.sendCall?
          execution.action).toList := by
  have reply :
      ((writePipeline engine).step pipeline command).2 =
        .sent execution calls outcome :=
    output
  cases stepShape engine pipeline command with
  | quiet _ _ _ notSent =>
      exact absurd reply (notSent execution calls outcome)
  | takes _ _ _ _ _ taken =>
      rw [taken] at reply
      cases reply
  | sends label found executing port sent =>
      rcases sent with ⟨ownOutcome, sent⟩
      rw [sent] at reply
      cases reply
      exact ⟨by simp [found], ⟨_, _, label⟩, rfl⟩

/-- Before a send event, the history has no send of the same action. -/
theorem not_sent_before
    {engine : IPolicyEngine}
    {commands : List Command}
    {earlier later : List WriteEvent}
    {event : WriteEvent}
    (split :
      (writePipeline engine).history commands =
        earlier ++ event :: later)
    {actionId : Bytes}
    (sends : Sends actionId event)
    {other : WriteEvent}
    (member : other ∈ earlier) :
    ¬ Sends actionId other := by
  intro otherSends
  obtain ⟨first, command, rest, -, rfl, rfl, -⟩ :=
    (writePipeline engine).exists_run_of_history_split split
  rcases sends with ⟨execution, calls, outcome, output, sameId⟩
  exact ((ledger_state engine first).sent other member otherSends).2
    execution (sends_eventAt output).1 sameId

/-- An accepted `prepare` of one message by one client under one id. -/
def PreparesMessage
    (engine : IPolicyEngine)
    (clientId actionId accountId : Bytes)
    (chatId : Int64)
    (text : Bytes)
    (expiresAt : TimePoint)
    (event : WriteEvent) : Prop :=
  ∃ environment requester,
    event.label =
        .prepareSendMessage environment requester accountId chatId
          text ∧
      requester.id = clientId ∧
      TelegramApplicationService.AcceptsMessage engine requester
        accountId chatId text ∧
      createSecureId environment.random = .ok actionId ∧
      expiresAt = environment.now + 120 * ticksPerSecond

/-- The one port call of an event is accounted for by the whole history. -/
structure JustifiedSend
    (engine : IPolicyEngine)
    (profile : McpClientProfile)
    (actionId accountId : Bytes)
    (chatId : Int64)
    (text : Bytes)
    (expiresAt : TimePoint)
    (before : List WriteEvent)
    (creation : WriteEvent)
    (middle : List WriteEvent)
    (take : WriteEvent)
    (after : List WriteEvent)
    (send : WriteEvent)
    (later : List WriteEvent) : Prop where
  /-- The call is made by an execute request of the profile. -/
  executes :
    ∃ environment index execution outcome,
      send =
          ⟨.sendApproved environment index,
            .sent execution [.sendMessage accountId chatId text]
              outcome⟩ ∧
        execution.profile = profile ∧
        execution.action.id = actionId
  /-- The same client prepared exactly this message. -/
  prepared :
    PreparesMessage engine profile.id actionId accountId chatId text
      expiresAt creation
  /-- No other event prepared the id before the call. -/
  preparedOnce :
    ∀ event ∈ before ++ middle ++ take :: after,
      ¬ Prepares engine actionId event
  /-- The operator approved it in time. -/
  approved :
    ∃ event ∈ middle, ∃ now,
      ApprovesAt now actionId event ∧ now < expiresAt
  /-- The policy did not deny it when it was taken. -/
  permitted :
    TakesFor profile actionId take ∧
      (engine.evaluate profile
        (TelegramApplicationService.sendInvocation
          accountId chatId)).effect ≠ .deny
  /-- Neither a denial nor a lockdown came in between. -/
  unrevoked :
    Unrevoked actionId middle
  /-- No other call belongs to the id. -/
  sentOnce :
    ∀ event ∈ before ++ creation :: (middle ++ take :: after) ++ later,
      ¬ Sends actionId event

/-- The call made for an action prepared from a message is that message. -/
theorem sendCall?_of_prepared
    {action : PendingAction}
    {accountId text : Bytes}
    {chatId : Int64}
    (invocation :
      action.invocation =
        TelegramApplicationService.sendInvocation accountId chatId)
    (arguments :
      action.arguments =
        TelegramApplicationService.sendArguments text) :
    TelegramApplicationService.sendCall? action =
      some (.sendMessage accountId chatId text) := by
  have chat : action.invocation.chatId = some chatId := by
    rw [invocation]
    rfl
  rw [TelegramApplicationService.sendCall?_of_arguments chat arguments,
    invocation]
  rfl

/-- A request in progress sends the message its action was prepared from. -/
theorem Taken.exists_message
    {engine : IPolicyEngine}
    {execution : Execution}
    {history middle after : List WriteEvent}
    {take : WriteEvent}
    (taken : Taken engine execution history middle take after) :
    ∃ accountId chatId text before creation,
      history = before ++ creation :: (middle ++ take :: after) ∧
        TelegramApplicationService.sendCall? execution.action =
          some (.sendMessage accountId chatId text) ∧
        execution.action.invocation =
          TelegramApplicationService.sendInvocation accountId chatId ∧
        PreparesMessage engine execution.profile.id execution.action.id
          accountId chatId text execution.action.expiresAt creation ∧
        ∀ event ∈ before ++ (middle ++ take :: after),
          ¬ Prepares engine execution.action.id event := by
  obtain ⟨before, creation, shape, created, once⟩ := taken.prepared
  obtain ⟨environment, requester, accountId, chatId, text, id, label,
      accepted, random, actionShape⟩ :=
    Command.created?_eq_some_iff.mp created
  obtain ⟨sameId, sameClient, sameInvocation, sameArguments, -,
      sameDeadline, -⟩ :=
    PendingAction.mk.inj actionShape
  refine ⟨accountId, chatId, text, before, creation, shape,
    sendCall?_of_prepared sameInvocation sameArguments,
    sameInvocation, ?_, once⟩
  exact ⟨environment, requester, label,
    sameClient.symm.trans taken.owner, accepted,
    by rw [random, ← sameId], sameDeadline⟩

/-- A history has one send event of an action. -/
theorem not_sent_elsewhere
    {engine : IPolicyEngine}
    {commands : List Command}
    {earlier later : List WriteEvent}
    {event : WriteEvent}
    (split :
      (writePipeline engine).history commands =
        earlier ++ event :: later)
    {actionId : Bytes}
    (sends : Sends actionId event)
    {other : WriteEvent}
    (member : other ∈ earlier ++ later) :
    ¬ Sends actionId other := by
  rcases List.mem_append.mp member with inEarlier | inLater
  · exact not_sent_before split sends inEarlier
  · intro otherSends
    obtain ⟨between, rest, rfl⟩ := List.mem_iff_append.mp inLater
    rw [← List.cons_append, ← List.append_assoc] at split
    exact not_sent_before split otherSends (by simp) sends

/--
Every call of the port that sends a message belongs to one action that its own
client prepared with this message, that the operator approved in time and did
not revoke before it was taken, that the policy did not deny when it was taken,
and that is sent once.
-/
theorem sends_justified
    {engine : IPolicyEngine}
    {commands : List Command}
    (fresh : FreshActionIds engine commands) :
    ((writePipeline engine).state
        commands).desktop.service.telegramCalls =
      ((writePipeline engine).history commands).flatMap
        (fun event => event.output.calls) ∧
    ∀ {earlier send later accountId chatId text},
      (writePipeline engine).history commands =
        earlier ++ send :: later →
      .sendMessage accountId chatId text ∈ send.output.calls →
      ∃ profile actionId expiresAt before creation middle take after,
        earlier = before ++ creation :: (middle ++ take :: after) ∧
          JustifiedSend engine profile actionId accountId chatId text
            expiresAt before creation middle take after send later := by
  refine ⟨telegramCalls_state engine commands, ?_⟩
  intro earlier send later accountId chatId text split called
  cases reply : send.output with
  | response | taken | decided | done | idle =>
      simp [reply, Reply.calls] at called
  | sent execution calls outcome =>
      have sends : Sends execution.action.id send :=
        ⟨execution, calls, outcome, reply, rfl⟩
      have elsewhere : ∀ other ∈ earlier ++ later,
          ¬ Sends execution.action.id other :=
        fun other member => not_sent_elsewhere split sends member
      obtain ⟨first, command, rest, shape, rfl, rfl, -⟩ :=
        (writePipeline engine).exists_run_of_history_split split
      obtain ⟨inProgress, ⟨environment, index, label⟩, callsShape⟩ :=
        sends_eventAt reply
      rw [shape] at fresh
      obtain ⟨middle, take, after, taken⟩ :=
        (stories_state fresh.of_append).executing execution inProgress
      obtain ⟨account, chat, message, before, creation, historyShape,
          call, invocation, prepared, once⟩ :=
        taken.exists_message
      rw [call] at callsShape
      have sameCall :
          TelegramCall.sendMessage accountId chatId text =
            .sendMessage account chat message := by
        simpa [reply, Reply.calls, callsShape] using called
      cases sameCall
      refine ⟨execution.profile, execution.action.id,
        execution.action.expiresAt, before, creation, middle, take,
        after, historyShape, ?_⟩
      exact {
        executes :=
          ⟨environment, index, execution, outcome, by
            rw [Machine.eventAt] at reply ⊢
            simp only at reply
            rw [reply, label, callsShape]
            rfl, rfl, rfl⟩
        prepared := prepared
        preparedOnce := by
          simpa [List.append_assoc] using once
        approved := taken.cleared.approved
        permitted :=
          ⟨taken.takes, invocation ▸ taken.permitted⟩
        unrevoked := taken.cleared.unrevoked
        sentOnce := by
          rw [← historyShape]
          exact elsewhere
      }

/-- A client prepares a message, the operator approves it, it is taken. -/
def takenRun : List Command :=
  [.prepareSendMessage { random := zeroRandom } writerProfile
      (bytes "work") 42 (bytes "hello"),
    .approve ticksPerSecond zeroId,
    .takeForExecution { now := 2 * ticksPerSecond } writerProfile
      zeroId]

theorem sends_justified_takenRun :
    ∃ profile actionId expiresAt before creation middle take after,
      (writePipeline policyEngine).history takenRun =
          before ++ creation :: (middle ++ take :: after) ∧
        JustifiedSend policyEngine profile actionId (bytes "work") 42
          (bytes "hello") expiresAt before creation middle take after
          ((writePipeline policyEngine).eventAt
            ((writePipeline policyEngine).state takenRun)
            (.sendApproved {} 0))
          [] := by
  have fresh :
      FreshActionIds policyEngine
        (takenRun ++ [.sendApproved {} 0]) := by
    decide
  exact (sends_justified fresh).2
    ((writePipeline policyEngine).history_snoc takenRun _)
    (List.mem_singleton.mpr rfl)

end TgGate
