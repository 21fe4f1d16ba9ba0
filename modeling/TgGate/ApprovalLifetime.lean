import TgGate.ApprovalRuns

namespace TgGate

open Library

/-!
# Expiry and revocation of prepared actions

Two questions about the life of an action.  Can it be executed after its
deadline?  Can the operator still revoke it while it is listed?  Both turn on
one status: an approved action is neither expired by the clock nor touched by
`deny`.  The module first ties that status to the history of the run and then
answers both questions exactly.
-/

/-- A successful approval of one action. -/
def Approves (actionId : Bytes) (event : ApprovalEvent) : Prop :=
  ∃ now action,
    event = ⟨.approve now actionId, .action (some action)⟩

/-- One action is handed out for execution. -/
def Executes (actionId : Bytes) (event : ApprovalEvent) : Prop :=
  ∃ now profile engine action,
    event =
      ⟨.takeApprovedForExecution now actionId profile engine,
        .action (some action)⟩

/--
The operations after which an earlier approval is spent: a lockdown, and any
attempt of the owning client to take the action.
-/
def SpendsApproval
    (actionId clientId : Bytes)
    (operation : Operation) : Prop :=
  operation = .lockdown ∨
    ∃ now profile engine,
      operation =
          .takeApprovedForExecution now actionId profile engine ∧
        clientId = profile.id

/-- The action was approved and nothing has spent the approval since. -/
def ApprovalOutstanding
    (history : List ApprovalEvent)
    (actionId clientId : Bytes) : Prop :=
  ∃ earlier approval later,
    history = earlier ++ approval :: later ∧
      Approves actionId approval ∧
      ∀ event ∈ later, ¬ SpendsApproval actionId clientId event.label

/-- How one more event changes whether an approval is outstanding. -/
theorem approvalOutstanding_snoc
    {history : List ApprovalEvent}
    {event : ApprovalEvent}
    {actionId clientId : Bytes} :
    ApprovalOutstanding (history ++ [event]) actionId clientId ↔
      Approves actionId event ∨
        (ApprovalOutstanding history actionId clientId ∧
          ¬ SpendsApproval actionId clientId event.label) := by
  constructor
  · rintro ⟨earlier, approval, later, shape, approves, unspent⟩
    induction later using List.reverseRecOn with
    | nil =>
        obtain ⟨-, same⟩ := List.append_inj' shape rfl
        simp only [List.cons.injEq, and_true] at same
        exact Or.inl (same ▸ approves)
    | append_singleton later last _ =>
        rw [← List.cons_append, ← List.append_assoc] at shape
        obtain ⟨historyShape, same⟩ := List.append_inj' shape rfl
        simp only [List.cons.injEq, and_true] at same
        refine Or.inr ⟨⟨earlier, approval, later, historyShape,
          approves, ?_⟩, ?_⟩
        · intro other member
          exact unspent other (by simp [member])
        · rw [same]
          exact unspent last (by simp)
  · rintro (approves | ⟨⟨earlier, approval, later, shape, approves,
      unspent⟩, kept⟩)
    · exact ⟨history, event, [], rfl, approves, by simp⟩
    · refine ⟨earlier, approval, later ++ [event], ?_, approves, ?_⟩
      · simp [shape]
      · intro other member
        rcases List.mem_append.mp member with inLater | isLast
        · exact unspent other inLater
        · rw [List.mem_singleton.mp isLast]
          exact kept

/-- An answer to `approve` is a success exactly for a decidable action. -/
theorem approves_eventAt_iff
    {service : ApprovalService}
    {actionId : Bytes}
    {operation : Operation} :
    Approves actionId (approvalMachine.eventAt service operation) ↔
      ∃ now action,
        operation = .approve now actionId ∧
          service.lookup actionId = some action ∧
          action.AwaitsDecision now := by
  constructor
  · rintro ⟨now, returned, shape⟩
    obtain ⟨isApprove, answered⟩ := Event.mk.inj shape
    subst isApprove
    simp only [approvalMachine, ApprovalService.approve,
      ApprovalService.settle_fst, Answer.action.injEq,
      Option.bind_eq_some_iff] at answered
    rcases answered with ⟨action, stored, accepted⟩
    have awaits : action.AwaitsDecision now := by
      by_contra refused
      simp [refused] at accepted
    exact ⟨now, action, rfl, stored, awaits⟩
  · rintro ⟨now, action, rfl, stored, awaits⟩
    refine ⟨now, action.withStatus .approved, ?_⟩
    simp [Machine.eventAt, approvalMachine, ApprovalService.approve,
      ApprovalService.settle_fst, stored, awaits]

/-- A take is answered with the action exactly when it is executable. -/
theorem executes_eventAt_iff
    {service : ApprovalService}
    {actionId : Bytes}
    {operation : Operation} :
    Executes actionId (approvalMachine.eventAt service operation) ↔
      ∃ now profile engine action,
        operation =
            .takeApprovedForExecution now actionId profile engine ∧
          service.lookup actionId = some action ∧
          action.Executable profile engine := by
  constructor
  · rintro ⟨now, profile, engine, returned, shape⟩
    obtain ⟨isTake, answered⟩ := Event.mk.inj shape
    subst isTake
    simp only [approvalMachine,
      ApprovalService.takeApprovedForExecution_fst,
      Answer.action.injEq, Option.bind_eq_some_iff] at answered
    rcases answered with ⟨action, stored, accepted⟩
    have executable : action.Executable profile engine := by
      by_contra refused
      simp [refused] at accepted
    exact ⟨now, profile, engine, action, rfl, stored, executable⟩
  · rintro ⟨now, profile, engine, action, rfl, stored, executable⟩
    refine ⟨now, profile, engine, action.withStatus .executed, ?_⟩
    simp [Machine.eventAt, approvalMachine,
      ApprovalService.takeApprovedForExecution_fst, stored, executable]

/-- A deadline or a refused decision never makes an action approved. -/
theorem settled_status_eq_approved_iff
    {now : TimePoint}
    {status : ActionStatus}
    {action : PendingAction} :
    (action.settled now status).status = .approved ↔
      (action.AwaitsDecision now ∧ status = .approved) ∨
        action.status = .approved := by
  unfold PendingAction.settled
  split
  · next awaits =>
      have notApproved : action.status ≠ .approved := by
        simp [awaits.1]
      simp [awaits, notApproved]
  · next refused =>
      simp [refused, ApprovalService.refresh_status_eq_approved_iff]

/-- An attempt to take leaves an action approved only for other clients. -/
theorem taken_status_eq_approved_iff
    {now : TimePoint}
    {profile : McpClientProfile}
    {engine : IPolicyEngine}
    {action : PendingAction} :
    (action.taken now profile engine).status = .approved ↔
      action.status = .approved ∧ action.clientId ≠ profile.id := by
  unfold PendingAction.taken
  split
  · next owned =>
      split
      · simp [owned]
      · simp [owned]
  · next notOwned =>
      rw [ApprovalService.refresh_status_eq_approved_iff]
      constructor
      · intro approved
        exact ⟨approved, fun owner => notOwned ⟨approved, owner⟩⟩
      · exact And.left

/-- When a stored action is approved after one more operation. -/
theorem effect_status_eq_approved_iff
    {service : ApprovalService}
    {action : PendingAction}
    (stored : service.lookup action.id = some action)
    (operation : Operation) :
    (operation.effect action).status = .approved ↔
      Approves action.id
          (approvalMachine.eventAt service operation) ∨
        (action.status = .approved ∧
          ¬ SpendsApproval action.id action.clientId operation) := by
  rw [approves_eventAt_iff]
  simp only [stored, Option.some.injEq]
  cases operation with
  | prepare | pendingActions =>
      simp [Operation.effect, SpendsApproval]
  | approve now target =>
      by_cases isTarget : action.id = target
      · subst target
        simp [Operation.effect, SpendsApproval,
          settled_status_eq_approved_iff]
      · simp [Operation.effect, SpendsApproval, isTarget,
          Ne.symm isTarget]
  | deny now target =>
      by_cases isTarget : action.id = target
      · simp [Operation.effect, SpendsApproval, isTarget,
          settled_status_eq_approved_iff]
      · simp [Operation.effect, SpendsApproval, isTarget]
  | takeApprovedForExecution now target profile engine =>
      by_cases isTarget : action.id = target
      · subst target
        simp [Operation.effect, SpendsApproval,
          taken_status_eq_approved_iff]
      · simp [Operation.effect, SpendsApproval, isTarget,
          Ne.symm isTarget]
  | lockdown =>
      by_cases outstanding : ApprovalService.outstanding action
      · simp [Operation.effect, SpendsApproval,
          PendingAction.lockedDown, outstanding]
      · have notApproved : action.status ≠ .approved := by
          simp [ApprovalService.outstanding] at outstanding
          exact outstanding.2
        simp [Operation.effect, SpendsApproval,
          PendingAction.lockedDown, outstanding, notApproved]

/--
What the store remembers of the history: the approved actions are those with an
outstanding approval, and no approval succeeded under a free id.
-/
def RemembersApprovals
    (service : ApprovalService)
    (history : List ApprovalEvent) : Prop :=
  (∀ {actionId action},
    service.lookup actionId = some action →
    (action.status = .approved ↔
      ApprovalOutstanding history actionId action.clientId)) ∧
  (∀ {actionId},
    service.lookup actionId = none →
    ∀ event ∈ history, ¬ Approves actionId event)

theorem remembersApprovals_step
    {service : ApprovalService}
    {history : List ApprovalEvent}
    (remembers : RemembersApprovals service history)
    (operation : Operation) :
    RemembersApprovals
      (approvalMachine.step service operation).1
      (history ++ [approvalMachine.eventAt service operation]) := by
  rcases remembers with ⟨storedCase, freeCase⟩
  constructor
  · intro actionId action found
    rw [approvalOutstanding_snoc]
    cases before : service.lookup actionId with
    | some previous =>
        rw [lookup_step_of_stored before, Option.some.injEq] at found
        have sameId := service.id_of_lookup before
        subst actionId
        have sameClient : action.clientId = previous.clientId := by
          obtain ⟨status, effectShape⟩ :=
            operation.exists_effect_eq_withStatus previous
          rw [← found, effectShape]
          rfl
        rw [← found, effect_status_eq_approved_iff before, found,
          sameClient, storedCase before]
        rfl
    | none =>
        rw [lookup_step_of_free before] at found
        obtain ⟨created, -⟩ := created_of_filter found
        have isPending := status_of_created? created
        have noApproval :
            ¬ Approves actionId
              (approvalMachine.eventAt service operation) := by
          rw [approves_eventAt_iff]
          rintro ⟨now, other, -, stored, -⟩
          rw [before] at stored
          cases stored
        have notOutstanding :
            ¬ ApprovalOutstanding history actionId action.clientId := by
          rintro ⟨earlier, approval, later, shape, approves, -⟩
          exact freeCase before approval (by simp [shape]) approves
        simp [isPending, noApproval, notOutstanding]
  · intro actionId free event member
    have freeBefore : service.lookup actionId = none := by
      cases before : service.lookup actionId with
      | none =>
          rfl
      | some previous =>
          rw [lookup_step_of_stored before] at free
          cases free
    rcases List.mem_append.mp member with inHistory | isLast
    · exact freeCase freeBefore event inHistory
    · rw [List.mem_singleton.mp isLast, approves_eventAt_iff]
      rintro ⟨now, other, -, stored, -⟩
      rw [freeBefore] at stored
      cases stored

/-- In every run, an action is approved exactly while its approval stands. -/
theorem status_eq_approved_iff_outstanding
    {operations : List Operation}
    {actionId : Bytes}
    {action : PendingAction}
    (stored :
      (approvalMachine.state operations).lookup actionId =
        some action) :
    action.status = .approved ↔
      ApprovalOutstanding
        (approvalMachine.history operations)
        actionId action.clientId := by
  have remembers :
      RemembersApprovals
        (approvalMachine.state operations)
        (approvalMachine.history operations) := by
    apply approvalMachine.invariant_of_step
      (fun _ => True)
      (fun _ service history =>
        RemembersApprovals service history)
    · exact fun _ => trivial
    · constructor
      · intro actionId action found
        simp [approvalMachine] at found
      · simp
    · intro earlier operation _ remembers
      exact remembersApprovals_step remembers operation
    · trivial
  exact remembers.1 stored

/-- The readings of a run have an upper bound, also above a given instant. -/
theorem exists_later_instant
    (operations : List Operation)
    (instant : TimePoint) :
    ∃ now, instant ≤ now ∧
      ∀ reading ∈ operations.filterMap Operation.reading?,
        reading ≤ now := by
  induction operations.filterMap Operation.reading? with
  | nil =>
      exact ⟨instant, Int.le_refl instant, by simp⟩
  | cons reading rest inductionHypothesis =>
      rcases inductionHypothesis with ⟨now, late, above⟩
      refine ⟨max reading now,
        Int.le_trans late (Int.le_max_right reading now), ?_⟩
      intro other member
      rcases List.mem_cons.mp member with isHead | inRest
      · rw [isHead]
        exact Int.le_max_left reading now
      · exact Int.le_trans (above other inRest)
          (Int.le_max_right reading now)

/-- A run may go on at any instant its readings have not passed. -/
theorem nondecreasingClock_snoc
    {operations : List Operation}
    {operation : Operation}
    {now : TimePoint}
    (clock : NondecreasingClock operations)
    (reading : operation.reading? = some now)
    (above :
      ∀ earlier ∈ operations.filterMap Operation.reading?,
        earlier ≤ now) :
    NondecreasingClock (operations ++ [operation]) := by
  unfold NondecreasingClock
  rw [List.filterMap_append, List.pairwise_append]
  refine ⟨clock, ?_, ?_⟩
  · simp [reading]
  · intro earlier member last lastMember
    have isNow : last = now := by
      simpa [reading] using lastMember
    rw [isNow]
    exact above earlier member

/-- The owner under a permissive profile may execute an approved action. -/
theorem executable_permissiveProfile
    {action : PendingAction}
    (approved : action.status = .approved) :
    action.Executable
      (permissiveProfile action.clientId action.invocation)
      policyEngine := by
  refine ⟨approved, rfl, ?_⟩
  simp [policyEngine, effect_evaluate_permissiveProfile]

/--
The deadline binds one action of a run: when the run goes on with an attempt to
take the action at or after its deadline, the attempt fails.
-/
def DeadlineBinds
    (operations : List Operation)
    (action : PendingAction) : Prop :=
  ∀ now profile engine,
    NondecreasingClock
      (operations ++
        [.takeApprovedForExecution now action.id profile engine]) →
    action.expiresAt ≤ now →
    ((approvalMachine.state operations).takeApprovedForExecution
      now action.id profile engine).1 = none

/--
Taking an action at or after its deadline fails for every client and policy
exactly when no approval of it is outstanding.  An action approved in time and
not yet spent stays executable forever.
-/
theorem deadlineBinds_iff
    {operations : List Operation}
    {actionId : Bytes}
    {action : PendingAction}
    (clock : NondecreasingClock operations)
    (stored :
      (approvalMachine.state operations).lookup actionId =
        some action) :
    DeadlineBinds operations action ↔
      ¬ ApprovalOutstanding
          (approvalMachine.history operations)
          actionId action.clientId := by
  have sameId := ApprovalService.id_of_lookup stored
  subst actionId
  rw [← status_eq_approved_iff_outstanding stored]
  constructor
  · intro binds approved
    obtain ⟨now, late, above⟩ :=
      exists_later_instant operations action.expiresAt
    have refused :=
      binds now
        (permissiveProfile action.clientId action.invocation)
        policyEngine
        (nondecreasingClock_snoc clock rfl above)
        late
    rw [ApprovalService.takeApprovedForExecution_fst, stored,
      Option.bind_some,
      if_pos (executable_permissiveProfile approved)] at refused
    cases refused
  · intro notApproved now profile engine _ _
    rw [ApprovalService.takeApprovedForExecution_fst, stored,
      Option.bind_some, if_neg]
    exact fun executable => notApproved executable.1

/-- Random bytes that are all zero. -/
def zeroRandom : RandomBytes :=
  some (Vector.replicate 32 0)

/-- The id rendered from them. -/
def zeroId : Bytes :=
  List.replicate 64 48

/-- A write the operator is asked about. -/
def writeInvocation : ToolInvocation where
  toolName := bytes "telegram_prepare_send_message"
  accountId := bytes "work"
  chatId := some 42
  isWrite := true

/-- The stored form of a prepared text. -/
def helloArguments : Json :=
  .ofMembers [(bytes "text", .string (bytes "hello"))]

/-- A client prepares a message at time 0 and the operator approves it. -/
def approvedRun : List Operation :=
  [.prepare 0 zeroRandom (bytes "writer") writeInvocation
      helloArguments 120,
    .approve ticksPerSecond zeroId]

/-- The action `approvedRun` leaves in the store. -/
def approvedAction : PendingAction where
  id := zeroId
  clientId := bytes "writer"
  invocation := writeInvocation
  arguments := helloArguments
  createdAt := 0
  expiresAt := 120 * ticksPerSecond
  status := .approved

/-- The client of `approvedRun` with permission to write to its chat. -/
def writerProfile : McpClientProfile where
  id := bytes "writer"
  allowedAccounts := [bytes "work"]
  allowedTools := [bytes "telegram_prepare_send_message"]
  allowedChats := [42]
  writePolicy := .requireApproval

theorem lookup_approvedRun :
    (approvalMachine.state approvedRun).lookup zeroId =
      some approvedAction :=
  rfl

theorem deadlineBinds_iff_approvedRun :
    DeadlineBinds approvedRun approvedAction ↔
      ¬ ApprovalOutstanding
          (approvalMachine.history approvedRun)
          zeroId approvedAction.clientId :=
  deadlineBinds_iff (by decide) lookup_approvedRun

/--
An hour after its two-minute deadline, the approved action is still handed out
for execution.
-/
theorem take_after_deadline :
    NondecreasingClock
        (approvedRun ++
          [.takeApprovedForExecution (3600 * ticksPerSecond) zeroId
            writerProfile policyEngine]) ∧
      ((approvalMachine.state approvedRun).lookup zeroId).any
        (isExpired (3600 * ticksPerSecond)) = true ∧
      ((approvalMachine.state approvedRun).takeApprovedForExecution
        (3600 * ticksPerSecond) zeroId writerProfile
        policyEngine).1.isSome = true := by
  decide +kernel

/-- Denying a pending action finishes it, whether or not it is too late. -/
theorem finished_settled_denied
    {action : PendingAction}
    (pending : action.status = .pending)
    (now : TimePoint) :
    (action.settled now .denied).Finished := by
  unfold PendingAction.settled
  split
  · exact PendingAction.finished_of_status_eq_denied rfl
  · next refused =>
      have late : action.expiresAt ≤ now := by
        by_contra early
        exact refused ⟨pending, Int.not_le.mp early⟩
      simp [PendingAction.refresh, pending, isExpired, late,
        PendingAction.Finished]

/-- A finished action is executed in no continuation of the run. -/
theorem not_executes_of_finished
    {service : ApprovalService}
    {actionId : Bytes}
    {action : PendingAction}
    (stored : service.lookup actionId = some action)
    (finished : action.Finished)
    {continuation : List Operation}
    {event : ApprovalEvent}
    (member :
      event ∈ approvalMachine.historyFrom service continuation) :
    ¬ Executes actionId event := by
  refine approvalMachine.historyFrom_of_step
    (fun current => current.lookup actionId = some action)
    (fun event => ¬ Executes actionId event)
    ?_ ?_ stored member
  · intro current operation found
    rw [lookup_step_of_stored found,
      Operation.effect_of_finished finished]
  · intro current operation found
    rw [executes_eventAt_iff]
    rintro ⟨now, profile, engine, other, -, otherFound, executable⟩
    rw [found, Option.some.injEq] at otherFound
    subst other
    exact finished.2 executable.1

/-- Denying leaves an approved action as it is. -/
theorem settled_denied_of_approved
    {action : PendingAction}
    (approved : action.status = .approved)
    (now : TimePoint) :
    action.settled now .denied = action := by
  have refused : ¬ action.AwaitsDecision now := by
    rintro ⟨pending, -⟩
    rw [approved] at pending
    cases pending
  rw [PendingAction.settled, if_neg refused,
    ApprovalService.refresh_of_approved approved]

/--
Denying a listed action revokes it: whatever follows, it is never handed out
for execution.
-/
def DenyRevokes
    (operations : List Operation)
    (now : TimePoint)
    (actionId : Bytes) : Prop :=
  ∀ continuation,
    NondecreasingClock
      (operations ++ .deny now actionId :: continuation) →
    ∀ event ∈
        approvalMachine.historyFrom
          (approvalMachine.state (operations ++ [.deny now actionId]))
          continuation,
      ¬ Executes actionId event

/--
The operator is offered `deny` for every listed action, pending or approved.
It revokes exactly the pending ones.
-/
theorem denyRevokes_iff
    {operations : List Operation}
    {now : TimePoint}
    {action : PendingAction}
    (clock :
      NondecreasingClock (operations ++ [.deny now action.id]))
    (listed :
      action ∈ (approvalMachine.state operations).pendingActions) :
    DenyRevokes operations now action.id ↔
      action.status = .pending := by
  obtain ⟨stored, isOutstanding⟩ :=
    (ApprovalService.mem_pendingActions_iff _).mp listed
  have denied :
      (approvalMachine.state
        (operations ++ [.deny now action.id])).lookup action.id =
          some (action.settled now .denied) := by
    rw [approvalMachine.state_snoc, lookup_step_of_stored stored]
    simp [Operation.effect]
  constructor
  · intro revokes
    by_contra notPending
    have approved : action.status = .approved := by
      simpa [ApprovalService.outstanding, notPending] using
        isOutstanding
    rw [settled_denied_of_approved approved] at denied
    -- The owner takes the action at the very instant of the denial.
    let profile :=
      permissiveProfile action.clientId action.invocation
    let take : Operation :=
      .takeApprovedForExecution now action.id profile policyEngine
    have continued :
        NondecreasingClock
          (operations ++ .deny now action.id :: [take]) := by
      rw [List.append_cons]
      refine nondecreasingClock_snoc clock rfl ?_
      intro earlier member
      unfold NondecreasingClock at clock
      rw [List.filterMap_append] at clock member
      rcases List.mem_append.mp member with before | isDeny
      · exact (List.pairwise_append.mp clock).2.2 earlier before now
          (by simp [Operation.reading?])
      · have isNow : earlier = now := by
          simpa [Operation.reading?] using isDeny
        exact Int.le_of_eq isNow
    refine revokes [take] continued _ List.mem_cons_self ?_
    change Executes action.id (approvalMachine.eventAt _ take)
    rw [executes_eventAt_iff]
    exact ⟨now, profile, policyEngine, action, rfl, denied,
      executable_permissiveProfile approved⟩
  · intro pending continuation _ event member
    exact not_executes_of_finished denied
      (finished_settled_denied pending now) member

/-- The action of `approvedRun` before the operator decides. -/
def preparedAction : PendingAction :=
  approvedAction.withStatus .pending

theorem denyRevokes_iff_prepared :
    DenyRevokes (approvedRun.take 1) 1 preparedAction.id ↔
      preparedAction.status = .pending :=
  denyRevokes_iff (by decide)
    ((ApprovalService.mem_pendingActions_iff _).mpr ⟨rfl, rfl⟩)

/--
An approved action is listed, the operator denies it, and its client still
executes it.
-/
theorem deny_listed_then_executed :
    approvedAction ∈
        (approvalMachine.state approvedRun).pendingActions ∧
      NondecreasingClock
        (approvedRun ++
          [.deny (2 * ticksPerSecond) approvedAction.id,
            .takeApprovedForExecution (3 * ticksPerSecond)
              approvedAction.id writerProfile policyEngine]) ∧
      ((approvalMachine.state
        (approvedRun ++
          [.deny (2 * ticksPerSecond) approvedAction.id])
        ).takeApprovedForExecution (3 * ticksPerSecond)
          approvedAction.id writerProfile
          policyEngine).1.isSome = true :=
  ⟨(ApprovalService.mem_pendingActions_iff _).mpr ⟨rfl, rfl⟩,
    by decide, by decide +kernel⟩

end TgGate
