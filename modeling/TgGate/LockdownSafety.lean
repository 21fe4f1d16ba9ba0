import TgGate.WriteSafety

namespace TgGate

open Library

/-!
# What a lockdown stops

A lockdown denies every outstanding action, and an action that exists by then
is finished for good.  It does not reach two other things: requests that have
already taken their action, and actions prepared afterwards.  Without these the
lockdown holds for the rest of the run.
-/

/--
While the status line shows the lockdown, no message goes out and no approval
succeeds.
-/
def LockdownHolds
    (engine : IPolicyEngine)
    (commands : List Command) : Prop :=
  ∀ {earlier command later},
    commands = earlier ++ command :: later →
    ((writePipeline engine).state
      earlier).desktop.lockdownActive = true →
    ((writePipeline engine).eventAt
        ((writePipeline engine).state earlier) command).output.calls =
      [] ∧
      ∀ now actionId,
        ¬ ApprovesAt now actionId
          ((writePipeline engine).eventAt
            ((writePipeline engine).state earlier) command)

/-- The id was free when some lockdown of the run began. -/
def FreeAtLockdown
    (engine : IPolicyEngine)
    (earlier : List Command)
    (actionId : Bytes) : Prop :=
  ∃ before after,
    earlier = before ++ .lockdown :: after ∧
      ((writePipeline engine).state before).approvals.lookup actionId =
        none

/--
What a step must respect for lockdowns to hold: a lockdown does not overtake a
request in progress, and an approval does not name an action that was prepared
after a lockdown and still awaits its decision.
-/
def RespectsLockdown
    (engine : IPolicyEngine)
    (earlier : List Command) : Command → Prop
  | .lockdown =>
      ((writePipeline engine).state earlier).executing = []
  | .approve now actionId =>
      ∀ action,
        ((writePipeline engine).state earlier).approvals.lookup
            actionId = some action →
        action.AwaitsDecision now →
        ¬ FreeAtLockdown engine earlier actionId
  | _ => True

/-- A lockdown finishes every stored action. -/
theorem finished_lockedDown (action : PendingAction) :
    action.lockedDown.Finished := by
  unfold PendingAction.lockedDown
  split
  · exact PendingAction.finished_of_status_eq_denied rfl
  · next notOutstanding =>
      simpa [ApprovalService.outstanding, PendingAction.Finished]
        using notOutstanding

/-- Only a lockdown changes what the status line shows. -/
theorem lockdownActive_step
    (engine : IPolicyEngine)
    (pipeline : WritePipeline)
    (command : Command) :
    ((writePipeline engine).step pipeline
        command).1.desktop.lockdownActive = true ↔
      pipeline.desktop.lockdownActive = true ∨ command = .lockdown := by
  cases command with
  | prepareSendMessage | approve | deny =>
      simp [writePipeline, WritePipeline.setService,
        DesktopUiState.approve, DesktopUiState.deny,
        DesktopUiState.setApprovals]
  | takeForExecution environment profile actionId =>
      simp only [writePipeline, reduceCtorEq, or_false]
      cases pipeline.desktop.service.takeForExecution engine environment
          profile actionId with
      | mk found service =>
          cases found <;> rfl
  | sendApproved environment index =>
      simp only [writePipeline, reduceCtorEq, or_false]
      cases pipeline.executing[index]? <;> rfl
  | lockdown =>
      simp [writePipeline, DesktopUiState.lockdown]

/-- The status line shows a lockdown from the first one on. -/
theorem lockdownActive_state_iff
    (engine : IPolicyEngine)
    (commands : List Command) :
    ((writePipeline engine).state
        commands).desktop.lockdownActive = true ↔
      .lockdown ∈ commands := by
  induction commands using List.reverseRecOn with
  | nil =>
      simp [writePipeline]
  | append_singleton commands command inductionHypothesis =>
      rw [Machine.state_snoc, lockdownActive_step, inductionHypothesis]
      simp [eq_comm]

/--
The state after a lockdown that is respected: no request is in progress, no
action is approved, and whatever was stored when it began is finished.
-/
structure LockedDown
    (base : ApprovalService)
    (pipeline : WritePipeline) : Prop where
  idle :
    pipeline.executing = []
  unapproved :
    ∀ {actionId action},
      pipeline.approvals.lookup actionId = some action →
      action.status ≠ .approved
  finished :
    ∀ {actionId},
      base.lookup actionId ≠ none →
      ∃ action,
        pipeline.approvals.lookup actionId = some action ∧
          action.Finished

/-- The step of a lockdown itself. -/
theorem lockedDown_lockdown
    {engine : IPolicyEngine}
    {pipeline : WritePipeline}
    (idle : pipeline.executing = []) :
    LockedDown pipeline.approvals
      ((writePipeline engine).step pipeline .lockdown).1 where
  idle := idle
  unapproved := by
    intro actionId action found
    cases before : pipeline.approvals.lookup actionId with
    | none =>
        rw [pipeline_lookup_of_free before] at found
        simp [Command.created?, Command.operation?,
          Operation.created?] at found
    | some previous =>
        rw [pipeline_lookup_of_stored before, Option.some.injEq] at found
        rw [← found]
        exact (finished_lockedDown previous).2
  finished := by
    intro actionId stored
    obtain ⟨previous, before⟩ := Option.ne_none_iff_exists'.mp stored
    exact ⟨_, pipeline_lookup_of_stored before .lockdown,
      finished_lockedDown previous⟩

/-- One respectful step after a lockdown. -/
theorem LockedDown.step
    {engine : IPolicyEngine}
    {base : ApprovalService}
    {pipeline : WritePipeline}
    {command : Command}
    (locked : LockedDown base pipeline)
    (respects :
      ∀ {now actionId action},
        command = .approve now actionId →
        pipeline.approvals.lookup actionId = some action →
        action.AwaitsDecision now →
        base.lookup actionId ≠ none) :
    LockedDown base
      ((writePipeline engine).step pipeline command).1 where
  idle := by
    cases stepShape engine pipeline command with
    | quiet executing =>
        rw [executing, locked.idle]
    | takes _ stored executable =>
        exact absurd executable.1 (locked.unapproved stored)
    | sends _ found =>
        simp [locked.idle] at found
  unapproved := by
    intro actionId action found approved
    cases before : pipeline.approvals.lookup actionId with
    | none =>
        rw [pipeline_lookup_of_free before] at found
        obtain ⟨created, -⟩ := created_of_filter found
        obtain ⟨operation, -, operationCreated⟩ :=
          Option.bind_eq_some_iff.mp created
        rw [status_of_created? operationCreated] at approved
        cases approved
    | some previous =>
        rw [pipeline_lookup_of_stored before, Option.some.injEq] at found
        rw [← found] at approved
        rcases Command.approved_of_effect approved with
          ⟨now, isApprove, awaits⟩ | ⟨already, -⟩
        · have sameId := ApprovalService.id_of_lookup before
          subst actionId
          obtain ⟨other, otherFound, finished⟩ :=
            locked.finished (respects isApprove before awaits)
          rw [before, Option.some.injEq] at otherFound
          rw [← otherFound] at finished
          exact finished.1 awaits.1
        · exact locked.unapproved before already
  finished := by
    intro actionId stored
    obtain ⟨action, found, finished⟩ := locked.finished stored
    refine ⟨action, ?_, finished⟩
    rw [pipeline_lookup_of_stored found,
      Command.effect_of_finished finished]

/-- The state stays locked down through every respectful continuation. -/
theorem lockedDown_state
    {engine : IPolicyEngine}
    {commands : List Command}
    (respects :
      ∀ {earlier command later},
        commands = earlier ++ command :: later →
        RespectsLockdown engine earlier command)
    {before after later : List Command}
    (shape : commands = before ++ .lockdown :: after ++ later) :
    LockedDown
      ((writePipeline engine).state before).approvals
      ((writePipeline engine).state
        (before ++ .lockdown :: after)) := by
  induction after using List.reverseRecOn generalizing later with
  | nil =>
      have idle := respects (by rw [shape, List.append_assoc]; rfl)
      rw [Machine.state_snoc]
      exact lockedDown_lockdown idle
  | append_singleton after command inductionHypothesis =>
      have here :
          commands =
            (before ++ .lockdown :: after) ++ command :: later := by
        simp [shape]
      rw [← List.cons_append, ← List.append_assoc, Machine.state_snoc]
      refine (inductionHypothesis here).step ?_
      rintro now actionId action rfl stored awaits isFree
      exact respects here action stored awaits
        ⟨before, after, rfl, isFree⟩

/--
In every run whose steps respect the lockdown, no message goes out and no
approval succeeds after it.
-/
theorem lockdownHolds_of_respectsLockdown
    {engine : IPolicyEngine}
    {commands : List Command}
    (respects :
      ∀ {earlier command later},
        commands = earlier ++ command :: later →
        RespectsLockdown engine earlier command) :
    LockdownHolds engine commands := by
  intro earlier command later shape active
  obtain ⟨before, after, rfl⟩ :=
    List.mem_iff_append.mp
      ((lockdownActive_state_iff engine earlier).mp active)
  have locked := lockedDown_state respects shape
  refine ⟨?_, ?_⟩
  · cases stepShape engine
        ((writePipeline engine).state (before ++ .lockdown :: after))
        command with
    | quiet _ _ _ notSent =>
        rw [Machine.eventAt]
        cases reply :
            ((writePipeline engine).step
              ((writePipeline engine).state
                (before ++ .lockdown :: after)) command).2 with
        | sent execution calls outcome =>
            exact absurd reply (notSent execution calls outcome)
        | response | taken | decided | done | idle =>
            rfl
    | takes _ stored executable =>
        exact absurd executable.1 (locked.unapproved stored)
    | sends _ found =>
        simp [locked.idle] at found
  · intro now actionId approves
    obtain ⟨rfl, action, stored, awaits⟩ :=
      approvesAt_eventAt_iff.mp approves
    refine respects shape action stored awaits
      ⟨before, after, rfl, ?_⟩
    by_contra storedBefore
    obtain ⟨other, otherFound, finished⟩ :=
      locked.finished storedBefore
    rw [stored, Option.some.injEq] at otherFound
    rw [← otherFound] at finished
    exact finished.1 awaits.1

/-- A client prepares a message and the operator approves it. -/
def lockedRun : List Command :=
  takenRun.take 2 ++ [.lockdown, .approve (3 * ticksPerSecond) zeroId]

theorem lockdownHolds_lockedRun :
    LockdownHolds policyEngine lockedRun := by
  refine lockdownHolds_of_respectsLockdown ?_
  intro earlier command later shape
  rcases earlier with _ | ⟨_, _ | ⟨_, _ | ⟨_, _ | ⟨_, rest⟩⟩⟩⟩
  · cases shape
    trivial
  · cases shape
    rintro action stored awaits ⟨before, after, split, -⟩
    rcases before with _ | ⟨_, _ | ⟨_, _⟩⟩ <;> cases split
  · cases shape
    rfl
  · cases shape
    intro action stored awaits _
    cases stored
    exact absurd awaits.1 (by decide)
  · simp [lockedRun, takenRun] at shape

/--
Both ways around a lockdown: a request that has taken its action still sends it
afterwards, and an action prepared afterwards can be approved.
-/
theorem writes_after_lockdown :
    ((writePipeline policyEngine).state
        (takenRun ++ [.lockdown])).desktop.serverStatus [] =
        DesktopUiState.lockdownStatus ∧
      ((writePipeline policyEngine).eventAt
        ((writePipeline policyEngine).state (takenRun ++ [.lockdown]))
        (.sendApproved {} 0)).output.calls =
          [.sendMessage (bytes "work") 42 (bytes "hello")] ∧
      ((writePipeline policyEngine).state
        (.lockdown :: takenRun.take 1)).desktop.serverStatus [] =
        DesktopUiState.lockdownStatus ∧
      ApprovesAt ticksPerSecond zeroId
        ((writePipeline policyEngine).eventAt
          ((writePipeline policyEngine).state
            (.lockdown :: takenRun.take 1))
          (.approve ticksPerSecond zeroId)) := by
  refine ⟨rfl, by decide +kernel, rfl, ?_⟩
  exact approvesAt_eventAt_iff.mpr
    ⟨rfl, _, rfl, by decide, by decide⟩

end TgGate
