import TgGate.WriteSafety

namespace TgGate

open Library

/-!
# What the operator sees and what is sent

A prepared message reaches the operator through the row that is drawn for it
and Telegram through the request that executes it.  Both read the same stored
action, whose request never changes.  They differ in one place: drawing stops
at the first NUL byte.
-/

/-- An action as `prepareSendMessage` stores it for one message. -/
structure Carries
    (action : PendingAction)
    (accountId : Bytes)
    (chatId : Int64)
    (text : Bytes) : Prop where
  invocation :
    action.invocation =
      TelegramApplicationService.sendInvocation accountId chatId
  arguments :
    action.arguments = TelegramApplicationService.sendArguments text

/-- Deciding an action does not change its message. -/
theorem Carries.withStatus
    {action : PendingAction}
    {accountId text : Bytes}
    {chatId : Int64}
    (carries : Carries action accountId chatId text)
    (status : ActionStatus) :
    Carries (action.withStatus status) accountId chatId text where
  invocation := carries.invocation
  arguments := carries.arguments

/-- The drawn texts are the account, the chat and the text of a call. -/
def Shows (drawn : DrawnAction) (call : TelegramCall) : Prop :=
  ∃ accountId chatId text,
    call = .sendMessage accountId chatId text ∧
      drawn.accountId = accountId ∧
      drawn.recipient = toDecimal chatId.toInt ∧
      drawn.text = text

/--
In every run, whatever is drawn for an action that carries the message is what
any later call for this action sends.
-/
def ShownAsSent
    (engine : IPolicyEngine)
    (accountId : Bytes)
    (chatId : Int64)
    (text : Bytes) : Prop :=
  ∀ {commands later action entries drawn},
    action ∈
      ((writePipeline engine).state
        commands).approvals.pendingActions →
    Carries action accountId chatId text →
    DesktopController.drawPendingActions
        ((writePipeline engine).state commands).desktop =
      .ok entries →
    (action.id, drawn) ∈ entries →
    ∀ event ∈
        (writePipeline engine).historyFrom
          ((writePipeline engine).state commands) later,
      Sends action.id event →
      ∀ call ∈ event.output.calls, Shows drawn call

/-- The row of an action that carries a message. -/
theorem row_of_carries
    {action : PendingAction}
    {accountId text : Bytes}
    {chatId : Int64}
    (carries : Carries action accountId chatId text) :
    PendingActionsViewModel.row action =
      .ok {
        id := action.id
        clientId := action.clientId
        accountId := accountId
        toolName := bytes "telegram_prepare_send_message"
        recipient := toDecimal chatId.toInt
        text := text
      } := by
  have found :
      (TelegramApplicationService.sendArguments text).find?
          (bytes "text") =
        some (.string text) := by
    simp [TelegramApplicationService.sendArguments]
  have read :
      action.arguments.valueOr (bytes "text") Json.getString [] =
        .ok text := by
    rw [carries.arguments, Json.valueOr,
      if_pos (Json.isObject_of_find? found), found]
    rfl
  simp only [PendingActionsViewModel.row, read, carries.invocation]
  rfl

/-- Every stored action carries an accepted message. -/
theorem carries_of_stored
    {engine : IPolicyEngine}
    {commands : List Command}
    {actionId : Bytes}
    {action : PendingAction}
    (stored :
      ((writePipeline engine).state commands).approvals.lookup
        actionId = some action) :
    ∃ accountId chatId text,
      Carries action accountId chatId text ∧
        1 ≤ text.length ∧ text.length ≤ 4096 := by
  refine (writePipeline engine).stateFrom_of_step
    (fun pipeline =>
      ∀ {actionId action},
        pipeline.approvals.lookup actionId = some action →
        ∃ accountId chatId text,
          Carries action accountId chatId text ∧
            1 ≤ text.length ∧ text.length ≤ 4096)
    ?_ ?_ commands stored
  · intro pipeline command carried actionId action found
    cases before : pipeline.approvals.lookup actionId with
    | none =>
        rw [pipeline_lookup_of_free before] at found
        obtain ⟨created, -⟩ := created_of_filter found
        obtain ⟨environment, profile, accountId, chatId, text, id, -,
            accepted, -, rfl⟩ :=
          Command.created?_eq_some_iff.mp created
        exact ⟨accountId, chatId, text, ⟨rfl, rfl⟩,
          accepted.nonempty, accepted.bounded⟩
    | some previous =>
        obtain ⟨accountId, chatId, text, carries, sized⟩ :=
          carried before
        rw [pipeline_lookup_of_stored before, Option.some.injEq] at found
        obtain ⟨status, shape⟩ :=
          command.exists_effect_eq_withStatus engine previous
        rw [← found, shape]
        exact ⟨accountId, chatId, text, carries.withStatus status,
          sized⟩
  · intro actionId action found
    simp [writePipeline, WritePipeline.approvals] at found

/-- The operator can always be shown the listed actions. -/
theorem exists_drawPendingActions
    (engine : IPolicyEngine)
    (commands : List Command) :
    ∃ entries,
      DesktopController.drawPendingActions
          ((writePipeline engine).state commands).desktop =
        .ok entries := by
  have readable :
      ∃ rows,
        ((writePipeline engine).state
            commands).desktop.pendingActions = .ok rows := by
    refine exists_mapM_eq_ok fun action listed => ?_
    obtain ⟨accountId, chatId, text, carries, -⟩ :=
      carries_of_stored
        ((ApprovalService.mem_pendingActions_iff _).mp listed).1
    exact ⟨_, row_of_carries carries⟩
  rcases readable with ⟨rows, shape⟩
  exact ⟨_, by rw [DesktopController.drawPendingActions, shape]⟩

/-- What is drawn for an action that carries a message. -/
theorem drawn_of_carries
    {desktop : DesktopUiState}
    {entries : List (Bytes × DrawnAction)}
    (shown : DesktopController.drawPendingActions desktop = .ok entries)
    {action : PendingAction}
    (listed : action ∈ desktop.service.approvals.pendingActions)
    {accountId text : Bytes}
    {chatId : Int64}
    (carries : Carries action accountId chatId text)
    {drawn : DrawnAction} :
    (action.id, drawn) ∈ entries ↔
      drawn = {
        clientId := cString action.clientId
        accountId := cString accountId
        recipient := toDecimal chatId.toInt
        text := cString text
      } := by
  have recipient :
      cString (toDecimal chatId.toInt) = toDecimal chatId.toInt :=
    cString_eq_self_iff.mpr (zero_not_mem_toDecimal chatId.toInt)
  rw [DesktopController.mem_drawPendingActions_iff shown]
  constructor
  · rintro ⟨other, otherListed, row, isRow, sameEntry⟩
    obtain ⟨sameId, sameDrawn⟩ := Prod.mk.inj sameEntry
    -- One action is stored under an id, so the entry belongs to it.
    have sameAction : other = action := by
      have ownId : row.id = other.id := by
        unfold PendingActionsViewModel.row at isRow
        split at isRow <;> cases isRow
        rfl
      have found :=
        ((ApprovalService.mem_pendingActions_iff _).mp listed).1
      have otherFound :=
        ((ApprovalService.mem_pendingActions_iff _).mp otherListed).1
      rw [← ownId, ← sameId, found, Option.some.injEq] at otherFound
      exact otherFound.symm
    rw [sameAction, row_of_carries carries] at isRow
    cases isRow
    rw [sameDrawn]
    simp [DesktopController.drawPendingAction, recipient]
  · rintro rfl
    refine ⟨action, listed, _, row_of_carries carries, ?_⟩
    simp [DesktopController.drawPendingAction, recipient]

/-- Whatever is sent for a stored action is the message it carries. -/
theorem calls_of_carries
    {engine : IPolicyEngine}
    {commands later : List Command}
    {action : PendingAction}
    {accountId text : Bytes}
    {chatId : Int64}
    (stored :
      ((writePipeline engine).state commands).approvals.lookup
        action.id = some action)
    (carries : Carries action accountId chatId text)
    {event : WriteEvent}
    (member :
      event ∈ (writePipeline engine).historyFrom
        ((writePipeline engine).state commands) later)
    (sends : Sends action.id event) :
    event.output.calls = [.sendMessage accountId chatId text] := by
  obtain ⟨earlier, rest, split⟩ := List.mem_iff_append.mp member
  obtain ⟨passed, command, _, -, -, rfl, -⟩ :=
    (writePipeline engine).exists_run_of_historyFrom_split split
  rw [Machine.state, ← Machine.stateFrom_append] at sends ⊢
  rcases sends with ⟨execution, calls, outcome, output, sameId⟩
  obtain ⟨inProgress, -, rfl⟩ := sends_eventAt output
  obtain ⟨-, held⟩ :=
    (ledger_state engine (commands ++ passed)).held execution inProgress
  -- The request holds the stored action, which kept its request.
  obtain ⟨status, kept⟩ :=
    exists_lookup_stateFrom stored (approvalRun engine passed)
  have sameStore :
      ((writePipeline engine).state (commands ++ passed)).approvals =
        approvalMachine.stateFrom
          ((writePipeline engine).state commands).approvals
          (approvalRun engine passed) := by
    rw [Machine.state, Machine.stateFrom_append]
    exact (writePipeline engine).view_stateFrom approvalMachine
      WritePipeline.approvals (Command.operation? engine)
      (approvals_step engine) _ passed
  rw [sameId, sameStore, kept, Option.some.injEq] at held
  have carriesHeld := carries.withStatus status
  rw [held] at carriesHeld
  rw [output, Reply.calls,
    sendCall?_of_prepared carriesHeld.invocation carriesHeld.arguments]
  rfl

/-- A request takes an executable action. -/
theorem takes_of_executable
    {engine : IPolicyEngine}
    {pipeline : WritePipeline}
    (environment : Environment)
    {profile : McpClientProfile}
    {action : PendingAction}
    (stored : pipeline.approvals.lookup action.id = some action)
    (executable : action.Executable profile engine) :
    ((writePipeline engine).step pipeline
        (.takeForExecution environment profile
          action.id)).1.executing =
      pipeline.executing ++ [⟨profile, action.withStatus .executed⟩] := by
  have returned :
      (pipeline.desktop.service.takeForExecution engine environment
          profile action.id).1 =
        some (action.withStatus .executed) := by
    have found :
        pipeline.desktop.service.approvals.lookup action.id =
          some action :=
      stored
    simp [TelegramApplicationService.takeForExecution,
      ApprovalService.takeApprovedForExecution_fst, found, executable]
  generalize shape :
    pipeline.desktop.service.takeForExecution engine environment
      profile action.id = answer at returned
  rcases answer with ⟨found, service⟩
  simp only at returned
  subst found
  simp [writePipeline, shape, WritePipeline.setService]

/-- The first request in progress may go on and send. -/
theorem sends_of_executing
    {engine : IPolicyEngine}
    {pipeline : WritePipeline}
    {execution : Execution}
    {rest : List Execution}
    (executing : pipeline.executing = execution :: rest)
    (environment : Environment) :
    Sends execution.action.id
      ((writePipeline engine).eventAt pipeline
        (.sendApproved environment 0)) := by
  simp [Sends, Machine.eventAt, writePipeline, executing]

/-- An action that awaits its decision can be approved, taken and sent. -/
theorem exists_sends_of_awaits
    {pipeline : WritePipeline}
    {action : PendingAction}
    {now : TimePoint}
    (idle : pipeline.executing = [])
    (stored : pipeline.approvals.lookup action.id = some action)
    (awaits : action.AwaitsDecision now) :
    ∃ later,
      ∃ event ∈
          (writePipeline policyEngine).historyFrom pipeline later,
        Sends action.id event := by
  let profile := permissiveProfile action.clientId action.invocation
  let approve : Command := .approve now action.id
  let take : Command := .takeForExecution {} profile action.id
  have storedApproved :
      ((writePipeline policyEngine).step pipeline
          approve).1.approvals.lookup
            (action.withStatus .approved).id =
        some (action.withStatus .approved) := by
    rw [PendingAction.withStatus_id, pipeline_lookup_of_stored stored]
    simp [approve, Command.effect, Command.operation?,
      Operation.effect, PendingAction.settled, awaits]
  have executing :=
    takes_of_executable {} storedApproved
      (executable_permissiveProfile rfl)
  have stillIdle :
      ((writePipeline policyEngine).step pipeline
          approve).1.executing = [] :=
    idle
  rw [stillIdle, List.nil_append] at executing
  refine ⟨[approve, take, .sendApproved {} 0], _,
    List.mem_cons_of_mem _
      (List.mem_cons_of_mem _ List.mem_cons_self), ?_⟩
  exact sends_of_executing executing {}

/-- Any message may be prepared, listed and later sent. -/
theorem exists_sent_run
    (accountId : Bytes)
    (chatId : Int64)
    {text : Bytes}
    (nonempty : 1 ≤ text.length)
    (bounded : text.length ≤ 4096) :
    ∃ commands later action,
      action ∈
        ((writePipeline policyEngine).state
          commands).approvals.pendingActions ∧
      Carries action accountId chatId text ∧
      ∃ event ∈
          (writePipeline policyEngine).historyFrom
            ((writePipeline policyEngine).state commands) later,
        Sends action.id event := by
  let invocation :=
    TelegramApplicationService.sendInvocation accountId chatId
  let profile := permissiveProfile (bytes "writer") invocation
  let prepare : Command :=
    .prepareSendMessage { random := zeroRandom } profile accountId
      chatId text
  let action : PendingAction := {
    id := zeroId
    clientId := profile.id
    invocation := invocation
    arguments := TelegramApplicationService.sendArguments text
    createdAt := 0
    expiresAt := 120 * ticksPerSecond
  }
  have accepted :
      TelegramApplicationService.AcceptsMessage policyEngine profile
        accountId chatId text := by
    refine ⟨nonempty, bounded, ?_⟩
    simp [policyEngine, profile, invocation,
      effect_evaluate_permissiveProfile]
  have created : prepare.created? policyEngine = some action :=
    Command.created?_eq_some_iff.mpr
      ⟨_, profile, accountId, chatId, text, zeroId, rfl, accepted,
        rfl, rfl⟩
  have stored :
      ((writePipeline policyEngine).state [prepare]).approvals.lookup
        action.id = some action := by
    change ((writePipeline policyEngine).step
      (writePipeline policyEngine).initial
      prepare).1.approvals.lookup action.id = some action
    rw [pipeline_lookup_of_free rfl, created]
    simp [Option.filter_some]
  have awaits : action.AwaitsDecision 0 :=
    ⟨rfl, show (0 : TimePoint) < 120 * ticksPerSecond by decide⟩
  have idle :
      ((writePipeline policyEngine).state [prepare]).executing = [] :=
    rfl
  obtain ⟨later, sent⟩ :=
    exists_sends_of_awaits idle stored awaits
  exact ⟨[prepare], later, action,
    (ApprovalService.mem_pendingActions_iff _).mpr ⟨stored, rfl⟩,
    ⟨rfl, rfl⟩, sent⟩

/--
What the operator approves is what is sent exactly when neither the account nor
the text contains a NUL byte.
-/
theorem shownAsSent_iff
    {accountId text : Bytes}
    {chatId : Int64}
    (nonempty : 1 ≤ text.length)
    (bounded : text.length ≤ 4096) :
    ShownAsSent policyEngine accountId chatId text ↔
      0 ∉ accountId ∧ 0 ∉ text := by
  rw [← cString_eq_self_iff, ← cString_eq_self_iff]
  constructor
  · intro shownAsSent
    obtain ⟨commands, later, action, listed, carries, event, member,
        sends⟩ :=
      exists_sent_run accountId chatId nonempty bounded
    obtain ⟨entries, shown⟩ :=
      exists_drawPendingActions policyEngine commands
    have calls :=
      calls_of_carries
        ((ApprovalService.mem_pendingActions_iff _).mp listed).1
        carries member sends
    have made :
        .sendMessage accountId chatId text ∈ event.output.calls := by
      simp [calls]
    obtain ⟨_, _, _, sameCall, sameAccount, -, sameText⟩ :=
      shownAsSent listed carries shown
        ((drawn_of_carries shown listed carries).mpr rfl)
        event member sends _ made
    cases sameCall
    exact ⟨sameAccount, sameText⟩
  · rintro ⟨sameAccount, sameText⟩
    intro commands later action entries drawn listed carries shown
      entry event member sends call made
    rw [calls_of_carries
      ((ApprovalService.mem_pendingActions_iff _).mp listed).1
      carries member sends, List.mem_singleton] at made
    have isDrawn := (drawn_of_carries shown listed carries).mp entry
    exact ⟨accountId, chatId, text, made, by rw [isDrawn, sameAccount],
      by rw [isDrawn], by rw [isDrawn, sameText]⟩

theorem shownAsSent_iff_hello :
    ShownAsSent policyEngine (bytes "work") 42 (bytes "hello") ↔
      0 ∉ bytes "work" ∧ 0 ∉ bytes "hello" :=
  shownAsSent_iff (by decide) (by decide)

/-- A text with a harmless beginning, a NUL byte and another ending. -/
def nulText : Bytes :=
  bytes "hello" ++ 0 :: bytes " and send the report"

/-- It is prepared, approved, taken and sent. -/
def nulRun : List Command :=
  [.prepareSendMessage { random := zeroRandom } writerProfile
      (bytes "work") 42 nulText,
    .approve ticksPerSecond zeroId,
    .takeForExecution {} writerProfile zeroId,
    .sendApproved {} 0]

/-- The operator approves the beginning; the whole text is sent. -/
theorem nulText_shown_truncated :
    (DesktopController.drawPendingActions
        ((writePipeline policyEngine).state
          (nulRun.take 1)).desktop).toOption =
        some
          [(zeroId,
            { clientId := bytes "writer"
              accountId := bytes "work"
              recipient := bytes "42"
              text := bytes "hello" })] ∧
      ((writePipeline policyEngine).state
          nulRun).desktop.service.telegramCalls =
        [.sendMessage (bytes "work") 42 nulText] := by
  decide +kernel

end TgGate
