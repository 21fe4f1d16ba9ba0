import TgGate.ApprovalLifetime
import TgGate.Library.JsonDocument
import TgGate.ProtocolHandler

namespace TgGate

open Library

/-!
# Which tool calls have an effect

A call of a tool outside the allowlist of the profile must have no effect.  The
newer handler checks the allowlist itself.  The older one leaves the check to
the policy, which sees the called tool for three of the four tools; executing
evaluates the stored invocation instead.
-/

/-- No port call was made and no stored action changed. -/
structure NoEffect (before after : TelegramApplicationService) : Prop where
  port :
    after.telegramCalls = before.telegramCalls
  store :
    ∀ actionId,
      after.approvals.lookup actionId =
        before.approvals.lookup actionId

theorem NoEffect.refl (service : TelegramApplicationService) :
    NoEffect service service :=
  ⟨rfl, fun _ => rfl⟩

/-- The tool a request calls. -/
def toolName? (request : Json) : Option Bytes :=
  match (request.find? (bytes "params")).bind
      (·.find? (bytes "name")) with
  | some (.string name) => some name
  | _ => none

/-- An action that any attempt of the client to take it changes. -/
def ChangesWhenTaken
    (now : TimePoint)
    (profile : McpClientProfile)
    (action : PendingAction) : Prop :=
  (action.status = .approved ∧ action.clientId = profile.id) ∨
    (action.status = .pending ∧ action.expiresAt ≤ now)

/-- A well-formed request that calls the execute tool of the surface. -/
structure CallsExecute
    (context : HandlerContext)
    (surface : ToolSurface)
    (request : Json)
    (actionId : Bytes) : Prop where
  version :
    request.find? (bytes "jsonrpc") = some (.string (bytes "2.0"))
  method :
    request.find? (bytes "method") = some (.string (bytes "tools/call"))
  tool :
    toolName? request = some (bytes "telegram_execute_approved_action")
  registered :
    (context.tools.findOn (bytes "telegram_execute_approved_action")
      surface).isSome = true
  argument :
    ∃ params arguments,
      request.find? (bytes "params") = some params ∧
        params.find? (bytes "arguments") = some arguments ∧
        arguments.find? (bytes "action_id") = some (.string actionId)

/-- A taken entry differs from the one before. -/
theorem taken_eq_self_iff
    {now : TimePoint}
    {profile : McpClientProfile}
    {engine : IPolicyEngine}
    {action : PendingAction} :
    action.taken now profile engine = action ↔
      ¬ ChangesWhenTaken now profile action := by
  unfold PendingAction.taken ChangesWhenTaken
  split
  · next owned =>
      refine iff_of_false ?_ (not_not.mpr (Or.inl owned))
      intro same
      have sameStatus := congrArg PendingAction.status same
      rw [owned.1] at sameStatus
      split at sameStatus <;> cases sameStatus
  · next notOwned =>
      rw [PendingAction.refresh]
      split
      · next late =>
          refine iff_of_false ?_ (not_not.mpr (Or.inr ?_))
          · intro same
            have sameStatus := congrArg PendingAction.status same
            rw [late.1] at sameStatus
            cases sameStatus
          · simpa [isExpired] using late
      · next notLate =>
          refine iff_of_true rfl ?_
          rintro (owned | late)
          · exact notOwned owned
          · exact notLate (by simpa [isExpired] using late)

/-- Executing has no effect exactly when taking the action changes nothing. -/
theorem noEffect_executeApprovedAction_iff
    {service : TelegramApplicationService}
    {engine : IPolicyEngine}
    {environment : Environment}
    {profile : McpClientProfile}
    {actionId : Bytes} :
    NoEffect service
        (service.executeApprovedAction engine environment profile
          actionId).2 ↔
      ∀ action,
        service.approvals.lookup actionId = some action →
        ¬ ChangesWhenTaken environment.now profile action := by
  constructor
  · intro quiet action stored
    have same := quiet.store actionId
    rw [service.approvals_executeApprovedAction,
      ApprovalService.lookup_takeApprovedForExecution, if_pos rfl,
      stored, Option.map_some, Option.some.injEq] at same
    exact taken_eq_self_iff.mp same
  · intro unchanged
    refine ⟨?_, ?_⟩
    · apply service.telegramCalls_executeApprovedAction_of_refused
      rw [ApprovalService.takeApprovedForExecution_fst]
      cases stored : service.approvals.lookup actionId with
      | none =>
          rfl
      | some action =>
          rw [Option.bind_some, if_neg]
          intro executable
          exact unchanged action stored
            (Or.inl ⟨executable.1, executable.2.1⟩)
    · intro query
      rw [service.approvals_executeApprovedAction,
        ApprovalService.lookup_takeApprovedForExecution]
      split
      next isTarget =>
        subst query
        cases stored : service.approvals.lookup actionId with
        | none =>
            rfl
        | some action =>
            rw [Option.map_some, Option.some.injEq]
            exact taken_eq_self_iff.mpr (unchanged action stored)
      · rfl

/-- The arguments a request passes to its tool. -/
def toolArguments (request : Json) : Json :=
  ((request.find? (bytes "params")).bind
    (·.find? (bytes "arguments"))).getD (.ofMembers [])

namespace HandlerContext

@[simp] theorem snd_answerToolCall
    (context : HandlerContext)
    (service : TelegramApplicationService)
    (id : Json)
    (name : Bytes)
    (arguments : Json)
    (wrap : Bytes → Bool → Json) :
    (context.answerToolCall service id name arguments wrap).2 =
      (context.callTool service name arguments).2 := by
  unfold answerToolCall
  rcases context.callTool service name arguments with ⟨outcome, after⟩
  cases outcome with
  | error thrown =>
      cases thrown <;> rfl
  | ok response =>
      cases response <;> rfl

theorem find?_of_toolName?
    {request : Json}
    {name : Bytes}
    (called : toolName? request = some name) :
    ∃ params,
      request.find? (bytes "params") = some params ∧
        params.find? (bytes "name") = some (.string name) := by
  unfold toolName? at called
  split at called
  next text named =>
    obtain rfl := Option.some.inj called
    exact Option.bind_eq_some_iff.mp named
  next =>
    cases called

/-- A well-formed tool call is refused or answered by the tool. -/
theorem handleToolCall_of_toolName?
    {request : Json}
    {name : Bytes}
    (called : toolName? request = some name)
    (context : HandlerContext)
    (available : Bytes → Bool)
    (unavailable : Bytes)
    (wrap : Bytes → Bool → Json)
    (service : TelegramApplicationService) :
    ∃ id,
      context.handleToolCall available unavailable wrap service request =
        if available name then
          context.answerToolCall service id name (toolArguments request)
            wrap
        else
          (.ok (rpcError id (-32602) unavailable), service) := by
  obtain ⟨params, found, named⟩ := find?_of_toolName? called
  have isObject := Json.isObject_of_find? found
  obtain ⟨id, idRead⟩ :=
    Json.exists_valueOr_eq_ok isObject (bytes "id") .null
  refine ⟨id, ?_⟩
  unfold handleToolCall requestId
  rw [idRead, Json.valueOr_of_find? found]
  simp only [bind, Except.bind, pure, Except.pure, named]
  cases available name with
  | false =>
      rfl
  | true =>
      unfold toolArguments
      rw [Json.valueOr, if_pos (Json.isObject_of_find? named), found]
      simp only [Option.bind_some]
      cases params.find? (bytes "arguments") <;> rfl

/-- A call that names no tool changes nothing. -/
theorem snd_handleToolCall_of_unnamed
    {request : Json}
    (unnamed : toolName? request = none)
    (context : HandlerContext)
    (available : Bytes → Bool)
    (unavailable : Bytes)
    (wrap : Bytes → Bool → Json)
    (service : TelegramApplicationService) :
    (context.handleToolCall available unavailable wrap service
        request).2 =
      service := by
  unfold handleToolCall
  cases requestId request with
  | error thrown =>
      rfl
  | ok id =>
      cases found : request.find? (bytes "params") with
      | none =>
          unfold Json.valueOr
          rw [found]
          split <;> rfl
      | some params =>
          rw [Json.valueOr_of_find? found]
          simp only [bind, Except.bind, pure, Except.pure]
          unfold toolName? at unnamed
          rw [found, Option.bind_some] at unnamed
          split
          next name named =>
            rw [named] at unnamed
            cases unnamed
          next =>
            rfl

/-- The state a tool call leaves: that of the tool, if it is available. -/
theorem snd_handleToolCall
    (context : HandlerContext)
    (available : Bytes → Bool)
    (unavailable : Bytes)
    (wrap : Bytes → Bool → Json)
    (service : TelegramApplicationService)
    (request : Json) :
    (context.handleToolCall available unavailable wrap service
        request).2 =
      match toolName? request with
      | some name =>
          if available name then
            (context.callTool service name (toolArguments request)).2
          else
            service
      | none => service := by
  cases called : toolName? request with
  | none =>
      exact snd_handleToolCall_of_unnamed called ..
  | some name =>
      obtain ⟨id, answered⟩ :=
        handleToolCall_of_toolName? called context available unavailable
          wrap service
      rw [answered]
      simp only
      split
      · exact snd_answerToolCall ..
      · rfl

/-- Converting arguments has no effect; the call decides. -/
theorem noEffect_withArguments_iff
    {Arguments : Type}
    {service : TelegramApplicationService}
    {converted : Except JsonException Arguments}
    {call :
      Arguments →
        Except Exception Json × TelegramApplicationService} :
    NoEffect service (withArguments service converted call).2 ↔
      ∀ arguments,
        converted = .ok arguments →
        NoEffect service (call arguments).2 := by
  cases converted with
  | error thrown =>
      refine iff_of_true (NoEffect.refl service) ?_
      intro arguments same
      cases same
  | ok arguments =>
      simp [withArguments]

end HandlerContext

section Unlisted

variable
  {context : HandlerContext}
  {service : TelegramApplicationService}
  {name : Bytes}
  {arguments : Json}

/-- The policy denies every invocation of an unlisted tool. -/
theorem effect_of_unlisted_tool
    {profile : McpClientProfile}
    {invocation : ToolInvocation}
    (unlisted : invocation.toolName ∉ profile.allowedTools) :
    (policyEngine.evaluate profile invocation).effect = .deny :=
  PolicyEngine.effect_evaluate_of_not_listed
    fun listed => unlisted listed.tool

/-- Except for executing, an unlisted tool has no effect. -/
theorem noEffect_callTool_of_unlisted
    (production : context.policyEngine = policyEngine)
    (unlisted : name ∉ context.profile.allowedTools)
    (notExecute : name ≠ bytes "telegram_execute_approved_action") :
    NoEffect service (context.callTool service name arguments).2 := by
  unfold HandlerContext.callTool
  rw [production]
  split
  · next isTool =>
      subst isTool
      rw [HandlerContext.noEffect_withArguments_iff]
      intro accountId _
      have denied :
          (policyEngine.evaluate context.profile
            { toolName := bytes "telegram_list_chats"
              accountId := accountId }).effect = .deny :=
        effect_of_unlisted_tool unlisted
      exact ⟨service.telegramCalls_listChats_of_denied _ _ _ denied,
        by simp⟩
  · split
    · next isTool =>
        subst isTool
        rw [HandlerContext.noEffect_withArguments_iff]
        rintro ⟨accountId, chatId, limit⟩ _
        have denied :
            (policyEngine.evaluate context.profile
              { toolName := bytes "telegram_get_messages"
                accountId := accountId
                chatId := some chatId }).effect = .deny :=
          effect_of_unlisted_tool unlisted
        exact ⟨service.telegramCalls_getMessages_of_denied _ _ _ denied,
          by simp⟩
    · split
      · next isTool =>
          subst isTool
          rw [HandlerContext.noEffect_withArguments_iff]
          rintro ⟨accountId, chatId, text⟩ _
          have refused :
              ¬ TelegramApplicationService.AcceptsMessage policyEngine
                context.profile accountId chatId text := by
            intro accepted
            exact accepted.permitted (effect_of_unlisted_tool unlisted)
          refine ⟨by simp, fun actionId => ?_⟩
          rw [TelegramApplicationService.approvals_prepareSendMessage,
            if_neg refused]
      · exact NoEffect.refl service

/-- Executing has no effect unless a named action changes when taken. -/
theorem noEffect_callTool_execute_iff :
    NoEffect service
        (context.callTool service
          (bytes "telegram_execute_approved_action") arguments).2 ↔
      ∀ actionId action,
        arguments.find? (bytes "action_id") =
            some (.string actionId) →
        service.approvals.lookup actionId = some action →
        ¬ ChangesWhenTaken context.environment.now context.profile
          action := by
  simp only [HandlerContext.callTool, bytes_inj, String.reduceEq,
    ↓reduceIte, HandlerContext.noEffect_withArguments_iff,
    noEffect_executeApprovedAction_iff,
    Json.stringAt_eq_ok_iff]
  constructor
  · intro quiet actionId action named stored
    exact quiet actionId named action stored
  · intro quiet actionId named action stored
    exact quiet actionId action named stored

end Unlisted

namespace V2025_11_25

/-- When a request is read as a call of a method. -/
theorem readRequest_eq_ok_some_iff
    {request id : Json}
    {method : Bytes} :
    readRequest request = .ok (id, some method) ↔
      requestId request = .ok id ∧
        request.find? (bytes "jsonrpc") =
          some (.string (bytes "2.0")) ∧
        request.find? (bytes "method") = some (.string method) := by
  unfold readRequest
  simp only [Json.bind_eq_ok_iff]
  constructor
  · rintro ⟨ownId, idRead, version, versionRead, rest⟩
    split at rest
    · cases rest
    · next valid =>
        obtain ⟨ownMethod, methodRead, same⟩ :=
          Json.bind_eq_ok_iff.mp rest
        cases same
        have isVersion : version = bytes "2.0" := by
          by_contra other
          simp [other] at valid
        rw [isVersion,
          Json.valueOr_getString_eq_ok_iff (by decide)] at versionRead
        exact ⟨idRead, versionRead,
          Json.stringAt_eq_ok_iff.mp methodRead⟩
  · rintro ⟨idRead, version, called⟩
    refine ⟨id, idRead, bytes "2.0",
      (Json.valueOr_getString_eq_ok_iff (by decide)).mpr version, ?_⟩
    have hasMethod : request.contains (bytes "method") = true :=
      Json.contains_iff.mpr ⟨_, called⟩
    rw [if_neg (by simp [hasMethod])]
    exact Json.bind_eq_ok_iff.mpr
      ⟨method, Json.stringAt_eq_ok_iff.mpr called, rfl⟩

/-- The state after a request: only a tool call can change it. -/
theorem snd_handle_of_other
    {context : HandlerContext}
    {surface : ToolSurface}
    {service : TelegramApplicationService}
    {request : Json}
    (other :
      ¬ (request.find? (bytes "jsonrpc") =
            some (.string (bytes "2.0")) ∧
          request.find? (bytes "method") =
            some (.string (bytes "tools/call")))) :
    (handle context surface service request).2 = service := by
  unfold handle
  cases shape : readRequest request with
  | error thrown =>
      rfl
  | ok read =>
      rcases read with ⟨id, _ | method⟩
      · rfl
      · obtain ⟨-, version, called⟩ :=
          readRequest_eq_ok_some_iff.mp shape
        have notCall : method ≠ bytes "tools/call" := by
          rintro rfl
          exact other ⟨version, called⟩
        simp only [notCall, ↓reduceIte]
        split
        · rfl
        · split <;> rfl

/-- A tool call leaves the state its tool leaves. -/
theorem snd_handle_of_toolCall
    {context : HandlerContext}
    {surface : ToolSurface}
    {service : TelegramApplicationService}
    {request : Json}
    (version :
      request.find? (bytes "jsonrpc") = some (.string (bytes "2.0")))
    (method :
      request.find? (bytes "method") =
        some (.string (bytes "tools/call"))) :
    (handle context surface service request).2 =
      (handleToolCall context surface service request).2 := by
  obtain ⟨id, idRead⟩ :=
    Json.exists_valueOr_eq_ok (Json.isObject_of_find? version)
      (bytes "id") .null
  simp [handle,
    readRequest_eq_ok_some_iff.mpr ⟨idRead, version, method⟩]

end V2025_11_25

/-- The arguments of an execute call name an action in the request. -/
theorem find?_toolArguments_iff
    {request : Json}
    {actionId : Bytes} :
    (toolArguments request).find? (bytes "action_id") =
        some (.string actionId) ↔
      ∃ params arguments,
        request.find? (bytes "params") = some params ∧
          params.find? (bytes "arguments") = some arguments ∧
          arguments.find? (bytes "action_id") =
            some (.string actionId) := by
  unfold toolArguments
  cases request.find? (bytes "params") with
  | none =>
      simp
  | some params =>
      simp only [Option.bind_some, Option.some.injEq, exists_and_left,
        exists_eq_left']
      cases params.find? (bytes "arguments") <;> simp

/-- The newer handler refuses unlisted tools before anything else. -/
theorem V2026_07_28.noEffect_handle_of_unlisted
    {context : HandlerContext}
    {service : TelegramApplicationService}
    {request : Json}
    (unlisted :
      ∀ name,
        toolName? request = some name →
        name ∉ context.profile.allowedTools) :
    NoEffect service (handle context service request).2 := by
  unfold handle
  cases readRequest request with
  | error thrown =>
      exact NoEffect.refl service
  | ok read =>
      rcases read with ⟨id, method⟩
      simp only
      split
      · exact NoEffect.refl service
      · split
        · exact NoEffect.refl service
        · split
          · rw [handleToolCall, HandlerContext.snd_handleToolCall]
            cases called : toolName? request with
            | none =>
                exact NoEffect.refl service
            | some name =>
                have notAllowed :
                    contains context.profile.allowedTools name =
                      false := by
                  simpa [contains] using unlisted name called
                simpa [notAllowed] using NoEffect.refl service
          · exact NoEffect.refl service

/-- The older handler leaves one way around the allowlist. -/
theorem V2025_11_25.noEffect_handle_iff_of_unlisted
    {context : HandlerContext}
    {surface : ToolSurface}
    {service : TelegramApplicationService}
    {request : Json}
    (production : context.policyEngine = policyEngine)
    (unlisted :
      ∀ name,
        toolName? request = some name →
        name ∉ context.profile.allowedTools) :
    NoEffect service (handle context surface service request).2 ↔
      ∀ actionId action,
        CallsExecute context surface request actionId →
        service.approvals.lookup actionId = some action →
        ¬ ChangesWhenTaken context.environment.now context.profile
          action := by
  by_cases isCall :
      request.find? (bytes "jsonrpc") = some (.string (bytes "2.0")) ∧
        request.find? (bytes "method") =
          some (.string (bytes "tools/call"))
  · rw [snd_handle_of_toolCall isCall.1 isCall.2, handleToolCall,
      HandlerContext.snd_handleToolCall]
    cases called : toolName? request with
    | none =>
        refine iff_of_true (NoEffect.refl service) ?_
        intro actionId action calls
        cases called.symm.trans calls.tool
    | some name =>
        cases available : (context.tools.findOn name surface).isSome with
        | false =>
            refine iff_of_true ?_ ?_
            · simpa [available] using NoEffect.refl service
            · intro actionId action calls
              have sameName :=
                Option.some.inj (called.symm.trans calls.tool)
              rw [sameName, calls.registered] at available
              cases available
        | true =>
            simp only [available, ↓reduceIte]
            by_cases isExecute :
                name = bytes "telegram_execute_approved_action"
            · subst isExecute
              rw [noEffect_callTool_execute_iff]
              constructor
              · intro quiet actionId action calls
                exact quiet actionId action
                  (find?_toolArguments_iff.mpr calls.argument)
              · intro quiet actionId action named
                exact quiet actionId action
                  ⟨isCall.1, isCall.2, called, available,
                    find?_toolArguments_iff.mp named⟩
            · refine iff_of_true
                (noEffect_callTool_of_unlisted production
                  (unlisted name called) isExecute) ?_
              intro actionId action calls
              exact absurd
                (Option.some.inj (called.symm.trans calls.tool))
                isExecute
  · rw [snd_handle_of_other isCall]
    refine iff_of_true (NoEffect.refl service) ?_
    intro actionId action calls
    exact absurd ⟨calls.version, calls.method⟩ isCall

/--
A call of a tool the profile does not list has no effect through the newer
handler.  Through the older one it has none unless it calls the execute tool of
the surface on an action that is approved for this client, or pending past its
deadline.
-/
theorem noEffect_of_unlisted_tool
    {context : HandlerContext}
    {surface : ToolSurface}
    {service : TelegramApplicationService}
    {request : Json}
    (production : context.policyEngine = policyEngine)
    (unlisted :
      ∀ name,
        toolName? request = some name →
        name ∉ context.profile.allowedTools) :
    NoEffect service
        (V2026_07_28.handle context service request).2 ∧
      (NoEffect service
          (V2025_11_25.handle context surface service request).2 ↔
        ∀ actionId action,
          CallsExecute context surface request actionId →
          service.approvals.lookup actionId = some action →
          ¬ ChangesWhenTaken context.environment.now context.profile
            action) :=
  ⟨V2026_07_28.noEffect_handle_of_unlisted unlisted,
    V2025_11_25.noEffect_handle_iff_of_unlisted production unlisted⟩

/-- A registry whose write surface executes actions. -/
def executeRegistry : ToolRegistry where
  tools :=
    [{ name := bytes "telegram_execute_approved_action"
       description := bytes "Execute an approved Telegram write"
       surface := .write
       inputSchema := .ofMembers [] }]

/-- A request to execute one action. -/
def executeRequest (actionId : Bytes) : Json :=
  .ofMembers
    [(bytes "jsonrpc", .string (bytes "2.0")),
      (bytes "id", .numberUnsigned 1),
      (bytes "method", .string (bytes "tools/call")),
      (bytes "params", .ofMembers
        [(bytes "name",
            .string (bytes "telegram_execute_approved_action")),
          (bytes "arguments", .ofMembers
            [(bytes "action_id", .string actionId)])])]

/-- A client that may prepare messages but not execute them. -/
def preparerContext : HandlerContext where
  library := {
    parse := fun _ => .error .parseError
    dump := fun _ => .ok []
    floatToInt64 := fun _ => 0
    floatToUInt32 := fun _ => 0
  }
  policyEngine := policyEngine
  environment := { now := 2 * ticksPerSecond }
  tools := executeRegistry
  profile := writerProfile

/-- The store after the operator approved the client's message. -/
def approvedService : TelegramApplicationService where
  approvals := approvalMachine.state approvedRun

theorem toolName?_executeRequest :
    toolName? (executeRequest zeroId) =
      some (bytes "telegram_execute_approved_action") :=
  rfl

theorem noEffect_of_unlisted_tool_executeRequest :
    NoEffect approvedService
        (V2026_07_28.handle preparerContext approvedService
          (executeRequest zeroId)).2 ∧
      (NoEffect approvedService
          (V2025_11_25.handle preparerContext .write approvedService
            (executeRequest zeroId)).2 ↔
        ∀ actionId action,
          CallsExecute preparerContext .write (executeRequest zeroId)
              actionId →
          approvedService.approvals.lookup actionId = some action →
          ¬ ChangesWhenTaken preparerContext.environment.now
            preparerContext.profile action) :=
  noEffect_of_unlisted_tool rfl fun name called => by
    rw [toolName?_executeRequest] at called
    cases called
    decide

/-- An unlisted call of the execute tool sends the message. -/
theorem unlisted_execute_sends :
    bytes "telegram_execute_approved_action" ∉
        preparerContext.profile.allowedTools ∧
      (V2025_11_25.handle preparerContext .write approvedService
          (executeRequest zeroId)).2.telegramCalls =
        [.sendMessage (bytes "work") 42 (bytes "hello")] ∧
      ((V2025_11_25.handle preparerContext .write approvedService
          (executeRequest zeroId)).2.approvals.lookup zeroId).map
          PendingAction.status =
        some .executed :=
  ⟨by decide, by decide +kernel, by decide +kernel⟩

end TgGate
