import TgGate.ApplicationRuns
import TgGate.Library.JsonDocument
import TgGate.ToolAllowlist

namespace TgGate

open Library

/-!
# What a handler shows of the registry

The newer handler offers the tools that the profile allows, the older one those
registered on its surface.  A tool that is not offered must not be noticed: the
answers and the effects are a function of what is offered, in both the listing
and the call.  A read surface on which no writing tool is registered therefore
never writes.
-/

namespace ToolRegistry

/-- The definitions a profile allows, in order. -/
def allowedFor
    (registry : ToolRegistry)
    (profile : McpClientProfile) : List ToolDefinition :=
  registry.tools.filter fun tool =>
    contains profile.allowedTools tool.name

/-- The definitions on a surface, in order. -/
def onSurface
    (registry : ToolRegistry)
    (surface : ToolSurface) : List ToolDefinition :=
  registry.tools.filter fun tool => tool.surface = surface

theorem find?_describe_name (tool : ToolDefinition) :
    (describe tool).find? (bytes "name") = some (.string tool.name) := by
  simp [describe]

/-- A call finds an allowed tool exactly if it is among the allowed ones. -/
theorem find_and_contains
    (registry : ToolRegistry)
    (profile : McpClientProfile)
    (name : Bytes) :
    ((registry.find name).isSome && contains profile.allowedTools name) =
      (registry.allowedFor profile).any fun tool => tool.name = name := by
  rw [Bool.eq_iff_iff]
  simp only [find, allowedFor, Bool.and_eq_true, List.find?_isSome,
    decide_eq_true_eq, List.any_eq_true, List.mem_filter]
  constructor
  · intro found
    rcases found with ⟨⟨tool, member, isNamed⟩, allowed⟩
    exact ⟨tool, ⟨member, by rw [isNamed]; exact allowed⟩, isNamed⟩
  · intro found
    rcases found with ⟨tool, ⟨member, allowed⟩, isNamed⟩
    rw [isNamed] at allowed
    exact ⟨⟨tool, member, isNamed⟩, allowed⟩

/-- A call finds a tool of a surface exactly if it is registered there. -/
theorem isSome_findOn
    (registry : ToolRegistry)
    (name : Bytes)
    (surface : ToolSurface) :
    (registry.findOn name surface).isSome =
      (registry.onSurface surface).any fun tool => tool.name = name := by
  rw [Bool.eq_iff_iff]
  simp only [findOn, onSurface, Bool.and_eq_true, List.find?_isSome,
    decide_eq_true_eq, List.any_eq_true, List.mem_filter]
  constructor
  · intro found
    rcases found with ⟨tool, member, isNamed, here⟩
    exact ⟨tool, ⟨member, here⟩, isNamed⟩
  · intro found
    rcases found with ⟨tool, ⟨member, here⟩, isNamed⟩
    exact ⟨tool, member, isNamed, here⟩

end ToolRegistry

namespace HandlerContext

/-- The same handler with other tools. -/
def withTools
    (context : HandlerContext)
    (tools : ToolRegistry) : HandlerContext :=
  { context with tools := tools }

/-- A tool call depends on the registry only through what is available. -/
theorem handleToolCall_withTools
    (context : HandlerContext)
    (tools : ToolRegistry) :
    (context.withTools tools).handleToolCall = context.handleToolCall :=
  rfl

/-- The text of a JSON-RPC error. -/
def errorMessage? (response : Json) : Option Json :=
  (response.find? (bytes "error")).bind (·.find? (bytes "message"))

@[simp] theorem errorMessage?_rpcError
    (id : Json)
    (code : Int64)
    (message : Bytes) :
    errorMessage? (rpcError id code message) = some (.string message) := by
  simp [errorMessage?, rpcError]

@[simp] theorem errorMessage?_rpcResult (id value : Json) :
    errorMessage? (rpcResult id value) = none := by
  simp [errorMessage?, rpcResult]

/-- The errors of an available tool are its own. -/
theorem errorMessage?_of_answerToolCall
    {context : HandlerContext}
    {service : TelegramApplicationService}
    {id arguments response : Json}
    {name : Bytes}
    {wrap : Bytes → Bool → Json}
    (answered :
      (context.answerToolCall service id name arguments wrap).1 =
        .ok response) :
    errorMessage? response ∈ [
      none,
      some (.string (bytes "Tool arguments do not match the schema")),
      some (.string (bytes "Tool implementation is not available"))
    ] := by
  unfold answerToolCall at answered
  revert answered
  generalize context.callTool service name arguments = outcome
  intro answered
  rcases outcome with ⟨outcome, after⟩
  cases outcome with
  | error thrown =>
      cases thrown with
      | json =>
          obtain rfl := Except.ok.inj answered
          simp
      | runtimeError | unknown | undefinedBehaviour =>
          cases answered
  | ok result? =>
      cases result? with
      | none =>
          obtain rfl := Except.ok.inj answered
          simp
      | some result =>
          obtain ⟨serialized, -, wrapped⟩ :=
            Json.bind_eq_ok_iff.mp (eq_ok_of_mapError answered)
          obtain ⟨isOk, -, shape⟩ := Json.bind_eq_ok_iff.mp wrapped
          obtain rfl := Except.ok.inj shape
          simp

end HandlerContext

/-- The answer lists a tool under a name. -/
def ListsTool
    (outcome : Except Exception Json)
    (name : Bytes) : Prop :=
  ∃ response tools tool,
    outcome = .ok response ∧
      (response.find? (bytes "result")).bind (·.find? (bytes "tools")) =
        some (.array tools) ∧
      tool ∈ tools ∧
      tool.find? (bytes "name") = some (.string name)

/-- The answer is the error with a text. -/
def AnswersError
    (outcome : Except Exception Json)
    (message : Bytes) : Prop :=
  ∃ response,
    outcome = .ok response ∧
      HandlerContext.errorMessage? response = some (.string message)

/-- The request calls a method. -/
def CallsMethod (request : Json) (method : Bytes) : Prop :=
  request.find? (bytes "method") = some (.string method)

namespace V2026_07_28

section Visibility

variable (context : HandlerContext)

/-- What is listed are the descriptions of the allowed tools. -/
theorem listTools_eq :
    listTools context =
      (context.tools.allowedFor context.profile).map
        ToolRegistry.describe := by
  unfold listTools ToolRegistry.list ToolRegistry.allowedFor
  rw [List.filter_map]
  apply congrArg (List.map ToolRegistry.describe)
  apply List.filter_congr
  intro tool _
  simp only [Function.comp, ToolRegistry.find?_describe_name]

/-- The answers and the effects follow from the allowed tools. -/
theorem handle_withTools
    {other : ToolRegistry}
    (same :
      other.allowedFor context.profile =
        context.tools.allowedFor context.profile) :
    handle (context.withTools other) = handle context := by
  have listing :
      listTools (context.withTools other) = listTools context := by
    rw [listTools_eq, listTools_eq]
    exact congrArg (List.map ToolRegistry.describe) same
  have calling :
      handleToolCall (context.withTools other) =
        handleToolCall context := by
    have available :
        (fun name =>
            (other.find name).isSome &&
              contains context.profile.allowedTools name) =
          fun name =>
            (context.tools.find name).isSome &&
              contains context.profile.allowedTools name := by
      funext name
      rw [other.find_and_contains, context.tools.find_and_contains,
        same]
    funext service request
    unfold handleToolCall
    rw [HandlerContext.handleToolCall_withTools]
    exact congrArg
      (context.handleToolCall · _ toolResult service request) available
  funext service request
  unfold handle
  rw [listing, calling]

/-- A request that calls a method is read as such. -/
theorem readRequest_of_callsMethod
    {request : Json}
    {method : Bytes}
    (calls : CallsMethod request method) :
    ∃ id, readRequest request = .ok (id, method) := by
  obtain ⟨id, idRead⟩ :=
    Json.exists_valueOr_eq_ok (Json.isObject_of_find? calls)
      (bytes "id") .null
  refine ⟨id, ?_⟩
  have methodRead := Json.stringAt_eq_ok_iff.mpr calls
  simp [readRequest, requestId, idRead, methodRead, bind, Except.bind,
    pure, Except.pure]

/-- A name is listed exactly if an allowed tool has it. -/
theorem listsTool_iff
    {request : Json}
    (calls : CallsMethod request (bytes "tools/list"))
    (service : TelegramApplicationService)
    (name : Bytes) :
    ListsTool (handle context service request).1 name ↔
      ((context.tools.allowedFor context.profile).any
        fun tool => tool.name = name) = true := by
  obtain ⟨id, read⟩ := readRequest_of_callsMethod calls
  have answered :
      (handle context service request).1 =
        .ok (rpcResult id (.ofMembers
          [(bytes "resultType", .string (bytes "complete")),
            (bytes "tools", .array (listTools context)),
            (bytes "ttlMs", .numberInteger 300000),
            (bytes "cacheScope", .string (bytes "private"))])) := by
    simp [handle, read]
  unfold ListsTool
  rw [answered]
  simp only [Except.ok.injEq, List.any_eq_true, decide_eq_true_eq]
  constructor
  · intro listed
    obtain ⟨response, tools, described, rfl, shape, member, named⟩ :=
      listed
    simp only [rpcResult, Json.find?_ofMembers, Json.lookupMember_cons,
      bytes_inj, String.reduceEq, ↓reduceIte, Option.bind_some,
      Option.some.injEq, Json.array.injEq] at shape
    rw [← shape, listTools_eq, List.mem_map] at member
    obtain ⟨tool, allowed, rfl⟩ := member
    rw [ToolRegistry.find?_describe_name] at named
    exact ⟨tool, allowed, Json.string.inj (Option.some.inj named)⟩
  · intro listed
    obtain ⟨tool, allowed, rfl⟩ := listed
    refine ⟨_, listTools context, ToolRegistry.describe tool, rfl, ?_, ?_,
      ToolRegistry.find?_describe_name tool⟩
    · simp [rpcResult]
    · rw [listTools_eq]
      exact List.mem_map_of_mem allowed

/-- A call is refused as unavailable exactly if no allowed tool is named. -/
theorem answersUnavailable_iff
    {request : Json}
    {name : Bytes}
    (calls : CallsMethod request (bytes "tools/call"))
    (called : toolName? request = some name)
    (service : TelegramApplicationService) :
    AnswersError (handle context service request).1
        (bytes "Tool is unavailable for this client") ↔
      ((context.tools.allowedFor context.profile).any
        fun tool => tool.name = name) = false := by
  obtain ⟨id, read⟩ := readRequest_of_callsMethod calls
  have answered :
      handle context service request =
        handleToolCall context service request := by
    simp [handle, read]
  obtain ⟨callId, shape⟩ :=
    HandlerContext.handleToolCall_of_toolName? called context
      (fun name =>
        (context.tools.find name).isSome &&
          contains context.profile.allowedTools name)
      (bytes "Tool is unavailable for this client") toolResult service
  rw [answered, handleToolCall, shape, context.tools.find_and_contains]
  cases (context.tools.allowedFor context.profile).any
      fun tool => tool.name = name with
  | false =>
      refine iff_of_true ⟨_, rfl, ?_⟩ rfl
      simp
  | true =>
      refine iff_of_false ?_ (by simp)
      intro refused
      obtain ⟨response, isResponse, message⟩ := refused
      have own := HandlerContext.errorMessage?_of_answerToolCall isResponse
      rw [message] at own
      simp at own

/--
Tools that the profile does not allow are invisible: the rest of the registry
decides every answer and effect, and what is listed is what can be called.
-/
theorem hiddenTools_invisible :
    (∀ other : ToolRegistry,
      other.allowedFor context.profile =
          context.tools.allowedFor context.profile →
      ∀ service request,
        handle (context.withTools other) service request =
          handle context service request) ∧
      ∀ name listing calling before service,
        CallsMethod listing (bytes "tools/list") →
        CallsMethod calling (bytes "tools/call") →
        toolName? calling = some name →
        (ListsTool (handle context before listing).1 name ↔
          ¬AnswersError (handle context service calling).1
            (bytes "Tool is unavailable for this client")) := by
  constructor
  · intro other same service request
    rw [handle_withTools context same]
  · intro name listing calling before service lists calls called
    rw [listsTool_iff context lists,
      answersUnavailable_iff context calls called, Bool.not_eq_false]

end Visibility

/-- A request for the tools. -/
def listRequest : Json :=
  .ofMembers
    [(bytes "jsonrpc", .string (bytes "2.0")),
      (bytes "id", .numberUnsigned 1),
      (bytes "method", .string (bytes "tools/list"))]

/-- The execute tool is hidden from a client that only prepares. -/
theorem hiddenTools_invisible_preparer :
    handle (preparerContext.withTools {}) approvedService
          (executeRequest zeroId) =
        handle preparerContext approvedService (executeRequest zeroId) ∧
      (ListsTool (handle preparerContext approvedService listRequest).1
          (bytes "telegram_execute_approved_action") ↔
        ¬AnswersError
          (handle preparerContext approvedService
            (executeRequest zeroId)).1
          (bytes "Tool is unavailable for this client")) :=
  ⟨(hiddenTools_invisible preparerContext).1 {} rfl approvedService
      (executeRequest zeroId),
    (hiddenTools_invisible preparerContext).2 _ _ _ _ _ rfl rfl
      toolName?_executeRequest⟩

end V2026_07_28

/-- A port call that sends a message. -/
def TelegramCall.isSend : TelegramCall → Bool
  | .sendMessage _ _ _ => true
  | _ => false

/-- No action was created or executed and no message was sent. -/
structure OnlyReads (before after : TelegramApplicationService) : Prop where
  store :
    after.approvals = before.approvals
  port :
    ∃ calls,
      after.telegramCalls = before.telegramCalls ++ calls ∧
        ∀ call ∈ calls, call.isSend = false

namespace OnlyReads

theorem refl (service : TelegramApplicationService) :
    OnlyReads service service :=
  ⟨rfl, [], by simp, by simp⟩

theorem trans
    {first second third : TelegramApplicationService}
    (earlier : OnlyReads first second)
    (later : OnlyReads second third) :
    OnlyReads first third := by
  obtain ⟨firstCalls, firstShape, firstReads⟩ := earlier.port
  obtain ⟨laterCalls, laterShape, laterReads⟩ := later.port
  refine ⟨later.store.trans earlier.store, firstCalls ++ laterCalls,
    ?_, ?_⟩
  · rw [laterShape, firstShape, List.append_assoc]
  · intro call member
    rcases List.mem_append.mp member with inFirst | inLater
    · exact firstReads call inFirst
    · exact laterReads call inLater

section Requests

variable
  (service : TelegramApplicationService)
  (engine : IPolicyEngine)
  (environment : Environment)
  (profile : McpClientProfile)

/-- Listing chats asks the port for them at most. -/
theorem listChats (accountId : Bytes) :
    OnlyReads service
      (service.listChats engine environment profile accountId).2 := by
  refine ⟨by simp, ?_⟩
  cases decided :
      (engine.evaluate profile
        (listChatsInvocation
          accountId)).isAllowed with
  | true =>
      refine ⟨[.listChats accountId], ?_, by simp [TelegramCall.isSend]⟩
      exact service.telegramCalls_listChats_of_allowed engine environment
        profile decided
  | false =>
      refine ⟨[], ?_, by simp⟩
      unfold listChatsInvocation at decided
      simp [TelegramApplicationService.listChats, decided,
        TelegramApplicationService.denyAndAudit,
        TelegramApplicationService.audit]

/-- Reading messages asks the port for them at most. -/
theorem getMessages
    (accountId : Bytes)
    (chatId : Int64)
    (limit : UInt64) :
    OnlyReads service
      (service.getMessages engine environment profile accountId chatId
        limit).2 := by
  refine ⟨by simp, ?_⟩
  cases decided :
      (engine.evaluate profile
        (getMessagesInvocation accountId
          chatId)).isAllowed with
  | true =>
      refine ⟨[.getMessages accountId chatId
        (min limit TelegramApplicationService.kMaximumMessages)], ?_,
        by simp [TelegramCall.isSend]⟩
      exact service.telegramCalls_getMessages_of_allowed engine
        environment profile decided
  | false =>
      refine ⟨[], ?_, by simp⟩
      unfold getMessagesInvocation at decided
      simp [TelegramApplicationService.getMessages, decided,
        TelegramApplicationService.denyAndAudit,
        TelegramApplicationService.audit]

end Requests

/-- A call whose arguments cannot be converted does nothing. -/
theorem withArguments
    {Arguments : Type}
    {service : TelegramApplicationService}
    {converted : Except JsonException Arguments}
    {call :
      Arguments →
        Except Exception Json × TelegramApplicationService}
    (reads : ∀ arguments, OnlyReads service (call arguments).2) :
    OnlyReads service
      (HandlerContext.withArguments service converted call).2 := by
  cases converted with
  | error =>
      exact refl service
  | ok arguments =>
      exact reads arguments

end OnlyReads

/-- The tools that write. -/
def writingTools : List Bytes := [
  bytes "telegram_prepare_send_message",
  bytes "telegram_execute_approved_action"
]

/-- Every other tool only reads. -/
theorem onlyReads_callTool
    (context : HandlerContext)
    (service : TelegramApplicationService)
    {name : Bytes}
    (reading : name ∉ writingTools)
    (arguments : Json) :
    OnlyReads service (context.callTool service name arguments).2 := by
  simp only [writingTools, List.mem_cons, List.not_mem_nil, or_false,
    not_or] at reading
  unfold HandlerContext.callTool
  split
  · apply OnlyReads.withArguments
    intro accountId
    exact OnlyReads.listChats service _ _ _ accountId
  · split
    · apply OnlyReads.withArguments
      intro arguments
      exact OnlyReads.getMessages service _ _ _ _ _ _
    · rw [if_neg reading.1, if_neg reading.2]
      exact OnlyReads.refl service

namespace V2025_11_25

section Surfaces

variable (context : HandlerContext)
variable (surface : ToolSurface)

/-- The answers and the effects follow from the tools of the surface. -/
theorem handle_withTools
    {other : ToolRegistry}
    (same : other.onSurface surface = context.tools.onSurface surface) :
    handle (context.withTools other) surface =
      handle context surface := by
  have listing :
      other.listOn surface = context.tools.listOn surface :=
    congrArg (List.map ToolRegistry.describe) same
  have calling :
      handleToolCall (context.withTools other) surface =
        handleToolCall context surface := by
    have available :
        (fun name => (other.findOn name surface).isSome) =
          fun name => (context.tools.findOn name surface).isSome := by
      funext name
      rw [other.isSome_findOn, context.tools.isSome_findOn, same]
    funext service request
    unfold handleToolCall
    rw [HandlerContext.handleToolCall_withTools]
    exact congrArg
      (context.handleToolCall · _ toolResult service request) available
  funext service request
  unfold handle
  rw [calling]
  simp only [HandlerContext.withTools, listing]

/-- The requests of a handler, each in its own environment. -/
def requests :
    Machine TelegramApplicationService (Environment × Json)
      (Except Exception Json) where
  initial := {}
  step service
    | (environment, request) =>
        let (outcome, service) :=
          handle { context with environment := environment } surface
            service request
        (service, outcome)

/-- The writing tools are registered on the write surface only. -/
def WritesOnWriteSurface (registry : ToolRegistry) : Prop :=
  ∀ tool ∈ registry.tools, tool.name ∈ writingTools → tool.surface = .write

/-- One request to a read surface only reads. -/
theorem onlyReads_handle
    (writeOnly : WritesOnWriteSurface context.tools)
    (service : TelegramApplicationService)
    (request : Json) :
    OnlyReads service (handle context .read service request).2 := by
  by_cases isCall :
      request.find? (bytes "jsonrpc") = some (.string (bytes "2.0")) ∧
        request.find? (bytes "method") =
          some (.string (bytes "tools/call"))
  · rw [snd_handle_of_toolCall isCall.1 isCall.2, handleToolCall,
      HandlerContext.snd_handleToolCall]
    split
    next name called =>
      split
      next available =>
        have reading : name ∉ writingTools := by
          intro writing
          rw [context.tools.isSome_findOn, List.any_eq_true] at available
          obtain ⟨tool, onRead, named⟩ := available
          have isNamed := of_decide_eq_true named
          obtain ⟨registered, here⟩ := List.mem_filter.mp onRead
          have there := writeOnly tool registered (isNamed ▸ writing)
          rw [there] at here
          cases here
        exact onlyReads_callTool context service reading _
      next =>
        exact OnlyReads.refl service
    next =>
      exact OnlyReads.refl service
  · rw [snd_handle_of_other isCall]
    exact OnlyReads.refl service

/-- Any sequence of requests to a read surface only reads. -/
theorem onlyReads_requests
    (writeOnly : WritesOnWriteSurface context.tools)
    (service : TelegramApplicationService)
    (calls : List (Environment × Json)) :
    OnlyReads service
      ((requests context .read).stateFrom service calls) := by
  apply (requests context .read).stateFrom_of_step (OnlyReads service)
  · intro current call earlier
    rcases call with ⟨environment, request⟩
    exact earlier.trans
      (onlyReads_handle { context with environment := environment }
        writeOnly current request)
  · exact OnlyReads.refl service

/--
The surfaces are separated: what is registered elsewhere is invisible, and a
read surface never creates or executes an action and never sends a message.
-/
theorem surfaces_separated :
    (∀ other : ToolRegistry,
      other.onSurface surface = context.tools.onSurface surface →
      ∀ service request,
        handle (context.withTools other) surface service request =
          handle context surface service request) ∧
      (WritesOnWriteSurface context.tools →
        ∀ service calls,
          OnlyReads service
            ((requests context .read).stateFrom service calls)) := by
  constructor
  · intro other same service request
    rw [handle_withTools context surface same]
  · intro writeOnly service calls
    exact onlyReads_requests context writeOnly service calls

end Surfaces

/-- A read surface does not execute the action of the write surface. -/
theorem surfaces_separated_preparer :
    handle (preparerContext.withTools {}) .read approvedService
          (executeRequest zeroId) =
        handle preparerContext .read approvedService
          (executeRequest zeroId) ∧
      OnlyReads approvedService
        ((requests preparerContext .read).stateFrom approvedService
          [({}, executeRequest zeroId)]) := by
  have writeOnly : WritesOnWriteSurface preparerContext.tools := by
    intro tool member _
    obtain rfl := List.mem_singleton.mp member
    rfl
  exact ⟨(surfaces_separated preparerContext .read).1 {} rfl
      approvedService (executeRequest zeroId),
    (surfaces_separated preparerContext .read).2 writeOnly
      approvedService _⟩

end V2025_11_25

end TgGate
