import TgGate.HostLifecycle
import TgGate.HttpGate
import TgGate.ToolCallIntegers
import TgGate.WriteSafety

namespace TgGate

open Library

/-!
# The gateway

The running application is one machine.  HTTP requests arrive at the MCP host,
whose clients and tokens the operator starts, stops and replaces.  A request that
the host admits reaches the application service through the protocol handler, and
an execute request leaves it in two steps.  In between the operator approves,
denies and locks down.
-/

namespace V2026_07_28

/-- The call by which a message reaches the application service. -/
def reachedCall?
    (context : HandlerContext)
    (request : Json) : Option ServiceCall :=
  match readRequest request with
  | .error _ => none
  | .ok (_, method) =>
      if method = bytes "tools/call" then
        context.reachedCall? (isAvailable context) request
      else
        none

/-- A message leaves the state that its service call leaves. -/
theorem snd_handle
    (context : HandlerContext)
    (service : TelegramApplicationService)
    (request : Json) :
    (handle context service request).2 =
      match reachedCall? context request with
      | none => service
      | some call =>
          (call.perform service context.policyEngine context.environment
            context.profile).2 := by
  unfold handle reachedCall?
  rcases readRequest request with thrown | ⟨id, method⟩
  · rfl
  · by_cases calls : method = bytes "tools/call"
    · subst calls
      simp only [bytes_inj, String.reduceEq, ↓reduceIte]
      exact context.snd_handleToolCall_of_reachedCall? _ _ _ _ _
    · simp only [calls, ↓reduceIte]
      split
      · rfl
      · split <;> rfl

end V2026_07_28

namespace ServiceCall

/-- The tool that makes a call. -/
def toolName : ServiceCall → Bytes
  | .listChats _ => bytes "telegram_list_chats"
  | .getMessages _ _ _ => bytes "telegram_get_messages"
  | .prepareSendMessage _ _ _ => bytes "telegram_prepare_send_message"
  | .executeApprovedAction _ =>
      bytes "telegram_execute_approved_action"

/-- The first atomic step of a call. -/
def command
    (environment : Environment)
    (profile : McpClientProfile) : ServiceCall → ServiceCommand
  | .listChats accountId => .listChats environment profile accountId
  | .getMessages accountId chatId limit =>
      .getMessages environment profile accountId chatId limit
  | .prepareSendMessage accountId chatId text =>
      .write
        (.prepareSendMessage environment profile accountId chatId text)
  | .executeApprovedAction actionId =>
      .write (.takeForExecution environment profile actionId)

end ServiceCall

/-- `ToolRegistry::add`. -/
def ToolRegistry.add
    (registry : ToolRegistry)
    (definition : ToolDefinition) : ToolRegistry where
  tools := registry.tools ++ [definition]

/-- The tools that the desktop registers. -/
def addDefaultTools (tools : ToolRegistry) : ToolRegistry :=
  (((tools.add {
    name := bytes "telegram_list_chats"
    description := bytes "List allowlisted Telegram chats"
    surface := .read
    inputSchema := .ofMembers []
  }).add {
    name := bytes "telegram_get_messages"
    description :=
      bytes "Read messages from an allowlisted Telegram chat"
    surface := .read
    inputSchema := .ofMembers []
  }).add {
    name := bytes "telegram_prepare_send_message"
    description := bytes "Prepare a Telegram message for approval"
    surface := .write
    inputSchema := .ofMembers []
  }).add {
    name := bytes "telegram_execute_approved_action"
    description := bytes "Execute an approved Telegram write"
    surface := .write
    inputSchema := .ofMembers []
  }

/-- What the application is built on and configured with. -/
structure GatewaySetting (World : Type) where
  library : DocumentLibrary
  platform : Platform World
  policyEngine : IPolicyEngine
  tools : ToolRegistry
  profiles : List McpClientProfile
  mcpHostPath : FilesystemPath
  files : FileSystem

/-- The MCP host and everything behind it. -/
structure Gateway where
  host : HostState
  pipeline : WritePipeline := {}

/-- One atomic step, with what the outside world supplies to it. -/
inductive GatewayCall (World : Type) where
  /-- An HTTP request arrives. -/
  | request (environment : Environment) (request : HttpRequest)
  /-- An execute request that has its action goes on. -/
  | sendApproved (environment : Environment) (index : Nat)
  | approve (now : TimePoint) (actionId : Bytes)
  | deny (now : TimePoint) (actionId : Bytes)
  | lockdown
  | host (call : HostCall World)

/-- What a step answers. -/
inductive GatewayReply where
  /-- No HTTP host is listening. -/
  | unreachable
  /-- The request is answered without the application service. -/
  | answered (response : Except Exception HttpResponse)
  /--
  The application service takes a command.  The HTTP answer to a request comes at
  once unless the request has taken an action.
  -/
  | performed
      (command : ServiceCommand)
      (reply : Reply)
      (response? : Option (Except Exception HttpResponse))
  | host (reply : HostReply)

namespace GatewaySetting

/-- What the protocol handler works with for one request. -/
def context
    {World : Type}
    (setting : GatewaySetting World)
    (environment : Environment)
    (profile : McpClientProfile) : HandlerContext where
  library := setting.library.toJsonLibrary
  policyEngine := setting.policyEngine
  environment := environment
  tools := setting.tools
  profile := profile

end GatewaySetting

namespace Gateway

section Steps

variable {World : Type}
variable (setting : GatewaySetting World)
variable (gateway : Gateway)

/-- The HTTP service as the host has configured it. -/
def service : LocalMcpHttpService :=
  gateway.host.desktop.mcpHost.service

/-- The client and the message of a request that the host lets through. -/
def admitted? (request : HttpRequest) : Option (McpClientProfile × Json) :=
  (handlerCalls setting.library.toJsonLibrary gateway.service
    (fun _ _ => .ok .null) request).head?

/-- The client of a request and the service call that it makes. -/
def reached?
    (environment : Environment)
    (request : HttpRequest) : Option (McpClientProfile × ServiceCall) :=
  match gateway.admitted? setting request with
  | none => none
  | some (profile, message) =>
      (V2026_07_28.reachedCall? (setting.context environment profile)
        message).map fun call => (profile, call)

/-- An HTTP request handled in one piece. -/
def handle
    (environment : Environment)
    (request : HttpRequest) :
    Except Exception HttpResponse × TelegramApplicationService :=
  gateway.service.handle setting.library.toJsonLibrary
    (LocalMcpHttpService.invokeProtocolHandler
      (setting.context environment { id := [] }))
    request gateway.pipeline.desktop.service

/-- The application service takes a command. -/
def perform
    (command : ServiceCommand)
    (response : Except Exception HttpResponse) : Gateway × GatewayReply :=
  match (applicationMachine setting.policyEngine).step gateway.pipeline
      command with
  | (pipeline, .taken) =>
      ({ gateway with pipeline := pipeline },
        .performed command .taken none)
  | (pipeline, reply) =>
      ({ gateway with pipeline := pipeline },
        .performed command reply (some response))

/-- The operator, or a request that goes on, has a command performed. -/
def operate (command : Command) : Gateway × GatewayReply :=
  match (writePipeline setting.policyEngine).step gateway.pipeline
      command with
  | (pipeline, reply) =>
      ({ gateway with pipeline := pipeline },
        .performed (.write command) reply none)

/-- An HTTP request arrives at a running host. -/
def serve
    (environment : Environment)
    (request : HttpRequest) : Gateway × GatewayReply :=
  let response := (gateway.handle setting environment request).1
  match gateway.reached? setting environment request with
  | none => (gateway, .answered response)
  | some (profile, call) =>
      gateway.perform setting (call.command environment profile) response

/-- One step. -/
def advance : GatewayCall World → Gateway × GatewayReply
  | .request environment request =>
      if gateway.host.desktop.mcpHost.running then
        gateway.serve setting environment request
      else
        (gateway, .unreachable)
  | .sendApproved environment index =>
      gateway.operate setting (.sendApproved environment index)
  | .approve now actionId =>
      gateway.operate setting (.approve now actionId)
  | .deny now actionId => gateway.operate setting (.deny now actionId)
  | .lockdown => gateway.operate setting .lockdown
  | .host call =>
      let (host, reply) :=
        gateway.host.advance setting.library setting.platform call
      ({ gateway with host := host }, .host reply)

end Steps

end Gateway

/-- The application, started on the files of a setting. -/
def GatewaySetting.machine
    {World : Type}
    (setting : GatewaySetting World) :
    Machine Gateway (GatewayCall World) GatewayReply where
  initial := {
    host := {
      desktop := {
        profiles := setting.profiles
        mcpHostPath := setting.mcpHostPath
      }
      files := setting.files
    }
  }
  step gateway call := gateway.advance setting call

/-- A tool makes the calls that bear its name. -/
theorem HandlerContext.eq_toolName_of_serviceCall
    {context : HandlerContext}
    {name : Bytes}
    {arguments : Json}
    {call : ServiceCall}
    (converted : context.serviceCall name arguments = .ok (some call)) :
    name = call.toolName := by
  unfold serviceCall at converted
  split at converted
  · next lists =>
      obtain ⟨accountId, -, same⟩ := Json.bind_eq_ok_iff.mp converted
      cases same
      exact lists
  split at converted
  · next reads =>
      obtain ⟨accountId, -, rest⟩ := Json.bind_eq_ok_iff.mp converted
      obtain ⟨chatId, -, rest⟩ := Json.bind_eq_ok_iff.mp rest
      obtain ⟨limit, -, same⟩ := Json.bind_eq_ok_iff.mp rest
      cases same
      exact reads
  split at converted
  · next prepares =>
      obtain ⟨accountId, -, rest⟩ := Json.bind_eq_ok_iff.mp converted
      obtain ⟨chatId, -, rest⟩ := Json.bind_eq_ok_iff.mp rest
      obtain ⟨text, -, same⟩ := Json.bind_eq_ok_iff.mp rest
      cases same
      exact prepares
  split at converted
  · next executes =>
      obtain ⟨actionId, -, same⟩ := Json.bind_eq_ok_iff.mp converted
      cases same
      exact executes
  · cases converted

namespace V2026_07_28

/-- A message makes only calls of tools that its client may use. -/
theorem toolName_mem_of_reachedCall?
    {context : HandlerContext}
    {request : Json}
    {call : ServiceCall}
    (reached : reachedCall? context request = some call) :
    call.toolName ∈ context.profile.allowedTools := by
  unfold reachedCall? at reached
  cases read : readRequest request with
  | error thrown =>
      rw [read] at reached
      cases reached
  | ok parts =>
      obtain ⟨id, method⟩ := parts
      simp only [read] at reached
      split at reached
      · cases called : toolName? request with
        | none =>
            simp [HandlerContext.reachedCall?, called] at reached
        | some name =>
            obtain ⟨available, converted⟩ :=
              (reachedCall?_eq_some_iff called).mp reached
            rw [← HandlerContext.eq_toolName_of_serviceCall converted]
            simp only [isAvailable, Bool.and_eq_true,
              contains_eq_true] at available
            exact available.2
      · cases reached

end V2026_07_28

namespace Gateway

section Requests

variable {World : Type}
variable {setting : GatewaySetting World}
variable {gateway : Gateway}
variable {environment : Environment}
variable {request : HttpRequest}

/-- An HTTP request makes a service call as a client. -/
structure Asks
    (setting : GatewaySetting World)
    (gateway : Gateway)
    (environment : Environment)
    (request : HttpRequest)
    (profile : McpClientProfile)
    (call : ServiceCall) : Prop where
  running :
    gateway.host.desktop.mcpHost.running = true
  /-- The host lets its message through, which makes the call. -/
  admitted :
    ∃ message,
      Admits setting.library.toJsonLibrary gateway.service request profile
          message ∧
        V2026_07_28.reachedCall? (setting.context environment profile)
            message =
          some call
  /-- The client may use the tool. -/
  allowed :
    call.toolName ∈ profile.allowedTools

theorem admitted?_eq_some_iff
    {profile : McpClientProfile}
    {message : Json} :
    gateway.admitted? setting request = some (profile, message) ↔
      Admits setting.library.toJsonLibrary gateway.service request profile
        message := by
  unfold admitted? handlerCalls
  by_cases someone :
      ∃ profile message,
        Admits setting.library.toJsonLibrary gateway.service request
          profile message
  · obtain ⟨client, body, admits⟩ := someone
    rw [snd_handle_of_admits admits]
    simp only [List.nil_append, List.head?_cons, Option.some.injEq,
      Prod.mk.injEq]
    constructor
    · rintro ⟨rfl, rfl⟩
      exact admits
    · intro admitsOther
      exact admits.unique admitsOther
  · push Not at someone
    rw [snd_handle_of_not_admits someone]
    simp [someone]

theorem reached?_eq_some_iff
    {profile : McpClientProfile}
    {call : ServiceCall}
    (running : gateway.host.desktop.mcpHost.running = true) :
    gateway.reached? setting environment request = some (profile, call) ↔
      gateway.Asks setting environment request profile call := by
  unfold reached?
  constructor
  · intro reached
    cases admitted : gateway.admitted? setting request with
    | none =>
        rw [admitted] at reached
        cases reached
    | some client =>
        obtain ⟨owner, message⟩ := client
        simp only [admitted, Option.map_eq_some_iff, Prod.mk.injEq]
          at reached
        obtain ⟨_, made, rfl, rfl⟩ := reached
        exact {
          running := running
          admitted :=
            ⟨message, admitted?_eq_some_iff.mp admitted, made⟩
          allowed :=
            V2026_07_28.toolName_mem_of_reachedCall? made }
  · intro asks
    obtain ⟨message, admits, made⟩ := asks.admitted
    rw [admitted?_eq_some_iff.mpr admits]
    exact Option.map_eq_some_iff.mpr ⟨call, made, rfl⟩

/-- A request in one piece leaves the state that its service call leaves. -/
theorem snd_handle :
    (gateway.handle setting environment request).2 =
      match gateway.reached? setting environment request with
      | none => gateway.pipeline.desktop.service
      | some (profile, call) =>
          (call.perform gateway.pipeline.desktop.service
            setting.policyEngine environment profile).2 := by
  unfold handle reached?
  cases admitted : gateway.admitted? setting request with
  | none =>
      apply snd_handle_of_not_admits
      intro profile message admits
      rw [admitted?_eq_some_iff.mpr admits] at admitted
      cases admitted
  | some client =>
      obtain ⟨profile, message⟩ := client
      rw [snd_handle_of_admits (admitted?_eq_some_iff.mp admitted)]
      simp only [LocalMcpHttpService.invokeProtocolHandler]
      refine (V2026_07_28.snd_handle
        (setting.context environment profile) _ message).trans ?_
      cases V2026_07_28.reachedCall?
        (setting.context environment profile) message <;> rfl

end Requests

end Gateway

section Sender

open McpHostConfigurationRepository

/-- A client that may write to one chat once the operator approves. -/
def senderProfile : McpClientProfile where
  id := bytes "agent"
  allowedAccounts := [bytes "work"]
  allowedTools :=
    [bytes "telegram_prepare_send_message",
      bytes "telegram_execute_approved_action"]
  allowedChats := [42]
  writePolicy := .requireApproval

/-- A call of one tool. -/
def toolMessage (name : Bytes) (arguments : List (Bytes × Json)) : Json :=
  .ofMembers
    [(bytes "jsonrpc", .string (bytes "2.0")),
      (bytes "id", .numberUnsigned 1),
      (bytes "method", .string (bytes "tools/call")),
      (bytes "params", .ofMembers
        [(bytes "name", .string name),
          (bytes "arguments", .ofMembers arguments),
          (bytes "_meta", .ofMembers
            [(bytes "io.modelcontextprotocol/protocolVersion",
                .string V2026_07_28.kProtocolVersion),
              (bytes "io.modelcontextprotocol/clientInfo", serverInfo),
              (bytes "io.modelcontextprotocol/clientCapabilities",
                .ofMembers [])])])]

/-- Its transport, with the token of the client. -/
def toolRequest (name body : Bytes) : HttpRequest where
  method := bytes "POST"
  path := bytes "/mcp"
  headers :=
    [(bytes "Authorization", bytes "Bearer " ++ List.replicate 64 97),
      (bytes "Content-Type", bytes "application/json"),
      (bytes "Accept", bytes "application/json, text/event-stream"),
      (bytes "MCP-Protocol-Version", V2026_07_28.kProtocolVersion),
      (bytes "Mcp-Method", bytes "tools/call"),
      (bytes "Mcp-Name", name)]
  body := body

/-- The application with this client; the library reads two messages. -/
def senderSetting : GatewaySetting Draws where
  library :=
    writtenLibrary
      [(bytes "prepare",
          toolMessage (bytes "telegram_prepare_send_message")
            [(bytes "account_id", .string (bytes "work")),
              (bytes "chat_id", .numberInteger 42),
              (bytes "text", .string (bytes "hello"))]),
        (bytes "execute",
          toolMessage (bytes "telegram_execute_approved_action")
            [(bytes "action_id", .string zeroId)])]
      agentDocuments
  platform := McpHost.plainSecrets.platform
  policyEngine := policyEngine
  tools := addDefaultTools {}
  profiles := [senderProfile]
  mcpHostPath := bytes "mcp-host.json"
  files := agentFiles

/-- The host starts for this client. -/
def senderStart : GatewayCall Draws :=
  .host (.start [senderProfile] (agentSupply []))

/-- The host starts, a message is prepared, approved and taken. -/
def senderCalls : List (GatewayCall Draws) := [
  senderStart,
  .request { random := zeroRandom }
    (toolRequest (bytes "telegram_prepare_send_message")
      (bytes "prepare")),
  .approve ticksPerSecond zeroId,
  .request { now := 2 * ticksPerSecond }
    (toolRequest (bytes "telegram_execute_approved_action")
      (bytes "execute"))
]

end Sender

end TgGate
