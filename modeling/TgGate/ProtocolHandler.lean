import TgGate.TelegramApplication

namespace TgGate

open Library

/-!
# The MCP protocol handlers

Two versions of the protocol answer JSON-RPC requests with the same tools.
They share the dispatch of a tool call and differ in which tools they offer:
version 2025-11-25 offers the tools registered on its surface, version
2026-07-28 those the profile allows.

A handler answers with JSON or throws; the state it leaves behind is returned
in either case.
-/

/-- The endpoint a tool is registered on. -/
inductive ToolSurface where
  | read
  | write
  deriving Repr, DecidableEq

/-- One registered tool. -/
structure ToolDefinition where
  name : Bytes
  description : Bytes
  surface : ToolSurface
  inputSchema : Json

/-- The registered tools, in order. -/
structure ToolRegistry where
  tools : List ToolDefinition := []

namespace ToolRegistry

/-- Find a tool on one surface. -/
def findOn
    (registry : ToolRegistry)
    (name : Bytes)
    (surface : ToolSurface) : Option ToolDefinition :=
  registry.tools.find? fun tool =>
    tool.name = name && tool.surface = surface

/-- Find a tool on any surface. -/
def find
    (registry : ToolRegistry)
    (name : Bytes) : Option ToolDefinition :=
  registry.tools.find? fun tool => tool.name = name

/-- How a tool is described to a client. -/
def describe (tool : ToolDefinition) : Json :=
  .ofMembers
    [(bytes "name", .string tool.name),
      (bytes "description", .string tool.description),
      (bytes "inputSchema", tool.inputSchema)]

/-- The tools of one surface. -/
def listOn
    (registry : ToolRegistry)
    (surface : ToolSurface) : List Json :=
  (registry.tools.filter fun tool => tool.surface = surface).map describe

/-- All tools. -/
def list (registry : ToolRegistry) : List Json :=
  registry.tools.map describe

end ToolRegistry

/-- A JSON-RPC result. -/
def rpcResult (id value : Json) : Json :=
  .ofMembers
    [(bytes "jsonrpc", .string (bytes "2.0")),
      (bytes "id", id),
      (bytes "result", value)]

/-- A JSON-RPC error of a protocol handler. -/
def rpcError (id : Json) (code : Int64) (message : Bytes) : Json :=
  .ofMembers
    [(bytes "jsonrpc", .string (bytes "2.0")),
      (bytes "id", id),
      (bytes "error",
        .ofMembers
          [(bytes "code", .numberInteger code),
            (bytes "message", .string message)])]

/-- `value("id", nullptr)` on a request. -/
def requestId (request : Json) : Except JsonException Json :=
  request.valueOr (bytes "id") .ok .null

/-- The text content of a tool result. -/
def textContent (serialized : Bytes) : Json :=
  .array
    [.ofMembers
      [(bytes "type", .string (bytes "text")),
        (bytes "text", .string serialized)]]

/-- What all handlers work with. -/
structure HandlerContext where
  library : JsonLibrary
  policyEngine : IPolicyEngine
  environment : Environment
  tools : ToolRegistry
  profile : McpClientProfile

namespace HandlerContext

/-- Run a service call on converted arguments, if the conversion succeeds. -/
def withArguments
    {Arguments : Type}
    (service : TelegramApplicationService)
    (converted : Except JsonException Arguments)
    (call :
      Arguments →
        Except Exception Json × TelegramApplicationService) :
    Except Exception (Option Json) × TelegramApplicationService :=
  match converted with
  | .error thrown => (.error (.json thrown), service)
  | .ok arguments =>
      let (response, service) := call arguments
      (response.map some, service)

/--
The body of the `try` block: call the named tool, if it is implemented.  Which
argument fails to convert first does not matter, all failures are caught alike.
-/
def callTool
    (context : HandlerContext)
    (service : TelegramApplicationService)
    (name : Bytes)
    (arguments : Json) :
    Except Exception (Option Json) × TelegramApplicationService :=
  if name = bytes "telegram_list_chats" then
    withArguments service
      (arguments.stringAt (bytes "account_id"))
      fun accountId =>
        service.listChats context.policyEngine context.environment
          context.profile accountId
  else if name = bytes "telegram_get_messages" then
    withArguments service
      (do
        let accountId ← arguments.stringAt (bytes "account_id")
        let chatId ←
          arguments.atKey (bytes "chat_id") >>=
            Json.getInt64 context.library
        let limit ←
          arguments.valueOr (bytes "limit")
            (Json.getUInt32 context.library) 50
        return (accountId, chatId, limit))
      fun (accountId, chatId, limit) =>
        service.getMessages context.policyEngine context.environment
          context.profile accountId chatId limit.toUInt64
  else if name = bytes "telegram_prepare_send_message" then
    withArguments service
      (do
        let accountId ← arguments.stringAt (bytes "account_id")
        let chatId ←
          arguments.atKey (bytes "chat_id") >>=
            Json.getInt64 context.library
        let text ← arguments.stringAt (bytes "text")
        return (accountId, chatId, text))
      fun (accountId, chatId, text) =>
        service.prepareSendMessage context.policyEngine
          context.environment context.profile accountId chatId text
  else if name = bytes "telegram_execute_approved_action" then
    withArguments service
      (arguments.stringAt (bytes "action_id"))
      fun actionId =>
        service.executeApprovedAction context.policyEngine
          context.environment context.profile actionId
  else
    (.ok none, service)

/-- Answer a `tools/call` for an available tool. -/
def answerToolCall
    (context : HandlerContext)
    (service : TelegramApplicationService)
    (id : Json)
    (name : Bytes)
    (arguments : Json)
    (wrap : Bytes → Bool → Json) :
    Except Exception Json × TelegramApplicationService :=
  match context.callTool service name arguments with
  | (.error (.json _), service) =>
      (.ok (rpcError id (-32602)
        (bytes "Tool arguments do not match the schema")), service)
  | (.error thrown, service) => (.error thrown, service)
  | (.ok none, service) =>
      (.ok (rpcError id (-32601)
        (bytes "Tool implementation is not available")), service)
  | (.ok (some response), service) =>
      let answer := do
        let serialized ← context.library.dump response
        let ok ← response.valueOr (bytes "ok") Json.getBoolean false
        return rpcResult id (wrap serialized (!ok))
      (answer.mapError Exception.json, service)

/--
The common `handle_tool_call`: which tools are available and how a result is
wrapped is up to the version.
-/
def handleToolCall
    (context : HandlerContext)
    (available : Bytes → Bool)
    (unavailable : Bytes)
    (wrap : Bytes → Bool → Json)
    (service : TelegramApplicationService)
    (request : Json) :
    Except Exception Json × TelegramApplicationService :=
  let parameters := do
    let id ← requestId request
    let params ← request.valueOr (bytes "params") .ok (.ofMembers [])
    return (id, params)
  match parameters with
  | .error thrown => (.error (.json thrown), service)
  | .ok (id, params) =>
      match params.find? (bytes "name") with
      | some (.string name) =>
          if !available name then
            (.ok (rpcError id (-32602) unavailable), service)
          else
            match params.valueOr (bytes "arguments") .ok
                (.ofMembers []) with
            | .error thrown => (.error (.json thrown), service)
            | .ok arguments =>
                context.answerToolCall service id name arguments wrap
      | _ =>
          (.ok (rpcError id (-32602)
            (bytes "tools/call requires a string name")), service)

end HandlerContext

/-- Name and version of the server. -/
def serverInfo : Json :=
  .ofMembers
    [(bytes "name", .string (bytes "TgGate")),
      (bytes "version", .string (bytes "0.1.0"))]

/-- The server offers tools. -/
def capabilities : Json :=
  .ofMembers [(bytes "tools", .ofMembers [])]

namespace V2025_11_25

/-- The version this handler negotiates. -/
def kProtocolVersion : Bytes := bytes "2025-11-25"

/-- Wrap the serialised answer of a tool. -/
def toolResult (serialized : Bytes) (isError : Bool) : Json :=
  .ofMembers
    [(bytes "content", textContent serialized),
      (bytes "isError", .boolean isError)]

/-- A read endpoint must not reveal write tools, and vice versa. -/
def handleToolCall
    (context : HandlerContext)
    (surface : ToolSurface)
    (service : TelegramApplicationService)
    (request : Json) :
    Except Exception Json × TelegramApplicationService :=
  context.handleToolCall
    (fun name => (context.tools.findOn name surface).isSome)
    (bytes "Tool is unavailable on this endpoint")
    toolResult service request

/-- The id and the method of a request, if it is a valid one. -/
def readRequest
    (request : Json) : Except JsonException (Json × Option Bytes) := do
  let id ← requestId request
  let jsonrpc ← request.valueOr (bytes "jsonrpc") Json.getString []
  if jsonrpc ≠ bytes "2.0" || !request.contains (bytes "method") then
    return (id, none)
  let method ← request.stringAt (bytes "method")
  return (id, some method)

/-- Answer one request. -/
def handle
    (context : HandlerContext)
    (surface : ToolSurface)
    (service : TelegramApplicationService)
    (request : Json) :
    Except Exception Json × TelegramApplicationService :=
  match readRequest request with
  | .error thrown => (.error (.json thrown), service)
  | .ok (id, none) =>
      (.ok (rpcError id (-32600)
        (bytes "Invalid JSON-RPC request")), service)
  | .ok (id, some method) =>
      if method = bytes "initialize" then
        (.ok (rpcResult id (.ofMembers
          [(bytes "protocolVersion", .string kProtocolVersion),
            (bytes "serverInfo", serverInfo),
            (bytes "capabilities", capabilities)])), service)
      else if method = bytes "tools/list" then
        (.ok (rpcResult id (.ofMembers
          [(bytes "tools", .array (context.tools.listOn surface))])),
          service)
      else if method = bytes "tools/call" then
        handleToolCall context surface service request
      else
        (.ok (rpcError id (-32601) (bytes "Method not found")), service)

end V2025_11_25

namespace V2026_07_28

/-- The version this handler supports. -/
def kProtocolVersion : Bytes := bytes "2026-07-28"

/-- The methods the transport lets through. -/
def supportsMethod (method : Bytes) : Bool :=
  method = bytes "server/discover" || method = bytes "tools/list" ||
    method = bytes "tools/call"

/-- The methods that name a tool in a header. -/
def requiresName (method : Bytes) : Bool :=
  method = bytes "tools/call"

/-- Wrap the serialised answer of a tool. -/
def toolResult (serialized : Bytes) (isError : Bool) : Json :=
  .ofMembers
    [(bytes "resultType", .string (bytes "complete")),
      (bytes "content", textContent serialized),
      (bytes "isError", .boolean isError)]

/-- Only tools of the profile are available. -/
def handleToolCall
    (context : HandlerContext)
    (service : TelegramApplicationService)
    (request : Json) :
    Except Exception Json × TelegramApplicationService :=
  context.handleToolCall
    (fun name =>
      (context.tools.find name).isSome &&
        contains context.profile.allowedTools name)
    (bytes "Tool is unavailable for this client")
    toolResult service request

/-- The described tools the profile allows. -/
def listTools (context : HandlerContext) : List Json :=
  context.tools.list.filter fun tool =>
    match tool.find? (bytes "name") with
    | some (.string name) => contains context.profile.allowedTools name
    | _ => false

/-- The id and the method of a request. -/
def readRequest (request : Json) : Except JsonException (Json × Bytes) := do
  let id ← requestId request
  let method ← request.stringAt (bytes "method")
  return (id, method)

/-- Answer one request. -/
def handle
    (context : HandlerContext)
    (service : TelegramApplicationService)
    (request : Json) :
    Except Exception Json × TelegramApplicationService :=
  match readRequest request with
  | .error thrown => (.error (.json thrown), service)
  | .ok (id, method) =>
      if method = bytes "server/discover" then
        (.ok (rpcResult id (.ofMembers
          [(bytes "resultType", .string (bytes "complete")),
            (bytes "supportedVersions",
              .array [.string kProtocolVersion]),
            (bytes "capabilities", capabilities),
            (bytes "_meta", .ofMembers
              [(bytes "io.modelcontextprotocol/serverInfo",
                serverInfo)]),
            (bytes "instructions", .string (bytes
              "TgGate exposes policy-controlled local Telegram tools.")),
            (bytes "ttlMs", .numberInteger 3600000),
            (bytes "cacheScope", .string (bytes "public"))])), service)
      else if method = bytes "tools/list" then
        (.ok (rpcResult id (.ofMembers
          [(bytes "resultType", .string (bytes "complete")),
            (bytes "tools", .array (listTools context)),
            (bytes "ttlMs", .numberInteger 300000),
            (bytes "cacheScope", .string (bytes "private"))])), service)
      else if method = bytes "tools/call" then
        handleToolCall context service request
      else
        (.ok (rpcError id (-32601) (bytes "Method not found")), service)

end V2026_07_28

end TgGate
