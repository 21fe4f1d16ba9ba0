import TgGate.ProtocolHandler
import Mathlib.Data.List.DropRight

namespace TgGate

open Library

/-!
# The local MCP host

`LocalMcpHttpService.handle` turns an HTTP request into a call of the newer
protocol handler.  It checks transport, origin, credentials and media types
first and the JSON-RPC request afterwards.  The second group runs inside a
`try` block, so a JSON accessor that throws also rejects the request.

The protocol handler is a parameter over an arbitrary state: whatever the host
does to that state it does by calling the handler.
-/

/-- An HTTP request; the headers are listed in iteration order. -/
structure HttpRequest where
  method : Bytes
  path : Bytes
  headers : List (Bytes × Bytes)
  body : Bytes

/-- An HTTP response. -/
structure HttpResponse where
  status : Nat
  headers : List (Bytes × Bytes) := []
  body : Bytes := []

/-- A profile with the bearer token of its client. -/
structure AuthenticatedClient where
  profile : McpClientProfile
  bearerToken : Bytes

/-- The configuration `handle` reads. -/
structure LocalMcpHttpService where
  allowedOrigins : List Bytes := []
  clients : List AuthenticatedClient := []

/-- The only path that is served. -/
def kMcpPath : Bytes := bytes "/mcp"

/-- Compare two texts, ignoring the case of ASCII letters. -/
def asciiEqualIgnoreCase (lhs rhs : Bytes) : Bool :=
  lhs.length = rhs.length &&
    (lhs.zip rhs).all fun (left, right) => toLower left = toLower right

/-- The value of the first header with a name, empty if there is none. -/
def header (request : HttpRequest) (name : Bytes) : Bytes :=
  match request.headers.find? fun value =>
      asciiEqualIgnoreCase value.1 name with
  | some value => value.2
  | none => []

/-- The scheme in front of a token. -/
def bearerScheme : Bytes := bytes "Bearer "

/-- Compare a token in constant time by accumulating differences. -/
def matchesBearerToken (authorization expected : Bytes) : Bool :=
  if authorization.length < bearerScheme.length ||
      !asciiEqualIgnoreCase
        (authorization.take bearerScheme.length) bearerScheme then
    false
  else
    let supplied := authorization.drop bearerScheme.length
    if supplied.length ≠ expected.length then
      false
    else
      let difference :=
        (supplied.zip expected).foldl
          (fun (difference : UInt8) (pair : UInt8 × UInt8) =>
            difference ||| (pair.1 ^^^ pair.2))
          0
      difference = 0

/-- `std::isspace` in the C locale. -/
def isSpace (character : UInt8) : Bool :=
  character = 32 || (9 ≤ character && character ≤ 13)

/-- Remove surrounding white space. -/
def trimAsciiWhitespace (value : Bytes) : Bytes :=
  (value.dropWhile isSpace).rdropWhile isSpace

/-- The text before the first separator and, if there is one, after it. -/
def splitFirst
    (separator : UInt8)
    (text : Bytes) : Bytes × Option Bytes :=
  (text.takeWhile (· ≠ separator),
    (text.dropWhile (· ≠ separator)).tail?)

/-- The media type before any parameters is JSON. -/
def contentTypeIsJson (contentType : Bytes) : Bool :=
  let semicolon := 59
  asciiEqualIgnoreCase
    (trimAsciiWhitespace (splitFirst semicolon contentType).1)
    (bytes "application/json")

/-- A quality value above zero. -/
def qualityIsPositive (quality : Bytes) : Bool :=
  let dot := 46
  if quality.isEmpty then
    false
  else
    let (integral, decimal) := splitFirst dot quality
    let fractional := decimal.getD []
    if (integral ≠ bytes "0" && integral ≠ bytes "1") ||
        (decimal.isSome && fractional.isEmpty) then
      false
    else if fractional.any
        fun character => character < 48 || character > 57 then
      false
    else if integral = bytes "1" then
      fractional.all (· = 48)
    else
      fractional.any (· ≠ 48)

/-- The loop over the parameters: the first `q` decides. -/
def hasPositiveQualityIn : List Bytes → Bool
  | [] => true
  | segment :: rest =>
      let equals := 61
      match splitFirst equals (trimAsciiWhitespace segment) with
      | (_, none) => hasPositiveQualityIn rest
      | (name, some value) =>
          if asciiEqualIgnoreCase (trimAsciiWhitespace name)
              (bytes "q") then
            qualityIsPositive (trimAsciiWhitespace value)
          else
            hasPositiveQualityIn rest

/-- No parameter excludes the media type. -/
def hasPositiveQuality (parameters : Bytes) : Bool :=
  let semicolon := 59
  hasPositiveQualityIn (parameters.splitOn semicolon)

/-- Some item of the header accepts the media type. -/
def acceptsMediaType (accept expected : Bytes) : Bool :=
  let comma := 44
  let semicolon := 59
  (accept.splitOn comma).any fun item =>
    let (mediaType, parameters) :=
      splitFirst semicolon (trimAsciiWhitespace item)
    asciiEqualIgnoreCase (trimAsciiWhitespace mediaType) expected &&
      parameters.all hasPositiveQuality

/-- A request id is null, a string or a number. -/
def validRequestId (value : Json) : Bool :=
  value.isNull || value.isString || value.isNumber

/-- A member that is a nonempty string. -/
def hasNonemptyString (json : Json) (key : Bytes) : Bool :=
  match json.find? key with
  | some (.string text) => !text.isEmpty
  | _ => false

/-- The metadata names the client and its capabilities. -/
def hasRequiredClientMetadata (metadata : Json) : Bool :=
  match metadata.find? (bytes "io.modelcontextprotocol/clientInfo"),
      metadata.find?
        (bytes "io.modelcontextprotocol/clientCapabilities") with
  | some clientInfo, some capabilities =>
      clientInfo.isObject &&
        hasNonemptyString clientInfo (bytes "name") &&
        hasNonemptyString clientInfo (bytes "version") &&
        capabilities.isObject
  | _, _ => false

/-- A JSON-RPC error of the host. -/
structure Rejection where
  status : Nat
  id : Json
  code : Int64
  message : Bytes
  data : Json := .null

/-- Why the checks of a request stop. -/
inductive Halt where
  | thrown (exception : JsonException)
  | rejected (rejection : Rejection)

/-- Return early unless a condition holds. -/
def require (condition : Bool) (rejection : Rejection) : Except Halt Unit :=
  if condition then .ok () else .error (.rejected rejection)

/-- Let a JSON accessor throw. -/
def mayThrow
    {Value : Type}
    (value : Except JsonException Value) : Except Halt Value :=
  value.mapError Halt.thrown

/-- The id echoed in errors. -/
def echoedId (json : Json) : Json :=
  (json.find? (bytes "id")).getD .null

/-- The method of a valid JSON-RPC request. -/
def readMethod (json : Json) : Except Halt Bytes := do
  let invalid : Rejection := {
    status := 400
    id := echoedId json
    code := -32600
    message := bytes "Invalid JSON-RPC request"
  }
  require
    (json.isObject && (json.find? (bytes "id")).all validRequestId)
    invalid
  let jsonrpc ←
    mayThrow (json.valueOr (bytes "jsonrpc") Json.getString [])
  require
    (jsonrpc = bytes "2.0" &&
      (json.find? (bytes "method")).any Json.isString)
    invalid
  mayThrow (json.stringAt (bytes "method"))

/-- The protocol version of the transport is supported. -/
def checkProtocolVersion
    (json : Json)
    (protocolVersion : Bytes) : Except Halt Unit := do
  require (!protocolVersion.isEmpty) {
    status := 400
    id := echoedId json
    code := -32020
    message := bytes "MCP-Protocol-Version is required"
  }
  require (protocolVersion = V2026_07_28.kProtocolVersion) {
    status := 400
    id := echoedId json
    code := -32022
    message := bytes "Unsupported protocol version"
    data := .ofMembers
      [(bytes "supported",
          .array [.string V2026_07_28.kProtocolVersion]),
        (bytes "requested", .string protocolVersion)]
  }

/-- The parameters of a request whose metadata repeats the version. -/
def readParams
    (json : Json)
    (protocolVersion : Bytes) : Except Halt Json := do
  let mismatch : Rejection := {
    status := 400
    id := echoedId json
    code := -32020
    message :=
      bytes "MCP protocol metadata does not match the request"
  }
  let params := (json.find? (bytes "params")).getD .null
  let metadata := (params.find? (bytes "_meta")).getD .null
  require (params.isObject && metadata.isObject) mismatch
  let version ←
    mayThrow (metadata.valueOr
      (bytes "io.modelcontextprotocol/protocolVersion")
      Json.getString [])
  require (version = protocolVersion) mismatch
  require (hasRequiredClientMetadata metadata) {
    status := 400
    id := echoedId json
    code := -32602
    message := bytes
      "MCP request metadata requires clientInfo and clientCapabilities"
  }
  return params

/-- The name header is not empty and repeats the name of the parameters. -/
def nameMatches (request : HttpRequest) (params : Json) : Bool :=
  let name := header request (bytes "Mcp-Name")
  !name.isEmpty &&
    match params.find? (bytes "name") with
    | some (.string named) => name = named
    | _ => false

/-- The headers repeat the method and, for a tool call, the name. -/
def checkHeaders
    (request : HttpRequest)
    (json params : Json)
    (method : Bytes) : Except Halt Unit := do
  require (header request (bytes "Mcp-Method") = method) {
    status := 400
    id := echoedId json
    code := -32020
    message := bytes "Mcp-Method does not match the JSON-RPC method"
  }
  require
    (!V2026_07_28.requiresName method || nameMatches request params) {
    status := 400
    id := echoedId json
    code := -32020
    message := bytes "Mcp-Name does not match the JSON-RPC request"
  }
  require (V2026_07_28.supportsMethod method) {
    status := 404
    id := echoedId json
    code := -32601
    message := bytes "Method not found"
  }

/-- All checks of the JSON-RPC request, in the order of the source. -/
def checkRequest
    (request : HttpRequest)
    (json : Json) : Except Halt Unit := do
  let method ← readMethod json
  let protocolVersion := header request (bytes "MCP-Protocol-Version")
  checkProtocolVersion json protocolVersion
  let params ← readParams json protocolVersion
  checkHeaders request json params method

/-- A response with a JSON body, or with none for `null`. -/
def response
    (library : JsonLibrary)
    (status : Nat)
    (body : Json := .null) : Except JsonException HttpResponse :=
  if body.isNull then
    .ok { status := status }
  else
    match library.dump body with
    | .error thrown => .error thrown
    | .ok text =>
        .ok {
          status := status
          headers := [(bytes "Content-Type", bytes "application/json")]
          body := text
        }

/-- The response of a rejected JSON-RPC request. -/
def rejectionResponse
    (library : JsonLibrary)
    (rejection : Rejection) : Except JsonException HttpResponse :=
  let data :=
    if rejection.data.isNull then
      []
    else
      [(bytes "data", rejection.data)]
  response library rejection.status
    (.ofMembers
      [(bytes "jsonrpc", .string (bytes "2.0")),
        (bytes "id", rejection.id),
        (bytes "error", .ofMembers
          ([(bytes "code", .numberInteger rejection.code),
            (bytes "message", .string rejection.message)] ++ data))])

/-- How the host reaches the protocol handler. -/
abbrev Invoke (State : Type) :=
  McpClientProfile → Json → State → Except Exception Json × State

namespace LocalMcpHttpService

/-- The first enabled client whose token the request presents. -/
def authenticate
    (service : LocalMcpHttpService)
    (request : HttpRequest) : Option AuthenticatedClient :=
  let authorization := header request (bytes "Authorization")
  service.clients.find? fun client =>
    client.profile.enabled &&
      matchesBearerToken authorization client.bearerToken

/-- The answer to a preflight request. -/
def preflight
    (service : LocalMcpHttpService)
    (origin : Bytes) : HttpResponse :=
  if origin.isEmpty || origin ∉ service.allowedOrigins then
    { status := 403 }
  else
    { status := 200
      headers :=
        [(bytes "Access-Control-Allow-Origin", origin),
          (bytes "Access-Control-Allow-Methods", bytes "POST"),
          (bytes "Access-Control-Allow-Headers", bytes
            ("Authorization, Content-Type, Accept, " ++
              "MCP-Protocol-Version, Mcp-Method, Mcp-Name"))] }

section Handle

variable {State : Type}

/-- The `try` block: parse, check, and call the protocol handler. -/
def answer
    (library : JsonLibrary)
    (invoke : Invoke State)
    (profile : McpClientProfile)
    (request : HttpRequest)
    (state : State) : Except Exception HttpResponse × State :=
  match library.parse request.body with
  | .error thrown => (.error (.json thrown), state)
  | .ok json =>
      match checkRequest request json with
      | .error (.thrown thrown) => (.error (.json thrown), state)
      | .error (.rejected rejection) =>
          ((rejectionResponse library rejection).mapError
            Exception.json, state)
      | .ok () =>
          match invoke profile json state with
          | (.error thrown, state) => (.error thrown, state)
          | (.ok body, state) =>
              let origin := header request (bytes "Origin")
              let allowOrigin :=
                if origin.isEmpty then
                  []
                else
                  [(bytes "Access-Control-Allow-Origin", origin)]
              let result := do
                let result ← response library 200 body
                return { result with
                  headers := result.headers ++ allowOrigin }
              (result.mapError Exception.json, state)

/-- The handlers of the `try` block. -/
def catchJson
    (library : JsonLibrary)
    (outcome : Except Exception HttpResponse) :
    Except Exception HttpResponse :=
  match outcome with
  | .error (.json .parseError) =>
      (rejectionResponse library {
        status := 400
        id := .null
        code := -32700
        message := bytes "Parse error"
      }).mapError Exception.json
  | .error (.json _) =>
      (rejectionResponse library {
        status := 400
        id := .null
        code := -32600
        message := bytes "Invalid JSON-RPC request"
      }).mapError Exception.json
  | outcome => outcome

/-- Answer an HTTP request. -/
def handle
    (service : LocalMcpHttpService)
    (library : JsonLibrary)
    (invoke : Invoke State)
    (request : HttpRequest)
    (state : State) : Except Exception HttpResponse × State :=
  if request.path ≠ kMcpPath then
    (.ok { status := 404 }, state)
  else
    let origin := header request (bytes "Origin")
    if request.method = bytes "OPTIONS" then
      (.ok (service.preflight origin), state)
    else if request.method ≠ bytes "POST" then
      (.ok { status := 405 }, state)
    else if !origin.isEmpty && origin ∉ service.allowedOrigins then
      (.ok { status := 403 }, state)
    else
      match service.authenticate request with
      | none => (.ok { status := 401 }, state)
      | some client =>
          let accept := header request (bytes "Accept")
          if !contentTypeIsJson
              (header request (bytes "Content-Type")) then
            (.ok { status := 415 }, state)
          else if !acceptsMediaType accept (bytes "application/json") ||
              !acceptsMediaType accept (bytes "text/event-stream") then
            (.ok { status := 406 }, state)
          else
            let (outcome, state) :=
              answer library invoke client.profile request state
            (catchJson library outcome, state)

end Handle

/-- The handler of version 2026-07-28 on the application service. -/
def invokeProtocolHandler
    (context : HandlerContext) : Invoke TelegramApplicationService :=
  fun profile json state =>
    V2026_07_28.handle { context with profile := profile } state json

end LocalMcpHttpService

end TgGate
