import OrgCli.Mcp.Transport

/-!
# `OrgCli.Mcp.Client`: the MCP client

`Client` of `src/mcp/client.rs`: the initialize handshake, `tools/list` and `tools/call`.
Every method goes through `request`, which sends one message and reads one reply.
`checkResponse` is the part of `request` after the reply is read.

`nextId` is a `u64` counter, and its increment wraps as in a release build.
-/

set_option autoImplicit false

namespace OrgCli.Mcp

open OrgCli.Support (SortedMap)

/-- The JSON-RPC request that `Client::request` builds. -/
def requestMsg (id : UInt64) (method : String) (params : Json) : Json :=
  .object (SortedMap.ofList [("jsonrpc", .string "2.0"), ("id", .ofU64 id),
    ("method", .string method), ("params", params)])

/-- The JSON-RPC notification that `Client::notify` builds. -/
def notificationMsg (method : String) (params : Json) : Json :=
  .object (SortedMap.ofList [("jsonrpc", .string "2.0"), ("method", .string method),
    ("params", params)])

/-- The empty object `json!({})`. -/
def emptyObject : Json := .object SortedMap.empty

/-- The params of `initialize`. The version is the package version in `Cargo.toml`. -/
def initializeParams : Json :=
  .object (SortedMap.ofList [
    ("protocolVersion", .string "2024-11-05"),
    ("clientInfo", .object (SortedMap.ofList [("name", .string "org-cli"),
      ("version", .string "0.1.0")])),
    ("capabilities", emptyObject)])

/-- The params of a `tools/call`. -/
def toolsCallParams (toolName : String) (arguments : Json) : Json :=
  .object (SortedMap.ofList [("name", .string toolName), ("arguments", arguments)])

variable (env : Env)

/-- The checks of `Client::request` on a reply to the request `id`. The `id` member is
compared when it is there, then an `error` member is mapped to a `ToolError`, and last the
`result` member is taken. -/
def checkResponse (id : UInt64) (resp : Json) : Except McpError Json := do
  -- "Validate response id matches": a reply without an `id` goes on.
  match resp.get? "id" with
  | some respId =>
    if respId ≠ .ofU64 id then
      throw (.protocol ("response id " ++ env.serde.debugValue respId
        ++ s!" does not match request id {id}"))
  | none => pure ()
  -- "Check for JSON-RPC error": each member of the error object has a default.
  match resp.get? "error" with
  | some err =>
    let code := ((err.get? "code").bind Json.asI64).getD (-1)
    let message := ((err.get? "message").bind Json.asStr).getD "unknown error"
    let data := (err.get? "data").getD .null
    throw (.toolError code message data)
  | none => pure ()
  -- "Extract result"
  match resp.get? "result" with
  | some result => return result
  | none => throw (.protocol "response missing 'result' field")

namespace Client

/-- `Client::next_id`. -/
def takeId : Client.M UInt64 := do
  let (c, w) ← get
  set ({ c with nextId := c.nextId + 1 }, w)
  return c.nextId

/-- `Client::request`. -/
def request (method : String) (params : Json) : Client.M Json := do
  -- The id is used up even when the send or the read fails.
  let id ← takeId
  send env (requestMsg id method params)
  let resp ← recv env
  match checkResponse env id resp with
  | .ok result => return result
  | .error e => throw e

/-- `Client::notify`. -/
def notify (method : String) (params : Json) : Client.M Unit :=
  send env (notificationMsg method params)

/-- `Client::handshake`. -/
def handshake : Client.M Unit := do
  let result ← request env "initialize" initializeParams
  -- "Verify server supports tools capability"
  let caps := result.get? "capabilities"
  if (caps.map fun c => (c.get? "tools").isNone).getD true then
    throw (.protocol "server does not advertise tools capability")
  notify env "notifications/initialized" emptyObject

/-- `Client::tools_list`. -/
def toolsList : Client.M (List Json) := do
  let result ← request env "tools/list" emptyObject
  match (result.get? "tools").bind Json.asArray with
  | some tools => return tools
  | none => throw (.protocol "tools/list response missing 'tools' array")

/-- `Client::server_has_tool`. -/
def serverHasTool (toolName : String) : Client.M Bool := do
  let tools ← toolsList env
  return tools.any fun t =>
    (((t.get? "name").bind Json.asStr).map fun n => decide (n = toolName)).getD false

/-- `Client::tools_call`: the content array of the result, or the whole result. -/
def toolsCall (toolName : String) (arguments : Json) : Client.M Json := do
  let result ← request env "tools/call" (toolsCallParams toolName arguments)
  -- Only `content` is looked at. The other members of the result are dropped with it.
  return (result.get? "content").getD result

end Client

/-- Run a method of a client in the program. -/
def Client.run {α : Type} (client : Client) (x : Client.M α) :
    Proc (Except McpError α × Client) := fun w =>
  match x (client, w) with
  | .ok a (c, w') => ((.ok a, c), w')
  | .error e (c, w') => ((.error e, c), w')

/-- `Client::connect_with_timeout`: spawn the server and perform the handshake. -/
def Client.connectWithTimeout (argv : List String) (timeout : Option Duration) :
    Proc (Except McpError Client) := do
  match ← Transport.spawn env argv with
  | .error e => return .error e
  | .ok transport =>
    let client : Client := { transport := transport.setTimeout timeout, nextId := 1 }
    match ← client.run (Client.handshake env) with
    | (.ok (), client) => return .ok client
    -- The client is dropped here, and its child is killed.
    | (.error e, _) => return .error e

end OrgCli.Mcp
