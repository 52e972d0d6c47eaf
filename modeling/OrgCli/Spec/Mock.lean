import OrgCli.Mock
import OrgCli.Proofs.Client

/-!
# `OrgCli.Spec.Mock`: what a JSON-RPC server owes its client

`Mock.Reply` is the contract of the mock for one line: nothing for a blank line and for a
notification, an error without an id for a line that is no request, and for every other line
one response that carries the request's own id and has either a `result` or an `error`.
`Mock.heard` are the lines that the process handles before it exits, and `Mock.recorded` what
it logs of them.

`Mock.outcome` is what a client's request comes to on this server.
-/

set_option autoImplicit false

namespace OrgCli.Mock

open OrgCli.Mcp (Line McpError initializeRequest initializedNotification initializeParams
  requestMsg parseItem)
open OrgCli.Support (startsWith trim)

/-! ### One line -/

/-- A response to the request `id`: it has the version and the id, and one of the two members
that tell how the request ended. -/
structure IsResponse (id r : Json) : Prop where
  version : r.get? "jsonrpc" = some (.string "2.0")
  correlated : r.get? "id" = some id
  one : (r.get? "result").isSome ≠ (r.get? "error").isSome

variable (mock : Mock)

/-- The request of a line, if the line is one. A blank line is skipped before it is parsed. -/
def requestOf (line : String) : Option Request :=
  if (trim (chomp line)).isEmpty then none else (mock.parse (chomp line)).toOption

/-- A request that gets no reply. -/
def Request.isNotification (req : Request) : Bool :=
  req.id.isNone && startsWith req.method "notifications/"

/-- What the server owes for a line. -/
inductive Reply (line : String) : Option Json → Prop
  | blank (hblank : (trim (chomp line)).isEmpty = true) : Reply line none
  | garbage (e : String) (hparse : mock.parse (chomp line) = .error e)
      (hline : (trim (chomp line)).isEmpty = false) (r : Json) (hr : IsResponse .null r)
      (hcode : ((r.get? "error").bind (·.get? "code")).bind Json.asI64 = some (-32700)) :
      Reply line (some r)
  | notification (req : Request) (hreq : mock.requestOf line = some req)
      (hnotification : req.isNotification = true) : Reply line none
  | request (req : Request) (hreq : mock.requestOf line = some req)
      (hrequest : req.isNotification = false) (r : Json) (hr : IsResponse (req.id.getD .null) r) :
      Reply line (some r)

/-- The process exits when it has answered this line. -/
def stops (line : String) : Bool :=
  match mock.requestOf line with
  | some req => !req.isNotification && req.method = "initialize" && mock.dieAfterHandshake
  | none => false

/-- The line of the request log for a line. -/
def recorded (line : String) : List String :=
  if (mock.requestOf line).isSome then mock.recordRequest [] (chomp line) else []

/-! ### All lines -/

/-- The lines that the process handles: it exits with the first one that stops it. -/
def heard : List String → List String
  | [] => []
  | line :: lines => if mock.stops line then [line] else line :: heard lines

/-! ### A client's request -/

/-- A client's message that the server reads as the request that it is. -/
def Hears (msg : Json) (req : Request) : Prop :=
  mock.requestOf (mock.encode msg).text = some req

/-- The request that a client sends. -/
def clientRequest (id : UInt64) (method : String) (params : Json) : Request :=
  ⟨"2.0", some (.ofU64 id), method, some params⟩

/-- The notification that a client sends. -/
def clientNotification : Request :=
  ⟨"2.0", none, "notifications/initialized", some Mcp.emptyObject⟩

/-- How a response reads on the client's side. -/
def Response.outcome (r : Response) : Except McpError Json :=
  match r.error, r.result with
  | some e, _ => .error (.toolError e.code e.message (e.data.getD .null))
  | none, some result => .ok result
  | none, none => .error (.protocol "response missing 'result' field")

/-- What a request comes to. -/
def outcome (method : String) (params : Json) : Except McpError Json :=
  (mock.respond (clientRequest 2 method params)).outcome

/-- A client with the surroundings `env` and the mock read each other's messages in a run that
makes the request `method`. -/
structure Speaks (env : Env) (method : String) (params : Json) : Prop where
  hearsInitialize :
    mock.Hears initializeRequest (clientRequest 1 "initialize" initializeParams)
  hearsInitialized : mock.Hears initializedNotification clientNotification
  hearsRequest : mock.Hears (requestMsg 2 method params) (clientRequest 2 method params)
  readsInitialize : parseItem env (mock.encode (handleInitialize (.ofU64 1)).toValue).item
    = .ok (handleInitialize (.ofU64 1)).toValue
  readsReply : parseItem env
      (mock.encode (mock.respond (clientRequest 2 method params)).toValue).item
    = .ok (mock.respond (clientRequest 2 method params)).toValue

/-- The request log of a run that makes the request. -/
def runLog (method : String) (params : Json) : List String :=
  [initializeRequest, initializedNotification, requestMsg 2 method params].flatMap fun msg =>
    mock.recorded (mock.encode msg).text

end OrgCli.Mock
