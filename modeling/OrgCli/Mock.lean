import OrgCli.Main
import OrgCli.Mcp.System

/-!
# `OrgCli.Mock`: the mock server

`tests/fixtures/mock_org_mcp/main.rs`: the MCP server that the integration tests start. It
reads one JSON-RPC message a line, answers `initialize`, `tools/list` and `tools/call`, and
its environment variables make it fail in chosen ways. `Mock.machine` is the whole process.

A `Mock` holds the environment variables and the calls into `serde_json`: the parser of a
`Request`, which a derive macro generates, and `encode`, the text of a value on one line. A
serialized struct is represented by its value. `MOCK_HANG_MS` only delays a reply, and time
is not modelled. The lines of the input are UTF-8, and any other line ends the loop, which is
not modelled either. The request log is the list of its lines.
-/

set_option autoImplicit false

namespace OrgCli

open OrgCli.Mcp (Line)
open OrgCli.Support (SortedMap Machine startsWith trim)

namespace Mock

/-- `Request`. -/
structure Request where
  jsonrpc : String
  id : Option Json
  method : String
  params : Option Json
  deriving DecidableEq

/-- The environment variables, each as `std::env::var(..).ok()`. -/
structure Vars where
  toolError : Option String
  toolErrorData : Option String
  noGtd : Option String
  recordRequests : Option String
  requestLog : Option String
  dieAfterHandshake : Option String
  responseKind : Option String

/-- `RpcError`. -/
structure RpcError where
  code : Int64
  message : String
  data : Option Json

/-- `Response`. -/
structure Response where
  jsonrpc : String
  id : Json
  result : Option Json
  error : Option RpcError

/-- `json!({..})`. -/
def obj (entries : List (String × Json)) : Json := .object (.ofList entries)

/-- The serialized `RpcError`. -/
def RpcError.toValue (e : RpcError) : Json :=
  .object (.ofFields [("code", some (.ofI64 e.code)), ("message", some (.string e.message)),
    ("data", e.data)])

/-- The serialized `Response`. A member that is none is left out. -/
def Response.toValue (r : Response) : Json :=
  .object (.ofFields [("jsonrpc", some (.string r.jsonrpc)), ("id", some r.id),
    ("result", r.result), ("error", r.error.map RpcError.toValue)])

/-! ### `tools/list` -/

/-- `make_tool`. -/
def makeTool (name description : String) (schema : Json) : Json :=
  obj [("name", .string name), ("description", .string description), ("inputSchema", schema)]

/-- The schema of an object. Without required properties it has no `required`. -/
def objectSchema (properties : List (String × Json)) (required : List String) : Json :=
  .object (.ofFields [("type", some (.string "object")), ("properties", some (obj properties)),
    ("required", if required = [] then none else some (.strings required))])

/-- The schema `{"type": name}`. -/
def typeSchema (name : String) : Json := obj [("type", .string name)]

/-- The schema of a string with a description. -/
def describedSchema (description : String) : Json :=
  obj [("type", .string "string"), ("description", .string description)]

/-- The schema of an array of strings. -/
def stringsSchema : Json := obj [("type", .string "array"), ("items", typeSchema "string")]

/-- String properties without descriptions. -/
def stringProperties (names : List String) : List (String × Json) :=
  names.map fun name => (name, typeSchema "string")

/-- The tools that are always there. -/
def coreTools : List Json := [
  makeTool "org-read" "Read an org node and its children as JSON"
    (objectSchema [("uri", describedSchema "Node URI, UUID, file path, or file#headline")]
      ["uri"]),
  makeTool "org-read-headline" "Read an org node as plain text"
    (objectSchema [("uri", describedSchema "Org node URI or identifier")] ["uri"]),
  makeTool "org-read-outline" "List the outline of an org file"
    (objectSchema [("file", describedSchema "Absolute path to org file")] ["file"]),
  makeTool "org-update-todo-state" "Update the TODO state of a node"
    (objectSchema (stringProperties ["uri", "new_state", "current_state", "note"])
      ["uri", "new_state"]),
  makeTool "org-add-todo" "Add a new TODO node"
    (objectSchema (stringProperties ["parent_uri", "title", "todo_state", "body"]
      ++ [("tags", stringsSchema)] ++ stringProperties ["after_uri"]) ["parent_uri", "title"]),
  makeTool "org-edit-body" "Edit the body of a node"
    (objectSchema (stringProperties ["resource_uri", "new_body", "old_body"]
      ++ [("append", typeSchema "boolean")]) ["resource_uri", "new_body"]),
  makeTool "org-rename-headline" "Rename a node headline"
    (objectSchema (stringProperties ["uri", "current_title", "new_title"])
      ["uri", "current_title", "new_title"]),
  makeTool "org-set-properties" "Edit node properties"
    (objectSchema [("uri", typeSchema "string"), ("properties", typeSchema "object")]
      ["uri", "properties"]),
  makeTool "org-set-tags" "Edit node tags"
    (objectSchema [("uri", typeSchema "string"), ("tags", stringsSchema)] ["uri"]),
  makeTool "org-set-priority" "Edit node priority"
    (objectSchema [("uri", typeSchema "string"),
      ("priority", obj [("type", .string "string"), ("enum", .strings ["A", "B", "C"])])]
      ["uri"]),
  makeTool "org-update-scheduled" "Edit node scheduled date"
    (objectSchema (stringProperties ["uri", "scheduled"]) ["uri"]),
  makeTool "org-update-deadline" "Edit node deadline date"
    (objectSchema (stringProperties ["uri", "deadline"]) ["uri"]),
  makeTool "org-add-logbook-note" "Add a log note to a node"
    (objectSchema (stringProperties ["uri", "note"]) ["uri", "note"]),
  makeTool "org-clock-get-active" "Get current clock status" (objectSchema [] []),
  makeTool "org-clock-in" "Clock in to a node"
    (objectSchema (stringProperties ["uri", "start_time"] ++ [("resolve", typeSchema "boolean")])
      ["uri"]),
  makeTool "org-clock-out" "Clock out"
    (objectSchema (stringProperties ["uri", "end_time"]) []),
  makeTool "org-clock-add" "Add a clock entry"
    (objectSchema (stringProperties ["uri", "start", "end"]) ["uri", "start", "end"]),
  makeTool "org-clock-delete" "Delete a clock entry"
    (objectSchema (stringProperties ["uri", "start"]) ["uri", "start"]),
  makeTool "org-clock-find-dangling" "List dangling clock entries" (objectSchema [] []),
  makeTool "org-get-todo-config" "Get configured TODO states" (objectSchema [] []),
  makeTool "org-get-tag-config" "Get configured tags" (objectSchema [] []),
  makeTool "org-get-tag-candidates" "Get tag candidates" (objectSchema [] []),
  makeTool "org-get-priority-config" "Get priority configuration" (objectSchema [] []),
  makeTool "org-get-allowed-files" "Get configured org files" (objectSchema [] []),
  makeTool "org-get-clock-config" "Get clock configuration" (objectSchema [] []),
  makeTool "org-ql-query" "Query org files with org-ql"
    (objectSchema [("query", typeSchema "string"), ("files", stringsSchema)] ["query"])]

/-- The tools that `MOCK_NO_GTD` takes away. -/
def gtdTools : List Json := [
  makeTool "query-inbox" "Query GTD inbox" (objectSchema [] []),
  makeTool "query-next" "Query GTD next actions" (objectSchema (stringProperties ["tag"]) []),
  makeTool "query-backlog" "Query GTD backlog" (objectSchema (stringProperties ["tag"]) [])]

/-! ### `tools/call` -/

/-- `arguments.get(key).and_then(Value::as_str).unwrap_or(default)`. -/
def strArg (arguments : Json) (key default : String) : String :=
  ((arguments.get? key).bind Json.asStr).getD default

/-- `arguments.get(key).cloned().unwrap_or(Value::Null)`. -/
def valueArg (arguments : Json) (key : String) : Json := (arguments.get? key).getD .null

/-- `format!("org://{}", uri)`. -/
def orgUri (uri : String) : Json := .string ("org://" ++ uri)

/-- `str::contains`. -/
def contains (pattern : List Char) : List Char → Bool
  | [] => pattern.isEmpty
  | c :: cs => pattern.isPrefixOf (c :: cs) || contains pattern cs

/-- A list of matches with its count. -/
def found (key : String) (entries : List Json) : Json :=
  obj [(key, .array entries), ("count", .ofU64 (.ofNat entries.length))]

/-- The entry of a GTD query. The tag is echoed when it is a string. -/
def gtdEntry (arguments : Json) (entry : List (String × Json)) : Json :=
  .object (Map.setSome (.ofList entry) "filtered_tag" ((arguments.get? "tag").bind Json.asStr))

/-- The JSON that a tool answers. `org-read-headline` is not here: it answers plain text. -/
def payload (toolName : String) (arguments : Json) : Json :=
  match toolName with
  | "org-read" => obj [("title", .string "Mock Title"), ("todo", .string "TODO"),
      ("uri", orgUri (strArg arguments "uri" "unknown")), ("children", .array [])]
  | "org-read-outline" => obj [("file", .string (strArg arguments "file" "unknown")),
      ("outline", .array [obj [("title", .string "Top"), ("level", .ofU64 1),
        ("children", .array [])]])]
  | "org-update-todo-state" => obj [("success", .bool true),
      ("uri", orgUri (strArg arguments "uri" "unknown")),
      ("new_state", .string (strArg arguments "new_state" "")),
      ("current_state", valueArg arguments "current_state"),
      ("note", valueArg arguments "note")]
  | "org-add-todo" => obj [("success", .bool true), ("uri", orgUri "new-id-12345"),
      ("parent_uri", valueArg arguments "parent_uri"), ("title", valueArg arguments "title"),
      ("todo_state", valueArg arguments "todo_state"),
      ("tags", (arguments.get? "tags").getD (.array [])),
      ("after_uri", valueArg arguments "after_uri"), ("body", valueArg arguments "body")]
  | "org-ql-query" =>
      if contains "empty".toList (strArg arguments "ql_expr" "").toList then found "matches" []
      else found "matches" [obj [("uri", orgUri "q1"), ("title", .string "Result 1")],
        obj [("uri", orgUri "q2"), ("title", .string "Result 2")]]
  | "query-inbox" =>
      found "matches" [obj [("uri", orgUri "inbox-item"), ("title", .string "Inbox 1")]]
  | "query-next" => found "matches" [gtdEntry arguments [("uri", orgUri "next-item"),
      ("title", .string "Next 1"), ("tags", .strings ["work"])]]
  | "query-backlog" => found "matches" [gtdEntry arguments [("uri", orgUri "backlog-item"),
      ("title", .string "Backlog 1")]]
  | "org-clock-get-active" => obj [("clocked_in", .bool true),
      ("current", obj [("uri", orgUri "current-task"), ("title", .string "Working"),
        ("since", .string "2026-04-27T08:00:00Z")])]
  | "org-clock-in" => obj [("success", .bool true), ("uri", orgUri (strArg arguments "uri" "")),
      ("start_time", valueArg arguments "start_time"), ("resolve", valueArg arguments "resolve")]
  | "org-clock-out" => obj [("success", .bool true),
      ("uri", (((arguments.get? "uri").bind Json.asStr).map orgUri).getD (orgUri "current")),
      ("end_time", valueArg arguments "end_time")]
  | "org-clock-add" => obj [("success", .bool true), ("uri", orgUri (strArg arguments "uri" "")),
      ("start", valueArg arguments "start"), ("end", valueArg arguments "end")]
  | "org-clock-delete" => obj [("success", .bool true),
      ("uri", orgUri (strArg arguments "uri" "")), ("start", valueArg arguments "start")]
  | "org-clock-find-dangling" => found "dangling" [obj [("uri", orgUri "orphan-1"),
      ("title", .string "Unterminated clock"), ("start", .string "2026-04-26T22:00:00Z")]]
  | "org-get-todo-config" => obj [
      ("keywords", .strings ["TODO", "NEXT", "WAITING", "DONE", "CANCELLED"]),
      ("groups", .array [
        obj [("name", .string "todo"), ("keywords", .strings ["TODO", "NEXT", "WAITING"])],
        obj [("name", .string "done"), ("keywords", .strings ["DONE", "CANCELLED"])]])]
  | "org-get-tag-config" => obj [("tags", .strings ["work", "home", "urgent", "read"])]
  | "org-get-tag-candidates" => obj [("candidates", .array [
      obj [("tag", .string "work"), ("count", .ofU64 42)],
      obj [("tag", .string "home"), ("count", .ofU64 17)]])]
  | "org-get-priority-config" => obj [("priorities", .strings ["A", "B", "C"]),
      ("default", .string "B")]
  | "org-get-allowed-files" => obj [("agenda_files", .strings ["/home/user/.org/inbox.org",
      "/home/user/.org/projects.org"])]
  | "org-get-clock-config" => obj [("persist", .bool true),
      ("resolve_strategy", .string "prompt"), ("idle_minutes", .ofU64 15)]
  -- "Generic: echo args + success".
  | _ => obj [("success", .bool true),
      ("uri", ((arguments.get? "uri").or (arguments.get? "resource_uri")).getD
        (.string "synthetic-uri")),
      ("tool", .string toolName), ("arguments", arguments)]

/-- Content of one text item. -/
def textContent (text : String) : Json :=
  .array [obj [("type", .string "text"), ("text", .string text)]]

/-- The image item of the substituted content. -/
def imageItem : Json := obj [("type", .string "image"),
  ("data", .string ("iVBORw0KGgoAAAANSUhEUgAAAAEAAAABCAYAAAAfFcSJAAAADUlEQVR42mNk"
    ++ "+M9QDwADhgGAWjR9awAAAABJRU5ErkJggg==")),
  ("mimeType", .string "image/png")]

/-- The content that `MOCK_RESPONSE_KIND` substitutes, whatever the tool is. -/
def substitute (kind : Option String) (content : Json) : Json :=
  match kind with
  | some "image" => .array [imageItem]
  | some "resource" => .array [obj [("type", .string "resource"),
      ("resource", obj [("uri", orgUri "res-xyz"), ("mimeType", .string "text/plain"),
        ("text", .string "hello")])]]
  | some "mixed" => .array [obj [("type", .string "text"),
      ("text", .string "\x7b\"key\":\"value\"\x7d")], imageItem]
  | _ => content

/-- The tools that are optional. -/
def isGtdTool (toolName : String) : Bool :=
  toolName = "query-inbox" || toolName = "query-next" || toolName = "query-backlog"

end Mock

/-! ### The process -/

/-- The surroundings of a mock process: its environment variables, and what it calls of
`serde_json`. -/
structure Mock where
  vars : Mock.Vars
  /-- `serde_json::from_str::<Value>`. -/
  fromStr : String → Except String Json
  /-- `serde_json::from_str::<Request>`. -/
  parse : String → Except String Mock.Request
  /-- `serde_json::to_string`, as a line. -/
  encode : Json → Line

namespace Mock

variable (mock : Mock)

/-- `tool_error_data`. -/
def toolErrorData : Option Json := mock.vars.toolErrorData.bind fun s => (mock.fromStr s).toOption

/-- `die_after_handshake`. -/
def dieAfterHandshake : Bool := mock.vars.dieAfterHandshake = some "1"

/-- `no_gtd`. -/
def noGtd : Bool := mock.vars.noGtd = some "1"

/-- `record_request`, on a log file that can be written. -/
def recordRequest (log : List String) (reqJson : String) : List String :=
  if mock.vars.recordRequests ≠ some "1" then log
  else if mock.vars.requestLog.isSome then log ++ [reqJson] else log

/-- `tools_list`. -/
def toolsList : Json :=
  obj [("tools", .array (if mock.noGtd then coreTools else coreTools ++ gtdTools))]

/-- The `Response` of `handle_initialize`. -/
def handleInitialize (id : Json) : Response where
  jsonrpc := "2.0"
  id := id
  result := some (obj [("protocolVersion", .string "2024-11-05"),
    ("serverInfo", obj [("name", .string "mock-org-mcp"), ("version", .string "0.1.0")]),
    ("capabilities", obj [("tools", Mcp.emptyObject)])])
  error := none

/-- `handle_tools_list`. -/
def handleToolsList (id : Json) : Response := ⟨"2.0", id, some mock.toolsList, none⟩

/-- The content of a tool that does not fail. -/
def toolContent (toolName : String) (arguments : Json) : Json :=
  match toolName with
  | "org-read-headline" => textContent
      ("* TODO Mock Title\nMock body for " ++ strArg arguments "uri" "unknown")
  | _ => textContent (mock.encode (payload toolName arguments)).text

/-- `handle_tools_call`. -/
def handleToolsCall (id : Json) (params : Option Json) : Response :=
  let params := params.getD Mcp.emptyObject
  let toolName := strArg params "name" ""
  let arguments := (params.get? "arguments").getD Mcp.emptyObject
  if mock.vars.toolError = some toolName then
    ⟨"2.0", id, none, some ⟨-32000, "Invalid input", mock.toolErrorData⟩⟩
  -- "GTD tools were stripped from tools/list."
  else if mock.noGtd && isGtdTool toolName then
    ⟨"2.0", id, none, some ⟨-32601, "Tool not found: " ++ toolName, none⟩⟩
  else
    let content := substitute mock.vars.responseKind (mock.toolContent toolName arguments)
    ⟨"2.0", id, some (obj [("content", content)]), none⟩

/-- The reply to a line that is no request. -/
def parseFailure (e : String) : Json :=
  obj [("jsonrpc", .string "2.0"), ("id", .null),
    ("error", obj [("code", .ofI64 (-32700)), ("message", .string ("Parse error: " ++ e))])]

/-- The reply to a request, as `main` dispatches it. -/
def respond (req : Request) : Response :=
  let id := req.id.getD .null
  match req.method with
  | "initialize" => handleInitialize id
  | "tools/list" => mock.handleToolsList id
  | "tools/call" => mock.handleToolsCall id req.params
  | other => ⟨"2.0", id, none, some ⟨-32601, "Method not found: " ++ other, none⟩⟩

/-- The state of the process: the lines of the request log, and whether it has exited. -/
structure State where
  log : List String
  exited : Bool
  deriving DecidableEq

/-- The process at its start. -/
def State.fresh : State := ⟨[], false⟩

/-- `BufRead::lines` drops a carriage return before the newline. -/
def chomp (line : String) : String :=
  if line.toList.getLast? = some '\r' then String.ofList line.toList.dropLast else line

/-- One turn of the loop of `main`. -/
def handle (s : State) (line : String) : State × List Line :=
  let line := chomp line
  if (trim line).isEmpty then (s, [])
  else
    match mock.parse line with
    | .error e => (s, [mock.encode (parseFailure e)])
    | .ok req =>
        let log := mock.recordRequest s.log line
        -- "Notifications have no id — no response"
        if req.id.isNone && startsWith req.method "notifications/" then
          ({ s with log := log }, [])
        else
          -- `initialize` writes its reply before the process exits.
          (⟨log, s.exited || (req.method = "initialize" && mock.dieAfterHandshake)⟩,
            [mock.encode (mock.respond req).toValue])

/-- The process. -/
def machine : Machine State String Line := ⟨mock.handle, State.exited⟩

end Mock

end OrgCli
