import OrgCli.Argv
import OrgCli.Cli
import OrgCli.Contract
import OrgCli.Mcp.Client
import OrgCli.Output
import OrgCli.Uri

/-!
# `OrgCli.Main`: the command handlers

`main` and `run` of `src/main.rs`, every handler that `run` dispatches to, and
`extractResult`, the mapping from MCP content to printed data. Clap is not defined here:
`main` takes it as its argument `parse`.

About 25 handlers of the source have one body: connect, call a tool, print the extracted
result or the error. That body is `callTool`. Each handler keeps its own definition, which
is `callTool` at the handler's tool name and arguments. `cmdToolsList`, `cmdToolsCall` and
`cmdQueryGtd` differ in what they print, and keep their own bodies.

The source builds the arguments after `connect`. They do not depend on it, so here they are
built at the call.
-/

set_option autoImplicit false

namespace OrgCli

open OrgCli.Mcp
open OrgCli.Support (SortedMap splitOnce)
open OrgCli.Uri (normalizeForTool validateOutlinePath)

/-- `if let Some(s) = value { arguments[key] = json!(s) }`. -/
def Map.setSome (arguments : Map) (key : String) (value : Option String) : Map :=
  match value with
  | some s => arguments.insert key (.string s)
  | none => arguments

/-- `json!(s)` for a value, and `Value::Null` for none. -/
def Json.ofOption : Option String → Json
  | some s => .string s
  | none => .null

variable (env : Env)

/-! ### Content mapping -/

/-- `item.get(key).and_then(Value::as_str).unwrap_or("")`. -/
def Json.strField (item : Json) (key : String) : String :=
  ((item.get? key).bind Json.asStr).getD ""

/-- `main::map_content_item`. -/
def mapContentItem (item : Json) : Json :=
  match item.strField "type" with
  | "text" =>
      match (item.get? "text").bind Json.asStr with
      | some text =>
          -- A text that is JSON is printed as that JSON, and any other text is wrapped.
          match env.serde.fromStr text with
          | .ok parsed => parsed
          | .error _ => .object (SortedMap.ofList [("text", .string text)])
      | none => .object (SortedMap.ofList [("type", .string "text"), ("raw", item)])
  | "image" =>
      .object (SortedMap.ofList [("type", .string "image"),
        ("mime_type", .string (item.strField "mimeType")),
        ("data", .string (item.strField "data"))])
  | "resource" | "embedded_resource" =>
      let res := (item.get? "resource").getD .null
      -- `text` is there only when the resource has it.
      let out : Map := SortedMap.ofList [("type", .string "resource"),
        ("uri", .string (res.strField "uri")),
        ("mime_type", .string (res.strField "mimeType"))]
      .object (out.setSome "text" ((res.get? "text").bind Json.asStr))
  | "resource_link" =>
      .object (SortedMap.ofList [("type", .string "resource_link"),
        ("uri", .string (item.strField "uri")),
        ("name", .string (item.strField "name")),
        ("mime_type", .string (item.strField "mimeType")),
        ("description", .string (item.strField "description"))])
  | typeStr => .object (SortedMap.ofList [("type", .string typeStr), ("raw", item)])

/-- `main::extract_result`: null for no item, the mapped item for one, and an array of the
mapped items for more. Content that is not an array is returned as it is. -/
def extractResult (content : Json) : Json :=
  match content.asArray with
  | none => content
  | some [] => .null
  | some [item] => mapContentItem env item
  | some items => .array (items.map (mapContentItem env))

/-! ### Shared steps -/

/-- `main::handle_mcp_error`. -/
def handleMcpError (e : McpError) (compact : Bool) : Proc Int32 :=
  let kind : ErrorKind := match e.kindStr with
    | "tool" => .tool
    | _ => .transport
  printError kind e.rpcCode e.toString e.rpcData e.exitCode compact

/-- `main::connect`: a connected client, or the exit code of the error it printed. -/
def connect (argv : List String) (compact : Bool) : Proc (Except Int32 Client) := do
  -- No seconds mean no timeout.
  let secs := (← get).recvTimeoutSecs
  let timeout := if secs = 0 then none else some (Duration.fromSecs secs)
  match ← Client.connectWithTimeout env argv timeout with
  | .ok client => return .ok client
  | .error e => return .error (← handleMcpError e compact)

/-- The common body of the tool handlers. -/
def callTool (argv : List String) (toolName : String) (arguments : Map) (compact : Bool) :
    Proc Int32 := do
  match ← connect env argv compact with
  | .error code => return code
  | .ok client =>
    match (← client.run (Client.toolsCall env toolName (.object arguments))).1 with
    | .ok content =>
      printSuccess (extractResult env content) compact
      return 0
    | .error e => handleMcpError e compact

/-! ### Handlers -/

/-- `main::cmd_schema`. -/
def cmdSchema (path : List String) (compact : Bool) : Proc Int32 := do
  if path.isEmpty then
    printSuccess Contract.serializeAll compact
    return 0
  else
    match Contract.serializeOne path with
    | some data =>
      printSuccess data compact
      return 0
    | none =>
      printError .usage 2 ("unknown command path: " ++ " ".intercalate path) .null 2 compact

/-- `main::cmd_tools_list`. -/
def cmdToolsList (argv : List String) (compact : Bool) : Proc Int32 := do
  match ← connect env argv compact with
  | .error code => return code
  | .ok client =>
    match (← client.run (Client.toolsList env)).1 with
    | .ok tools =>
      printSuccess (.object (SortedMap.ofList [("tools", .array tools)])) compact
      return 0
    | .error e => handleMcpError e compact

/-- `main::cmd_tools_call`. -/
def cmdToolsCall (argv : List String) (toolName : String) (arguments : Json)
    (compact : Bool) : Proc Int32 := do
  match ← connect env argv compact with
  | .error code => return code
  | .ok client =>
    match (← client.run (Client.toolsCall env toolName arguments)).1 with
    | .ok content =>
      let result := extractResult env content
      printSuccess (.object (SortedMap.ofList [("tool", .string toolName),
        ("result", result)])) compact
      return 0
    | .error e => handleMcpError e compact

/-- The `ToolsCmd::Call` arm of `main::run`. -/
def runToolsCall (argv : List String) (name : String) (args : Option String)
    (compact : Bool) : Proc Int32 :=
  match args with
  | none => cmdToolsCall env argv name emptyObject compact
  | some s =>
      match env.serde.fromStr s with
      | .ok v => cmdToolsCall env argv name v compact
      | .error e => printError .usage 2 s!"--args is not valid JSON: {e}" .null 2 compact

/-- `main::cmd_read`. -/
def cmdRead (argv : List String) (uri : String) (compact : Bool) : Proc Int32 :=
  callTool env argv "org-read" (.ofList [("uri", .string (normalizeForTool uri))]) compact

/-- `main::cmd_read_headline`. -/
def cmdReadHeadline (argv : List String) (uri : String) (compact : Bool) : Proc Int32 :=
  callTool env argv "org-read-headline" (.ofList [("uri", .string (normalizeForTool uri))])
    compact

/-- `main::cmd_outline`. -/
def cmdOutline (argv : List String) (file : String) (compact : Bool) : Proc Int32 :=
  callTool env argv "org-read-outline" (.ofList [("file", .string file)]) compact

/-- `main::cmd_query_run`. -/
def cmdQueryRun (argv : List String) (qlExpr : String) (files : List String)
    (compact : Bool) : Proc Int32 :=
  callTool env argv "org-ql-query"
    (.ofList [("ql_expr", .string qlExpr), ("files", .strings files)]) compact

/-- The arguments of `main::cmd_query_gtd`. -/
def tagArguments : Option String → Map
  | some t => .ofList [("tag", .string t)]
  | none => .empty

/-- `main::cmd_query_gtd`: a reply with the code -32601 becomes a usage error. -/
def cmdQueryGtd (argv : List String) (toolName : String) (tag : Option String)
    (compact : Bool) : Proc Int32 := do
  match ← connect env argv compact with
  | .error code => return code
  | .ok client =>
    let arguments := tagArguments tag
    match (← client.run (Client.toolsCall env toolName (.object arguments))).1 with
    | .ok content =>
      printSuccess (extractResult env content) compact
      return 0
    | .error (.toolError code message data) =>
      -- "Method not found": the server has no GTD tools.
      if code = -32601 then
        printError .usage (-1) ("GTD tool '" ++ toolName ++ "' not advertised by server "
          ++ "(org-mcp GTD support is optional and conditional on runtime config)") .null 2
          compact
      else handleMcpError (.toolError code message data) compact
    | .error e => handleMcpError e compact

/-- `main::cmd_query`. -/
def cmdQuery (argv : List String) (args : QueryArgs) (compact : Bool) : Proc Int32 :=
  match args.kind with
  | some (.run qlExpr files) => cmdQueryRun env argv qlExpr files compact
  | some .inbox => cmdQueryGtd env argv "query-inbox" none compact
  | some (.next tag) => cmdQueryGtd env argv "query-next" tag compact
  | some (.backlog tag) => cmdQueryGtd env argv "query-backlog" tag compact
  | none =>
      match args.qlExpr with
      | some expr => cmdQueryRun env argv expr args.files compact
      | none =>
          printError .usage 2
            "org query requires an expression or subcommand (run/inbox/next/backlog)"
            .null 2 compact

/-- `main::cmd_todo_state`. -/
def cmdTodoState (argv : List String) (uri newState : String) (from' note : Option String)
    (compact : Bool) : Proc Int32 :=
  let arguments : Map :=
    .ofList [("uri", .string (normalizeForTool uri)), ("new_state", .string newState)]
  -- An option that is not given leaves no key behind.
  let arguments := (arguments.setSome "current_state" from').setSome "note" note
  callTool env argv "org-update-todo-state" arguments compact

/-- `main::cmd_todo_add`. -/
def cmdTodoAdd (argv : List String) (parent title state : String) (body : Option String)
    (tags : List String) (after : Option String) (compact : Bool) : Proc Int32 :=
  let arguments : Map := .ofList [("parent_uri", .string (normalizeForTool parent)),
    ("title", .string title), ("todo_state", .string state), ("tags", .strings tags)]
  let arguments := (arguments.setSome "body" body).setSome "after_uri"
    (after.map normalizeForTool)
  callTool env argv "org-add-todo" arguments compact

/-- `main::cmd_todo`. -/
def cmdTodo (argv : List String) (kind : TodoKind) (compact : Bool) : Proc Int32 :=
  match kind with
  | .state uri newState from' note => cmdTodoState env argv uri newState from' note compact
  | .add parent title state body tags after =>
      cmdTodoAdd env argv parent title state body tags after compact

/-- The loop of `main::parse_set_pairs`: each pair is split at its first `=`, and a pair
without one stops the loop with a usage message. -/
def parseSetPairsFrom (map : Map) : List String → Except String Map
  | [] => .ok map
  | pair :: pairs =>
      match splitOnce pair '=' with
      -- A later value of a key replaces an earlier one.
      | some (key, val) => parseSetPairsFrom (map.insert key (.string val)) pairs
      | none => .error ("--set value " ++ env.serde.debugStr pair
          ++ " is malformed: expected k=v form")

/-- `main::parse_set_pairs`. -/
def parseSetPairs (pairs : List String) : Except String Map :=
  parseSetPairsFrom env .empty pairs

/-- `main::cmd_edit_rename`. -/
def cmdEditRename (argv : List String) (uri from' to' : String) (compact : Bool) :
    Proc Int32 :=
  callTool env argv "org-rename-headline" (.ofList [("uri", .string (normalizeForTool uri)),
    ("current_title", .string from'), ("new_title", .string to')]) compact

/-- `main::cmd_edit_body`. The server's key is `resource_uri`. -/
def cmdEditBody (argv : List String) (uri new : String) (old : Option String)
    (append compact : Bool) : Proc Int32 :=
  let arguments : Map := .ofList [("resource_uri", .string (normalizeForTool uri)),
    ("new_body", .string new), ("append", .bool append)]
  callTool env argv "org-edit-body" (arguments.setSome "old_body" old) compact

/-- The merge loop of `main::cmd_edit_properties`: each `--unset` key is set to null. -/
def mergeUnsets (setMap : Map) (unsets : List String) : Map :=
  unsets.foldl (fun properties key => properties.insert key .null) setMap

/-- `main::cmd_edit_properties`. -/
def cmdEditProperties (argv : List String) (uri : String) (setMap : Map)
    (unsets : List String) (compact : Bool) : Proc Int32 :=
  callTool env argv "org-set-properties" (.ofList [("uri", .string (normalizeForTool uri)),
    ("properties", .object (mergeUnsets setMap unsets))]) compact

/-- `main::cmd_edit_tags`. -/
def cmdEditTags (argv : List String) (uri : String) (tags : List String) (compact : Bool) :
    Proc Int32 :=
  callTool env argv "org-set-tags"
    (.ofList [("uri", .string (normalizeForTool uri)), ("tags", .strings tags)]) compact

/-- `main::cmd_edit_priority`: no priority is sent as null. -/
def cmdEditPriority (argv : List String) (uri : String) (priority : Option String)
    (compact : Bool) : Proc Int32 :=
  callTool env argv "org-set-priority"
    (.ofList [("uri", .string (normalizeForTool uri)), ("priority", .ofOption priority)])
    compact

/-- `main::cmd_edit_scheduled`: no date is sent as null. -/
def cmdEditScheduled (argv : List String) (uri : String) (date : Option String)
    (compact : Bool) : Proc Int32 :=
  callTool env argv "org-update-scheduled"
    (.ofList [("uri", .string (normalizeForTool uri)), ("scheduled", .ofOption date)]) compact

/-- `main::cmd_edit_deadline`: no date is sent as null. -/
def cmdEditDeadline (argv : List String) (uri : String) (date : Option String)
    (compact : Bool) : Proc Int32 :=
  callTool env argv "org-update-deadline"
    (.ofList [("uri", .string (normalizeForTool uri)), ("deadline", .ofOption date)]) compact

/-- `main::cmd_edit_log_note`. -/
def cmdEditLogNote (argv : List String) (uri note : String) (compact : Bool) : Proc Int32 :=
  callTool env argv "org-add-logbook-note"
    (.ofList [("uri", .string (normalizeForTool uri)), ("note", .string note)]) compact

/-- `main::cmd_edit`. The `--set` pairs are parsed before the server is spawned. -/
def cmdEdit (argv : List String) (kind : EditKind) (compact : Bool) : Proc Int32 :=
  match kind with
  | .rename uri from' to' => cmdEditRename env argv uri from' to' compact
  | .body uri new old append => cmdEditBody env argv uri new old append compact
  | .properties uri sets unsets =>
      match parseSetPairs env sets with
      | .ok setMap => cmdEditProperties env argv uri setMap unsets compact
      | .error msg => printError .usage 2 msg .null 2 compact
  | .tags uri tags => cmdEditTags env argv uri tags compact
  | .priority uri priority => cmdEditPriority env argv uri priority compact
  | .scheduled uri date => cmdEditScheduled env argv uri date compact
  | .deadline uri date => cmdEditDeadline env argv uri date compact
  | .logNote uri note => cmdEditLogNote env argv uri note compact

/-- `main::cmd_clock_status`. -/
def cmdClockStatus (argv : List String) (compact : Bool) : Proc Int32 :=
  callTool env argv "org-clock-get-active" .empty compact

/-- `main::cmd_clock_in`: `resolve` is sent as the string "true" or "false". -/
def cmdClockIn (argv : List String) (uri : String) (at' : Option String)
    (resolve compact : Bool) : Proc Int32 :=
  -- The tool takes `resolve` as a string.
  let resolveStr := if resolve then "true" else "false"
  let arguments : Map :=
    .ofList [("uri", .string (normalizeForTool uri)), ("resolve", .string resolveStr)]
  callTool env argv "org-clock-in" (arguments.setSome "start_time" at') compact

/-- `main::cmd_clock_out`. -/
def cmdClockOut (argv : List String) (uri at' : Option String) (compact : Bool) :
    Proc Int32 :=
  let arguments : Map := SortedMap.empty
  let arguments := (arguments.setSome "uri" (uri.map normalizeForTool)).setSome "end_time" at'
  callTool env argv "org-clock-out" arguments compact

/-- `main::cmd_clock_add`. -/
def cmdClockAdd (argv : List String) (uri start end' : String) (compact : Bool) :
    Proc Int32 :=
  callTool env argv "org-clock-add" (.ofList [("uri", .string (normalizeForTool uri)),
    ("start", .string start), ("end", .string end')]) compact

/-- `main::cmd_clock_delete`. -/
def cmdClockDelete (argv : List String) (uri at' : String) (compact : Bool) : Proc Int32 :=
  callTool env argv "org-clock-delete"
    (.ofList [("uri", .string (normalizeForTool uri)), ("start", .string at')]) compact

/-- `main::cmd_clock_dangling`. -/
def cmdClockDangling (argv : List String) (compact : Bool) : Proc Int32 :=
  callTool env argv "org-clock-find-dangling" .empty compact

/-- `main::cmd_clock`. -/
def cmdClock (argv : List String) (kind : ClockKind) (compact : Bool) : Proc Int32 :=
  match kind with
  | .status => cmdClockStatus env argv compact
  | .in' uri at' resolve => cmdClockIn env argv uri at' resolve compact
  | .out uri at' => cmdClockOut env argv uri at' compact
  | .add uri start end' => cmdClockAdd env argv uri start end' compact
  | .delete uri at' => cmdClockDelete env argv uri at' compact
  | .dangling => cmdClockDangling env argv compact

/-- `main::cmd_config_call`. -/
def cmdConfigCall (argv : List String) (toolName : String) (compact : Bool) : Proc Int32 :=
  callTool env argv toolName .empty compact

/-- `main::cmd_config`. -/
def cmdConfig (argv : List String) (kind : ConfigKind) (compact : Bool) : Proc Int32 :=
  match kind with
  | .todo => cmdConfigCall env argv "org-get-todo-config" compact
  | .tags => cmdConfigCall env argv "org-get-tag-config" compact
  | .tagCandidates => cmdConfigCall env argv "org-get-tag-candidates" compact
  | .priority => cmdConfigCall env argv "org-get-priority-config" compact
  | .files => cmdConfigCall env argv "org-get-allowed-files" compact
  | .clock => cmdConfigCall env argv "org-get-clock-config" compact

/-- `main::run`. Schema is a local command, and an outline path is checked before the server
is spawned. -/
def run (cli : Cli) (compact : Bool) : Proc Int32 := do
  modify fun w => { w with recvTimeoutSecs := cli.timeout }
  let argv := cli.serverArgv
  match cli.command with
  -- `schema` is answered from the registry, without a server.
  | .schema path => cmdSchema path compact
  | .outline file =>
    match validateOutlinePath file with
    | .error e => printError .usage 2 e.toString .null 2 compact
    | .ok _ => cmdOutline env argv file compact
  | .read uri => cmdRead env argv uri compact
  | .readHeadline uri => cmdReadHeadline env argv uri compact
  | .query args => cmdQuery env argv args compact
  | .todo kind => cmdTodo env argv kind compact
  | .edit kind => cmdEdit env argv kind compact
  | .clock kind => cmdClock env argv kind compact
  | .config kind => cmdConfig env argv kind compact
  | .tools .list => cmdToolsList env argv compact
  | .tools (.call name args) => runToolsCall env argv name args compact

/-- The end of `main::main`: run the parsed command line from process start. -/
def execute (cli : Cli) : Int32 × World := run env cli cli.compact World.initial

/-! ### The process -/

/-- `main::SUBCOMMAND_NAMES`. -/
def SUBCOMMAND_NAMES : List String :=
  ["read", "read-headline", "outline", "query", "todo", "edit", "clock", "config", "schema",
    "tools"]

/-- The start of `main::main`, where `parse` is `Cli::parse_from`: the command line that `run`
gets. It is `none` when clap rejects the arguments and ends the process, or an index panics. -/
def commandLine (parse : List String → Option Cli) (raw : List String) : Option Cli := do
  let (cleaned, extra) ← Argv.splitSentinel raw SUBCOMMAND_NAMES
  let cli ← parse cleaned
  return { cli with serverArgs := cli.serverArgs ++ extra }

/-- `main::main`: the exit code and what the run leaves behind. -/
def main (parse : List String → Option Cli) (raw : List String) : Option (Int32 × World) :=
  (commandLine parse raw).map (execute env)

end OrgCli
