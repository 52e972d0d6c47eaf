import OrgCli.Main

/-!
# `OrgCli.Spec.Plan`: what a command is

The abstract view of a command. A command either reports something on its own, or it makes
one exchange with the server and reports on the reply: its `Plan`. A `Report` is the exit
code and the envelope.

`encode` is the table of the tool calls: the tool name and the fields of each command, with
its URIs as they are given. `Commands.toolCall` normalizes the URIs first and drops the
absent fields. A command that fails its own validation has no tool call. `plan` puts the
parts together, and `Proofs/Plan.lean` proves that `run` carries out exactly this plan.

`Commands.uriArgs` names the URI arguments of a command by their parameter, and
`Commands.mapUris` changes them.
-/

set_option autoImplicit false

namespace OrgCli

open OrgCli.Mcp
open OrgCli.Support (SortedMap splitOnce)
open OrgCli.Uri (normalizeForTool validateOutlinePath)

/-! ### Reports -/

/-- The exit code of a run and the envelope it prints. -/
structure Report where
  code : Int32
  printed : Printed

/-- Print the envelope and return the code. -/
def Report.emit (r : Report) : Proc Int32 := fun w => (r.code, w.print r.printed)

/-- A success envelope, with the exit code 0. -/
def successReport (data : Json) (compact : Bool) : Report :=
  ⟨0, ⟨SuccessEnvelope.toValue ⟨true, data⟩, compact⟩⟩

/-- An error envelope with its exit code. -/
def failureReport (detail : ErrorDetail) (code : Int32) (compact : Bool) : Report :=
  ⟨code, ⟨ErrorEnvelope.toValue ⟨false, detail, code⟩, compact⟩⟩

/-- A usage error, with the exit code 2. -/
def usageReport (code : Int64) (message : String) (compact : Bool) : Report :=
  failureReport ⟨.usage, code, message, .null⟩ 2 compact

/-- The kind of the envelope for an `McpError`. -/
def errorKindOf : McpError → ErrorKind
  | .toolError _ _ _ => .tool
  | _ => .transport

/-- The report of an `McpError`. -/
def errorReport (e : McpError) (compact : Bool) : Report :=
  failureReport ⟨errorKindOf e, e.rpcCode, e.toString, e.rpcData⟩ e.exitCode compact

/-! ### The URI arguments of a command -/

/-- The URI of an `edit` command. -/
@[simp] def EditKind.uri : EditKind → String
  | .rename uri _ _ | .body uri _ _ _ | .properties uri _ _ | .tags uri _ | .priority uri _
  | .scheduled uri _ | .deadline uri _ | .logNote uri _ => uri

/-- The `edit` command with another URI. -/
def EditKind.withUri (uri : String) : EditKind → EditKind
  | .rename _ from' to' => .rename uri from' to'
  | .body _ new old append => .body uri new old append
  | .properties _ sets unsets => .properties uri sets unsets
  | .tags _ names => .tags uri names
  | .priority _ letter => .priority uri letter
  | .scheduled _ date => .scheduled uri date
  | .deadline _ date => .deadline uri date
  | .logNote _ note => .logNote uri note

/-- The URI arguments of a command, each under the name of its parameter. An optional URI
that is absent is not in the list. -/
def Commands.uriArgs : Commands → List (String × String)
  | .read uri | .readHeadline uri | .todo (.state uri _ _ _) => [("uri", uri)]
  | .todo (.add parent _ _ _ _ after) =>
      ("parent", parent) :: after.toList.map fun u => ("after", u)
  | .edit kind => [("uri", kind.uri)]
  | .clock (.in' uri _ _) | .clock (.add uri _ _) | .clock (.delete uri _) => [("uri", uri)]
  | .clock (.out uri _) => uri.toList.map fun u => ("uri", u)
  | _ => []

/-- The command with `f name` applied to each URI argument, where `name` is the name of its
parameter. -/
def Commands.mapUris (f : String → String → String) : Commands → Commands
  | .read uri => .read (f "uri" uri)
  | .readHeadline uri => .readHeadline (f "uri" uri)
  | .todo (.state uri newState from' note) => .todo (.state (f "uri" uri) newState from' note)
  | .todo (.add parent title state body tags after) =>
      .todo (.add (f "parent" parent) title state body tags (after.map (f "after")))
  | .edit kind => .edit (kind.withUri (f "uri" kind.uri))
  | .clock (.in' uri at' resolve) => .clock (.in' (f "uri" uri) at' resolve)
  | .clock (.out uri at') => .clock (.out (uri.map (f "uri")) at')
  | .clock (.add uri start end') => .clock (.add (f "uri" uri) start end')
  | .clock (.delete uri at') => .clock (.delete (f "uri" uri) at')
  -- The path of `outline` is not a URI, and the other commands have none.
  | c => c

/-- The command with every URI normalized. -/
def Commands.normalized (c : Commands) : Commands := c.mapUris fun _ => normalizeForTool

/-! ### The tool call of a command -/

/-- The `--set` strings as keys and values, if each of them has a `=`. -/
def setPairs (sets : List String) : Option (List (String × String)) :=
  sets.mapM (splitOnce · '=')

/-- The `properties` object of `edit properties`. -/
def propertiesMap (pairs : List (String × String)) (unsets : List String) : Map :=
  mergeUnsets (.ofList (pairs.map fun p => (p.1, .string p.2))) unsets

/-- The command is `query inbox`, `query next` or `query backlog`. -/
def Commands.isGtd : Commands → Bool
  | .query ⟨_, _, some .inbox⟩ | .query ⟨_, _, some (.next _)⟩
  | .query ⟨_, _, some (.backlog _)⟩ => true
  | _ => false

/-- The arguments of a tool call: each key with its value, or with none when the call leaves
it out. -/
abbrev Fields := List (String × Option Json)

/-- The fields of an org-ql query. -/
def queryRunFields (qlExpr : String) (files : List String) : Fields :=
  [("ql_expr", some (.string qlExpr)), ("files", some (.strings files))]

/-- The fields of `edit properties`. -/
def propertiesFields (uri : String) (pairs : List (String × String)) (unsets : List String) :
    Fields :=
  [("uri", some (.string uri)), ("properties", some (.object (propertiesMap pairs unsets)))]

/-- The tool call of a query. -/
def encodeQuery : QueryArgs → Option (String × Fields)
  | ⟨_, _, some (.run qlExpr files)⟩ => some ("org-ql-query", queryRunFields qlExpr files)
  | ⟨_, _, some .inbox⟩ => some ("query-inbox", [])
  | ⟨_, _, some (.next tag)⟩ => some ("query-next", [("tag", tag.map .string)])
  | ⟨_, _, some (.backlog tag)⟩ => some ("query-backlog", [("tag", tag.map .string)])
  | ⟨some expr, files, none⟩ => some ("org-ql-query", queryRunFields expr files)
  | ⟨none, _, none⟩ => none

/-- The tool call of a `todo` command. -/
def encodeTodo : TodoKind → String × Fields
  | .state uri newState from' note => ("org-update-todo-state",
      [("uri", some (.string uri)), ("new_state", some (.string newState)),
        ("current_state", from'.map .string), ("note", note.map .string)])
  | .add parent title state body tags after => ("org-add-todo",
      [("parent_uri", some (.string parent)), ("title", some (.string title)),
        ("todo_state", some (.string state)), ("tags", some (.strings tags)),
        ("body", body.map .string), ("after_uri", after.map .string)])

/-- The tool call of an `edit` command. -/
def encodeEdit : EditKind → Option (String × Fields)
  | .rename uri from' to' => some ("org-rename-headline",
      [("uri", some (.string uri)), ("current_title", some (.string from')),
        ("new_title", some (.string to'))])
  | .body uri new old append => some ("org-edit-body",
      [("resource_uri", some (.string uri)), ("new_body", some (.string new)),
        ("append", some (.bool append)), ("old_body", old.map .string)])
  | .properties uri sets unsets => (setPairs sets).map fun pairs =>
      ("org-set-properties", propertiesFields uri pairs unsets)
  | .tags uri tags => some ("org-set-tags",
      [("uri", some (.string uri)), ("tags", some (.strings tags))])
  | .priority uri priority => some ("org-set-priority",
      [("uri", some (.string uri)), ("priority", some (.ofOption priority))])
  | .scheduled uri date => some ("org-update-scheduled",
      [("uri", some (.string uri)), ("scheduled", some (.ofOption date))])
  | .deadline uri date => some ("org-update-deadline",
      [("uri", some (.string uri)), ("deadline", some (.ofOption date))])
  | .logNote uri note => some ("org-add-logbook-note",
      [("uri", some (.string uri)), ("note", some (.string note))])

/-- The tool call of a `clock` command. -/
def encodeClock : ClockKind → String × Fields
  | .status => ("org-clock-get-active", [])
  | .in' uri at' resolve => ("org-clock-in",
      [("uri", some (.string uri)),
        ("resolve", some (.string (if resolve then "true" else "false"))),
        ("start_time", at'.map .string)])
  | .out uri at' => ("org-clock-out", [("uri", uri.map .string), ("end_time", at'.map .string)])
  | .add uri start end' => ("org-clock-add",
      [("uri", some (.string uri)), ("start", some (.string start)),
        ("end", some (.string end'))])
  | .delete uri at' => ("org-clock-delete",
      [("uri", some (.string uri)), ("start", some (.string at'))])
  | .dangling => ("org-clock-find-dangling", [])

/-- The tool of a `config` command. -/
def configTool : ConfigKind → String
  | .todo => "org-get-todo-config"
  | .tags => "org-get-tag-config"
  | .tagCandidates => "org-get-tag-candidates"
  | .priority => "org-get-priority-config"
  | .files => "org-get-allowed-files"
  | .clock => "org-get-clock-config"

/-- The tool name and the fields of a command, with its URIs as they are. There is no call
for `tools` and `schema`, and none for a command that fails its validation. -/
def encode : Commands → Option (String × Fields)
  | .read uri => some ("org-read", [("uri", some (.string uri))])
  | .readHeadline uri => some ("org-read-headline", [("uri", some (.string uri))])
  | .outline file =>
      if (validateOutlinePath file).isOk then
        some ("org-read-outline", [("file", some (.string file))])
      else none
  | .query args => encodeQuery args
  | .todo kind => some (encodeTodo kind)
  | .edit kind => encodeEdit kind
  | .clock kind => some (encodeClock kind)
  | .config kind => some (configTool kind, [])
  -- The call of `tools call` is the user's own, and `schema` makes none.
  | .tools _ => none
  | .schema _ => none

/-- The command is neither `tools` nor `schema`, so its call is the one that `encode` gives. -/
def Commands.isWire : Commands → Bool
  | .tools _ | .schema _ => false
  | _ => true

/-- The tool name and the fields that a command sends. -/
def Commands.fields (c : Commands) : Option (String × Fields) := encode c.normalized

/-- The tool name and the arguments that a command sends. -/
def Commands.toolCall (c : Commands) : Option (String × Map) :=
  c.fields.map fun call => (call.1, .ofFields call.2)

/-! ### The plan of a command -/

/-- What a command does: a report, or one request to a connected server and a report on its
result. -/
inductive Plan where
  | report (r : Report)
  | exchange (method : String) (params : Json) (finish : Except McpError Json → Report)

/-- The content of a `tools/call` result. -/
def contentOf (result : Json) : Json := (result.get? "content").getD result

variable (env : Env)

/-- Carry out a plan. -/
def Plan.exec (argv : List String) (compact : Bool) : Plan → Proc Int32
  | .report r => r.emit
  | .exchange method params finish => do
      match ← connect env argv compact with
      | .error code => return code
      | .ok client =>
        (finish (← client.run (Client.request env method params)).1).emit

/-- The report on a reply, from the data printed for a result. -/
def finishWith (data : Json → Json) (compact : Bool) : Except McpError Json → Report
  | .ok result => successReport (data result) compact
  | .error e => errorReport e compact

/-- The message of the GTD usage error. -/
def gtdMessage (toolName : String) : String :=
  "GTD tool '" ++ toolName ++ "' not advertised by server "
    ++ "(org-mcp GTD support is optional and conditional on runtime config)"

/-- The report on the reply to a GTD query: the code -32601 becomes a usage error. -/
def finishGtd (toolName : String) (compact : Bool) : Except McpError Json → Report
  | .error (.toolError code message data) =>
      if code = -32601 then usageReport (-1) (gtdMessage toolName) compact
      else errorReport (.toolError code message data) compact
  | r => finishWith (fun result => extractResult env (contentOf result)) compact r

/-- The result of `tools/list`, checked for its array. -/
def toolsOf (result : Json) : Except McpError (List Json) :=
  match (result.get? "tools").bind Json.asArray with
  | some tools => .ok tools
  | none => .error (.protocol "tools/list response missing 'tools' array")

/-- The report on the reply to `tools/list`. -/
def finishToolsList (compact : Bool) (r : Except McpError Json) : Report :=
  match r.bind toolsOf with
  | .ok tools => successReport (.object (.ofList [("tools", .array tools)])) compact
  | .error e => errorReport e compact

/-- The report of `org schema`. -/
def schemaReport (path : List String) (compact : Bool) : Report :=
  if path.isEmpty then successReport Contract.serializeAll compact
  else
    match Contract.serializeOne path with
    | some data => successReport data compact
    | none => usageReport 2 ("unknown command path: " ++ " ".intercalate path) compact

/-- The arguments of `tools call`. -/
def callArguments : Option String → Except String Json
  | none => .ok emptyObject
  | some s => env.serde.fromStr s

/-- The message of a command that fails its validation. -/
def usageMessage : Commands → String
  | .outline _ => Uri.OutlineUriError.orgUriNotAllowed.toString
  | .edit (.properties _ sets _) =>
      match parseSetPairs env sets with
      | .error msg => msg
      | .ok _ => ""
  | _ => "org query requires an expression or subcommand (run/inbox/next/backlog)"

/-- The plan of a command. -/
def plan (c : Commands) (compact : Bool) : Plan :=
  match c with
  | .schema path => .report (schemaReport path compact)
  | .tools .list => .exchange "tools/list" emptyObject (finishToolsList compact)
  | .tools (.call name args) =>
      match callArguments env args with
      | .ok v => .exchange "tools/call" (toolsCallParams name v)
          (finishWith (fun result => .object (.ofList [("tool", .string name),
            ("result", extractResult env (contentOf result))])) compact)
      | .error e => .report (usageReport 2 s!"--args is not valid JSON: {e}" compact)
  | c =>
      match c.toolCall with
      | some (name, args) => .exchange "tools/call" (toolsCallParams name (.object args))
          (if c.isGtd then finishGtd env name compact
            else finishWith (fun result => extractResult env (contentOf result)) compact)
      | none => .report (usageReport 2 (usageMessage env c) compact)

end OrgCli
