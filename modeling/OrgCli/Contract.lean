import OrgCli.Json

/-!
# `OrgCli.Contract`: the command registry

The registry of `src/contract.rs`: one `CommandSpec` for each command, with its MCP tool,
its parameters and the key each parameter has in the tool's arguments. `org schema` prints
it through `serializeAll` and `serializeOne`. The file calls it the single source of truth
for that output, and nothing in the program ties the argument builders to it.

Each entry is a definition of its own, so that a proof about one command opens one entry.
-/

set_option autoImplicit false

namespace OrgCli.Contract

open OrgCli.Support (SortedMap)

/-! ### Type definitions -/

/-- `contract::TargetKind`: what a command acts on. -/
inductive TargetKind where
  | tool
  | resource
  | internal
  deriving DecidableEq

/-- `contract::ParamKind`: how a parameter is written on the command line. -/
inductive ParamKind where
  | positional
  | flag
  | keyValue

/-- `contract::ParamType`. `uri` is an org:// URI or a bare identifier. `bareUri` is always
bare (never org://). -/
inductive ParamType where
  | uri
  | bareUri
  | filePath
  | string
  | isoDate
  | isoTimestamp
  | todoState
  | priority
  | bool
  | json
  deriving DecidableEq

/-- `contract::UriRule`: the forms a URI parameter accepts. -/
inductive UriRule where
  | bareOnly
  | orgOnly
  | eitherAccepted
  | na

/-- `contract::ServerValue`: how a parameter value is sent to the server. -/
inductive ServerValue where
  | native
  | boolAsString

/-- `contract::ServerReturns`. -/
inductive ServerReturns where
  | jsonObject
  | plainText

/-- `contract::OutputShape`. The string is an informal JSON shape (`cli_data`). -/
inductive OutputShape where
  | tool (serverReturns : ServerReturns) (cliData : String)
  | internal (cliData : String)

/-- `contract::ParamSpec`. `serverName` is the exact key used in the tool's JSON arguments
sent to org-mcp. -/
structure ParamSpec where
  name : String
  serverName : String
  required : Bool
  repeated : Bool
  kind : ParamKind
  ty : ParamType
  uriRule : UriRule
  serverValue : ServerValue
  description : String

/-- `contract::CommandSpec`. `target` is the MCP tool name for the kind `tool`. -/
structure CommandSpec where
  path : List String
  summary : String
  kind : TargetKind
  target : String
  params : List ParamSpec
  outputShape : OutputShape
  exitCodes : List (Int32 × String)

/-! ### Registry -/

/-- `contract::EXIT_STANDARD`. -/
def EXIT_STANDARD : List (Int32 × String) :=
  [(0, "success"), (1, "tool error from org-mcp"), (2, "usage / argument error"),
    (3, "transport / protocol failure"), (4, "server spawn / discovery failure")]

/-- `contract::EXIT_INTERNAL`. -/
def EXIT_INTERNAL : List (Int32 × String) := [(0, "success"), (2, "usage / argument error")]

/-- `org read`. -/
def readSpec : CommandSpec where
  path := ["read"]
  summary := "Read an org node and its children as JSON"
  kind := .tool
  target := "org-read"
  params := [
    { name := "uri", serverName := "uri", required := true, repeated := false
      kind := .positional, ty := .uri, uriRule := .eitherAccepted, serverValue := .native
      description := "Node URI, UUID, file path, or file#headline" }]
  outputShape := .tool .jsonObject
      "\x7b\"title\":\"...\",\"todo\":\"...\",\"uri\":\"org://...\",\"children\":[]\x7d"
  exitCodes := EXIT_STANDARD

/-- `org read-headline`. -/
def readHeadlineSpec : CommandSpec where
  path := ["read-headline"]
  summary := "Read an org node as plain text (wrapped as JSON)"
  kind := .tool
  target := "org-read-headline"
  params := [
    { name := "uri", serverName := "uri", required := true, repeated := false
      kind := .positional, ty := .uri, uriRule := .eitherAccepted, serverValue := .native
      description := "Node URI or identifier" }]
  outputShape := .tool .plainText
      "\x7b\"text\":\"* TODO ...headline and body...\"\x7d"
  exitCodes := EXIT_STANDARD

/-- `org outline`. -/
def outlineSpec : CommandSpec where
  path := ["outline"]
  summary := "List the outline of an org file"
  kind := .tool
  target := "org-read-outline"
  params := [
    { name := "file", serverName := "file", required := true, repeated := false
      kind := .positional, ty := .filePath, uriRule := .na, serverValue := .native
      description := "Absolute path to an org file" }]
  outputShape := .tool .jsonObject
      "\x7b\"outline\":[...]\x7d"
  exitCodes := EXIT_STANDARD

/-- `org query`. -/
def querySpec : CommandSpec where
  path := ["query"]
  summary := "Query org files with an org-ql expression"
  kind := .tool
  target := "org-ql-query"
  params := [
    { name := "ql_expr", serverName := "query", required := true, repeated := false
      kind := .positional, ty := .string, uriRule := .na, serverValue := .native
      description := "org-ql query expression" },
    { name := "files", serverName := "files", required := false, repeated := true
      kind := .keyValue, ty := .filePath, uriRule := .na, serverValue := .native
      description := "Org files to search (repeatable); defaults to agenda files" }]
  outputShape := .tool .jsonObject
      "\x7b\"results\":[...]\x7d"
  exitCodes := EXIT_STANDARD

/-- `org query inbox`. -/
def queryInboxSpec : CommandSpec where
  path := ["query", "inbox"]
  summary := "Query GTD inbox (requires GTD configuration in org-mcp)"
  kind := .tool
  target := "query-inbox"
  params := []
  outputShape := .tool .jsonObject
      "\x7b\"results\":[...]\x7d"
  exitCodes := EXIT_STANDARD

/-- `org query next`. -/
def queryNextSpec : CommandSpec where
  path := ["query", "next"]
  summary := "Query GTD next actions (requires GTD configuration in org-mcp)"
  kind := .tool
  target := "query-next"
  params := [
    { name := "tag", serverName := "tag", required := false, repeated := false
      kind := .keyValue, ty := .string, uriRule := .na, serverValue := .native
      description := "Filter by tag" }]
  outputShape := .tool .jsonObject
      "\x7b\"results\":[...]\x7d"
  exitCodes := EXIT_STANDARD

/-- `org query backlog`. -/
def queryBacklogSpec : CommandSpec where
  path := ["query", "backlog"]
  summary := "Query GTD backlog (requires GTD configuration in org-mcp)"
  kind := .tool
  target := "query-backlog"
  params := [
    { name := "tag", serverName := "tag", required := false, repeated := false
      kind := .keyValue, ty := .string, uriRule := .na, serverValue := .native
      description := "Filter by tag" }]
  outputShape := .tool .jsonObject
      "\x7b\"results\":[...]\x7d"
  exitCodes := EXIT_STANDARD

/-- `org todo state`. -/
def todoStateSpec : CommandSpec where
  path := ["todo", "state"]
  summary := "Update the TODO state of a node"
  kind := .tool
  target := "org-update-todo-state"
  params := [
    { name := "uri", serverName := "uri", required := true, repeated := false
      kind := .positional, ty := .uri, uriRule := .eitherAccepted, serverValue := .native
      description := "Node URI or identifier" },
    { name := "new-state", serverName := "new_state", required := true, repeated := false
      kind := .positional, ty := .todoState, uriRule := .na, serverValue := .native
      description := "New TODO state (e.g. TODO, DONE)" },
    { name := "from", serverName := "current_state", required := false, repeated := false
      kind := .keyValue, ty := .todoState, uriRule := .na, serverValue := .native
      description := "Required current state (optimistic concurrency guard)" },
    { name := "note", serverName := "note", required := false, repeated := false
      kind := .keyValue, ty := .string, uriRule := .na, serverValue := .native
      description := "Logbook note to attach with the state change" }]
  outputShape := .tool .jsonObject
      "\x7b\"success\":true,\"uri\":\"org://...\"\x7d"
  exitCodes := EXIT_STANDARD

/-- `org todo add`. -/
def todoAddSpec : CommandSpec where
  path := ["todo", "add"]
  summary := "Add a new TODO node"
  kind := .tool
  target := "org-add-todo"
  params := [
    { name := "parent", serverName := "parent_uri", required := true, repeated := false
      kind := .keyValue, ty := .uri, uriRule := .eitherAccepted, serverValue := .native
      description := "Parent node URI" },
    { name := "title", serverName := "title", required := true, repeated := false
      kind := .keyValue, ty := .string, uriRule := .na, serverValue := .native
      description := "Headline title for the new node" },
    { name := "state", serverName := "todo_state", required := true, repeated := false
      kind := .keyValue, ty := .todoState, uriRule := .na, serverValue := .native
      description := "Initial TODO state" },
    { name := "body", serverName := "body", required := false, repeated := false
      kind := .keyValue, ty := .string, uriRule := .na, serverValue := .native
      description := "Body text for the new node" },
    { name := "tag", serverName := "tags", required := false, repeated := true
      kind := .keyValue, ty := .string, uriRule := .na, serverValue := .native
      description := "Tag to attach (repeatable)" },
    { name := "after", serverName := "after_uri", required := false, repeated := false
      kind := .keyValue, ty := .bareUri, uriRule := .bareOnly, serverValue := .native
      description := "Sibling node after which to insert (bare ID only)" }]
  outputShape := .tool .jsonObject
      "\x7b\"success\":true,\"uri\":\"org://...\"\x7d"
  exitCodes := EXIT_STANDARD

/-- `org edit rename`. -/
def editRenameSpec : CommandSpec where
  path := ["edit", "rename"]
  summary := "Rename a node headline"
  kind := .tool
  target := "org-rename-headline"
  params := [
    { name := "uri", serverName := "uri", required := true, repeated := false
      kind := .positional, ty := .uri, uriRule := .eitherAccepted, serverValue := .native
      description := "Node URI or identifier" },
    { name := "from", serverName := "current_title", required := true, repeated := false
      kind := .keyValue, ty := .string, uriRule := .na, serverValue := .native
      description := "Expected current headline (optimistic concurrency guard)" },
    { name := "to", serverName := "new_title", required := true, repeated := false
      kind := .keyValue, ty := .string, uriRule := .na, serverValue := .native
      description := "New headline text" }]
  outputShape := .tool .jsonObject
      "\x7b\"success\":true,\"uri\":\"org://...\"\x7d"
  exitCodes := EXIT_STANDARD

/-- `org edit body`. -/
def editBodySpec : CommandSpec where
  path := ["edit", "body"]
  summary := "Edit the body text of a node"
  kind := .tool
  target := "org-edit-body"
  params := [
    { name := "uri", serverName := "resource_uri", required := true, repeated := false
      kind := .positional, ty := .uri, uriRule := .eitherAccepted, serverValue := .native
      description := "Node URI (sent to server as resource_uri)" },
    { name := "new", serverName := "new_body", required := true, repeated := false
      kind := .keyValue, ty := .string, uriRule := .na, serverValue := .native
      description := "New body text" },
    { name := "old", serverName := "old_body", required := false, repeated := false
      kind := .keyValue, ty := .string, uriRule := .na, serverValue := .native
      description := "Expected current body (optimistic concurrency guard)" },
    { name := "append", serverName := "append", required := false, repeated := false
      kind := .flag, ty := .bool, uriRule := .na, serverValue := .native
      description := "Append to existing body instead of replacing" }]
  outputShape := .tool .jsonObject
      "\x7b\"success\":true,\"uri\":\"org://...\"\x7d"
  exitCodes := EXIT_STANDARD

/-- `org edit properties`. -/
def editPropertiesSpec : CommandSpec where
  path := ["edit", "properties"]
  summary := "Edit node properties"
  kind := .tool
  target := "org-set-properties"
  params := [
    { name := "uri", serverName := "uri", required := true, repeated := false
      kind := .positional, ty := .uri, uriRule := .eitherAccepted, serverValue := .native
      description := "Node URI or identifier" },
    { name := "set", serverName := "properties", required := false, repeated := true
      kind := .keyValue, ty := .string, uriRule := .na, serverValue := .native
      description := "Property to set in k=v form (repeatable; merged into `properties` object)" },
    { name := "unset", serverName := "properties", required := false, repeated := true
      kind := .keyValue, ty := .string, uriRule := .na, serverValue := .native
      description := "Property key to remove (repeatable; merged into `properties` object as null)" }]
  outputShape := .tool .jsonObject
      "\x7b\"success\":true,\"uri\":\"org://...\"\x7d"
  exitCodes := EXIT_STANDARD

/-- `org edit tags`. -/
def editTagsSpec : CommandSpec where
  path := ["edit", "tags"]
  summary := "Set tags on a node (replaces existing tags)"
  kind := .tool
  target := "org-set-tags"
  params := [
    { name := "uri", serverName := "uri", required := true, repeated := false
      kind := .positional, ty := .uri, uriRule := .eitherAccepted, serverValue := .native
      description := "Node URI or identifier" },
    { name := "tag", serverName := "tags", required := false, repeated := true
      kind := .keyValue, ty := .string, uriRule := .na, serverValue := .native
      description := "Tag to set (repeatable); omit to clear all tags" }]
  outputShape := .tool .jsonObject
      "\x7b\"success\":true,\"uri\":\"org://...\"\x7d"
  exitCodes := EXIT_STANDARD

/-- `org edit priority`. -/
def editPrioritySpec : CommandSpec where
  path := ["edit", "priority"]
  summary := "Set the priority of a node"
  kind := .tool
  target := "org-set-priority"
  params := [
    { name := "uri", serverName := "uri", required := true, repeated := false
      kind := .positional, ty := .uri, uriRule := .eitherAccepted, serverValue := .native
      description := "Node URI or identifier" },
    { name := "priority", serverName := "priority", required := false, repeated := false
      kind := .keyValue, ty := .priority, uriRule := .na, serverValue := .native
      description := "Priority letter: A, B, or C" }]
  outputShape := .tool .jsonObject
      "\x7b\"success\":true,\"uri\":\"org://...\"\x7d"
  exitCodes := EXIT_STANDARD

/-- `org edit scheduled`. -/
def editScheduledSpec : CommandSpec where
  path := ["edit", "scheduled"]
  summary := "Set or clear the SCHEDULED date of a node"
  kind := .tool
  target := "org-update-scheduled"
  params := [
    { name := "uri", serverName := "uri", required := true, repeated := false
      kind := .positional, ty := .uri, uriRule := .eitherAccepted, serverValue := .native
      description := "Node URI or identifier" },
    { name := "date", serverName := "scheduled", required := false, repeated := false
      kind := .keyValue, ty := .isoDate, uriRule := .na, serverValue := .native
      description := "Scheduled date in YYYY-MM-DD or YYYY-MM-DD HH:MM format" }]
  outputShape := .tool .jsonObject
      "\x7b\"success\":true,\"uri\":\"org://...\"\x7d"
  exitCodes := EXIT_STANDARD

/-- `org edit deadline`. -/
def editDeadlineSpec : CommandSpec where
  path := ["edit", "deadline"]
  summary := "Set or clear the DEADLINE date of a node"
  kind := .tool
  target := "org-update-deadline"
  params := [
    { name := "uri", serverName := "uri", required := true, repeated := false
      kind := .positional, ty := .uri, uriRule := .eitherAccepted, serverValue := .native
      description := "Node URI or identifier" },
    { name := "date", serverName := "deadline", required := false, repeated := false
      kind := .keyValue, ty := .isoDate, uriRule := .na, serverValue := .native
      description := "Deadline date in YYYY-MM-DD or YYYY-MM-DD HH:MM format" }]
  outputShape := .tool .jsonObject
      "\x7b\"success\":true,\"uri\":\"org://...\"\x7d"
  exitCodes := EXIT_STANDARD

/-- `org edit log-note`. -/
def editLogNoteSpec : CommandSpec where
  path := ["edit", "log-note"]
  summary := "Add a logbook note to a node"
  kind := .tool
  target := "org-add-logbook-note"
  params := [
    { name := "uri", serverName := "uri", required := true, repeated := false
      kind := .positional, ty := .uri, uriRule := .eitherAccepted, serverValue := .native
      description := "Node URI or identifier" },
    { name := "note", serverName := "note", required := true, repeated := false
      kind := .keyValue, ty := .string, uriRule := .na, serverValue := .native
      description := "Note text to add to the logbook" }]
  outputShape := .tool .jsonObject
      "\x7b\"success\":true,\"uri\":\"org://...\"\x7d"
  exitCodes := EXIT_STANDARD

/-- `org clock status`. -/
def clockStatusSpec : CommandSpec where
  path := ["clock", "status"]
  summary := "Get the current clock status"
  kind := .tool
  target := "org-clock-get-active"
  params := []
  outputShape := .tool .jsonObject
      "\x7b\"clocked_in\":true,\"uri\":\"org://...\",\"title\":\"...\"\x7d"
  exitCodes := EXIT_STANDARD

/-- `org clock in`. -/
def clockInSpec : CommandSpec where
  path := ["clock", "in"]
  summary := "Clock in to a node"
  kind := .tool
  target := "org-clock-in"
  params := [
    { name := "uri", serverName := "uri", required := true, repeated := false
      kind := .positional, ty := .uri, uriRule := .eitherAccepted, serverValue := .native
      description := "Node URI or identifier" },
    { name := "at", serverName := "start_time", required := false, repeated := false
      kind := .keyValue, ty := .isoTimestamp, uriRule := .na, serverValue := .native
      description := "Clock-in timestamp (ISO 8601); defaults to now" },
    { name := "resolve", serverName := "resolve", required := false, repeated := false
      kind := .flag, ty := .bool, uriRule := .na, serverValue := .boolAsString
      description := "Resolve dangling clocks before clocking in (sent as string to server)" }]
  outputShape := .tool .jsonObject
      "\x7b\"success\":true,\"uri\":\"org://...\"\x7d"
  exitCodes := EXIT_STANDARD

/-- `org clock out`. -/
def clockOutSpec : CommandSpec where
  path := ["clock", "out"]
  summary := "Clock out of the active clock"
  kind := .tool
  target := "org-clock-out"
  params := [
    { name := "uri", serverName := "uri", required := false, repeated := false
      kind := .positional, ty := .uri, uriRule := .eitherAccepted, serverValue := .native
      description := "Node URI (optional; defaults to active clock)" },
    { name := "at", serverName := "end_time", required := false, repeated := false
      kind := .keyValue, ty := .isoTimestamp, uriRule := .na, serverValue := .native
      description := "Clock-out timestamp (ISO 8601); defaults to now" }]
  outputShape := .tool .jsonObject
      "\x7b\"success\":true\x7d"
  exitCodes := EXIT_STANDARD

/-- `org clock add`. -/
def clockAddSpec : CommandSpec where
  path := ["clock", "add"]
  summary := "Add a clock entry to a node"
  kind := .tool
  target := "org-clock-add"
  params := [
    { name := "uri", serverName := "uri", required := true, repeated := false
      kind := .positional, ty := .uri, uriRule := .eitherAccepted, serverValue := .native
      description := "Node URI or identifier" },
    { name := "start", serverName := "start", required := true, repeated := false
      kind := .keyValue, ty := .isoTimestamp, uriRule := .na, serverValue := .native
      description := "Clock entry start timestamp (ISO 8601)" },
    { name := "end", serverName := "end", required := true, repeated := false
      kind := .keyValue, ty := .isoTimestamp, uriRule := .na, serverValue := .native
      description := "Clock entry end timestamp (ISO 8601)" }]
  outputShape := .tool .jsonObject
      "\x7b\"success\":true\x7d"
  exitCodes := EXIT_STANDARD

/-- `org clock delete`. -/
def clockDeleteSpec : CommandSpec where
  path := ["clock", "delete"]
  summary := "Delete a clock entry from a node"
  kind := .tool
  target := "org-clock-delete"
  params := [
    { name := "uri", serverName := "uri", required := true, repeated := false
      kind := .positional, ty := .uri, uriRule := .eitherAccepted, serverValue := .native
      description := "Node URI or identifier" },
    { name := "at", serverName := "start", required := true, repeated := false
      kind := .keyValue, ty := .isoTimestamp, uriRule := .na, serverValue := .native
      description := "Timestamp identifying the clock entry to delete" }]
  outputShape := .tool .jsonObject
      "\x7b\"success\":true\x7d"
  exitCodes := EXIT_STANDARD

/-- `org clock dangling`. -/
def clockDanglingSpec : CommandSpec where
  path := ["clock", "dangling"]
  summary := "List dangling (unclosed) clock entries"
  kind := .tool
  target := "org-clock-find-dangling"
  params := []
  outputShape := .tool .jsonObject
      "\x7b\"entries\":[...]\x7d"
  exitCodes := EXIT_STANDARD

/-- `org config todo`. -/
def configTodoSpec : CommandSpec where
  path := ["config", "todo"]
  summary := "Get configured TODO states"
  kind := .tool
  target := "org-get-todo-config"
  params := []
  outputShape := .tool .jsonObject
      "\x7b\"states\":[...]\x7d"
  exitCodes := EXIT_STANDARD

/-- `org config tags`. -/
def configTagsSpec : CommandSpec where
  path := ["config", "tags"]
  summary := "Get configured tags"
  kind := .tool
  target := "org-get-tag-config"
  params := []
  outputShape := .tool .jsonObject
      "\x7b\"tags\":[...]\x7d"
  exitCodes := EXIT_STANDARD

/-- `org config tag-candidates`. -/
def configTagCandidatesSpec : CommandSpec where
  path := ["config", "tag-candidates"]
  summary := "Get tag candidates"
  kind := .tool
  target := "org-get-tag-candidates"
  params := []
  outputShape := .tool .jsonObject
      "\x7b\"candidates\":[...]\x7d"
  exitCodes := EXIT_STANDARD

/-- `org config priority`. -/
def configPrioritySpec : CommandSpec where
  path := ["config", "priority"]
  summary := "Get priority configuration"
  kind := .tool
  target := "org-get-priority-config"
  params := []
  outputShape := .tool .jsonObject
      "\x7b\"priorities\":[...]\x7d"
  exitCodes := EXIT_STANDARD

/-- `org config files`. -/
def configFilesSpec : CommandSpec where
  path := ["config", "files"]
  summary := "Get configured org files"
  kind := .tool
  target := "org-get-allowed-files"
  params := []
  outputShape := .tool .jsonObject
      "\x7b\"files\":[...]\x7d"
  exitCodes := EXIT_STANDARD

/-- `org config clock`. -/
def configClockSpec : CommandSpec where
  path := ["config", "clock"]
  summary := "Get clock configuration"
  kind := .tool
  target := "org-get-clock-config"
  params := []
  outputShape := .tool .jsonObject
      "\x7b\"config\":\x7b...\x7d\x7d"
  exitCodes := EXIT_STANDARD

/-- `org tools list`. -/
def toolsListSpec : CommandSpec where
  path := ["tools", "list"]
  summary := "List all tools exposed by the MCP server"
  kind := .internal
  target := ""
  params := []
  outputShape := .internal
      "\x7b\"tools\":[\x7b\"name\":\"...\",\"description\":\"...\",\"inputSchema\":\x7b\x7d\x7d]\x7d"
  exitCodes := EXIT_STANDARD

/-- `org tools call`. -/
def toolsCallSpec : CommandSpec where
  path := ["tools", "call"]
  summary := "Call a named MCP tool with optional JSON arguments"
  kind := .internal
  target := ""
  params := [
    { name := "name", serverName := "name", required := true, repeated := false
      kind := .positional, ty := .string, uriRule := .na, serverValue := .native
      description := "Name of the MCP tool to call" },
    { name := "args", serverName := "arguments", required := false, repeated := false
      kind := .keyValue, ty := .json, uriRule := .na, serverValue := .native
      description := "JSON object of arguments to pass to the tool" }]
  outputShape := .internal
      "\x7b\"tool\":\"...\",\"result\":\x7b...\x7d\x7d"
  exitCodes := EXIT_STANDARD

/-- `org schema`. -/
def schemaSpec : CommandSpec where
  path := ["schema"]
  summary := "Emit machine-readable metadata for all CLI commands"
  kind := .internal
  target := ""
  params := []
  outputShape := .internal
      "\x7b\"version\":1,\"commands\":[...]\x7d"
  exitCodes := EXIT_INTERNAL

/-- `org schema <path>`. -/
def schemaPathSpec : CommandSpec where
  path := ["schema", "<path>"]
  summary := "Emit machine-readable metadata for a single CLI command"
  kind := .internal
  target := ""
  params := [
    { name := "path", serverName := "", required := true, repeated := false
      kind := .positional, ty := .string, uriRule := .na, serverValue := .native
      description := "Command path segments (e.g. 'edit body')" }]
  outputShape := .internal
      "\x7b\"command\":\x7b...\x7d\x7d"
  exitCodes := EXIT_INTERNAL

/-- `contract::COMMANDS`: the registry, in the order of the source. -/
def COMMANDS : List CommandSpec :=
  [readSpec, readHeadlineSpec, outlineSpec, querySpec, queryInboxSpec, queryNextSpec,
    queryBacklogSpec, todoStateSpec, todoAddSpec, editRenameSpec, editBodySpec,
    editPropertiesSpec, editTagsSpec, editPrioritySpec, editScheduledSpec, editDeadlineSpec,
    editLogNoteSpec, clockStatusSpec, clockInSpec, clockOutSpec, clockAddSpec,
    clockDeleteSpec, clockDanglingSpec, configTodoSpec, configTagsSpec,
    configTagCandidatesSpec, configPrioritySpec, configFilesSpec, configClockSpec,
    toolsListSpec, toolsCallSpec, schemaSpec, schemaPathSpec]

/-! ### Serializer -/

/-- `contract::serialize_target_kind`. -/
def serializeTargetKind : TargetKind → String
  | .tool => "tool"
  | .resource => "resource"
  | .internal => "internal"

/-- `contract::serialize_param_kind`. -/
def serializeParamKind : ParamKind → String
  | .positional => "positional"
  | .flag => "flag"
  | .keyValue => "key_value"

/-- `contract::serialize_param_type`. -/
def serializeParamType : ParamType → String
  | .uri => "uri"
  | .bareUri => "bare_uri"
  | .filePath => "file_path"
  | .string => "string"
  | .isoDate => "iso_date"
  | .isoTimestamp => "iso_timestamp"
  | .todoState => "todo_state"
  | .priority => "priority"
  | .bool => "bool"
  | .json => "json"

/-- `contract::serialize_uri_rule`. -/
def serializeUriRule : UriRule → String
  | .bareOnly => "bare_only"
  | .orgOnly => "org_only"
  | .eitherAccepted => "either"
  | .na => "n/a"

/-- `contract::serialize_server_value`: `native` is left out of the JSON. -/
def serializeServerValue : ServerValue → Option String
  | .native => none
  | .boolAsString => some "bool_as_string"

/-- `contract::serialize_param`. -/
def serializeParam (p : ParamSpec) : Json :=
  let obj : Map := SortedMap.ofList [
    ("name", .string p.name),
    ("server_name", .string p.serverName),
    ("required", .bool p.required),
    ("repeated", .bool p.repeated),
    ("kind", .string (serializeParamKind p.kind)),
    ("type", .string (serializeParamType p.ty)),
    ("uri_rule", .string (serializeUriRule p.uriRule)),
    ("description", .string p.description)]
  match serializeServerValue p.serverValue with
  | some sv => .object (obj.insert "server_value" (.string sv))
  | none => .object obj

/-- `contract::serialize_output_shape`. -/
def serializeOutputShape : OutputShape → Json
  | .tool serverReturns cliData =>
      let sr := match serverReturns with
        | .jsonObject => "json_object"
        | .plainText => "plain_text"
      .object (SortedMap.ofList [("kind", .string "tool"), ("server_returns", .string sr),
        ("cli_data", .string cliData)])
  | .internal cliData =>
      .object (SortedMap.ofList [("kind", .string "internal"), ("cli_data", .string cliData)])

/-- `contract::serialize_command`. -/
def serializeCommand (cmd : CommandSpec) : Json :=
  let exitCodes := cmd.exitCodes.map fun (code, meaning) =>
    Json.object (SortedMap.ofList [("code", .ofI64 code.toInt64), ("meaning", .string meaning)])
  let target : Json := match cmd.kind with
    | .internal => .object (SortedMap.ofList [("kind", .string "internal")])
    | kind => .object (SortedMap.ofList [("kind", .string (serializeTargetKind kind)),
        ("name", .string cmd.target)])
  .object (SortedMap.ofList [
    ("path", .strings cmd.path),
    ("summary", .string cmd.summary),
    ("target", target),
    ("params", .array (cmd.params.map serializeParam)),
    ("output", serializeOutputShape cmd.outputShape),
    ("exit_codes", .array exitCodes)])

/-- `contract::serialize_all`: the data of `org schema`. -/
def serializeAll : Json :=
  .object (SortedMap.ofList [("version", .ofI64 1),
    ("commands", .array (COMMANDS.map serializeCommand))])

/-- The first entry of `COMMANDS` with a path. -/
def findCommand (path : List String) : Option CommandSpec :=
  COMMANDS.find? fun c => c.path = path

/-- `contract::serialize_one`: look up a command by its path and serialize it. -/
def serializeOne (path : List String) : Option Json :=
  (findCommand path).map fun cmd =>
    .object (SortedMap.ofList [("command", serializeCommand cmd)])

end OrgCli.Contract
