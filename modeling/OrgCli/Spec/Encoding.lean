import OrgCli.Spec.Registry

/-!
# `OrgCli.Spec.Encoding`: what a tool call says about its command

The wire keeps less than the command line. A URI is sent in its normal form, the bare query
and `query run` are one call, and the property flags are sent as one object. `SameCall` is
the equivalence of commands that remains: equal after `Commands.canonical`, with the same
effect on every property.

`decode` reads a command back from a tool call. It is a left inverse of the encoding, so it
shows that a call loses nothing else. `Proofs/Encoding.lean` proves both directions.
-/

set_option autoImplicit false

namespace OrgCli

open OrgCli.Support (lookup)

/-! ### The equivalence -/

/-- The query with the bare form written as `query run`. -/
@[simp] def QueryArgs.canonical : QueryArgs → QueryArgs
  | ⟨some qlExpr, files, none⟩ => ⟨none, [], some (.run qlExpr files)⟩
  | args => args

/-- The command with the bare query as `query run` and without its property flags. -/
@[simp] def Commands.canonical : Commands → Commands
  | .query args => .query args.canonical
  | .edit (.properties uri _ _) => .edit (.properties uri [] [])
  | c => c

/-- Two commands are the same up to the normal form of URIs, the two forms of the org-ql
query, and the final effect of the property flags. -/
structure SameCall (c d : Commands) : Prop where
  command : c.normalized.canonical = d.normalized.canonical
  effect : ∀ key, c.propertyEffect key = d.propertyEffect key

/-- What clap guarantees of the arguments of a command. -/
def Commands.NoConflict : Commands → Prop
  | .query args => args.NoConflict
  | _ => True

/-! ### Reading a call -/

/-- The text under a key, if there is one. -/
@[simp] def Map.textOpt (m : Map) (key : String) : Option String := (m.get? key).bind Json.asStr

/-- The text under a key. -/
@[simp] def Map.text (m : Map) (key : String) : String := (m.textOpt key).getD ""

/-- The texts of the array under a key. -/
@[simp] def Map.texts (m : Map) (key : String) : List String :=
  (((m.get? key).bind Json.asArray).getD []).filterMap Json.asStr

/-- The flag under a key. -/
@[simp] def Map.flag (m : Map) (key : String) : Bool := ((m.get? key).bind Json.asBool).getD false

/-- A query given as a subcommand. -/
@[simp] def QueryKind.toCommand (kind : QueryKind) : Commands := .query ⟨none, [], some kind⟩

/-- The tools with the command that calls each of them, read from its arguments. -/
def decoders : List (String × (Map → Commands)) := [
  ("org-read", fun m => .read (m.text "uri")),
  ("org-read-headline", fun m => .readHeadline (m.text "uri")),
  ("org-read-outline", fun m => .outline (m.text "file")),
  ("org-ql-query", fun m => QueryKind.toCommand (.run (m.text "ql_expr") (m.texts "files"))),
  ("query-inbox", fun _ => QueryKind.toCommand .inbox),
  ("query-next", fun m => QueryKind.toCommand (.next (m.textOpt "tag"))),
  ("query-backlog", fun m => QueryKind.toCommand (.backlog (m.textOpt "tag"))),
  ("org-update-todo-state", fun m => .todo (.state (m.text "uri") (m.text "new_state")
    (m.textOpt "current_state") (m.textOpt "note"))),
  ("org-add-todo", fun m => .todo (.add (m.text "parent_uri") (m.text "title")
    (m.text "todo_state") (m.textOpt "body") (m.texts "tags") (m.textOpt "after_uri"))),
  ("org-rename-headline", fun m => .edit (.rename (m.text "uri") (m.text "current_title")
    (m.text "new_title"))),
  ("org-edit-body", fun m => .edit (.body (m.text "resource_uri") (m.text "new_body")
    (m.textOpt "old_body") (m.flag "append"))),
  -- The flags are compared by their effect on each key, so none are read back.
  ("org-set-properties", fun m => .edit (.properties (m.text "uri") [] [])),
  ("org-set-tags", fun m => .edit (.tags (m.text "uri") (m.texts "tags"))),
  ("org-set-priority", fun m => .edit (.priority (m.text "uri") (m.textOpt "priority"))),
  ("org-update-scheduled", fun m => .edit (.scheduled (m.text "uri") (m.textOpt "scheduled"))),
  ("org-update-deadline", fun m => .edit (.deadline (m.text "uri") (m.textOpt "deadline"))),
  ("org-add-logbook-note", fun m => .edit (.logNote (m.text "uri") (m.text "note"))),
  ("org-clock-get-active", fun _ => .clock .status),
  ("org-clock-in", fun m => .clock (.in' (m.text "uri") (m.textOpt "start_time")
    (m.text "resolve" = "true"))),
  ("org-clock-out", fun m => .clock (.out (m.textOpt "uri") (m.textOpt "end_time"))),
  ("org-clock-add", fun m => .clock (.add (m.text "uri") (m.text "start") (m.text "end"))),
  ("org-clock-delete", fun m => .clock (.delete (m.text "uri") (m.text "start"))),
  ("org-clock-find-dangling", fun _ => .clock .dangling),
  ("org-get-todo-config", fun _ => .config .todo),
  ("org-get-tag-config", fun _ => .config .tags),
  ("org-get-tag-candidates", fun _ => .config .tagCandidates),
  ("org-get-priority-config", fun _ => .config .priority),
  ("org-get-allowed-files", fun _ => .config .files),
  ("org-get-clock-config", fun _ => .config .clock)]

/-- The canonical command of a tool call, if there is one with that tool. -/
def decode (call : String × Map) : Option Commands :=
  (lookup call.1 decoders).map fun read => read call.2

end OrgCli
