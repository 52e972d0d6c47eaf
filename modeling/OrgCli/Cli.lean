import Mathlib.Data.String.Basic

/-!
# `OrgCli.Cli`: the parsed command line

The clap types of `src/cli.rs`. A value of `Cli` is a command line that clap accepted.
Names that are Lean keywords carry a prime.

`QueryArgs` holds both forms of `org query`. Clap's `args_conflicts_with_subcommands`
rules out a subcommand next to the bare positional or `--files`, and
`QueryArgs.NoConflict` states what it rules out.
-/

set_option autoImplicit false

namespace OrgCli

/-- `cli::ConfigKind`. -/
inductive ConfigKind where
  | todo
  | tags
  | tagCandidates
  | priority
  | files
  | clock
  deriving DecidableEq

/-- `cli::QueryKind`. -/
inductive QueryKind where
  | run (qlExpr : String) (files : List String)
  | inbox
  | next (tag : Option String)
  | backlog (tag : Option String)
  deriving DecidableEq

/-- `cli::QueryArgs`: the bare expression with its files, or a subcommand. -/
structure QueryArgs where
  qlExpr : Option String
  files : List String
  kind : Option QueryKind
  deriving DecidableEq

/-- What `args_conflicts_with_subcommands` guarantees: no bare argument next to a
subcommand. -/
def QueryArgs.NoConflict (args : QueryArgs) : Prop :=
  args.kind = none ∨ (args.qlExpr = none ∧ args.files = [])

/-- `cli::TodoKind`. -/
inductive TodoKind where
  | state (uri newState : String) (from' note : Option String)
  | add (parent title state : String) (body : Option String) (tags : List String)
      (after : Option String)
  deriving DecidableEq

/-- `cli::EditKind`. -/
inductive EditKind where
  | rename (uri from' to' : String)
  | body (uri new : String) (old : Option String) (append : Bool)
  | properties (uri : String) (sets unsets : List String)
  | tags (uri : String) (tags : List String)
  | priority (uri : String) (priority : Option String)
  | scheduled (uri : String) (date : Option String)
  | deadline (uri : String) (date : Option String)
  | logNote (uri note : String)
  deriving DecidableEq

/-- `cli::ClockKind`. -/
inductive ClockKind where
  | status
  | in' (uri : String) (at' : Option String) (resolve : Bool)
  | out (uri at' : Option String)
  | add (uri start end' : String)
  | delete (uri at' : String)
  | dangling
  deriving DecidableEq

/-- `cli::ToolsCmd`. -/
inductive ToolsCmd where
  | list
  | call (name : String) (args : Option String)
  deriving DecidableEq

/-- `cli::Commands`. The structs with one field (`TodoArgs`, `EditArgs`, `ClockArgs`,
`ConfigArgs`, `SchemaArgs`) are that field. -/
inductive Commands where
  | read (uri : String)
  | readHeadline (uri : String)
  | outline (file : String)
  | query (args : QueryArgs)
  | todo (kind : TodoKind)
  | tools (cmd : ToolsCmd)
  | edit (kind : EditKind)
  | clock (kind : ClockKind)
  | config (kind : ConfigKind)
  | schema (path : List String)
  deriving DecidableEq

/-- `cli::default_server`, from the value of `HOME`, if it has one. -/
def defaultServer (home : Option String) : String :=
  let home := home.getD ""
  if home = "" then ".config/emacs/org-mcp-stdio.sh"
  else s!"{home}/.config/emacs/org-mcp-stdio.sh"

/-- `cli::Cli`. -/
structure Cli where
  server : String
  serverArgs : List String
  compact : Bool
  timeout : UInt64
  command : Commands

/-- `Cli::server_argv`: the argv of the server process. -/
def Cli.serverArgv (cli : Cli) : List String := cli.server :: cli.serverArgs

end OrgCli
