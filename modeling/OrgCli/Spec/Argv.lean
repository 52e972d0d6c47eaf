import OrgCli.Main

/-!
# `OrgCli.Spec.Argv`: the shape of a command line

The abstract view of a raw command line. A flag position is an index where the program
looks for a flag: the walk from index 1 that steps over the values of the value flags comes
by it. The launcher sentinel is the first flag position with a `--`.

`sentinelForm` and `serverArgForm` are the two ways to pass arguments to the launcher, and
`CollectsServerArgs` is what they rest on in clap.
-/

set_option autoImplicit false

namespace OrgCli

open OrgCli.Support (Reached startsWith)
open OrgCli.Argv (valueCount)

/-! ### Flag positions -/

/-- An index that is reached from index 1 by stepping two over a value flag and one over any
other token. -/
def FlagPosition (argv : List String) (i : Nat) : Prop :=
  i < argv.length ∧ Reached valueCount argv 1 i

/-- No flag position holds a `--`. -/
def NoSentinel (argv : List String) : Prop := ∀ i, FlagPosition argv i → argv[i]? ≠ some "--"

/-- The first flag position that holds a `--`. -/
structure FirstSentinel (argv : List String) (i : Nat) : Prop where
  position : FlagPosition argv i
  holds : argv[i]? = some "--"
  first : ∀ k, FlagPosition argv k → k < i → argv[k]? ≠ some "--"

/-- The first flag position that holds a `--` or a subcommand name holds a subcommand
name. -/
structure SubcommandFirst (argv subcommands : List String) (i : Nat) : Prop where
  position : FlagPosition argv i
  holds : ∃ name ∈ subcommands, argv[i]? = some name
  first : ∀ k, FlagPosition argv k → k < i →
    argv[k]? ≠ some "--" ∧ ∀ name ∈ subcommands, argv[k]? ≠ some name

/-! ### Launcher arguments -/

/-- A global option as it is written on the command line. -/
inductive GlobalOption where
  | compact
  | server (v : String)
  | timeout (v : String)
  | serverEq (v : String)
  | timeoutEq (v : String)

/-- The tokens of a global option. -/
def GlobalOption.tokens : GlobalOption → List String
  | .compact => ["--compact"]
  | .server v => ["--server", v]
  | .timeout v => ["--timeout", v]
  | .serverEq v => ["--server=" ++ v]
  | .timeoutEq v => ["--timeout=" ++ v]

/-- The program name and the global options before the launcher arguments. -/
def front (program : String) (options : List GlobalOption) : List String :=
  program :: (options.map GlobalOption.tokens).flatten

/-- Each launcher argument behind its own `--server-arg`. -/
def serverArgTokens (args : List String) : List String :=
  (args.map fun arg => ["--server-arg", arg]).flatten

/-- The command line with the launcher arguments behind a `--`. -/
def sentinelForm (program : String) (options : List GlobalOption) (args rest : List String) :
    List String :=
  front program options ++ "--" :: (args ++ rest)

/-- The command line with the launcher arguments behind `--server-arg` flags. -/
def serverArgForm (program : String) (options : List GlobalOption) (args rest : List String) :
    List String :=
  front program options ++ (serverArgTokens args ++ rest)

/-- The tokens from the subcommand on: they start with a subcommand name, and there is no
`--` and no `--server-arg` among them. -/
structure IsCommandPart (rest : List String) : Prop where
  name : ∃ name ∈ SUBCOMMAND_NAMES, rest.head? = some name
  noSentinel : "--" ∉ rest
  noServerArg : "--server-arg" ∉ rest

/-- No token has the form `--server-arg=v`. -/
def NoServerArgEq (tokens : List String) : Prop :=
  ∀ tok ∈ tokens, startsWith tok "--server-arg=" = false

/-- The parsed command line with one more launcher argument in front. -/
def Cli.withServerArg (arg : String) (cli : Cli) : Cli :=
  { cli with serverArgs := arg :: cli.serverArgs }

/-- What clap does with `--server-arg` before the subcommand. An occurrence adds its value,
whatever the value is, in front of the later ones, and the rest is parsed as without it. A
command line without an occurrence has no values. -/
structure CollectsServerArgs (parse : List String → Option Cli) : Prop where
  occurrence : ∀ program options arg args rest, IsCommandPart rest → NoServerArgEq rest →
    parse (serverArgForm program options (arg :: args) rest)
      = (parse (serverArgForm program options args rest)).map (Cli.withServerArg arg)
  absent : ∀ program options rest cli, IsCommandPart rest → NoServerArgEq rest →
    parse (front program options ++ rest) = some cli → cli.serverArgs = []

end OrgCli
