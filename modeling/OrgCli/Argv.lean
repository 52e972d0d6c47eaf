import OrgCli.Support.Walk

/-!
# `OrgCli.Argv`: the `--` sentinel

`split_sentinel` of `src/argv.rs`. It runs before clap and cuts the launcher arguments out of
the command line: the tokens between a `--` and the next subcommand name.

The loop of the source is `findSentinel`, and its search in the index range is
`findSubcommand`. An index or a slice outside `argv` panics in Rust. Here it is `none`, and so
is the result of `splitSentinel` when one of them panics.
-/

set_option autoImplicit false

namespace OrgCli.Argv

open OrgCli.Support (walk slice?)

/-- The flags whose value is the next token. -/
def valueFlags : List String := ["--server", "--server-arg", "--timeout"]

/-- The number of tokens after a token that belong to it. -/
def valueCount (tok : String) : Nat := if valueFlags.contains tok then 1 else 0

/-- The `while` loop of `split_sentinel`: the index of the first `--`, where the value of a
value flag is stepped over. -/
def findSentinel (argv : List String) : Option (Option Nat) :=
  walk (· == "--") valueCount argv (if argv.isEmpty then 0 else 1)

/-- The `find` of `split_sentinel`: the index of the first subcommand name from `start` on. -/
def findSubcommand (argv subcommands : List String) (start : Nat) : Option (Option Nat) :=
  walk subcommands.contains (fun _ => 0) argv start

/-- `argv::split_sentinel`: the command line for clap, and the launcher arguments. -/
def splitSentinel (argv subcommands : List String) : Option (List String × List String) := do
  match ← findSentinel argv with
  | none => return (argv, [])
  | some sentinel =>
    let nextSub ← findSubcommand argv subcommands (sentinel + 1)
    let cleaned ← slice? argv 0 sentinel
    match nextSub with
    | some j =>
      let rest ← slice? argv j argv.length
      let extra ← slice? argv (sentinel + 1) j
      return (cleaned ++ rest, extra)
    | none =>
      let extra ← slice? argv (sentinel + 1) argv.length
      return (cleaned, extra)

end OrgCli.Argv
