import OrgCli.Spec.Argv

/-!
# `OrgCli.Spec.Clap`: clap on the command lines of `org tools list`

`Cli::parse_from` is a parameter of `commandLine`. `parseToolsList` is what it does for one
command, where the environment does not set `ORG_TIMEOUT`. All options of this command are
global, and clap reads them at three levels: before `tools`, behind it, and behind `list`. At
one level an option that takes one value, and a flag, stands at most once, and each
`--server-arg` adds its value. After the parse, an option that stands at a deeper level replaces
the one before it with all of its values (`Globals.override`).
-/

set_option autoImplicit false

namespace OrgCli

open OrgCli.Support (splitOnce)
open OrgCli.Argv (valueFlags)

/-- The global options at one level of a command line. -/
structure Globals where
  server : Option String
  serverArgs : List String
  compact : Bool
  timeout : Option UInt64

/-- A level without options. -/
def Globals.empty : Globals := ⟨none, [], false, none⟩

/-- The options of a command line from those of a level and of the levels behind it. An
option that stands behind replaces the one before it. -/
def Globals.override (here below : Globals) : Globals where
  server := below.server.or here.server
  serverArgs := if below.serverArgs = [] then here.serverArgs else below.serverArgs
  compact := here.compact || below.compact
  timeout := below.timeout.or here.timeout

/-- The parsed command line, with the defaults of the options that do not stand on it. -/
def Globals.toolsList (home : Option String) (options : Globals) : Cli where
  server := options.server.getD (defaultServer home)
  serverArgs := options.serverArgs
  compact := options.compact
  timeout := options.timeout.getD 30
  command := .tools .list

/-- `u64::from_str`: decimal digits behind an optional plus sign. -/
def parseU64 (v : String) : Option UInt64 :=
  let digits : List Char := match v.toList with
    | '+' :: digits => digits
    | digits => digits
  let n : Nat := digits.foldl (fun n c => 10 * n + (c.toNat - '0'.toNat)) 0
  if digits ≠ [] ∧ digits.all Char.isDigit ∧ n < 2 ^ 64 then some (UInt64.ofNat n) else none

/-- The flag `--compact`, which stands at most once. -/
def setCompact (options : Globals) : Option Globals :=
  if options.compact then none else some { options with compact := true }

/-- An option with a value in front of the others of its level. -/
def setOption (name v : String) (options : Globals) : Option Globals :=
  if name = "--server-arg" then some { options with serverArgs := v :: options.serverArgs }
  else if name = "--server" ∧ options.server = none then some { options with server := some v }
  else if name = "--timeout" ∧ options.timeout = none then
    (parseU64 v).map fun n => { options with timeout := some n }
  else none

/-- A token can be the value of the flag before it. Only `--server-arg` takes a value that
looks like a flag. -/
def TakesValue (flag v : String) : Prop :=
  flag = "--server-arg" ∨ v = "-" ∨ v.toList.head? ≠ some '-'

instance (flag v : String) : Decidable (TakesValue flag v) :=
  inferInstanceAs (Decidable (_ ∨ _))

/-- The options of a level of a command line, and of the levels behind it together. -/
abbrev Levels : Type := Globals × Globals

/-- A change of the options of the first level. -/
def Levels.change (f : Globals → Option Globals) (levels : Levels) : Option Levels :=
  (f levels.1).map (·, levels.2)

/-- Parse the words that are left of a command name, with global options anywhere. -/
def parseTokens : List String → List String → Option Levels
  | words, [] => if words = [] then some (.empty, .empty) else none
  | words, tok :: rest =>
      if tok = "--compact" then (parseTokens words rest).bind (Levels.change setCompact)
      else if tok ∈ valueFlags then
        match rest with
        | [] => none
        | v :: rest =>
            if TakesValue tok v then (parseTokens words rest).bind (Levels.change (setOption tok v))
            else none
      else
        match splitOnce tok '=' with
        | some (name, v) => (parseTokens words rest).bind (Levels.change (setOption name v))
        -- A word of the command starts the next level.
        | none =>
            if words.head? = some tok then
              (parseTokens words.tail rest).map fun levels => (.empty, levels.1.override levels.2)
            else none

/-- `Cli::parse_from` for `org tools list` with its global options. -/
def parseToolsList (home : Option String) (raw : List String) : Option Cli :=
  (parseTokens ["tools", "list"] raw.tail).map fun levels =>
    (levels.1.override levels.2).toolsList home

end OrgCli
