import OrgCli.Contract

/-!
# `OrgCli.Spec.Schema`: reading the output of `org schema`

A program that is generated from `org schema` has to get the registry back from the JSON. Each
reader here inverts one serializer of `src/contract.rs`, from the keys and names in the JSON
alone. `Proofs/Schema.lean` proves that the two fit.
-/

set_option autoImplicit false

namespace OrgCli.Contract

/-- A member that is a string. -/
def strMember (j : Json) (key : String) : Option String := (j.get? key).bind Json.asStr

/-- A member that is a boolean. -/
def boolMember (j : Json) (key : String) : Option Bool := (j.get? key).bind Json.asBool

/-- A member that is an array, with each item read. -/
def arrayMember {α : Type} (read : Json → Option α) (j : Json) (key : String) :
    Option (List α) :=
  ((j.get? key).bind Json.asArray).bind fun items => items.mapM read

/-- The parameter kind of a name. -/
def readParamKind : String → Option ParamKind
  | "positional" => some .positional
  | "flag" => some .flag
  | "key_value" => some .keyValue
  | _ => none

/-- The parameter type of a name. -/
def readParamType : String → Option ParamType
  | "uri" => some .uri
  | "bare_uri" => some .bareUri
  | "file_path" => some .filePath
  | "string" => some .string
  | "iso_date" => some .isoDate
  | "iso_timestamp" => some .isoTimestamp
  | "todo_state" => some .todoState
  | "priority" => some .priority
  | "bool" => some .bool
  | "json" => some .json
  | _ => none

/-- The URI rule of a name. -/
def readUriRule : String → Option UriRule
  | "bare_only" => some .bareOnly
  | "org_only" => some .orgOnly
  | "either" => some .eitherAccepted
  | "n/a" => some .na
  | _ => none

/-- How a value is sent. Without the member it is sent as it is. -/
def readServerValue : Option String → Option ServerValue
  | none => some .native
  | some "bool_as_string" => some .boolAsString
  | some _ => none

/-- A parameter. -/
def readParam (j : Json) : Option ParamSpec := do
  return {
    name := ← strMember j "name"
    serverName := ← strMember j "server_name"
    required := ← boolMember j "required"
    repeated := ← boolMember j "repeated"
    kind := ← (strMember j "kind").bind readParamKind
    ty := ← (strMember j "type").bind readParamType
    uriRule := ← (strMember j "uri_rule").bind readUriRule
    serverValue := ← readServerValue (strMember j "server_value")
    description := ← strMember j "description" }

/-- What the server returns. -/
def readServerReturns : String → Option ServerReturns
  | "json_object" => some .jsonObject
  | "plain_text" => some .plainText
  | _ => none

/-- An output shape. -/
def readOutputShape (j : Json) : Option OutputShape := do
  let cliData ← strMember j "cli_data"
  match ← strMember j "kind" with
  | "tool" => return .tool (← (strMember j "server_returns").bind readServerReturns) cliData
  | "internal" => return .internal cliData
  | _ => none

/-- A target: its kind, and its name unless the kind is internal. -/
def readTarget (j : Json) : Option (TargetKind × String) := do
  match ← strMember j "kind" with
  | "tool" => return (.tool, ← strMember j "name")
  | "resource" => return (.resource, ← strMember j "name")
  | "internal" => return (.internal, "")
  | _ => none

/-- An exit code with its meaning. -/
def readExitCode (j : Json) : Option (Int32 × String) := do
  return (((← (j.get? "code").bind Json.asI64)).toInt32, ← strMember j "meaning")

/-- A command. -/
def readCommand (j : Json) : Option CommandSpec := do
  let (kind, target) ← (j.get? "target").bind readTarget
  return {
    path := ← arrayMember Json.asStr j "path"
    summary := ← strMember j "summary"
    kind := kind
    target := target
    params := ← arrayMember readParam j "params"
    outputShape := ← (j.get? "output").bind readOutputShape
    exitCodes := ← arrayMember readExitCode j "exit_codes" }

/-- The data of `org schema`. -/
def readRegistry (j : Json) : Option (List CommandSpec) := arrayMember readCommand j "commands"

/-- The data of `org schema` with a path. -/
def readEntry (j : Json) : Option CommandSpec := (j.get? "command").bind readCommand

end OrgCli.Contract
