import OrgCli.Spec.Plan

/-!
# `OrgCli.Spec.Registry`: a command as its registry entry describes it

The registry names the parameters of each command and says how each of them is sent. To
compare it with a call, a parsed command needs two things: its entry (`Commands.entry`), and
its arguments under the names of the entry's parameters (`Commands.given`).

`Conforms` is the comparison, and `SendsUri` adds what is sent for a URI parameter.
`Commands.propertyEffect` says what the flags of `edit properties` do to a key, which is how
two of its parameters share one object.
-/

set_option autoImplicit false

namespace OrgCli

open OrgCli.Contract
open OrgCli.Support (lookup splitOnce)
open OrgCli.Uri (normalizeForTool)

/-! ### The entry of a command -/

/-- The registry entry of a query. Both forms of the org-ql query have the entry `query`. -/
@[simp] def QueryArgs.entry : QueryArgs → CommandSpec
  | ⟨_, _, some .inbox⟩ => queryInboxSpec
  | ⟨_, _, some (.next _)⟩ => queryNextSpec
  | ⟨_, _, some (.backlog _)⟩ => queryBacklogSpec
  | _ => querySpec

/-- The registry entry of a `todo` command. -/
@[simp] def TodoKind.entry : TodoKind → CommandSpec
  | .state _ _ _ _ => todoStateSpec
  | .add _ _ _ _ _ _ => todoAddSpec

/-- The registry entry of an `edit` command. -/
@[simp] def EditKind.entry : EditKind → CommandSpec
  | .rename _ _ _ => editRenameSpec
  | .body _ _ _ _ => editBodySpec
  | .properties _ _ _ => editPropertiesSpec
  | .tags _ _ => editTagsSpec
  | .priority _ _ => editPrioritySpec
  | .scheduled _ _ => editScheduledSpec
  | .deadline _ _ => editDeadlineSpec
  | .logNote _ _ => editLogNoteSpec

/-- The registry entry of a `clock` command. -/
@[simp] def ClockKind.entry : ClockKind → CommandSpec
  | .status => clockStatusSpec
  | .in' _ _ _ => clockInSpec
  | .out _ _ => clockOutSpec
  | .add _ _ _ => clockAddSpec
  | .delete _ _ => clockDeleteSpec
  | .dangling => clockDanglingSpec

/-- The registry entry of a `config` command. -/
@[simp] def ConfigKind.entry : ConfigKind → CommandSpec
  | .todo => configTodoSpec
  | .tags => configTagsSpec
  | .tagCandidates => configTagCandidatesSpec
  | .priority => configPrioritySpec
  | .files => configFilesSpec
  | .clock => configClockSpec

/-- The registry entry of a command. -/
@[simp] def Commands.entry : Commands → CommandSpec
  | .read _ => readSpec
  | .readHeadline _ => readHeadlineSpec
  | .outline _ => outlineSpec
  | .query args => args.entry
  | .todo kind => kind.entry
  | .tools .list => toolsListSpec
  | .tools (.call _ _) => toolsCallSpec
  | .edit kind => kind.entry
  | .clock kind => kind.entry
  | .config kind => kind.entry
  | .schema [] => schemaSpec
  | .schema (_ :: _) => schemaPathSpec

/-! ### The arguments of a command -/

/-- The value of a command-line argument. -/
inductive ArgValue where
  | text (s : String)
  | flag (b : Bool)
  | list (ss : List String)

/-- The arguments of a command, each with its value, or with none when it is not given. -/
abbrev Given := List (String × Option ArgValue)

/-- The arguments of a query. -/
@[simp] def QueryArgs.given : QueryArgs → Given
  | ⟨_, _, some .inbox⟩ => []
  | ⟨_, _, some (.next tag)⟩ | ⟨_, _, some (.backlog tag)⟩ => [("tag", tag.map .text)]
  | ⟨_, _, some (.run qlExpr files)⟩ =>
      [("ql_expr", some (.text qlExpr)), ("files", some (.list files))]
  | ⟨qlExpr, files, none⟩ => [("ql_expr", qlExpr.map .text), ("files", some (.list files))]

/-- The arguments of a `todo` command. -/
@[simp] def TodoKind.given : TodoKind → Given
  | .state uri newState from' note => [("uri", some (.text uri)),
      ("new-state", some (.text newState)), ("from", from'.map .text), ("note", note.map .text)]
  | .add parent title todo body names after => [("parent", some (.text parent)),
      ("title", some (.text title)), ("state", some (.text todo)), ("body", body.map .text),
      ("tag", some (.list names)), ("after", after.map .text)]

/-- The arguments of an `edit` command. -/
@[simp] def EditKind.given : EditKind → Given
  | .rename uri from' to' =>
      [("uri", some (.text uri)), ("from", some (.text from')), ("to", some (.text to'))]
  | .body uri new old append => [("uri", some (.text uri)), ("new", some (.text new)),
      ("old", old.map .text), ("append", some (.flag append))]
  | .properties uri sets unsets =>
      [("uri", some (.text uri)), ("set", some (.list sets)), ("unset", some (.list unsets))]
  | .tags uri names => [("uri", some (.text uri)), ("tag", some (.list names))]
  | .priority uri letter => [("uri", some (.text uri)), ("priority", letter.map .text)]
  | .scheduled uri date | .deadline uri date =>
      [("uri", some (.text uri)), ("date", date.map .text)]
  | .logNote uri note => [("uri", some (.text uri)), ("note", some (.text note))]

/-- The arguments of a `clock` command. -/
@[simp] def ClockKind.given : ClockKind → Given
  | .status | .dangling => []
  | .in' uri at' resolve => [("uri", some (.text uri)), ("at", at'.map .text),
      ("resolve", some (.flag resolve))]
  | .out uri at' => [("uri", uri.map .text), ("at", at'.map .text)]
  | .add uri start end' =>
      [("uri", some (.text uri)), ("start", some (.text start)), ("end", some (.text end'))]
  | .delete uri at' => [("uri", some (.text uri)), ("at", some (.text at'))]

/-- The arguments of a command, under the names of its parameters. -/
@[simp] def Commands.given : Commands → Given
  | .read uri | .readHeadline uri => [("uri", some (.text uri))]
  | .outline file => [("file", some (.text file))]
  | .query args => args.given
  | .todo kind => kind.given
  | .tools .list => []
  | .tools (.call name args) => [("name", some (.text name)), ("args", args.map .text)]
  | .edit kind => kind.given
  | .clock kind => kind.given
  | .config _ => []
  | .schema [] => []
  | .schema path => [("path", some (.list path))]

/-- The argument for a parameter. -/
@[simp] def Commands.arg (c : Commands) (name : String) : Option ArgValue :=
  (lookup name c.given).join

/-- The text of an argument. -/
@[simp] def ArgValue.asText : ArgValue → Option String
  | .text s => some s
  | _ => none

/-- The text given for a parameter. -/
@[simp] def Commands.text (c : Commands) (name : String) : Option String :=
  (c.arg name).bind ArgValue.asText

/-! ### The property flags -/

/-- What the flags of `edit properties` do to a key: nothing, remove it, or set it. A key in
`--unset` is removed whatever `--set` says. Otherwise its last `--set` value holds. -/
def flagEffect (sets unsets : List String) (key : String) : Option (Option String) :=
  if key ∈ unsets then some none
  else (lookup key (sets.filterMap (splitOnce · '=')).reverse).map some

/-- The effect of a command on a property. Only `edit properties` has any. -/
def Commands.propertyEffect : Commands → String → Option (Option String)
  | .edit (.properties _ sets unsets), key => flagEffect sets unsets key
  | _, _ => none

/-! ### Conformance -/

/-- A flag as its parameter is sent. -/
@[simp] def flagValue : ServerValue → Bool → Json
  | .native, b => .bool b
  | .boolAsString, b => .string (if b then "true" else "false")

/-- The flags `--set` and `--unset`, which are merged into one object. -/
@[simp] def mergedParams : List String := ["set", "unset"]

/-- The value `sent` under a parameter's key is what the parameter prescribes. -/
@[mk_iff ParamConforms_iff]
structure ParamConforms (c : Commands) (p : ParamSpec) (sent : Option Json) : Prop where
  required : p.required = true → sent.isSome = true
  bool : p.ty = .bool → ∃ b, c.arg p.name = some (.flag b) ∧
    sent = some (flagValue p.serverValue b)
  repeated : p.repeated = true → p.name ∉ mergedParams →
    ∃ ss, c.arg p.name = some (.list ss) ∧ sent = some (.strings ss)
  merged : p.name ∈ mergedParams → p.serverName = "properties" ∧
    ∃ m : Map, sent = some (.object m) ∧
      ∀ key, m.get? key = (c.propertyEffect key).map .ofOption

/-- A parameter that takes a node URI. -/
def IsUriParam (p : ParamSpec) : Prop := p.ty = .uri ∨ p.ty = .bareUri

/-- The value `sent` under the key of a URI parameter is the given URI, normalized. When no
URI is given, nothing is sent. -/
def SendsUri (c : Commands) (p : ParamSpec) (sent : Option Json) : Prop :=
  IsUriParam p → sent = (c.text p.name).map fun u => .string (normalizeForTool u)

/-- A tool call conforms to the entry of its command: it calls the target with an object,
each key belongs to a parameter, and each parameter is sent as it prescribes. -/
structure Conforms (c : Commands) (name : String) (args : Json) : Prop where
  target : name = c.entry.target
  object : ∃ m : Map, args = .object m
  keys : ∀ key, (args.get? key).isSome = true → ∃ p ∈ c.entry.params, p.serverName = key
  params : ∀ p ∈ c.entry.params, ParamConforms c p (args.get? p.serverName)

end OrgCli
