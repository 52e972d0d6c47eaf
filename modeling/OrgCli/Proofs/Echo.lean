import OrgCli.Proofs.Content
import OrgCli.Proofs.ExitMatrix
import OrgCli.Proofs.Uris

/-!
# `OrgCli.Proofs.Echo`: what the mock answers comes back

The way of an argument through the whole system. The command line normalizes it and sends it
as JSON, the mock puts it into the JSON text of its content, and `extractResult` takes the
text apart again. `echo_report` says that the printed data is the payload of the mock, and
`payload_uri` what becomes of the URI of the command in it.

`printed_uri_round_trips` is the consequence for a script: it can give the URI that a run has
printed to the next command line, whether the mock answers it bare or with its prefix.
-/

set_option autoImplicit false

namespace OrgCli

open OrgCli.Mcp
open OrgCli.Support
open OrgCli.Mock (payload textContent)
open OrgCli.Uri (normalizeForTool normalizeForTool_of_bare normalizeForTool_prefixed orgScheme
  IsBare)

variable {mock : Mock} {env : Env} {cli : Cli} {c : Commands} {u toolName : String}
  {arguments : Map}

/-! ### The payload -/

/-- The tools that answer their URI with the prefix. -/
def prefixingTools : List String := ["org-read", "org-update-todo-state", "org-clock-in",
  "org-clock-out", "org-clock-add", "org-clock-delete"]

/-- The tools of the `edit` commands, which answer their URI as it is. -/
def editTools : List String := ["org-rename-headline", "org-edit-body", "org-set-properties",
  "org-set-tags", "org-set-priority", "org-update-scheduled", "org-update-deadline",
  "org-add-logbook-note"]

/-- The payload of a tool that prefixes its URI. -/
theorem payload_prefixing {arguments : Json} {n : String} (htool : toolName ∈ prefixingTools)
    (huri : arguments.get? "uri" = some (.string n)) :
    (payload toolName arguments).get? "uri" = some (.string (orgScheme ++ n)) := by
  simp only [prefixingTools, List.mem_cons, List.not_mem_nil, or_false] at htool
  rcases htool with rfl | rfl | rfl | rfl | rfl | rfl <;>
    simp [payload, Mock.obj, Mock.strArg, Mock.orgUri, huri, Json.asStr, orgScheme]

/-- The payload of a tool that does not. -/
theorem payload_edit {arguments : Json} {v : Json} (htool : toolName ∈ editTools)
    (huri : (arguments.get? "uri").or (arguments.get? "resource_uri") = some v) :
    (payload toolName arguments).get? "uri" = some v := by
  simp only [editTools, List.mem_cons, List.not_mem_nil, or_false] at htool
  rcases htool with rfl | rfl | rfl | rfl | rfl | rfl | rfl | rfl <;>
    simp [payload, Mock.obj, huri]

/-- A command with one URI, other than `read-headline`, calls one of these tools with the normal
form of its URI. -/
theorem uri_call (huri : c.uriArgs = [("uri", u)]) (hread : c ≠ .readHeadline u)
    (hcall : c.toolCall = some (toolName, arguments)) :
    (toolName ∈ prefixingTools ∧ arguments.get? "uri" = some (.string (normalizeForTool u))) ∨
      (toolName ∈ editTools ∧ (arguments.get? "uri").or (arguments.get? "resource_uri")
        = some (.string (normalizeForTool u))) := by
  obtain ⟨⟨_, fs⟩, hfields, hfs⟩ := Option.map_eq_some_iff.mp hcall
  obtain ⟨rfl, rfl⟩ := Prod.mk.inj hfs
  cases c with
  | read uri =>
      cases huri
      cases hfields
      exact Or.inl ⟨by simp [prefixingTools], by simp [SortedMap.get?_ofFields, lookup]⟩
  | todo kind =>
      cases kind with
      | state uri newState from' note =>
          cases huri
          cases hfields
          exact Or.inl ⟨by simp [prefixingTools], by simp [SortedMap.get?_ofFields, lookup]⟩
      | add parent title state body tags after => simp [Commands.uriArgs] at huri
  | edit kind =>
      cases kind with
      | properties uri sets unsets =>
          cases huri
          obtain ⟨pairs, _, hpairs⟩ := Option.map_eq_some_iff.mp hfields
          cases hpairs
          exact Or.inr ⟨by simp [editTools],
            by simp [propertiesFields, SortedMap.get?_ofFields, lookup]⟩
      | rename | body | tags | priority | scheduled | deadline | logNote =>
          cases huri
          cases hfields
          exact Or.inr ⟨by simp [editTools], by simp [SortedMap.get?_ofFields, lookup]⟩
  | clock kind =>
      cases kind with
      | out uri at' =>
          cases uri with
          | none => cases huri
          | some uri =>
              cases huri
              cases hfields
              exact Or.inl ⟨by simp [prefixingTools], by simp [SortedMap.get?_ofFields, lookup]⟩
      | in' | add | delete =>
          cases huri
          cases hfields
          exact Or.inl ⟨by simp [prefixingTools], by simp [SortedMap.get?_ofFields, lookup]⟩
      | status | dangling => cases huri
  | readHeadline uri =>
      cases huri
      exact absurd rfl hread
  | outline | query | tools | config | schema => cases huri

/-- The payload for such a command holds a URI with the same normal form, unless that form starts
with the prefix itself. -/
theorem payload_uri (huri : c.uriArgs = [("uri", u)]) (hread : c ≠ .readHeadline u)
    (hcall : c.toolCall = some (toolName, arguments)) (hbare : IsBare (normalizeForTool u)) :
    ∃ v, (payload toolName (.object arguments)).get? "uri" = some (.string v) ∧
      normalizeForTool v = normalizeForTool u := by
  rcases uri_call huri hread hcall with ⟨htool, hget⟩ | ⟨htool, hget⟩
  · exact ⟨_, payload_prefixing htool hget, normalizeForTool_prefixed _⟩
  · exact ⟨_, payload_edit htool hget, normalizeForTool_of_bare hbare⟩

/-- None of these tools is a special one. -/
theorem uri_tool (huri : c.uriArgs = [("uri", u)]) (hread : c ≠ .readHeadline u)
    (hcall : c.toolCall = some (toolName, arguments)) :
    Mock.isGtdTool toolName = false ∧ toolName ≠ "org-read-headline" := by
  have htools : ∀ t ∈ prefixingTools ++ editTools,
      Mock.isGtdTool t = false ∧ t ≠ "org-read-headline" := by decide
  refine htools toolName (List.mem_append.mpr ?_)
  rcases uri_call huri hread hcall with ⟨htool, _⟩ | ⟨htool, _⟩
  · exact Or.inl htool
  · exact Or.inr htool

/-! ### The report -/

/-- A text that is JSON is printed as that JSON. -/
theorem extractResult_textContent {text : String} {v : Json}
    (htext : env.serde.fromStr text = .ok v) : extractResult env (textContent text) = v := by
  have htype : (Mock.obj [("type", .string "text"), ("text", .string text)]).get? "type"
      = some (.string "text") := by simp [Mock.obj]
  have hitem : (Mock.obj [("type", .string "text"), ("text", .string text)]).get? "text"
      = some (.string text) := by simp [Mock.obj]
  have hmap := mapContentItem_text env htype hitem
  rw [htext] at hmap
  exact hmap

/-- A command with URI arguments makes a tool call, and it is no GTD query. -/
theorem uriArgs_wire (huri : c.uriArgs ≠ []) : c.isWire = true ∧ c.isGtd = false := by
  cases c with
  | read | readHeadline | todo | edit | clock => exact ⟨rfl, rfl⟩
  | outline | query | tools | config | schema => exact absurd rfl huri

/-- A tool that the mock runs reports its payload. The JSON text in the content of the reply
and its parse cancel out. -/
theorem echo_report {method : String} {params : Json} {finish : Except McpError Json → Report}
    (hplan : plan env cli.command cli.compact = .exchange method params finish)
    (hwire : cli.command.isWire = true ∧ cli.command.isGtd = false)
    (hcall : cli.command.toolCall = some (toolName, arguments))
    (hlisted : Mock.isGtdTool toolName = false) (hruns : mock.vars.toolError ≠ some toolName)
    (hplain : mock.vars.responseKind = none) (hheadline : toolName ≠ "org-read-headline")
    (htext : env.serde.fromStr (mock.encode (payload toolName (.object arguments))).text
      = .ok (payload toolName (.object arguments))) :
    finish (mock.outcome method params)
      = successReport (payload toolName (.object arguments)) cli.compact := by
  rw [plan_eq_toolCall env hwire.1, hcall] at hplan
  simp only [hwire.2, Bool.false_eq_true, if_false] at hplan
  obtain ⟨rfl, rfl, rfl⟩ := Plan.exchange.inj hplan
  have hcontent : mock.toolContent toolName (.object arguments)
      = textContent (mock.encode (payload toolName (.object arguments))).text := by
    unfold Mock.toolContent
    split
    · exact absurd rfl hheadline
    · rfl
  have houtcome := outcome_call mock toolName (.object arguments)
  generalize mock.outcome "tools/call" (toolsCallParams toolName (.object arguments)) = r
    at houtcome ⊢
  cases houtcome with
  | failed message data hfails => exact absurd hfails hruns
  | unlisted message data _ hoptional hunlisted => cases hoptional.symm.trans hlisted
  | answered _ _ =>
      rw [hplain, hcontent]
      show successReport (extractResult env (contentOf (Mock.obj [("content", textContent _)])))
        cli.compact = _
      have hresult : contentOf (Mock.obj [("content", textContent
          (mock.encode (payload toolName (.object arguments))).text)])
          = textContent (mock.encode (payload toolName (.object arguments))).text := by
        simp [contentOf, Mock.obj]
      rw [hresult, extractResult_textContent htext]

/-! ### A printed URI as an argument -/

/-- A command line whose only URI has another form of the same normal form is the same
program. -/
theorem dialogue_sameUri (huri : cli.command.uriArgs = [("uri", u)]) {v : String}
    (hsame : normalizeForTool v = normalizeForTool u) :
    ({ cli with command := cli.command.mapUris fun _ _ => v } : Cli).dialogue env
      = cli.dialogue env := by
  have hnormal : (cli.command.mapUris fun _ _ => v).normalized = cli.command.normalized := by
    unfold Commands.normalized
    rw [mapUris_mapUris]
    refine mapUris_congr fun name u' hu' => ?_
    rw [huri, List.mem_singleton] at hu'
    obtain ⟨rfl, rfl⟩ := Prod.mk.inj hu'
    exact hsame
  unfold Cli.dialogue
  rw [plan_mapUris env cli.command _ cli.compact hnormal]

/-- The URI that a run has printed can be given to the next one. Take a command with one URI
whose normal form is bare, and a mock that runs its tool. In every interleaving that ends, the
client ran out of time, or the run printed the payload of the mock, and the command line with the
URI of the payload in place of its own is the same program. -/
theorem printed_uri_round_trips (mock : Mock) (env : Env) (cli : Cli) (u toolName : String)
    (arguments : Map) (huri : cli.command.uriArgs = [("uri", u)])
    (hread : cli.command ≠ .readHeadline u)
    (hcall : cli.command.toolCall = some (toolName, arguments))
    (hbare : IsBare (normalizeForTool u))
    (hspeaks : mock.Speaks env "tools/call" (toolsCallParams toolName (.object arguments)))
    (hstays : mock.dieAfterHandshake = false) (hruns : mock.vars.toolError ≠ some toolName)
    (hplain : mock.vars.responseKind = none)
    (htext : env.serde.fromStr (mock.encode (payload toolName (.object arguments))).text
      = .ok (payload toolName (.object arguments)))
    (es : List SystemLabel) (s : SystemState Mock.State Report)
    (h : Run (system env mock.encode mock.machine (cli.dialogue env) (recvTimeout cli.timeout)
      .fresh) es s) (rep : Report) (hdone : s.program = .done rep) :
    (∃ d, recvTimeout cli.timeout = some d ∧ rep = errorReport (timeoutError d) cli.compact) ∨
      rep = successReport (payload toolName (.object arguments)) cli.compact ∧
        ∃ v, (payload toolName (.object arguments)).get? "uri" = some (.string v) ∧
          ({ cli with command := cli.command.mapUris fun _ _ => v } : Cli).dialogue env
            = cli.dialogue env := by
  have hwire := uriArgs_wire (c := cli.command) (by simp [huri])
  obtain ⟨hlisted, hheadline⟩ := uri_tool huri hread hcall
  have hplan := plan_eq_toolCall env hwire.1 cli.compact
  rw [hcall] at hplan
  simp only at hplan
  obtain ⟨_, _, _, hpost⟩ := wp_post (mock_wp hplan hspeaks hstays) h hdone
  rcases hpost with ⟨rfl, _⟩ | hlate
  · right
    refine ⟨echo_report hplan hwire hcall hlisted hruns hplain hheadline htext, ?_⟩
    obtain ⟨v, hv, hsame⟩ := payload_uri huri hread hcall hbare
    exact ⟨v, hv, dialogue_sameUri huri hsame⟩
  · exact Or.inl hlate

/-- `org read org://x`. -/
def readXCli : Cli := ⟨"mock", [], false, 0, .read "org://x"⟩

/-- The arguments of its call. -/
def readXArguments : Map := .ofFields [("uri", some (.string "x"))]

/-- The node that the mock answers, as text. -/
def nodeText : String :=
  "\x7b\"children\":[],\"title\":\"Mock Title\",\"todo\":\"TODO\",\"uri\":\"org://x\"\x7d"

/-- The values of a run of that command line, each with its text. -/
def readXWire : List (Json × Line) := handshakeWire ++ [
  (requestMsg 2 "tools/call" (toolsCallParams "org-read" (.object readXArguments)),
    ⟨"\x7b\"id\":2,\"jsonrpc\":\"2.0\",\"method\":\"tools/call\",\"params\":\x7b"
      ++ "\"arguments\":\x7b\"uri\":\"x\"\x7d,\"name\":\"org-read\"\x7d\x7d",
      by decide +kernel⟩),
  (payload "org-read" (.object readXArguments), ⟨nodeText, by decide +kernel⟩),
  (Mock.Response.toValue ⟨"2.0", .ofU64 2, some (Mock.obj [("content", textContent nodeText)]),
    none⟩, ⟨"\x7b\"jsonrpc\":\"2.0\",\"id\":2,\"result\":\x7b\"content\":[\x7b\"text\":\"\x7b"
      ++ "\\\"children\\\":[],\\\"title\\\":\\\"Mock Title\\\",\\\"todo\\\":\\\"TODO\\\","
      ++ "\\\"uri\\\":\\\"org://x\\\"\x7d\",\"type\":\"text\"\x7d]\x7d\x7d", by decide +kernel⟩)]

/-- The mock of that command line. -/
def readXMock : Mock :=
  tableMock readXWire "tools/call" (toolsCallParams "org-read" (.object readXArguments))

/-- The client and the mock understand each other. -/
theorem readXMock_speaks : readXMock.Speaks (tableEnv readXWire) "tools/call"
    (toolsCallParams "org-read" (.object readXArguments)) where
  hearsInitialize := by
    unfold Mock.Hears
    decide +kernel
  hearsInitialized := by
    unfold Mock.Hears
    decide +kernel
  hearsRequest := by
    unfold Mock.Hears
    decide +kernel
  readsInitialize := by decide +kernel
  readsReply := by decide +kernel

/-- `org read org://x` prints the URI that it was given, and so it can be run again on it. -/
theorem printed_uri_round_trips_read :
    ∃ es s rep v, Run (system (tableEnv readXWire) readXMock.encode readXMock.machine
        (readXCli.dialogue (tableEnv readXWire)) (recvTimeout readXCli.timeout) .fresh) es s ∧
      s.program = .done rep ∧ rep.printed.data.bind (·.get? "uri") = some (.string v) ∧
      ({ readXCli with command := readXCli.command.mapUris fun _ _ => v } : Cli).dialogue
        (tableEnv readXWire) = readXCli.dialogue (tableEnv readXWire) := by
  have hplan := plan_eq_toolCall (tableEnv readXWire) (c := readXCli.command) rfl false
  obtain ⟨es, s, rep, hrun, hdone, _⟩ := exists_mock_run hplan readXMock_speaks
  rcases printed_uri_round_trips readXMock (tableEnv readXWire) readXCli "org://x" "org-read"
      readXArguments rfl (by simp [readXCli]) rfl (by decide) readXMock_speaks (by decide)
      (by decide) rfl (by decide +kernel) es s hrun rep hdone
    with ⟨d, hd, _⟩ | ⟨rfl, v, hv, hsame⟩
  · cases hd
  · refine ⟨es, s, _, v, hrun, hdone, ?_, hsame⟩
    rw [successReport_data]
    exact hv

end OrgCli
