import Mathlib.Data.Option.Basic
import OrgCli.Proofs.Plan

/-!
# `OrgCli.Proofs.Run`: what a whole run can do

`RunOf` lists the runs of a command line: a local report, a failed connect, or a connected
request. Each comes with its events and its report, and `execute_run` says that every run is
one of them. `planReport_cases` and `planExchange_cases` list the reports and the exchanges
that a plan can hold. The theorems about whole runs take cases on these three lists.

`sentCalls` reads the tool calls of a run from the messages it wrote. `RunOf.sentCalls` says
that a run sends at most one, and which one: `Commands.call`. `RunOf.second_reply` says what
becomes of the reply to the request.

The last part reads the fields of a report's envelope.
-/

set_option autoImplicit false

namespace OrgCli

open OrgCli.Mcp
open OrgCli.Support
open OrgCli.Uri (validateOutlinePath)

variable (env : Env)

/-- The runs of a command line, each with its events and its report. -/
inductive RunOf (cli : Cli) : List Event → Report → Prop
  | report (rep : Report) (hp : plan env cli.command cli.compact = .report rep) :
      RunOf cli [] rep
  | failed (method : String) (params : Json) (finish : Except McpError Json → Report)
      (hp : plan env cli.command cli.compact = .exchange method params finish)
      (es : List Event) (e : McpError) (hc : ConnectRun env cli.serverArgv es (.error e)) :
      RunOf cli es (errorReport e cli.compact)
  | connected (method : String) (params : Json) (finish : Except McpError Json → Report)
      (hp : plan env cli.command cli.compact = .exchange method params finish)
      (es fs : List Event) (c : Client) (hc : ConnectRun env cli.serverArgv es (.ok c))
      (r : Except McpError Json) (hr : RequestRun env 2 (requestMsg 2 method params) fs r) :
      RunOf cli (es ++ fs) (finish r)

/-- Every run is one of `RunOf`: it leaves the events of the list, and its report is the
exit code and the only envelope. -/
theorem execute_run (cli : Cli) :
    ∃ es rep, RunOf env cli es rep ∧
      execute env cli = (rep.code, ⟨es, [rep.printed], cli.timeout⟩) := by
  unfold execute
  rw [run_eq_plan]
  cases hp : plan env cli.command cli.compact with
  | report rep => exact ⟨[], rep, .report rep hp, rfl⟩
  | exchange method params finish =>
      obtain ⟨es, rep, hrun, ⟨e, hc, rfl⟩ | ⟨c, fs, gs, r, rfl, hc, hr, rfl⟩⟩ :=
        exec_exchange env cli.server cli.serverArgs cli.compact method params finish
          { World.initial with recvTimeoutSecs := cli.timeout }
      · exact ⟨es, _, .failed method params finish hp es e hc, hrun⟩
      · exact ⟨_, _, .connected method params finish hp fs gs c hc r hr, hrun⟩

/-! ### What a plan holds -/

/-- The commands that fail their own validation. -/
def LocalUsage : Commands → Prop
  | .outline file => startsWith file Uri.orgScheme = true
  | .query args => args.qlExpr = none ∧ args.kind = none
  | .edit (.properties _ sets _) => ∃ s ∈ sets, '=' ∉ s.toList
  | .tools (.call _ (some s)) => ∃ e, env.serde.fromStr s = .error e
  | .schema path => path ≠ [] ∧ ∀ spec ∈ Contract.COMMANDS, spec.path ≠ path
  | _ => False

/-- The set strings parse exactly when each of them has a `=`. -/
theorem setPairs_eq_none_iff (sets : List String) :
    setPairs sets = none ↔ ∃ s ∈ sets, '=' ∉ s.toList := by
  simp only [← splitOnce_eq_none_iff]
  induction sets with
  | nil => simp
  | cons s sets ih =>
      rw [setPairs_cons]
      simp only [List.mem_cons, exists_eq_or_imp, ← ih]
      cases splitOnce s '=' with
      | none => simp
      | some p => simp

/-- A query has no tool call exactly when it has neither expression nor subcommand. -/
theorem encodeQuery_eq_none_iff (args : QueryArgs) :
    encodeQuery args = none ↔ args.qlExpr = none ∧ args.kind = none := by
  obtain ⟨qlExpr, files, kind⟩ := args
  cases kind with
  | none => cases qlExpr <;> simp [encodeQuery]
  | some kind => cases kind <;> simp [encodeQuery]

/-- A command other than `tools` and `schema` has no tool call exactly when it fails its
validation. -/
theorem toolCall_eq_none_iff {c : Commands} (hw : c.isWire = true) :
    c.toolCall = none ↔ LocalUsage env c := by
  unfold Commands.toolCall Commands.fields
  rw [Option.map_eq_none_iff]
  cases c with
  | read uri => simp [Commands.normalized, Commands.mapUris, encode, LocalUsage]
  | readHeadline uri => simp [Commands.normalized, Commands.mapUris, encode, LocalUsage]
  | outline file =>
      simp only [Commands.normalized, Commands.mapUris, encode, LocalUsage,
        validateOutlinePath]
      by_cases h : startsWith file Uri.orgScheme = true
      · simp [h, Except.isOk, Except.toBool]
      · simp [h, Except.isOk, Except.toBool]
  | query args => exact encodeQuery_eq_none_iff args
  | todo kind =>
      cases kind <;> simp [Commands.normalized, Commands.mapUris, encode, LocalUsage]
  | edit kind =>
      cases kind with
      | properties uri sets unsets =>
          show (setPairs sets).map _ = none ↔ _
          rw [Option.map_eq_none_iff]
          exact setPairs_eq_none_iff sets
      | rename | body | tags | priority | scheduled | deadline | logNote =>
          simp [Commands.normalized, Commands.mapUris, encode, encodeEdit, EditKind.withUri,
            LocalUsage]
  | clock kind =>
      cases kind <;> simp [Commands.normalized, Commands.mapUris, encode, LocalUsage]
  | config kind => simp [Commands.normalized, Commands.mapUris, encode, LocalUsage]
  | tools cmd => cases hw
  | schema path => cases hw

/-- The plan of a command other than `tools` and `schema` is its tool call and the report on
the reply. -/
theorem plan_eq_toolCall {c : Commands} (hw : c.isWire = true) (compact : Bool) :
    plan env c compact = match c.toolCall with
      | some (name, args) => .exchange "tools/call" (toolsCallParams name (.object args))
          (if c.isGtd then finishGtd env name compact
            else finishWith (fun result => extractResult env (contentOf result)) compact)
      | none => .report (usageReport 2 (usageMessage env c) compact) := by
  cases c with
  | tools cmd => cases hw
  | schema path => cases hw
  | read | readHeadline | outline | query | todo | edit | clock | config => rfl

/-- A plan that is a report is the data of `schema` or a usage error. -/
theorem planReport_cases {c : Commands} {compact : Bool} {rep : Report}
    (h : plan env c compact = .report rep) :
    (¬ LocalUsage env c ∧ (∃ path, c = .schema path) ∧
        ∃ data, rep = successReport data compact) ∨
      (LocalUsage env c ∧ ∃ msg, rep = usageReport 2 msg compact) := by
  by_cases hw : c.isWire = true
  · -- Such a command reports something on its own only when it has no call.
    rw [plan_eq_toolCall env hw] at h
    cases hcall : c.toolCall with
    | some call =>
        rw [hcall] at h
        cases h
    | none =>
        rw [hcall] at h
        exact Or.inr ⟨(toolCall_eq_none_iff env hw).mp hcall, _, (Plan.report.inj h).symm⟩
  · cases c with
    | schema path =>
        -- No path is the whole registry, and a path is an entry or a usage error.
        rw [← Plan.report.inj h]
        unfold schemaReport LocalUsage Contract.serializeOne Contract.findCommand
        by_cases hpath : path = []
        · subst hpath
          exact Or.inl ⟨fun hu => hu.1 rfl, ⟨_, rfl⟩, _, rfl⟩
        · rw [if_neg (by simpa using hpath)]
          cases hfind : Contract.COMMANDS.find? fun spec => spec.path = path with
          | none => exact Or.inr ⟨⟨hpath, by simpa using hfind⟩, _, rfl⟩
          | some spec =>
              have hmem := List.mem_of_find?_eq_some hfind
              have hspec : spec.path = path := by simpa using List.find?_some hfind
              exact Or.inl ⟨fun hu => hu.2 spec hmem hspec, ⟨_, rfl⟩, _, rfl⟩
    | tools cmd =>
        cases cmd with
        | list => cases h
        | call name args =>
            cases args with
            | none => cases h
            | some s =>
                simp only [plan, callArguments] at h
                split at h
                · cases h
                · rename_i e he
                  exact Or.inr ⟨⟨e, he⟩, _, (Plan.report.inj h).symm⟩
    | read | readHeadline | outline | query | todo | edit | clock | config =>
        exact absurd rfl hw

/-- The tool call that a command makes: its tool and the `arguments` value. -/
def Commands.call (c : Commands) : Option (String × Json) :=
  match c with
  | .tools (.call name args) => (callArguments env args).toOption.map fun v => (name, v)
  | c => c.toolCall.map fun call => (call.1, .object call.2)

/-- A command other than `tools` and `schema` makes the call of its fields. -/
theorem call_eq_toolCall {c : Commands} (hw : c.isWire = true) :
    c.call env = c.toolCall.map fun call => (call.1, .object call.2) := by
  cases c with
  | tools cmd => cases hw
  | schema path => cases hw
  | read | readHeadline | outline | query | todo | edit | clock | config => rfl

/-- A plan with an exchange makes the `tools/list` request or the command's tool call. -/
theorem planExchange_cases {c : Commands} {compact : Bool} {method : String} {params : Json}
    {finish : Except McpError Json → Report}
    (h : plan env c compact = .exchange method params finish) :
    ¬ LocalUsage env c ∧ (∀ path, c ≠ .schema path) ∧
      ((c = .tools .list ∧ method = "tools/list" ∧ params = emptyObject ∧
          finish = finishToolsList compact) ∨
        (c ≠ .tools .list ∧ ∃ name args, c.call env = some (name, args) ∧
          method = "tools/call" ∧ params = toolsCallParams name args ∧
          ((c.isGtd = true ∧ finish = finishGtd env name compact) ∨
            (c.isGtd = false ∧ ∃ data, finish = finishWith data compact)))) := by
  by_cases hw : c.isWire = true
  · rw [plan_eq_toolCall env hw] at h
    cases hcall : c.toolCall with
    | none =>
        rw [hcall] at h
        cases h
    | some call =>
        rw [hcall] at h
        obtain ⟨rfl, rfl, rfl⟩ := Plan.exchange.inj h
        have hlocal : ¬ LocalUsage env c := by
          rw [← toolCall_eq_none_iff env hw, hcall]
          simp
        have hschema : ∀ path, c ≠ .schema path := by
          intro path hc
          rw [hc] at hw
          cases hw
        have hlist : c ≠ .tools .list := by
          intro hc
          rw [hc] at hw
          cases hw
        refine ⟨hlocal, hschema, Or.inr ⟨hlist, call.1, .object call.2, ?_, rfl, rfl, ?_⟩⟩
        · rw [call_eq_toolCall env hw, hcall]
          rfl
        · cases hg : c.isGtd with
          | true => exact Or.inl ⟨rfl, rfl⟩
          | false => exact Or.inr ⟨rfl, _, rfl⟩
  · cases c with
    | schema path => cases h
    | tools cmd =>
        cases cmd with
        | list =>
            obtain ⟨rfl, rfl, rfl⟩ := Plan.exchange.inj h
            exact ⟨id, by simp, Or.inl ⟨rfl, rfl, rfl, rfl⟩⟩
        | call name args =>
            simp only [plan] at h
            split at h
            · rename_i v hv
              -- The arguments parsed, or there are none, so the command is no usage error.
              obtain ⟨rfl, rfl, rfl⟩ := Plan.exchange.inj h
              refine ⟨?_, by simp, Or.inr ⟨by simp, name, v, ?_, rfl, rfl, Or.inr ⟨rfl, _, rfl⟩⟩⟩
              · cases args with
                | none => exact id
                | some s =>
                    rintro ⟨e, he⟩
                    rw [callArguments, he] at hv
                    cases hv
              · simp only [Commands.call, hv]
                rfl
            · cases h
    | read | readHeadline | outline | query | todo | edit | clock | config =>
        exact absurd rfl hw

/-- The reply that makes a GTD query a usage error: the JSON-RPC code -32601. -/
def GtdFallback (c : Commands) (e : McpError) : Prop :=
  c.isGtd = true ∧ ∃ message data, e = .toolError (-32601) message data

/-- The report on a result is a success. Only `tools list` can still find it malformed. -/
theorem finish_ok {c : Commands} {compact : Bool} {method : String} {params : Json}
    {finish : Except McpError Json → Report}
    (h : plan env c compact = .exchange method params finish) (v : Json) :
    (∃ data, finish (.ok v) = successReport data compact) ∨
      (c = .tools .list ∧ ∃ msg, finish (.ok v) = errorReport (.protocol msg) compact) := by
  rcases planExchange_cases env h
      with ⟨_, _, ⟨hc, _, _, rfl⟩ | ⟨_, name, args, _, _, _, ⟨_, rfl⟩ | ⟨_, data, rfl⟩⟩⟩
  · simp only [finishToolsList, toolsOf, Except.bind]
    cases (v.get? "tools").bind Json.asArray with
    | some tools => exact Or.inl ⟨_, rfl⟩
    | none => exact Or.inr ⟨hc, _, rfl⟩
  · exact Or.inl ⟨_, rfl⟩
  · exact Or.inl ⟨_, rfl⟩

/-- The report on an error is the error, except for the fallback of the GTD queries. -/
theorem finish_error {c : Commands} {compact : Bool} {method : String} {params : Json}
    {finish : Except McpError Json → Report}
    (h : plan env c compact = .exchange method params finish) (e : McpError) :
    (¬ GtdFallback c e ∧ finish (.error e) = errorReport e compact) ∨
      (GtdFallback c e ∧ ∃ msg, finish (.error e) = usageReport (-1) msg compact) := by
  rcases planExchange_cases env h
      with ⟨_, _, ⟨rfl, _, _, rfl⟩ | ⟨_, name, args, _, _, _, ⟨hg, rfl⟩ | ⟨hg, data, rfl⟩⟩⟩
  · exact Or.inl ⟨fun hf => absurd hf.1 (by simp [Commands.isGtd]), rfl⟩
  · cases e with
    | toolError code message data =>
        by_cases hcode : code = -32601
        · subst hcode
          exact Or.inr ⟨⟨hg, message, data, rfl⟩, _, rfl⟩
        · -- Another code is reported as the tool error that it is.
          left
          constructor
          · rintro ⟨_, message', data', he⟩
            exact hcode (McpError.toolError.inj he).1
          · simp only [finishGtd, hcode, if_false]
    | transport message => exact Or.inl ⟨by simp [GtdFallback], rfl⟩
    | spawn message => exact Or.inl ⟨by simp [GtdFallback], rfl⟩
    | protocol message => exact Or.inl ⟨by simp [GtdFallback], rfl⟩
  · exact Or.inl ⟨fun hf => absurd hf.1 (by simp [hg]), rfl⟩

/-! ### The tool calls of a run -/

/-- The tool and the arguments of a message, if it is a `tools/call`. -/
def toolsCallOf (m : Json) : Option (String × Json) := do
  let method ← m.get? "method"
  guard (method = .string "tools/call")
  let params ← m.get? "params"
  let name ← (← params.get? "name").asStr
  let args ← params.get? "arguments"
  return (name, args)

/-- The tool calls among the messages of a run. A call whose write failed is in the list:
the server may have got it. -/
def sentCalls (es : List Event) : List (String × Json) := (written es).filterMap toolsCallOf

/-- A request is a tool call when its method is. -/
theorem toolsCallOf_requestMsg (id : UInt64) (name : String) (args : Json) :
    toolsCallOf (requestMsg id "tools/call" (toolsCallParams name args)) = some (name, args) := by
  simp [toolsCallOf, requestMsg, toolsCallParams, lookup]

/-- The handshake makes no tool call. -/
theorem sentCalls_connect {argv : List String} {es : List Event} {r : Except McpError Client}
    (h : ConnectRun env argv es r) : sentCalls es = [] := by
  have hinit : toolsCallOf initializeRequest = none := by
    simp [toolsCallOf, initializeRequest, requestMsg, lookup]
  have hnotif : toolsCallOf initializedNotification = none := by
    simp [toolsCallOf, initializedNotification, notificationMsg, lookup]
  have hall : [initializeRequest, initializedNotification].filterMap toolsCallOf = [] := by
    simp [hinit, hnotif]
  rw [← List.prefix_nil, ← hall]
  exact h.written_prefix.filterMap _

/-- A run sends at most one tool call: the call of its command. -/
theorem RunOf.sentCalls_cases {cli : Cli} {es : List Event} {rep : Report}
    (h : RunOf env cli es rep) :
    sentCalls es = [] ∨ ∃ call, cli.command.call env = some call ∧ sentCalls es = [call] := by
  cases h with
  | report rep hp => exact Or.inl rfl
  | failed method params finish hp es e hc => exact Or.inl (sentCalls_connect env hc)
  | connected method params finish hp es fs c hc r hr =>
      -- The handshake makes no call, so the only one can be the request.
      have hsent : sentCalls (es ++ fs) = [requestMsg 2 method params].filterMap toolsCallOf := by
        unfold sentCalls
        rw [written_append, List.filterMap_append, hr.written_eq]
        exact congrArg (· ++ _) (sentCalls_connect env hc)
      rcases planExchange_cases env hp
          with ⟨_, _, ⟨_, rfl, rfl, _⟩ | ⟨_, name, args, hcall, rfl, rfl, _⟩⟩
      · left
        rw [hsent]
        simp [toolsCallOf, requestMsg, lookup]
      · right
        refine ⟨(name, args), hcall, ?_⟩
        rw [hsent, List.filterMap_cons, toolsCallOf_requestMsg]
        rfl

/-! ### The replies of a run -/

/-- A run that consumed a second message reports it, checked as the reply to its request. -/
theorem RunOf.second_reply {cli : Cli} {es : List Event} {rep : Report} {m : Json}
    (h : RunOf env cli es rep) (hm : (consumed env es)[1]? = some m) :
    ∃ method params finish,
      plan env cli.command cli.compact = .exchange method params finish ∧
        rep = finish (checkResponse env 2 m) := by
  cases h with
  | report rep hp => cases hm
  | failed method params finish hp es e hc =>
      -- A connect that failed consumed at most the reply to `initialize`.
      obtain ⟨hlt, _⟩ := List.getElem?_eq_some_iff.mp hm
      have := hc.consumed_length env
      omega
  | connected method params finish hp es fs c hc r hr =>
      refine ⟨method, params, finish, hp, ?_⟩
      -- The handshake consumed the first message, so the request consumed `m`.
      obtain ⟨m₁, hm₁, _⟩ := hc.consumed_ok env
      rw [consumed_append, hm₁] at hm
      rcases hr.consumed_cases with ⟨hfs, _⟩ | ⟨m', hfs, rfl⟩
      · simp [hfs] at hm
      · rw [hfs] at hm
        obtain rfl := Option.some.inj hm
        rfl

/-- A run that sent a tool call is not `tools list`, so the second message is the reply to the
call. -/
theorem RunOf.answered {cli : Cli} {es : List Event} {rep : Report} {m : Json}
    (h : RunOf env cli es rep) (hsent : sentCalls es ≠ [])
    (hm : (consumed env es)[1]? = some m) :
    ∃ method params finish,
      plan env cli.command cli.compact = .exchange method params finish ∧
      cli.command ≠ .tools .list ∧ rep = finish (checkResponse env 2 m) := by
  obtain ⟨method, params, finish, hp, hrep⟩ := h.second_reply env hm
  refine ⟨method, params, finish, hp, ?_, hrep⟩
  intro hlist
  rcases h.sentCalls_cases with hnil | ⟨call, hcall, _⟩
  · exact hsent hnil
  · rw [hlist] at hcall
    cases hcall

/-! ### Reading a report -/

@[simp] theorem successReport_code (data : Json) (compact : Bool) :
    (successReport data compact).code = 0 := rfl

@[simp] theorem successReport_compact (data : Json) (compact : Bool) :
    (successReport data compact).printed.compact = compact := rfl

@[simp] theorem failureReport_code (detail : ErrorDetail) (code : Int32) (compact : Bool) :
    (failureReport detail code compact).code = code := rfl

@[simp] theorem failureReport_compact (detail : ErrorDetail) (code : Int32) (compact : Bool) :
    (failureReport detail code compact).printed.compact = compact := rfl

@[simp] theorem successReport_ok (data : Json) (compact : Bool) :
    (successReport data compact).printed.ok = some true := by
  simp [successReport, Printed.ok, SuccessEnvelope.toValue, lookup]

@[simp] theorem successReport_errorKind (data : Json) (compact : Bool) :
    (successReport data compact).printed.errorKind = none := by
  simp [successReport, Printed.errorKind, SuccessEnvelope.toValue, lookup]

@[simp] theorem failureReport_ok (detail : ErrorDetail) (code : Int32) (compact : Bool) :
    (failureReport detail code compact).printed.ok = some false := by
  simp [failureReport, Printed.ok, ErrorEnvelope.toValue, lookup]

@[simp] theorem failureReport_exitCode (detail : ErrorDetail) (code : Int32)
    (compact : Bool) :
    (failureReport detail code compact).printed.exitCode = some code.toInt64 := by
  simp [failureReport, Printed.exitCode, ErrorEnvelope.toValue, Json.asI64_ofI64]

@[simp] theorem failureReport_errorKind (detail : ErrorDetail) (code : Int32)
    (compact : Bool) :
    (failureReport detail code compact).printed.errorKind = some detail.kind.name := by
  simp [failureReport, Printed.errorKind, ErrorEnvelope.toValue, ErrorDetail.toValue, lookup]

@[simp] theorem successReport_data (data : Json) (compact : Bool) :
    (successReport data compact).printed.data = some data := by
  simp [successReport, Printed.data, SuccessEnvelope.toValue]

@[simp] theorem failureReport_data (detail : ErrorDetail) (code : Int32) (compact : Bool) :
    (failureReport detail code compact).printed.data = none := by
  simp [failureReport, Printed.data, ErrorEnvelope.toValue, lookup]

@[simp] theorem failureReport_errorCode (detail : ErrorDetail) (code : Int32)
    (compact : Bool) :
    (failureReport detail code compact).printed.errorCode = some detail.code := by
  simp [failureReport, Printed.errorCode, ErrorEnvelope.toValue, ErrorDetail.toValue, lookup,
    Json.asI64_ofI64]

@[simp] theorem failureReport_errorMessage (detail : ErrorDetail) (code : Int32)
    (compact : Bool) :
    (failureReport detail code compact).printed.errorMessage = some detail.message := by
  simp [failureReport, Printed.errorMessage, ErrorEnvelope.toValue, ErrorDetail.toValue, lookup]

@[simp] theorem failureReport_errorData (detail : ErrorDetail) (code : Int32)
    (compact : Bool) :
    (failureReport detail code compact).printed.errorData = some detail.data := by
  simp [failureReport, Printed.errorData, ErrorEnvelope.toValue, ErrorDetail.toValue, lookup]

/-! ### An example command line -/

/-- `org edit rename` of one node. -/
def renameCli : Cli := ⟨"org-mcp", [], false, 30, .edit (.rename "id" "Old" "New")⟩

end OrgCli
