import OrgCli.Proofs.Client
import OrgCli.Spec.Plan

/-!
# `OrgCli.Proofs.Plan`: `run` carries out the plan

`run_eq_plan` is the bridge between the handlers and the abstract view: for every command
line, `run` is `Plan.exec` of the command's `plan`. Each handler is one case, closed by the
lemma of its family (`callTool_eq`, `cmdQueryGtd_eq`, `cmdToolsCall_eq`, `cmdToolsList_eq`,
`cmdSchema_eq`). A change to one handler changes its case and its row of `encode`.

`exec_exchange` follows a plan with an exchange through `ConnectRun` and `RequestRun`. It is
the case analysis that every theorem about a whole run starts from.
-/

set_option autoImplicit false

namespace OrgCli

open OrgCli.Mcp
open OrgCli.Support
open OrgCli.Uri (normalizeForTool validateOutlinePath)

variable (env : Env)

/-! ### The families of handlers -/

/-- `handleMcpError` prints the report of its error. -/
theorem handleMcpError_eq (e : McpError) (compact : Bool) :
    handleMcpError e compact = (errorReport e compact).emit := by
  cases e <;> rfl

/-- A method that maps the result of another one runs as that one does. -/
theorem run_bind_pure {α β : Type} (x : Client.M α) (f : α → β) (c : Client) (w : World) :
    c.run (x >>= fun a => pure (f a)) w
      = (((c.run x w).1.1.map f, (c.run x w).1.2), (c.run x w).2) := by
  unfold Client.run
  cases hx : x (c, w) with
  | ok a s => rw [bind_of_ok hx]; rfl
  | error e s => rw [bind_of_error hx]; rfl

/-- A handler is a plan with an exchange when, once connected, it makes the request and
prints the report on its result. -/
theorem exec_exchange_of {argv : List String} {compact : Bool} {method : String}
    {params : Json} {finish : Except McpError Json → Report} {p : Proc Int32}
    {body : Client → Proc Int32}
    (hp : ∀ w, p w = match connect env argv compact w with
      | (.error code, w') => (code, w')
      | (.ok c, w') => body c w')
    (hbody : ∀ c w, body c w = (finish (c.run (Client.request env method params) w).1.1).emit
      (c.run (Client.request env method params) w).2) :
    p = Plan.exec env argv compact (.exchange method params finish) := by
  funext w
  rw [hp]
  simp only [Plan.exec, Proc.bind_apply]
  obtain ⟨r, w'⟩ := connect env argv compact w
  -- Without a connection both return the code of the error that `connect` printed.
  cases r with
  | error code => rfl
  | ok c => exact hbody c w'

/-- The match on the result of `connect`, run from a world. -/
theorem connect_bind (argv : List String) (compact : Bool) (body : Client → Proc Int32)
    (w : World) :
    (connect env argv compact >>= fun r => match r with
      | .error code => pure code
      | .ok client => body client) w
      = match connect env argv compact w with
        | (.error code, w') => (code, w')
        | (.ok c, w') => body c w' := by
  rw [Proc.bind_apply]
  obtain ⟨r, w'⟩ := connect env argv compact w
  cases r <;> rfl

/-- `callTool` is one `tools/call` and a report of the extracted content. -/
theorem callTool_eq (argv : List String) (toolName : String) (arguments : Map)
    (compact : Bool) :
    callTool env argv toolName arguments compact
      = Plan.exec env argv compact (.exchange "tools/call"
          (toolsCallParams toolName (.object arguments))
          (finishWith (fun result => extractResult env (contentOf result)) compact)) := by
  refine exec_exchange_of env (connect_bind env argv compact _) ?_
  intro c w
  simp only [Client.toolsCall, Proc.bind_apply, run_bind_pure]
  obtain ⟨⟨r, c'⟩, w'⟩ := c.run (Client.request env "tools/call"
    (toolsCallParams toolName (.object arguments))) w
  cases r with
  | ok v => rfl
  | error e => exact congrFun (handleMcpError_eq e compact) w'

/-- `cmdToolsCall` is one `tools/call` with the given arguments. -/
theorem cmdToolsCall_eq (argv : List String) (toolName : String) (arguments : Json)
    (compact : Bool) :
    cmdToolsCall env argv toolName arguments compact
      = Plan.exec env argv compact (.exchange "tools/call"
          (toolsCallParams toolName arguments)
          (finishWith (fun result => .object (.ofList [("tool", .string toolName),
            ("result", extractResult env (contentOf result))])) compact)) := by
  refine exec_exchange_of env (connect_bind env argv compact _) ?_
  intro c w
  simp only [Client.toolsCall, Proc.bind_apply, run_bind_pure]
  obtain ⟨⟨r, c'⟩, w'⟩ := c.run (Client.request env "tools/call"
    (toolsCallParams toolName arguments)) w
  cases r with
  | ok v => rfl
  | error e => exact congrFun (handleMcpError_eq e compact) w'

/-- `cmdQueryGtd` is one `tools/call` with the fallback of `finishGtd`. -/
theorem cmdQueryGtd_eq (argv : List String) (toolName : String) (tag : Option String)
    (compact : Bool) :
    cmdQueryGtd env argv toolName tag compact
      = Plan.exec env argv compact (.exchange "tools/call"
          (toolsCallParams toolName (.object (tagArguments tag)))
          (finishGtd env toolName compact)) := by
  refine exec_exchange_of env (connect_bind env argv compact _) ?_
  intro c w
  simp only [Client.toolsCall, Proc.bind_apply, run_bind_pure]
  obtain ⟨⟨r, c'⟩, w'⟩ := c.run (Client.request env "tools/call"
    (toolsCallParams toolName (.object (tagArguments tag)))) w
  cases r with
  | ok v => rfl
  | error e =>
      -- Only a tool error has a code that can be the one of the fallback.
      cases e with
      | toolError code message data =>
          by_cases h : code = -32601
          · simp only [Except.map, finishGtd, h, if_true]
            rfl
          · simp only [Except.map, finishGtd, h, if_false]
            exact congrFun (handleMcpError_eq _ compact) w'
      | transport message => rfl
      | spawn message => rfl
      | protocol message => rfl

/-- `toolsList` is one `tools/list`, with its result checked. -/
theorem run_toolsList (c : Client) (w : World) :
    c.run (Client.toolsList env) w
      = (((c.run (Client.request env "tools/list" emptyObject) w).1.1.bind toolsOf,
          (c.run (Client.request env "tools/list" emptyObject) w).1.2),
        (c.run (Client.request env "tools/list" emptyObject) w).2) := by
  unfold Client.run Client.toolsList
  cases hx : Client.request env "tools/list" emptyObject (c, w) with
  | error e s => rw [bind_of_error hx]; rfl
  | ok v s =>
      rw [bind_of_ok hx]
      simp only [Except.bind, toolsOf]
      cases (v.get? "tools").bind Json.asArray <;> rfl

/-- `cmdToolsList` is one `tools/list` and a report of the tools. -/
theorem cmdToolsList_eq (argv : List String) (compact : Bool) :
    cmdToolsList env argv compact
      = Plan.exec env argv compact (.exchange "tools/list" emptyObject
          (finishToolsList compact)) := by
  refine exec_exchange_of env (connect_bind env argv compact _) ?_
  intro c w
  simp only [Proc.bind_apply, run_toolsList, finishToolsList]
  obtain ⟨⟨r, c'⟩, w'⟩ := c.run (Client.request env "tools/list" emptyObject) w
  cases r.bind toolsOf with
  | ok v => rfl
  | error e => exact congrFun (handleMcpError_eq e compact) w'

/-- `cmdSchema` prints its report. -/
theorem cmdSchema_eq (path : List String) (compact : Bool) :
    cmdSchema path compact = (schemaReport path compact).emit := by
  unfold cmdSchema schemaReport
  split
  · rfl
  · cases Contract.serializeOne path <;> rfl

/-! ### The property flags -/

@[simp] theorem setPairs_nil : setPairs [] = some [] := rfl

/-- The strings parse when the first one and the rest do. -/
@[simp] theorem setPairs_cons (s : String) (sets : List String) :
    setPairs (s :: sets) = (splitOnce s '=').bind fun p => (setPairs sets).map (p :: ·) := by
  unfold setPairs
  rw [List.mapM_cons]
  cases splitOnce s '=' with
  | none => rfl
  | some p => cases List.mapM (splitOnce · '=') sets <;> rfl

/-- `parseSetPairs` succeeds exactly when every pair has a `=`, with the pairs inserted from
left to right. The induction carries the map built so far. -/
theorem parseSetPairsFrom_eq_ok_iff (sets : List String) (m m' : Map) :
    parseSetPairsFrom env m sets = .ok m' ↔
      ∃ pairs, setPairs sets = some pairs ∧
        m' = (pairs.map fun p => (p.1, Json.string p.2)).foldl
          (fun m e => m.insert e.1 e.2) m := by
  induction sets generalizing m with
  | nil => simp [parseSetPairsFrom, eq_comm]
  | cons pair sets ih =>
      unfold parseSetPairsFrom
      rw [setPairs_cons]
      cases splitOnce pair '=' with
      | none => simp
      | some p =>
          -- The loop continues with the pair inserted.
          obtain ⟨key, val⟩ := p
          simp only [ih, Option.bind_some]
          cases setPairs sets <;> simp

/-- The set map of pairs that all have a `=`. -/
theorem parseSetPairs_eq_ok_iff (sets : List String) (m : Map) :
    parseSetPairs env sets = .ok m ↔
      ∃ pairs, setPairs sets = some pairs ∧
        m = .ofList (pairs.map fun p => (p.1, Json.string p.2)) :=
  parseSetPairsFrom_eq_ok_iff env sets .empty m

/-- A malformed pair is an error of `parseSetPairs`. -/
theorem parseSetPairs_error {sets : List String} {msg : String}
    (h : parseSetPairs env sets = .error msg) : setPairs sets = none := by
  cases hp : setPairs sets with
  | none => rfl
  | some pairs =>
      have hok := (parseSetPairs_eq_ok_iff env sets _).mpr ⟨pairs, hp, rfl⟩
      rw [h] at hok
      cases hok

/-! ### The bridge -/

/-- `cmdQuery` carries out its plan. -/
theorem cmdQuery_eq (argv : List String) (args : QueryArgs) (compact : Bool) :
    cmdQuery env argv args compact
      = Plan.exec env argv compact (plan env (.query args) compact) := by
  obtain ⟨qlExpr, files, kind⟩ := args
  cases kind with
  | none =>
      cases qlExpr with
      | none => rfl
      | some expr => exact callTool_eq env argv _ _ compact
  | some kind =>
      cases kind with
      | run expr files => exact callTool_eq env argv _ _ compact
      | inbox => exact cmdQueryGtd_eq env argv _ _ compact
      | next tag => cases tag <;> exact cmdQueryGtd_eq env argv _ _ compact
      | backlog tag => cases tag <;> exact cmdQueryGtd_eq env argv _ _ compact

/-- `cmdTodo` carries out its plan. -/
theorem cmdTodo_eq (argv : List String) (kind : TodoKind) (compact : Bool) :
    cmdTodo env argv kind compact
      = Plan.exec env argv compact (plan env (.todo kind) compact) := by
  -- An absent option leaves the map as it is, and a present one inserts its field.
  cases kind with
  | state uri newState from' note =>
      cases from' <;> cases note <;> exact callTool_eq env argv _ _ compact
  | add parent title state body tags after =>
      cases body <;> cases after <;> exact callTool_eq env argv _ _ compact

/-- `cmdEdit` carries out its plan. Only `properties` can fail its validation. -/
theorem cmdEdit_eq (argv : List String) (kind : EditKind) (compact : Bool) :
    cmdEdit env argv kind compact
      = Plan.exec env argv compact (plan env (.edit kind) compact) := by
  cases kind with
  | properties uri sets unsets =>
      have hcall : (Commands.edit (.properties uri sets unsets)).toolCall
          = (setPairs sets).map fun pairs => ("org-set-properties",
            .ofList [("uri", .string (normalizeForTool uri)),
              ("properties", .object (propertiesMap pairs unsets))]) := by
        simp only [Commands.toolCall, Commands.fields, Commands.normalized, Commands.mapUris,
          encode, encodeEdit, EditKind.withUri, EditKind.uri, Option.map_map]
        rfl
      -- The handler parses the pairs first, and the call has the parsed pairs in it.
      unfold cmdEdit plan
      cases hp : parseSetPairs env sets with
      | ok m =>
          obtain ⟨pairs, hpairs, rfl⟩ := (parseSetPairs_eq_ok_iff env sets m).mp hp
          simp only [hp, hcall, hpairs, Option.map_some]
          exact callTool_eq env argv _ _ compact
      | error msg =>
          simp only [hcall, parseSetPairs_error env hp, Option.map_none, usageMessage, hp]
          rfl
  | body uri new old append => cases old <;> exact callTool_eq env argv _ _ compact
  | rename | tags | priority | scheduled | deadline | logNote =>
      exact callTool_eq env argv _ _ compact

/-- `cmdClock` carries out its plan. -/
theorem cmdClock_eq (argv : List String) (kind : ClockKind) (compact : Bool) :
    cmdClock env argv kind compact
      = Plan.exec env argv compact (plan env (.clock kind) compact) := by
  cases kind with
  | in' uri at' resolve => cases at' <;> exact callTool_eq env argv _ _ compact
  | out uri at' => cases uri <;> cases at' <;> exact callTool_eq env argv _ _ compact
  | status | add | delete | dangling => exact callTool_eq env argv _ _ compact

/-- `cmdConfig` carries out its plan. -/
theorem cmdConfig_eq (argv : List String) (kind : ConfigKind) (compact : Bool) :
    cmdConfig env argv kind compact
      = Plan.exec env argv compact (plan env (.config kind) compact) := by
  cases kind <;> exact callTool_eq env argv _ _ compact

/-- `runToolsCall` carries out its plan. -/
theorem runToolsCall_eq (argv : List String) (name : String) (args : Option String)
    (compact : Bool) :
    runToolsCall env argv name args compact
      = Plan.exec env argv compact (plan env (.tools (.call name args)) compact) := by
  cases args with
  | none => exact cmdToolsCall_eq env argv name emptyObject compact
  | some s =>
      simp only [runToolsCall, plan, callArguments]
      cases env.serde.fromStr s with
      | ok v => exact cmdToolsCall_eq env argv name v compact
      | error e => rfl

/-- `run` carries out the plan of its command, with the timeout stored. -/
theorem run_eq_plan (cli : Cli) (compact : Bool) (w : World) :
    run env cli compact w
      = Plan.exec env cli.serverArgv compact (plan env cli.command compact)
          { w with recvTimeoutSecs := cli.timeout } := by
  obtain ⟨server, serverArgs, c, timeout, command⟩ := cli
  simp only [run, Proc.bind_apply]
  cases command with
  | read uri => exact congrFun (callTool_eq env _ _ _ compact) _
  | readHeadline uri => exact congrFun (callTool_eq env _ _ _ compact) _
  | outline file =>
      -- `run` validates the path, and `encode` has the validation in the call.
      have hcall : (Commands.outline file).toolCall
          = if (validateOutlinePath file).isOk then
              some ("org-read-outline", .ofList [("file", .string file)])
            else none := by
        simp only [Commands.toolCall, Commands.fields, Commands.normalized, Commands.mapUris,
          encode]
        split <;> rfl
      cases hv : validateOutlinePath file with
      | ok f =>
          simp only [plan, hcall, hv, Except.isOk, Except.toBool, if_true]
          exact congrFun (callTool_eq env _ _ _ compact) _
      | error e =>
          simp only [plan, hcall, hv, Except.isOk, Except.toBool, Bool.false_eq_true, if_false]
          rfl
  | query args => exact congrFun (cmdQuery_eq env _ args compact) _
  | todo kind => exact congrFun (cmdTodo_eq env _ kind compact) _
  | tools cmd =>
      cases cmd with
      | list => exact congrFun (cmdToolsList_eq env _ compact) _
      | call name args => exact congrFun (runToolsCall_eq env _ name args compact) _
  | edit kind => exact congrFun (cmdEdit_eq env _ kind compact) _
  | clock kind => exact congrFun (cmdClock_eq env _ kind compact) _
  | config kind => exact congrFun (cmdConfig_eq env _ kind compact) _
  | schema path => exact congrFun (cmdSchema_eq path compact) _

/-! ### The run of an exchange -/

/-- The timeout that `connect` gives to the client. -/
def World.connectTimeout (w : World) : Option Duration :=
  if w.recvTimeoutSecs = 0 then none else some (.fromSecs w.recvTimeoutSecs)

/-- A connect of the client that succeeds is one of the program. -/
theorem connect_ok {argv : List String} {w w' : World} {c : Client}
    (h : Client.connectWithTimeout env argv w.connectTimeout w = (.ok c, w')) (compact : Bool) :
    connect env argv compact w = (.ok c, w') := by
  unfold connect
  rw [Proc.bind_apply]
  show (Client.connectWithTimeout env argv w.connectTimeout >>= _) w = _
  rw [Proc.bind_apply, h]
  rfl

/-- A connect of the client that fails is reported. -/
theorem connect_error {argv : List String} {w w' : World} {e : McpError}
    (h : Client.connectWithTimeout env argv w.connectTimeout w = (.error e, w'))
    (compact : Bool) :
    connect env argv compact w
      = (.error (errorReport e compact).code, w'.print (errorReport e compact).printed) := by
  unfold connect
  rw [Proc.bind_apply]
  show (Client.connectWithTimeout env argv w.connectTimeout >>= _) w = _
  rw [Proc.bind_apply, h]
  simp only [Proc.bind_apply, handleMcpError_eq]
  rfl

/-- `connect` runs as `ConnectRun` lists. On a failure it has printed the report of the
error. -/
theorem connect_cases (program : String) (args : List String) (compact : Bool) (w : World) :
    ∃ es, (∃ e, ConnectRun env (program :: args) es (.error e) ∧
        connect env (program :: args) compact w
          = (.error (errorReport e compact).code,
              (w.extend es).print (errorReport e compact).printed)) ∨
      (∃ c, ConnectRun env (program :: args) es (.ok c) ∧
        connect env (program :: args) compact w = (.ok c, w.extend es)) := by
  let timeout :=
    if w.recvTimeoutSecs = 0 then none else some (Duration.fromSecs w.recvTimeoutSecs)
  obtain ⟨es, r, hconn, hrun⟩ := connect_run env program args timeout w
  refine ⟨es, ?_⟩
  unfold connect
  rw [Proc.bind_apply]
  show (∃ e, _ ∧ (Client.connectWithTimeout env (program :: args) timeout >>= _) w = _) ∨
    (∃ c, _ ∧ (Client.connectWithTimeout env (program :: args) timeout >>= _) w = _)
  rw [Proc.bind_apply, hrun]
  cases r with
  | ok c => exact Or.inr ⟨c, hconn, rfl⟩
  | error e =>
      refine Or.inl ⟨e, hconn, ?_⟩
      simp only [Proc.bind_apply, handleMcpError_eq]
      rfl

/-- What a plan with an exchange can do. Either the connect fails and its error is
reported, or the request runs with the id 2 and its result is reported. -/
theorem exec_exchange (program : String) (args : List String) (compact : Bool)
    (method : String) (params : Json) (finish : Except McpError Json → Report) (w : World) :
    ∃ es rep, Plan.exec env (program :: args) compact (.exchange method params finish) w
        = (rep.code, (w.extend es).print rep.printed) ∧
      ((∃ e, ConnectRun env (program :: args) es (.error e) ∧ rep = errorReport e compact) ∨
        (∃ c fs gs r, es = fs ++ gs ∧ ConnectRun env (program :: args) fs (.ok c) ∧
          RequestRun env 2 (requestMsg 2 method params) gs r ∧ rep = finish r)) := by
  simp only [Plan.exec, Proc.bind_apply]
  rcases connect_cases env program args compact w with ⟨es, ⟨e, hconn, hrun⟩ | ⟨c, hconn, hrun⟩⟩
  · rw [hrun]
    exact ⟨es, errorReport e compact, rfl, Or.inl ⟨e, hconn, rfl⟩⟩
  · -- The handshake took the id 1.
    have hid : c.nextId = 2 := by
      cases hconn
      assumption
    obtain ⟨gs, r, hreq, hrun'⟩ := request_run env method params c (w.extend es)
    rw [hrun]
    rw [hid] at hreq
    rw [World.extend_extend] at hrun'
    refine ⟨es ++ gs, finish r, ?_, Or.inr ⟨c, es, gs, r, rfl, hconn, hreq, rfl⟩⟩
    simp only [Proc.bind_apply, Client.run_of_finishedWith hrun']
    rfl

end OrgCli
