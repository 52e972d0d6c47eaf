import OrgCli.Proofs.MockRun
import OrgCli.Proofs.Schedule

/-!
# `OrgCli.Proofs.ExitMatrix`: the exit codes against the mock

`tests/exit_code_matrix.rs` and `tests/cli_query_no_gtd.rs` in general. `Mock.exitCode` is the
exit code that the environment variables of the mock and the command line decide, and
`mock_exit_codes` proves that every interleaving ends with it, or with a timeout.

`Mock.advertises` is what `Client::server_has_tool` finds in the mock's `tools/list`. The code 2
of a GTD query depends on it, although the query never asks for the list.
-/

set_option autoImplicit false

namespace OrgCli

open OrgCli.Mcp
open OrgCli.Support
open OrgCli.Mock (Response clientRequest isGtdTool coreTools gtdTools)

/-- The scan of `Client::server_has_tool`. -/
def namesTool (toolName : String) (tools : List Json) : Bool :=
  tools.any fun t =>
    (((t.get? "name").bind Json.asStr).map fun n => decide (n = toolName)).getD false

/-- The mock lists the tool. -/
def Mock.advertises (mock : Mock) (toolName : String) : Bool :=
  ((toolsOf mock.toolsList).toOption.map (namesTool toolName)).getD false

/-- The exit code of a command line with a request, on a mock that is not too late. -/
def Mock.exitCode (mock : Mock) (env : Env) (c : Commands) : Int32 :=
  if mock.dieAfterHandshake then 3
  else
    match c.call env with
    -- The command is `tools list`.
    | none => 0
    | some (toolName, _) =>
        if mock.vars.toolError = some toolName then 1
        else if isGtdTool toolName && !mock.advertises toolName then
          -- `tools call` has no fallback.
          if c.isGtd then 2 else 1
        else 0

/-! ### `tools/list` -/

/-- The tools that the mock lists. -/
theorem toolsOf_toolsList (mock : Mock) :
    toolsOf mock.toolsList = .ok (if mock.noGtd then coreTools else coreTools ++ gtdTools) := by
  unfold toolsOf Mock.toolsList
  simp [Mock.obj, Json.asArray]

/-- `Client::server_has_tool` finds out what the mock advertises, when its request does not
fail. -/
theorem serverHasTool_advertises (mock : Mock) (env : Env) (toolName : String) (c : Client)
    (w : World)
    (h : (c.run (Client.request env "tools/list" emptyObject) w).1.1 = .ok mock.toolsList) :
    (c.run (Client.serverHasTool env toolName) w).1.1 = .ok (mock.advertises toolName) := by
  have hrun := run_bind_pure (Client.toolsList env) (namesTool toolName) c w
  rw [run_toolsList, h] at hrun
  have hadvertises : mock.advertises toolName
      = namesTool toolName (if mock.noGtd then coreTools else coreTools ++ gtdTools) := by
    unfold Mock.advertises
    rw [toolsOf_toolsList]
    rfl
  rw [hadvertises]
  refine (congrArg (fun r => r.1.1) hrun).trans ?_
  simp only [Except.bind, toolsOf_toolsList, Except.map]

/-- The mock advertises an optional tool when it was not told to leave it out. -/
theorem advertises_optional (mock : Mock) {toolName : String} (h : isGtdTool toolName = true) :
    mock.advertises toolName = !mock.noGtd := by
  unfold Mock.advertises
  rw [toolsOf_toolsList]
  show namesTool toolName (if mock.noGtd then coreTools else coreTools ++ gtdTools) = !mock.noGtd
  have hcore : namesTool toolName coreTools = false ∧ namesTool toolName gtdTools = true := by
    simp only [isGtdTool, Bool.or_eq_true, decide_eq_true_eq] at h
    rcases h with (rfl | rfl) | rfl <;> decide +kernel
  cases mock.noGtd with
  | true => exact hcore.1
  | false =>
      show namesTool toolName (coreTools ++ gtdTools) = true
      unfold namesTool at hcore ⊢
      rw [List.any_append, hcore.1, hcore.2]
      rfl

/-! ### `tools/call` -/

/-- What a tool call comes to on the mock. -/
inductive CallOutcome (mock : Mock) (toolName : String) (arguments : Json) :
    Except McpError Json → Prop
  | failed (message : String) (data : Json) (hfails : mock.vars.toolError = some toolName) :
      CallOutcome mock toolName arguments (.error (.toolError (-32000) message data))
  | unlisted (message : String) (data : Json) (hruns : mock.vars.toolError ≠ some toolName)
      (hoptional : isGtdTool toolName = true) (hunlisted : mock.advertises toolName = false) :
      CallOutcome mock toolName arguments (.error (.toolError (-32601) message data))
  | answered (hruns : mock.vars.toolError ≠ some toolName)
      (hlisted : (isGtdTool toolName && !mock.advertises toolName) = false) :
      CallOutcome mock toolName arguments (.ok (Mock.obj [("content",
        Mock.substitute mock.vars.responseKind (mock.toolContent toolName arguments))]))

/-- A tool call comes to one of these. -/
theorem outcome_call (mock : Mock) (toolName : String) (arguments : Json) :
    CallOutcome mock toolName arguments
      (mock.outcome "tools/call" (toolsCallParams toolName arguments)) := by
  have harguments : ((toolsCallParams toolName arguments).get? "arguments").getD emptyObject
      = arguments := by
    simp [toolsCallParams]
  have hname : Mock.strArg (toolsCallParams toolName arguments) "name" "" = toolName := by
    simp [Mock.strArg, toolsCallParams, Json.asStr]
  have hrespond : mock.respond (clientRequest 2 "tools/call" (toolsCallParams toolName arguments))
      = mock.handleToolsCall (.ofU64 2) (some (toolsCallParams toolName arguments)) := by
    simp [Mock.respond, clientRequest]
  have hoptional : (isGtdTool toolName && !mock.advertises toolName)
      = (mock.noGtd && isGtdTool toolName) := by
    cases h : isGtdTool toolName with
    | true => rw [advertises_optional mock h, Bool.not_not, Bool.true_and, Bool.and_true]
    | false => rw [Bool.false_and, Bool.and_false]
  unfold Mock.outcome
  rw [hrespond]
  unfold Mock.handleToolsCall
  simp only [Option.getD_some, hname, harguments]
  split
  · exact .failed _ _ ‹_›
  · split
    · obtain ⟨hunlisted, hgtd⟩ := Bool.and_eq_true_iff.mp ‹_›
      refine .unlisted _ _ ‹_› hgtd ?_
      rw [advertises_optional mock hgtd, hunlisted]
      rfl
    · exact .answered ‹_› (hoptional.trans (Bool.eq_false_iff.mpr ‹_›))

/-- `tools/list` comes to the list of the tools. -/
theorem outcome_list (mock : Mock) :
    mock.outcome "tools/list" emptyObject = .ok mock.toolsList := by
  have hrespond : mock.respond (clientRequest 2 "tools/list" emptyObject)
      = mock.handleToolsList (.ofU64 2) := by
    simp [Mock.respond, clientRequest]
  unfold Mock.outcome
  rw [hrespond]
  rfl

/-! ### Every interleaving -/

variable {mock : Mock} {env : Env} {cli : Cli} {method : String} {params : Json}
  {finish : Except McpError Json → Report}

/-- The report on the mock's outcome has the exit code of the matrix. -/
theorem outcome_code (hplan : plan env cli.command cli.compact = .exchange method params finish)
    (hstays : mock.dieAfterHandshake = false) :
    (finish (mock.outcome method params)).code = mock.exitCode env cli.command := by
  unfold Mock.exitCode
  rw [if_neg (by simp [hstays])]
  rcases planExchange_cases env hplan
      with ⟨_, _, ⟨hlist, rfl, rfl, rfl⟩ | ⟨_, toolName, arguments, hcall, rfl, rfl, hfinish⟩⟩
  · rw [outcome_list, hlist]
    simp only [finishToolsList, Except.bind, toolsOf_toolsList]
    rfl
  · rw [hcall]
    simp only
    have houtcome := outcome_call mock toolName arguments
    generalize mock.outcome "tools/call" (toolsCallParams toolName arguments) = r at houtcome ⊢
    cases houtcome with
    | failed message data hfails =>
        rw [if_pos hfails]
        rcases hfinish with ⟨_, rfl⟩ | ⟨_, _, rfl⟩ <;> rfl
    | unlisted message data hruns hoptional hunlisted =>
        rw [if_neg hruns, if_pos (by simp [hoptional, hunlisted])]
        rcases hfinish with ⟨hgtd, rfl⟩ | ⟨hgtd, _, rfl⟩
        · rw [if_pos hgtd]
          rfl
        · rw [if_neg (by simp [hgtd])]
          rfl
    | answered hruns hlisted =>
        rw [if_neg hruns, if_neg (by simp [hlisted])]
        rcases hfinish with ⟨_, rfl⟩ | ⟨_, _, rfl⟩ <;> rfl

/-- A mock that exits after its first reply leaves the code of a transport error. -/
theorem exitCode_dies (hdies : mock.dieAfterHandshake = true) (c : Commands) :
    mock.exitCode env c = 3 := if_pos hdies

/-- There is an interleaving in which the client does not run out of time. -/
theorem exists_mock_run
    (hplan : plan env cli.command cli.compact = .exchange method params finish)
    (hspeaks : mock.Speaks env method params) :
    ∃ es s rep, Run (system env mock.encode mock.machine (cli.dialogue env)
        (recvTimeout cli.timeout) .fresh) es s ∧
      s.program = .done rep ∧ rep.code = mock.exitCode env cli.command := by
  obtain ⟨next, hdialogue, hok, _⟩ :=
    dialogue_exchange env (recvTimeout cli.timeout) cli.compact method params finish
  have hstart : cli.dialogue env = Dialogue.connect env (recvTimeout cli.timeout) next := by
    unfold Cli.dialogue
    rw [hplan, hdialogue]
  rw [hstart]
  cases hdies : mock.dieAfterHandshake with
  | false =>
      have hcall := react_call hdies hspeaks.hearsRequest rfl
        ([] ++ mock.recorded (mock.encode initializeRequest).text
          ++ mock.recorded (mock.encode initializedNotification).text)
      obtain ⟨fs, hconnect⟩ := path_connect next (react_initializeRequest hspeaks hdies [])
        hspeaks.readsInitialize Mock.initialize_accepted (react_initialized hspeaks hdies _)
      obtain ⟨gs, hrequest⟩ := path_request (fun r => .done (finish r)) hcall hspeaks.readsReply
      rw [hok] at hconnect
      obtain ⟨es, s, hrun, hdone⟩ := exists_run (hconnect.append hrequest)
      refine ⟨es, s, _, hrun, hdone, ?_⟩
      rw [Mock.checkResponse_toValue env (Mock.respond_id mock _)]
      exact outcome_code hplan hdies
  | true =>
      have hgone : ∀ log text, mock.machine.react ⟨log, true⟩ text = (⟨log, true⟩, []) :=
        fun log text => if_pos (Mock.machine_halted mock ⟨log, true⟩)
      obtain ⟨fs, hconnect⟩ := path_connect next (react_dies hspeaks.hearsInitialize hdies)
        hspeaks.readsInitialize Mock.initialize_accepted (hgone _ _)
      obtain ⟨gs, e, hrequest⟩ := path_halted (fun r => .done (finish r))
        (Mock.machine_halted mock ⟨_, true⟩)
      rw [hok] at hconnect
      obtain ⟨es, s, hrun, hdone⟩ := exists_run (hconnect.append hrequest)
      refine ⟨es, s, _, hrun, hdone, ?_⟩
      rw [finish_transport hplan, exitCode_dies hdies]
      rfl

/-- The exit codes of the command line against the mock, for all of the mock's environment
variables and every command with a request. Whatever the order of the threads and the mock, the
code is the one of the matrix, or the client ran out of time and the code is 3. The code of the
matrix is reached. -/
theorem mock_exit_codes (mock : Mock) (env : Env) (cli : Cli) (method : String) (params : Json)
    (finish : Except McpError Json → Report)
    (hplan : plan env cli.command cli.compact = .exchange method params finish)
    (hspeaks : mock.Speaks env method params) :
    (∀ es s rep, Run (system env mock.encode mock.machine (cli.dialogue env)
        (recvTimeout cli.timeout) .fresh) es s → s.program = .done rep →
      rep.code = mock.exitCode env cli.command ∨
        ∃ d, recvTimeout cli.timeout = some d ∧ rep = errorReport (timeoutError d) cli.compact) ∧
    ∃ es s rep, Run (system env mock.encode mock.machine (cli.dialogue env)
        (recvTimeout cli.timeout) .fresh) es s ∧
      s.program = .done rep ∧ rep.code = mock.exitCode env cli.command := by
  refine ⟨fun es s rep hrun hdone => ?_, exists_mock_run hplan hspeaks⟩
  cases hdies : mock.dieAfterHandshake with
  | false =>
      obtain ⟨_, _, _, hpost⟩ := wp_post (mock_wp hplan hspeaks hdies) hrun hdone
      rcases hpost with ⟨rfl, _⟩ | hlate
      · exact Or.inl (outcome_code hplan hdies)
      · exact Or.inr hlate
  | true =>
      obtain ⟨_, _, _, msg, rfl⟩ := wp_post (mock_dies_wp hplan hspeaks.hearsInitialize
        hspeaks.readsInitialize hdies) hrun hdone
      rw [exitCode_dies hdies]
      exact Or.inl rfl

/-- `org config priority` ends with the code 0. -/
theorem mock_exit_codes_priority :
    ∃ es s rep, Run (system priorityEnv priorityMock.encode priorityMock.machine
        (priorityCli.dialogue priorityEnv) (recvTimeout priorityCli.timeout) .fresh) es s ∧
      s.program = .done rep ∧ rep.code = 0 := by
  have hcode : priorityMock.exitCode priorityEnv priorityCli.command = 0 := by decide +kernel
  rw [← hcode]
  exact (mock_exit_codes priorityMock priorityEnv priorityCli _ _ _ rfl priorityMock_speaks).2

end OrgCli
