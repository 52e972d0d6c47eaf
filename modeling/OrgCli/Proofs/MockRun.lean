import OrgCli.Proofs.Adequacy
import OrgCli.Proofs.Dialogue
import OrgCli.Proofs.Mock

/-!
# `OrgCli.Proofs.MockRun`: the command line against the mock

The whole system of the integration tests: the two threads of the client, and the mock as
its server. `mock_run_ends` says how every interleaving of them ends, and
`mock_dies_reported` what becomes of a mock that exits after the handshake, while the client
is still writing.
-/

set_option autoImplicit false

namespace OrgCli

open OrgCli.Mcp
open OrgCli.Support
open OrgCli.Mock (clientRequest clientNotification handleInitialize)

variable {mock : Mock} {env : Env} {cli : Cli} {method : String} {params : Json}
  {finish : Except McpError Json → Report}

/-- The mock's answer to the first request. -/
theorem respond_initializeRequest (mock : Mock) :
    mock.respond (clientRequest 1 "initialize" initializeParams) = handleInitialize (.ofU64 1) := by
  simp [Mock.respond, clientRequest]

/-- The mock writes at most one line for a line. -/
theorem handle_length (mock : Mock) (s : Mock.State) (line : String) :
    (mock.machine.handle s line).2.length ≤ 1 := by
  obtain ⟨reply, _, hhandle⟩ := Mock.handle_cases mock s line
  rw [Mock.machine_handle, hhandle]
  cases reply <;> simp

/-- A command line makes at most five calls. -/
theorem dialogue_calls (hplan : plan env cli.command cli.compact = .exchange method params finish) :
    (cli.dialogue env).CallsWithin 5 := by
  obtain ⟨next, hdialogue, hok, herror⟩ :=
    dialogue_exchange env (recvTimeout cli.timeout) cli.compact method params finish
  unfold Cli.dialogue
  rw [hplan, hdialogue]
  refine connect_calls fun r => ?_
  cases r with
  | error e =>
      rw [herror]
      trivial
  | ok u =>
      rw [hok]
      exact request_calls fun r => trivial

/-- A transport error is reported as it is. -/
theorem finish_transport
    (hplan : plan env cli.command cli.compact = .exchange method params finish) (msg : String) :
    finish (.error (.transport msg)) = errorReport (.transport msg) cli.compact := by
  rcases finish_error env hplan (.transport msg) with ⟨_, h⟩ | ⟨⟨_, message, data, h⟩, _⟩
  · exact h
  · cases h

/-- What a run against a mock that stays ends with: the report on the mock's outcome, with
every message logged, or a timeout. -/
def MockPost (mock : Mock) (cli : Cli) (method : String) (params : Json)
    (finish : Except McpError Json → Report) (rep : Report) (s : Mock.State) : Prop :=
  (rep = finish (mock.outcome method params) ∧ s.log = mock.runLog method params) ∨
    ∃ d, recvTimeout cli.timeout = some d ∧ rep = errorReport (timeoutError d) cli.compact

/-- A mock that stays handles a message that it hears. -/
theorem react_stays (hstays : mock.dieAfterHandshake = false) {msg : Json} {req : Mock.Request}
    (hears : mock.Hears msg req) (log : List String) :
    mock.machine.react ⟨log, false⟩ (mock.encode msg).text
      = (⟨log ++ mock.recorded (mock.encode msg).text, false⟩,
          if req.isNotification then [] else [mock.encode (mock.respond req).toValue]) := by
  have hstops : mock.stops (mock.encode msg).text = false := by
    unfold Mock.stops
    split <;> simp [hstays]
  have hrunning : (⟨log, false⟩ : Mock.State).exited = false := rfl
  have hhandle := Mock.handle_request hears ⟨log, false⟩
  rw [hstops] at hhandle
  exact (Mock.react_of_running hrunning _).trans hhandle

/-- It answers a request. -/
theorem react_call (hstays : mock.dieAfterHandshake = false) {msg : Json} {req : Mock.Request}
    (hears : mock.Hears msg req) (hcall : req.isNotification = false) (log : List String) :
    mock.machine.react ⟨log, false⟩ (mock.encode msg).text
      = (⟨log ++ mock.recorded (mock.encode msg).text, false⟩,
          [mock.encode (mock.respond req).toValue]) := by
  have hreact := react_stays hstays hears log
  rw [if_neg (by simp [hcall])] at hreact
  exact hreact

/-- It answers `initialize`. -/
theorem react_initializeRequest (hspeaks : mock.Speaks env method params)
    (hstays : mock.dieAfterHandshake = false) (log : List String) :
    mock.machine.react ⟨log, false⟩ (mock.encode initializeRequest).text
      = (⟨log ++ mock.recorded (mock.encode initializeRequest).text, false⟩,
          [mock.encode (handleInitialize (.ofU64 1)).toValue]) := by
  have hreact := react_call hstays hspeaks.hearsInitialize rfl log
  rw [respond_initializeRequest] at hreact
  exact hreact

/-- It writes nothing for the notification. -/
theorem react_initialized (hspeaks : mock.Speaks env method params)
    (hstays : mock.dieAfterHandshake = false) (log : List String) :
    mock.machine.react ⟨log, false⟩ (mock.encode initializedNotification).text
      = (⟨log ++ mock.recorded (mock.encode initializedNotification).text, false⟩, []) := by
  have hreact := react_stays hstays hspeaks.hearsInitialized log
  rw [if_pos (by decide)] at hreact
  exact hreact

/-- The command line and a mock that stays meet that postcondition. -/
theorem mock_wp (hplan : plan env cli.command cli.compact = .exchange method params finish)
    (hspeaks : mock.Speaks env method params) (hstays : mock.dieAfterHandshake = false) :
    (cli.dialogue env).wp mock.encode mock.machine (recvTimeout cli.timeout)
      (MockPost mock cli method params finish) .fresh [] .up := by
  have hlate : ∀ d, recvTimeout cli.timeout = some d → ∀ log,
      MockPost mock cli method params finish (errorReport (timeoutError d) cli.compact)
        ⟨log, false⟩ :=
    fun d hd log => Or.inr ⟨d, hd, rfl⟩
  have hrunning : ∀ log, mock.machine.halted ⟨log, false⟩ = false := by
    intro log
    rw [Mock.machine_halted]
  have hinit := react_initializeRequest hspeaks hstays []
  have hnotify := react_initialized hspeaks hstays
    (mock.recorded (mock.encode initializeRequest).text)
  have hrequest := react_call hstays hspeaks.hearsRequest rfl
    (mock.recorded (mock.encode initializeRequest).text
      ++ mock.recorded (mock.encode initializedNotification).text)
  obtain ⟨next, hdialogue, hok, herror⟩ :=
    dialogue_exchange env (recvTimeout cli.timeout) cli.compact method params finish
  unfold Cli.dialogue
  rw [hplan, hdialogue]
  refine wp_connect (hrunning []) hinit hspeaks.readsInitialize Mock.initialize_accepted ?_ ?_ ?_
  · rw [hok, List.nil_append, hnotify]
    refine wp_request (hrunning _) hrequest hspeaks.readsReply (Or.inl ⟨?_, ?_⟩) ?_
    · rw [Mock.checkResponse_toValue env (Mock.respond_id mock _)]
      rfl
    · simp [Mock.runLog]
    · intro d hd
      have hreport := finish_transport hplan s!"no response from server within {d.secs}s (timeout)"
      unfold timeoutError
      rw [hreport]
      exact hlate d hd _
  · intro hhalted
    rw [hrunning] at hhalted
    cases hhalted
  · intro d hd
    rw [herror]
    exact hlate d hd _

/-- A run of the command line with the mock takes at most 29 steps. -/
theorem mock_run_length (hplan : plan env cli.command cli.compact = .exchange method params finish)
    {es : List SystemLabel} {s : SystemState Mock.State Report}
    (h : Run (system env mock.encode mock.machine (cli.dialogue env) (recvTimeout cli.timeout)
      .fresh) es s) : es.length ≤ 29 := by
  obtain ⟨q, hrun, _⟩ := run_refines h
  obtain ⟨m, _, hevents⟩ := events_le (dialogue_calls hplan) hrun
  have hlength := length_le_events (handle_length mock) h
  omega

/-- Every interleaving of the command line with a mock that stays ends after at most 29 steps.
It ends with the report on the mock's outcome, or with a timeout if there is one. When it
ends, the mock has heard the three messages of the run, and nothing else. -/
theorem mock_run_ends (mock : Mock) (env : Env) (cli : Cli) (method : String) (params : Json)
    (finish : Except McpError Json → Report)
    (hplan : plan env cli.command cli.compact = .exchange method params finish)
    (hspeaks : mock.Speaks env method params) (hstays : mock.dieAfterHandshake = false)
    (es : List SystemLabel) (s : SystemState Mock.State Report)
    (h : Run (system env mock.encode mock.machine (cli.dialogue env) (recvTimeout cli.timeout)
      .fresh) es s) :
    es.length ≤ 29 ∧
      (∀ rep, s.program = .done rep → ∃ st, MockPost mock cli method params finish rep st) ∧
      ((∀ l s', ¬ SystemStep env mock.encode mock.machine s l s') →
        ∃ rep st, s.program = .done rep ∧ MockPost mock cli method params finish rep st ∧
          ∀ k, s.server = some k → k = st) := by
  have hwp := mock_wp hplan hspeaks hstays
  refine ⟨mock_run_length hplan h, ?_, wp_stuck hwp h⟩
  intro rep hdone
  obtain ⟨st, _, _, hpost⟩ := wp_post hwp h hdone
  exact ⟨st, hpost⟩

/-- `org --server mock config priority`. -/
def priorityCli : Cli := ⟨"mock", [], false, 30, .config .priority⟩

/-- The params of its call. -/
def priorityParams : Json := toolsCallParams "org-get-priority-config" emptyObject

/-- The priorities that the mock answers, as text. -/
def prioritiesText : String := "\x7b\"default\":\"B\",\"priorities\":[\"A\",\"B\",\"C\"]\x7d"

/-- The reply to the call. -/
def priorityReply : Json :=
  Mock.Response.toValue ⟨"2.0", .ofU64 2,
    some (Mock.obj [("content", Mock.textContent prioritiesText)]), none⟩

/-- The messages of the handshake, each with its text. -/
def handshakeWire : List (Json × Line) := [
  (initializeRequest, ⟨"\x7b\"id\":1,\"jsonrpc\":\"2.0\",\"method\":\"initialize\","
    ++ "\"params\":\x7b\"capabilities\":\x7b\x7d,\"clientInfo\":\x7b\"name\":\"org-cli\","
    ++ "\"version\":\"0.1.0\"\x7d,\"protocolVersion\":\"2024-11-05\"\x7d\x7d",
    by decide +kernel⟩),
  (initializedNotification, ⟨"\x7b\"jsonrpc\":\"2.0\",\"method\":\"notifications/initialized\","
    ++ "\"params\":\x7b\x7d\x7d", by decide +kernel⟩),
  ((handleInitialize (.ofU64 1)).toValue, ⟨"\x7b\"jsonrpc\":\"2.0\",\"id\":1,\"result\":\x7b"
    ++ "\"capabilities\":\x7b\"tools\":\x7b\x7d\x7d,\"protocolVersion\":\"2024-11-05\","
    ++ "\"serverInfo\":\x7b\"name\":\"mock-org-mcp\",\"version\":\"0.1.0\"\x7d\x7d\x7d",
    by decide +kernel⟩)]

/-- A mock that logs its requests, and that reads and writes the texts of a table. It reads the
handshake and the request. -/
def tableMock (wire : List (Json × Line)) (method : String) (params : Json) : Mock where
  vars := ⟨none, none, none, some "1", some "requests.log", none, none⟩
  fromStr _ := .error "expected value at line 1 column 1"
  parse s := match lookup s [
      ((wireText wire initializeRequest).text, clientRequest 1 "initialize" initializeParams),
      ((wireText wire initializedNotification).text, clientNotification),
      ((wireText wire (requestMsg 2 method params)).text, clientRequest 2 method params)] with
    | some req => .ok req
    | none => .error "expected value at line 1 column 1"
  encode := wireText wire

/-- A client that reads the texts of a table. -/
def tableEnv (wire : List (Json × Line)) : Env :=
  .replay (wire.map fun entry => (entry.2.text, entry.1))

/-- The values of a run of that command line, each with its text. -/
def priorityWire : List (Json × Line) := handshakeWire ++ [
  (requestMsg 2 "tools/call" priorityParams, ⟨"\x7b\"id\":2,\"jsonrpc\":\"2.0\","
    ++ "\"method\":\"tools/call\",\"params\":\x7b\"arguments\":\x7b\x7d,"
    ++ "\"name\":\"org-get-priority-config\"\x7d\x7d", by decide +kernel⟩),
  (Mock.payload "org-get-priority-config" emptyObject, ⟨prioritiesText, by decide +kernel⟩),
  (priorityReply, ⟨"\x7b\"jsonrpc\":\"2.0\",\"id\":2,\"result\":\x7b\"content\":[\x7b\"text\":"
    ++ "\"\x7b\\\"default\\\":\\\"B\\\",\\\"priorities\\\":[\\\"A\\\",\\\"B\\\",\\\"C\\\"]\x7d\","
    ++ "\"type\":\"text\"\x7d]\x7d\x7d", by decide +kernel⟩)]

/-- A mock that reads and writes these texts. -/
def priorityMock : Mock := tableMock priorityWire "tools/call" priorityParams

/-- A client that reads them. -/
def priorityEnv : Env := tableEnv priorityWire

/-- The two understand each other. -/
theorem priorityMock_speaks : priorityMock.Speaks priorityEnv "tools/call" priorityParams where
  hearsInitialize := by
    unfold Mock.Hears
    decide +kernel
  hearsInitialized := by
    unfold Mock.Hears
    decide +kernel
  hearsRequest := by
    unfold Mock.Hears
    decide +kernel
  readsInitialize := by decide +kernel
  readsReply := by decide +kernel

/-- A run in which the client does not wait for the mock ends with the timeout. -/
theorem mock_run_ends_timeout :
    ∃ finish es s, plan priorityEnv priorityCli.command priorityCli.compact
        = .exchange "tools/call" priorityParams finish ∧
      Run (system priorityEnv priorityMock.encode priorityMock.machine
        (priorityCli.dialogue priorityEnv) (recvTimeout priorityCli.timeout) .fresh) es s ∧
      s.program = .done (errorReport (timeoutError (.fromSecs 30)) false) ∧
      ∃ st, MockPost priorityMock priorityCli "tools/call" priorityParams finish
        (errorReport (timeoutError (.fromSecs 30)) false) st := by
  have hrun : Run (system priorityEnv priorityMock.encode priorityMock.machine
      (priorityCli.dialogue priorityEnv) (recvTimeout priorityCli.timeout) .fresh) []
      (.start (priorityCli.dialogue priorityEnv) (recvTimeout priorityCli.timeout) .fresh) :=
    .init rfl
  have hrun := hrun.step (.write rfl (.send rfl initializeRequest .ok) rfl)
  have hrun := hrun.step (.recv rfl (.recv rfl))
  have hrun := hrun.step (.recvReturn rfl (.timedOut rfl rfl rfl ⟨rfl, rfl⟩))
  have hends := mock_run_ends priorityMock priorityEnv priorityCli _ _ _ rfl priorityMock_speaks
    (by decide) _ _ hrun
  exact ⟨_, _, _, rfl, hrun, rfl, hends.2.1 _ rfl⟩

/-! ### A mock that exits after the handshake -/

/-- A mock that dies after the handshake is stopped by `initialize`. -/
theorem stops_initializeRequest
    (hears : mock.Hears initializeRequest (clientRequest 1 "initialize" initializeParams))
    (hdies : mock.dieAfterHandshake = true) :
    mock.stops (mock.encode initializeRequest).text = true := by
  unfold Mock.stops
  rw [hears]
  simp [clientRequest, Mock.Request.isNotification, hdies]

/-- It answers `initialize` and exits. -/
theorem react_dies
    (hears : mock.Hears initializeRequest (clientRequest 1 "initialize" initializeParams))
    (hdies : mock.dieAfterHandshake = true) :
    mock.machine.react .fresh (mock.encode initializeRequest).text
      = (⟨[] ++ mock.recorded (mock.encode initializeRequest).text, true⟩,
          [mock.encode (handleInitialize (.ofU64 1)).toValue]) := by
  have hhandle := Mock.handle_request hears ⟨[], false⟩
  rw [if_neg (by decide), respond_initializeRequest, stops_initializeRequest hears hdies,
    Bool.or_true] at hhandle
  exact (Mock.react_of_running rfl _).trans hhandle

/-- The command line and a mock that exits after its first reply: the report is a transport
error. -/
theorem mock_dies_wp (hplan : plan env cli.command cli.compact = .exchange method params finish)
    (hears : mock.Hears initializeRequest (clientRequest 1 "initialize" initializeParams))
    (hreads : parseItem env (mock.encode (handleInitialize (.ofU64 1)).toValue).item
      = .ok (handleInitialize (.ofU64 1)).toValue)
    (hdies : mock.dieAfterHandshake = true) :
    (cli.dialogue env).wp mock.encode mock.machine (recvTimeout cli.timeout)
      (fun rep _ => ∃ msg, rep = errorReport (.transport msg) cli.compact) .fresh [] .up := by
  have hfresh : mock.machine.halted ⟨[], false⟩ = false := by
    rw [Mock.machine_halted]
  have hreact := react_dies hears hdies
  obtain ⟨next, hdialogue, hok, herror⟩ :=
    dialogue_exchange env (recvTimeout cli.timeout) cli.compact method params finish
  unfold Cli.dialogue
  rw [hplan, hdialogue]
  have hgone : ∀ log, mock.machine.halted ⟨log, true⟩ = true := by
    intro log
    rw [Mock.machine_halted]
  refine wp_connect hfresh hreact hreads Mock.initialize_accepted ?_ ?_ ?_
  · -- The notification is lost, and the request finds the server gone.
    have hlost : ∀ log text, mock.machine.react ⟨log, true⟩ text = (⟨log, true⟩, []) :=
      fun log text => if_pos (hgone log)
    rw [hok, hlost]
    refine wp_halted (hgone _) fun e _ => ?_
    rw [finish_transport hplan]
    exact ⟨e, rfl⟩
  · intro _ e
    rw [herror]
    exact ⟨e, rfl⟩
  · intro d _
    rw [herror]
    exact ⟨_, rfl⟩

/-- The mock exits right after it has answered `initialize`, while the client goes on with two
more writes and a read. Wherever the exit comes between them, the run ends after at most 29
steps, and its report is a transport error with the exit code 3. -/
theorem mock_dies_reported (mock : Mock) (env : Env) (cli : Cli) (method : String)
    (params : Json) (finish : Except McpError Json → Report)
    (hplan : plan env cli.command cli.compact = .exchange method params finish)
    (hears : mock.Hears initializeRequest (clientRequest 1 "initialize" initializeParams))
    (hreads : parseItem env (mock.encode (handleInitialize (.ofU64 1)).toValue).item
      = .ok (handleInitialize (.ofU64 1)).toValue)
    (hdies : mock.dieAfterHandshake = true) (es : List SystemLabel)
    (s : SystemState Mock.State Report)
    (h : Run (system env mock.encode mock.machine (cli.dialogue env) (recvTimeout cli.timeout)
      .fresh) es s) :
    es.length ≤ 29 ∧
      (∀ rep, s.program = .done rep →
        rep.code = 3 ∧ ∃ msg, rep = errorReport (.transport msg) cli.compact) ∧
      ((∀ l s', ¬ SystemStep env mock.encode mock.machine s l s') →
        ∃ rep, s.program = .done rep) := by
  have hwp := mock_dies_wp hplan hears hreads hdies
  refine ⟨mock_run_length hplan h, ?_, wp_done hwp h⟩
  intro rep hdone
  obtain ⟨st, _, _, msg, rfl⟩ := wp_post hwp h hdone
  exact ⟨rfl, msg, rfl⟩

/-- What a mock hears does not depend on its variables. -/
theorem Mock.Hears.withVars {msg : Json} {req : Mock.Request} (h : mock.Hears msg req)
    (vars : Mock.Vars) : { mock with vars := vars }.Hears msg req := h

/-- The mock with `MOCK_DIE_AFTER_HANDSHAKE=1`. -/
def dyingMock : Mock :=
  { priorityMock with vars := { priorityMock.vars with dieAfterHandshake := some "1" } }

/-- A run in which the mock has exited before the client reads its reply. The client does not
wait for it, and the exit code is 3. -/
theorem mock_dies_reported_timeout :
    ∃ es s, Run (system priorityEnv dyingMock.encode dyingMock.machine
        (priorityCli.dialogue priorityEnv) (recvTimeout priorityCli.timeout) .fresh) es s ∧
      s.server = none ∧ es.length ≤ 29 ∧
      ∃ rep, s.program = .done rep ∧ rep.code = 3 := by
  have hears : dyingMock.Hears initializeRequest (clientRequest 1 "initialize" initializeParams) :=
    priorityMock_speaks.hearsInitialize.withVars dyingMock.vars
  have hrun : Run (system priorityEnv dyingMock.encode dyingMock.machine
      (priorityCli.dialogue priorityEnv) (recvTimeout priorityCli.timeout) .fresh) []
      (.start (priorityCli.dialogue priorityEnv) (recvTimeout priorityCli.timeout) .fresh) :=
    .init rfl
  have hrun := hrun.step (.write rfl (.send rfl initializeRequest .ok) rfl)
  have hstdin : [] ++ (dyingMock.encode initializeRequest).bytes
      = (dyingMock.encode initializeRequest).bytes ++ [] := (List.append_nil _).symm
  have hrun := hrun.step (.serve rfl rfl hstdin)
  -- The mock exits with its reply.
  have hexited : dyingMock.machine.halted (dyingMock.machine.handle .fresh
      (dyingMock.encode initializeRequest).text).1 = true := by
    rw [Mock.machine_halted, Mock.machine_handle, Mock.handle_request hears,
      stops_initializeRequest hears (by decide)]
    rfl
  have hrun := hrun.step (.exit rfl hexited)
  have hrun := hrun.step (.recv rfl (.recv rfl))
  have hrun := hrun.step (.recvReturn rfl (.timedOut rfl rfl rfl ⟨rfl, rfl⟩))
  have hreports := mock_dies_reported dyingMock priorityEnv priorityCli _ _ _ rfl hears
    priorityMock_speaks.readsInitialize (by decide) _ _ hrun
  exact ⟨_, _, hrun, rfl, hreports.1, _, rfl, (hreports.2.1 _ rfl).1⟩

end OrgCli
