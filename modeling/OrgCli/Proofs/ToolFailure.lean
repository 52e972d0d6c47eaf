import OrgCli.Proofs.Envelope

/-!
# `OrgCli.Proofs.ToolFailure`: what becomes of a failed tool call

MCP reports the failure of a tool in one of two ways: as a JSON-RPC error, or as a result
with `isError` set. `Client::request` looks for the first and nothing looks for the second,
so a result with `isError` is printed as a success. `toolFailure_reported_iff` draws the
line: a failure is reported as one exactly when it comes as an `error` member.
-/

set_option autoImplicit false

namespace OrgCli

open OrgCli.Mcp
open OrgCli.Support

variable (env : Env)

/-- A reply whose result says that the tool failed. -/
def IsErrorResult (m : Json) : Prop :=
  ∃ result, m.get? "result" = some result ∧ result.get? "isError" = some (.bool true)

/-- A reply that reports a tool failure: a JSON-RPC error object, or a result with `isError`
set. -/
def ReportsFailure (m : Json) : Prop :=
  (∃ entries, m.get? "error" = some (.obj entries)) ∨ IsErrorResult m

/-- The tool call of a run was answered by the message `m`, under its own id. -/
def CallAnswered (es : List Event) (m : Json) : Prop :=
  sentCalls es ≠ [] ∧ (consumed env es)[1]? = some m ∧ m.get? "id" = some (.ofU64 2)

/-- The GTD queries turn the JSON-RPC code -32601 into a usage error. -/
def IsGtdFallback (c : Commands) (m : Json) : Prop :=
  c.isGtd = true ∧ ∃ err, m.get? "error" = some err ∧
    (err.get? "code").bind Json.asI64 = some (-32601)

/-- A run reports a failed call: the envelope and the exit code say so, with the kind `tool`
and the code 1 unless it is the GTD fallback. -/
def FailureReported (c : Commands) (m : Json) (out : Int32 × World) : Prop :=
  ∃ p, out.2.stdout = [p] ∧ p.ok = some false ∧ out.1 ≠ 0 ∧
    ((p.errorKind = some "tool" ∧ out.1 = 1) ∨ IsGtdFallback c m)

/-- An `error` member is reported as a failure. -/
theorem RunOf.error_reported {cli : Cli} {es : List Event} {rep : Report} {m err : Json}
    (h : RunOf env cli es rep) (ha : CallAnswered env es m) (herr : m.get? "error" = some err)
    {w : World} (hw : w.stdout = [rep.printed]) :
    FailureReported cli.command m (rep.code, w) := by
  obtain ⟨method, params, finish, hp, _, rfl⟩ := h.answered env ha.1 ha.2.1
  have hcheck : checkResponse env 2 m = .error (toolErrorOf err) := by
    rw [checkResponse_addressed env (not_misaddressed_of_id ha.2.2), herr]
  rw [hcheck] at hw ⊢
  refine ⟨_, hw, ?_⟩
  rcases finish_error env hp (toolErrorOf err) with ⟨_, hrep⟩ | ⟨⟨hg, message, data, he⟩, msg, hrep⟩
  · rw [hrep]
    simp [errorReport, toolErrorOf, errorKindOf, ErrorKind.name, McpError.exitCode]
  · rw [hrep]
    refine ⟨by simp [usageReport], by simp [usageReport], Or.inr ⟨hg, err, herr, ?_⟩⟩
    exact (toolErrorOf_fallback_iff err).mp ⟨message, data, he⟩

/-- A result without an `error` member is printed as a success, whatever it says. -/
theorem RunOf.result_succeeds {cli : Cli} {es : List Event} {rep : Report} {m result : Json}
    (h : RunOf env cli es rep) (ha : CallAnswered env es m) (herr : m.get? "error" = none)
    (hresult : m.get? "result" = some result) : rep.printed.ok = some true := by
  obtain ⟨method, params, finish, hp, hlist, rfl⟩ := h.answered env ha.1 ha.2.1
  have hcheck : checkResponse env 2 m = .ok result :=
    (checkResponse_eq_ok_iff env).mpr ⟨not_misaddressed_of_id ha.2.2, herr, hresult⟩
  rcases finish_ok env hp result with ⟨data, hrep⟩ | ⟨hl, _⟩
  · rw [hcheck, hrep]
    exact successReport_ok data cli.compact
  · exact absurd hl hlist

/-- When a tool call is answered under its own id, a failure that the reply reports is
reported by the run exactly when the reply has an `error` member or no `isError` set. -/
theorem toolFailure_reported_iff (cli : Cli) (m : Json)
    (ha : CallAnswered env (execute env cli).2.trace m) :
    (ReportsFailure m → FailureReported cli.command m (execute env cli)) ↔
      (m.get? "error").isSome = true ∨ ¬ IsErrorResult m := by
  obtain ⟨es, rep, hrun, hexec⟩ := execute_run env cli
  rw [hexec] at ha ⊢
  cases herr : m.get? "error" with
  | some err =>
      have hreported := hrun.error_reported env ha herr (w := ⟨es, [rep.printed], cli.timeout⟩) rfl
      simp [hreported]
  | none =>
      constructor
      · intro h
        right
        intro hfailed
        -- The run printed a success, whatever the result says.
        obtain ⟨p, hp, hfalse, _⟩ := h (Or.inr hfailed)
        obtain ⟨result, hresult, _⟩ := hfailed
        obtain rfl := List.singleton_inj.mp hp
        rw [hrun.result_succeeds env ha herr hresult] at hfalse
        cases hfalse
      · rintro (hsome | hnot) hreports
        · cases hsome
        · rcases hreports with ⟨entries, hentries⟩ | hresult
          · rw [herr] at hentries
            cases hentries
          · exact absurd hresult hnot

/-- A reply with a JSON-RPC error for the request. -/
def rpcErrorEntry : String × Json :=
  ("\x7b\"jsonrpc\":\"2.0\",\"id\":2,\"error\":\x7b\"code\":-32000,\"message\":\"no\"\x7d\x7d",
    .object (.ofList [("jsonrpc", .string "2.0"), ("id", .ofU64 2),
      ("error", .object (.ofList [("code", .ofI64 (-32000)), ("message", .string "no")]))]))

/-- A reply with a result that says that the tool failed. -/
def isErrorEntry : String × Json :=
  ("\x7b\"jsonrpc\":\"2.0\",\"id\":2,\"result\":\x7b\"content\":[],\"isError\":true\x7d\x7d",
    .object (.ofList [("jsonrpc", .string "2.0"), ("id", .ofU64 2),
      ("result", .object (.ofList [("content", .array []), ("isError", .bool true)]))]))

/-- A JSON-RPC error is reported. -/
theorem toolFailure_reported_rpcError :
    FailureReported renameCli.command rpcErrorEntry.2
      (execute (Env.answering rpcErrorEntry) renameCli) := by
  have ha : CallAnswered (Env.answering rpcErrorEntry)
      (execute (Env.answering rpcErrorEntry) renameCli).2.trace rpcErrorEntry.2 :=
    ⟨by decide +kernel, by decide +kernel, by decide +kernel⟩
  exact (toolFailure_reported_iff _ renameCli _ ha).mpr (Or.inl rfl) (Or.inl ⟨_, rfl⟩)

/-- A failed tool call is printed as a success when the reply says `isError`. -/
theorem toolFailure_isError_succeeds :
    CallAnswered (Env.answering isErrorEntry)
        (execute (Env.answering isErrorEntry) renameCli).2.trace isErrorEntry.2 ∧
      ReportsFailure isErrorEntry.2 ∧
      ¬ FailureReported renameCli.command isErrorEntry.2
        (execute (Env.answering isErrorEntry) renameCli) := by
  refine ⟨⟨by decide +kernel, by decide +kernel, by decide +kernel⟩,
    Or.inr ⟨_, rfl, rfl⟩, ?_⟩
  rintro ⟨p, _, _, hcode, _⟩
  exact hcode (by decide +kernel)

end OrgCli
