import OrgCli.Proofs.Envelope

/-!
# `OrgCli.Proofs.ServerErrors`: server errors reach the user unaltered

A JSON-RPC error of the server passes through `request`, the accessors of `McpError`,
`handle_mcp_error` and `print_error`. `serverError_reported` says what comes out: the
envelope has the code, the message and the data of the `error` member and nothing of a
`result` beside it. Only the GTD queries turn one code into a usage error.

The error can come at two points of a run, which are the values of `Stage`.
-/

set_option autoImplicit false

namespace OrgCli

open OrgCli.Mcp
open OrgCli.Support

variable (env : Env)

/-- The two requests of a run: `initialize`, and the one of the command. -/
inductive Stage where
  | handshake
  | command

/-- The position of the reply among the messages that the run consumes. -/
def Stage.index : Stage → Nat
  | .handshake => 0
  | .command => 1

/-- The id of the request. -/
def Stage.id : Stage → UInt64
  | .handshake => 1
  | .command => 2

/-- At that stage the run consumed the reply `m`, under the id of the request, with the
`error` member `err`. -/
structure ErrorReply (es : List Event) (stage : Stage) (m err : Json) : Prop where
  consumed : (consumed env es)[stage.index]? = some m
  id : m.get? "id" = some (.ofU64 stage.id)
  error : m.get? "error" = some err

/-- The one error that is not reported as it is: the code -32601 for the call of a GTD
query. -/
structure IsGtdException (c : Commands) (stage : Stage) (err : Json) : Prop where
  gtd : c.isGtd = true
  stage : stage = .command
  code : (err.get? "code").bind Json.asI64 = some (-32601)

/-- The code of a server error, -1 when there is none in the signed 64-bit range. -/
def serverCode (err : Json) : Int64 := ((err.get? "code").bind Json.asI64).getD (-1)

/-- The message of a server error, with a default when there is no string. -/
def serverMessage (err : Json) : String :=
  ((err.get? "message").bind Json.asStr).getD "unknown error"

/-- The envelope `p` reports the server error `err`: its code, its message behind the prefix
of a tool error, and its data. There is no `data` beside the error, so nothing else of the
reply is in the envelope. -/
structure ReportsServerError (err : Json) (p : Printed) : Prop where
  ok : p.ok = some false
  kind : p.errorKind = some "tool"
  exitCode : p.exitCode = some 1
  code : p.errorCode = some (serverCode err)
  message : p.errorMessage = some (s!"tool error {serverCode err}: " ++ serverMessage err)
  data : p.errorData = some ((err.get? "data").getD .null)
  noResult : p.data = none

/-- The text of a tool error is its code behind a prefix, and then its message. -/
theorem toString_toolErrorOf (err : Json) :
    (toolErrorOf err).toString = s!"tool error {serverCode err}: " ++ serverMessage err :=
  rfl

/-- The report of a tool error has the parts of its `error` member. -/
theorem errorReport_toolErrorOf (err : Json) (compact : Bool) :
    ReportsServerError err (errorReport (toolErrorOf err) compact).printed where
  ok := by simp [errorReport]
  kind := by simp [errorReport, toolErrorOf, errorKindOf, ErrorKind.name]
  exitCode := by simp [errorReport, toolErrorOf, McpError.exitCode]
  code := by simp [errorReport, toolErrorOf, McpError.rpcCode, serverCode]
  message := by simp only [errorReport, failureReport_errorMessage, toString_toolErrorOf]
  data := by simp [errorReport, toolErrorOf, McpError.rpcData]
  noResult := by simp [errorReport]

/-- A reply with an `error` member fails the checks with that error. -/
theorem ErrorReply.check {es : List Event} {stage : Stage} {m err : Json}
    (h : ErrorReply env es stage m err) :
    checkResponse env stage.id m = .error (toolErrorOf err) := by
  rw [checkResponse_addressed env (not_misaddressed_of_id h.id), h.error]

/-- The exception is the fallback of the GTD queries, at the second stage. -/
theorem isGtdException_iff (c : Commands) (stage : Stage) (err : Json) :
    IsGtdException c stage err ↔ stage = .command ∧ GtdFallback c (toolErrorOf err) := by
  unfold GtdFallback
  rw [toolErrorOf_fallback_iff]
  constructor
  · intro ⟨hgtd, hstage, hcode⟩
    exact ⟨hstage, hgtd, hcode⟩
  · intro ⟨hstage, hgtd, hcode⟩
    exact ⟨hgtd, hstage, hcode⟩

/-- A run that got an error reply ends with the report of the error, or with the usage error
of the exception. -/
theorem RunOf.serverError {cli : Cli} {es : List Event} {rep : Report} {stage : Stage}
    {m err : Json} (h : RunOf env cli es rep) (he : ErrorReply env es stage m err) :
    (¬ IsGtdException cli.command stage err ∧
        rep = errorReport (toolErrorOf err) cli.compact) ∨
      (IsGtdException cli.command stage err ∧
        ∃ msg, rep = usageReport (-1) msg cli.compact) := by
  have hcheck := he.check env
  have hm := he.consumed
  rw [isGtdException_iff]
  cases stage with
  | handshake =>
      left
      refine ⟨by simp, ?_⟩
      cases h with
      | report rep hp => cases hm
      | failed method params finish hp es e hc =>
          obtain rfl := Except.error.inj (hc.error_of_reply env hm hcheck)
          rfl
      | connected method params finish hp es fs c hc r hr =>
          -- A connect that succeeded consumed the first message, and it passed the checks.
          obtain ⟨m₁, hm₁, _⟩ := hc.consumed_ok env
          have hfirst : (consumed env es)[0]? = some m := by
            rw [consumed_append, hm₁] at hm
            rw [hm₁]
            exact hm
          cases hc.error_of_reply env hfirst hcheck
  | command =>
      obtain ⟨method, params, finish, hp, rfl⟩ := h.second_reply env hm
      show (_ ∧ finish (checkResponse env Stage.command.id m) = _) ∨
        (_ ∧ ∃ msg, finish (checkResponse env Stage.command.id m) = _)
      rw [hcheck]
      rcases finish_error env hp (toolErrorOf err) with ⟨hno, hrep⟩ | ⟨hfallback, msg, hrep⟩
      · exact Or.inl ⟨fun h => hno h.2, hrep⟩
      · exact Or.inr ⟨⟨rfl, hfallback⟩, msg, hrep⟩

/-- An error of the server is reported unaltered, whichever request it answers: the run
prints one envelope with the kind `tool` and the parts of the error, and ends with the code
1. The exception is the code -32601 for the call of a GTD query, which becomes a usage
error. -/
theorem serverError_reported (cli : Cli) (stage : Stage) (m err : Json)
    (h : ErrorReply env (execute env cli).2.trace stage m err) :
    (¬ IsGtdException cli.command stage err →
        (execute env cli).1 = 1 ∧
          ∃ p, (execute env cli).2.stdout = [p] ∧ ReportsServerError err p) ∧
      (IsGtdException cli.command stage err →
        (execute env cli).1 = 2 ∧ EndsWithUsage (execute env cli).2) := by
  obtain ⟨es, rep, hrun, hexec⟩ := execute_run env cli
  rw [hexec] at h ⊢
  rcases hrun.serverError env h with ⟨hno, rfl⟩ | ⟨hgtd, msg, rfl⟩
  · refine ⟨fun _ => ⟨rfl, _, rfl, errorReport_toolErrorOf err cli.compact⟩, ?_⟩
    intro hgtd
    exact absurd hgtd hno
  · refine ⟨fun hno => absurd hgtd hno, fun _ => ⟨rfl, ?_⟩⟩
    exact ⟨_, List.mem_singleton_self _, usageReport_errorKind (-1) msg cli.compact⟩

/-- A server error with data. -/
def lockError : Json :=
  .object (.ofList [("code", .ofI64 (-32000)), ("message", .string "no"),
    ("data", .object (.ofList [("lock", .bool true)]))])

/-- A reply to `initialize` with an error and a result. -/
def initializeErrorEntry : String × Json :=
  ("\x7b\"jsonrpc\":\"2.0\",\"id\":1,\"error\":\x7b\"code\":-32000,\"message\":\"no\","
      ++ "\"data\":\x7b\"lock\":true\x7d\x7d,\"result\":\x7b\x7d\x7d",
    .object (.ofList [("jsonrpc", .string "2.0"), ("id", .ofU64 1), ("error", lockError),
      ("result", emptyObject)]))

/-- `org query inbox`. -/
def inboxCli : Cli := ⟨"org-mcp", [], false, 30, .query ⟨none, [], some .inbox⟩⟩

/-- A reply to the call that there is no such method. -/
def methodNotFoundEntry : String × Json :=
  ("\x7b\"jsonrpc\":\"2.0\",\"id\":2,\"error\":\x7b\"code\":-32601\x7d\x7d",
    .object (.ofList [("jsonrpc", .string "2.0"), ("id", .ofU64 2),
      ("error", .object (.ofList [("code", .ofI64 (-32601))]))]))

/-- The error of `initialize` is reported for a rename, and the missing GTD tool becomes a
usage error for the inbox. -/
theorem serverError_reported_stages :
    ((execute (Env.replay [initializeErrorEntry]) renameCli).1 = 1 ∧
      ∃ p, (execute (Env.replay [initializeErrorEntry]) renameCli).2.stdout = [p] ∧
        p.errorData = some (.object (.ofList [("lock", .bool true)]))) ∧
    (execute (Env.answering methodNotFoundEntry) inboxCli).1 = 2 := by
  constructor
  · have h : ErrorReply (Env.replay [initializeErrorEntry])
        (execute (Env.replay [initializeErrorEntry]) renameCli).2.trace .handshake
        initializeErrorEntry.2 lockError :=
      ⟨by decide +kernel, rfl, rfl⟩
    have hno : ¬ IsGtdException renameCli.command .handshake lockError := by
      intro hgtd
      cases hgtd.stage
    obtain ⟨hcode, p, hp, hreports⟩ := (serverError_reported _ renameCli .handshake _ _ h).1 hno
    exact ⟨hcode, p, hp, hreports.data⟩
  · have h : ErrorReply (Env.answering methodNotFoundEntry)
        (execute (Env.answering methodNotFoundEntry) inboxCli).2.trace .command
        methodNotFoundEntry.2 _ :=
      ⟨by decide +kernel, rfl, rfl⟩
    exact ((serverError_reported _ inboxCli .command _ _ h).2 ⟨rfl, rfl, by decide +kernel⟩).1

end OrgCli
