import OrgCli.Proofs.Run

/-!
# `OrgCli.Proofs.Envelope`: the envelope, the exit code and the usage errors

A script reads two things of a run: the exit code and the envelope on stdout. `Agrees` says
that they tell the same story. Each report that a handler can make agrees with its code
(`ReportShape.agrees`), so every run does.
`run_prints_one_envelope` is the statement about the program.

`usage_error_iff` says which runs end with a usage error: the commands that fail their own
validation, before anything is spawned, and the GTD queries whose tool the server does not
know. `HandshakeSucceeded` and `AnsweredWithCode` read the second case from the trace.
-/

set_option autoImplicit false

namespace OrgCli

open OrgCli.Mcp
open OrgCli.Support

variable (env : Env)

/-! ### The exit code -/

/-- The kinds of an error envelope, each with its exit codes. -/
def failureCodes : List (String × Int32) :=
  [("tool", 1), ("usage", 2), ("transport", 3), ("transport", 4)]

/-- The envelope `p` and the exit code `code` agree. -/
structure Agrees (p : Printed) (code : Int32) : Prop where
  ok_iff : code = 0 ↔ p.ok = some true
  failure : code ≠ 0 → p.ok = some false ∧ p.exitCode = some code.toInt64 ∧
    ∃ kind, p.errorKind = some kind ∧ (kind, code) ∈ failureCodes

/-- A success agrees with the exit code 0. -/
theorem successReport_agrees (data : Json) (compact : Bool) :
    Agrees (successReport data compact).printed (successReport data compact).code where
  ok_iff := by simp
  failure h := absurd rfl h

/-- An error envelope agrees with a code that belongs to its kind. -/
theorem failureReport_agrees {detail : ErrorDetail} {code : Int32}
    (h : (detail.kind.name, code) ∈ failureCodes) (compact : Bool) :
    Agrees (failureReport detail code compact).printed
      (failureReport detail code compact).code where
  ok_iff := by
    have hne : code ≠ 0 := by
      intro hzero
      subst hzero
      simp [failureCodes] at h
    simp [hne]
  failure _ := ⟨by simp, by simp, detail.kind.name, by simp, h⟩

/-- The report of a usage error agrees with its code 2. -/
theorem usageReport_agrees (code : Int64) (message : String) (compact : Bool) :
    Agrees (usageReport code message compact).printed
      (usageReport code message compact).code :=
  failureReport_agrees (by simp [failureCodes, ErrorKind.name]) compact

/-- The report of an `McpError` agrees with the error's exit code. -/
theorem errorReport_agrees (e : McpError) (compact : Bool) :
    Agrees (errorReport e compact).printed (errorReport e compact).code := by
  refine failureReport_agrees ?_ compact
  cases e <;> simp [failureCodes, errorKindOf, ErrorKind.name, McpError.exitCode]

/-- The reports that a run can end with. -/
inductive ReportShape (compact : Bool) : Report → Prop
  | success (data : Json) : ReportShape compact (successReport data compact)
  | usage (code : Int64) (msg : String) : ReportShape compact (usageReport code msg compact)
  | error (e : McpError) : ReportShape compact (errorReport e compact)

/-- A run ends with a success, a usage error or an `McpError`. -/
theorem RunOf.shape {cli : Cli} {es : List Event} {rep : Report} (h : RunOf env cli es rep) :
    ReportShape cli.compact rep := by
  cases h with
  | report rep hp =>
      rcases planReport_cases env hp with ⟨_, _, data, rfl⟩ | ⟨_, msg, rfl⟩
      · exact .success data
      · exact .usage 2 msg
  | failed method params finish hp es e hc => exact .error e
  | connected method params finish hp es fs c hc r hr =>
      cases r with
      | ok v =>
          rcases finish_ok env hp v with ⟨data, hrep⟩ | ⟨_, msg, hrep⟩ <;> rw [hrep]
          · exact .success data
          · exact .error _
      | error e =>
          rcases finish_error env hp e with ⟨_, hrep⟩ | ⟨_, msg, hrep⟩ <;> rw [hrep]
          · exact .error e
          · exact .usage (-1) msg

/-- Every report agrees with its code, and it has the layout that the command line asks
for. -/
theorem ReportShape.agrees {compact : Bool} {rep : Report} (h : ReportShape compact rep) :
    Agrees rep.printed rep.code ∧ rep.printed.compact = compact := by
  cases h with
  | success data => exact ⟨successReport_agrees data compact, rfl⟩
  | usage code msg => exact ⟨usageReport_agrees code msg compact, rfl⟩
  | error e => exact ⟨errorReport_agrees e compact, rfl⟩

/-- The exit code of an error is 4 exactly when it is a spawn error. -/
theorem errorReport_code_eq_four_iff (e : McpError) (compact : Bool) :
    (errorReport e compact).code = 4 ↔ ∃ msg, e = .spawn msg := by
  cases e <;> simp [errorReport, McpError.exitCode]

/-- The run attempted a spawn, and it failed. -/
def SpawnFailed (es : List Event) : Prop := ∃ a ∈ spawns es, a.2 ≠ .spawned

/-- The exit code of a run is 4 exactly when the spawn failed. -/
theorem RunOf.code_eq_four_iff {cli : Cli} {es : List Event} {rep : Report}
    (h : RunOf env cli es rep) : rep.code = 4 ↔ SpawnFailed es := by
  cases h with
  | report rep hp =>
      -- A local report has the code 0 or 2, and nothing was spawned.
      rcases planReport_cases env hp with ⟨_, _, data, rfl⟩ | ⟨_, msg, rfl⟩
      · simp [SpawnFailed, spawns]
      · simp [SpawnFailed, spawns, usageReport]
  | failed method params finish hp es e hc =>
      -- The connect fails with a spawn error exactly when its one spawn failed.
      obtain ⟨o, ho, hiff⟩ := hc.spawns_eq
      rw [errorReport_code_eq_four_iff, SpawnFailed, ho]
      simpa using hiff.symm
  | connected method params finish hp es fs c hc r hr =>
      obtain ⟨o, ho, hiff⟩ := hc.spawns_eq
      -- A connected run spawned its server, and no later error has the code 4.
      have hspawned : ¬ SpawnFailed (es ++ fs) := by
        rw [SpawnFailed, spawns_append, ho, hr.spawns_eq]
        simpa using hiff
      refine iff_of_false ?_ hspawned
      cases r with
      | ok v =>
          rcases finish_ok env hp v with ⟨data, hrep⟩ | ⟨_, msg, hrep⟩ <;> rw [hrep]
          · simp
          · simp [errorReport_code_eq_four_iff]
      | error e =>
          rcases finish_error env hp e with ⟨_, hrep⟩ | ⟨_, msg, hrep⟩ <;> rw [hrep]
          · rw [errorReport_code_eq_four_iff]
            rintro ⟨msg, rfl⟩
            exact hr.ne_spawn env msg rfl
          · simp [usageReport]

/-- A run prints exactly one envelope, and it agrees with the exit code. The code is 4
exactly when the server could not be spawned. -/
theorem run_prints_one_envelope (cli : Cli) :
    ∃ p, (execute env cli).2.stdout = [p] ∧ p.compact = cli.compact ∧
      Agrees p (execute env cli).1 ∧
      ((execute env cli).1 = 4 ↔ SpawnFailed (execute env cli).2.trace) := by
  obtain ⟨es, rep, hrun, hexec⟩ := execute_run env cli
  rw [hexec]
  obtain ⟨hagrees, hcompact⟩ := hrun.shape.agrees
  exact ⟨rep.printed, rfl, hcompact, hagrees, hrun.code_eq_four_iff⟩

/-! ### Usage errors -/

/-- The run ended with a usage error. -/
def EndsWithUsage (w : World) : Prop := ∃ p ∈ w.stdout, p.errorKind = some "usage"

/-- The handshake of a run succeeded: its first reply was accepted, and the notification
was written. -/
def HandshakeSucceeded (es : List Event) : Prop :=
  (∃ m, (consumed env es)[0]? = some m ∧ AcceptsInitialize m) ∧
    .write initializedNotification .ok ∈ es

/-- The second reply of a run is a JSON-RPC error with that code, for the request 2. -/
def AnsweredWithCode (code : Int64) (es : List Event) : Prop :=
  ∃ m err, (consumed env es)[1]? = some m ∧ ¬ Misaddressed 2 m ∧ m.get? "error" = some err ∧
    (err.get? "code").bind Json.asI64 = some code

/-- A connect that failed has not succeeded in its handshake. -/
theorem Mcp.ConnectRun.not_handshakeSucceeded {argv : List String} {es : List Event}
    {e : McpError} (h : ConnectRun env argv es (.error e)) : ¬ HandshakeSucceeded env es := by
  intro ⟨⟨m, hm, haccept⟩, hwritten⟩
  obtain ⟨v, hcheck, htools⟩ := (acceptsInitialize_iff env m).mp haccept
  cases h with
  | spawnFailed o e ho => cases hm
  | initFailed fs e hreq =>
      have heq := hreq.eq_checkResponse env hm
      rw [hcheck] at heq
      cases heq
  | noTools fs v' hreq ht =>
      have heq := hreq.eq_checkResponse env hm
      rw [hcheck] at heq
      obtain rfl := Except.ok.inj heq
      exact ht htools
  | notifyFailed fs v' hreq ht o ho e =>
      obtain ⟨o', m', rfl, _, _⟩ := hreq.ok_inv env rfl
      -- The only write of the notification is the one that failed.
      have hne : initializedNotification ≠ initializeRequest := by
        intro heq
        have hid := congrArg (Json.get? · "id") heq
        simp [initializedNotification, initializeRequest, notificationMsg, requestMsg,
          lookup] at hid
      simp [hne, Ne.symm ho] at hwritten

/-- A run whose handshake succeeded sends the call of its command. -/
theorem RunOf.sentCalls_eq {cli : Cli} {es : List Event} {rep : Report}
    (h : RunOf env cli es rep) (hshake : HandshakeSucceeded env es) {call : String × Json}
    (hcall : cli.command.call env = some call) : sentCalls es = [call] := by
  cases h with
  | report rep hp =>
      obtain ⟨⟨m, hm, _⟩, _⟩ := hshake
      cases hm
  | failed method params finish hp es e hc =>
      exact absurd hshake (hc.not_handshakeSucceeded env)
  | connected method params finish hp es fs c hc r hr =>
      rcases planExchange_cases env hp
          with ⟨_, _, ⟨hlist, _⟩ | ⟨_, name, args, hcall', rfl, rfl, _⟩⟩
      · rw [hlist] at hcall
        cases hcall
      · obtain rfl := Option.some.inj (hcall'.symm.trans hcall)
        unfold sentCalls
        rw [written_append, List.filterMap_append, hr.written_eq, List.filterMap_cons,
          toolsCallOf_requestMsg]
        exact congrArg (· ++ _) (sentCalls_connect env hc)

/-- A reply without a code gets the code -1, so only a reply with the code -32601 is the
fallback. -/
theorem toolErrorOf_fallback_iff (err : Json) :
    (∃ message data, toolErrorOf err = .toolError (-32601) message data) ↔
      (err.get? "code").bind Json.asI64 = some (-32601) := by
  unfold toolErrorOf
  cases (err.get? "code").bind Json.asI64 with
  | none => simp
  | some code => simp

/-- The kind of an error report is not `usage`. -/
theorem errorReport_ne_usage (e : McpError) (compact : Bool) :
    (errorReport e compact).printed.errorKind ≠ some "usage" := by
  unfold errorReport
  rw [failureReport_errorKind]
  cases e <;> simp [errorKindOf, ErrorKind.name]

/-- The kind of a usage report is `usage`. -/
theorem usageReport_errorKind (code : Int64) (msg : String) (compact : Bool) :
    (usageReport code msg compact).printed.errorKind = some "usage" := by
  simp [usageReport, ErrorKind.name]

/-- After a connect, the request is answered with -32601 exactly when its result is the
fallback. -/
theorem answeredWithCode_iff {argv : List String} {es fs : List Event} {c : Client}
    {msg : Json} {r : Except McpError Json} (hc : ConnectRun env argv es (.ok c))
    (hr : RequestRun env 2 msg fs r) :
    AnsweredWithCode env (-32601) (es ++ fs) ↔
      ∃ message data, r = .error (.toolError (-32601) message data) := by
  obtain ⟨m₁, hm₁, _⟩ := hc.consumed_ok env
  unfold AnsweredWithCode
  rw [consumed_append, hm₁]
  rcases hr.consumed_cases with ⟨hfs, e, rfl⟩ | ⟨m, hfs, rfl⟩
  · simp [hfs]
  · rw [hfs]
    constructor
    · rintro ⟨m', err, hm', haddr, herr, hcode⟩
      cases hm'
      obtain ⟨message, data, htool⟩ := (toolErrorOf_fallback_iff err).mpr hcode
      exact ⟨message, data, (checkResponse_eq_toolError_iff env).mpr ⟨haddr, err, herr, htool⟩⟩
    · rintro ⟨message, data, hcheck⟩
      obtain ⟨haddr, err, herr, htool⟩ := (checkResponse_eq_toolError_iff env).mp hcheck
      exact ⟨m, err, rfl, haddr, herr, (toolErrorOf_fallback_iff err).mp ⟨message, data, htool⟩⟩

/-- A run ends with a usage error exactly when its command fails its own validation, or it
is a GTD query that the server answers with -32601. -/
theorem RunOf.usage_iff {cli : Cli} {es : List Event} {rep : Report}
    (h : RunOf env cli es rep) :
    rep.printed.errorKind = some "usage" ↔
      LocalUsage env cli.command ∨
        (cli.command.isGtd = true ∧ HandshakeSucceeded env es ∧
          AnsweredWithCode env (-32601) es) := by
  cases h with
  | report rep hp =>
      have hanswer : ¬ AnsweredWithCode env (-32601) [] := by simp [AnsweredWithCode]
      rcases planReport_cases env hp with ⟨hlocal, _, data, rfl⟩ | ⟨hlocal, msg, rfl⟩
      · simp [hlocal, hanswer]
      · simp [usageReport_errorKind, hlocal]
  | failed method params finish hp es e hc =>
      -- A connect that failed consumed at most the reply to `initialize`.
      obtain ⟨hlocal, _⟩ := planExchange_cases env hp
      have hanswer : ¬ AnsweredWithCode env (-32601) es := by
        rintro ⟨m, err, hm, _⟩
        obtain ⟨hlt, _⟩ := List.getElem?_eq_some_iff.mp hm
        have := hc.consumed_length env
        omega
      simp [errorReport_ne_usage, hlocal, hanswer]
  | connected method params finish hp es fs c hc r hr =>
      obtain ⟨hlocal, _⟩ := planExchange_cases env hp
      have hshake : HandshakeSucceeded env (es ++ fs) := by
        obtain ⟨_, o, m, hm, haccept, rfl⟩ := hc.ok_inv env
        exact ⟨⟨m, by simp [hm], haccept⟩, by simp⟩
      -- What is left is that the usage report is the one for the code -32601.
      simp only [hlocal, false_or, hshake, true_and, answeredWithCode_iff env hc hr]
      cases r with
      | ok v =>
          rcases finish_ok env hp v with ⟨data, hrep⟩ | ⟨_, msg, hrep⟩
          · simp [hrep]
          · simp [hrep, errorReport_ne_usage]
      | error e =>
          rcases finish_error env hp e with ⟨hf, hrep⟩ | ⟨⟨hg, message, data, rfl⟩, msg, hrep⟩
          · rw [hrep]
            refine iff_of_false (errorReport_ne_usage e cli.compact) ?_
            rintro ⟨hg, message, data, he⟩
            exact hf ⟨hg, message, data, Except.error.inj he⟩
          · rw [hrep, usageReport_errorKind]
            simp [hg]

/-- What a run spawns: nothing for a command that fails its validation and for `schema`,
and the server once for every other command. -/
theorem RunOf.spawn_cases {cli : Cli} {es : List Event} {rep : Report}
    (h : RunOf env cli es rep) :
    (LocalUsage env cli.command ∨ (∃ path, cli.command = .schema path) → es = []) ∧
      (¬ LocalUsage env cli.command → (∀ path, cli.command ≠ .schema path) →
        ∃ o, spawns es = [(cli.serverArgv, o)]) := by
  cases h with
  | report rep hp =>
      refine ⟨fun _ => rfl, ?_⟩
      intro hlocal hschema
      rcases planReport_cases env hp with ⟨_, ⟨path, hpath⟩, _⟩ | ⟨hlocal', _⟩
      · exact absurd hpath (hschema path)
      · exact absurd hlocal' hlocal
  | failed method params finish hp es e hc =>
      obtain ⟨hlocal, hschema, _⟩ := planExchange_cases env hp
      refine ⟨?_, fun _ _ => ?_⟩
      · rintro (hl | ⟨path, hpath⟩)
        · exact absurd hl hlocal
        · exact absurd hpath (hschema path)
      · obtain ⟨o, ho, _⟩ := hc.spawns_eq
        exact ⟨o, ho⟩
  | connected method params finish hp es fs c hc r hr =>
      obtain ⟨hlocal, hschema, _⟩ := planExchange_cases env hp
      refine ⟨?_, fun _ _ => ?_⟩
      · rintro (hl | ⟨path, hpath⟩)
        · exact absurd hl hlocal
        · exact absurd hpath (hschema path)
      · obtain ⟨o, ho, _⟩ := hc.spawns_eq
        exact ⟨o, by rw [spawns_append, ho, hr.spawns_eq]; rfl⟩

/-- Usage errors are decided before any side effect, and only they are. A run ends with a
usage error exactly when its command fails its own validation, or it is a GTD query whose
call is answered with -32601 after a successful handshake. A command of the first kind, and
`schema`, leaves no event at all. Every other command attempts exactly one spawn. -/
theorem usage_error_iff (cli : Cli) :
    (EndsWithUsage (execute env cli).2 ↔
        LocalUsage env cli.command ∨
          (cli.command.isGtd = true ∧ HandshakeSucceeded env (execute env cli).2.trace ∧
            AnsweredWithCode env (-32601) (execute env cli).2.trace)) ∧
      (LocalUsage env cli.command ∨ (∃ path, cli.command = .schema path) →
        (execute env cli).2.trace = []) ∧
      (¬ LocalUsage env cli.command → (∀ path, cli.command ≠ .schema path) →
        ∃ o, spawns (execute env cli).2.trace = [(cli.serverArgv, o)]) := by
  obtain ⟨es, rep, hrun, hexec⟩ := execute_run env cli
  rw [hexec]
  refine ⟨?_, hrun.spawn_cases⟩
  rw [← hrun.usage_iff]
  simp [EndsWithUsage]

end OrgCli
