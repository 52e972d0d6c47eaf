import OrgCli.Mcp.Dialogue
import OrgCli.Spec.Plan

/-!
# `OrgCli.Spec.Dialogue`: a command line as a dialogue

The plan of a command as a program of the main thread, once its server is spawned:
`Cli.dialogue` is the handshake, the request, and the report. `Proofs/Dialogue.lean` proves
that `execute` plays it.
-/

set_option autoImplicit false

namespace OrgCli

open OrgCli.Mcp

/-- The timeout of a connected client, from the seconds of `--timeout`. -/
def recvTimeout (secs : UInt64) : Option Duration :=
  normalizeTimeout (if secs = 0 then none else some (.fromSecs secs))

variable (env : Env)

/-- The dialogue of a plan with a server that is spawned. -/
def Plan.dialogue (timeout : Option Duration) (compact : Bool) : Plan → Dialogue Report
  | .report r => .done r
  | .exchange method params finish =>
      Dialogue.connect env timeout fun r =>
        match r with
        | .error e => .done (errorReport e compact)
        -- The handshake used the first id.
        | .ok () => Dialogue.request env timeout 2 method params fun r => .done (finish r)

/-- The dialogue of a command line. -/
def Cli.dialogue (cli : Cli) : Dialogue Report :=
  (plan env cli.command cli.compact).dialogue env (recvTimeout cli.timeout) cli.compact

end OrgCli
