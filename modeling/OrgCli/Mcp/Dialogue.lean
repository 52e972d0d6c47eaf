import OrgCli.Mcp.Client

/-!
# `OrgCli.Mcp.Dialogue`: the main thread between its calls

`Mcp/Client.lean` runs a method of the client from its start to its end, against a `Server`
that answers each call at once. A `Dialogue` is the same program cut open at its calls: what
the main thread does next, and how it goes on with what the call gave. A system in which
other threads and processes run between two calls needs this form.

`Dialogue.request` and `Dialogue.connect` are `Client::request` and the handshake of
`Client::connect_with_timeout` in it. `Dialogue.play` runs a dialogue against a `Server`, and
`Proofs/Dialogue.lean` proves that this is the run of the methods themselves.
-/

set_option autoImplicit false

namespace OrgCli.Mcp

/-- A program of the main thread: it is done, or it calls `send` or `recv` and continues with
the outcome. -/
inductive Dialogue (ρ : Type) where
  | done (r : ρ)
  | write (msg : Json) (next : WriteOutcome → Dialogue ρ)
  | read (next : Except RecvTimeoutError Item → Dialogue ρ)

/-- What `Transport::send` returns for the outcome of its write. -/
def sendResult : WriteOutcome → Except McpError Unit
  | .ok => .ok ()
  | .writeError e => .error (.transport s!"write error: {e}")
  | .flushError e => .error (.transport s!"flush error: {e}")

namespace Dialogue

variable {ρ : Type} (env : Env) (timeout : Option Duration)

/-- `Client::request` with the id `id`, and what comes after it. -/
def request (id : UInt64) (method : String) (params : Json)
    (next : Except McpError Json → Dialogue ρ) : Dialogue ρ :=
  .write (requestMsg id method params) fun o =>
    match sendResult o with
    | .error e => next (.error e)
    | .ok () => .read fun o => next ((finishRecv env timeout o).bind (checkResponse env id))

/-- `Client::handshake` of a new client, and what comes after it. -/
def connect (next : Except McpError Unit → Dialogue ρ) : Dialogue ρ :=
  request env timeout 1 "initialize" initializeParams fun r =>
    match r with
    | .error e => next (.error e)
    | .ok result =>
        -- "Verify server supports tools capability"
        if ((result.get? "capabilities").map fun c => (c.get? "tools").isNone).getD true then
          next (.error (.protocol "server does not advertise tools capability"))
        else
          .write (notificationMsg "notifications/initialized" emptyObject) fun o =>
            next (sendResult o)

/-- Run a dialogue against a server that answers each call from the events so far. -/
def play : Dialogue ρ → List Event → ρ × List Event
  | .done r, es => (r, es)
  | .write msg next, es =>
      let o := env.server.write es msg
      play (next o) (es ++ [.write msg o])
  | .read next, es =>
      let o := channelOutcome env timeout es
      play (next o) (es ++ [.recv o])

end Dialogue

end OrgCli.Mcp
