import OrgCli.Mcp.Error
import OrgCli.Support.Text
import OrgCli.World

/-!
# `OrgCli.Mcp.Transport`: the stdio transport

`Transport` of `src/mcp/transport.rs`, as the main thread sees it: `spawn`, `setTimeout`,
`send` and `recv`, each with all of its error paths. What `recv` takes from the reader
thread's channel is an answer of the `Server`. The thread, the queue and their
interleavings are the subject of `Mcp/Reader.lean`, which shares `finishRecv` with this
module, and `Proofs/Serial.lean` proves that a `Server` is enough.

`Client.M` is the monad of `Client`'s methods. It lives here because `send` and `recv` are
its primitive steps.
-/

set_option autoImplicit false

namespace OrgCli.Mcp

open OrgCli.Support (trim)

/-- `transport::Transport`, without the process handles. -/
structure Transport where
  timeout : Option Duration

/-- `client::Client`. -/
structure Client where
  transport : Transport
  nextId : UInt64

/-- A method of `Client`: it may fail with an `McpError`, and it changes the client and the
world. -/
abbrev Client.M := EStateM McpError (Client × World)

/-- The `None`/`Duration::ZERO` rule of `Transport::set_timeout`. -/
def normalizeTimeout : Option Duration → Option Duration
  | some d => if d.isZero then none else some d
  | none => none

/-- `Transport::set_timeout`. -/
def Transport.setTimeout (_t : Transport) (timeout : Option Duration) : Transport :=
  { timeout := normalizeTimeout timeout }

/-- The error of a `recv` that finds the channel closed. -/
def eofError : McpError :=
  .transport "server closed stdout (EOF) without sending a response"

/-- The error of a `recv` that runs out of time. -/
def timeoutError (d : Duration) : McpError :=
  .transport s!"no response from server within {d.secs}s (timeout)"

variable (env : Env)

/-- `Transport::spawn`. -/
def Transport.spawn (argv : List String) : Proc (Except McpError Transport) := do
  match argv with
  | [] => return .error (.spawn "server command must not be empty")
  | program :: _ =>
    -- One outcome stands for `cmd.spawn()` and the two `take`s after it.
    let w ← get
    let outcome := env.server.spawn w.trace argv
    set (w.log (.spawn argv outcome))
    match outcome with
    | .failed e => return .error (.spawn ("cannot spawn '" ++ program ++ "': " ++ e))
    | .stdinUnavailable => return .error (.spawn "child stdin unavailable")
    | .stdoutUnavailable => return .error (.spawn "child stdout unavailable")
    | .spawned => return .ok { timeout := none }

/-- `Transport::send`. -/
def send (msg : Json) : Client.M Unit := do
  let (c, w) ← get
  let outcome := env.server.write w.trace msg
  -- A write that failed is in the trace, too: the server may have got a part of it.
  set (c, w.log (.write msg outcome))
  match outcome with
  | .ok => return ()
  | .writeError e => throw (.transport s!"write error: {e}")
  | .flushError e => throw (.transport s!"flush error: {e}")

/-- The first part of `Transport::recv` after the channel answered: the channel errors. A
wait without a timeout maps every error to the end of file. -/
def receivedItem : Option Duration → Except RecvTimeoutError Item → Except McpError Item
  | _, .ok item => .ok item
  | some d, .error .timeout => .error (timeoutError d)
  | _, .error _ => .error eofError

/-- The second part of `Transport::recv`: a line is trimmed and parsed. -/
def parseItem : Item → Except McpError Json
  | .error e => .error (.transport s!"read error: {e}")
  | .ok line =>
      -- The reader thread sends no empty line. The source checks for one all the same.
      if line.isEmpty then .error eofError
      else
        match env.serde.fromStr (trim line) with
        | .ok v => .ok v
        | .error e => .error (.transport ("JSON parse error: " ++ e ++ " (line: "
            ++ env.serde.debugStr (trim line) ++ ")"))

/-- The end of `Transport::recv`, from what the channel gave. -/
def finishRecv (timeout : Option Duration) (outcome : Except RecvTimeoutError Item) :
    Except McpError Json :=
  match receivedItem timeout outcome with
  | .ok item => parseItem env item
  | .error e => .error e

/-- `rx.recv()` as an outcome of `rx.recv_timeout`: it never reports a timeout. -/
def ofRecv : Except RecvError Item → Except RecvTimeoutError Item
  | .ok item => .ok item
  | .error .disconnected => .error .disconnected

/-- What the channel gives to the next `recv`. -/
def channelOutcome (timeout : Option Duration) (trace : List Event) :
    Except RecvTimeoutError Item :=
  match timeout with
  | none => ofRecv (env.server.recv trace)
  | some d => env.server.recvTimeout trace d

/-- `Transport::recv`. -/
def recv : Client.M Json := do
  let (c, w) ← get
  let outcome := channelOutcome env c.transport.timeout w.trace
  set (c, w.log (.recv outcome))
  match finishRecv env c.transport.timeout outcome with
  | .ok v => return v
  | .error e => throw e

end OrgCli.Mcp
