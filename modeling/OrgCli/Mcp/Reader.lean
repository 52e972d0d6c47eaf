import OrgCli.Mcp.Transport
import OrgCli.Support.Channel
import OrgCli.Support.Lines
import OrgCli.Support.Lts

/-!
# `OrgCli.Mcp.Reader`: the reader thread and the main thread

`Transport` of `src/mcp/transport.rs` with both of its threads. The first `recv` takes
stdout out of the transport and moves it into a new thread. The thread reads lines and sends
them over a channel, and every `recv` waits on the other end.

`threads` is the transition system of the two. A step is one call of the main thread, the
end of its wait, or one statement of the reader's loop, so the steps of the threads
interleave in every order. The time of a wait is not modelled: a wait with a timeout may run
out whenever nothing is queued and the sender is still there.
-/

set_option autoImplicit false

namespace OrgCli.Mcp.Reader

open OrgCli.Support

/-! ### `BufReader<ChildStdout>` -/

/-- What the server still writes to stdout: bytes, and then the end of the file or an I/O
error with its text. -/
structure ChildStdout where
  bytes : List UInt8
  fault : Option String
  deriving DecidableEq

/-- The byte of `'\n'`. -/
def newline : UInt8 := 10

/-- The text of the error of `read_line` on bytes that are not UTF-8. -/
def invalidUtf8 : String := "stream did not contain valid UTF-8"

/-- The text of the bytes of a line, or the error of `read_line` on them. -/
def decodeLine (line : List UInt8) : Item :=
  match String.fromUTF8? line.toByteArray with
  | some text => .ok text
  | none => .error invalidUtf8

/-- What `read_line` makes of the bytes of a line. An I/O error that comes before the end of
the line takes the bytes of that line with it. -/
def lineItem (fault : Option String) (line : List UInt8) : Item :=
  match fault with
  | some e => if line.getLast? = some newline then decodeLine line else .error e
  | none => decodeLine line

/-- `BufRead::read_line` into an empty string: the number of bytes and the line. -/
def ChildStdout.readLine (stdout : ChildStdout) : Except String (Nat × String) × ChildStdout :=
  -- The bytes of the line are consumed even when it is an error.
  let (line, rest) := takeLine newline stdout.bytes
  ((lineItem stdout.fault line).map fun text => (line.length, text), { stdout with bytes := rest })

/-! ### The reader thread -/

/-- Where the reader thread is. -/
inductive Pc where
  /-- At the `read_line` at the head of the loop. -/
  | reading
  /-- At the `tx.send` of what it read. -/
  | sending (item : Item)
  /-- After the loop: `tx` is still there. -/
  | exiting
  /-- The thread is gone, and `tx` with it. -/
  | finished

/-- `ReaderHandle`: the channel behind `rx`, and the thread behind `_handle` with the stdout
it owns. -/
structure Handle where
  rx : Channel Item
  stdout : ChildStdout
  pc : Pc

/-- A step of the reader thread. -/
def Handle.step (h : Handle) : Option Handle :=
  match h.pc with
  | .reading =>
      match h.stdout.readLine with
      -- No bytes: the end of the file.
      | (.ok (0, _), stdout) => some { h with stdout := stdout, pc := .exiting }
      | (.ok (_, line), stdout) => some { h with stdout := stdout, pc := .sending (.ok line) }
      | (.error e, stdout) => some { h with stdout := stdout, pc := .sending (.error e) }
  | .sending (.ok line) =>
      match h.rx.send (.ok line) with
      | some rx => some { h with rx := rx, pc := .reading }
      -- The receiver is dropped with the transport.
      | none => some { h with pc := .exiting }
  | .sending (.error e) =>
      -- Whether the error arrives is ignored, and the loop ends.
      some { h with rx := (h.rx.send (.error e)).getD h.rx, pc := .exiting }
  | .exiting => some { h with rx := h.rx.dropSender, pc := .finished }
  | .finished => none

/-! ### The main thread -/

/-- What the main thread is doing with the transport. -/
inductive MainPc where
  /-- Between two calls. -/
  | idle
  /-- In `rx.recv` or `rx.recv_timeout`. -/
  | waiting
  /-- An `expect` fired. -/
  | panicked
  deriving DecidableEq

/-- `transport::Transport` with its two threads. -/
structure State where
  stdout : Option ChildStdout
  reader : Option Handle
  timeout : Option Duration
  main : MainPc

/-- The transport that `Transport::spawn` returns. -/
def State.spawned (stdout : ChildStdout) : State := ⟨some stdout, none, none, .idle⟩

/-- `Transport::ensure_reader`. There is no result when its `expect` fires. -/
def State.ensureReader (s : State) : Option State :=
  if s.reader.isSome then some s
  else
    match s.stdout with
    | none => none
    | some stdout => some { s with stdout := none, reader := some ⟨.new, stdout, .reading⟩ }

/-- `Transport::recv` up to its wait. Its own `expect` fires when there is no reader. -/
def State.startRecv (s : State) : State :=
  match s.ensureReader with
  | none => { s with main := .panicked }
  | some t => if t.reader.isSome then { t with main := .waiting } else { t with main := .panicked }

/-! ### The two threads together -/

/-- The steps of the threads. The end of a wait carries what the channel gave and what
`recv` returns. -/
inductive Label where
  | setTimeout (timeout : Option Duration)
  | send (msg : Json) (outcome : WriteOutcome)
  | recv
  | recvReturn (outcome : Except RecvTimeoutError Item) (result : Except McpError Json)
  | reader

variable (env : Env)

/-- A step of one of the threads. -/
inductive Step : State → Label → State → Prop
  | setTimeout {s : State} (hmain : s.main = .idle) (timeout : Option Duration) :
      Step s (.setTimeout timeout) { s with timeout := normalizeTimeout timeout }
  | send {s : State} (hmain : s.main = .idle) (msg : Json) (outcome : WriteOutcome) :
      Step s (.send msg outcome) s
  | recv {s : State} (hmain : s.main = .idle) : Step s .recv s.startRecv
  | taken {s : State} (hmain : s.main = .waiting) {h : Handle} (hreader : s.reader = some h)
      {item : Item} {rx : Channel Item} (htake : h.rx.take? = some (item, rx)) :
      Step s (.recvReturn (.ok item) (finishRecv env s.timeout (.ok item)))
        { s with reader := some { h with rx := rx }, main := .idle }
  | closed {s : State} (hmain : s.main = .waiting) {h : Handle} (hreader : s.reader = some h)
      (hclosed : h.rx.Closed) :
      Step s (.recvReturn (.error .disconnected) (finishRecv env s.timeout (.error .disconnected)))
        { s with main := .idle }
  | timedOut {s : State} (hmain : s.main = .waiting) {h : Handle} (hreader : s.reader = some h)
      {d : Duration} (htimeout : s.timeout = some d) (hpending : h.rx.Pending) :
      Step s (.recvReturn (.error .timeout) (finishRecv env s.timeout (.error .timeout)))
        { s with main := .idle }
  | reader {s : State} {h h' : Handle} (hreader : s.reader = some h) (hstep : h.step = some h') :
      Step s .reader { s with reader := some h' }

/-- The transition system of a transport on a server with the given output. -/
def threads (out : ChildStdout) : Lts State Label where
  init s := s = .spawned out
  step := Step env

end OrgCli.Mcp.Reader
