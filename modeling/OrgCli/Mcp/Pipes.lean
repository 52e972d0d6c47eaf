import OrgCli.Mcp.System
import OrgCli.Support.Pipe

/-!
# `OrgCli.Mcp.Pipes`: the system over bounded pipes

`Mcp/System.lean` writes and reads whole messages, and its pipes take everything. Here each
pipe has a capacity, and the parts of a write and of a read are steps of their own. So
`write_all` of `Transport::send` blocks while the stdin pipe is full, with no timeout, and a
server blocks while its stdout pipe is full. A part can be one byte: a system that holds back a
short write until all of it fits is not modelled.

The server reads its stdin into a buffer, handles the lines of the buffer one after the other,
and writes the output of a line before it goes on with the next one. In a `deaf` state it does
not go on at all, and then nobody reads its stdin. The reader thread has a buffer too: the
`ChildStdout` in its hands.

`Proofs/Pipes.lean` proves that every run over bounded pipes is a run of the system.
-/

set_option autoImplicit false

namespace OrgCli.Mcp

open OrgCli.Support
open OrgCli.Mcp.Reader (newline Handle)

/-- The server process: its state, what it has read of its stdin and not handled yet, and what
it has still to write to its stdout. -/
structure Process (σ : Type) where
  state : σ
  input : List UInt8
  output : List UInt8

/-- The program of the main thread, what `write_all` has already written of its message, the
transport, the two pipes, and the server, which is none when the process is gone. -/
structure PipedState (cap : Capacity) (σ ρ : Type) where
  program : Dialogue ρ
  written : List UInt8
  transport : Reader.State
  stdin : Pipe UInt8 cap
  stdout : Pipe UInt8 cap
  server : Option (Process σ)

/-- A step of the system, or a part of a write or of a read. -/
inductive PipedLabel where
  | step (l : SystemLabel)
  /-- `write_all` writes a part of its message. -/
  | push
  /-- The reader thread reads a part of a line. -/
  | fill
  /-- The server reads a part of its stdin. -/
  | take
  /-- The server writes a part of its output. -/
  | flush

/-- The step of the system that a label is. -/
def PipedLabel.system? : PipedLabel → Option SystemLabel
  | .step l => some l
  | .push | .fill | .take | .flush => none

variable {cap : Capacity} {σ ρ : Type} (env : Env) (encode : Json → Line)
  (M : Machine σ String Line) (deaf : σ → Bool)

/-- The server goes on with its input: it runs, it is not deaf, and its output is written. -/
structure Process.Listens (k : Process σ) : Prop where
  running : M.halted k.state = false
  hears : deaf k.state = false
  flushed : k.output = []

/-- The reader thread does not block: its buffer has a complete line, or the server is gone and
the pipe is empty. -/
def PipedState.Ready (s : PipedState cap σ ρ) (h : Handle) : Prop :=
  h.pc = .reading → newline ∈ h.stdout.bytes ∨ (s.server = none ∧ s.stdout.held = [])

/-- A step over bounded pipes. -/
inductive PipedStep : PipedState cap σ ρ → PipedLabel → PipedState cap σ ρ → Prop
  | push {s : PipedState cap σ ρ} {msg : Json} {next : WriteOutcome → Dialogue ρ}
      (hprogram : s.program = .write msg next) (hserver : s.server.isSome)
      {chunk rest : List UInt8} (hbytes : (encode msg).bytes = s.written ++ chunk ++ rest)
      (hrest : rest ≠ []) {stdin : Pipe UInt8 cap} (hputs : s.stdin.Puts chunk stdin) :
      PipedStep s .push { s with written := s.written ++ chunk, stdin := stdin }
  -- The last part of the message: `write_all` returns.
  | write {s : PipedState cap σ ρ} {msg : Json} {next : WriteOutcome → Dialogue ρ}
      (hprogram : s.program = .write msg next) {t : Reader.State}
      (hcall : Reader.Step env s.transport (.send msg .ok) t) (hserver : s.server.isSome)
      {chunk : List UInt8} (hbytes : (encode msg).bytes = s.written ++ chunk)
      {stdin : Pipe UInt8 cap} (hputs : s.stdin.Puts chunk stdin) :
      PipedStep s (.step (.client (.send msg .ok)))
        { s with program := next .ok, written := [], transport := t, stdin := stdin }
  | broken {s : PipedState cap σ ρ} {msg : Json} {next : WriteOutcome → Dialogue ρ}
      (hprogram : s.program = .write msg next) {t : Reader.State} (e : String)
      (hcall : Reader.Step env s.transport (.send msg (.writeError e)) t)
      (hserver : s.server = none) :
      PipedStep s (.step (.client (.send msg (.writeError e))))
        { s with program := next (.writeError e), written := [], transport := t }
  | recv {s : PipedState cap σ ρ} {next : Except RecvTimeoutError Item → Dialogue ρ}
      (hprogram : s.program = .read next) {t : Reader.State}
      (hcall : Reader.Step env s.transport .recv t) :
      PipedStep s (.step (.client .recv)) { s with transport := t }
  | recvReturn {s : PipedState cap σ ρ} {next : Except RecvTimeoutError Item → Dialogue ρ}
      (hprogram : s.program = .read next) {o : Except RecvTimeoutError Item}
      {r : Except McpError Json} {t : Reader.State}
      (hcall : Reader.Step env s.transport (.recvReturn o r) t) :
      PipedStep s (.step (.client (.recvReturn o r)))
        { s with program := next o, transport := t }
  | fill {s : PipedState cap σ ρ} {h : Handle} (hreader : s.transport.reader = some h)
      (hpc : h.pc = .reading) (hline : newline ∉ h.stdout.bytes) {chunk : List UInt8}
      {stdout : Pipe UInt8 cap} (htakes : s.stdout.Takes chunk stdout) :
      PipedStep s .fill
        { s with
          transport := { s.transport with reader := some (h.append chunk) }
          stdout := stdout }
  | reader {s : PipedState cap σ ρ} {h h' : Handle} (hreader : s.transport.reader = some h)
      (hready : s.Ready h) (hstep : h.step = some h') :
      PipedStep s (.step (.client .reader))
        { s with transport := { s.transport with reader := some h' } }
  | take {s : PipedState cap σ ρ} {k : Process σ} (hserver : s.server = some k)
      (hlistens : k.Listens M deaf) {chunk : List UInt8} {stdin : Pipe UInt8 cap}
      (htakes : s.stdin.Takes chunk stdin) :
      PipedStep s .take
        { s with stdin := stdin, server := some { k with input := k.input ++ chunk } }
  | serve {s : PipedState cap σ ρ} {k : Process σ} (hserver : s.server = some k)
      (hlistens : k.Listens M deaf) {l : Line} {rest : List UInt8}
      (hinput : k.input = l.bytes ++ rest) :
      PipedStep s (.step .server)
        { s with
          server := some
            ⟨(M.handle k.state l.text).1, rest, frames (M.handle k.state l.text).2⟩ }
  | flush {s : PipedState cap σ ρ} {k : Process σ} (hserver : s.server = some k)
      {chunk rest : List UInt8} (houtput : k.output = chunk ++ rest) {stdout : Pipe UInt8 cap}
      (hputs : s.stdout.Puts chunk stdout) :
      PipedStep s .flush { s with stdout := stdout, server := some { k with output := rest } }
  | exit {s : PipedState cap σ ρ} {k : Process σ} (hserver : s.server = some k)
      (hhalted : M.halted k.state = true) (hflushed : k.output = []) :
      PipedStep s (.step .server) { s with server := none }

/-- The start of a program: the server is spawned, and nothing is written. -/
def PipedState.start (d : Dialogue ρ) (timeout : Option Duration) (p : σ) :
    PipedState cap σ ρ where
  program := d
  written := []
  transport := { Reader.State.spawned ⟨[], none⟩ with timeout := timeout }
  stdin := .empty
  stdout := .empty
  server := some ⟨p, [], []⟩

/-- The transition system of a program with a server over pipes of the given capacity. -/
def piped (cap : Capacity) (d : Dialogue ρ) (timeout : Option Duration) (p : σ) :
    Lts (PipedState cap σ ρ) PipedLabel where
  init s := s = .start d timeout p
  step := PipedStep env encode M deaf

end OrgCli.Mcp
