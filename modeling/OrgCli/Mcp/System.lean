import OrgCli.Mcp.Dialogue
import OrgCli.Mcp.Reader
import OrgCli.Support.Machine

/-!
# `OrgCli.Mcp.System`: the client and a server process

The closed system: the main thread with the program that it runs, the reader thread, and a
server process behind two pipes. `Reader.Step` gives the steps of the two threads. The three
run in every order.

The server is a `Machine`. It takes the lines of its stdin one after the other, and what it
writes is whole lines of UTF-8 that depend on the lines before, so it writes nothing on its own.
It keeps both pipes open until it is gone. The server of the system stands for all the processes
that hold the pipes, the child and what the child has started.

Both pipes hold bytes. A message is its JSON text and a newline (`Line.bytes`), and a side
reads when a whole line is there. So the reader thread blocks in `read_line` until a line
is complete or the server is gone (`Ready`). A pipe takes whatever is written to it. Pipes
with a capacity, where a write blocks and has parts, are in `Mcp/Pipes.lean`.
-/

set_option autoImplicit false

namespace OrgCli.Mcp

open OrgCli.Support
open OrgCli.Mcp.Reader (newline Handle ChildStdout)

/-! ### Lines -/

/-- A text of one line, without its terminator. The compact JSON text of a value is one:
a newline in a string is written as an escape. -/
structure Line where
  text : String
  single : newline ∉ text.toByteArray.data.toList

/-- The bytes of a line in a pipe. -/
def Line.bytes (l : Line) : List UInt8 := l.text.toByteArray.data.toList ++ [newline]

/-- What `read_line` gives for a line. -/
def Line.item (l : Line) : Item := .ok (l.text ++ "\n")

/-- The bytes of lines in a pipe. -/
def frames (ls : List Line) : List UInt8 := ls.flatMap Line.bytes

/-- The stdout pipe after a server wrote more to it. -/
def Reader.ChildStdout.append (stdout : ChildStdout) (bytes : List UInt8) : ChildStdout :=
  { stdout with bytes := stdout.bytes ++ bytes }

/-- The thread after a server wrote more to the pipe that it reads. -/
def Reader.Handle.append (h : Handle) (bytes : List UInt8) : Handle :=
  { h with stdout := h.stdout.append bytes }

/-- The transport after a server wrote to its stdout. The pipe is with the transport, or the
reader thread has it. -/
def Reader.State.append (s : Reader.State) (bytes : List UInt8) : Reader.State :=
  { s with stdout := s.stdout.map (·.append bytes), reader := s.reader.map (·.append bytes) }

/-! ### The system -/

/-- The program of the main thread, the transport with its two threads, what is in the
server's stdin, and the server, which is none when the process is gone. -/
structure SystemState (σ ρ : Type) where
  program : Dialogue ρ
  transport : Reader.State
  stdin : List UInt8
  server : Option σ

/-- A step of one of the client's threads, or of the server. -/
inductive SystemLabel where
  | client (l : Reader.Label)
  | server

/-- The reader thread does not block: a line is complete, or the server is gone. -/
def Ready {σ : Type} (server : Option σ) (h : Handle) : Prop :=
  h.pc = .reading → newline ∈ h.stdout.bytes ∨ server = none

variable {σ ρ : Type} (env : Env) (encode : Json → Line) (M : Machine σ String Line)

/-- A step of the system. -/
inductive SystemStep : SystemState σ ρ → SystemLabel → SystemState σ ρ → Prop
  | write {s : SystemState σ ρ} {msg : Json} {next : WriteOutcome → Dialogue ρ}
      (hprogram : s.program = .write msg next) {t : Reader.State}
      (hcall : Reader.Step env s.transport (.send msg .ok) t) (hserver : s.server.isSome) :
      SystemStep s (.client (.send msg .ok))
        { s with program := next .ok, transport := t, stdin := s.stdin ++ (encode msg).bytes }
  -- The write end of the pipe is broken when the server is gone.
  | broken {s : SystemState σ ρ} {msg : Json} {next : WriteOutcome → Dialogue ρ}
      (hprogram : s.program = .write msg next) {t : Reader.State} (e : String)
      (hcall : Reader.Step env s.transport (.send msg (.writeError e)) t)
      (hserver : s.server = none) :
      SystemStep s (.client (.send msg (.writeError e)))
        { s with program := next (.writeError e), transport := t }
  | recv {s : SystemState σ ρ} {next : Except RecvTimeoutError Item → Dialogue ρ}
      (hprogram : s.program = .read next) {t : Reader.State}
      (hcall : Reader.Step env s.transport .recv t) :
      SystemStep s (.client .recv) { s with transport := t }
  | recvReturn {s : SystemState σ ρ} {next : Except RecvTimeoutError Item → Dialogue ρ}
      (hprogram : s.program = .read next) {o : Except RecvTimeoutError Item}
      {r : Except McpError Json} {t : Reader.State}
      (hcall : Reader.Step env s.transport (.recvReturn o r) t) :
      SystemStep s (.client (.recvReturn o r)) { s with program := next o, transport := t }
  | reader {s : SystemState σ ρ} {h h' : Handle} (hreader : s.transport.reader = some h)
      (hready : Ready s.server h) (hstep : h.step = some h') :
      SystemStep s (.client .reader)
        { s with transport := { s.transport with reader := some h' } }
  | serve {s : SystemState σ ρ} {p : σ} (hserver : s.server = some p)
      (hrunning : M.halted p = false) {l : Line} {rest : List UInt8}
      (hstdin : s.stdin = l.bytes ++ rest) :
      SystemStep s .server
        { s with
          transport := s.transport.append (frames (M.handle p l.text).2)
          stdin := rest
          server := some (M.handle p l.text).1 }
  | exit {s : SystemState σ ρ} {p : σ} (hserver : s.server = some p)
      (hhalted : M.halted p = true) : SystemStep s .server { s with server := none }

/-- The system at the start of a program: the server is spawned, and nothing is written. -/
def SystemState.start (d : Dialogue ρ) (timeout : Option Duration) (p : σ) : SystemState σ ρ where
  program := d
  transport := { Reader.State.spawned ⟨[], none⟩ with timeout := timeout }
  stdin := []
  server := some p

/-- The transition system of a program with a server. -/
def system (d : Dialogue ρ) (timeout : Option Duration) (p : σ) :
    Lts (SystemState σ ρ) SystemLabel where
  init s := s = .start d timeout p
  step := SystemStep env encode M

end OrgCli.Mcp
