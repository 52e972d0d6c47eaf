import OrgCli.Json

/-!
# `OrgCli.World`: what the program sees and what it leaves behind

A `Server` is a deterministic server process together with the operating system around it.
Each of its answers may depend on everything that happened before: it reads the trace of
all events so far. A theorem over every `Server` therefore covers an adversary that sees
each message, and a theorem about two runs on one `Server` compares them under the same
adversary.

`Serde` is the part of `serde_json` and of Rust's `Debug` formatting that the program
calls and this development does not define: the parser, and the escaped text of a value or
a string inside an error message. `Value` serialization cannot fail, and it is not here:
the model records a message or an envelope as its JSON value.

A `World` holds the trace, the envelopes on stdout, and `RECV_TIMEOUT_SECS`. `Proc` is a
step of the program on it. Killing the child at the end of the run leaves no event, since
the program ignores its result.
-/

set_option autoImplicit false

namespace OrgCli

/-- `std::time::Duration`. -/
structure Duration where
  secs : UInt64
  nanos : UInt32
  deriving DecidableEq

/-- `Duration::from_secs`. -/
def Duration.fromSecs (secs : UInt64) : Duration := ⟨secs, 0⟩

/-- `Duration::is_zero`. -/
def Duration.isZero (d : Duration) : Bool := d.secs = 0 && d.nanos = 0

/-- The outcomes of `Command::spawn` and the two `take`s after it. The strings here and
below are the `Display` texts of I/O errors. -/
inductive SpawnOutcome where
  | spawned
  | failed (e : String)
  | stdinUnavailable
  | stdoutUnavailable
  deriving DecidableEq

/-- The outcomes of `write_all` and `flush` on the child's stdin. -/
inductive WriteOutcome where
  | ok
  | writeError (e : String)
  | flushError (e : String)
  deriving DecidableEq

/-- What the reader thread sends: a line, or the read error that ended it. -/
abbrev Item := Except String String

/-- `std::sync::mpsc::RecvTimeoutError`. -/
inductive RecvTimeoutError where
  | timeout
  | disconnected
  deriving DecidableEq

/-- `std::sync::mpsc::RecvError`: the channel is empty and its sender is gone. -/
inductive RecvError where
  | disconnected
  deriving DecidableEq

/-- An interaction with the server process. A message whose write failed is an event too:
the server may have got a part of it. -/
inductive Event where
  | spawn (argv : List String) (outcome : SpawnOutcome)
  | write (msg : Json) (outcome : WriteOutcome)
  | recv (outcome : Except RecvTimeoutError Item)

/-- A server process with the system around it. Each answer reads the trace so far. -/
structure Server where
  spawn : List Event → List String → SpawnOutcome
  write : List Event → Json → WriteOutcome
  /-- `Receiver::recv` on the reader thread's channel. -/
  recv : List Event → Except RecvError Item
  /-- `Receiver::recv_timeout` on the reader thread's channel. -/
  recvTimeout : List Event → Duration → Except RecvTimeoutError Item

/-- The parts of `serde_json` and `core::fmt` that stay abstract. -/
structure Serde where
  /-- `serde_json::from_str::<Value>`, with the text of its error. -/
  fromStr : String → Except String Json
  /-- `{:?}` of a `Value`. -/
  debugValue : Json → String
  /-- `{:?}` of a string. -/
  debugStr : String → String

/-- The surroundings of a run. -/
structure Env where
  server : Server
  serde : Serde

/-- The outcomes of the reads in a trace. -/
def reads (es : List Event) : List (Except RecvTimeoutError Item) :=
  es.filterMap fun e => match e with
    | .recv o => some o
    | _ => none

@[simp] theorem reads_append (es fs : List Event) : reads (es ++ fs) = reads es ++ reads fs :=
  List.filterMap_append

@[simp] theorem reads_nil : reads [] = [] := rfl

@[simp] theorem reads_spawn (argv : List String) (o : SpawnOutcome) (es : List Event) :
    reads (.spawn argv o :: es) = reads es := rfl

@[simp] theorem reads_write (msg : Json) (o : WriteOutcome) (es : List Event) :
    reads (.write msg o :: es) = reads es := rfl

@[simp] theorem reads_recv (o : Except RecvTimeoutError Item) (es : List Event) :
    reads (.recv o :: es) = o :: reads es := rfl

/-- A server that answers every write and plays back a list of lines. After the last line
its output is at the end. -/
def Server.replay (items : List Item) : Server where
  spawn _ _ := .spawned
  write _ _ := .ok
  -- The number of reads so far is the index of the next line.
  recv es := match items[(reads es).length]? with
    | some item => .ok item
    | none => .error .disconnected
  recvTimeout es _ := match items[(reads es).length]? with
    | some item => .ok item
    | none => .error .disconnected

/-- The parser restricted to the texts of a table. -/
def Serde.ofTable (table : List (String × Json)) : Serde where
  fromStr s := match Support.lookup s table with
    | some v => .ok v
    | none => .error "expected value at line 1 column 1"
  debugValue _ := ""
  debugStr s := s

/-- A run against a server that plays back the lines of a table, and reads them with it. -/
def Env.replay (table : List (String × Json)) : Env where
  server := .replay (table.map fun entry => .ok (entry.1 ++ "\n"))
  serde := .ofTable table

/-- An envelope on stdout: the JSON value given to `print_json`, and its layout. -/
structure Printed where
  value : Json
  compact : Bool
  deriving DecidableEq

/-- The state of a run. -/
structure World where
  trace : List Event
  stdout : List Printed
  recvTimeoutSecs : UInt64

/-- The world at process start. `RECV_TIMEOUT_SECS` is 30. -/
def World.initial : World := ⟨[], [], 30⟩

/-- The world after one more event. -/
def World.log (w : World) (e : Event) : World := { w with trace := w.trace ++ [e] }

/-- The world after the events `es`. -/
def World.extend (w : World) (es : List Event) : World := { w with trace := w.trace ++ es }

/-- The world after one more envelope on stdout. -/
def World.print (w : World) (p : Printed) : World := { w with stdout := w.stdout ++ [p] }

@[simp] theorem World.trace_log (w : World) (e : Event) :
    (w.log e).trace = w.trace ++ [e] := rfl

@[simp] theorem World.stdout_log (w : World) (e : Event) : (w.log e).stdout = w.stdout := rfl

@[simp] theorem World.trace_extend (w : World) (es : List Event) :
    (w.extend es).trace = w.trace ++ es := rfl

@[simp] theorem World.stdout_extend (w : World) (es : List Event) :
    (w.extend es).stdout = w.stdout := rfl

/-- Two extensions are one. -/
theorem World.extend_extend (w : World) (es fs : List Event) :
    (w.extend es).extend fs = w.extend (es ++ fs) := by
  simp [World.extend]

@[simp] theorem World.trace_print (w : World) (p : Printed) :
    (w.print p).trace = w.trace := rfl

@[simp] theorem World.stdout_print (w : World) (p : Printed) :
    (w.print p).stdout = w.stdout ++ [p] := rfl

/-- A step of the program. -/
abbrev Proc := StateM World

namespace Proc

variable {α β : Type}

@[simp] theorem bind_apply (x : Proc α) (f : α → Proc β) (w : World) :
    (x >>= f) w = f (x w).1 (x w).2 := rfl

@[simp] theorem pure_apply (a : α) (w : World) : (pure a : Proc α) w = (a, w) := rfl

@[simp] theorem get_apply (w : World) : (get : Proc World) w = (w, w) := rfl

@[simp] theorem set_apply (w w' : World) : (set w' : Proc PUnit) w = (⟨⟩, w') := rfl

end Proc

end OrgCli
