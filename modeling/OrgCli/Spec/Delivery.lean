import OrgCli.Mcp.Reader

/-!
# `OrgCli.Spec.Delivery`: what the two threads deliver

`ChildStdout.items` is everything a server's output can give to `recv`: its lines up to the
first read error, and then that error. At each moment of a run some of it was handed to
`recv`, some is in the channel, and the rest is unread. `Delivery` says that the three parts
always are the whole, in order, together with what follows for timeouts and for the end of
the file.
-/

set_option autoImplicit false

namespace OrgCli.Mcp.Reader

open OrgCli.Support

/-! ### The output -/

/-- The items of the lines of an output: up to the first error, or with the I/O error at
their end. -/
def itemsOf (fault : Option String) : List (List UInt8) → List Item
  | [] => (fault.map Except.error).toList
  | line :: lines =>
      match lineItem fault line with
      | .ok text => .ok text :: itemsOf fault lines
      | .error e => [.error e]

/-- The items of an output. -/
def ChildStdout.items (stdout : ChildStdout) : List Item :=
  itemsOf stdout.fault (splitLines newline stdout.bytes)

/-- The bytes of the lines among the items. -/
def utf8 (items : List Item) : List UInt8 :=
  items.flatMap fun item => match item with
    | .ok line => line.toByteArray.data.toList
    | .error _ => []

/-! ### A moment of a run -/

/-- The items that are in the channel. -/
def State.queued (s : State) : List Item :=
  match s.reader with
  | none => []
  | some h => h.rx.queue

/-- The items that a reader thread has not sent yet. The line in its hands is the first. -/
def Handle.unread (h : Handle) : List Item :=
  match h.pc with
  | .reading => h.stdout.items
  | .sending (.ok line) => .ok line :: h.stdout.items
  | .sending (.error e) => [.error e]
  | .exiting | .finished => []

/-- The items that did not reach the channel yet. -/
def State.unread (s : State) : List Item :=
  match s.reader with
  | none => (s.stdout.map ChildStdout.items).getD []
  | some h => h.unread

/-- The item that a step hands to `recv`. -/
def Label.item? : Label → Option Item
  | .recvReturn (.ok item) _ => some item
  | _ => none

/-- The items that a run handed to `recv`. -/
def handed (es : List Label) : List Item := es.filterMap Label.item?

/-- A `recv` that reports the end of the file. -/
def Label.ReportsEof (l : Label) : Prop := ∃ o, l = .recvReturn o (.error eofError)

variable (env : Env)

/-- What holds after every run `es` that reaches `s`. -/
structure Delivery (out : ChildStdout) (es : List Label) (s : State) : Prop where
  /-- The output is handed over in order, once. -/
  inOrder : handed es ++ s.queued ++ s.unread = out.items
  /-- Its lines are the bytes of the output, up to the first read error. -/
  bytes : ∃ rest, utf8 (handed es ++ s.queued ++ s.unread) ++ rest = out.bytes ∧
    ((∀ e, .error e ∉ out.items) → rest = [])
  /-- A wait that runs out changes nothing. -/
  timeoutKeeps : ∀ r t, Step env s (.recvReturn (.error .timeout) r) t →
    t.queued = s.queued ∧ t.unread = s.unread
  /-- After a timeout the next item is the one that the wait was for. -/
  late : ∀ (before between after : List Label) (r r' : Except McpError Json) (item : Item),
    es = before ++ .recvReturn (.error .timeout) r ::
        (between ++ .recvReturn (.ok item) r' :: after) →
      handed between = [] → out.items[(handed before).length]? = some item
  /-- After an end of the file every `recv` reports it. -/
  eofLasts : es.Pairwise fun a b => a.ReportsEof → ∀ o r, b = .recvReturn o r → b.ReportsEof
  /-- No `expect` fires. -/
  running : s.main ≠ .panicked

end OrgCli.Mcp.Reader
