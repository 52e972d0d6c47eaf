import OrgCli.Mcp.System
import OrgCli.Proofs.Serial

/-!
# `OrgCli.Spec.Conversation`: the system without its threads

The abstract view of `Mcp/System.lean`. A `Conversation` has no pipes, no channel and no
reader thread: the server has handled everything that was sent to it, and `pending` are the
lines that it wrote and nobody read. Only the calls of the program are steps, and each of
them is one event. What a call can give depends on what the program has seen of the server's
end, which is its `Link`.

`Dialogue.wp` is the weakest precondition of a program that converses with a server.

`Proofs/System.lean` proves that every interleaving of the system is a conversation with the
same events, and `Proofs/Schedule.lean` that every conversation comes from an interleaving.
`Proofs/Progress.lean` proves that the system stops only where its conversation does, and
`Proofs/Adequacy.lean` that a precondition is enough for every interleaving. Over bounded pipes a
`send` can block too: `Proofs/Blocking.lean` says where, and `Proofs/Capacity.lean` what the
precondition says there.
-/

set_option autoImplicit false

namespace OrgCli.Mcp

open OrgCli.Support

/-- What the program has seen of the server's end. -/
inductive Link where
  /-- Nothing: every write was accepted, and no `recv` found the end of the file. -/
  | up
  /-- A write failed. -/
  | broken
  /-- A `recv` found the end of the file. -/
  | closed
  deriving DecidableEq

/-- The link after a write that failed. -/
def Link.cut : Link → Link
  | .up | .broken => .broken
  | .closed => .closed

/-- A program, a server that has handled all of its input, what it wrote, and the link
between them. -/
structure Conversation (σ ρ : Type) where
  program : Dialogue ρ
  server : σ
  pending : List Item
  link : Link

variable {σ ρ : Type} (encode : Json → Line) (M : Machine σ String Line)
  (timeout : Option Duration)

/-- A call of the program. -/
inductive ConversationStep : Conversation σ ρ → Event → Conversation σ ρ → Prop
  -- A message to a server that has halted is lost.
  | write (msg : Json) (next : WriteOutcome → Dialogue ρ) (p : σ) (items : List Item) :
      ConversationStep ⟨.write msg next, p, items, .up⟩ (.write msg .ok)
        ⟨next .ok, (M.react p (encode msg).text).1,
          items ++ (M.react p (encode msg).text).2.map Line.item, .up⟩
  | broken (msg : Json) (next : WriteOutcome → Dialogue ρ) (p : σ) (items : List Item)
      (link : Link) (hhalted : M.halted p = true) (e : String) :
      ConversationStep ⟨.write msg next, p, items, link⟩ (.write msg (.writeError e))
        ⟨next (.writeError e), p, items, link.cut⟩
  | read (next : Except RecvTimeoutError Item → Dialogue ρ) (p : σ) (item : Item)
      (items : List Item) (link : Link) :
      ConversationStep ⟨.read next, p, item :: items, link⟩ (.recv (.ok item))
        ⟨next (.ok item), p, items, link⟩
  | eof (next : Except RecvTimeoutError Item → Dialogue ρ) (p : σ) (link : Link)
      (hhalted : M.halted p = true) :
      ConversationStep ⟨.read next, p, [], link⟩ (.recv (.error .disconnected))
        ⟨next (.error .disconnected), p, [], .closed⟩
  -- The reply may be late, and then it stays pending. After the end of the file a `recv`
  -- returns at once.
  | timedOut (next : Except RecvTimeoutError Item → Dialogue ρ) (p : σ) (items : List Item)
      (link : Link) (hopen : link ≠ .closed) (d : Duration) (htimeout : timeout = some d) :
      ConversationStep ⟨.read next, p, items, link⟩ (.recv (.error .timeout))
        ⟨next (.error .timeout), p, items, link⟩

/-- The transition system of the conversations of a program with a server. -/
def conversation (d : Dialogue ρ) (p : σ) : Lts (Conversation σ ρ) Event where
  init q := q = ⟨d, p, [], .up⟩
  step := ConversationStep encode M timeout

/-- The event of a step: a message that was written, or what a `recv` got. -/
def SystemLabel.event? : SystemLabel → Option Event
  | .client l => l.event?
  | .server => none

/-- The events of a run. -/
def systemEvents (es : List SystemLabel) : List Event := es.filterMap SystemLabel.event?

/-- The weakest precondition of a program: with the server in the state `p`, the lines `items`
pending and the link as it is, the program never waits for nothing, and it ends with a result
and a server state that meet `post`, whatever fails or times out on the way. -/
def Dialogue.wp (post : ρ → σ → Prop) : Dialogue ρ → σ → List Item → Link → Prop
  | .done r, p, _, _ => post r p
  | .write msg next, p, items, link =>
      (link = .up → (next .ok).wp post (M.react p (encode msg).text).1
          (items ++ (M.react p (encode msg).text).2.map Line.item) .up) ∧
        (M.halted p = true → ∀ e, (next (.writeError e)).wp post p items link.cut)
  | .read next, p, item :: items, link =>
      (next (.ok item)).wp post p items link ∧
        (timeout.isSome → link ≠ .closed →
          (next (.error .timeout)).wp post p (item :: items) link)
  | .read next, p, [], link =>
      (M.halted p = true ∨ timeout.isSome) ∧
        (M.halted p = true → (next (.error .disconnected)).wp post p [] .closed) ∧
        (timeout.isSome → link ≠ .closed → (next (.error .timeout)).wp post p [] link)

end OrgCli.Mcp
