import OrgCli.Mcp.System

/-!
# `OrgCli.Mcp.Teardown`: the transport is dropped

`Transport::kill` and `Drop for Transport` of `src/mcp/transport.rs`. The main thread kills the
child and waits for it, and then it drops the fields of the transport. The receiver of the
channel is one of them. The join handle is another, so nobody joins the reader thread: it is
detached, and it runs on beside the main thread.

The kill is for the child only. The default server is a shell script, and what it has started
holds the same two pipes. So an orphan may stay behind the child, in some state of its own. In a
`deaf` state it does not read its stdin. The drop closes that pipe, and an orphan in a state with
`quits` exits when it comes to the end of it.

`teardown` is the transition system of a drop. The steps of the two threads and of the server
are those of the system, and they interleave with the steps of the drop in every order. Two things
are not modelled: the program exits after a drop, which ends the thread too, and an orphan that
writes to a stdout that nobody holds any more may get a signal.
-/

set_option autoImplicit false

namespace OrgCli.Mcp

open OrgCli.Support
open OrgCli.Mcp.Reader (Handle)

/-- Where the main thread is in the drop of the transport. -/
inductive DropPc where
  /-- Before `child.kill()`. -/
  | killing
  /-- `child.wait()` has returned, and the fields are still there. -/
  | dropping
  /-- The fields are gone. -/
  | dropped
  deriving DecidableEq

/-- The system while its transport is dropped, and whether the kill has left an orphan. -/
structure TeardownState (σ ρ : Type) where
  pc : DropPc
  orphaned : Bool
  system : SystemState σ ρ

/-- The thread after the receiver of its channel is dropped. -/
def Reader.Handle.detach (h : Handle) : Handle := { h with rx := h.rx.dropReceiver }

/-- The transport after its fields are dropped. What is left of it is the detached thread. -/
def Reader.State.dropFields (t : Reader.State) : Reader.State :=
  { t with stdout := none, reader := t.reader.map Handle.detach }

/-- A step of the system, `Transport::kill`, the drop of the fields, or the exit of an orphan at
the end of its stdin. -/
inductive TeardownLabel where
  | system (l : SystemLabel)
  | kill
  | dropFields
  | quit

variable {σ ρ : Type} (env : Env) (encode : Json → Line) (M : Machine σ String Line)
  (deaf quits : σ → Bool)

/-- The step is not one of a deaf server that runs. -/
def Heard (s : SystemState σ ρ) (l : SystemLabel) : Prop :=
  l = .server → ∀ p, s.server = some p → M.halted p = false → deaf p = false

/-- A step of a drop. -/
inductive TeardownStep : TeardownState σ ρ → TeardownLabel → TeardownState σ ρ → Prop
  | system {pc : DropPc} {orphaned : Bool} {s s' : SystemState σ ρ} {l : SystemLabel}
      (hs : SystemStep env encode M s l s') (hheard : Heard M deaf s l) :
      TeardownStep ⟨pc, orphaned, s⟩ (.system l) ⟨pc, orphaned, s'⟩
  -- The results of `kill` and `wait` are ignored.
  | kill (orphaned : Bool) (s : SystemState σ ρ) :
      TeardownStep ⟨.killing, orphaned, s⟩ .kill ⟨.dropping, false, { s with server := none }⟩
  -- The child is gone, and a process that it has started holds the pipes and goes on.
  | orphan (orphaned : Bool) (s : SystemState σ ρ) (hserver : s.server.isSome) (p : σ) :
      TeardownStep ⟨.killing, orphaned, s⟩ .kill ⟨.dropping, true, { s with server := some p }⟩
  | dropFields (orphaned : Bool) (s : SystemState σ ρ) :
      TeardownStep ⟨.dropping, orphaned, s⟩ .dropFields
        ⟨.dropped, orphaned, { s with transport := s.transport.dropFields }⟩
  | quit (orphaned : Bool) {s : SystemState σ ρ} {p : σ} (hserver : s.server = some p)
      (hhears : deaf p = false) (hquits : quits p = true)
      (hend : ∀ (l : Line) (rest : List UInt8), s.stdin ≠ l.bytes ++ rest) :
      TeardownStep ⟨.dropped, orphaned, s⟩ .quit ⟨.dropped, orphaned, { s with server := none }⟩

/-- The transition system of a drop that starts in a state of the system. -/
def teardown (s : SystemState σ ρ) : Lts (TeardownState σ ρ) TeardownLabel where
  init t := t = ⟨.killing, false, s⟩
  step := TeardownStep env encode M deaf quits

end OrgCli.Mcp
