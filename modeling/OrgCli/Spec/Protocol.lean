import OrgCli.Proofs.Run
import OrgCli.Support.Lts

/-!
# `OrgCli.Spec.Protocol`: the order of a run's messages

The client's side of the MCP handshake as an automaton. A run spawns the server, asks it to
initialize, waits for a reply that it accepts, notifies the server, sends one request and
waits for the reply. Any failure stops it. `Phase` names the points in between, and
`HandshakeStep` gives the one step that leaves each of them.

`HandshakeInv` says, for each phase, which messages a run has written and what it has read
by then. `Proofs/Protocol.lean` proves the invariant and that every run of the program is a
run of the automaton.
-/

set_option autoImplicit false

namespace OrgCli

open OrgCli.Mcp
open OrgCli.Support (Lts)

variable (env : Env)

/-! ### The messages of a run -/

/-- The request of a command: `tools/list` for `tools list`, and `tools/call` for every
other command that makes a call. -/
def Commands.request (c : Commands) : Option Json :=
  match c with
  | .tools .list => some (requestMsg 2 "tools/list" emptyObject)
  | c => (c.call env).map fun call => requestMsg 2 "tools/call" (toolsCallParams call.1 call.2)

/-- The messages of a command, in order: the handshake and the request. -/
def Commands.messages (c : Commands) : List Json :=
  initializeRequest :: initializedNotification :: (c.request env).toList

/-- The messages consumed are those that the reads delivered. -/
theorem consumed_eq_reads (es : List Event) :
    consumed env es = (reads es).filterMap fun o => replyOf env (.recv o) := by
  unfold consumed reads
  rw [List.filterMap_filterMap]
  refine List.filterMap_congr ?_
  intro e _
  cases e <;> rfl

/-! ### The automaton -/

/-- The phases of a run. -/
inductive Phase where
  | start
  | spawned
  | asked
  | accepted
  | ready
  | called
  | stopped
  deriving DecidableEq

/-- The steps of a run: the event that leaves each phase, and the phase after it. -/
inductive HandshakeStep (c : Commands) : Phase → Event → Phase → Prop
  | spawn (argv : List String) (o : SpawnOutcome) :
      HandshakeStep c .start (.spawn argv o) (if o = .spawned then .spawned else .stopped)
  | ask (o : WriteOutcome) :
      HandshakeStep c .spawned (.write initializeRequest o)
        (if o = .ok then .asked else .stopped)
  | accept (o : Except RecvTimeoutError Item) (m : Json) (hm : replyOf env (.recv o) = some m)
      (ha : AcceptsInitialize m) : HandshakeStep c .asked (.recv o) .accepted
  | refuse (o : Except RecvTimeoutError Item)
      (hr : ∀ m, replyOf env (.recv o) = some m → ¬ AcceptsInitialize m) :
      HandshakeStep c .asked (.recv o) .stopped
  | notify (o : WriteOutcome) :
      HandshakeStep c .accepted (.write initializedNotification o)
        (if o = .ok then .ready else .stopped)
  | call (msg : Json) (hmsg : c.request env = some msg) (o : WriteOutcome) :
      HandshakeStep c .ready (.write msg o) (if o = .ok then .called else .stopped)
  | answer (o : Except RecvTimeoutError Item) : HandshakeStep c .called (.recv o) .stopped

/-- The automaton of a command. -/
def handshakeLts (c : Commands) : Lts Phase Event where
  init p := p = .start
  step := HandshakeStep env c

/-- What a run has written and read when it is in a phase. -/
def HandshakeInv (c : Commands) (es : List Event) : Phase → Prop
  | .start | .spawned => written es = [] ∧ reads es = []
  | .asked => written es = [initializeRequest] ∧ reads es = []
  | .accepted => written es = [initializeRequest] ∧
      ∃ o m, reads es = [o] ∧ replyOf env (.recv o) = some m ∧ AcceptsInitialize m
  | .ready => written es = [initializeRequest, initializedNotification] ∧
      ∃ o m, reads es = [o] ∧ replyOf env (.recv o) = some m ∧ AcceptsInitialize m
  | .called => (∃ msg, c.request env = some msg ∧
        written es = [initializeRequest, initializedNotification, msg]) ∧
      (reads es).length = 1
  | .stopped => written es <+: c.messages env ∧ (reads es).length ≤ 2

end OrgCli
