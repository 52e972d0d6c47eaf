import OrgCli.Proofs.Client
import OrgCli.Proofs.Reader

/-!
# `OrgCli.Proofs.Serial`: the threads refine the sequential transport

`Mcp/Transport.lean` models the transport as the main thread sees it: each call asks a
`Server` what happened. `run_serial` says that this is enough. For every run of the two
threads there is a `Server` such that the same calls with the same results are a run of the
sequential transport. So what holds for every `Server` holds for every interleaving.
-/

set_option autoImplicit false

namespace OrgCli.Mcp.Reader

open OrgCli.Support

/-- The interaction that a step is for the server. -/
def Label.event? : Label → Option Event
  | .send msg outcome => some (.write msg outcome)
  | .recvReturn outcome _ => some (.recv outcome)
  | .setTimeout _ | .recv | .reader => none

/-- The interactions of a run. -/
def events (es : List Label) : List Event := es.filterMap Label.event?

/-- A server that plays back the answers of a run. -/
def playback (all : List Event) : Server where
  spawn _ _ := .spawned
  write es _ := match all[es.length]? with
    | some (.write _ outcome) => outcome
    | _ => .ok
  recv es := match all[es.length]? with
    | some (.recv (.ok item)) => .ok item
    | _ => .error .disconnected
  recvTimeout es _ := match all[es.length]? with
    | some (.recv outcome) => outcome
    | _ => .error .disconnected

variable (env : Env)

/-- The calls of the sequential transport. A `recv` is one call there, so it runs where its
wait ends. -/
inductive SerialStep : Client × World → Label → Client × World → Prop
  | setTimeout (c : Client) (w : World) (timeout : Option Duration) :
      SerialStep (c, w) (.setTimeout timeout)
        ({ c with transport := c.transport.setTimeout timeout }, w)
  | send {c : Client} {w : World} {msg : Json} {outcome : WriteOutcome} {r : Except McpError Unit}
      (h : Mcp.send env msg (c, w) = finishedWith r (c, w.extend [.write msg outcome])) :
      SerialStep (c, w) (.send msg outcome) (c, w.extend [.write msg outcome])
  | recv (c : Client) (w : World) : SerialStep (c, w) .recv (c, w)
  | recvReturn {c : Client} {w : World} {outcome : Except RecvTimeoutError Item}
      {r : Except McpError Json}
      (h : Mcp.recv env (c, w) = finishedWith r (c, w.extend [.recv outcome])) :
      SerialStep (c, w) (.recvReturn outcome r) (c, w.extend [.recv outcome])
  | reader (c : Client) (w : World) : SerialStep (c, w) .reader (c, w)

/-- The sequential transport. -/
def serial : Lts (Client × World) Label where
  init x := x.1.transport.timeout = none ∧ x.2.trace = []
  step := SerialStep env

variable {env} {out : ChildStdout} {es : List Label} {s : State}

/-- A run and its next step, in the order of the answers. -/
theorem answer_of_prefix {l : Label} {e : Event} {all : List Event} (hl : l.event? = some e)
    (hall : events (es ++ [l]) <+: all) : all[(events es).length]? = some e := by
  obtain ⟨rest, rfl⟩ := hall
  simp [events, hl]

/-- The server that plays back the answers gives the answer of the run. Without a timeout a
wait cannot run out. -/
theorem channelOutcome_playback {all : List Event} {timeout : Option Duration}
    {trace : List Event} {outcome : Except RecvTimeoutError Item}
    (h : all[trace.length]? = some (.recv outcome))
    (htimeout : outcome = .error .timeout → timeout ≠ none) :
    channelOutcome { env with server := playback all } timeout trace = outcome := by
  cases timeout with
  | some d => simp [channelOutcome, playback, h]
  | none =>
      match outcome with
      | .ok item => simp [channelOutcome, playback, ofRecv, h]
      | .error .disconnected => simp [channelOutcome, playback, ofRecv, h]
      | .error .timeout => exact absurd rfl (htimeout rfl)

/-- A `recv` on that server ends as the wait of the run did. -/
theorem SerialStep.playback {all : List Event} {c : Client} {w : World}
    {outcome : Except RecvTimeoutError Item} (h : all[w.trace.length]? = some (.recv outcome))
    (htimeout : outcome = .error .timeout → c.transport.timeout ≠ none) :
    SerialStep { env with server := playback all } (c, w)
      (.recvReturn outcome (finishRecv env c.transport.timeout outcome))
      (c, w.extend [.recv outcome]) := by
  have hrecv := recv_eq { env with server := Reader.playback all } c w
  rw [channelOutcome_playback h htimeout] at hrecv
  exact .recvReturn hrecv

/-- The start of a wait does not change the timeout. -/
theorem startRecv_timeout (s : State) : s.startRecv.timeout = s.timeout := by
  obtain ⟨stdout, reader, timeout, main⟩ := s
  cases reader with
  | some h => rfl
  | none => cases stdout <;> rfl

/-- Every run of the threads is a run of the sequential transport, with the same calls and
the same results, on a server that plays back its answers. -/
theorem run_serial (h : Run (threads env out) es s) {all : List Event}
    (hall : events es <+: all) :
    ∃ c w, Run (serial { env with server := playback all }) es (c, w) ∧
      c.transport.timeout = s.timeout ∧ w.trace = events es := by
  induction h with
  | init h =>
      subst h
      exact ⟨⟨⟨none⟩, 1⟩, .initial, .init ⟨rfl, rfl⟩, rfl, rfl⟩
  | @step es s t l h hs ih =>
      have hsplit : events (es ++ [l]) = events es ++ events [l] := List.filterMap_append
      obtain ⟨c, w, hrun, htimeout, htrace⟩ := ih ((hsplit ▸ List.prefix_append _ _).trans hall)
      -- The server's next answer is the one of this step, if the step has one.
      have hanswer : ∀ {e}, l.event? = some e → all[w.trace.length]? = some e := by
        intro e he
        rw [htrace]
        exact answer_of_prefix he hall
      rw [hsplit, ← htrace]
      cases hs with
      | setTimeout hmain timeout =>
          exact ⟨_, w, hrun.step (.setTimeout c w timeout), rfl, (List.append_nil _).symm⟩
      | send hmain msg outcome =>
          have hsend := send_eq { env with server := playback all } msg c w
          have houtcome : (playback all).write w.trace msg = outcome := by
            simp [playback, hanswer rfl]
          rw [houtcome] at hsend
          exact ⟨c, _, hrun.step (.send hsend), htimeout, rfl⟩
      | recv hmain =>
          refine ⟨c, w, hrun.step (.recv c w), ?_, (List.append_nil _).symm⟩
          rw [startRecv_timeout, htimeout]
      | taken hmain hreader htake =>
          rw [← htimeout]
          exact ⟨c, _, hrun.step (.playback (hanswer rfl) (by simp)), rfl, rfl⟩
      | closed hmain hreader hclosed =>
          rw [← htimeout]
          exact ⟨c, _, hrun.step (.playback (hanswer rfl) (by simp)), rfl, rfl⟩
      | timedOut hmain hreader hd hpending =>
          rw [← htimeout]
          exact ⟨c, _, hrun.step (.playback (hanswer rfl) (by simp [htimeout, hd])), rfl, rfl⟩
      | reader hreader hstep =>
          exact ⟨c, w, hrun.step (.reader c w), htimeout, (List.append_nil _).symm⟩

end OrgCli.Mcp.Reader
