import OrgCli.Proofs.Progress

/-!
# `OrgCli.Proofs.Duplex`: nothing is lost between the program and the server

`Reader.Delivery` follows the lines of a fixed output to the program. In the whole system the
output depends on what the server was sent, and lines go both ways. `Duplex` says where each
of them is after a run: the messages that were written are those that the server has handled
and those in its stdin, and the lines that the program got, those in the channel and those
that are unread are what the server wrote for the messages that it has handled.
-/

set_option autoImplicit false

namespace OrgCli.Mcp

open OrgCli.Support
open OrgCli.Mcp.Reader (Handle)

variable {σ ρ : Type}

/-- The line that an event puts into the server's stdin. -/
def sentLine (encode : Json → Line) : Event → Option Line
  | .write msg .ok => some (encode msg)
  | _ => none

/-- The item that an event hands to the program. -/
def handedItem : Event → Option Item
  | .recv (.ok item) => some item
  | _ => none

/-- The lines that a run put into the server's stdin. -/
def sent (encode : Json → Line) (es : List SystemLabel) : List Line :=
  (systemEvents es).filterMap (sentLine encode)

/-- The items that a run handed to the program. -/
def received (es : List SystemLabel) : List Item := (systemEvents es).filterMap handedItem

/-- Where every line is after the run `es` to `s`, with a server that started as `p`. -/
structure Duplex (encode : Json → Line) (M : Machine σ String Line) (p : σ)
    (es : List SystemLabel) (s : SystemState σ ρ) (handled inFlight : List Line) : Prop where
  /-- A message that was written is handled or in flight. -/
  toServer : sent encode es = handled ++ inFlight
  /-- The process has handled exactly those messages, and the others wait in its stdin. -/
  server : ∀ k, s.server = some k →
    k = (M.feed p (handled.map Line.text)).1 ∧ s.stdin = frames inFlight
  /-- What the process wrote for them was handed over, or it is on its way. -/
  toClient : received es ++ s.transport.queued ++ s.transport.unread
    = (M.feed p (handled.map Line.text)).2.map Line.item

variable {env : Env} {encode : Json → Line} {M : Machine σ String Line}
  {timeout : Option Duration} {d : Dialogue ρ} {p : σ} {es : List SystemLabel}
  {s s' : SystemState σ ρ} {q : Conversation σ ρ} {l : SystemLabel} {handled inFlight : List Line}

/-- The lines of a run and its next step. -/
theorem sent_append (es : List SystemLabel) (l : SystemLabel) :
    sent encode (es ++ [l]) = sent encode es ++ (l.event?.bind (sentLine encode)).toList := by
  unfold sent systemEvents
  rw [List.filterMap_append, List.filterMap_append]
  refine congrArg (_ ++ ·) ?_
  cases hl : l.event? with
  | none => simp [hl]
  | some e => cases he : sentLine encode e <;> simp [hl, he]

/-- The items of a run and its next step. -/
theorem received_append (es : List SystemLabel) (l : SystemLabel) :
    received (es ++ [l]) = received es ++ (l.event?.bind handedItem).toList := by
  unfold received systemEvents
  rw [List.filterMap_append, List.filterMap_append]
  refine congrArg (_ ++ ·) ?_
  cases hl : l.event? with
  | none => simp [hl]
  | some e => cases he : handedItem e <;> simp [hl, he]

/-- A step that neither sends nor hands over anything, and that leaves the server alone. -/
theorem Duplex.quiet (hd : Duplex encode M p es s handled inFlight)
    (hsent : l.event?.bind (sentLine encode) = none)
    (hreceived : l.event?.bind handedItem = none) (hserver : s'.server = s.server)
    (hstdin : s'.stdin = s.stdin)
    (hflow : s'.transport.queued ++ s'.transport.unread
      = s.transport.queued ++ s.transport.unread) :
    Duplex encode M p (es ++ [l]) s' handled inFlight := by
  refine ⟨?_, ?_, ?_⟩
  · rw [sent_append, hsent]
    simpa using hd.toServer
  · rw [hserver, hstdin]
    exact hd.server
  · rw [received_append, hreceived, ← hd.toClient]
    simp [hflow]

/-- Every step keeps the lines together. -/
theorem Duplex.step (hd : Duplex encode M p es s handled inFlight) (hr : Refines M timeout s q)
    (hs : SystemStep env encode M s l s') :
    ∃ handled' inFlight', Duplex encode M p (es ++ [l]) s' handled' inFlight' := by
  obtain ⟨outs, hflowing⟩ := hr.flowing
  cases hs with
  | @write msg next hprogram t hcall hserver =>
      cases hcall with
      | send hmain msg outcome =>
          refine ⟨handled, inFlight ++ [encode msg], ?_, fun k hk => ?_, ?_⟩
          · rw [sent_append, hd.toServer]
            exact List.append_assoc _ _ _
          · obtain ⟨hstate, hstdin⟩ := hd.server k hk
            refine ⟨hstate, ?_⟩
            simp [hstdin]
          · rw [received_append]
            simpa [SystemLabel.event?, Reader.Label.event?, handedItem] using hd.toClient
  | broken hprogram e hcall hserver =>
      cases hcall
      exact ⟨handled, inFlight, hd.quiet rfl rfl rfl rfl rfl⟩
  | recv hprogram hcall =>
      cases hcall
      obtain ⟨_, _, hqueued, hunread⟩ := hflowing.startRecv
      exact ⟨handled, inFlight, hd.quiet rfl rfl rfl rfl (by rw [hqueued, hunread])⟩
  | @recvReturn next hprogram o r t hcall =>
      cases hcall with
      | @taken hmain h hreader item rx htake =>
          obtain ⟨hqueue, _⟩ := Channel.take?_eq_some_iff.mp htake
          refine ⟨handled, inFlight, ?_, hd.server, ?_⟩
          · rw [sent_append]
            simpa [SystemLabel.event?, Reader.Label.event?, sentLine] using hd.toServer
          · -- The item moves from the channel to the program.
            rw [received_append, ← hd.toClient]
            simp [SystemLabel.event?, Reader.Label.event?, handedItem, Reader.State.queued,
              Reader.State.unread, hreader, hqueue, Handle.unread]
      | closed | timedOut => exact ⟨handled, inFlight, hd.quiet rfl rfl rfl rfl rfl⟩
  | @reader h h' hreader hready hstep =>
      obtain ⟨_, hflow⟩ := hflowing.reader hreader hready hstep
      refine ⟨handled, inFlight, hd.quiet rfl rfl rfl rfl ?_⟩
      simpa [Reader.State.queued, Reader.State.unread, hreader] using hflow
  | @serve k hserver hrunning line rest hstdin =>
      obtain ⟨hstate, hpipe⟩ := hd.server k hserver
      rw [hpipe] at hstdin
      obtain ⟨ms, rfl, rfl⟩ := frames_eq_append hstdin
      have halive : s.server ≠ none := by
        rw [hserver]
        simp
      obtain ⟨_, hqueued, hunread⟩ := hflowing.append halive (M.handle k line.text).2
      -- One more message is handled, and its lines are unread.
      have hfeed : M.feed p ((handled ++ [line]).map Line.text)
          = ((M.handle k line.text).1,
              (M.feed p (handled.map Line.text)).2 ++ (M.handle k line.text).2) := by
        rw [List.map_append, Machine.feed_append, List.map_singleton, Machine.feed_singleton,
          ← hstate, Machine.react_of_not hrunning]
      refine ⟨handled ++ [line], ms, ?_, fun j hj => ?_, ?_⟩
      · rw [sent_append, hd.toServer]
        simp [SystemLabel.event?]
      · obtain rfl := Option.some.inj hj
        rw [hfeed]
        exact ⟨rfl, rfl⟩
      · rw [hfeed, received_append, hqueued, hunread, List.map_append, ← hd.toClient]
        simp [SystemLabel.event?]
  | exit hserver hhalted =>
      refine ⟨handled, inFlight, ?_, ?_, ?_⟩
      · rw [sent_append]
        simpa [SystemLabel.event?] using hd.toServer
      · intro k hk
        cases hk
      · rw [received_append]
        simpa [SystemLabel.event?] using hd.toClient

/-- In every run of the system each message that was written is handled once and in order, or
it still waits, and the program has got the lines of the handled ones in order and once, up
to those on their way. -/
theorem system_delivers (env : Env) (encode : Json → Line) (M : Machine σ String Line)
    (timeout : Option Duration) (d : Dialogue ρ) (p : σ) (es : List SystemLabel)
    (s : SystemState σ ρ) (h : Run (system env encode M d timeout p) es s) :
    ∃ handled inFlight, Duplex encode M p es s handled inFlight := by
  induction h with
  | init hs =>
      obtain rfl := hs
      refine ⟨[], [], rfl, fun k hk => ?_, rfl⟩
      exact ⟨(Option.some.inj hk).symm, rfl⟩
  | step hrun hs ih =>
      obtain ⟨handled, inFlight, hd⟩ := ih
      obtain ⟨q, _, hr⟩ := run_refines hrun
      exact hd.step hr hs

/-- The message of the example is handled, and its answer is with the program. -/
theorem system_delivers_asked :
    ∃ s handled inFlight, Duplex (ρ := Except RecvTimeoutError Item) (fun _ => helloLine) greeter ()
      askRun s handled inFlight := by
  obtain ⟨s, hrun, _⟩ := askRun_reaches
  exact ⟨s, system_delivers _ _ _ _ _ _ _ _ hrun⟩

end OrgCli.Mcp
