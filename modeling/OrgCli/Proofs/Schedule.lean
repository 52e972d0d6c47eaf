import OrgCli.Proofs.Adequacy

/-!
# `OrgCli.Proofs.Schedule`: every conversation comes from an interleaving

The converse of `run_is_conversation`. `Settled` relates a conversation to a state of the
system in which everything is at rest: the server has handled its stdin, the channel is empty,
and the pending lines are in the stdout pipe. From such a state each call of a conversation
is a short schedule of the threads and the server that settles again (`Settled.step`).

So the threads and the pipes add nothing: the two systems have the same events
(`interleavings_iff`), and `Dialogue.wp` is the weakest precondition, not only one that is enough
(`wp_of_fine`). A schedule may need room in the pipes for all that is in them.
`Proofs/Capacity.lean` carries both over to bounded pipes.
-/

set_option autoImplicit false

namespace OrgCli.Mcp

open OrgCli.Support
open OrgCli.Mcp.Reader (newline Handle)

variable {σ ρ : Type} {env : Env} {encode : Json → Line} {M : Machine σ String Line}
  {timeout : Option Duration} {d : Dialogue ρ} {p : σ}

/-! ### A transport at rest -/

/-- A reader thread at the head of its loop, with an empty channel and the lines in its pipe. -/
def atHead (outs : List Line) : Handle := ⟨.new, ⟨frames outs, none⟩, .reading⟩

/-- A transport whose reader thread is at the head of its loop. -/
def reading (timeout : Option Duration) (outs : List Line) (main : Reader.MainPc) :
    Reader.State := ⟨none, some (atHead outs), timeout, main⟩

/-- A transport between two calls, with the lines in the stdout pipe and an empty channel. -/
inductive Quiet (timeout : Option Duration) (outs : List Line) : Reader.State → Prop
  | fresh : Quiet timeout outs ⟨some ⟨frames outs, none⟩, none, timeout, .idle⟩
  | started : Quiet timeout outs (reading timeout outs .idle)

variable {outs : List Line} {t : Reader.State}

/-- The main thread of a quiet transport is between two calls. -/
theorem Quiet.main (h : Quiet timeout outs t) : t.main = .idle := by
  cases h <;> rfl

/-- A `recv` on a quiet transport waits for the first line of the pipe. -/
theorem Quiet.startRecv (h : Quiet timeout outs t) :
    t.startRecv = reading timeout outs .waiting := by
  cases h <;> rfl

/-- What the server writes to a quiet transport is in the pipe. -/
theorem Quiet.append (h : Quiet timeout outs t) (ms : List Line) :
    Quiet timeout (outs ++ ms) (t.append (frames ms)) := by
  cases h with
  | fresh =>
      have hquiet : Quiet timeout (outs ++ ms) _ := .fresh
      rw [frames_append] at hquiet
      exact hquiet
  | started =>
      have hquiet : Quiet timeout (outs ++ ms) _ := .started
      unfold reading atHead at hquiet
      rw [frames_append] at hquiet
      exact hquiet

/-- A transport that has seen the end of the file. -/
def ended (timeout : Option Duration) (main : Reader.MainPc) : Reader.State :=
  ⟨none, some ⟨⟨[], false, true⟩, ⟨[], none⟩, .finished⟩, timeout, main⟩

/-! ### Schedules -/

/-- The state of the system stands for the conversation, and everything is at rest. -/
inductive Settled (M : Machine σ String Line) (timeout : Option Duration) :
    SystemState σ ρ → Conversation σ ρ → Prop
  -- What is sent to a server that has halted stays in the pipe.
  | up (d : Dialogue ρ) {p : σ} {t : Reader.State} {stdin : List UInt8} {outs : List Line}
      (hquiet : Quiet timeout outs t) (hhandled : M.halted p = true ∨ stdin = []) :
      Settled M timeout ⟨d, t, stdin, some p⟩ ⟨d, p, outs.map Line.item, .up⟩
  | broken (d : Dialogue ρ) {p : σ} {t : Reader.State} (stdin : List UInt8) {outs : List Line}
      (hquiet : Quiet timeout outs t) (hhalted : M.halted p = true) :
      Settled M timeout ⟨d, t, stdin, none⟩ ⟨d, p, outs.map Line.item, .broken⟩
  | closed (d : Dialogue ρ) {p : σ} (stdin : List UInt8) (hhalted : M.halted p = true) :
      Settled M timeout ⟨d, ended timeout .idle, stdin, none⟩ ⟨d, p, [], .closed⟩

/-- From the state there is a schedule with just this event that settles in the conversation. -/
def Schedules (env : Env) (encode : Json → Line) (M : Machine σ String Line)
    (timeout : Option Duration) (d : Dialogue ρ) (p : σ) (s : SystemState σ ρ) (e : Event)
    (q : Conversation σ ρ) : Prop :=
  ∃ es s', Path (system env encode M d timeout p) s es s' ∧ systemEvents es = [e] ∧
    Settled M timeout s' q

variable {s : SystemState σ ρ} {q q' : Conversation σ ρ} {stdin : List UInt8}
  {server : Option σ} {next : Except RecvTimeoutError Item → Dialogue ρ}

/-- A `recv` on a quiet transport starts to wait. -/
theorem step_recv (hquiet : Quiet timeout outs t) :
    SystemStep env encode M ⟨.read next, t, stdin, server⟩ (.client .recv)
      ⟨.read next, reading timeout outs .waiting, stdin, server⟩ := by
  have hstep : SystemStep env encode M ⟨.read next, t, stdin, server⟩ (.client .recv) _ :=
    .recv rfl (.recv hquiet.main)
  rw [hquiet.startRecv] at hstep
  exact hstep

/-- The thread hands over the first line of the pipe. -/
theorem path_read {l : Line} {ls : List Line} (hquiet : Quiet timeout (l :: ls) t) :
    ∃ es, Path (system env encode M d timeout p) ⟨.read next, t, stdin, server⟩ es
        ⟨next (.ok l.item), reading timeout ls .idle, stdin, server⟩ ∧
      systemEvents es = [.recv (.ok l.item)] := by
  have hline : newline ∈ frames (l :: ls) := by simp [Line.bytes]
  have hread := step_reading_cons .new l ls
  refine ⟨_, .cons (step_recv hquiet) (.cons (.reader rfl (fun _ => Or.inl hline) hread)
    (.cons (.reader rfl (fun h => by cases h) rfl)
      (.cons (.recvReturn rfl (.taken rfl rfl rfl)) (.nil _)))), rfl⟩

/-- The thread of a process that is gone comes to the end of the pipe. -/
theorem path_eof (hquiet : Quiet timeout [] t) :
    ∃ es, Path (system env encode M d timeout p) ⟨.read next, t, stdin, none⟩ es
        ⟨next (.error .disconnected), ended timeout .idle, stdin, none⟩ ∧
      systemEvents es = [.recv (.error .disconnected)] := by
  have hend := step_reading_nil .new
  refine ⟨_, .cons (step_recv hquiet) (.cons (.reader rfl (fun _ => Or.inr rfl) hend)
    (.cons (.reader rfl (fun h => by cases h) rfl)
      (.cons (.recvReturn rfl (.closed rfl rfl ⟨rfl, rfl⟩)) (.nil _)))), rfl⟩

/-- After the end of the pipe a `recv` returns at once. -/
theorem path_closed :
    ∃ es, Path (system env encode M d timeout p) ⟨.read next, ended timeout .idle, stdin, none⟩
        es ⟨next (.error .disconnected), ended timeout .idle, stdin, none⟩ ∧
      systemEvents es = [.recv (.error .disconnected)] :=
  ⟨_, .cons (.recv rfl (.recv rfl)) (.cons (.recvReturn rfl (.closed rfl rfl ⟨rfl, rfl⟩))
    (.nil _)), rfl⟩

/-- A wait can run out before the thread reads anything. -/
theorem path_timedOut {duration : Duration} (htimeout : timeout = some duration)
    (hquiet : Quiet timeout outs t) :
    ∃ es, Path (system env encode M d timeout p) ⟨.read next, t, stdin, server⟩ es
        ⟨next (.error .timeout), reading timeout outs .idle, stdin, server⟩ ∧
      systemEvents es = [.recv (.error .timeout)] :=
  ⟨_, .cons (step_recv hquiet)
    (.cons (.recvReturn rfl (.timedOut rfl rfl htimeout ⟨rfl, rfl⟩)) (.nil _)), rfl⟩

/-- A message reaches the server, which handles it at once. A server that has halted leaves it
in the pipe. -/
theorem schedules_write {msg : Json} {next : WriteOutcome → Dialogue ρ} {k : σ}
    (hquiet : Quiet timeout outs t) (hhandled : M.halted k = true ∨ stdin = []) :
    Schedules env encode M timeout d p ⟨.write msg next, t, stdin, some k⟩ (.write msg .ok)
      ⟨next .ok, (M.react k (encode msg).text).1,
        outs.map Line.item ++ (M.react k (encode msg).text).2.map Line.item, .up⟩ := by
  have hwrite : SystemStep env encode M ⟨.write msg next, t, stdin, some k⟩
      (.client (.send msg .ok)) ⟨next .ok, t, stdin ++ (encode msg).bytes, some k⟩ :=
    .write rfl (.send hquiet.main msg .ok) rfl
  cases hhalted : M.halted k with
  | true =>
      have hreact : M.react k (encode msg).text = (k, []) := if_pos hhalted
      rw [hreact, List.map_nil, List.append_nil]
      exact ⟨_, _, .cons hwrite (.nil _), rfl, .up _ hquiet (Or.inl hhalted)⟩
  | false =>
      -- The server has handled its stdin, so the message is the next line that it reads.
      obtain rfl := hhandled.resolve_left (by simp [hhalted])
      rw [Machine.react_of_not hhalted, ← List.map_append]
      have hserve : SystemStep env encode M ⟨next .ok, t, [] ++ (encode msg).bytes, some k⟩ .server
          ⟨next .ok, t.append (frames (M.handle k (encode msg).text).2), [],
            some (M.handle k (encode msg).text).1⟩ :=
        .serve rfl hhalted (List.append_nil _).symm
      exact ⟨_, _, .cons hwrite (.cons hserve (.nil _)), rfl,
        .up _ (hquiet.append _) (Or.inr rfl)⟩

/-- A process that halts is gone before the next event. -/
theorem Schedules.exit {d' : Dialogue ρ} {k : σ} {e : Event} (hhalted : M.halted k = true)
    (h : Schedules env encode M timeout d p ⟨d', t, stdin, none⟩ e q) :
    Schedules env encode M timeout d p ⟨d', t, stdin, some k⟩ e q := by
  obtain ⟨es, s', hpath, hevents, hsettled⟩ := h
  exact ⟨_, s', .cons (.exit rfl hhalted) hpath, hevents, hsettled⟩

/-- A message to a process that is gone fails. -/
theorem step_broken {msg : Json} {next : WriteOutcome → Dialogue ρ} (hmain : t.main = .idle)
    (e : String) :
    SystemStep env encode M ⟨.write msg next, t, stdin, none⟩
      (.client (.send msg (.writeError e))) ⟨next (.writeError e), t, stdin, none⟩ :=
  .broken rfl e (.send hmain msg _) rfl

/-- Every call of a conversation has a schedule. -/
theorem Settled.step {e : Event} (h : Settled M timeout s q)
    (hs : ConversationStep encode M timeout q e q') :
    Schedules env encode M timeout d p s e q' := by
  cases h with
  | @up program k t stdin outs hquiet hhandled =>
      generalize hitems : outs.map Line.item = items at hs
      cases hs with
      | write msg next _ _ =>
          rw [← hitems]
          exact schedules_write hquiet hhandled
      | broken msg next _ _ _ hhalted e =>
          refine .exit hhalted ?_
          rw [← hitems]
          exact ⟨_, _, .cons (step_broken hquiet.main e) (.nil _), rfl,
            .broken _ stdin hquiet hhalted⟩
      | read next _ item items _ =>
          obtain ⟨l, ls, rfl, rfl, rfl⟩ := List.map_eq_cons_iff.mp hitems
          obtain ⟨es, hpath, hevents⟩ := path_read hquiet
          exact ⟨es, _, hpath, hevents, .up _ .started hhandled⟩
      | eof next _ _ hhalted =>
          obtain rfl := List.map_eq_nil_iff.mp hitems
          obtain ⟨es, hpath, hevents⟩ := path_eof hquiet
          exact .exit hhalted ⟨es, _, hpath, hevents, .closed _ stdin hhalted⟩
      | timedOut next _ _ _ hopen duration htimeout =>
          rw [← hitems]
          obtain ⟨es, hpath, hevents⟩ := path_timedOut htimeout hquiet
          exact ⟨es, _, hpath, hevents, .up _ .started hhandled⟩
  | @broken program k t stdin outs hquiet hhalted =>
      generalize hitems : outs.map Line.item = items at hs
      cases hs with
      | broken msg next _ _ _ _ e =>
          rw [← hitems]
          exact ⟨_, _, .cons (step_broken hquiet.main e) (.nil _), rfl,
            .broken _ stdin hquiet hhalted⟩
      | read next _ item items _ =>
          obtain ⟨l, ls, rfl, rfl, rfl⟩ := List.map_eq_cons_iff.mp hitems
          obtain ⟨es, hpath, hevents⟩ := path_read hquiet
          exact ⟨es, _, hpath, hevents, .broken _ stdin .started hhalted⟩
      | eof next _ _ _ =>
          obtain rfl := List.map_eq_nil_iff.mp hitems
          obtain ⟨es, hpath, hevents⟩ := path_eof hquiet
          exact ⟨es, _, hpath, hevents, .closed _ stdin hhalted⟩
      | timedOut next _ _ _ hopen duration htimeout =>
          rw [← hitems]
          obtain ⟨es, hpath, hevents⟩ := path_timedOut htimeout hquiet
          exact ⟨es, _, hpath, hevents, .broken _ stdin .started hhalted⟩
  | closed program stdin hhalted =>
      cases hs with
      | broken msg next _ _ _ _ e =>
          exact ⟨_, _, .cons (step_broken rfl e) (.nil _), rfl, .closed _ stdin hhalted⟩
      | eof next _ _ _ =>
          obtain ⟨es, hpath, hevents⟩ := path_closed
          exact ⟨es, _, hpath, hevents, .closed _ stdin hhalted⟩
      | timedOut next _ _ _ hopen duration htimeout => exact absurd rfl hopen

/-- The start of the system stands for the start of the conversation. -/
theorem Settled.start (M : Machine σ String Line) (timeout : Option Duration) (d : Dialogue ρ)
    (p : σ) : Settled M timeout (.start d timeout p) ⟨d, p, [], .up⟩ := by
  have hquiet : Quiet timeout [] ⟨some ⟨frames [], none⟩, none, timeout, .idle⟩ := .fresh
  exact .up d hquiet (Or.inr rfl)

/-- The system realises its conversations. -/
theorem realisation (env : Env) (encode : Json → Line) (M : Machine σ String Line)
    (timeout : Option Duration) (d : Dialogue ρ) (p : σ) :
    Realisation (conversation encode M timeout d p) (system env encode M d timeout p)
      SystemLabel.event? (Settled M timeout) where
  init _ hq := ⟨_, rfl, hq ▸ .start M timeout d p⟩
  step _ _ _ _ h hs := h.step hs

/-- A state that stands for a conversation has its program. -/
theorem Settled.program (h : Settled M timeout s q) : s.program = q.program := by
  cases h <;> rfl

/-- The interleavings of the two threads and the server have exactly the events of the
conversations, and they leave the program where the conversation does. So what a program sees
of the server never depends on when the threads run, only on what the server wrote, on
whether it stopped and on which waits ran out. -/
theorem interleavings_iff (env : Env) (encode : Json → Line) (M : Machine σ String Line)
    (timeout : Option Duration) (d : Dialogue ρ) (p : σ) (fs : List Event) (d' : Dialogue ρ) :
    (∃ es s, Run (system env encode M d timeout p) es s ∧ systemEvents es = fs ∧
        s.program = d') ↔
      ∃ q, Run (conversation encode M timeout d p) fs q ∧ q.program = d' := by
  constructor
  · rintro ⟨es, s, hrun, rfl, rfl⟩
    obtain ⟨q, hq, hr⟩ := run_refines hrun
    exact ⟨q, hq, hr.program⟩
  · rintro ⟨q, hq, rfl⟩
    obtain ⟨es, s, hrun, hevents, hsettled⟩ := (realisation env encode M timeout d p).run hq
    exact ⟨es, s, hrun, hevents, hsettled.program⟩

/-- A conversation that reaches a program gives an interleaving that reaches it. -/
theorem exists_run {d : Dialogue ρ} {p : σ} {fs : List Event}
    (h : Path (conversation encode M timeout d p) ⟨d, p, [], .up⟩ fs q) :
    ∃ es s, Run (system env encode M d timeout p) es s ∧ s.program = q.program := by
  have hinit : Run (conversation encode M timeout d p) [] ⟨d, p, [], .up⟩ := .init rfl
  obtain ⟨es, s, hrun, _, hsettled⟩ :=
    (realisation env encode M timeout d p).run (hinit.extend h)
  exact ⟨es, s, hrun, hsettled.program⟩

/-! ### The requests of a client -/

variable {id : UInt64} {method : String} {params : Json} {k k' : σ}

/-- A request to a server that answers it. -/
theorem path_request (next : Except McpError Json → Dialogue ρ) {reply : Line} {m : Json}
    (hreact : M.react k (encode (requestMsg id method params)).text = (k', [reply]))
    (hparse : parseItem env reply.item = .ok m) :
    ∃ fs, Path (conversation encode M timeout d p)
      ⟨Dialogue.request env timeout id method params next, k, [], .up⟩ fs
      ⟨next (checkResponse env id m), k', [], .up⟩ := by
  have hread : (finishRecv env timeout (.ok reply.item)).bind (checkResponse env id)
      = checkResponse env id m := by
    rw [finishRecv_ok hparse]
    rfl
  have hwrite : ConversationStep encode M timeout
      ⟨Dialogue.request env timeout id method params next, k, [], .up⟩
      (.write (requestMsg id method params) .ok)
      ⟨.read fun o => next ((finishRecv env timeout o).bind (checkResponse env id)), k',
        [reply.item], .up⟩ := by
    have hstep : ConversationStep encode M timeout
        ⟨Dialogue.request env timeout id method params next, k, [], .up⟩ _ _ :=
      .write (requestMsg id method params) _ k []
    rw [hreact] at hstep
    exact hstep
  rw [← hread]
  exact ⟨_, .cons hwrite (.cons (.read _ k' reply.item [] .up) (.nil _))⟩

/-- A request to a server that has stopped ends with a transport error. -/
theorem path_halted (next : Except McpError Json → Dialogue ρ) (hhalted : M.halted k = true) :
    ∃ fs e, Path (conversation encode M timeout d p)
      ⟨Dialogue.request env timeout id method params next, k, [], .up⟩ fs
      ⟨next (.error (.transport e)), k, [], .broken⟩ :=
  ⟨_, _, .cons (.broken _ _ k [] .up hhalted "Broken pipe (os error 32)") (.nil _)⟩

/-- The handshake with a server that accepts it. Its notification gets no reply. -/
theorem path_connect (next : Except McpError Unit → Dialogue ρ) {reply : Line} {m : Json} {l : σ}
    (hreact : M.react k (encode initializeRequest).text = (k', [reply]))
    (hparse : parseItem env reply.item = .ok m) (haccepts : AcceptsInitialize m)
    (hnotify : M.react k' (encode initializedNotification).text = (l, [])) :
    ∃ fs, Path (conversation encode M timeout d p)
      ⟨Dialogue.connect env timeout next, k, [], .up⟩ fs ⟨next (.ok ()), l, [], .up⟩ := by
  obtain ⟨result, hcheck, htest⟩ := accepted_checks haccepts
  obtain ⟨fs, hpath⟩ : ∃ fs, Path (conversation encode M timeout d p)
      ⟨Dialogue.connect env timeout next, k, [], .up⟩ fs ⟨_, k', [], .up⟩ :=
    path_request _ hreact hparse
  rw [hcheck] at hpath
  simp only [htest, Bool.false_eq_true, if_false] at hpath
  have hwrite : ConversationStep encode M timeout
      ⟨.write initializedNotification fun o => next (sendResult o), k', [], .up⟩ _ _ :=
    .write initializedNotification _ k' []
  rw [hnotify] at hwrite
  exact ⟨_, hpath.append (.cons hwrite (.nil _))⟩

/-! ### The weakest precondition -/

/-- What a state of the system must be when `post` is to hold of every result: a program that
is done met it, and a system that cannot go on has a program that is done. -/
def Fine (env : Env) (encode : Json → Line) (M : Machine σ String Line) (post : ρ → Prop)
    (s : SystemState σ ρ) : Prop :=
  (∀ r, s.program = .done r → post r) ∧
    ((∀ l s', ¬ SystemStep env encode M s l s') → ∃ r, s.program = .done r)

variable {post : ρ → Prop} {es : List SystemLabel}

/-- A wait that can hang is not fine. -/
theorem Settled.waits {q : Conversation σ ρ} (h : Settled M timeout s q)
    (hprogram : q.program = .read next) (hnone : q.pending = [])
    (hrun : Run (system env encode M d timeout p) es s)
    (hfine : ∀ es s, Run (system env encode M d timeout p) es s → Fine env encode M post s) :
    M.halted q.server = true ∨ timeout.isSome := by
  by_contra hhangs
  obtain ⟨hrunning, huntimed⟩ := not_or.mp hhangs
  obtain rfl := Option.not_isSome_iff_eq_none.mp huntimed
  cases h with
  | @up program k t stdin outs hquiet hhandled =>
      obtain rfl := hprogram
      obtain rfl := List.map_eq_nil_iff.mp hnone
      obtain rfl := hhandled.resolve_left hrunning
      -- One more step, and the program waits for nothing.
      have hwait := hrun.step (step_recv hquiet)
      obtain ⟨q, _, hr⟩ := run_refines hwait
      have hdeadlock : Deadlocked M (⟨.read next, reading none [] .waiting, [], some k⟩ :
          SystemState σ ρ) :=
        ⟨rfl, rfl, ⟨k, rfl, Bool.eq_false_iff.mpr hrunning⟩, rfl, rfl, items_frames []⟩
      obtain ⟨r, hdone⟩ := (hfine _ _ hwait).2 fun l s' => hr.stuck_of_deadlocked hdeadlock
      cases hdone
  | broken program stdin hquiet hhalted => exact hrunning hhalted
  | closed program stdin hhalted => exact hrunning hhalted

/-- When every run from a settled state is fine, the precondition holds there. -/
theorem Settled.wp {d' : Dialogue ρ} {k : σ} {items : List Item} {link : Link}
    (h : Settled M timeout s ⟨d', k, items, link⟩)
    (hrun : Run (system env encode M d timeout p) es s)
    (hfine : ∀ es s, Run (system env encode M d timeout p) es s → Fine env encode M post s) :
    d'.wp encode M timeout (fun r _ => post r) k items link := by
  induction d' generalizing s es k items link with
  | done r => exact (hfine _ _ hrun).1 r h.program
  | write msg next ih =>
      refine ⟨fun hup => ?_, fun hhalted e => ?_⟩
      · subst hup
        obtain ⟨fs, s', hpath, _, hsettled⟩ := h.step (.write msg next k items)
        exact ih _ hsettled (hrun.extend hpath)
      · obtain ⟨fs, s', hpath, _, hsettled⟩ := h.step (.broken msg next k items link hhalted e)
        exact ih _ hsettled (hrun.extend hpath)
  | read next ih =>
      have hlate : timeout.isSome → link ≠ .closed →
          (next (.error .timeout)).wp encode M timeout (fun r _ => post r) k items link := by
        intro hsome hopen
        obtain ⟨duration, htimeout⟩ := Option.isSome_iff_exists.mp hsome
        obtain ⟨fs, s', hpath, _, hsettled⟩ :=
          h.step (.timedOut next k items link hopen duration htimeout)
        exact ih _ hsettled (hrun.extend hpath)
      cases items with
      | cons item items =>
          obtain ⟨fs, s', hpath, _, hsettled⟩ := h.step (.read next k item items link)
          exact ⟨ih _ hsettled (hrun.extend hpath), hlate⟩
      | nil =>
          refine ⟨h.waits rfl rfl hrun hfine, fun hhalted => ?_, hlate⟩
          obtain ⟨fs, s', hpath, _, hsettled⟩ := h.step (.eof next k link hhalted)
          exact ih _ hsettled (hrun.extend hpath)

end OrgCli.Mcp
