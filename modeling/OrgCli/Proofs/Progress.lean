import OrgCli.Proofs.System

/-!
# `OrgCli.Proofs.Progress`: where the system stops, and when

Two facts about every run. `Refines.stuck_cases` says where the system can stop: the program is
done, or it waits without a timeout for a server that has handled all of its input and has
nothing more to say. `run_length_le` bounds the length of a run by the number of its events, so
the threads and the server do not run forever between two calls. Together they say that a
program which asks only what its server answers comes to its end.

The pipes of the system take whatever is written to them, so a `send` never blocks here.
`Proofs/Blocking.lean` says what a bounded pipe adds.

The bound is a potential (`SystemState.weight`). A line weighs most in the stdin pipe, since
the server may make lines of it, and less in the stdout pipe and in the reader's hands.
-/

set_option autoImplicit false

namespace OrgCli.Mcp

open OrgCli.Support
open OrgCli.Mcp.Reader (newline Handle ChildStdout Pc)

variable {σ ρ : Type} {env : Env} {encode : Json → Line} {M : Machine σ String Line}
  {timeout : Option Duration} {d : Dialogue ρ} {p : σ} {es : List SystemLabel}
  {s s' : SystemState σ ρ} {q : Conversation σ ρ} {l : SystemLabel}

/-! ### Where the system stops -/

/-- A thread that is not gone can take a step. -/
theorem step_of_ne_finished {h : Handle} (hpc : h.pc ≠ .finished) : ∃ h', h.step = some h' := by
  obtain ⟨rx, stdout, pc⟩ := h
  unfold Handle.step
  cases pc with
  | reading =>
      simp only
      split <;> exact ⟨_, rfl⟩
  | sending item =>
      cases item with
      | ok text =>
          simp only
          split <;> exact ⟨_, rfl⟩
      | error e => exact ⟨_, rfl⟩
  | exiting => exact ⟨_, rfl⟩
  | finished => exact absurd rfl hpc

/-- A server that cannot step is gone, or it runs and its stdin is empty. -/
theorem Refines.server_stuck (hr : Refines M timeout s q)
    (hstuck : ∀ s', ¬ SystemStep env encode M s .server s') {p : σ} (hserver : s.server = some p) :
    M.halted p = false ∧ s.stdin = [] := by
  have hrunning : M.halted p = false := by
    cases hhalted : M.halted p with
    | true => exact absurd (.exit hserver hhalted) (hstuck _)
    | false => rfl
  obtain ⟨owed, hahead, _⟩ := hr.ahead
  rw [hserver] at hahead
  obtain ⟨ls, hstdin⟩ := hahead.stdin_eq
  cases ls with
  | nil => exact ⟨hrunning, hstdin⟩
  | cons line ls => exact absurd (.serve hserver hrunning hstdin) (hstuck _)

/-- A wait that cannot end has no timeout, and its channel is empty and open. -/
theorem wait_stuck {t : Reader.State} (hmain : t.main = .waiting) {h : Handle}
    (hreader : t.reader = some h)
    (hstuck : ∀ o r t', ¬ Reader.Step env t (.recvReturn o r) t') :
    t.timeout = none ∧ h.rx.Pending := by
  have hqueue : h.rx.queue = [] := by
    cases hqueue : h.rx.queue with
    | nil => rfl
    | cons item rest =>
        have htake : h.rx.take? = some (item, { h.rx with queue := rest }) :=
          Channel.take?_eq_some_iff.mpr ⟨hqueue, rfl⟩
        exact absurd (.taken hmain hreader htake) (hstuck _ _ _)
  have hsender : h.rx.sender = true := by
    cases hsender : h.rx.sender with
    | true => rfl
    | false =>
        have hclosed : h.rx.Closed := ⟨hqueue, hsender⟩
        exact absurd (.closed hmain hreader hclosed) (hstuck _ _ _)
  refine ⟨?_, hqueue, hsender⟩
  cases htimeout : t.timeout with
  | none => rfl
  | some d =>
      have hpending : h.rx.Pending := ⟨hqueue, hsender⟩
      exact absurd (.timedOut hmain hreader htimeout hpending) (hstuck _ _ _)

/-- The system waits for nothing: the program is in a `recv` without a timeout, the server
runs, and every line that was written has arrived. -/
structure Deadlocked (M : Machine σ String Line) (s : SystemState σ ρ) : Prop where
  waiting : s.transport.main = .waiting
  untimed : s.transport.timeout = none
  running : ∃ p, s.server = some p ∧ M.halted p = false
  handled : s.stdin = []
  delivered : s.transport.queued = [] ∧ s.transport.unread = []

/-- The system stops only at the end of its program, or where the program waits for nothing. -/
theorem Refines.stuck_cases (hr : Refines M timeout s q)
    (hstuck : ∀ l s', ¬ SystemStep env encode M s l s') :
    (∃ r, s.program = .done r) ∨ Deadlocked M s := by
  obtain ⟨outs, hflowing⟩ := hr.flowing
  -- A program that does not read is not in a wait.
  have hidle : (∀ next, s.program ≠ .read next) → s.transport.main = .idle := by
    intro hne
    cases hmain : s.transport.main with
    | idle => rfl
    | waiting =>
        obtain ⟨next, hnext⟩ := hr.reading hmain
        exact absurd hnext (hne next)
    | panicked => exact absurd hmain hflowing.running
  cases hprogram : s.program with
  | done r => exact Or.inl ⟨r, rfl⟩
  | write msg next =>
      -- The write succeeds or fails, and either is a step.
      have hmain := hidle (by simp [hprogram])
      cases hserver : s.server with
      | some p =>
          have halive : s.server.isSome := by simp [hserver]
          exact absurd (.write hprogram (.send hmain msg .ok) halive) (hstuck _ _)
      | none =>
          exact absurd (.broken hprogram "" (.send hmain msg _) hserver) (hstuck _ _)
  | read next =>
      right
      cases hmain : s.transport.main with
      | idle => exact absurd (.recv hprogram (.recv hmain)) (hstuck _ _)
      | panicked => exact absurd hmain hflowing.running
      | waiting =>
          obtain ⟨h, hreader⟩ := Option.isSome_iff_exists.mp (hflowing.waiting hmain)
          obtain ⟨huntimed, hpending⟩ := wait_stuck hmain hreader fun o r t' hcall =>
            hstuck _ _ (.recvReturn hprogram hcall)
          -- The sender is there, so the thread is, and it blocks in an empty pipe.
          have hne : h.pc ≠ .finished := by
            intro hpc
            have hsender := (hflowing.connected h hreader).sender.mpr hpc
            rw [hpending.2] at hsender
            cases hsender
          obtain ⟨h', hstep⟩ := step_of_ne_finished hne
          have hblocked : ¬ Ready s.server h := by
            intro hready
            exact hstuck _ _ (.reader hreader hready hstep)
          obtain ⟨hpc, hblocked⟩ := Classical.not_imp.mp hblocked
          obtain ⟨hline, halive⟩ := not_or.mp hblocked
          obtain ⟨p, hserver⟩ := Option.ne_none_iff_exists'.mp halive
          obtain ⟨hrunning, hstdin⟩ := hr.server_stuck (fun s' => hstuck _ s') hserver
          have houts : outs = [] := by
            cases outs with
            | nil => rfl
            | cons line outs =>
                rw [hflowing.piped h hreader] at hline
                simp [Line.bytes] at hline
          refine ⟨hmain, huntimed, ⟨p, hserver, hrunning⟩, hstdin, ?_, ?_⟩
          · simp [Reader.State.queued, hreader, hpending.1]
          · rw [hflowing.unread_eq, houts]
            simp [Reader.State.held, hreader, hpc]

/-- Where the program waits for nothing, no step is possible. -/
theorem Refines.stuck_of_deadlocked (hr : Refines M timeout s q) (h : Deadlocked M s) :
    ¬ SystemStep env encode M s l s' := by
  intro hs
  obtain ⟨hmain, huntimed, ⟨p, hserver, hrunning⟩, hhandled, hqueued, hunread⟩ := h
  obtain ⟨next, hread⟩ := hr.reading hmain
  obtain ⟨outs, hflowing⟩ := hr.flowing
  have halive : s.server ≠ none := by simp [hserver]
  obtain ⟨hheld, houts⟩ := List.append_eq_nil_iff.mp (hflowing.unread_eq.symm.trans hunread)
  obtain rfl := List.map_eq_nil_iff.mp houts
  -- The process is there, so the thread is in its loop.
  have hloop : ∀ h, s.transport.reader = some h → h.pc ≠ .exiting ∧ h.pc ≠ .finished :=
    fun h hreader => ⟨fun hpc => halive (hflowing.ended h hreader (Or.inl hpc)).1,
      fun hpc => halive (hflowing.ended h hreader (Or.inr hpc)).1⟩
  cases hs with
  | write hprogram hcall hserver => cases hread.symm.trans hprogram
  | broken hprogram e hcall hserver => cases hread.symm.trans hprogram
  | recv hprogram hcall => cases hcall with | recv hidle => cases hmain.symm.trans hidle
  | recvReturn hprogram hcall =>
      cases hcall with
      | taken hwaiting hreader htake =>
          rw [Reader.State.queued, hreader] at hqueued
          have hqueue := (Channel.take?_eq_some_iff.mp htake).1
          exact List.cons_ne_nil _ _ (hqueue.symm.trans hqueued)
      | closed hwaiting hreader hclosed =>
          have hfinished := (hflowing.connected _ hreader).sender.mp hclosed.2
          exact (hloop _ hreader).2 hfinished
      | timedOut hwaiting hreader htimeout hpending => cases huntimed.symm.trans htimeout
  | @reader h h' hreader hready hstep =>
      cases hpc : h.pc with
      | reading =>
          rcases hready hpc with hline | hgone
          · rw [hflowing.piped h hreader] at hline
            cases hline
          · exact halive hgone
      | sending item =>
          rw [Reader.State.held, hreader] at hheld
          simp only [hpc] at hheld
          cases hheld
      | exiting => exact (hloop h hreader).1 hpc
      | finished => exact (hloop h hreader).2 hpc
  | serve hserver hrunning hstdin =>
      have hlength := congrArg List.length (hhandled.symm.trans hstdin)
      simp [Line.bytes] at hlength
  | exit hexit hhalted =>
      obtain rfl := Option.some.inj (hserver.symm.trans hexit)
      rw [hrunning] at hhalted
      cases hhalted

/-! ### How long the system runs -/

/-- The lines in a pipe. -/
def lineCount (bytes : List UInt8) : Nat := bytes.count newline

@[simp] theorem lineCount_append (as bs : List UInt8) :
    lineCount (as ++ bs) = lineCount as + lineCount bs := List.count_append

@[simp] theorem lineCount_bytes (l : Line) : lineCount l.bytes = 1 := by
  unfold lineCount Line.bytes
  rw [List.count_append, List.count_eq_zero.mpr l.single]
  rfl

@[simp] theorem lineCount_frames (ls : List Line) : lineCount (frames ls) = ls.length := by
  induction ls with
  | nil => rfl
  | cons l ls ih =>
      rw [frames_cons, lineCount_append, lineCount_bytes, ih, List.length_cons]
      omega

/-- The weight of the place where the reader thread is. -/
def Reader.Pc.weight : Pc → Nat
  | .finished => 0
  | .exiting => 1
  | .reading => 2
  | .sending _ => 3

/-- The weight of a reader thread and its pipe. -/
def Reader.Handle.weight (h : Handle) : Nat := 2 * lineCount h.stdout.bytes + h.pc.weight

/-- The weight of a transport. A thread that is not there yet weighs like a new one. -/
def Reader.State.weight (t : Reader.State) : Nat :=
  match t.reader with
  | some h => h.weight
  | none => 2 * lineCount ((t.stdout.map (·.bytes)).getD []) + 2

/-- The program is about to start a wait. -/
def SystemState.callWeight (s : SystemState σ ρ) : Nat :=
  match s.program, s.transport.main with
  | .read _, .idle => 1
  | _, _ => 0

/-- The potential of a state, when a server makes at most `b` lines of one. -/
def SystemState.weight (b : Nat) (s : SystemState σ ρ) : Nat :=
  (2 * b + 1) * lineCount s.stdin + s.transport.weight + s.callWeight
    + (if s.server.isSome then 1 else 0)

/-- What a label pays: only the events do. -/
def SystemLabel.pay (b : Nat) (l : SystemLabel) : Nat :=
  if l.event?.isSome then 2 * b + 3 else 0

/-- A call weighs at most one. -/
theorem callWeight_le (s : SystemState σ ρ) : s.callWeight ≤ 1 := by
  unfold SystemState.callWeight
  split <;> omega

/-- A step of the reader thread lowers its weight. -/
theorem Moved.weight {h h' : Handle} {outs outs' : List Line} (hmoved : Moved h outs h' outs') :
    h'.weight + 1 ≤ h.weight := by
  cases hmoved with
  | line rx l ls =>
      simp only [Reader.Handle.weight, lineCount_frames, List.length_cons, Reader.Pc.weight]
      omega
  | eof | sent | dropped => simp [Reader.Handle.weight, Reader.Pc.weight]

/-- The first `recv` only moves the pipe. -/
theorem startRecv_weight (t : Reader.State) (howner : t.stdout.isSome = t.reader.isNone) :
    t.startRecv.weight = t.weight := by
  obtain ⟨stdout, reader, timeout, main⟩ := t
  cases reader with
  | some h => rfl
  | none =>
      obtain ⟨out, hout⟩ := Option.isSome_iff_exists.mp howner
      obtain rfl := hout
      rfl

/-- Each line that the server writes weighs two. -/
theorem append_weight (t : Reader.State) (howner : t.stdout.isSome = t.reader.isNone)
    (ms : List Line) : (t.append (frames ms)).weight = t.weight + 2 * ms.length := by
  obtain ⟨stdout, reader, timeout, main⟩ := t
  cases reader with
  | some h =>
      show 2 * lineCount (h.stdout.bytes ++ frames ms) + h.pc.weight
        = 2 * lineCount h.stdout.bytes + h.pc.weight + 2 * ms.length
      rw [lineCount_append, lineCount_frames]
      omega
  | none =>
      obtain ⟨out, hout⟩ := Option.isSome_iff_exists.mp howner
      obtain rfl := hout
      show 2 * lineCount (out.bytes ++ frames ms) + 2 = 2 * lineCount out.bytes + 2 + 2 * ms.length
      rw [lineCount_append, lineCount_frames]
      omega

/-- Each step lowers the potential, apart from what its event pays. -/
theorem Refines.weight_step {b : Nat} (hb : ∀ p text, (M.handle p text).2.length ≤ b)
    (hr : Refines M timeout s q) (hs : SystemStep env encode M s l s') :
    s'.weight b + 1 ≤ s.weight b + l.pay b := by
  obtain ⟨outs, hflowing⟩ := hr.flowing
  have hcall := callWeight_le s'
  unfold SystemState.weight
  cases hs with
  | @write msg next hprogram t hsend hserver =>
      cases hsend with
      | send hmain msg outcome =>
          simp only [lineCount_append, lineCount_bytes] at hcall ⊢
          have hpay : SystemLabel.pay b (.client (.send msg .ok)) = 2 * b + 3 := rfl
          rw [hpay, Nat.mul_add]
          omega
  | @broken msg next hprogram t e hsend hserver =>
      cases hsend with
      | send hmain msg outcome =>
          have hpay : SystemLabel.pay b (.client (.send msg (.writeError e))) = 2 * b + 3 := rfl
          rw [hpay]
          simp only at hcall ⊢
          omega
  | @recv next hprogram t hrecv =>
      cases hrecv with
      | recv hmain =>
          have hweight := startRecv_weight s.transport hflowing.owner
          have hwaiting := hflowing.startRecv.2.1
          have hbefore : s.callWeight = 1 := by
            unfold SystemState.callWeight
            rw [hprogram, hmain]
          have hafter :
              SystemState.callWeight { s with transport := s.transport.startRecv } = 0 := by
            unfold SystemState.callWeight
            simp only [hprogram, hwaiting]
          simp only [hweight, hbefore, hafter]
          omega
  | @recvReturn next hprogram o r t hreturn =>
      have hpay : SystemLabel.pay b (.client (.recvReturn o r)) = 2 * b + 3 := rfl
      have hweight : t.weight = s.transport.weight := by
        cases hreturn with
        | taken hmain hreader htake =>
            unfold Reader.State.weight
            rw [hreader]
            rfl
        | closed | timedOut => rfl
      rw [hpay]
      simp only [hweight] at hcall ⊢
      omega
  | @reader h h' hreader hready hstep =>
      obtain ⟨outs', hmoved⟩ := hflowing.moved hreader hstep
      have hweight : s.transport.weight = h.weight := by
        unfold Reader.State.weight
        rw [hreader]
      have hweight' : Reader.State.weight { s.transport with reader := some h' } = h'.weight := rfl
      have hsame : SystemState.callWeight
          { s with transport := { s.transport with reader := some h' } } = s.callWeight := rfl
      have hlower := hmoved.weight
      simp only [hweight, hweight', hsame]
      omega
  | @serve p hserver hrunning line rest hstdin =>
      have hweight := append_weight s.transport hflowing.owner (M.handle p line.text).2
      have hbound := hb p line.text
      have hsame : SystemState.callWeight
          { s with
            transport := s.transport.append (frames (M.handle p line.text).2)
            stdin := rest
            server := some (M.handle p line.text).1 } = s.callWeight := rfl
      simp only [hweight, hsame, hstdin, lineCount_append, lineCount_bytes, hserver,
        Option.isSome_some, if_true]
      rw [Nat.mul_add]
      omega
  | exit hserver hhalted =>
      have hsame : SystemState.callWeight { s with server := (none : Option σ) } = s.callWeight :=
        rfl
      simp [hsame, hserver]

/-- The number of steps is bounded by the number of events. -/
theorem length_le_events {b : Nat} (hb : ∀ p text, (M.handle p text).2.length ≤ b)
    (h : Run (system env encode M d timeout p) es s) :
    es.length ≤ (2 * b + 3) * (systemEvents es).length + 4 := by
  have hstart : ∀ s, (system env encode M d timeout p).init s → s.weight b ≤ 4 := by
    intro s hs
    rw [show s = .start d timeout p from hs]
    have hcall := callWeight_le (SystemState.start d timeout p)
    show (2 * b + 1) * 0 + 2 + (SystemState.start d timeout p).callWeight + 1 ≤ 4
    omega
  have hlength : es.length + s.weight b ≤ 4 + (es.map (SystemLabel.pay b)).sum := by
    refine h.length_le hstart fun es s l s' hrun hs => ?_
    obtain ⟨q, _, hr⟩ := run_refines hrun
    exact hr.weight_step hb hs
  have hpay : (es.map (SystemLabel.pay b)).sum = (2 * b + 3) * (systemEvents es).length := by
    clear h hlength
    induction es with
    | nil => rfl
    | cons l es ih =>
        unfold systemEvents at ih ⊢
        rw [List.map_cons, List.sum_cons, ih, List.filterMap_cons]
        cases hl : l.event? with
        | none => simp [SystemLabel.pay, hl]
        | some e =>
            simp only [SystemLabel.pay, hl, List.length_cons]
            simp only [Option.isSome_some, if_true]
            rw [Nat.mul_add]
            omega
  rw [hpay] at hlength
  omega

/-- A program makes at most `n` calls, whatever they give. -/
def Dialogue.CallsWithin : Nat → Dialogue ρ → Prop
  | _, .done _ => True
  | 0, .write _ _ | 0, .read _ => False
  | n + 1, .write _ next => ∀ o, (next o).CallsWithin n
  | n + 1, .read next => ∀ o, (next o).CallsWithin n

/-- Each event of a conversation is a call. -/
theorem events_le {n : Nat} (hcalls : d.CallsWithin n) {fs : List Event}
    (h : Run (conversation encode M timeout d p) fs q) :
    ∃ m, q.program.CallsWithin m ∧ fs.length + m ≤ n := by
  induction h with
  | init h =>
      obtain rfl := h
      exact ⟨n, hcalls, by simp⟩
  | step hrun hs ih =>
      obtain ⟨m, hm, hle⟩ := ih
      -- A call is left, and the step makes it.
      cases hs <;> cases m <;> first
        | exact absurd hm id
        | exact ⟨_, hm _, by simp only [List.length_append, List.length_singleton]; omega⟩

/-- A larger bound is a bound. -/
theorem Dialogue.CallsWithin.succ {n : Nat} {d : Dialogue ρ} (h : d.CallsWithin n) :
    d.CallsWithin (n + 1) := by
  induction n generalizing d with
  | zero =>
      cases d with
      | done r => trivial
      | write msg next => exact absurd h id
      | read next => exact absurd h id
  | succ n ih =>
      cases d with
      | done r => trivial
      | write msg next => exact fun o => ih (h o)
      | read next => exact fun o => ih (h o)

/-- A request makes two calls. -/
theorem request_calls {n : Nat} {id : UInt64} {method : String} {params : Json}
    {next : Except McpError Json → Dialogue ρ} (h : ∀ r, (next r).CallsWithin n) :
    (Dialogue.request env timeout id method params next).CallsWithin (n + 2) := by
  intro o
  simp only
  split
  · exact (h _).succ
  · exact fun o => h _

/-- A handshake makes three. -/
theorem connect_calls {n : Nat} {next : Except McpError Unit → Dialogue ρ}
    (h : ∀ r, (next r).CallsWithin n) :
    (Dialogue.connect env timeout next).CallsWithin (n + 3) := by
  refine request_calls fun r => ?_
  split
  · exact (h _).succ
  · split
    · exact (h _).succ
    · exact fun o => h _

/-- A program that makes at most `n` calls comes to rest after a bounded number of steps, on
every server that writes at most `b` lines for one. So the threads and the server never run
forever between two calls. -/
theorem run_length_le (env : Env) (encode : Json → Line) (M : Machine σ String Line)
    (timeout : Option Duration) (d : Dialogue ρ) (p : σ) (es : List SystemLabel)
    (s : SystemState σ ρ) (h : Run (system env encode M d timeout p) es s) (n b : Nat)
    (hcalls : d.CallsWithin n) (hlines : ∀ p text, (M.handle p text).2.length ≤ b) :
    es.length ≤ (2 * b + 3) * n + 4 := by
  obtain ⟨q, hrun, _⟩ := run_refines h
  obtain ⟨m, _, hevents⟩ := events_le hcalls hrun
  have hlength := length_le_events hlines h
  have hmul := Nat.mul_le_mul_left (2 * b + 3) (show (systemEvents es).length ≤ n by omega)
  omega

/-- A question to a server that answers with one line is over after fourteen steps. -/
theorem run_length_le_asked : askRun.length ≤ (2 * 1 + 3) * 2 + 4 := by
  obtain ⟨s, hrun, _⟩ := askRun_reaches
  exact run_length_le _ _ _ _ _ _ _ _ hrun 2 1 (fun _ _ => trivial) fun _ _ => Nat.le_refl 1

end OrgCli.Mcp
