import OrgCli.Proofs.Pipes
import OrgCli.Proofs.Progress

/-!
# `OrgCli.Proofs.Blocking`: where the system stops over bounded pipes

Over pipes that take everything the system stops at the end of its program, or where the program
waits for nothing (`Refines.stuck_cases`). A bounded pipe adds one more place: a `send` blocks when
the stdin pipe is full and nobody reads it, and no timeout ends it. `piped_stuck` says why nobody
reads it (`NotReading`). The server is deaf, or it is itself blocked on a full stdout pipe, which
needs that no `recv` has started the reader thread.
-/

set_option autoImplicit false

namespace OrgCli.Mcp

open OrgCli.Support
open OrgCli.Mcp.Reader (newline Handle)

variable {cap : Capacity} {σ ρ : Type} {env : Env} {encode : Json → Line}
  {M : Machine σ String Line} {deaf : σ → Bool} {timeout : Option Duration}
  {w w' : PipedState cap σ ρ} {s : SystemState σ ρ} {q : Conversation σ ρ}

/-- Why the server does not read its stdin. -/
inductive NotReading (deaf : σ → Bool) (w : PipedState cap σ ρ) (k : Process σ) : Prop
  | deaf (hdeaf : deaf k.state = true)
  /-- The server cannot write its output: the pipe is full, and there is no reader thread. -/
  | clogged (houtput : k.output ≠ []) (hfull : w.stdout.Full)
      (hreader : w.transport.reader = none)

/-- The program is in a `recv` without a timeout, and the server runs, has handled every line
that was written, and has nothing more to say. -/
structure Starved (M : Machine σ String Line) (w : PipedState cap σ ρ) : Prop where
  waiting : w.transport.main = .waiting
  untimed : w.transport.timeout = none
  running : ∃ p, w.server = some ⟨p, [], []⟩ ∧ M.halted p = false
  handled : w.stdin.held = []
  delivered : w.stdout.held = [] ∧ w.transport.queued = [] ∧ w.transport.unread = []

/-- A thread that cannot step, and is not gone, has read all that is in the pipe, and there is
no complete line. The server is not gone either. -/
theorem thread_stuck {h : Handle} (hreader : w.transport.reader = some h)
    (hpc : h.pc ≠ .finished) (hstuck : ∀ l w', ¬ PipedStep env encode M deaf w l w') :
    h.pc = .reading ∧ newline ∉ h.stdout.bytes ∧ w.stdout.held = [] ∧ w.server ≠ none := by
  obtain ⟨h', hstep⟩ := step_of_ne_finished hpc
  have hblocked : ¬ w.Ready h := by
    intro hready
    exact hstuck _ _ (.reader hreader hready hstep)
  obtain ⟨hreading, hblocked⟩ := Classical.not_imp.mp hblocked
  obtain ⟨hline, halive⟩ := not_or.mp hblocked
  have hheld : w.stdout.held = [] := by
    by_contra hne
    obtain ⟨pipe, htakes, _⟩ := Pipe.exists_takes hne
    exact hstuck _ _ (.fill hreader hreading hline htakes)
  exact ⟨hreading, hline, hheld, fun hserver => halive ⟨hserver, hheld⟩⟩

/-- A server whose buffer has a newline has a line in it. -/
theorem Unpiped.input_line (hu : Unpiped encode w s) (hr : Refines M timeout s q)
    {k : Process σ} (hserver : w.server = some k) (hline : newline ∈ k.input) :
    ∃ (l : Line) (rest : List UInt8), k.input = l.bytes ++ rest := by
  obtain ⟨hstate, hinput⟩ := hu.alive k hserver
  obtain ⟨owed, hahead, _⟩ := hr.ahead
  rw [hstate] at hahead
  obtain ⟨ls, hstdin⟩ := hahead.stdin_eq
  rw [hstdin] at hinput
  cases ls with
  | nil =>
      -- There is only a part of a message, and it has no newline.
      have hmem : newline ∈ w.written := by
        rw [← List.nil_append w.written, ← frames_nil, ← hinput]
        exact List.mem_append_left _ hline
      exact absurd hmem hu.no_newline
  | cons l ls =>
      rw [frames_cons, List.append_assoc, l.bytes_append] at hinput
      obtain ⟨cs, hcs, _⟩ := eq_append_of_mem newline l.single hline hinput
      rw [← l.bytes_append] at hcs
      exact ⟨l, cs, hcs⟩

/-- A server that cannot step does not read its stdin, or it has read and handled all of it. -/
theorem Unpiped.server_stuck (hu : Unpiped encode w s) (hr : Refines M timeout s q)
    (hstuck : ∀ l w', ¬ PipedStep env encode M deaf w l w') {k : Process σ}
    (hserver : w.server = some k) :
    NotReading deaf w k ∨
      (k.Listens M deaf ∧ newline ∉ k.input ∧ w.stdin.held = []) := by
  obtain ⟨hstate, _⟩ := hu.alive k hserver
  obtain ⟨outs, hflowing⟩ := hr.flowing
  by_cases houtput : k.output = []
  · by_cases hdeaf : deaf k.state = true
    · exact Or.inl (.deaf hdeaf)
    have hrunning : M.halted k.state = false := by
      cases hhalted : M.halted k.state with
      | true => exact absurd (.exit hserver hhalted houtput) (hstuck _ _)
      | false => rfl
    have hlistens : k.Listens M deaf := ⟨hrunning, Bool.eq_false_iff.mpr hdeaf, houtput⟩
    refine Or.inr ⟨hlistens, fun hline => ?_, ?_⟩
    · obtain ⟨l, rest, hinput⟩ := hu.input_line hr hserver hline
      exact hstuck _ _ (.serve hserver hlistens hinput)
    · by_contra hne
      obtain ⟨pipe, htakes, _⟩ := Pipe.exists_takes hne
      exact hstuck _ _ (.take hserver hlistens htakes)
  · obtain ⟨b, rest, hbytes⟩ := List.exists_cons_of_ne_nil houtput
    have hfull : w.stdout.Full := by
      by_contra hroom
      obtain ⟨pipe, hputs⟩ := Pipe.exists_puts hroom b
      exact hstuck _ _ (.flush hserver hbytes hputs)
    refine Or.inl (.clogged houtput hfull ?_)
    -- A reader thread would empty the pipe.
    cases hreader : w.transport.reader with
    | none => rfl
    | some h =>
        have hpc : h.pc ≠ .finished := by
          intro hpc
          have hgone := (hflowing.ended _ (hu.reader hreader) (Or.inr hpc)).1
          rw [hstate] at hgone
          cases hgone
        exact absurd (thread_stuck hreader hpc hstuck).2.2.1 hfull.held_ne

/-- A `send` that cannot go on has a full pipe in front of it. -/
theorem Unpiped.send_stuck (hu : Unpiped encode w s)
    (hstuck : ∀ l w', ¬ PipedStep env encode M deaf w l w') {msg : Json}
    {next : WriteOutcome → Dialogue ρ} (hprogram : w.program = .write msg next)
    (hidle : w.transport.main = .idle) {k : Process σ} (hserver : w.server = some k) :
    w.stdin.Full := by
  by_contra hroom
  have halive : w.server.isSome := by simp [hserver]
  -- What is left of the message starts with some byte.
  obtain ⟨b, rest, hbytes⟩ : ∃ b rest, (encode msg).bytes = w.written ++ [b] ++ rest := by
    rcases hu.unfinished with hnil | ⟨msg', _, rest, hwrite, hne, hbytes⟩
    · obtain ⟨b, rest, hbytes⟩ := List.exists_cons_of_ne_nil
        (show (encode msg).bytes ≠ [] by simp [Line.bytes])
      exact ⟨b, rest, by rw [hbytes, hnil]; rfl⟩
    · cases hprogram.symm.trans hwrite
      obtain ⟨b, rest, rfl⟩ := List.exists_cons_of_ne_nil hne
      exact ⟨b, rest, by rw [hbytes]; simp⟩
  obtain ⟨pipe, hputs⟩ := Pipe.exists_puts hroom b
  cases rest with
  | nil =>
      rw [List.append_nil] at hbytes
      exact hstuck _ _ (.write hprogram (.send hidle msg .ok) halive hbytes hputs)
  | cons c rest => exact hstuck _ _ (.push hprogram halive hbytes (List.cons_ne_nil c rest) hputs)

/-- A wait that cannot go on has no timeout. The server does not read its stdin, or the program
waits for nothing. -/
theorem Unpiped.wait_stuck (hu : Unpiped encode w s) (hr : Refines M timeout s q)
    (hstuck : ∀ l w', ¬ PipedStep env encode M deaf w l w')
    {next : Except RecvTimeoutError Item → Dialogue ρ} (hprogram : w.program = .read next)
    (hmain : w.transport.main = .waiting) :
    w.transport.timeout = none ∧
      ((∃ k, w.server = some k ∧ NotReading deaf w k) ∨ Starved M w) := by
  obtain ⟨outs, hflowing⟩ := hr.flowing
  have htransport := hu.transport
  have hsome : w.transport.reader.isSome := by
    have hwaiting := hflowing.waiting (by rw [htransport]; exact hmain)
    simpa [htransport, Reader.State.append] using hwaiting
  obtain ⟨h, hreader⟩ := Option.isSome_iff_exists.mp hsome
  have hmore := hu.reader hreader
  obtain ⟨huntimed, hqueue, hsender⟩ := Mcp.wait_stuck hmain hreader fun o r t' hcall =>
    hstuck _ _ (.recvReturn hprogram hcall)
  refine ⟨huntimed, ?_⟩
  -- The sender is there, so the thread is, and it blocks in an empty pipe.
  have hne : h.pc ≠ .finished := by
    intro hpc
    have hgone := (hflowing.connected _ hmore).sender.mpr hpc
    rw [show (h.append (w.stdout.held ++ w.output)).rx.sender = true from hsender] at hgone
    cases hgone
  obtain ⟨hreading, hline, hheld, halive⟩ := thread_stuck hreader hne hstuck
  obtain ⟨k, hserver⟩ := Option.ne_none_iff_exists'.mp halive
  rcases hu.server_stuck hr hstuck hserver with hnot | ⟨hlistens, hcomplete, hstdin⟩
  · exact Or.inl ⟨k, hserver, hnot⟩
  right
  obtain ⟨state, input, output⟩ := k
  obtain rfl : output = [] := hlistens.flushed
  have hall : w.stdout.held ++ w.output = [] := by
    rw [hheld, PipedState.output_eq hserver]
    rfl
  rw [hall] at hmore htransport
  rw [Reader.Handle.append_nil] at hmore
  rw [Reader.State.append_nil] at htransport
  have houts : outs = [] := by
    cases outs with
    | nil => rfl
    | cons line outs =>
        rw [hflowing.piped h hmore] at hline
        simp [Line.bytes] at hline
  have hinput : input = [] := by
    -- Nothing is written of the next message, and what was written is handled.
    have hnil := hu.unwritten hprogram
    by_contra hne
    obtain ⟨hstate, hbytes⟩ := hu.alive _ hserver
    obtain ⟨owed, hahead, _⟩ := hr.ahead
    rw [hstate] at hahead
    obtain ⟨ls, hls⟩ := hahead.stdin_eq
    rw [hnil, hstdin, List.append_nil, List.append_nil, hls] at hbytes
    cases ls with
    | nil => exact hne hbytes
    | cons l ls =>
        rw [show input = frames (l :: ls) from hbytes] at hcomplete
        simp [Line.bytes] at hcomplete
  subst hinput
  refine ⟨hmain, huntimed, ⟨state, hserver, hlistens.running⟩, hstdin, hheld, ?_, ?_⟩
  · simp [Reader.State.queued, hreader, hqueue]
  · rw [← htransport, hflowing.unread_eq, houts]
    simp [Reader.State.held, hmore, hreading]

/-- Where nothing can go on, the program is done, or it waits for nothing, or it is in a call to
a server that does not read its stdin. -/
theorem Unpiped.stuck_cases (hu : Unpiped encode w s) (hr : Refines M timeout s q)
    (hstuck : ∀ l w', ¬ PipedStep env encode M deaf w l w') :
    (∃ r, w.program = .done r) ∨ (timeout = none ∧ Starved M w) ∨
      ∃ k, w.server = some k ∧ NotReading deaf w k ∧
        ((∃ msg next, w.program = .write msg next ∧ w.stdin.Full) ∨
          (timeout = none ∧ w.transport.main = .waiting)) := by
  obtain ⟨outs, hflowing⟩ := hr.flowing
  have hmain : s.transport.main = w.transport.main := by
    rw [hu.transport]
    rfl
  have htimeout : w.transport.timeout = timeout := by
    rw [← hr.timeout, hu.transport]
    rfl
  have hrunning : w.transport.main ≠ .panicked := hmain ▸ hflowing.running
  cases hprogram : w.program with
  | done r => exact Or.inl ⟨r, rfl⟩
  | write msg next =>
      have hidle : w.transport.main = .idle := by
        cases hpc : w.transport.main with
        | idle => rfl
        | waiting =>
            obtain ⟨next', hread⟩ := hr.reading (hmain.trans hpc)
            cases hprogram.symm.trans (hu.program.symm.trans hread)
        | panicked => exact absurd hpc hrunning
      cases hserver : w.server with
      | none =>
          exact absurd (.broken hprogram "" (.send hidle msg _) hserver) (hstuck _ _)
      | some k =>
          have hfull := hu.send_stuck hstuck hprogram hidle hserver
          rcases hu.server_stuck hr hstuck hserver with hnot | ⟨_, _, hheld⟩
          · exact Or.inr (Or.inr ⟨k, rfl, hnot, Or.inl ⟨msg, next, rfl, hfull⟩⟩)
          · exact absurd hheld hfull.held_ne
  | read next =>
      cases hpc : w.transport.main with
      | idle => exact absurd (.recv hprogram (.recv hpc)) (hstuck _ _)
      | panicked => exact absurd hpc hrunning
      | waiting =>
          obtain ⟨huntimed, hcases⟩ := hu.wait_stuck hr hstuck hprogram hpc
          rw [htimeout] at huntimed
          rcases hcases with ⟨k, hserver, hnot⟩ | hstarved
          · exact Or.inr (Or.inr ⟨k, hserver, hnot, Or.inr ⟨huntimed, rfl⟩⟩)
          · exact Or.inr (Or.inl ⟨huntimed, hstarved⟩)

end OrgCli.Mcp
