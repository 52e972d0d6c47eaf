import OrgCli.Mcp.Pipes
import OrgCli.Proofs.System

/-!
# `OrgCli.Proofs.Pipes`: bounded pipes refine the system

`Unpiped` relates a state over bounded pipes to a state of the system. The buffers of a pipe's
two ends and the pipe itself are one pipe there, and what `write_all` has written of a message is
not in it before the message is complete. So a part of a write or of a read leaves the state of
the system as it is, and every other step is the same step there (`Unpiped.step`).

What holds of every run of the system holds of every run over bounded pipes (`piped_run`).
-/

set_option autoImplicit false

namespace OrgCli.Mcp

open OrgCli.Support
open OrgCli.Mcp.Reader (newline Handle ChildStdout lineItem)

variable {cap : Capacity} {σ ρ : Type} {env : Env} {encode : Json → Line}
  {M : Machine σ String Line} {deaf : σ → Bool}

/-! ### Bytes behind the pipe of a transport -/

/-- A `recv` starts in the same way with more bytes in the pipe. -/
theorem startRecv_append (t : Reader.State) (bs : List UInt8) :
    (t.append bs).startRecv = t.startRecv.append bs := by
  obtain ⟨stdout, reader, timeout, main⟩ := t
  cases stdout <;> cases reader <;> rfl

/-- The steps of the main thread do not look at the pipe. -/
theorem Reader.Step.append {t t' : Reader.State} {l : Reader.Label} (h : Reader.Step env t l t')
    (hl : l ≠ .reader) (bs : List UInt8) : Reader.Step env (t.append bs) l (t'.append bs) := by
  have hmore : ∀ h, t.reader = some h → (t.append bs).reader = some (h.append bs) :=
    fun h hreader => congrArg (Option.map _) hreader
  cases h with
  | setTimeout hmain timeout =>
      have hidle : (t.append bs).main = .idle := hmain
      exact .setTimeout hidle timeout
  | send hmain msg outcome =>
      have hidle : (t.append bs).main = .idle := hmain
      exact .send hidle msg outcome
  | recv hmain =>
      have hidle : (t.append bs).main = .idle := hmain
      rw [← startRecv_append]
      exact .recv hidle
  | @taken hmain h hreader item rx htake =>
      have hwaiting : (t.append bs).main = .waiting := hmain
      exact .taken hwaiting (hmore h hreader) htake
  | @closed hmain h hreader hclosed =>
      have hwaiting : (t.append bs).main = .waiting := hmain
      exact .closed hwaiting (hmore h hreader) hclosed
  | @timedOut hmain h hreader d htimeout hpending =>
      have hwaiting : (t.append bs).main = .waiting := hmain
      exact .timedOut hwaiting (hmore h hreader) htimeout hpending
  | reader hreader hstep => exact absurd rfl hl

/-- A line and what comes after it. -/
theorem Line.bytes_append (l : Line) (bs : List UInt8) :
    l.bytes ++ bs = l.text.toByteArray.data.toList ++ newline :: bs := by
  unfold Line.bytes
  rw [List.append_assoc]
  rfl

/-- A buffer with a complete line gives the same line with more bytes behind it. -/
theorem readLine_append {stdout : ChildStdout} (hline : newline ∈ stdout.bytes)
    (bs : List UInt8) :
    (stdout.append bs).readLine = (stdout.readLine.1, stdout.readLine.2.append bs) := by
  have htake := takeLine_append_of_mem newline hline bs
  unfold ChildStdout.readLine ChildStdout.append
  simp only [htake]

/-- A thread that does not read, or that has a complete line, takes the same step with more
bytes behind its buffer. -/
theorem step_append {h h' : Handle} (hline : h.pc = .reading → newline ∈ h.stdout.bytes)
    (hstep : h.step = some h') (bs : List UInt8) : (h.append bs).step = some (h'.append bs) := by
  obtain ⟨rx, stdout, pc⟩ := h
  cases pc with
  | reading =>
      have hread := readLine_append (hline rfl) bs
      simp only [Handle.step, Handle.append] at hstep ⊢
      rw [hread]
      generalize stdout.readLine = read at hstep ⊢
      obtain ⟨result, rest⟩ := read
      cases result with
      | error e =>
          cases hstep
          rfl
      | ok line =>
          obtain ⟨n, text⟩ := line
          cases n with
          | zero =>
              cases hstep
              rfl
          | succ n =>
              cases hstep
              rfl
  | sending item =>
      cases item with
      | ok text =>
          simp only [Handle.step, Handle.append] at hstep ⊢
          cases hsend : rx.send (.ok text) with
          | some rx' =>
              rw [hsend] at hstep
              cases hstep
              rfl
          | none =>
              rw [hsend] at hstep
              cases hstep
              rfl
      | error e =>
          cases hstep
          rfl
  | exiting =>
      cases hstep
      rfl
  | finished => cases hstep

/-! ### The refinement -/

/-- What the server has still to write. -/
def PipedState.output (w : PipedState cap σ ρ) : List UInt8 := (w.server.map (·.output)).getD []

/-- What a server that is there has still to write. -/
theorem PipedState.output_eq {w : PipedState cap σ ρ} {k : Process σ} (h : w.server = some k) :
    w.output = k.output := by
  rw [PipedState.output, h]
  rfl

/-- The state `s` of the system is `w` without the parts of writes and reads. -/
structure Unpiped (encode : Json → Line) (w : PipedState cap σ ρ) (s : SystemState σ ρ) :
    Prop where
  program : s.program = w.program
  -- What is in the reader's buffer, in the pipe and in the server's hands is one pipe.
  transport : s.transport = w.transport.append (w.stdout.held ++ w.output)
  alive : ∀ k, w.server = some k →
    s.server = some k.state ∧ k.input ++ w.stdin.held = s.stdin ++ w.written
  gone : w.server = none → s.server = none
  -- What is written of a message is not all of it.
  unfinished : w.written = [] ∨ ∃ msg next rest, w.program = .write msg next ∧ rest ≠ [] ∧
    (encode msg).bytes = w.written ++ rest

variable {w w' : PipedState cap σ ρ} {s : SystemState σ ρ} {l : PipedLabel}

/-- The start is the start of the system. -/
theorem Unpiped.start (encode : Json → Line) (d : Dialogue ρ) (timeout : Option Duration)
    (p : σ) : Unpiped encode (.start d timeout p : PipedState cap σ ρ) (.start d timeout p) where
  program := rfl
  transport := rfl
  alive k hk := by
    obtain rfl := Option.some.inj hk
    exact ⟨rfl, rfl⟩
  gone h := by cases h
  unfinished := Or.inl rfl

/-- The reader thread has all that is behind its buffer in its pipe. -/
theorem Unpiped.reader (hu : Unpiped encode w s) {h : Handle}
    (hreader : w.transport.reader = some h) :
    s.transport.reader = some (h.append (w.stdout.held ++ w.output)) := by
  rw [hu.transport]
  exact congrArg (Option.map _) hreader

/-- Nothing is written of a message outside of a `send`. -/
theorem Unpiped.unwritten (hu : Unpiped encode w s)
    {next : Except RecvTimeoutError Item → Dialogue ρ} (hprogram : w.program = .read next) :
    w.written = [] := by
  rcases hu.unfinished with hnil | ⟨msg, next', rest, hwrite, _⟩
  · exact hnil
  · cases hprogram.symm.trans hwrite

/-- What is written of a message has no newline. -/
theorem Unpiped.no_newline (h : Unpiped encode w s) : newline ∉ w.written := by
  rcases h.unfinished with hnil | ⟨msg, _, rest, _, hrest, hbytes⟩
  · simp [hnil]
  · intro hmem
    -- The newline of a message is its last byte.
    obtain ⟨cs, _, hnil⟩ := eq_append_of_mem newline (encode msg).single hmem hbytes.symm
    exact hrest (List.append_eq_nil_iff.mp hnil.symm).2

/-- A thread that can step can step in the system too, with all that is behind its buffer. -/
theorem Unpiped.thread_step (hu : Unpiped encode w s) {h h' : Handle} (hready : w.Ready h)
    (hstep : h.step = some h') :
    Ready s.server (h.append (w.stdout.held ++ w.output)) ∧
      (h.append (w.stdout.held ++ w.output)).step
        = some (h'.append (w.stdout.held ++ w.output)) := by
  constructor
  · intro hpc
    rcases hready hpc with hline | ⟨hserver, _⟩
    · exact Or.inl (List.mem_append_left _ hline)
    · exact Or.inr (hu.gone hserver)
  · by_cases hline : h.pc = .reading → newline ∈ h.stdout.bytes
    · exact step_append hline hstep _
    · -- The thread is at the end of the file, so there are no more bytes.
      obtain ⟨hpc, hline⟩ := Classical.not_imp.mp hline
      obtain ⟨hserver, hheld⟩ := (hready hpc).resolve_left hline
      have hend : w.stdout.held ++ w.output = [] := by
        simp [PipedState.output, hserver, hheld]
      rw [hend, Reader.Handle.append_nil, Reader.Handle.append_nil]
      exact hstep

/-- A line that the server has read is complete in the stdin of the system. -/
theorem Unpiped.line (hu : Unpiped encode w s) {k : Process σ} (hserver : w.server = some k)
    {l : Line} {rest : List UInt8} (hinput : k.input = l.bytes ++ rest) :
    ∃ cs, s.stdin = l.bytes ++ cs ∧ rest ++ w.stdin.held = cs ++ w.written := by
  obtain ⟨_, hbytes⟩ := hu.alive k hserver
  rw [hinput, l.bytes_append, List.append_assoc, List.cons_append] at hbytes
  have hmem : newline ∈ s.stdin := by
    have hline : newline ∈ s.stdin ++ w.written := by
      rw [← hbytes]
      simp
    exact (List.mem_append.mp hline).resolve_right hu.no_newline
  obtain ⟨cs, hstdin, hrest⟩ := eq_append_of_mem newline l.single hmem hbytes.symm
  rw [← l.bytes_append] at hstdin
  exact ⟨cs, hstdin, hrest⟩

/-- What a step is for the system: nothing, or the same step. -/
def PipedMatched (env : Env) (encode : Json → Line) (M : Machine σ String Line)
    (l : PipedLabel) (w' : PipedState cap σ ρ) (s : SystemState σ ρ) : Prop :=
  (l.system? = none ∧ Unpiped encode w' s) ∨
    ∃ k s', l.system? = some k ∧ SystemStep env encode M s k s' ∧ Unpiped encode w' s'

/-- A call of the main thread is the same call of the system. -/
theorem Unpiped.call_step (hu : Unpiped encode w s) {l : Reader.Label} {t : Reader.State}
    (hcall : Reader.Step env w.transport l t) (hl : l ≠ .reader) :
    Reader.Step env s.transport l (t.append (w.stdout.held ++ w.output)) := by
  rw [hu.transport]
  exact hcall.append hl _

/-- Every step over bounded pipes is matched. -/
theorem Unpiped.step (hu : Unpiped encode w s)
    (howner : s.transport.stdout.isSome = s.transport.reader.isNone)
    (hs : PipedStep env encode M deaf w l w') : PipedMatched env encode M l w' s := by
  cases hs with
  | @push msg next hprogram hserver chunk rest hbytes hrest pipe hputs =>
      left
      refine ⟨rfl, hu.program, hu.transport, fun k hk => ?_, hu.gone,
        Or.inr ⟨msg, next, rest, hprogram, hrest, hbytes⟩⟩
      obtain ⟨hstate, hinput⟩ := hu.alive k hk
      refine ⟨hstate, ?_⟩
      rw [hputs.held, ← List.append_assoc, hinput, List.append_assoc]
  | @write msg next hprogram t hcall hserver chunk hbytes pipe hputs =>
      right
      obtain ⟨k, hk⟩ := Option.isSome_iff_exists.mp hserver
      obtain ⟨hstate, hinput⟩ := hu.alive k hk
      refine ⟨_, _, rfl, .write (hu.program.trans hprogram) (hu.call_step hcall (by simp))
        (by simp [hstate]), rfl, rfl, fun j hj => ?_, hu.gone, Or.inl rfl⟩
      obtain rfl := Option.some.inj (hk.symm.trans hj)
      refine ⟨hstate, ?_⟩
      rw [hputs.held, ← List.append_assoc, hinput, hbytes]
      simp only [List.append_assoc, List.append_nil]
  | @broken msg next hprogram t e hcall hserver =>
      right
      refine ⟨_, _, rfl, .broken (hu.program.trans hprogram) e (hu.call_step hcall (by simp))
        (hu.gone hserver), rfl, rfl, fun j hj => ?_, hu.gone, Or.inl rfl⟩
      cases hserver.symm.trans hj
  | recv hprogram hcall =>
      right
      exact ⟨_, _, rfl, .recv (hu.program.trans hprogram) (hu.call_step hcall (by simp)),
        hu.program, rfl, hu.alive, hu.gone, hu.unfinished⟩
  | recvReturn hprogram hcall =>
      right
      exact ⟨_, _, rfl, .recvReturn (hu.program.trans hprogram) (hu.call_step hcall (by simp)),
        rfl, rfl, hu.alive, hu.gone, Or.inl (hu.unwritten hprogram)⟩
  | @fill h hreader hpc hline chunk pipe htakes =>
      left
      refine ⟨rfl, hu.program, ?_, hu.alive, hu.gone, hu.unfinished⟩
      have hstdout : w.transport.stdout = none := by
        simpa [hu.transport, Reader.State.append, hreader] using howner
      -- The bytes move from the pipe into the buffer.
      show s.transport = Reader.State.append _ _
      rw [hu.transport]
      unfold Reader.State.append
      rw [hreader, hstdout, htakes.held]
      simp [PipedState.output]
  | @reader h h' hreader hready hstep =>
      right
      obtain ⟨hready, hstep⟩ := hu.thread_step hready hstep
      refine ⟨_, _, rfl, .reader (hu.reader hreader) hready hstep, hu.program, ?_, hu.alive,
        hu.gone, hu.unfinished⟩
      rw [hu.transport]
      rfl
  | @take k hserver hlistens chunk pipe htakes =>
      left
      obtain ⟨hstate, hinput⟩ := hu.alive k hserver
      refine ⟨rfl, hu.program, ?_, fun j hj => ?_, fun hnone => (by cases hnone), hu.unfinished⟩
      · rw [hu.transport, PipedState.output_eq hserver]
        rfl
      · obtain rfl := Option.some.inj hj
        refine ⟨hstate, ?_⟩
        rw [List.append_assoc, ← htakes.held, hinput]
  | @serve k hserver hlistens line rest hinput =>
      right
      obtain ⟨hstate, _⟩ := hu.alive k hserver
      obtain ⟨cs, hstdin, hrest⟩ := hu.line hserver hinput
      refine ⟨_, _, rfl, .serve hstate hlistens.running hstdin, hu.program, ?_, fun j hj => ?_,
        fun hnone => (by cases hnone), hu.unfinished⟩
      · have hflushed := (PipedState.output_eq hserver).trans hlistens.flushed
        rw [hu.transport, hflushed, List.append_nil, Reader.State.append_append]
        rfl
      · obtain rfl := Option.some.inj hj
        exact ⟨rfl, hrest⟩
  | @flush k hserver chunk rest houtput pipe hputs =>
      left
      obtain ⟨hstate, hinput⟩ := hu.alive k hserver
      refine ⟨rfl, hu.program, ?_, fun j hj => ?_, fun hnone => (by cases hnone), hu.unfinished⟩
      · rw [hu.transport, PipedState.output_eq hserver, houtput, ← List.append_assoc, ← hputs.held]
        rfl
      · obtain rfl := Option.some.inj hj
        exact ⟨hstate, hinput⟩
  | @exit k hserver hhalted hflushed =>
      right
      obtain ⟨hstate, _⟩ := hu.alive k hserver
      refine ⟨_, _, rfl, .exit hstate hhalted, hu.program, ?_, fun j hj => (by cases hj),
        fun _ => rfl, hu.unfinished⟩
      rw [hu.transport, PipedState.output_eq hserver, hflushed]
      rfl

/-- The system over bounded pipes refines the system. -/
theorem piped_simulation (env : Env) (encode : Json → Line) (M : Machine σ String Line)
    (deaf : σ → Bool) (cap : Capacity) (timeout : Option Duration) (d : Dialogue ρ) (p : σ) :
    Simulation (piped env encode M deaf cap d timeout p) (system env encode M d timeout p)
      PipedLabel.system? fun w s => Unpiped encode w s ∧ ∃ q, Refines M timeout s q where
  init w hw := ⟨_, rfl, hw ▸ .start encode d timeout p, _, .start M timeout d p⟩
  hidden w l w' s hr hs hshown := by
    obtain ⟨hu, q, hq⟩ := hr
    obtain ⟨_, hflowing⟩ := hq.flowing
    rcases hu.step hflowing.owner hs with ⟨_, hu'⟩ | ⟨k, s', hk, _, _⟩
    · exact ⟨hu', q, hq⟩
    · rw [hshown] at hk
      cases hk
  visible w l w' s k hr hs hshown := by
    obtain ⟨hu, q, hq⟩ := hr
    obtain ⟨_, hflowing⟩ := hq.flowing
    rcases hu.step hflowing.owner hs with ⟨hk, _⟩ | ⟨k', s', hk, hstep, hu'⟩
    · rw [hshown] at hk
      cases hk
    · rw [hshown] at hk
      obtain rfl := Option.some.inj hk
      rcases hq.step hstep with ⟨_, hq'⟩ | ⟨_, q', _, _, hq'⟩
      · exact ⟨s', hstep, hu', q, hq'⟩
      · exact ⟨s', hstep, hu', q', hq'⟩

/-- Every run over bounded pipes is a run of the system with the same steps. Blocked writes and
parts of lines are not seen there. -/
theorem piped_run {timeout : Option Duration} {d : Dialogue ρ} {p : σ} {ls : List PipedLabel}
    (h : Run (piped env encode M deaf cap d timeout p) ls w) :
    ∃ s, Run (system env encode M d timeout p) (ls.filterMap PipedLabel.system?) s ∧
      Unpiped encode w s := by
  obtain ⟨s, hrun, hu, _⟩ := (piped_simulation env encode M deaf cap timeout d p).run h
  exact ⟨s, hrun, hu⟩

end OrgCli.Mcp
