import OrgCli.Proofs.Blocking
import OrgCli.Proofs.Schedule

/-!
# `OrgCli.Proofs.Capacity`: pipes that are large enough

The converse of `piped_run`. A run of the system is a run over pipes that have room for what the
system has in them at any time, with a server that is never deaf (`exists_piped_run`). A whole
message is written at once, the buffers are filled when a line is needed, and the output of a line
is written before anything else happens (`Rested`).

So what holds of every capacity is what holds of the conversations: their events are the events
over bounded pipes (`piped_events_iff`), and `Dialogue.wp` is the weakest precondition there
(`wp_iff`).
-/

set_option autoImplicit false

namespace OrgCli.Mcp

open OrgCli.Support
open OrgCli.Mcp.Reader (newline Handle ChildStdout)

variable {cap : Capacity} {σ ρ : Type} {env : Env} {encode : Json → Line}
  {M : Machine σ String Line} {timeout : Option Duration} {d : Dialogue ρ} {p : σ}
  {w w' : PipedState cap σ ρ} {s s' s'' : SystemState σ ρ} {q : Conversation σ ρ}

/-! ### A label says what happens -/

/-- A label leads to one state of the transport. -/
theorem Reader.Step.det {t t' t'' : Reader.State} {l : Reader.Label}
    (h : Reader.Step env t l t') (h' : Reader.Step env t l t'') : t' = t'' := by
  cases h with
  | taken hmain hreader htake =>
      cases h' with
      | taken hmain' hreader' htake' =>
          obtain rfl := Option.some.inj (hreader.symm.trans hreader')
          cases htake.symm.trans htake'
          rfl
  | reader hreader hstep =>
      cases h' with
      | reader hreader' hstep' =>
          obtain rfl := Option.some.inj (hreader.symm.trans hreader')
          obtain rfl := Option.some.inj (hstep.symm.trans hstep')
          rfl
  | setTimeout | send | recv | closed | timedOut =>
      cases h'
      rfl

/-- A label leads to one state of the system. -/
theorem SystemStep.det {l : SystemLabel} (h : SystemStep env encode M s l s')
    (h' : SystemStep env encode M s l s'') : s' = s'' := by
  cases h with
  | write hprogram hcall hserver =>
      cases h' with
      | write hprogram' hcall' hserver' =>
          cases hprogram.symm.trans hprogram'
          rw [hcall.det hcall']
  | broken hprogram e hcall hserver =>
      cases h' with
      | broken hprogram' e' hcall' hserver' =>
          cases hprogram.symm.trans hprogram'
          rw [hcall.det hcall']
  | recv hprogram hcall =>
      cases h' with
      | recv hprogram' hcall' => rw [hcall.det hcall']
  | recvReturn hprogram hcall =>
      cases h' with
      | recvReturn hprogram' hcall' =>
          cases hprogram.symm.trans hprogram'
          rw [hcall.det hcall']
  | reader hreader hready hstep =>
      cases h' with
      | reader hreader' hready' hstep' =>
          obtain rfl := Option.some.inj (hreader.symm.trans hreader')
          obtain rfl := Option.some.inj (hstep.symm.trans hstep')
          rfl
  | serve hserver hrunning hstdin =>
      cases h' with
      | serve hserver' hrunning' hstdin' =>
          obtain rfl := Option.some.inj (hserver.symm.trans hserver')
          obtain ⟨rfl, rfl⟩ := Line.bytes_inj (hstdin.symm.trans hstdin')
          rfl
      | exit hserver' hhalted =>
          obtain rfl := Option.some.inj (hserver.symm.trans hserver')
          cases hrunning.symm.trans hhalted
  | exit hserver hhalted =>
      cases h' with
      | serve hserver' hrunning hstdin =>
          obtain rfl := Option.some.inj (hserver.symm.trans hserver')
          cases hrunning.symm.trans hhalted
      | exit => rfl

/-! ### Runs with enough room -/

/-- A state over bounded pipes between two steps of the system: no message is written in part,
and no output waits for room. -/
structure Rested (encode : Json → Line) (w : PipedState cap σ ρ) (s : SystemState σ ρ) : Prop
    extends Unpiped encode w s where
  complete : w.written = []
  flushed : w.output = []

/-- The bytes that a transport has not read, its own or those of its thread. -/
def Reader.State.pipeSize (t : Reader.State) : Nat :=
  match t.reader with
  | some h => h.stdout.bytes.length
  | none => ((t.stdout.map (·.bytes)).getD []).length

/-- The bytes in the two pipes. -/
def SystemState.size (s : SystemState σ ρ) : Nat := s.stdin.length + s.transport.pipeSize

/-- Each byte that is written is one more in the pipe. -/
theorem append_pipeSize {t : Reader.State} (howner : t.stdout.isSome = t.reader.isNone)
    (bs : List UInt8) : (t.append bs).pipeSize = t.pipeSize + bs.length := by
  obtain ⟨stdout, reader, timeout, main⟩ := t
  cases reader with
  | some h => exact List.length_append
  | none =>
      obtain ⟨out, rfl⟩ := Option.isSome_iff_exists.mp howner
      exact List.length_append

/-- The owner of the pipe does not change when a server writes. -/
theorem append_owner {t : Reader.State} {bs : List UInt8}
    (howner : (t.append bs).stdout.isSome = (t.append bs).reader.isNone) :
    t.stdout.isSome = t.reader.isNone := by
  simpa [Reader.State.append] using howner

/-- A step that the system takes too leads to its state there. -/
theorem Unpiped.follow {deaf : σ → Bool} {l : SystemLabel} (hu : Unpiped encode w s)
    (howner : s.transport.stdout.isSome = s.transport.reader.isNone)
    (hw : PipedStep env encode M deaf w (.step l) w') (hs : SystemStep env encode M s l s') :
    Unpiped encode w' s' := by
  rcases hu.step howner hw with ⟨hnone, _⟩ | ⟨k, s'', hk, hstep, hu'⟩
  · cases hnone
  · obtain rfl := Option.some.inj hk
    rw [hs.det hstep]
    exact hu'

/-- A part of a write or of a read leaves the state of the system. -/
theorem Unpiped.stay {deaf : σ → Bool} {l : PipedLabel} (hu : Unpiped encode w s)
    (howner : s.transport.stdout.isSome = s.transport.reader.isNone)
    (hw : PipedStep env encode M deaf w l w') (hl : l.system? = none) : Unpiped encode w' s := by
  rcases hu.step howner hw with ⟨_, hu'⟩ | ⟨k, _, hk, _, _⟩
  · exact hu'
  · cases hl.symm.trans hk

/-- From the state a schedule with just this step of the system comes to rest in the other
state. -/
def Follows (env : Env) (encode : Json → Line) (M : Machine σ String Line)
    (w : PipedState cap σ ρ) (l : SystemLabel) (s' : SystemState σ ρ) : Prop :=
  ∀ d timeout p, ∃ ls w', Path (piped env encode M (fun _ => false) cap d timeout p) w ls w' ∧
    ls.filterMap PipedLabel.system? = [l] ∧ Rested encode w' s'

/-- A step that writes and reads whole lines is a schedule. -/
theorem Rested.single {l : SystemLabel} (hr : Rested encode w s)
    (howner : s.transport.stdout.isSome = s.transport.reader.isNone)
    (hw : PipedStep env encode M (fun _ => false) w (.step l) w')
    (hs : SystemStep env encode M s l s') (hcomplete : w'.written = [])
    (hflushed : w'.output = []) :
    Follows env encode M w l s' := by
  intro d timeout p
  exact ⟨_, w', .cons hw (.nil _), rfl, hr.toUnpiped.follow howner hw hs, hcomplete, hflushed⟩

/-- A schedule may fill a buffer first. -/
theorem Follows.after {w₁ : PipedState cap σ ρ} {l : SystemLabel} {k : PipedLabel}
    (h : Follows env encode M w₁ l s') (hw : PipedStep env encode M (fun _ => false) w k w₁)
    (hk : k.system? = none) : Follows env encode M w l s' := by
  intro d timeout p
  obtain ⟨ls, w', hpath, hlabels, hrested⟩ := h d timeout p
  refine ⟨k :: ls, w', .cons hw hpath, ?_, hrested⟩
  rw [List.filterMap_cons, hk]
  exact hlabels

/-- A call of the main thread does not need the bytes in the pipe. -/
theorem Reader.Step.of_append {t t' : Reader.State} {l : Reader.Label} {bs : List UInt8}
    (h : Reader.Step env (t.append bs) l t') (hl : l ≠ .reader) :
    ∃ t'', Reader.Step env t l t'' := by
  generalize ht : t.append bs = u at h
  cases h with
  | setTimeout hmain timeout =>
      subst ht
      have hidle : t.main = .idle := hmain
      exact ⟨_, .setTimeout hidle timeout⟩
  | send hmain msg outcome =>
      subst ht
      have hidle : t.main = .idle := hmain
      exact ⟨_, .send hidle msg outcome⟩
  | recv hmain =>
      subst ht
      have hidle : t.main = .idle := hmain
      exact ⟨_, .recv hidle⟩
  | taken hmain hreader htake =>
      subst ht
      have hwaiting : t.main = .waiting := hmain
      obtain ⟨h, hh, rfl⟩ := Option.map_eq_some_iff.mp hreader
      exact ⟨_, .taken hwaiting hh htake⟩
  | closed hmain hreader hclosed =>
      subst ht
      have hwaiting : t.main = .waiting := hmain
      obtain ⟨h, hh, rfl⟩ := Option.map_eq_some_iff.mp hreader
      exact ⟨_, .closed hwaiting hh hclosed⟩
  | timedOut hmain hreader htimeout hpending =>
      subst ht
      have hwaiting : t.main = .waiting := hmain
      obtain ⟨h, hh, rfl⟩ := Option.map_eq_some_iff.mp hreader
      exact ⟨_, .timedOut hwaiting hh htimeout hpending⟩
  | reader hreader hstep => exact absurd rfl hl

/-- The server of a state is there when it is there in the system. -/
theorem Unpiped.server_alive (hu : Unpiped encode w s) {p : σ} (hserver : s.server = some p) :
    ∃ k, w.server = some k ∧ k.state = p := by
  cases hk : w.server with
  | none => cases (hu.gone hk).symm.trans hserver
  | some k =>
      have hstate := (hu.alive k hk).1
      exact ⟨k, rfl, Option.some.inj (hstate.symm.trans hserver)⟩

/-- The server of a state is gone when it is gone in the system. -/
theorem Unpiped.server_gone (hu : Unpiped encode w s) (hserver : s.server = none) :
    w.server = none := by
  by_contra hne
  obtain ⟨k, hk⟩ := Option.ne_none_iff_exists'.mp hne
  cases (hu.alive k hk).1.symm.trans hserver

/-- A call of the main thread in the system is one over bounded pipes. -/
theorem Unpiped.call (hu : Unpiped encode w s) {l : Reader.Label} {t : Reader.State}
    (h : Reader.Step env s.transport l t) (hl : l ≠ .reader) :
    ∃ t', Reader.Step env w.transport l t' := by
  rw [hu.transport] at h
  exact h.of_append hl

/-- A thread that can step in the system can step when its buffer is filled. -/
theorem Rested.reader (hr : Rested encode w s)
    (howner : s.transport.stdout.isSome = s.transport.reader.isNone) {h h' : Handle}
    (hreader : s.transport.reader = some h) (hready : Ready s.server h)
    (hstep : h.step = some h') :
    Follows env encode M w (.client .reader)
      { s with transport := { s.transport with reader := some h' } } := by
  have hs : SystemStep env encode M s (.client .reader) _ := .reader hreader hready hstep
  have hbytes : w.stdout.held ++ w.output = w.stdout.held := by
    rw [hr.flushed, List.append_nil]
  obtain ⟨h₀, hh₀, hh⟩ : ∃ h₀, w.transport.reader = some h₀ ∧
      h₀.append w.stdout.held = h := by
    rw [hr.transport, hbytes] at hreader
    exact Option.map_eq_some_iff.mp hreader
  have hpc : h₀.pc = h.pc := by
    rw [← hh]
    rfl
  have hne : ∀ h₁ : Handle, h₁.pc = h.pc → ∃ h₂, h₁.step = some h₂ := by
    intro h₁ hpc
    refine step_of_ne_finished fun hfinished => ?_
    unfold Handle.step at hstep
    rw [hpc.symm.trans hfinished] at hstep
    cases hstep
  by_cases hfill : h.pc = .reading ∧ newline ∉ h₀.stdout.bytes ∧ w.stdout.held ≠ []
  · obtain ⟨hreading, hline, hheld⟩ := hfill
    obtain ⟨pipe, htakes, hpipe⟩ := Pipe.exists_takes hheld
    have hw : PipedStep env encode M (fun _ => false) w .fill _ :=
      .fill hh₀ (hpc.trans hreading) hline htakes
    have hstay := hr.toUnpiped.stay howner hw rfl
    refine Follows.after ?_ hw rfl
    rw [hh]
    rw [hh] at hstay
    obtain ⟨h₂, hstep₂⟩ := hne h rfl
    refine Rested.single ⟨hstay, hr.complete, hr.flushed⟩ howner (.reader rfl ?_ hstep₂) hs
      hr.complete hr.flushed
    intro hreading
    rcases hready hreading with hline | hgone
    · exact Or.inl hline
    · exact Or.inr ⟨hr.server_gone hgone, hpipe⟩
  · obtain ⟨h₂, hstep₂⟩ := hne h₀ hpc
    refine hr.single howner (.reader hh₀ ?_ hstep₂) hs hr.complete hr.flushed
    intro hreading
    by_cases hline : newline ∈ h₀.stdout.bytes
    · exact Or.inl hline
    · -- The pipe is empty, so the buffer holds all that there is.
      have hheld : w.stdout.held = [] := by
        by_contra hheld
        exact hfill ⟨hpc.symm.trans hreading, hline, hheld⟩
      rw [hheld, Reader.Handle.append_nil] at hh
      subst hh
      exact Or.inr ⟨hr.server_gone ((hready hreading).resolve_left hline), hheld⟩

/-- What the pipe to the server holds is in the stdin of the system. -/
theorem Rested.stdin_le (hr : Rested encode w s) {p : σ} (hserver : s.server = some p) :
    w.stdin.held.length ≤ s.stdin.length := by
  obtain ⟨k, hk, _⟩ := hr.server_alive hserver
  obtain ⟨_, hinput⟩ := hr.alive k hk
  rw [hr.complete, List.append_nil] at hinput
  rw [← hinput, List.length_append]
  exact Nat.le_add_left _ _

/-- What the pipe from the server holds is in the stdout of the system. -/
theorem Rested.stdout_le (hr : Rested encode w s)
    (howner : s.transport.stdout.isSome = s.transport.reader.isNone) :
    w.stdout.held.length ≤ s.transport.pipeSize := by
  rw [hr.transport] at howner ⊢
  rw [append_pipeSize (append_owner howner), List.length_append]
  omega

/-- A server that has a line in its stdin has it in its buffer, or it can read it. -/
theorem Rested.take (hr : Rested encode w s)
    (howner : s.transport.stdout.isSome = s.transport.reader.isNone) {p : σ}
    (hserver : s.server = some p) (hrunning : M.halted p = false) {l : Line} {rest : List UInt8}
    (hstdin : s.stdin = l.bytes ++ rest) :
    ∃ w₁ : PipedState cap σ ρ,
      (w₁ = w ∨ PipedStep env encode M (fun _ => false) w .take w₁) ∧ Rested encode w₁ s ∧
      ∃ k cs, w₁.server = some k ∧ k.Listens M (fun _ => false) ∧ k.state = p ∧
        k.input = l.bytes ++ cs := by
  obtain ⟨k, hk, hstate⟩ := hr.server_alive hserver
  obtain ⟨_, hinput⟩ := hr.alive k hk
  rw [hr.complete, List.append_nil, hstdin, l.bytes_append] at hinput
  have hflushed : k.output = [] := (PipedState.output_eq hk).symm.trans hr.flushed
  have hlistens : k.Listens M (fun _ => false) := ⟨by rw [hstate]; exact hrunning, rfl, hflushed⟩
  by_cases hline : newline ∈ k.input
  · obtain ⟨cs, hcs, _⟩ := eq_append_of_mem newline l.single hline hinput
    rw [← l.bytes_append] at hcs
    exact ⟨w, Or.inl rfl, hr, k, cs, hk, hlistens, hstate, hcs⟩
  · have hheld : w.stdin.held ≠ [] := by
      intro hnil
      rw [hnil, List.append_nil] at hinput
      exact hline (by rw [hinput]; simp)
    obtain ⟨pipe, htakes, _⟩ := Pipe.exists_takes hheld
    have hw : PipedStep env encode M (fun _ => false) w .take _ := .take hk hlistens htakes
    rw [← l.bytes_append] at hinput
    exact ⟨_, Or.inr hw, ⟨hr.toUnpiped.stay howner hw rfl, hr.complete, hflushed⟩, _, rest, rfl,
      ⟨hlistens.running, hlistens.hears, hflushed⟩, hstate, hinput⟩

/-- A server that handles a line of its buffer writes all of its output, when there is room for
it. -/
theorem Rested.handle (hr : Rested encode w s)
    (howner : s.transport.stdout.isSome = s.transport.reader.isNone) {p : σ}
    (hserver : s.server = some p) (hrunning : M.halted p = false) {l : Line} {rest : List UInt8}
    (hstdin : s.stdin = l.bytes ++ rest) {k : Process σ} {cs : List UInt8}
    (hk : w.server = some k) (hlistens : k.Listens M (fun _ => false)) (hstate : k.state = p)
    (hinput : k.input = l.bytes ++ cs)
    (hroom : s.transport.pipeSize + (frames (M.handle p l.text).2).length ≤ cap.size) :
    Follows env encode M w .server
      { s with
        transport := s.transport.append (frames (M.handle p l.text).2)
        stdin := rest
        server := some (M.handle p l.text).1 } := by
  have hs : SystemStep env encode M s .server _ := .serve hserver hrunning hstdin
  have hw : PipedStep env encode M (fun _ => false) w (.step .server) _ :=
    .serve hk hlistens hinput
  have hfollow := hr.toUnpiped.follow howner hw hs
  subst hstate
  by_cases hnil : frames (M.handle k.state l.text).2 = []
  · exact hr.single howner hw hs hr.complete hnil
  · have hle := hr.stdout_le howner
    obtain ⟨pipe, hputs⟩ := Pipe.exists_puts_of_le hnil
      (show (w.stdout.held ++ _).length ≤ cap.size by rw [List.length_append]; omega)
    let after : Process σ := ⟨(M.handle k.state l.text).1, cs, frames (M.handle k.state l.text).2⟩
    have hflush : PipedStep env encode M (fun _ => false) { w with server := some after } .flush
        { w with stdout := pipe, server := some { after with output := [] } } :=
      .flush rfl (List.append_nil after.output).symm hputs
    intro d timeout p
    refine ⟨_, _, .cons hw (.cons hflush (.nil _)), rfl, ?_, hr.complete, rfl⟩
    refine hfollow.stay ?_ hflush rfl
    simpa [Reader.State.append] using howner

/-- Every step of the system is a schedule over pipes that have room for what is in its pipes
after the step. -/
theorem Rested.step (hr : Rested encode w s) {l : SystemLabel}
    (howner : s.transport.stdout.isSome = s.transport.reader.isNone)
    (hs : SystemStep env encode M s l s') (hroom : s'.size ≤ cap.size) :
    Follows env encode M w l s' := by
  have hs' := hs
  cases hs with
  | @write msg next hprogram t hcall hserver =>
      obtain ⟨t', hcall'⟩ := hr.call hcall (by simp)
      obtain ⟨p, hp⟩ := Option.isSome_iff_exists.mp hserver
      obtain ⟨k, hk, _⟩ := hr.server_alive hp
      have hle := hr.stdin_le hp
      have hfits : (w.stdin.held ++ (encode msg).bytes).length ≤ cap.size := by
        simp only [SystemState.size, List.length_append] at hroom ⊢
        omega
      have hne : (encode msg).bytes ≠ [] := by simp [Line.bytes]
      obtain ⟨pipe, hputs⟩ := Pipe.exists_puts_of_le hne hfits
      refine hr.single howner (.write (hr.program.symm.trans hprogram) hcall' ?_ ?_ hputs) hs'
        rfl hr.flushed
      · simp [hk]
      · rw [hr.complete, List.nil_append]
  | broken hprogram e hcall hserver =>
      obtain ⟨t', hcall'⟩ := hr.call hcall (by simp)
      exact hr.single howner
        (.broken (hr.program.symm.trans hprogram) e hcall' (hr.server_gone hserver)) hs' rfl
        hr.flushed
  | recv hprogram hcall =>
      obtain ⟨t', hcall'⟩ := hr.call hcall (by simp)
      exact hr.single howner (.recv (hr.program.symm.trans hprogram) hcall') hs' hr.complete
        hr.flushed
  | recvReturn hprogram hcall =>
      obtain ⟨t', hcall'⟩ := hr.call hcall (by simp)
      exact hr.single howner (.recvReturn (hr.program.symm.trans hprogram) hcall') hs'
        hr.complete hr.flushed
  | reader hreader hready hstep => exact hr.reader howner hreader hready hstep
  | @serve p hserver hrunning line rest hstdin =>
      obtain ⟨w₁, hw₁, hr₁, k, cs, hk, hlistens, hstate, hinput⟩ :=
        hr.take howner hserver hrunning hstdin
      have hfits : s.transport.pipeSize + (frames (M.handle p line.text).2).length ≤ cap.size := by
        have hsize := append_pipeSize howner (frames (M.handle p line.text).2)
        simp only [SystemState.size, hsize] at hroom
        omega
      have hfollows : Follows env encode M w₁ .server _ :=
        hr₁.handle howner hserver hrunning hstdin hk hlistens hstate hinput hfits
      rcases hw₁ with rfl | hw₁
      · exact hfollows
      · exact hfollows.after hw₁ rfl
  | exit hserver hhalted =>
      obtain ⟨k, hk, rfl⟩ := hr.server_alive hserver
      have hflushed : k.output = [] := (PipedState.output_eq hk).symm.trans hr.flushed
      exact hr.single howner (.exit hk hhalted hflushed) hs' hr.complete rfl

/-- Every run of the system is a run over pipes that are large enough, with a server that is
never deaf. -/
theorem exists_piped_run {es : List SystemLabel} (h : Run (system env encode M d timeout p) es s) :
    ∃ n, ∀ cap : Capacity, n ≤ cap.size → ∃ ls, ∃ w : PipedState cap σ ρ,
      Run (piped env encode M (fun _ => false) cap d timeout p) ls w ∧
        ls.filterMap PipedLabel.system? = es ∧ Rested encode w s := by
  induction h with
  | init hs =>
      obtain rfl := hs
      exact ⟨0, fun cap _ => ⟨[], _, .init rfl, rfl, .start encode d timeout p, rfl, rfl⟩⟩
  | @step es s s' l hrun hs ih =>
      obtain ⟨n, hn⟩ := ih
      obtain ⟨q, _, hr⟩ := run_refines hrun
      obtain ⟨_, hflowing⟩ := hr.flowing
      refine ⟨max n s'.size, fun cap hcap => ?_⟩
      obtain ⟨ls, w, hpiped, hlabels, hrested⟩ := hn cap (le_trans (le_max_left _ _) hcap)
      obtain ⟨fs, w', hpath, hshown, hrested'⟩ :=
        hrested.step hflowing.owner hs (le_trans (le_max_right _ _) hcap) d timeout p
      refine ⟨ls ++ fs, w', hpiped.extend hpath, ?_, hrested'⟩
      rw [List.filterMap_append, hlabels, hshown]

/-! ### What holds of every capacity -/

/-- The events of a run over bounded pipes. -/
def pipedEvents (ls : List PipedLabel) : List Event :=
  systemEvents (ls.filterMap PipedLabel.system?)

/-- The runs over bounded pipes, of any capacity, have exactly the events of the conversations,
and they leave the program where the conversation does. -/
theorem piped_events_iff (env : Env) (encode : Json → Line) (M : Machine σ String Line)
    (timeout : Option Duration) (d : Dialogue ρ) (p : σ) (fs : List Event) (d' : Dialogue ρ) :
    (∃ deaf cap ls, ∃ w : PipedState cap σ ρ,
        Run (piped env encode M deaf cap d timeout p) ls w ∧ pipedEvents ls = fs ∧
          w.program = d') ↔
      ∃ q, Run (conversation encode M timeout d p) fs q ∧ q.program = d' := by
  constructor
  · rintro ⟨deaf, cap, ls, w, hpiped, rfl, rfl⟩
    obtain ⟨s, hrun, hu⟩ := piped_run hpiped
    obtain ⟨q, hq, hr⟩ := run_refines hrun
    exact ⟨q, hq, hr.program.trans hu.program⟩
  · rintro ⟨q, hq, rfl⟩
    obtain ⟨es, s, hrun, hevents, hsettled⟩ := (realisation env encode M timeout d p).run hq
    obtain ⟨n, hn⟩ := exists_piped_run hrun
    obtain ⟨ls, w, hpiped, hlabels, hrested⟩ := hn ⟨n + 1, Nat.succ_pos n⟩ (Nat.le_succ n)
    refine ⟨_, _, ls, w, hpiped, ?_, hrested.program.symm.trans hsettled.program⟩
    unfold pipedEvents
    rw [hlabels]
    exact hevents

/-- Where the program waits for nothing in the system, nothing can go on over bounded pipes. -/
theorem Rested.stuck_of_deadlocked {deaf : σ → Bool} {l : PipedLabel} (hrest : Rested encode w s)
    (hr : Refines M timeout s q) (h : Deadlocked M s) :
    ¬ PipedStep env encode M deaf w l w' := by
  intro hs
  obtain ⟨outs, hflowing⟩ := hr.flowing
  rcases hrest.toUnpiped.step hflowing.owner hs with ⟨hl, _⟩ | ⟨k, s', _, hstep, _⟩
  · -- Both pipes and all buffers are empty, so no part of anything is left to move.
    obtain ⟨hwaiting, _, ⟨p, hserver, _⟩, hhandled, _, hunread⟩ := h
    obtain ⟨next, hread⟩ := hr.reading hwaiting
    cases hs with
    | push hprogram hserver hbytes hne hputs =>
        cases hread.symm.trans (hrest.program.trans hprogram)
    | @fill h hreader hpc hline chunk pipe htakes =>
        have hmore := hrest.toUnpiped.reader hreader
        obtain ⟨_, houts⟩ := List.append_eq_nil_iff.mp (hflowing.unread_eq.symm.trans hunread)
        obtain rfl := List.map_eq_nil_iff.mp houts
        have hbytes : h.stdout.bytes ++ (w.stdout.held ++ w.output) = [] :=
          congrArg ChildStdout.bytes (hflowing.piped _ hmore)
        rw [htakes.held] at hbytes
        simp [htakes.chunk_ne] at hbytes
    | take hserver hlistens htakes =>
        obtain ⟨_, hinput⟩ := hrest.alive _ hserver
        rw [hhandled, hrest.complete] at hinput
        have hheld := (List.append_eq_nil_iff.mp hinput).2
        rw [htakes.held] at hheld
        exact htakes.chunk_ne (List.append_eq_nil_iff.mp hheld).1
    | flush hserver houtput hputs =>
        have hflushed := (PipedState.output_eq hserver).symm.trans hrest.flushed
        exact hputs.chunk_ne (List.append_eq_nil_iff.mp (houtput.symm.trans hflushed)).1
    | _ => cases hl
  · exact hr.stuck_of_deadlocked h hstep

/-- A server that is never deaf, and has written all of its output, reads its stdin. -/
theorem Rested.reads (hrest : Rested encode w s) {k : Process σ} (hserver : w.server = some k) :
    ¬ NotReading (fun _ => false) w k := by
  intro hnot
  cases hnot with
  | deaf hdeaf => cases hdeaf
  | clogged houtput hfull hreader =>
      exact houtput ((PipedState.output_eq hserver).symm.trans hrest.flushed)

variable {post : ρ → Prop}

end OrgCli.Mcp
