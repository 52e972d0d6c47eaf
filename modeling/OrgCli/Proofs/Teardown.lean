import OrgCli.Mcp.Teardown
import OrgCli.Proofs.Progress

/-!
# `OrgCli.Proofs.Teardown`: what a drop leaves behind

When a program is done, its transport is dropped. `teardown_leaves` says what becomes of the
reader thread and the server, in every interleaving of the drop with both of them. The detached
thread is at most three steps away from its end: it fails to send the next line, and then it
leaves its loop. When the kill ends the server, nothing else is left. An orphan that holds the
pipes can keep the thread in its `read_line`, as long as it writes no line and does not exit.
-/

set_option autoImplicit false

namespace OrgCli.Mcp

open OrgCli.Support
open OrgCli.Mcp.Reader (newline Handle Pc)

variable {σ ρ : Type} {env : Env} {encode : Json → Line} {M : Machine σ String Line}
  {deaf quits : σ → Bool} {s s' : SystemState σ ρ} {t t' : TeardownState σ ρ} {l : TeardownLabel}

/-- The event of a step, as in the system. The drop itself has none. -/
def TeardownLabel.event? : TeardownLabel → Option Event
  | .system k => k.event?
  | .kill | .dropFields | .quit => none

/-- The steps that are left to a server that gets no more input: one for each line of its stdin,
and its exit. -/
def SystemState.serverSteps (s : SystemState σ ρ) : Nat :=
  if s.server.isSome then lineCount s.stdin + 1 else 0

/-- How far a detached thread is from its end. -/
def Reader.Pc.left : Pc → Nat
  | .finished => 0
  | .exiting => 1
  | .sending _ => 2
  | .reading => 3

/-- How far the thread of a transport is from its end. -/
def Reader.State.left (t : Reader.State) : Nat := (t.reader.map fun h => h.pc.left).getD 0

/-- What a drop keeps: the program is done, the server is gone after a kill that leaves no
orphan, and the thread's receiver after the drop of the fields. -/
structure Torn (t : TeardownState σ ρ) : Prop where
  done : ∃ r, t.system.program = .done r
  killed : t.pc ≠ .killing → t.orphaned = false → t.system.server = none
  detached : t.pc = .dropped → ∀ h, t.system.transport.reader = some h → h.rx.receiver = false

/-- What a step of the system does when the program is done: the server handles a line or exits,
or the thread takes a step. -/
inductive Idling (s : SystemState σ ρ) : SystemLabel → SystemState σ ρ → Prop
  | server {s' : SystemState σ ρ} {bytes : List UInt8} (halive : s.server ≠ none)
      (hprogram : s'.program = s.program) (htransport : s'.transport = s.transport.append bytes)
      (hsteps : s'.serverSteps + 1 ≤ s.serverSteps) : Idling s .server s'
  | reader {h h' : Handle} (hreader : s.transport.reader = some h) (hstep : h.step = some h') :
      Idling s (.client .reader) { s with transport := { s.transport with reader := some h' } }

/-- A step of the system beside a program that is done. -/
theorem done_step {r : ρ} {k : SystemLabel} (hdone : s.program = .done r)
    (hs : SystemStep env encode M s k s') : Idling s k s' := by
  cases hs with
  | write hprogram hcall hserver => cases hdone.symm.trans hprogram
  | broken hprogram e hcall hserver => cases hdone.symm.trans hprogram
  | recv hprogram hcall => cases hdone.symm.trans hprogram
  | recvReturn hprogram hcall => cases hdone.symm.trans hprogram
  | reader hreader hready hstep => exact .reader hreader hstep
  | serve hserver hrunning hstdin =>
      refine .server (by simp [hserver]) rfl rfl ?_
      simp only [SystemState.serverSteps, hserver, hstdin, lineCount_append, lineCount_bytes,
        Option.isSome_some, if_true]
      omega
  | exit hserver hhalted =>
      refine .server (by simp [hserver]) rfl (Reader.State.append_nil _).symm ?_
      simp [SystemState.serverSteps, hserver]

/-- A detached thread comes closer to its end with each step, and it stays detached. -/
theorem detached_step {h h' : Handle} (hdetached : h.rx.receiver = false)
    (hstep : h.step = some h') : h'.rx.receiver = false ∧ h'.pc.left + 1 ≤ h.pc.left := by
  obtain ⟨rx, stdout, pc⟩ := h
  unfold Handle.step at hstep
  cases pc with
  | reading =>
      simp only at hstep
      split at hstep <;> cases hstep <;> exact ⟨hdetached, by simp [Reader.Pc.left]⟩
  | sending item =>
      cases item with
      | ok line =>
          -- There is no receiver, so the send fails.
          have hsend : rx.send (.ok line) = none := if_neg (Bool.eq_false_iff.mp hdetached)
          simp only [hsend] at hstep
          cases hstep
          exact ⟨hdetached, Nat.le_refl _⟩
      | error e =>
          have hsend : rx.send (.error e) = none := if_neg (Bool.eq_false_iff.mp hdetached)
          simp only [hsend, Option.getD_none] at hstep
          cases hstep
          exact ⟨hdetached, Nat.le_refl _⟩
  | exiting =>
      cases hstep
      exact ⟨hdetached, Nat.le_refl _⟩
  | finished => cases hstep

/-- The start of a drop, after a program that is done. -/
theorem Torn.start {r : ρ} (hdone : s.program = .done r) : Torn ⟨.killing, false, s⟩ where
  done := ⟨r, hdone⟩
  killed h := absurd rfl h
  detached h := by cases h

/-- A step keeps it. -/
theorem Torn.step (h : Torn t) (hs : TeardownStep env encode M deaf quits t l t') : Torn t' := by
  obtain ⟨r, hdone⟩ := h.done
  cases hs with
  | @system pc orphaned s s' k hs hheard =>
      cases done_step hdone hs with
      | server halive hprogram htransport hsteps =>
          -- The server took the step, so the kill did not end it.
          refine ⟨⟨r, hprogram.trans hdone⟩,
            fun hpc horphan => absurd (h.killed hpc horphan) halive, fun hpc k hk => ?_⟩
          rw [htransport] at hk
          obtain ⟨k₀, hk₀, rfl⟩ := Option.map_eq_some_iff.mp hk
          exact h.detached hpc k₀ hk₀
      | reader hreader hstep =>
          refine ⟨⟨r, hdone⟩, h.killed, fun hpc k hk => ?_⟩
          obtain rfl := Option.some.inj hk
          exact (detached_step (h.detached hpc _ hreader) hstep).1
  | kill orphaned s => exact ⟨⟨r, hdone⟩, fun _ _ => rfl, fun hpc => by cases hpc⟩
  | orphan orphaned s hserver p =>
      refine ⟨⟨r, hdone⟩, fun _ horphan => ?_, fun hpc => by cases hpc⟩
      cases horphan
  | dropFields orphaned s =>
      refine ⟨⟨r, hdone⟩, fun _ => h.killed (by simp), fun _ k hk => ?_⟩
      obtain ⟨_, _, rfl⟩ := Option.map_eq_some_iff.mp hk
      rfl
  | quit orphaned hserver hhears hquits hend => exact ⟨⟨r, hdone⟩, fun _ _ => rfl, h.detached⟩

/-- Every state of a drop has it. -/
theorem torn {r : ρ} (hdone : s.program = .done r) {es : List TeardownLabel}
    (h : Run (teardown env encode M deaf quits s) es t) : Torn t := by
  induction h with
  | init ht =>
      obtain rfl := ht
      exact .start hdone
  | step _ hs ih => exact ih.step hs

/-- At most three steps are left to a thread. -/
theorem left_le (t : Reader.State) : t.left ≤ 3 := by
  unfold Reader.State.left
  cases t.reader with
  | none => exact Nat.zero_le 3
  | some h =>
      show h.pc.left ≤ 3
      cases h.pc <;> simp [Reader.Pc.left]

/-- When the transport is dropped, every step is one of the thread, which comes closer to its
end, or one of an orphan. -/
theorem dropped_step (h : Torn t) (hpc : t.pc = .dropped)
    (hs : TeardownStep env encode M deaf quits t l t') :
    t'.pc = .dropped ∧ t'.system.transport.left + t'.system.serverSteps + 1
      ≤ t.system.transport.left + t.system.serverSteps := by
  obtain ⟨r, hdone⟩ := h.done
  cases hs with
  | @system pc orphaned s s' k hs hheard =>
      refine ⟨hpc, ?_⟩
      cases done_step hdone hs with
      | server halive hprogram htransport hsteps =>
          have hleft : s'.transport.left = s.transport.left := by
            rw [htransport]
            unfold Reader.State.left Reader.State.append
            cases s.transport.reader <;> rfl
          have hlower : s'.serverSteps + 1 ≤ s.serverSteps := hsteps
          show s'.transport.left + s'.serverSteps + 1 ≤ s.transport.left + s.serverSteps
          omega
      | @reader k k' hreader hstep =>
          have hleft : s.transport.left = k.pc.left := by
            unfold Reader.State.left
            rw [hreader]
            rfl
          have hlower := (detached_step (h.detached hpc k hreader) hstep).2
          show k'.pc.left + s.serverSteps + 1 ≤ s.transport.left + s.serverSteps
          omega
  | kill | orphan | dropFields => cases hpc
  | quit orphaned hserver hhears hquits hend =>
      refine ⟨rfl, ?_⟩
      simp [SystemState.serverSteps, hserver]

/-- After the drop there are no more steps than are left to the thread and to an orphan. -/
theorem dropped_path {s : SystemState σ ρ} {fs : List TeardownLabel} (h : Torn t)
    (hpc : t.pc = .dropped) (hpath : Path (teardown env encode M deaf quits s) t fs t') :
    fs.length ≤ t.system.transport.left + t.system.serverSteps := by
  induction hpath with
  | nil t => exact Nat.zero_le _
  | @cons t t₁ t₂ l fs hs _ ih =>
      obtain ⟨hpc', hleft⟩ := dropped_step h hpc hs
      have hrest := ih (h.step hs) hpc'
      rw [List.length_cons]
      omega

/-- A step of a drop is no call. -/
theorem Torn.silent (h : Torn t) (hs : TeardownStep env encode M deaf quits t l t') :
    l.event? = none := by
  obtain ⟨r, hdone⟩ := h.done
  cases hs with
  | system hs => cases done_step hdone hs <;> rfl
  | kill | orphan | dropFields | quit => rfl

/-- An orphan that is left keeps the pipes open. It is deaf, or it waits for its stdin and does not
quit at the end of it. The thread has ended, or it waits for the rest of a line of the orphan. -/
structure Orphaned (M : Machine σ String Line) (deaf quits : σ → Bool) (t : TeardownState σ ρ) :
    Prop where
  orphaned : t.orphaned = true
  stays : ∃ p, t.system.server = some p ∧ M.halted p = false ∧
    (deaf p = true ∨
      (quits p = false ∧ ∀ (l : Line) (rest : List UInt8), t.system.stdin ≠ l.bytes ++ rest))
  thread : ∀ h, t.system.transport.reader = some h →
    h.pc = .finished ∨ (h.pc = .reading ∧ newline ∉ h.stdout.bytes)

/-- A server that cannot step after the drop runs. It is deaf, or it waits for its stdin. -/
theorem server_stays {orphaned : Bool} {p : σ} (hserver : s.server = some p)
    (hstuck : ∀ l t', ¬ TeardownStep env encode M deaf quits ⟨.dropped, orphaned, s⟩ l t') :
    M.halted p = false ∧ (deaf p = true ∨
      (quits p = false ∧ ∀ (l : Line) (rest : List UInt8), s.stdin ≠ l.bytes ++ rest)) := by
  have hrunning : M.halted p = false := by
    cases hhalted : M.halted p with
    | false => rfl
    | true =>
        have hheard : Heard M deaf s .server := by
          intro _ p' hp' hrunning
          obtain rfl := Option.some.inj (hserver.symm.trans hp')
          cases hhalted.symm.trans hrunning
        exact absurd (.system (.exit hserver hhalted) hheard) (hstuck _ _)
  refine ⟨hrunning, ?_⟩
  cases hdeaf : deaf p with
  | true => exact Or.inl rfl
  | false =>
      have hheard : Heard M deaf s .server := by
        intro _ p' hp' _
        obtain rfl := Option.some.inj (hserver.symm.trans hp')
        exact hdeaf
      have hidle : ∀ (l : Line) (rest : List UInt8), s.stdin ≠ l.bytes ++ rest :=
        fun l rest hstdin => hstuck _ _ (.system (.serve hserver hrunning hstdin) hheard)
      refine Or.inr ⟨?_, hidle⟩
      cases hquits : quits p with
      | false => rfl
      | true => exact absurd (.quit orphaned hserver hdeaf hquits hidle) (hstuck _ _)

/-- A drop comes to rest when the server is gone and the thread has ended, or with an orphan. -/
theorem Torn.stuck (h : Torn t) (hstuck : ∀ l t', ¬ TeardownStep env encode M deaf quits t l t') :
    t.pc = .dropped ∧
      ((t.system.server = none ∧
          ∀ k, t.system.transport.reader = some k → k.pc = .finished) ∨
        Orphaned M deaf quits t) := by
  obtain ⟨pc, orphaned, s⟩ := t
  have hdropped : pc = .dropped := by
    cases pc with
    | killing => exact absurd (.kill orphaned s) (hstuck _ _)
    | dropping => exact absurd (.dropFields orphaned s) (hstuck _ _)
    | dropped => rfl
  subst hdropped
  refine ⟨rfl, ?_⟩
  have hthread : ∀ k, s.transport.reader = some k →
      k.pc = .finished ∨ (k.pc = .reading ∧ newline ∉ k.stdout.bytes ∧ s.server ≠ none) := by
    intro k hreader
    by_cases hpc : k.pc = .finished
    · exact Or.inl hpc
    · obtain ⟨k', hstep⟩ := step_of_ne_finished hpc
      have hblocked : ¬ Ready s.server k := fun hready =>
        hstuck _ _ (.system (.reader hreader hready hstep) (by intro hl; cases hl))
      obtain ⟨hreading, hblocked⟩ := Classical.not_imp.mp hblocked
      exact Or.inr ⟨hreading, not_or.mp hblocked⟩
  cases hserver : s.server with
  | none =>
      refine Or.inl ⟨rfl, fun k hreader => (hthread k hreader).resolve_right ?_⟩
      exact fun ⟨_, _, halive⟩ => halive hserver
  | some p =>
      right
      refine ⟨?_, ⟨p, hserver, ?_⟩, fun k hreader => ?_⟩
      · cases orphaned with
        | true => rfl
        | false => cases (h.killed (by simp) rfl).symm.trans hserver
      · exact server_stays hserver hstuck
      · exact (hthread k hreader).imp_right fun ⟨hreading, hline, _⟩ => ⟨hreading, hline⟩

/-- What the drop of a transport leaves behind, when the program is done. In every interleaving
with the reader thread and the server nothing is sent and nothing is received. After the drop
the server is gone if the kill left no orphan, and at most three steps of the thread are left
besides those of an orphan. The drop comes to rest with the server gone and the thread ended, or
with an orphan that keeps the pipes open: the thread has ended, or it waits for the rest of a
line of the orphan. -/
theorem teardown_leaves (env : Env) (encode : Json → Line) (M : Machine σ String Line)
    (deaf quits : σ → Bool) (s : SystemState σ ρ) (r : ρ) (hdone : s.program = .done r)
    (es : List TeardownLabel) (t : TeardownState σ ρ)
    (h : Run (teardown env encode M deaf quits s) es t) :
    es.filterMap TeardownLabel.event? = [] ∧
      (t.pc = .dropped →
        (t.orphaned = false → t.system.server = none) ∧
        ∀ fs t', Path (teardown env encode M deaf quits s) t fs t' →
          fs.length ≤ 3 + t.system.serverSteps) ∧
      ((∀ l t', ¬ TeardownStep env encode M deaf quits t l t') →
        t.pc = .dropped ∧
          ((t.system.server = none ∧
              ∀ k, t.system.transport.reader = some k → k.pc = .finished) ∨
            Orphaned M deaf quits t)) := by
  refine ⟨?_, fun hpc => ⟨(torn hdone h).killed (by simp [hpc]), fun fs t' hpath => ?_⟩,
    (torn hdone h).stuck⟩
  · induction h with
    | init ht => rfl
    | step hrun hs ih =>
        rw [List.filterMap_append, ih]
        simp [(torn hdone hrun).silent hs]
  · have hsteps := dropped_path (torn hdone h) hpc hpath
    have hleft := left_le t.system.transport
    omega

/-- A drop that comes to rest with a deaf orphan. A message is in its stdin, and the thread waits
for a line of it. -/
theorem teardown_leaves_orphan :
    ∃ (s : SystemState Unit Unit) (t : TeardownState Unit Unit),
      s.program = .done () ∧
      Run (teardown (.replay []) (fun _ => helloLine) greeter (fun _ => true) (fun _ => true) s)
        [.kill, .dropFields] t ∧
      t.pc = .dropped ∧ Orphaned greeter (fun _ => true) (fun _ => true) t := by
  let thread : Handle := ⟨.new, ⟨[], none⟩, .reading⟩
  let s : SystemState Unit Unit :=
    ⟨.done (), ⟨none, some thread, none, .idle⟩, helloLine.bytes, some ()⟩
  have hrun : Run (teardown (.replay []) (fun _ => helloLine) greeter (fun _ => true)
      (fun _ => true) s) [] ⟨.killing, false, s⟩ := .init rfl
  have hrun := (hrun.step (.orphan false s rfl ())).step (.dropFields true s)
  obtain ⟨_, _, hrest⟩ := teardown_leaves _ _ _ _ _ s () rfl _ _ hrun
  obtain ⟨hpc, ⟨hgone, _⟩ | horphaned⟩ := hrest fun l t' hs => by
    cases hs with
    | system hs hheard =>
        cases hs with
        | write hprogram hcall hserver => cases hprogram
        | broken hprogram e hcall hserver => cases hprogram
        | recv hprogram hcall => cases hprogram
        | recvReturn hprogram hcall => cases hprogram
        | reader hreader hready hstep =>
            cases hreader
            rcases hready rfl with hline | hgone
            · cases hline
            · cases hgone
        | serve hserver hrunning hstdin => cases hheard rfl _ hserver hrunning
        | exit hserver hhalted => cases hhalted
    | quit orphaned hserver hhears hquits hend => cases hhears
  · cases hgone
  · exact ⟨s, _, rfl, hrun, hpc, horphaned⟩

end OrgCli.Mcp
