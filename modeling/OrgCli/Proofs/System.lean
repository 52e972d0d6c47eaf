import OrgCli.Spec.Conversation

/-!
# `OrgCli.Proofs.System`: every interleaving is a conversation

`Refines` relates a state of the system to a conversation. The conversation's server is ahead
of the process (`Ahead`): it has handled what is still in the stdin pipe. What the process
owes, what is in the stdout pipe, in the reader's hands and in the channel are together the
pending lines.

`simulation` goes through the steps. A call of the main thread is a step of the conversation,
and every other step moves lines along and leaves the conversation as it is. The lemmas on
`Flowing` say what a step does to the transport, and the lemmas on `Ahead` what it does to
the server.
-/

set_option autoImplicit false

namespace OrgCli.Mcp

open OrgCli.Support
open OrgCli.Mcp.Reader (newline Handle ChildStdout decodeLine itemsOf lineItem)

/-! ### Lines in a pipe -/

@[simp] theorem frames_nil : frames [] = [] := rfl

@[simp] theorem frames_cons (l : Line) (ls : List Line) :
    frames (l :: ls) = l.bytes ++ frames ls := rfl

@[simp] theorem frames_append (ls ms : List Line) :
    frames (ls ++ ms) = frames ls ++ frames ms := List.flatMap_append

/-- The text of a line reads back from its bytes. -/
theorem decodeLine_line (l : Line) : decodeLine l.bytes = l.item := by
  have hbytes : l.bytes.toByteArray = (l.text ++ "\n").toByteArray := by
    rw [String.toByteArray_append]
    unfold Line.bytes
    rw [List.toByteArray_append]
    congr 1
    exact ByteArray.ext (by simp)
  unfold decodeLine String.fromUTF8?
  rw [hbytes, dif_pos (l.text ++ "\n").isValidUTF8]
  rfl

/-- The first line of a pipe is read first. -/
theorem takeLine_bytes (l : Line) (rest : List UInt8) :
    takeLine newline (l.bytes ++ rest) = (l.bytes, rest) := by
  unfold Line.bytes
  rw [List.append_assoc]
  exact takeLine_append newline l.single rest

/-- The lines of a pipe are its items. -/
theorem items_frames (ls : List Line) :
    ChildStdout.items ⟨frames ls, none⟩ = ls.map Line.item := by
  unfold ChildStdout.items
  induction ls with
  | nil => rfl
  | cons l ls ih =>
      have hsplit : splitLines newline (frames (l :: ls))
          = l.bytes :: splitLines newline (frames ls) := by
        rw [frames_cons]
        unfold Line.bytes
        rw [List.append_assoc]
        exact splitLines_append newline l.single _
      have hitem : lineItem none l.bytes = l.item := decodeLine_line l
      rw [hsplit, itemsOf, hitem, List.map_cons]
      exact congrArg (l.item :: ·) ih

/-- The first line of a pipe is one line. -/
theorem Line.bytes_inj {l m : Line} {as bs : List UInt8} (h : l.bytes ++ as = m.bytes ++ bs) :
    l = m ∧ as = bs := by
  have hread := takeLine_bytes l as
  rw [h, takeLine_bytes] at hread
  obtain ⟨hbytes, hrest⟩ := Prod.mk.inj hread
  -- Two lines with the same bytes have the same text.
  have htext : l.text = m.text := by
    obtain ⟨hbytes, _⟩ := List.append_inj' hbytes rfl
    have := ByteArray.ext (Array.toList_inj.mp hbytes)
    exact (String.toByteArray_inj.mp this).symm
  obtain ⟨text, hsingle⟩ := l
  obtain ⟨text', hsingle'⟩ := m
  cases htext
  exact ⟨rfl, hrest.symm⟩

/-- A pipe that starts with a line holds that line first. -/
theorem frames_eq_append {ls : List Line} {l : Line} {rest : List UInt8}
    (h : frames ls = l.bytes ++ rest) : ∃ ms, ls = l :: ms ∧ rest = frames ms := by
  cases ls with
  | nil =>
      have hlength := congrArg List.length h
      simp [Line.bytes] at hlength
  | cons m ms =>
      rw [frames_cons] at h
      obtain ⟨rfl, rfl⟩ := Line.bytes_inj h
      exact ⟨ms, rfl, rfl⟩

/-! ### More bytes in a pipe -/

@[simp] theorem Reader.ChildStdout.append_nil (stdout : ChildStdout) :
    stdout.append [] = stdout := by
  unfold ChildStdout.append
  rw [List.append_nil]

@[simp] theorem Reader.ChildStdout.append_append (stdout : ChildStdout) (as bs : List UInt8) :
    (stdout.append as).append bs = stdout.append (as ++ bs) := by
  unfold ChildStdout.append
  rw [List.append_assoc]

@[simp] theorem Reader.Handle.append_nil (h : Handle) : h.append [] = h := by
  unfold Handle.append
  rw [ChildStdout.append_nil]

@[simp] theorem Reader.Handle.append_append (h : Handle) (as bs : List UInt8) :
    (h.append as).append bs = h.append (as ++ bs) := by
  unfold Handle.append
  rw [ChildStdout.append_append]

@[simp] theorem Reader.State.append_nil (t : Reader.State) : t.append [] = t := by
  obtain ⟨stdout, reader, timeout, main⟩ := t
  cases stdout <;> cases reader <;> simp [Reader.State.append]

@[simp] theorem Reader.State.append_append (t : Reader.State) (as bs : List UInt8) :
    (t.append as).append bs = t.append (as ++ bs) := by
  obtain ⟨stdout, reader, timeout, main⟩ := t
  cases stdout <;> cases reader <;> simp [Reader.State.append]

/-! ### The server -/

variable {σ ρ : Type} {env : Env} {encode : Json → Line} {M : Machine σ String Line}
  {timeout : Option Duration}

/-- The server of the conversation is `p`, and the process still owes it the lines `owed`. -/
inductive Ahead (M : Machine σ String Line) : Option σ → List UInt8 → σ → List Line → Prop
  | alive (s : σ) (ls : List Line) :
      Ahead M (some s) (frames ls) (M.feed s (ls.map Line.text)).1
        (M.feed s (ls.map Line.text)).2
  | gone (stdin : List UInt8) {p : σ} (hhalted : M.halted p = true) : Ahead M none stdin p []

/-- The stdin pipe of a process holds whole lines. -/
theorem Ahead.stdin_eq {s p : σ} {stdin : List UInt8} {owed : List Line}
    (h : Ahead M (some s) stdin p owed) : ∃ ls, stdin = frames ls := by
  cases h with
  | alive s ls => exact ⟨ls, rfl⟩

/-- A process with an empty stdin is not behind. -/
theorem Ahead.handled {s p : σ} {owed : List Line} (h : Ahead M (some s) [] p owed) :
    p = s ∧ owed = [] := by
  generalize hstdin : ([] : List UInt8) = stdin at h
  cases h with
  | alive s ls =>
      cases ls with
      | nil => exact ⟨rfl, rfl⟩
      | cons l ls => simp [Line.bytes] at hstdin

/-- A message that is written is one more input for both. -/
theorem Ahead.write {s p : σ} {stdin : List UInt8} {owed : List Line}
    (h : Ahead M (some s) stdin p owed) (l : Line) :
    Ahead M (some s) (stdin ++ l.bytes) (M.react p l.text).1 (owed ++ (M.react p l.text).2) := by
  cases h with
  | alive s ls =>
      have hnext := Ahead.alive (M := M) s (ls ++ [l])
      rw [List.map_append, Machine.feed_append, List.map_singleton, Machine.feed_singleton,
        frames_append, frames_cons, frames_nil, List.append_nil] at hnext
      exact hnext

/-- The process handles a line, and owes less. -/
theorem Ahead.serve {s p : σ} {l : Line} {rest : List UInt8} {owed : List Line}
    (h : Ahead M (some s) (l.bytes ++ rest) p owed) (hrunning : M.halted s = false) :
    ∃ owed', owed = (M.handle s l.text).2 ++ owed' ∧
      Ahead M (some (M.handle s l.text).1) rest p owed' := by
  generalize hstdin : l.bytes ++ rest = stdin at h
  cases h with
  | alive s ls =>
      obtain ⟨ms, rfl, rfl⟩ := frames_eq_append hstdin.symm
      rw [List.map_cons, Machine.feed, Machine.react_of_not hrunning]
      exact ⟨_, rfl, .alive _ ms⟩

/-- A process that stops owes nothing. -/
theorem Ahead.exit {s p : σ} {stdin : List UInt8} {owed : List Line}
    (h : Ahead M (some s) stdin p owed) (hhalted : M.halted s = true) :
    owed = [] ∧ Ahead M none stdin p owed := by
  cases h with
  | alive s ls =>
      rw [Machine.feed_of_halted hhalted]
      exact ⟨rfl, .gone _ hhalted⟩

/-! ### The transport -/

/-- What every state of the transport keeps. The lines `outs` are in the stdout pipe, and
`gone` says that the server process is gone. -/
structure Flowing (gone : Prop) (outs : List Line) (t : Reader.State) : Prop where
  owner : t.stdout.isSome = t.reader.isNone
  stdout : ∀ out, t.stdout = some out → out = ⟨frames outs, none⟩
  piped : ∀ h, t.reader = some h → h.stdout = ⟨frames outs, none⟩
  connected : ∀ h, t.reader = some h → h.Connected
  healthy : ∀ h, t.reader = some h → ∀ e, h.pc ≠ .sending (.error e)
  -- The thread leaves its loop only at the end of the file.
  ended : ∀ h, t.reader = some h → h.pc = .exiting ∨ h.pc = .finished → gone ∧ outs = []
  waiting : t.main = .waiting → t.reader.isSome
  running : t.main ≠ .panicked

variable {gone : Prop} {outs : List Line} {t t' : Reader.State}

/-- A new transport has an empty pipe. -/
theorem Flowing.start (gone : Prop) (timeout : Option Duration) :
    Flowing gone [] { Reader.State.spawned ⟨[], none⟩ with timeout := timeout } where
  owner := rfl
  stdout out h := (Option.some.inj h).symm
  piped h hreader := by cases hreader
  connected h hreader := by cases hreader
  healthy h hreader := by cases hreader
  ended h hreader := by cases hreader
  waiting h := by cases h
  running h := by cases h

/-- The line in the hands of the reader thread, if there is one. -/
def Reader.State.held (t : Reader.State) : List Item :=
  match t.reader with
  | none => []
  | some h =>
      match h.pc with
      | .sending item => [item]
      | _ => []

/-- What the reader thread has not sent is in its hands or in the pipe. -/
theorem Flowing.unread_eq (hf : Flowing gone outs t) :
    t.unread = t.held ++ outs.map Line.item := by
  unfold Reader.State.unread Reader.State.held
  cases hreader : t.reader with
  | none =>
      have howner := hf.owner
      rw [hreader] at howner
      obtain ⟨out, hout⟩ := Option.isSome_iff_exists.mp howner
      rw [hout, hf.stdout out hout]
      exact items_frames outs
  | some h =>
      have hpiped := hf.piped h hreader
      have hhealthy := hf.healthy h hreader
      have hended := hf.ended h hreader
      obtain ⟨rx, stdout, pc⟩ := h
      obtain rfl := hpiped
      cases pc with
      | reading => exact items_frames outs
      | sending item =>
          cases item with
          | ok text => exact congrArg (_ :: ·) (items_frames outs)
          | error e => exact absurd rfl (hhealthy e)
      | exiting =>
          obtain ⟨_, rfl⟩ := hended (Or.inl rfl)
          rfl
      | finished =>
          obtain ⟨_, rfl⟩ := hended (Or.inr rfl)
          rfl

/-- What the server writes comes after what is unread. -/
theorem Flowing.append (hf : Flowing gone outs t) (hgone : ¬ gone) (ms : List Line) :
    Flowing gone (outs ++ ms) (t.append (frames ms)) ∧
      (t.append (frames ms)).queued = t.queued ∧
      (t.append (frames ms)).unread = t.unread ++ ms.map Line.item := by
  have hpipe : ∀ out : ChildStdout, out = ⟨frames outs, none⟩ →
      out.append (frames ms) = ⟨frames (outs ++ ms), none⟩ := by
    intro out hout
    rw [hout, frames_append]
    rfl
  have hreader : ∀ h, (t.append (frames ms)).reader = some h →
      ∃ h₀, t.reader = some h₀ ∧ h = h₀.append (frames ms) := by
    intro h hh
    obtain ⟨h₀, hh₀, rfl⟩ := Option.map_eq_some_iff.mp hh
    exact ⟨h₀, hh₀, rfl⟩
  have hflowing : Flowing gone (outs ++ ms) (t.append (frames ms)) := by
    refine ⟨?_, ?_, ?_, ?_, ?_, ?_, ?_, hf.running⟩
    · simpa [Reader.State.append] using hf.owner
    · intro out hout
      obtain ⟨out₀, hout₀, rfl⟩ := Option.map_eq_some_iff.mp hout
      exact hpipe out₀ (hf.stdout out₀ hout₀)
    · intro h hh
      obtain ⟨h₀, hh₀, rfl⟩ := hreader h hh
      exact hpipe h₀.stdout (hf.piped h₀ hh₀)
    · intro h hh
      obtain ⟨h₀, hh₀, rfl⟩ := hreader h hh
      exact ⟨(hf.connected h₀ hh₀).receiver, (hf.connected h₀ hh₀).sender⟩
    · intro h hh
      obtain ⟨h₀, hh₀, rfl⟩ := hreader h hh
      exact hf.healthy h₀ hh₀
    · intro h hh hpc
      obtain ⟨h₀, hh₀, rfl⟩ := hreader h hh
      exact absurd (hf.ended h₀ hh₀ hpc).1 hgone
    · intro hmain
      have hwaiting := hf.waiting hmain
      simpa [Reader.State.append] using hwaiting
  have hheld : (t.append (frames ms)).held = t.held := by
    unfold Reader.State.held Reader.State.append
    cases t.reader <;> rfl
  refine ⟨hflowing, ?_, ?_⟩
  · unfold Reader.State.queued Reader.State.append
    cases t.reader <;> rfl
  · rw [hflowing.unread_eq, hf.unread_eq, hheld, List.map_append, List.append_assoc]

/-- The first `recv` moves the pipe into the reader thread. A later one only starts to
wait. -/
theorem Flowing.startRecv (hf : Flowing gone outs t) :
    Flowing gone outs t.startRecv ∧ t.startRecv.main = .waiting ∧
      t.startRecv.queued = t.queued ∧ t.startRecv.unread = t.unread := by
  obtain ⟨stdout, reader, timeout, main⟩ := t
  cases reader with
  | some h =>
      refine ⟨⟨hf.owner, hf.stdout, hf.piped, hf.connected, hf.healthy, hf.ended,
        fun _ => rfl, ?_⟩, rfl, rfl, rfl⟩
      intro hmain
      cases hmain
  | none =>
      obtain ⟨out, hout⟩ := Option.isSome_iff_exists.mp hf.owner
      have hpipe := hf.stdout out hout
      obtain rfl := hout
      have hnew : ∀ h, some (⟨.new, out, .reading⟩ : Handle) = some h →
          h = ⟨.new, out, .reading⟩ := by
        intro h hh
        exact (Option.some.inj hh).symm
      refine ⟨⟨rfl, ?_, ?_, ?_, ?_, ?_, fun _ => rfl, ?_⟩, rfl, rfl, rfl⟩
      · intro out' hout'
        cases hout'
      · intro h hh
        obtain rfl := hnew h hh
        exact hpipe
      · intro h hh
        obtain rfl := hnew h hh
        exact ⟨rfl, by simp [Channel.new]⟩
      · intro h hh e hpc
        obtain rfl := hnew h hh
        cases hpc
      · intro h hh hpc
        obtain rfl := hnew h hh
        rcases hpc with hpc | hpc <;> cases hpc
      · intro hmain
        cases hmain

/-- A later `recv` leaves the thread alone. -/
theorem startRecv_reader {h : Handle} (hreader : t.reader = some h) :
    t.startRecv.reader = some h := by
  obtain ⟨stdout, reader, timeout, main⟩ := t
  obtain rfl := hreader
  rfl

/-- At an empty pipe the thread leaves its loop. -/
theorem step_reading_nil (rx : Channel Item) :
    Handle.step ⟨rx, ⟨[], none⟩, .reading⟩ = some ⟨rx, ⟨[], none⟩, .exiting⟩ := by
  have hread : ChildStdout.readLine ⟨[], none⟩ = (.ok (0, ""), ⟨[], none⟩) := by
    decide +kernel
  simp only [Handle.step, hread]

/-- The thread reads one line, and all of it. -/
theorem step_reading_cons (rx : Channel Item) (l : Line) (ls : List Line) :
    Handle.step ⟨rx, ⟨frames (l :: ls), none⟩, .reading⟩
      = some ⟨rx, ⟨frames ls, none⟩, .sending l.item⟩ := by
  have hitem : lineItem none l.bytes = l.item := decodeLine_line l
  have hread : ChildStdout.readLine ⟨frames (l :: ls), none⟩
      = (.ok (l.text.toByteArray.data.toList.length + 1, l.text ++ "\n"), ⟨frames ls, none⟩) := by
    unfold ChildStdout.readLine
    rw [frames_cons, takeLine_bytes]
    simp only [hitem]
    simp [Line.item, Line.bytes, Except.map]
  simp only [Handle.step, hread]
  rfl

/-- What a step of the reader thread does, with the lines in the pipe before it and after
it. -/
inductive Moved : Handle → List Line → Handle → List Line → Prop
  | eof (rx : Channel Item) : Moved ⟨rx, ⟨[], none⟩, .reading⟩ [] ⟨rx, ⟨[], none⟩, .exiting⟩ []
  | line (rx : Channel Item) (l : Line) (ls : List Line) :
      Moved ⟨rx, ⟨frames (l :: ls), none⟩, .reading⟩ (l :: ls)
        ⟨rx, ⟨frames ls, none⟩, .sending l.item⟩ ls
  | sent (rx : Channel Item) (text : String) (outs : List Line) :
      Moved ⟨rx, ⟨frames outs, none⟩, .sending (.ok text)⟩ outs
        ⟨{ rx with queue := rx.queue ++ [.ok text] }, ⟨frames outs, none⟩, .reading⟩ outs
  | dropped (rx : Channel Item) (outs : List Line) :
      Moved ⟨rx, ⟨frames outs, none⟩, .exiting⟩ outs
        ⟨rx.dropSender, ⟨frames outs, none⟩, .finished⟩ outs

/-- A step of the reader thread is one of these. -/
theorem Flowing.moved (hf : Flowing gone outs t) {h h' : Handle} (hreader : t.reader = some h)
    (hstep : h.step = some h') : ∃ outs', Moved h outs h' outs' := by
  have hpiped := hf.piped h hreader
  have hhealthy := hf.healthy h hreader
  have hreceiver := (hf.connected h hreader).receiver
  obtain ⟨rx, stdout, pc⟩ := h
  obtain rfl := hpiped
  cases pc with
  | reading =>
      cases outs with
      | nil =>
          rw [frames_nil, step_reading_nil] at hstep
          cases hstep
          exact ⟨[], .eof rx⟩
      | cons l ls =>
          rw [step_reading_cons] at hstep
          cases hstep
          exact ⟨ls, .line rx l ls⟩
  | sending item =>
      cases item with
      | error e => exact absurd rfl (hhealthy e)
      | ok text =>
          -- The receiver is there as long as the transport is.
          have hsend : rx.send (.ok text) = some { rx with queue := rx.queue ++ [.ok text] } :=
            if_pos hreceiver
          simp only [Handle.step, hsend] at hstep
          cases hstep
          exact ⟨outs, .sent rx text outs⟩
  | exiting =>
      cases hstep
      exact ⟨outs, .dropped rx outs⟩
  | finished => cases hstep

/-- A step of the reader thread moves one line along. -/
theorem Flowing.reader (hf : Flowing gone outs t) {h h' : Handle} (hreader : t.reader = some h)
    (hready : h.pc = .reading → newline ∈ h.stdout.bytes ∨ gone) (hstep : h.step = some h') :
    (∃ outs', Flowing gone outs' { t with reader := some h' }) ∧
      h'.rx.queue ++ h'.unread = h.rx.queue ++ h.unread := by
  have hended := hf.ended h hreader
  obtain ⟨hconnected, hflow⟩ := Handle.step_flow (hf.connected h hreader) hstep
  obtain ⟨outs', hmoved⟩ := hf.moved hreader hstep
  refine ⟨⟨outs', ?_⟩, hflow⟩
  have howner := hf.owner
  rw [hreader] at howner
  have hstdout : t.stdout = none := Option.not_isSome_iff_eq_none.mp (by simp [howner])
  refine ⟨howner, ?_, ?_, ?_, ?_, ?_, fun _ => rfl, hf.running⟩
  · intro out hout
    rw [hstdout] at hout
    cases hout
  · intro k hk
    obtain rfl := Option.some.inj hk
    cases hmoved <;> rfl
  · intro k hk
    obtain rfl := Option.some.inj hk
    exact hconnected
  · intro k hk e hpc
    obtain rfl := Option.some.inj hk
    cases hmoved <;> cases hpc
  · intro k hk hpc
    obtain rfl := Option.some.inj hk
    cases hmoved with
    | eof rx =>
        rcases hready rfl with hline | hgone
        · cases hline
        · exact ⟨hgone, rfl⟩
    | line rx l ls => rcases hpc with hpc | hpc <;> cases hpc
    | sent rx text outs => rcases hpc with hpc | hpc <;> cases hpc
    | dropped rx outs => exact hended (Or.inl rfl)

/-- The end of a wait leaves the pipe and the thread alone. -/
theorem Flowing.idle (hf : Flowing gone outs t) :
    Flowing gone outs { t with main := .idle } := by
  refine ⟨hf.owner, hf.stdout, hf.piped, hf.connected, hf.healthy, hf.ended, ?_, ?_⟩
  · intro hmain
    cases hmain
  · intro hmain
    cases hmain

/-! ### The refinement -/

/-- The conversation `q` is what the main thread sees of the state `s`. -/
structure Refines (M : Machine σ String Line) (timeout : Option Duration) (s : SystemState σ ρ)
    (q : Conversation σ ρ) : Prop where
  program : q.program = s.program
  timeout : s.transport.timeout = timeout
  reading : s.transport.main = .waiting → ∃ next, s.program = .read next
  flowing : ∃ outs, Flowing (s.server = none) outs s.transport
  ahead : ∃ owed, Ahead M s.server s.stdin q.server owed ∧
    q.pending = s.transport.queued ++ s.transport.unread ++ owed.map Line.item
  -- What the program has seen of the server's end is so.
  gone : q.link ≠ .up → s.server = none
  closed : q.link = .closed → ∃ h, s.transport.reader = some h ∧ h.rx.sender = false

variable {s s' : SystemState σ ρ} {q : Conversation σ ρ} {l : SystemLabel}

/-- The start of the system is the start of the conversation. -/
theorem Refines.start (M : Machine σ String Line) (timeout : Option Duration) (d : Dialogue ρ)
    (p : σ) : Refines M timeout (.start d timeout p) ⟨d, p, [], .up⟩ where
  program := rfl
  timeout := rfl
  reading h := by cases h
  flowing := ⟨[], .start _ timeout⟩
  ahead := ⟨[], .alive p [], rfl⟩
  gone h := absurd rfl h
  closed h := by cases h

/-- What a step is for the conversation: nothing, or a step with the event of the label. -/
def Matched (encode : Json → Line) (M : Machine σ String Line) (timeout : Option Duration)
    (l : SystemLabel) (s' : SystemState σ ρ) (q : Conversation σ ρ) : Prop :=
  (l.event? = none ∧ Refines M timeout s' q) ∨
    ∃ e q', l.event? = some e ∧ ConversationStep encode M timeout q e q' ∧
      Refines M timeout s' q'

/-- A message of the main thread. -/
theorem Refines.write (hr : Refines M timeout s q) {msg : Json}
    {next : WriteOutcome → Dialogue ρ} (hprogram : s.program = .write msg next)
    (hidle : s.transport.main = .idle) {p : σ} (hserver : s.server = some p) :
    ∃ q', ConversationStep encode M timeout q (.write msg .ok) q' ∧ Refines M timeout
      { s with program := next .ok, stdin := s.stdin ++ (encode msg).bytes } q' := by
  obtain ⟨program, server, pending, link⟩ := q
  obtain rfl := hr.program.trans hprogram
  obtain ⟨owed, hahead, hpending⟩ := hr.ahead
  -- The process is there, so the program has seen nothing else.
  have hup : link = .up := by
    by_contra hne
    have hgone := hr.gone hne
    rw [hserver] at hgone
    cases hgone
  subst hup
  rw [hserver] at hahead
  refine ⟨_, .write msg next server pending, rfl, hr.timeout, ?_, hr.flowing, ?_,
    fun h => absurd rfl h, fun h => by cases h⟩
  · intro hmain
    rw [hidle] at hmain
    cases hmain
  · refine ⟨_, hserver ▸ hahead.write (encode msg), ?_⟩
    simp only at hpending
    rw [hpending, List.map_append]
    exact List.append_assoc _ _ _

/-- A `recv` that ends hands over the first pending line, or there is none. -/
theorem Refines.recvReturn (hr : Refines M timeout s q)
    {next : Except RecvTimeoutError Item → Dialogue ρ} (hprogram : s.program = .read next)
    {o : Except RecvTimeoutError Item} {r : Except McpError Json} {t : Reader.State}
    (hcall : Reader.Step env s.transport (.recvReturn o r) t) :
    ∃ q', ConversationStep encode M timeout q (.recv o) q' ∧ Refines M timeout
      { s with program := next o, transport := t } q' := by
  obtain ⟨program, server, pending, link⟩ := q
  obtain rfl := hr.program.trans hprogram
  obtain ⟨owed, hahead, hpending⟩ := hr.ahead
  obtain ⟨outs, hflowing⟩ := hr.flowing
  simp only at hpending hahead
  have hidle : ∀ {t : Reader.State}, t.main = .idle → t.main = .waiting →
      ∃ n, next o = .read n := by
    intro t hmain hwaiting
    rw [hmain] at hwaiting
    cases hwaiting
  cases hcall with
  | @taken hmain h hreader item rx htake =>
      obtain ⟨hqueue, hrx⟩ := Channel.take?_eq_some_iff.mp htake
      have hconnected := hflowing.connected h hreader
      have hsplit : pending = item :: (rx.queue ++ h.unread ++ owed.map Line.item) := by
        rw [hpending]
        simp [Reader.State.queued, Reader.State.unread, hreader, hqueue]
      subst hsplit
      have hclosed : link = .closed → ∃ k, some ({ h with rx := rx } : Handle) = some k ∧
          k.rx.sender = false := by
        intro hlink
        obtain ⟨k, hk, hsender⟩ := hr.closed hlink
        rw [hreader] at hk
        obtain rfl := Option.some.inj hk
        exact ⟨_, rfl, by rw [hrx]; exact hsender⟩
      refine ⟨_, .read next server item _ link, rfl, hr.timeout, hidle rfl, ⟨outs, ?_⟩,
        ⟨owed, hahead, rfl⟩, hr.gone, hclosed⟩
      have hnew : ∀ k, some ({ h with rx := rx } : Handle) = some k → k = { h with rx := rx } := by
        intro k hk
        exact (Option.some.inj hk).symm
      refine ⟨?_, ?_, ?_, ?_, ?_, ?_, fun _ => rfl, ?_⟩
      · have howner := hflowing.owner
        rw [hreader] at howner
        exact howner
      · exact hflowing.stdout
      · intro k hk
        obtain rfl := hnew k hk
        exact hflowing.piped h hreader
      · intro k hk
        obtain rfl := hnew k hk
        rw [hrx]
        exact ⟨hconnected.receiver, hconnected.sender⟩
      · intro k hk
        obtain rfl := hnew k hk
        exact hflowing.healthy h hreader
      · intro k hk
        obtain rfl := hnew k hk
        exact hflowing.ended h hreader
      · intro hmain
        cases hmain
  | @closed hmain h hreader hclosed =>
      -- The thread is gone, so the process is gone, and nothing is left of its output.
      have hfinished := (hflowing.connected h hreader).sender.mp hclosed.2
      obtain ⟨hgone, rfl⟩ := hflowing.ended h hreader (Or.inr hfinished)
      have hunread : s.transport.unread = [] := by
        rw [hflowing.unread_eq]
        simp [Reader.State.held, hreader, hfinished]
      have hqueued : s.transport.queued = [] := by
        simp [Reader.State.queued, hreader, hclosed.1]
      rw [hgone] at hahead
      cases hahead with
      | gone stdin hhalted =>
          rw [hunread, hqueued] at hpending
          subst hpending
          refine ⟨_, .eof next server link hhalted, rfl, hr.timeout, hidle rfl,
            ⟨[], hflowing.idle⟩, ⟨[], hgone ▸ .gone s.stdin hhalted, ?_⟩, fun _ => hgone,
            fun _ => ⟨h, hreader, hclosed.2⟩⟩
          show [] = s.transport.queued ++ s.transport.unread ++ []
          rw [hunread, hqueued]
          rfl
  | @timedOut hmain h hreader d htimeout hpend =>
      have hd : timeout = some d := by
        rw [← hr.timeout, htimeout]
      -- The sender is there, so the program has not seen the end of the file.
      have hopen : link ≠ .closed := by
        intro hlink
        obtain ⟨k, hk, hsender⟩ := hr.closed hlink
        rw [hreader] at hk
        obtain rfl := Option.some.inj hk
        rw [hpend.2] at hsender
        cases hsender
      exact ⟨_, .timedOut next server pending link hopen d hd, rfl, hr.timeout, hidle rfl,
        ⟨outs, hflowing.idle⟩, ⟨owed, hahead, hpending⟩, hr.gone, hr.closed⟩

/-- Every step of the system is matched. -/
theorem Refines.step (hr : Refines M timeout s q) (hs : SystemStep env encode M s l s') :
    Matched encode M timeout l s' q := by
  obtain ⟨outs, hflowing⟩ := hr.flowing
  obtain ⟨owed, hahead, hpending⟩ := hr.ahead
  cases hs with
  | @write msg next hprogram t hcall hserver =>
      obtain ⟨p, hp⟩ := Option.isSome_iff_exists.mp hserver
      cases hcall with
      | send hmain msg outcome =>
          obtain ⟨q', hstep, hr'⟩ := hr.write hprogram hmain hp
          exact Or.inr ⟨_, q', rfl, hstep, hr'⟩
  | @broken msg next hprogram t e hcall hserver =>
      cases hcall with
      | send hmain msg outcome =>
          right
          obtain ⟨program, server, pending, link⟩ := q
          obtain rfl := hr.program.trans hprogram
          have hclosed : link.cut = .closed →
              ∃ h, s.transport.reader = some h ∧ h.rx.sender = false := by
            intro hcut
            refine hr.closed ?_
            cases link with
            | up | broken => cases hcut
            | closed => rfl
          rw [hserver] at hahead
          cases hahead with
          | gone stdin hhalted =>
              refine ⟨_, _, rfl, .broken msg next server pending link hhalted e, rfl, hr.timeout,
                ?_, hr.flowing, ⟨[], hserver ▸ .gone s.stdin hhalted, hpending⟩,
                fun _ => hserver, hclosed⟩
              intro hwaiting
              rw [hmain] at hwaiting
              cases hwaiting
  | @recv next hprogram t hcall =>
      cases hcall with
      | recv hmain =>
          left
          obtain ⟨hflowing', _, hqueued, hunread⟩ := hflowing.startRecv
          refine ⟨rfl, hr.program, (Reader.startRecv_timeout _).trans hr.timeout,
            fun _ => ⟨next, hprogram⟩, ⟨outs, hflowing'⟩, ⟨owed, hahead, ?_⟩, hr.gone, ?_⟩
          · rw [hpending, ← hqueued, ← hunread]
          · intro hlink
            obtain ⟨h, hreader, hsender⟩ := hr.closed hlink
            exact ⟨h, startRecv_reader hreader, hsender⟩
  | recvReturn hprogram hcall =>
      obtain ⟨q', hstep, hr'⟩ := hr.recvReturn hprogram hcall
      exact Or.inr ⟨_, q', rfl, hstep, hr'⟩
  | @reader h h' hreader hready hstep =>
      left
      obtain ⟨hflowing', hflow⟩ := hflowing.reader hreader hready hstep
      refine ⟨rfl, hr.program, hr.timeout, hr.reading, hflowing', ⟨owed, hahead, ?_⟩, hr.gone, ?_⟩
      · rw [hpending]
        refine congrArg (· ++ owed.map Line.item) ?_
        simpa [Reader.State.queued, Reader.State.unread, hreader] using hflow.symm
      · -- The thread of a closed channel is gone, and it takes no step.
        intro hlink
        obtain ⟨k, hk, hsender⟩ := hr.closed hlink
        rw [hreader] at hk
        obtain rfl := Option.some.inj hk
        have hfinished := (hflowing.connected h hreader).sender.mp hsender
        unfold Handle.step at hstep
        rw [hfinished] at hstep
        cases hstep
  | @serve p hserver hrunning line rest hstdin =>
      left
      rw [hserver, hstdin] at hahead
      obtain ⟨owed', rfl, hahead'⟩ := hahead.serve hrunning
      have halive : s.server ≠ none := by
        rw [hserver]
        simp
      obtain ⟨hflowing', hqueued, hunread⟩ := hflowing.append halive (M.handle p line.text).2
      have hnone : q.link ≠ .up → some (M.handle p line.text).1 = none := by
        intro hlink
        exact absurd (hr.gone hlink) halive
      refine ⟨rfl, hr.program, hr.timeout, hr.reading, ⟨outs ++ (M.handle p line.text).2, ?_⟩,
        ⟨owed', hahead', ?_⟩, hnone, ?_⟩
      · have hgone : (some (M.handle p line.text).1 = none) = (s.server = none) := by
          simp [hserver]
        rw [hgone]
        exact hflowing'
      · rw [hpending, hqueued, hunread, List.map_append]
        simp only [List.append_assoc]
      · intro hlink
        exact absurd (hr.gone (by simp [hlink])) halive
  | @exit p hserver hhalted =>
      left
      rw [hserver] at hahead
      obtain ⟨rfl, hahead'⟩ := hahead.exit hhalted
      refine ⟨rfl, hr.program, hr.timeout, hr.reading, ⟨outs, ?_⟩, ⟨[], hahead', hpending⟩,
        fun _ => rfl, hr.closed⟩
      have hended : ∀ h, s.transport.reader = some h → ¬ (h.pc = .exiting ∨ h.pc = .finished) := by
        intro h hreader hpc
        have := (hflowing.ended h hreader hpc).1
        rw [hserver] at this
        cases this
      exact ⟨hflowing.owner, hflowing.stdout, hflowing.piped, hflowing.connected,
        hflowing.healthy, fun h hreader hpc => (hended h hreader hpc).elim,
        hflowing.waiting, hflowing.running⟩

/-- The system refines its conversations. -/
theorem simulation (env : Env) (encode : Json → Line) (M : Machine σ String Line)
    (timeout : Option Duration) (d : Dialogue ρ) (p : σ) :
    Simulation (system env encode M d timeout p) (conversation encode M timeout d p)
      SystemLabel.event? (Refines M timeout) where
  init s hs := ⟨_, rfl, hs ▸ .start M timeout d p⟩
  hidden s e s' q hr hs hshown := by
    rcases hr.step hs with ⟨_, hr'⟩ | ⟨d, q', hd, _, _⟩
    · exact hr'
    · rw [hshown] at hd
      cases hd
  visible s e s' q d hr hs hshown := by
    rcases hr.step hs with ⟨hd, _⟩ | ⟨d', q', hd, hstep, hr'⟩
    · rw [hshown] at hd
      cases hd
    · rw [hshown] at hd
      obtain rfl := Option.some.inj hd
      exact ⟨q', hstep, hr'⟩

/-- Every run of the system has a conversation that it refines. -/
theorem run_refines {d : Dialogue ρ} {p : σ} {es : List SystemLabel}
    (h : Run (system env encode M d timeout p) es s) :
    ∃ q, Run (conversation encode M timeout d p) (systemEvents es) q ∧ Refines M timeout s q :=
  (simulation env encode M timeout d p).run h

/-- Every interleaving of the two threads and the server is a conversation with the same
events and the same program. What is in the channel, in the reader's hands and in the stdout
pipe are the first pending lines of the conversation. -/
theorem run_is_conversation (env : Env) (encode : Json → Line) (M : Machine σ String Line)
    (timeout : Option Duration) (d : Dialogue ρ) (p : σ) (es : List SystemLabel)
    (s : SystemState σ ρ) (h : Run (system env encode M d timeout p) es s) :
    ∃ q, Run (conversation encode M timeout d p) (systemEvents es) q ∧ q.program = s.program ∧
      s.transport.queued ++ s.transport.unread <+: q.pending := by
  obtain ⟨q, hrun, hr⟩ := run_refines h
  obtain ⟨owed, _, hpending⟩ := hr.ahead
  exact ⟨q, hrun, hr.program, _, hpending.symm⟩

/-- A line for the examples. -/
def helloLine : Line := ⟨"hi", by decide⟩

/-- The text of a value in a table of values and their texts, for the examples. -/
def wireText (wire : List (Json × Line)) (v : Json) : Line :=
  ((wire.find? (·.1 = v)).map (·.2)).getD helloLine

/-- A server that answers every line with the same one. -/
def greeter : Machine Unit String Line := ⟨fun p _ => (p, [helloLine]), fun _ => false⟩

/-- A server that answers nothing. -/
def silent : Machine Unit String Line := ⟨fun p _ => (p, []), fun _ => false⟩

/-- A program that writes a message and waits for a line. -/
def askOnce : Dialogue (Except RecvTimeoutError Item) := .write .null fun _ => .read .done

/-- A run in which the reader thread starts before the server answers. -/
def askRun : List SystemLabel :=
  [.client (.send .null .ok), .client .recv, .server, .client .reader, .client .reader,
    .client (.recvReturn (.ok (.ok "hi\n")) (parseItem (.replay []) (.ok "hi\n")))]

/-- The system takes that run, and the program is done. -/
theorem askRun_reaches :
    ∃ s, Run (system (.replay []) (fun _ => helloLine) greeter askOnce none ()) askRun s ∧
      s.program = .done (.ok (.ok "hi\n")) := by
  have hrun : Run (system (.replay []) (fun _ => helloLine) greeter askOnce none ()) []
      (.start askOnce none ()) := .init rfl
  have hread := step_reading_cons .new helloLine []
  have hrun := hrun.step (.write rfl (.send rfl .null .ok) rfl)
  have hrun := hrun.step (.recv rfl (.recv rfl))
  have hrun := hrun.step (.serve rfl rfl (l := helloLine) rfl)
  have hrun := hrun.step (.reader rfl (fun _ => Or.inl (by decide)) hread)
  have hrun := hrun.step (.reader rfl (fun h => by cases h) rfl)
  have hrun := hrun.step (.recvReturn rfl (.taken rfl rfl rfl))
  exact ⟨_, hrun, rfl⟩

/-- The conversation of that run is over. -/
theorem run_is_conversation_asked :
    ∃ q, Run (conversation (fun _ => helloLine) greeter none askOnce ()) (systemEvents askRun) q ∧
      q.program = .done (.ok (.ok "hi\n")) := by
  obtain ⟨s, hrun, hdone⟩ := askRun_reaches
  obtain ⟨q, hq, hprogram, _⟩ := run_is_conversation _ _ _ _ _ _ _ _ hrun
  exact ⟨q, hq, hprogram.trans hdone⟩

end OrgCli.Mcp
