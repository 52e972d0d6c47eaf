import OrgCli.Spec.Delivery

/-!
# `OrgCli.Proofs.Reader`: the transport delivers every line in order, once

The invariant `Inv` says who owns stdout, that the handed, queued and unread items are the
whole output, and that a reported end of the file left a closed channel behind. Every step
of either thread preserves it (`Inv.step`), so it holds of every run. `transport_delivers`
reads the properties of the transport off it.
-/

set_option autoImplicit false

namespace OrgCli.Mcp.Reader

open OrgCli.Support

variable (env : Env)

/-! ### The output -/

/-- The text of a line has the bytes of the line. -/
theorem decodeLine_bytes {line : List UInt8} {text : String} (h : decodeLine line = .ok text) :
    text.toByteArray.data.toList = line := by
  unfold decodeLine String.fromUTF8? at h
  split at h
  · next t ht =>
      cases h
      split at ht
      · cases ht
        simp [String.fromUTF8]
      · cases ht
  · cases h

/-- So does the text of an item. -/
theorem lineItem_bytes {fault : Option String} {line : List UInt8} {text : String}
    (h : lineItem fault line = .ok text) : text.toByteArray.data.toList = line := by
  unfold lineItem at h
  split at h
  · split at h
    · exact decodeLine_bytes h
    · cases h
  · exact decodeLine_bytes h

/-- The items of an output are its bytes up to the first read error. -/
theorem items_bytes (stdout : ChildStdout) :
    ∃ rest, utf8 stdout.items ++ rest = stdout.bytes ∧
      ((∀ e, .error e ∉ stdout.items) → rest = []) := by
  rw [← splitLines_flatten newline stdout.bytes]
  unfold ChildStdout.items
  generalize splitLines newline stdout.bytes = lines
  induction lines with
  | nil =>
      refine ⟨[], ?_, fun _ => rfl⟩
      cases stdout.fault <;> rfl
  | cons line lines ih =>
      unfold itemsOf
      cases h : lineItem stdout.fault line with
      | ok text =>
          obtain ⟨rest, hrest, hall⟩ := ih
          refine ⟨rest, ?_, fun he => hall fun e hmem => he e (List.mem_cons_of_mem _ hmem)⟩
          show text.toByteArray.data.toList ++ utf8 (itemsOf stdout.fault lines) ++ rest = _
          rw [lineItem_bytes h, List.append_assoc, hrest]
          rfl
      | error e => exact ⟨_, rfl, fun he => absurd (List.mem_singleton.mpr rfl) (he e)⟩

/-- No line of an output is empty. -/
theorem ne_empty_of_mem_items {stdout : ChildStdout} {line : String}
    (h : .ok line ∈ stdout.items) : line ≠ "" := by
  have hlines : ∀ l ∈ splitLines newline stdout.bytes, l ≠ [] :=
    fun _ => ne_nil_of_mem_splitLines newline
  unfold ChildStdout.items at h
  generalize splitLines newline stdout.bytes = lines at h hlines
  induction lines with
  | nil =>
      unfold itemsOf at h
      cases hf : stdout.fault <;> simp [hf] at h
  | cons l lines ih =>
      unfold itemsOf at h
      cases hl : lineItem stdout.fault l with
      | ok text =>
          rw [hl] at h
          rcases List.mem_cons.mp h with heq | h
          · obtain rfl := Except.ok.inj heq
            intro hempty
            subst hempty
            exact hlines l List.mem_cons_self (lineItem_bytes hl).symm
          · exact ih h fun l' hl' => hlines l' (List.mem_cons_of_mem _ hl')
      | error e =>
          rw [hl] at h
          cases List.mem_singleton.mp h

/-- `read_line` gives the first item of what is left. It reports no bytes exactly at the
end. -/
theorem items_readLine (stdout : ChildStdout) :
    stdout.items = match stdout.readLine with
      | (.ok (0, _), _) => []
      | (.ok (_, line), rest) => .ok line :: rest.items
      | (.error e, _) => [.error e] := by
  obtain ⟨bytes, fault⟩ := stdout
  show itemsOf fault (splitLines newline bytes) = _
  unfold ChildStdout.readLine
  by_cases hnil : bytes = []
  · subst hnil
    cases fault <;> rfl
  · have hne := takeLine_ne_nil newline hnil
    rw [splitLines_eq newline hnil]
    cases hitem : lineItem fault (takeLine newline bytes).1 with
    | ok text =>
        cases hlen : (takeLine newline bytes).1.length with
        | zero => exact absurd (List.length_eq_zero_iff.mp hlen) hne
        | succ n =>
            simp only [itemsOf, hitem, hlen, Except.map]
            rfl
    | error e => simp only [itemsOf, hitem, Except.map]

/-! ### The reader thread -/

/-- A thread that runs with both ends of its channel: the receiver is there, and the sender
is there until the thread is gone. -/
structure Handle.Connected (h : Handle) : Prop where
  receiver : h.rx.receiver = true
  sender : h.rx.sender = false ↔ h.pc = .finished

/-- A step of the thread moves items from stdout to the channel, and keeps their order. -/
theorem Handle.step_flow {h h' : Handle} (hc : h.Connected) (hstep : h.step = some h') :
    h'.Connected ∧ h'.rx.queue ++ h'.unread = h.rx.queue ++ h.unread := by
  obtain ⟨rx, stdout, pc⟩ := h
  obtain ⟨hreceiver, hsender⟩ := hc
  have hsend : ∀ item, rx.send item = some { rx with queue := rx.queue ++ [item] } :=
    fun item => if_pos hreceiver
  unfold Handle.step at hstep
  cases pc with
  | reading =>
      have hitems := items_readLine stdout
      simp only at hstep
      split at hstep <;> rename_i hread <;> rw [hread] at hitems <;> cases hstep
      · exact ⟨⟨hreceiver, by simpa using hsender⟩, by simp [Handle.unread, hitems]⟩
      · exact ⟨⟨hreceiver, by simpa using hsender⟩, by simp [Handle.unread, hitems]⟩
      · exact ⟨⟨hreceiver, by simpa using hsender⟩, by simp [Handle.unread, hitems]⟩
  | sending item =>
      cases item with
      | ok line =>
          simp only [hsend] at hstep
          cases hstep
          exact ⟨⟨hreceiver, by simpa using hsender⟩, by simp [Handle.unread]⟩
      | error e =>
          simp only [hsend] at hstep
          cases hstep
          exact ⟨⟨hreceiver, by simpa using hsender⟩, by simp [Handle.unread]⟩
  | exiting =>
      cases hstep
      exact ⟨⟨hreceiver, by simp [Channel.dropSender]⟩, rfl⟩
  | finished => cases hstep

/-- A thread behind a closed channel is gone. -/
theorem Handle.step_closed {h : Handle} (hc : h.Connected) (hclosed : h.rx.Closed) :
    h.step = none := by
  unfold Handle.step
  rw [hc.sender.mp hclosed.2]

/-! ### The end of a wait -/

/-- The error of an end of the file starts with its own letter. -/
theorem ne_eofError {a b : String} (ha : a.toList.head? = some 'n' ∨ a.toList.head? = some 'r' ∨
    a.toList.head? = some 'J') : McpError.transport (a ++ b) ≠ eofError := by
  intro h
  have hhead : (a ++ b).toList.head? = some 's' := by
    rw [McpError.transport.inj h]
    rfl
  rw [String.toList_append, List.head?_append] at hhead
  rcases ha with ha | ha | ha <;> simp [ha] at hhead

/-- `recv` reports the end of the file when the channel is closed. The other two cases are
a wait without a timeout that runs out, and an empty line. -/
theorem finishRecv_eq_eof_iff {timeout : Option Duration} {o : Except RecvTimeoutError Item} :
    finishRecv env timeout o = .error eofError ↔
      o = .error .disconnected ∨ (timeout = none ∧ o = .error .timeout) ∨ o = .ok (.ok "") := by
  match o with
  | .error .disconnected => cases timeout <;> simp [finishRecv, receivedItem]
  | .error .timeout =>
      cases timeout with
      | none => simp [finishRecv, receivedItem]
      | some d =>
          have hne : timeoutError d ≠ eofError := by
            unfold timeoutError
            rw [String.append_assoc]
            exact ne_eofError (Or.inl rfl)
          simp [finishRecv, receivedItem, hne]
  | .ok (.error e) =>
      have hne : McpError.transport s!"read error: {e}" ≠ eofError :=
        ne_eofError (Or.inr (Or.inl rfl))
      simpa [finishRecv, receivedItem, parseItem] using hne
  | .ok (.ok line) =>
      by_cases hline : line = ""
      · subst hline
        simp [finishRecv, receivedItem, parseItem]
      · simp only [finishRecv, receivedItem, parseItem, String.isEmpty_iff, hline]
        cases env.serde.fromStr (trim line) with
        | ok v => simp [hline]
        | error e =>
            have hne : McpError.transport ("JSON parse error: " ++ e ++ " (line: "
                ++ env.serde.debugStr (trim line) ++ ")") ≠ eofError := by
              simp only [String.append_assoc]
              exact ne_eofError (Or.inr (Or.inr rfl))
            simp [hne, hline]

/-! ### The invariant -/

/-- The reader's channel is closed. -/
def State.IsClosed (s : State) : Prop := ∃ h, s.reader = some h ∧ h.rx.Closed

/-- What every run keeps. -/
structure Inv (out : ChildStdout) (es : List Label) (s : State) : Prop where
  flow : handed es ++ s.queued ++ s.unread = out.items
  owner : s.stdout.isSome = s.reader.isNone
  waiting : s.main = .waiting → s.reader.isSome
  running : s.main ≠ .panicked
  connected : ∀ h, s.reader = some h → h.Connected
  closed : (∃ l ∈ es, l.ReportsEof) → s.IsClosed
  eofLasts : es.Pairwise fun a b => a.ReportsEof → ∀ o r, b = .recvReturn o r → b.ReportsEof

variable {env} {out : ChildStdout} {es : List Label} {s t : State} {l : Label}

/-- What a run hands over is what its parts hand over. -/
theorem handed_append (es fs : List Label) : handed (es ++ fs) = handed es ++ handed fs :=
  List.filterMap_append

/-- Nothing is handed over before the first step. -/
@[simp] theorem handed_nil : handed [] = [] := rfl

/-- The first step hands over at most one item. -/
theorem handed_cons (l : Label) (es : List Label) :
    handed (l :: es) = l.item?.toList ++ handed es := by
  unfold handed
  rw [List.filterMap_cons]
  cases l.item? <;> rfl

/-- What a step has to show to keep the invariant. -/
theorem Inv.append (hi : Inv out es s)
    (hflow : l.item?.toList ++ t.queued ++ t.unread = s.queued ++ s.unread)
    (howner : t.stdout.isSome = t.reader.isNone) (hwaiting : t.main = .waiting → t.reader.isSome)
    (hrunning : t.main ≠ .panicked) (hconnected : ∀ h, t.reader = some h → h.Connected)
    (hclosed : s.IsClosed ∨ l.ReportsEof → t.IsClosed)
    (hlasts : s.IsClosed → ∀ o r, l = .recvReturn o r → l.ReportsEof) :
    Inv out (es ++ [l]) t where
  flow := by
    calc handed (es ++ [l]) ++ t.queued ++ t.unread
        = handed es ++ (l.item?.toList ++ t.queued ++ t.unread) := by
          simp [handed_append, handed_cons]
      _ = handed es ++ (s.queued ++ s.unread) := by rw [hflow]
      _ = out.items := by rw [← List.append_assoc, hi.flow]
  owner := howner
  waiting := hwaiting
  running := hrunning
  connected := hconnected
  closed := by
    rintro ⟨a, ha, heof⟩
    rcases List.mem_append.mp ha with ha | ha
    · exact hclosed (Or.inl (hi.closed ⟨a, ha, heof⟩))
    · obtain rfl := List.mem_singleton.mp ha
      exact hclosed (Or.inr heof)
  eofLasts := by
    rw [List.pairwise_append]
    refine ⟨hi.eofLasts, List.pairwise_singleton _ _, ?_⟩
    -- A report among the earlier steps left the channel closed.
    intro a ha b hb heof
    obtain rfl := List.mem_singleton.mp hb
    exact hlasts (hi.closed ⟨a, ha, heof⟩)

/-- A new transport has its whole output before it. -/
theorem Inv.spawned (out : ChildStdout) : Inv out [] (.spawned out) where
  flow := rfl
  owner := rfl
  waiting := by
    intro h
    cases h
  running := by
    intro h
    cases h
  connected := by
    intro h hreader
    cases hreader
  closed := by
    rintro ⟨l, hl, _⟩
    cases hl
  eofLasts := List.Pairwise.nil

/-- Only the end of a wait reports an end of the file. -/
theorem not_reportsEof (hl : ∀ o r, l ≠ .recvReturn o r) : ¬ l.ReportsEof := by
  rintro ⟨o, h⟩
  exact hl o _ h

/-- A call that is no wait keeps the invariant when it leaves stdout and the reader alone. -/
theorem Inv.call (hi : Inv out es s) (hl : ∀ o r, l ≠ .recvReturn o r)
    (hstdout : t.stdout = s.stdout) (hreader : t.reader = s.reader)
    (hwaiting : t.main = .waiting → s.reader.isSome) (hrunning : t.main ≠ .panicked) :
    Inv out (es ++ [l]) t := by
  have hitem : l.item? = none := by
    cases l with
    | recvReturn o r => exact absurd rfl (hl o r)
    | setTimeout | send | recv | reader => rfl
  have hqueued : t.queued = s.queued := by
    unfold State.queued
    rw [hreader]
  have hunread : t.unread = s.unread := by
    unfold State.unread
    rw [hreader, hstdout]
  refine hi.append ?_ ?_ ?_ hrunning ?_ ?_ ?_
  · rw [hitem, hqueued, hunread]
    rfl
  · rw [hstdout, hreader]
    exact hi.owner
  · rw [hreader]
    exact hwaiting
  · rw [hreader]
    exact hi.connected
  · intro h
    unfold State.IsClosed
    rw [hreader]
    exact h.resolve_right (not_reportsEof hl)
  · intro _ o r h
    exact absurd h (hl o r)

/-- A transport without a reader still has its stdout, so no `expect` fires. -/
theorem startRecv_cases (hi : Inv out es s) :
    (s.reader.isSome ∧ s.startRecv = { s with main := .waiting }) ∨
      ∃ stdout, s.stdout = some stdout ∧ s.reader = none ∧ s.startRecv
        = { s with stdout := none, reader := some ⟨.new, stdout, .reading⟩, main := .waiting } := by
  have howner := hi.owner
  unfold State.startRecv State.ensureReader
  cases hreader : s.reader with
  | some h => simp [hreader]
  | none =>
      rw [hreader] at howner
      obtain ⟨stdout, hstdout⟩ := Option.isSome_iff_exists.mp howner
      exact Or.inr ⟨stdout, by simp [hstdout]⟩

/-- The first `recv` moves stdout into the thread. A later one only starts to wait. -/
theorem Inv.startRecv (hi : Inv out es s) : Inv out (es ++ [.recv]) s.startRecv := by
  have hlabel : ∀ o r, Label.recv ≠ .recvReturn o r := by
    intro o r h
    cases h
  rcases startRecv_cases hi with ⟨hreader, ht⟩ | ⟨stdout, hstdout, hreader, ht⟩
  · rw [ht]
    exact hi.call hlabel rfl rfl (fun _ => hreader) (by simp)
  · have hnew : Handle.Connected ⟨.new, stdout, .reading⟩ := ⟨rfl, by simp [Channel.new]⟩
    have hopen : ¬ s.IsClosed := by
      rintro ⟨h, hh, _⟩
      rw [hreader] at hh
      cases hh
    rw [ht]
    refine hi.append ?_ rfl (fun _ => rfl) (by simp) ?_ ?_ ?_
    · -- What stdout held is now what the thread has not read.
      simp [State.queued, State.unread, Handle.unread, Label.item?, Channel.new, hstdout, hreader]
    · intro h hh
      obtain rfl := Option.some.inj hh
      exact hnew
    · intro h
      exact absurd h (not_or.mpr ⟨hopen, not_reportsEof hlabel⟩)
    · intro h
      exact absurd h hopen

/-- A handed item comes off the front of the queue. It is no end of the file, since no line
of the output is empty. -/
theorem Inv.taken (hi : Inv out es s) {h : Handle} (hreader : s.reader = some h) {item : Item}
    {rx : Channel Item} (htake : h.rx.take? = some (item, rx)) :
    Inv out (es ++ [.recvReturn (.ok item) (finishRecv env s.timeout (.ok item))])
      { s with reader := some { h with rx := rx }, main := .idle } := by
  obtain ⟨hqueue, hrx⟩ := Channel.take?_eq_some_iff.mp htake
  have hconnected := hi.connected h hreader
  have hopen : ¬ s.IsClosed := by
    rintro ⟨h', hh, hclosed⟩
    obtain rfl := Option.some.inj (hreader.symm.trans hh)
    rw [hclosed.take?] at htake
    cases htake
  have hmem : item ∈ out.items := by
    rw [← hi.flow]
    simp [State.queued, hreader, hqueue]
  have heof :
      ¬ Label.ReportsEof (.recvReturn (.ok item) (finishRecv env s.timeout (.ok item))) := by
    rintro ⟨o, heq⟩
    injection heq with _ hresult
    rcases (finishRecv_eq_eof_iff env).mp hresult with h | ⟨_, h⟩ | h
    · cases h
    · cases h
    · obtain rfl := Except.ok.inj h
      exact ne_empty_of_mem_items hmem rfl
  refine hi.append ?_ ?_ (fun _ => rfl) (by simp) ?_ ?_ ?_
  · simp [State.queued, State.unread, Handle.unread, Label.item?, hreader, hqueue]
  · have howner := hi.owner
    rw [hreader] at howner
    exact howner
  · intro h' hh
    obtain rfl := Option.some.inj hh
    rw [hrx]
    exact ⟨hconnected.receiver, hconnected.sender⟩
  · intro h
    exact absurd h (not_or.mpr ⟨hopen, heof⟩)
  · intro h
    exact absurd h hopen

/-- The end of a wait that hands over nothing keeps the items where they are. -/
theorem Inv.unhanded (hi : Inv out es s) {e : RecvTimeoutError} {r : Except McpError Json}
    (hclosed : Label.ReportsEof (.recvReturn (.error e) r) ↔ s.IsClosed) :
    Inv out (es ++ [.recvReturn (.error e) r]) { s with main := .idle } := by
  refine hi.append rfl hi.owner ?_ (by simp) hi.connected ?_ ?_
  · intro h
    cases h
  · intro h
    exact h.elim id hclosed.mp
  · intro h _ _ _
    exact hclosed.mpr h

/-- A step of the reader thread keeps the invariant. -/
theorem Inv.readerStep (hi : Inv out es s) {h h' : Handle} (hreader : s.reader = some h)
    (hstep : h.step = some h') : Inv out (es ++ [.reader]) { s with reader := some h' } := by
  have hconnected := hi.connected h hreader
  obtain ⟨hconnected', hflow⟩ := Handle.step_flow hconnected hstep
  have hlabel : ∀ o r, Label.reader ≠ .recvReturn o r := by
    intro o r h
    cases h
  -- The thread behind a closed channel is gone, and this one took a step.
  have hopen : ¬ s.IsClosed := by
    rintro ⟨h'', hh, hclosed⟩
    obtain rfl := Option.some.inj (hreader.symm.trans hh)
    rw [Handle.step_closed hconnected hclosed] at hstep
    cases hstep
  refine hi.append ?_ ?_ (fun _ => rfl) hi.running ?_ ?_ ?_
  · simpa [State.queued, State.unread, Label.item?, hreader] using hflow
  · have howner := hi.owner
    rw [hreader] at howner
    exact howner
  · intro h'' hh
    obtain rfl := Option.some.inj hh
    exact hconnected'
  · intro h
    exact absurd h (not_or.mpr ⟨hopen, not_reportsEof hlabel⟩)
  · intro h
    exact absurd h hopen

/-- A step of either thread keeps the invariant. -/
theorem Inv.step (hi : Inv out es s) (hstep : Step env s l t) : Inv out (es ++ [l]) t := by
  cases hstep with
  | setTimeout hmain timeout =>
      exact hi.call (by intro o r h; cases h) rfl rfl hi.waiting hi.running
  | send hmain msg outcome =>
      exact hi.call (by intro o r h; cases h) rfl rfl hi.waiting hi.running
  | recv hmain => exact hi.startRecv
  | taken hmain hreader htake => exact hi.taken hreader htake
  | @closed hmain h hreader hclosed =>
      rw [(finishRecv_eq_eof_iff env).mpr (Or.inl rfl)]
      exact hi.unhanded (iff_of_true ⟨_, rfl⟩ ⟨h, hreader, hclosed⟩)
  | @timedOut hmain h hreader d htimeout hpending =>
      -- A wait that runs out has a timeout, and its channel is not closed.
      refine hi.unhanded (iff_of_false ?_ ?_)
      · rintro ⟨o, heq⟩
        injection heq with _ hresult
        rcases (finishRecv_eq_eof_iff env).mp hresult with h | ⟨hnone, _⟩ | h
        · cases h
        · rw [htimeout] at hnone
          cases hnone
        · cases h
      · rintro ⟨h', hh, hclosed⟩
        obtain rfl := Option.some.inj (hreader.symm.trans hh)
        exact hclosed.not_pending hpending
  | reader hreader hstep => exact hi.readerStep hreader hstep

/-- Every run keeps the invariant. -/
theorem Inv.of_run (h : Run (threads env out) es s) : Inv out es s :=
  h.invariant (fun _ hs => hs ▸ .spawned out) fun _ _ _ _ hi hstep => hi.step hstep

/-! ### The transport -/

/-- A timeout leaves the queue and the reader alone. -/
theorem timeout_keeps {r : Except McpError Json}
    (h : Step env s (.recvReturn (.error .timeout) r) t) :
    t.queued = s.queued ∧ t.unread = s.unread := by
  cases h
  exact ⟨rfl, rfl⟩

/-- The items that a run hands over are the first ones of the output. -/
theorem handed_prefix (hi : Inv out es s) : handed es <+: out.items := by
  rw [← hi.flow, List.append_assoc]
  exact List.prefix_append _ _

/-- In every run of the two threads the transport delivers the output in order and once, a
timeout loses nothing, an end of the file lasts, and no `expect` fires. -/
theorem transport_delivers (env : Env) (out : ChildStdout) (es : List Label) (s : State)
    (h : Run (threads env out) es s) : Delivery env out es s := by
  have hi := Inv.of_run h
  refine ⟨hi.flow, ?_, fun r t => timeout_keeps, ?_, hi.eofLasts, hi.running⟩
  · rw [hi.flow]
    exact items_bytes out
  · intro before between after r r' item hes hbetween
    -- The timeout and what comes between hand over nothing.
    have hsplit : handed es = handed before ++ item :: handed after := by
      rw [hes]
      simp [handed_append, handed_cons, Label.item?, hbetween]
    have hhanded := handed_prefix hi
    rw [hsplit] at hhanded
    obtain ⟨rest, hrest⟩ := hhanded
    rw [← hrest]
    simp

/-- The output of a server that writes one line. -/
def oneLine : ChildStdout := ⟨"hi\n".toByteArray.data.toList, none⟩

/-- A wait of one second that runs out, and a second wait that gets the late line. -/
def lateRun (env : Env) : List Label :=
  [.setTimeout (some (.fromSecs 1)), .recv,
    .recvReturn (.error .timeout) (.error (timeoutError (.fromSecs 1))), .reader, .reader, .recv,
    .recvReturn (.ok (.ok "hi\n")) (parseItem env (.ok "hi\n"))]

/-- The late line is what the second wait sees. -/
theorem transport_delivers_late :
    ∃ s, Delivery (.replay []) oneLine (lateRun (.replay [])) s := by
  have hread : oneLine.readLine = (.ok (3, "hi\n"), ⟨[], none⟩) := by decide +kernel
  have hstep : (⟨.new, oneLine, .reading⟩ : Handle).step
      = some ⟨.new, ⟨[], none⟩, .sending (.ok "hi\n")⟩ := by
    simp only [Handle.step, hread]
  have hrun : Run (threads (.replay []) oneLine) [] (.spawned oneLine) := .init rfl
  have hrun := hrun.step (.setTimeout rfl (some (.fromSecs 1)))
  have hrun := hrun.step (.recv rfl)
  have hrun := hrun.step (.timedOut rfl rfl rfl ⟨rfl, rfl⟩)
  have hrun := hrun.step (.reader rfl hstep)
  have hrun := hrun.step (.reader rfl rfl)
  have hrun := hrun.step (.recv rfl)
  have hrun := hrun.step (.taken rfl rfl rfl)
  exact ⟨_, transport_delivers (.replay []) oneLine _ _ hrun⟩

end OrgCli.Mcp.Reader
