import OrgCli.Proofs.Progress

/-!
# `OrgCli.Proofs.Adequacy`: a precondition holds for every interleaving

`Dialogue.wp` looks at one call of the program after the other. This is enough: when the
precondition holds at the start, every interleaving of the two threads and the server that has
ended the program has met the postcondition (`wp_post`), and every one that cannot go on has
ended it (`wp_stuck`).

`wp_request` is the rule for a request to a server that answers it, and `wp_halted` the rule
for a request to a server that has stopped. The pipes here take whatever is written to them.
-/

set_option autoImplicit false

namespace OrgCli.Mcp

open OrgCli.Support

variable {σ ρ : Type} {env : Env} {encode : Json → Line} {M : Machine σ String Line}
  {timeout : Option Duration} {d : Dialogue ρ} {p : σ} {es : List SystemLabel}
  {s : SystemState σ ρ} {q q' : Conversation σ ρ} {post : ρ → σ → Prop}

/-- The precondition of the program of a conversation. -/
def Conversation.Wp (encode : Json → Line) (M : Machine σ String Line)
    (timeout : Option Duration) (post : ρ → σ → Prop) (q : Conversation σ ρ) : Prop :=
  q.program.wp encode M timeout post q.server q.pending q.link

/-- A step keeps the precondition. -/
theorem Conversation.Wp.step {e : Event} (h : q.Wp encode M timeout post)
    (hs : ConversationStep encode M timeout q e q') : q'.Wp encode M timeout post := by
  cases hs with
  | write msg next p items => exact h.1 rfl
  | broken msg next p items link hhalted e => exact h.2 hhalted e
  | read next p item items link => exact h.1
  | eof next p link hhalted => exact h.2.1 hhalted
  | timedOut next p items link hopen d htimeout =>
      have hsome : timeout.isSome := by rw [htimeout]; rfl
      cases items with
      | nil => exact h.2.2 hsome hopen
      | cons item items => exact h.2 hsome hopen

/-- A run keeps the precondition. -/
theorem Conversation.Wp.run {fs : List Event} (h : d.wp encode M timeout post p [] .up)
    (hrun : Run (conversation encode M timeout d p) fs q) : q.Wp encode M timeout post := by
  induction hrun with
  | init hq =>
      obtain rfl := hq
      exact h
  | step _ hs ih => exact ih.step hs

/-- A program with a precondition does not wait for nothing. -/
theorem Refines.not_deadlocked (hr : Refines M timeout s q) (h : q.Wp encode M timeout post)
    {next : Except RecvTimeoutError Item → Dialogue ρ} (hprogram : s.program = .read next) :
    ¬ Deadlocked M s := by
  rintro ⟨_, huntimed, ⟨p, hserver, hrunning⟩, hhandled, hqueued, hunread⟩
  obtain ⟨owed, hahead, hpending⟩ := hr.ahead
  rw [hr.timeout] at huntimed
  obtain ⟨program, server, pending, link⟩ := q
  obtain rfl := hr.program.trans hprogram
  -- The process has handled its input, so the conversation's server is the process.
  rw [hserver, hhandled] at hahead
  obtain ⟨rfl, rfl⟩ := hahead.handled
  simp only [hqueued, hunread] at hpending
  obtain rfl := hpending
  rcases h.1 with hhalted | hsome
  · rw [hrunning] at hhalted
    cases hhalted
  · rw [huntimed] at hsome
    cases hsome

/-- The program of a run is done when the run cannot go on. -/
theorem wp_done (h : d.wp encode M timeout post p [] .up)
    (hrun : Run (system env encode M d timeout p) es s)
    (hstuck : ∀ l s', ¬ SystemStep env encode M s l s') : ∃ r, s.program = .done r := by
  obtain ⟨q, hq, hr⟩ := run_refines hrun
  rcases hr.stuck_cases hstuck with hdone | hdeadlock
  · exact hdone
  · obtain ⟨next, hprogram⟩ := hr.reading hdeadlock.waiting
    exact absurd hdeadlock (hr.not_deadlocked (.run h hq) hprogram)

/-- A program that is done met its postcondition. The server state of it is the one that the
process reaches when it has handled what is in its stdin. -/
theorem wp_post (h : d.wp encode M timeout post p [] .up)
    (hrun : Run (system env encode M d timeout p) es s) {r : ρ} (hdone : s.program = .done r) :
    ∃ p' owed, Ahead M s.server s.stdin p' owed ∧ post r p' := by
  obtain ⟨q, hq, hr⟩ := run_refines hrun
  obtain ⟨owed, hahead, _⟩ := hr.ahead
  have hwp := Conversation.Wp.run h hq
  unfold Conversation.Wp at hwp
  rw [hr.program, hdone] at hwp
  exact ⟨q.server, owed, hahead, hwp⟩

/-- In a run that cannot go on the program is done, and what is left of the server meets the
postcondition. -/
theorem wp_stuck (h : d.wp encode M timeout post p [] .up)
    (hrun : Run (system env encode M d timeout p) es s)
    (hstuck : ∀ l s', ¬ SystemStep env encode M s l s') :
    ∃ r p', s.program = .done r ∧ post r p' ∧ ∀ k, s.server = some k → k = p' := by
  obtain ⟨r, hdone⟩ := wp_done h hrun hstuck
  obtain ⟨p', owed, hahead, hpost⟩ := wp_post h hrun hdone
  obtain ⟨q, _, hr⟩ := run_refines hrun
  refine ⟨r, p', hdone, hpost, fun k hserver => ?_⟩
  obtain ⟨_, hhandled⟩ := hr.server_stuck (fun s' => hstuck _ s') hserver
  rw [hserver, hhandled] at hahead
  exact hahead.handled.1.symm

/-! ### Rules for the requests of a client -/

/-- A `recv` that gets a message returns it, with a timeout and without one. -/
theorem finishRecv_ok {item : Item} {v : Json} (h : parseItem env item = .ok v) :
    finishRecv env timeout (.ok item) = .ok v := by
  cases timeout <;> exact h

/-- A request to a server that answers it with one message, while `items` are pending. The
request reads the first of all these messages. It may time out instead, and then they all
stay pending. -/
theorem wp_request_pending {id : UInt64} {method : String} {params : Json}
    {next : Except McpError Json → Dialogue ρ} {p' : σ} {reply : Line} {items rest : List Item}
    {item : Item} (hrunning : M.halted p = false)
    (hreact : M.react p (encode (requestMsg id method params)).text = (p', [reply]))
    (hitems : items ++ [reply.item] = item :: rest)
    (hread : (next ((finishRecv env timeout (.ok item)).bind (checkResponse env id))).wp encode M
      timeout post p' rest .up)
    (hlate : ∀ d, timeout = some d →
      (next (.error (timeoutError d))).wp encode M timeout post p' (item :: rest) .up) :
    (Dialogue.request env timeout id method params next).wp encode M timeout post p items .up := by
  refine ⟨fun _ => ?_, fun hhalted => ?_⟩
  · rw [hreact, List.map_singleton, hitems]
    refine ⟨hread, fun hsome _ => ?_⟩
    obtain ⟨d, rfl⟩ := Option.isSome_iff_exists.mp hsome
    exact hlate d rfl
  · rw [hrunning] at hhalted
    cases hhalted

/-- A request to a server that answers it with one message, while nothing is pending. -/
theorem wp_request {id : UInt64} {method : String} {params : Json}
    {next : Except McpError Json → Dialogue ρ} {p' : σ} {reply : Line} {m : Json}
    (hrunning : M.halted p = false)
    (hreact : M.react p (encode (requestMsg id method params)).text = (p', [reply]))
    (hparse : parseItem env reply.item = .ok m)
    (hnext : (next (checkResponse env id m)).wp encode M timeout post p' [] .up)
    (hlate : ∀ d, timeout = some d →
      (next (.error (timeoutError d))).wp encode M timeout post p' [reply.item] .up) :
    (Dialogue.request env timeout id method params next).wp encode M timeout post p [] .up := by
  refine wp_request_pending hrunning hreact rfl ?_ hlate
  rw [finishRecv_ok hparse]
  exact hnext

/-- A request to a server that has stopped fails with a transport error. -/
theorem wp_halted {id : UInt64} {method : String} {params : Json}
    {next : Except McpError Json → Dialogue ρ} (hhalted : M.halted p = true)
    (hnext : ∀ e link, (next (.error (.transport e))).wp encode M timeout post p [] link) :
    (Dialogue.request env timeout id method params next).wp encode M timeout post p [] .up := by
  have hreact : M.react p (encode (requestMsg id method params)).text = (p, []) := if_pos hhalted
  refine ⟨fun _ => ?_, fun _ e => hnext _ _⟩
  rw [hreact]
  refine ⟨Or.inl hhalted, fun _ => ?_, fun hsome _ => ?_⟩
  · cases timeout <;> exact hnext _ _
  · obtain ⟨d, rfl⟩ := Option.isSome_iff_exists.mp hsome
    exact hnext _ _

/-- A reply that is accepted passes both checks of the handshake. -/
theorem accepted_checks {m : Json} (haccepts : AcceptsInitialize m) :
    ∃ result, checkResponse env 1 m = .ok result ∧
      ((result.get? "capabilities").map fun caps => (caps.get? "tools").isNone).getD true
        = false := by
  obtain ⟨result, hcheck, htools⟩ := (acceptsInitialize_iff env m).mp haccepts
  exact ⟨result, hcheck,
    Bool.eq_false_iff.mpr (mt (missingTools_iff result).mp (not_not_intro htools))⟩

/-- The handshake with a server that accepts it. The notification reaches the server, or the
server has stopped after its reply. -/
theorem wp_connect {next : Except McpError Unit → Dialogue ρ} {p' : σ} {reply : Line}
    {m : Json} (hrunning : M.halted p = false)
    (hreact : M.react p (encode initializeRequest).text = (p', [reply]))
    (hparse : parseItem env reply.item = .ok m) (haccepts : AcceptsInitialize m)
    (hnext : (next (.ok ())).wp encode M timeout post
      (M.react p' (encode initializedNotification).text).1
      ((M.react p' (encode initializedNotification).text).2.map Line.item) .up)
    (hbroken : M.halted p' = true → ∀ e,
      (next (.error (.transport e))).wp encode M timeout post p' [] .broken)
    (hlate : ∀ d, timeout = some d →
      (next (.error (timeoutError d))).wp encode M timeout post p' [reply.item] .up) :
    (Dialogue.connect env timeout next).wp encode M timeout post p [] .up := by
  obtain ⟨result, hcheck, htest⟩ := accepted_checks haccepts
  refine wp_request hrunning hreact hparse ?_ hlate
  rw [hcheck]
  simp only [htest, Bool.false_eq_true, if_false]
  exact ⟨fun _ => hnext, fun hhalted e => hbroken hhalted _⟩

end OrgCli.Mcp
