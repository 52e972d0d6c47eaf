import OrgCli.Spec.Protocol

/-!
# `OrgCli.Proofs.Protocol`: every run follows the handshake

`handshake_invariant` proves `HandshakeInv` for every run of the automaton, one case for
each step. `RunOf.followed` proves that the events of every run of the program are a run of
the automaton, so the invariant holds at each point of it.

`handshake_order` is the statement about the program. A write or a read in the middle of a
trace is a step of the automaton (`Run.before`), and the phase that it leaves says what has
happened before.
-/

set_option autoImplicit false

namespace OrgCli

open OrgCli.Mcp
open OrgCli.Support

variable (env : Env)

/-! ### The invariant -/

/-- One step preserves the invariant. -/
theorem handshakeInv_step (c : Commands) (es : List Event) (p q : Phase) (e : Event)
    (hinv : HandshakeInv env c es p) (hs : HandshakeStep env c p e q) :
    HandshakeInv env c (es ++ [e]) q := by
  cases hs with
  | spawn argv o =>
      -- A spawn is neither a message nor a read.
      obtain ⟨hw, hr⟩ := hinv
      split
      · exact ⟨by simp [hw], by simp [hr]⟩
      · exact ⟨by simp [hw], by simp [hr]⟩
  | ask o =>
      -- The message counts as written when the write failed, too.
      obtain ⟨hw, hr⟩ := hinv
      split
      · exact ⟨by simp [hw], by simp [hr]⟩
      · exact ⟨by simp [hw, Commands.messages], by simp [hr]⟩
  | accept o m hm ha =>
      obtain ⟨hw, hr⟩ := hinv
      exact ⟨by simp [hw], o, m, by simp [hr], hm, ha⟩
  | refuse o hr' =>
      obtain ⟨hw, hr⟩ := hinv
      exact ⟨by simp [hw, Commands.messages], by simp [hr]⟩
  | notify o =>
      obtain ⟨hw, o', m, hr, hm, ha⟩ := hinv
      split
      · exact ⟨by simp [hw], o', m, by simp [hr], hm, ha⟩
      · exact ⟨by simp [hw, Commands.messages], by simp [hr]⟩
  | call msg hmsg o =>
      obtain ⟨hw, o', m, hr, _⟩ := hinv
      split
      · exact ⟨⟨msg, hmsg, by simp [hw]⟩, by simp [hr]⟩
      · exact ⟨by simp [hw, Commands.messages, hmsg], by simp [hr]⟩
  | answer o =>
      obtain ⟨⟨msg, hmsg, hw⟩, hr⟩ := hinv
      exact ⟨by simp [hw, Commands.messages, hmsg], by simp [hr]⟩

/-- The invariant holds of every run of the automaton. -/
theorem handshake_invariant {c : Commands} {es : List Event} {p : Phase}
    (h : Run (handshakeLts env c) es p) : HandshakeInv env c es p := by
  refine Run.invariant ?_ (fun es p e q => handshakeInv_step env c es p q e) h
  intro p hp
  subst hp
  exact ⟨rfl, rfl⟩

/-! ### The program follows the automaton -/

/-- A successful spawn leads to the first phase after the start. -/
theorem run_spawned (c : Commands) (argv : List String) :
    Run (handshakeLts env c) [.spawn argv .spawned] .spawned :=
  Run.step (Run.init rfl) (HandshakeStep.spawn argv .spawned)

/-- The `initialize` request ends in the accepted phase when its result has the tools. -/
theorem run_accepted (c : Commands) (argv : List String) {es : List Event} {v : Json}
    (h : RequestRun env 1 initializeRequest es (.ok v)) (ht : HasTools v) :
    Run (handshakeLts env c) (.spawn argv .spawned :: es) .accepted := by
  obtain ⟨o, m, rfl, hm, hcheck⟩ := h.ok_inv env rfl
  have hasked := Run.step (run_spawned env c argv) (HandshakeStep.ask .ok)
  have haccept : AcceptsInitialize m := (acceptsInitialize_iff env m).mpr ⟨v, hcheck, ht⟩
  exact Run.step hasked (HandshakeStep.accept o m hm haccept)

/-- The `initialize` request stops the run in every other case. -/
theorem run_refused (c : Commands) (argv : List String) {es : List Event}
    {r : Except McpError Json} (h : RequestRun env 1 initializeRequest es r)
    (hr : ∀ v, r = .ok v → ¬ HasTools v) :
    Run (handshakeLts env c) (.spawn argv .spawned :: es) .stopped := by
  have hspawned := run_spawned env c argv
  have hasked := Run.step hspawned (HandshakeStep.ask .ok)
  cases h with
  | unsent o e ho =>
      have hstep := (HandshakeStep.ask o : HandshakeStep env c _ _ _)
      rw [if_neg ho] at hstep
      exact Run.step hspawned hstep
  | unanswered o e ho =>
      refine Run.step hasked (HandshakeStep.refuse o ?_)
      intro m hm
      rw [ho] at hm
      cases hm
  | answered o m ho =>
      refine Run.step hasked (HandshakeStep.refuse o ?_)
      intro m' hm' haccept
      obtain rfl := Option.some.inj (ho.symm.trans hm')
      obtain ⟨v, hcheck, ht⟩ := (acceptsInitialize_iff env m).mp haccept
      exact hr v hcheck ht

/-- A connect follows the automaton. When it succeeds, the run is ready for the request. -/
theorem run_connect (c : Commands) {argv : List String} {es : List Event}
    {r : Except McpError Client} (h : ConnectRun env argv es r) :
    ∃ p, Run (handshakeLts env c) es p ∧ ∀ client, r = .ok client → p = .ready := by
  cases h with
  | spawnFailed o e ho =>
      have hstep := (HandshakeStep.spawn argv o : HandshakeStep env c _ _ _)
      rw [if_neg ho] at hstep
      exact ⟨.stopped, Run.step (Run.init rfl) hstep, by simp⟩
  | initFailed es e hreq => exact ⟨.stopped, run_refused env c argv hreq (by simp), by simp⟩
  | noTools es v hreq ht =>
      refine ⟨.stopped, run_refused env c argv hreq ?_, by simp⟩
      rintro v' ⟨⟩
      exact ht
  | notifyFailed es v hreq ht o ho e =>
      have hstep := (HandshakeStep.notify o : HandshakeStep env c _ _ _)
      rw [if_neg ho] at hstep
      exact ⟨.stopped, Run.step (run_accepted env c argv hreq ht) hstep, by simp⟩
  | connected es v hreq ht client hc =>
      exact ⟨.ready, Run.step (run_accepted env c argv hreq ht) (HandshakeStep.notify .ok),
        fun _ _ => rfl⟩

/-- The request of a plan is the request of its command. -/
theorem request_of_plan {c : Commands} {compact : Bool} {method : String} {params : Json}
    {finish : Except McpError Json → Report}
    (h : plan env c compact = .exchange method params finish) :
    c.request env = some (requestMsg 2 method params) := by
  rcases planExchange_cases env h
      with ⟨_, _, ⟨rfl, rfl, rfl, _⟩ | ⟨hlist, name, args, hcall, rfl, rfl, _⟩⟩
  · rfl
  · unfold Commands.request
    split
    · exact absurd rfl hlist
    · rw [hcall]
      rfl

/-- The events of every run are a run of the automaton. -/
theorem RunOf.followed {cli : Cli} {es : List Event} {rep : Report} (h : RunOf env cli es rep) :
    ∃ p, Run (handshakeLts env cli.command) es p := by
  cases h with
  | report rep hp => exact ⟨.start, Run.init rfl⟩
  | failed method params finish hp es e hc =>
      obtain ⟨p, hp, _⟩ := run_connect env cli.command hc
      exact ⟨p, hp⟩
  | connected method params finish hp es fs client hc r hr =>
      obtain ⟨p, hrun, hready⟩ := run_connect env cli.command hc
      obtain rfl := hready client rfl
      have hcall := HandshakeStep.call _ (request_of_plan env hp)
      -- The request is one write, and one read when the write succeeded.
      cases hr with
      | unsent o e ho => exact ⟨_, Run.step hrun (hcall o)⟩
      | unanswered o e ho =>
          have hrun' := Run.step (Run.step hrun (hcall .ok)) (HandshakeStep.answer o)
          rw [List.append_assoc] at hrun'
          exact ⟨.stopped, hrun'⟩
      | answered o m ho =>
          have hrun' := Run.step (Run.step hrun (hcall .ok)) (HandshakeStep.answer o)
          rw [List.append_assoc] at hrun'
          exact ⟨.stopped, hrun'⟩

/-! ### The order of a run -/

/-- In every phase, the messages written are the first of the command's messages, and there
are at most two reads. -/
theorem HandshakeInv.bounds {c : Commands} {es : List Event} {p : Phase}
    (h : HandshakeInv env c es p) :
    written es <+: c.messages env ∧ (reads es).length ≤ 2 := by
  cases p with
  | start | spawned => exact ⟨by simp [h.1], by simp [h.2]⟩
  | asked => exact ⟨by simp [h.1, Commands.messages], by simp [h.2]⟩
  | accepted | ready =>
      obtain ⟨hw, o, m, hr, _⟩ := h
      exact ⟨by simp [hw, Commands.messages], by simp [hr]⟩
  | called =>
      obtain ⟨⟨msg, hmsg, hw⟩, hr⟩ := h
      exact ⟨by simp [hw, Commands.messages, hmsg], by omega⟩
  | stopped => exact h

/-- Two messages of different methods differ. -/
theorem ne_of_method {m n : Json} (h : m.get? "method" ≠ n.get? "method") : m ≠ n := by
  intro heq
  exact h (congrArg (·.get? "method") heq)

/-- The messages of a command are distinct. -/
theorem nodup_messages (c : Commands) : (c.messages env).Nodup := by
  have hmethod : ∀ m ∈ c.request env, m.get? "method" = some (.string "tools/list") ∨
      m.get? "method" = some (.string "tools/call") := by
    intro m hm
    unfold Commands.request at hm
    split at hm
    · cases hm
      left
      simp [requestMsg, lookup]
    · rw [Option.mem_def, Option.map_eq_some_iff] at hm
      obtain ⟨call, _, rfl⟩ := hm
      right
      simp [requestMsg, lookup]
  have hinit : initializeRequest.get? "method" = some (.string "initialize") := by
    simp [initializeRequest, requestMsg, lookup]
  have hnotif :
      initializedNotification.get? "method" = some (.string "notifications/initialized") := by
    simp [initializedNotification, notificationMsg, lookup]
  unfold Commands.messages
  rw [List.nodup_cons, List.nodup_cons, List.mem_cons, not_or]
  refine ⟨⟨ne_of_method (by simp [hinit, hnotif]), ?_⟩, ?_, ?_⟩
  · intro hmem
    rcases hmethod _ (Option.mem_toList.mp hmem) with h | h <;> simp [hinit] at h
  · intro hmem
    rcases hmethod _ (Option.mem_toList.mp hmem) with h | h <;> simp [hnotif] at h
  · cases c.request env <;> simp

/-- The handshake and the order of a run. The messages written are the first of the
command's messages: `initialize` with the id 1, the notification, and one request with the
id 2. No message is written twice. A message after the first is written only after one
reply that the handshake accepts. There are at most two reads, and the second comes after
all three messages. -/
theorem handshake_order (cli : Cli) :
    written (execute env cli).2.trace <+: cli.command.messages env ∧
      (written (execute env cli).2.trace).Nodup ∧
      (reads (execute env cli).2.trace).length ≤ 2 ∧
      (∀ pre msg o post, (execute env cli).2.trace = pre ++ .write msg o :: post →
        written pre ≠ [] → ∃ m, consumed env pre = [m] ∧ AcceptsInitialize m) ∧
      (∀ pre o post, (execute env cli).2.trace = pre ++ .recv o :: post →
        reads pre ≠ [] → (written pre).length = 3) := by
  obtain ⟨es, rep, hrun, hexec⟩ := execute_run env cli
  obtain ⟨p, hfollowed⟩ := hrun.followed
  obtain ⟨hfirst, hreads⟩ := (handshake_invariant env hfollowed).bounds
  rw [hexec]
  refine ⟨hfirst, hfirst.sublist.nodup (nodup_messages env cli.command), hreads, ?_, ?_⟩
  · rintro pre msg o post rfl hne
    -- Three phases are left by a write, and in the first of them nothing is written yet.
    obtain ⟨p, q, hpre, hstep⟩ := hfollowed.before
    have hinv := handshake_invariant env hpre
    cases hstep with
    | ask o => exact absurd hinv.1 hne
    | notify o =>
        obtain ⟨_, o', m, hr, hm, ha⟩ := hinv
        exact ⟨m, by rw [consumed_eq_reads, hr]; simp [hm], ha⟩
    | call msg hmsg o =>
        obtain ⟨_, o', m, hr, hm, ha⟩ := hinv
        exact ⟨m, by rw [consumed_eq_reads, hr]; simp [hm], ha⟩
  · rintro pre o post rfl hne
    -- The two steps that read from `asked` are the first read.
    obtain ⟨p, q, hpre, hstep⟩ := hfollowed.before
    have hinv := handshake_invariant env hpre
    cases hstep with
    | accept o m hm ha => exact absurd hinv.2 hne
    | refuse o hr => exact absurd hinv.2 hne
    | answer o =>
        obtain ⟨⟨msg, _, hw⟩, _⟩ := hinv
        rw [hw]
        rfl

end OrgCli
