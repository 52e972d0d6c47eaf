import OrgCli.Proofs.Progress
import OrgCli.Proofs.Run
import OrgCli.Spec.Dialogue

/-!
# `OrgCli.Proofs.Dialogue`: `execute` is one side of the system

`execute_eq_play` says that a run of the command line plays its dialogue. `play_conversation`
says that a conversation plays a dialogue, too, on a server that plays back its events. So an
interleaving of the two threads and a server process that ends is a run of `execute`
(`system_execute`), and what is proved of `execute` for every `Server` holds for every
interleaving.
-/

set_option autoImplicit false

namespace OrgCli.Mcp

open OrgCli.Support

variable {ρ : Type} (env : Env)

/-! ### The methods of the client -/

/-- A request plays its part of a dialogue. -/
theorem play_request (method : String) (params : Json) (c : Client) (w : World) :
    ∃ r gs, Client.request env method params (c, w) = finishedWith r (c.next, w.extend gs) ∧
      ∀ next : Except McpError Json → Dialogue ρ,
        (Dialogue.request env c.transport.timeout c.nextId method params next).play env
            c.transport.timeout w.trace
          = (next r).play env c.transport.timeout (w.trace ++ gs) := by
  have hid : Client.takeId (c, w) = .ok c.nextId (c.next, w) := rfl
  have hsend := send_eq env (requestMsg c.nextId method params) c.next w
  unfold Client.request
  rw [bind_of_ok hid]
  cases hwrite : sendResult (env.server.write w.trace (requestMsg c.nextId method params)) with
  | error e =>
      -- The write failed, and the dialogue goes on with its error.
      rw [hwrite] at hsend
      rw [bind_of_error hsend]
      refine ⟨.error e, _, rfl, fun next => ?_⟩
      simp only [Dialogue.request, Dialogue.play, hwrite]
  | ok u =>
      rw [hwrite] at hsend
      rw [bind_of_ok hsend]
      have hrecv := recv_eq env c.next (w.extend [.write (requestMsg c.nextId method params)
        (env.server.write w.trace (requestMsg c.nextId method params))])
      rw [World.extend_extend] at hrecv
      refine ⟨_, _, bind_finishedWith (g := checkResponse env c.nextId) hrecv fun m => ?_,
        fun next => ?_⟩
      · cases checkResponse env c.nextId m <;> rfl
      · simp only [Dialogue.request, Dialogue.play, hwrite, World.trace_extend, List.append_assoc]
        rfl

/-- The handshake of a new client plays its part of a dialogue. -/
theorem play_connect (c : Client) (hc : c.nextId = 1) (w : World) :
    ∃ r gs, Client.handshake env (c, w) = finishedWith r (c.next, w.extend gs) ∧
      ∀ next : Except McpError Unit → Dialogue ρ,
        (Dialogue.connect env c.transport.timeout next).play env c.transport.timeout w.trace
          = (next r).play env c.transport.timeout (w.trace ++ gs) := by
  obtain ⟨r, gs, hrun, hplay⟩ := play_request (ρ := ρ) env "initialize" initializeParams c w
  rw [hc] at hplay
  unfold Client.handshake Dialogue.connect
  cases r with
  | error e =>
      rw [bind_of_error hrun]
      exact ⟨.error e, gs, rfl, fun next => hplay _⟩
  | ok result =>
      rw [bind_of_ok hrun]
      simp only [hplay]
      by_cases htest : ((result.get? "capabilities").map fun caps =>
          (caps.get? "tools").isNone).getD true = true
      · simp only [htest, if_true]
        exact ⟨.error _, gs, rfl, fun next => rfl⟩
      · simp only [htest, Bool.false_eq_true, if_false]
        have hsend := send_eq env initializedNotification c.next (w.extend gs)
        rw [World.extend_extend] at hsend
        refine ⟨_, _, hsend, fun next => ?_⟩
        simp only [Dialogue.play, World.trace_extend, List.append_assoc]
        rfl

end OrgCli.Mcp

namespace OrgCli

open OrgCli.Mcp
open OrgCli.Support

variable (env : Env)

/-! ### The command line -/

/-- The dialogue of an exchange is the handshake, and then the request or the report of the
error. -/
theorem dialogue_exchange (timeout : Option Duration) (compact : Bool) (method : String)
    (params : Json) (finish : Except McpError Json → Report) :
    ∃ next, (Plan.exchange method params finish).dialogue env timeout compact
        = Dialogue.connect env timeout next ∧
      next (.ok ()) = Dialogue.request env timeout 2 method params (fun r => .done (finish r)) ∧
      ∀ e, next (.error e) = .done (errorReport e compact) := by
  unfold Plan.dialogue
  refine ⟨_, rfl, rfl, ?_⟩
  intro e
  rfl

/-- `connect` on a server that can be spawned plays the handshake. On a failure it has printed
the report of the error. -/
theorem connect_play {ρ : Type} {program : String} {args : List String} {w : World}
    (hspawn : env.server.spawn w.trace (program :: args) = .spawned) (compact : Bool) :
    ∃ r gs,
      (∀ next : Except McpError Unit → Dialogue ρ,
        (Dialogue.connect env (recvTimeout w.recvTimeoutSecs) next).play env
            (recvTimeout w.recvTimeoutSecs) (w.trace ++ [.spawn (program :: args) .spawned])
          = (next r).play env (recvTimeout w.recvTimeoutSecs) (w.trace ++ gs)) ∧
      ((∃ e, r = .error e ∧ connect env (program :: args) compact w
          = (.error (errorReport e compact).code,
              (w.extend gs).print (errorReport e compact).printed)) ∨
        (∃ c : Client, r = .ok () ∧ c.nextId = 2 ∧
          c.transport.timeout = recvTimeout w.recvTimeoutSecs ∧
          connect env (program :: args) compact w = (.ok c, w.extend gs))) := by
  let client : Client := ⟨⟨normalizeTimeout w.connectTimeout⟩, 1⟩
  let spawned := Event.spawn (program :: args) .spawned
  have hspawned : Transport.spawn env (program :: args) w
      = (.ok ⟨none⟩, w.extend [spawned]) := by
    unfold Transport.spawn
    simp only [Proc.bind_apply, Proc.get_apply, Proc.set_apply, hspawn]
    rfl
  obtain ⟨r, gs, hrun, hplay⟩ := play_connect (ρ := ρ) env client rfl (w.extend [spawned])
  rw [World.extend_extend] at hrun
  have hconnect : Client.connectWithTimeout env (program :: args) w.connectTimeout w
      = (r.map fun _ => client.next, w.extend (spawned :: gs)) := by
    unfold Client.connectWithTimeout
    rw [Proc.bind_apply, hspawned]
    show (client.run (Client.handshake env) >>= _) (w.extend [spawned]) = _
    rw [Proc.bind_apply, Client.run_of_finishedWith hrun]
    cases r <;> rfl
  refine ⟨r, spawned :: gs, fun next => ?_, ?_⟩
  · have hplay := hplay next
    rw [World.trace_extend, List.append_assoc] at hplay
    exact hplay
  · cases r with
    | error e => exact Or.inl ⟨e, rfl, connect_error env hconnect compact⟩
    | ok u => exact Or.inr ⟨client.next, rfl, rfl, rfl, connect_ok env hconnect compact⟩

/-- The events and the report of a plan with an exchange are those of its dialogue. -/
theorem exec_play {program : String} {args : List String} {w : World}
    (hspawn : env.server.spawn w.trace (program :: args) = .spawned) (compact : Bool)
    (method : String) (params : Json) (finish : Except McpError Json → Report) :
    ∃ rep gs, Plan.exec env (program :: args) compact (.exchange method params finish) w
        = (rep.code, (w.extend gs).print rep.printed) ∧
      ((Plan.exchange method params finish).dialogue env (recvTimeout w.recvTimeoutSecs)
          compact).play env (recvTimeout w.recvTimeoutSecs)
            (w.trace ++ [.spawn (program :: args) .spawned])
        = (rep, w.trace ++ gs) := by
  obtain ⟨next, hdialogue, hok, herror⟩ :=
    dialogue_exchange env (recvTimeout w.recvTimeoutSecs) compact method params finish
  obtain ⟨r, gs, hplay, ⟨e, rfl, hrun⟩ | ⟨c, rfl, hid, htimeout, hrun⟩⟩ :=
    connect_play (ρ := Report) env hspawn compact
  · refine ⟨errorReport e compact, gs, ?_, ?_⟩
    · simp only [Plan.exec, Proc.bind_apply, hrun]
      rfl
    · rw [hdialogue, hplay, herror]
      rfl
  · -- Once connected, the request plays the rest.
    obtain ⟨r, fs, hreq, hnext⟩ :=
      play_request (ρ := Report) env method params c (w.extend gs)
    rw [htimeout, hid] at hnext
    rw [World.extend_extend] at hreq
    refine ⟨finish r, gs ++ fs, ?_, ?_⟩
    · simp only [Plan.exec, Proc.bind_apply, hrun, Client.run_of_finishedWith hreq]
      rfl
    · rw [World.trace_extend] at hnext
      rw [hdialogue, hplay, hok, hnext, List.append_assoc]
      rfl

/-- A command line with an exchange, on a server that can be spawned, plays its dialogue. -/
theorem execute_eq_play (cli : Cli) {method : String} {params : Json}
    {finish : Except McpError Json → Report}
    (hplan : plan env cli.command cli.compact = .exchange method params finish)
    (hspawn : env.server.spawn [] cli.serverArgv = .spawned) :
    ∃ rep es, execute env cli = (rep.code, ⟨es, [rep.printed], cli.timeout⟩) ∧
      (cli.dialogue env).play env (recvTimeout cli.timeout) [.spawn cli.serverArgv .spawned]
        = (rep, es) := by
  obtain ⟨rep, es, hexec, hplay⟩ := exec_play env
    (w := { World.initial with recvTimeoutSecs := cli.timeout }) hspawn cli.compact method params
      finish
  refine ⟨rep, es, ?_, ?_⟩
  · unfold execute
    rw [run_eq_plan, hplan]
    exact hexec
  · unfold Cli.dialogue
    rw [hplan]
    exact hplay

/-! ### The system -/

/-- The surroundings with a server that plays back the answers of a run. -/
def Env.playing (env : Env) (all : List Event) : Env :=
  { env with server := Reader.playback all }

/-- A malformed pair has the same message on every server. -/
theorem parseSetPairsFrom_playing (env : Env) (all : List Event) (m : Map) (pairs : List String) :
    parseSetPairsFrom (env.playing all) m pairs = parseSetPairsFrom env m pairs := by
  induction pairs generalizing m with
  | nil => rfl
  | cons pair pairs ih =>
      unfold parseSetPairsFrom
      cases splitOnce pair '=' with
      | none => rfl
      | some p => exact ih _

/-- A plan does not depend on the server. -/
theorem plan_playing (env : Env) (all : List Event) (c : Commands) (compact : Bool) :
    plan (env.playing all) c compact = plan env c compact := by
  have husage : usageMessage (env.playing all) = usageMessage env := by
    funext c
    unfold usageMessage parseSetPairs
    simp only [parseSetPairsFrom_playing]
  unfold plan
  simp only [husage]
  rfl

variable {σ ρ : Type} {env : Env} {encode : Json → Line} {M : Machine σ String Line}
  {timeout : Option Duration} {d : Dialogue ρ} {p : σ}

/-- A conversation plays its dialogue, on a server that plays back its events. -/
theorem play_conversation {all before es : List Event} {q : Conversation σ ρ}
    (h : Run (conversation encode M timeout d p) es q) (hall : before ++ es <+: all) :
    d.play (env.playing all) timeout before
      = q.program.play (env.playing all) timeout (before ++ es) := by
  induction h with
  | init h =>
      obtain rfl := h
      rw [List.append_nil]
  | @step es q q' e hrun hs ih =>
      rw [← List.append_assoc] at hall ⊢
      rw [ih ((List.prefix_append _ _).trans hall)]
      -- The next answer that is played back is the one of this step.
      have hanswer : all[(before ++ es).length]? = some e := by
        obtain ⟨rest, rfl⟩ := hall
        simp
      cases hs with
      | write msg next p items =>
          have houtcome : (env.playing all).server.write (before ++ es) msg = .ok := by
            simp only [Env.playing, Reader.playback, hanswer]
          simp only [Dialogue.play, houtcome]
      | broken msg next p items link hhalted e =>
          have houtcome : (env.playing all).server.write (before ++ es) msg
              = .writeError e := by
            simp only [Env.playing, Reader.playback, hanswer]
          simp only [Dialogue.play, houtcome]
      | read next p item items link =>
          have houtcome : channelOutcome (env.playing all) timeout (before ++ es)
              = .ok item := Reader.channelOutcome_playback hanswer (by simp)
          simp only [Dialogue.play, houtcome]
      | eof next p link hhalted =>
          have houtcome : channelOutcome (env.playing all) timeout (before ++ es)
              = .error .disconnected := Reader.channelOutcome_playback hanswer (by simp)
          simp only [Dialogue.play, houtcome]
      | timedOut next p items link hopen t htimeout =>
          have houtcome : channelOutcome (env.playing all) timeout (before ++ es)
              = .error .timeout := Reader.channelOutcome_playback hanswer (by simp [htimeout])
          simp only [Dialogue.play, houtcome]

/-- An interleaving in which a command line ends is a run of `execute`. The server that plays
back the events of the interleaving gives the same events, the same envelope and the same
exit code. -/
theorem system_execute (env : Env) (encode : Json → Line) (M : Machine σ String Line) (cli : Cli)
    (p : σ) (hremote : ∀ rep, plan env cli.command cli.compact ≠ .report rep)
    (es : List SystemLabel) (s : SystemState σ Report)
    (h : Run (system env encode M (cli.dialogue env) (recvTimeout cli.timeout) p) es s)
    (rep : Report) (hdone : s.program = .done rep) :
    execute (env.playing (.spawn cli.serverArgv .spawned :: systemEvents es)) cli
      = (rep.code, ⟨.spawn cli.serverArgv .spawned :: systemEvents es, [rep.printed],
          cli.timeout⟩) := by
  obtain ⟨q, hrun, hr⟩ := run_refines h
  cases hplan : plan env cli.command cli.compact with
  | report rep => exact absurd hplan (hremote rep)
  | exchange method params finish =>
      let all := .spawn cli.serverArgv .spawned :: systemEvents es
      obtain ⟨rep', es', hexecute, hplay⟩ :=
        execute_eq_play (env.playing all) cli ((plan_playing env all _ _).trans hplan) rfl
      unfold Cli.dialogue at hplay
      rw [plan_playing] at hplay
      have hconv : (cli.dialogue env).play (env.playing all) (recvTimeout cli.timeout)
          [.spawn cli.serverArgv .spawned] = _ := play_conversation hrun List.prefix_rfl
      rw [hr.program, hdone] at hconv
      have hsame := hplay.symm.trans hconv
      obtain ⟨rfl, rfl⟩ := Prod.mk.inj hsame
      exact hexecute

/-- The events of a run whose server does not answer in time. -/
def unansweredEvents : List Event :=
  [.spawn renameCli.serverArgv .spawned, .write initializeRequest .ok, .recv (.error .timeout)]

/-- The interleaving with a silent server that ends with the timeout is a run of `execute` with
the exit code 3. -/
theorem system_execute_timeout :
    execute ((Env.replay []).playing unansweredEvents) renameCli
      = (3, ⟨unansweredEvents,
          [(errorReport (timeoutError (.fromSecs 30)) false).printed], 30⟩) := by
  have hrun : Run (system (.replay []) (fun _ => helloLine) silent
      (renameCli.dialogue (.replay [])) (recvTimeout renameCli.timeout) ()) []
      (.start (renameCli.dialogue (.replay [])) (recvTimeout renameCli.timeout) ()) := .init rfl
  have hrun := hrun.step (.write rfl (.send rfl initializeRequest .ok) rfl)
  have hrun := hrun.step (.recv rfl (.recv rfl))
  have hrun := hrun.step (.recvReturn rfl (.timedOut rfl rfl rfl ⟨rfl, rfl⟩))
  exact system_execute _ _ _ renameCli () (fun rep h => by cases h) _ _ hrun _ rfl

end OrgCli
