import OrgCli.Proofs.Envelope

/-!
# `OrgCli.Proofs.ExitCode`: the exit code of a transcript

A script that only sees the exit code wants to know what happened between the program and the
server. `transcriptCode` computes the code from what a protocol analyser sees: whether the
spawn failed, and the messages that came back. Failed writes, timeouts and ends of file have no
code of their own. `exitCode_of_transcript` proves that it is the code of every run.
-/

set_option autoImplicit false

namespace OrgCli

open OrgCli.Mcp
open OrgCli.Support

variable (env : Env)

/-- How a message reads as the reply to a request. -/
inductive Verdict where
  | result (v : Json)
  | error (err : Json)
  | unusable

/-- The verdict on a message that is read for the request `id`. A message under another id is
unusable, and an `error` member takes precedence over a `result`. -/
def verdict (id : UInt64) (m : Json) : Verdict :=
  if (m.get? "id").getD (.ofU64 id) ≠ .ofU64 id then .unusable
  else
    match m.get? "error", m.get? "result" with
    | some err, _ => .error err
    | none, some v => .result v
    | none, none => .unusable

/-- The exit code for the reply to the request of a command. -/
def replyCode (c : Commands) (m : Json) : Int32 :=
  match verdict 2 m with
  | .error err => if c.isGtd ∧ (err.get? "code").bind Json.asI64 = some (-32601) then 2 else 1
  | .result v => if c = .tools .list ∧ (v.get? "tools").bind Json.asArray = none then 3 else 0
  | .unusable => 3

/-- The exit code of a run that got no second message: the handshake failed, or the reply to
the request is missing. -/
def handshakeCode (m : Json) : Int32 :=
  match verdict 1 m with
  | .error _ => 1
  | .result _ | .unusable => 3

/-- The exit code for the messages that came back. -/
def messagesCode (c : Commands) : List Json → Int32
  | [] => 3
  | [m] => handshakeCode m
  | _ :: m :: _ => replyCode c m

/-- The exit code of a run with a server, from the events alone. -/
def transcriptCode (c : Commands) (es : List Event) : Int32 :=
  if (spawns es).any (·.2 ≠ .spawned) then 4 else messagesCode c (consumed env es)

/-- The checks of a request decide as the verdict says. -/
theorem verdict_cases (id : UInt64) (m : Json) :
    (∃ err, verdict id m = .error err ∧ checkResponse env id m = .error (toolErrorOf err)) ∨
      (∃ v, verdict id m = .result v ∧ checkResponse env id m = .ok v) ∨
      (verdict id m = .unusable ∧ ∃ msg, checkResponse env id m = .error (.protocol msg)) := by
  by_cases hmis : Misaddressed id m
  · obtain ⟨i, hi, hne⟩ := hmis
    refine Or.inr (Or.inr ⟨?_, checkResponse_misaddressed env ⟨i, hi, hne⟩⟩)
    unfold verdict
    rw [hi]
    exact if_pos hne
  · have hid : ¬ ((m.get? "id").getD (.ofU64 id) ≠ .ofU64 id) := by
      intro hne
      cases hi : m.get? "id" with
      | none => exact hne (by rw [hi]; rfl)
      | some i => exact hmis ⟨i, hi, by rwa [hi] at hne⟩
    rw [checkResponse_addressed env hmis]
    unfold verdict
    rw [if_neg hid]
    cases m.get? "error" with
    | some err => exact Or.inl ⟨err, rfl, rfl⟩
    | none =>
        cases m.get? "result" with
        | some v => exact Or.inr (Or.inl ⟨v, rfl, rfl⟩)
        | none => exact Or.inr (Or.inr ⟨rfl, _, rfl⟩)

variable {env}

/-- The report on the reply to a request has the code of the reply. -/
theorem finish_code {c : Commands} {compact : Bool} {method : String} {params : Json}
    {finish : Except McpError Json → Report}
    (h : plan env c compact = .exchange method params finish) (m : Json) :
    (finish (checkResponse env 2 m)).code = replyCode c m := by
  unfold replyCode
  rcases verdict_cases env 2 m with ⟨err, hverdict, hcheck⟩ | ⟨v, hverdict, hcheck⟩ |
    ⟨hverdict, msg, hcheck⟩
  · rw [hverdict, hcheck]
    show _ = if c.isGtd = true ∧ _ then 2 else 1
    rcases finish_error env h (toolErrorOf err) with ⟨hno, hrep⟩ | ⟨⟨hgtd, hcode⟩, _, hrep⟩
    · rw [hrep, if_neg]
      · rfl
      · rintro ⟨hgtd, hcode⟩
        exact hno ⟨hgtd, (toolErrorOf_fallback_iff err).mpr hcode⟩
    · rw [hrep, if_pos ⟨hgtd, (toolErrorOf_fallback_iff err).mp hcode⟩]
      rfl
  · rw [hverdict, hcheck]
    show _ = if c = .tools .list ∧ _ then 3 else 0
    rcases planExchange_cases env h
        with ⟨_, _, ⟨rfl, _, _, rfl⟩ | ⟨hlist, _, _, _, _, _, hfinish⟩⟩
    · simp only [finishToolsList, toolsOf, Except.bind]
      cases (v.get? "tools").bind Json.asArray with
      | some tools => rfl
      | none => rfl
    · rw [if_neg (fun hc => hlist hc.1)]
      rcases hfinish with ⟨_, rfl⟩ | ⟨_, data, rfl⟩ <;> rfl
  · rw [hverdict, hcheck]
    rcases finish_error env h (.protocol msg) with ⟨_, hrep⟩ | ⟨⟨_, _, _, he⟩, _⟩
    · rw [hrep]
      rfl
    · cases he

/-- A first reply that fails the checks has the code of their error. -/
theorem handshakeCode_error {m : Json} {e : McpError} (h : checkResponse env 1 m = .error e) :
    handshakeCode m = e.exitCode := by
  unfold handshakeCode
  rcases verdict_cases env 1 m with ⟨err, hverdict, hcheck⟩ | ⟨_, _, hcheck⟩ |
    ⟨hverdict, msg, hcheck⟩
  · obtain rfl := Except.error.inj (h.symm.trans hcheck)
    rw [hverdict]
    rfl
  · cases h.symm.trans hcheck
  · obtain rfl := Except.error.inj (h.symm.trans hcheck)
    rw [hverdict]
    rfl

/-- A first reply that passes the checks has the code 3 when nothing else comes back. -/
theorem handshakeCode_ok {m v : Json} (h : checkResponse env 1 m = .ok v) :
    handshakeCode m = 3 := by
  unfold handshakeCode
  rcases verdict_cases env 1 m with ⟨_, _, hcheck⟩ | ⟨_, hverdict, _⟩ | ⟨hverdict, _, _⟩
  · cases h.symm.trans hcheck
  · rw [hverdict]
  · rw [hverdict]

/-- The code of a transcript whose spawn succeeded. -/
theorem transcriptCode_spawned {argv : List String} {es : List Event} (c : Commands)
    (h : spawns es = [(argv, .spawned)]) :
    transcriptCode env c es = messagesCode c (consumed env es) := by
  unfold transcriptCode
  rw [h]
  rfl

/-- A first request that returned a result leaves the code 3 when nothing else comes back. -/
theorem Mcp.RequestRun.code_ok {es : List Event} {v : Json} (c : Commands)
    (h : RequestRun env 1 initializeRequest es (.ok v)) :
    messagesCode c (consumed env es) = 3 := by
  rcases h.consumed_cases with ⟨hes, _⟩ | ⟨m, hes, hcheck⟩
  · rw [hes]
    rfl
  · rw [hes]
    exact handshakeCode_ok hcheck.symm

/-- A first request that failed leaves the code of its error. -/
theorem Mcp.RequestRun.code_error {es : List Event} {e : McpError} (c : Commands)
    (h : RequestRun env 1 initializeRequest es (.error e)) :
    messagesCode c (consumed env es) = e.exitCode := by
  rcases h.consumed_cases with ⟨hes, msg, he⟩ | ⟨m, hes, hcheck⟩
  · obtain rfl := Except.error.inj he
    rw [hes]
    rfl
  · rw [hes]
    exact handshakeCode_error hcheck.symm

/-- A connect that failed has the code of its transcript. -/
theorem Mcp.ConnectRun.code_eq {argv : List String} {es : List Event} {e : McpError}
    (h : ConnectRun env argv es (.error e)) (c : Commands) :
    e.exitCode = transcriptCode env c es := by
  cases h with
  | spawnFailed o e ho =>
      unfold transcriptCode
      rw [if_pos (by simp [spawns, ho])]
      rfl
  | initFailed fs e hreq =>
      have hspawned : spawns (.spawn argv .spawned :: fs) = [(argv, .spawned)] :=
        congrArg (_ :: ·) hreq.spawns_eq
      rw [transcriptCode_spawned c hspawned, consumed_spawn, hreq.code_error c]
  | noTools fs v hreq ht =>
      have hspawned : spawns (.spawn argv .spawned :: fs) = [(argv, .spawned)] :=
        congrArg (_ :: ·) hreq.spawns_eq
      rw [transcriptCode_spawned c hspawned, consumed_spawn, hreq.code_ok c]
      rfl
  | notifyFailed fs v hreq ht o ho e =>
      have hspawned : spawns (.spawn argv .spawned :: (fs ++ [.write initializedNotification o]))
          = [(argv, .spawned)] := by
        show _ :: spawns (fs ++ _) = _
        rw [spawns_append, hreq.spawns_eq]
        rfl
      rw [transcriptCode_spawned c hspawned, consumed_spawn, consumed_append, consumed_write,
        consumed_nil, List.append_nil, hreq.code_ok c]
      rfl

/-- A run with a server has the code of its transcript. -/
theorem RunOf.code_eq {cli : Cli} {es : List Event} {rep : Report} (h : RunOf env cli es rep)
    {method : String} {params : Json} {finish : Except McpError Json → Report}
    (hplan : plan env cli.command cli.compact = .exchange method params finish) :
    rep.code = transcriptCode env cli.command es := by
  cases h with
  | report rep hp =>
      rw [hplan] at hp
      cases hp
  | failed method params finish hp es e hc => exact hc.code_eq cli.command
  | connected method params finish hp es fs c hc r hr =>
      obtain ⟨_, o, m₁, hm₁, haccept, rfl⟩ := hc.ok_inv env
      have hspawned : spawns ([.spawn cli.serverArgv .spawned, .write initializeRequest .ok,
          .recv o, .write initializedNotification .ok] ++ fs) = [(cli.serverArgv, .spawned)] := by
        rw [spawns_append, hr.spawns_eq]
        rfl
      rw [transcriptCode_spawned _ hspawned]
      have hconsumed : consumed env ([.spawn cli.serverArgv .spawned,
          .write initializeRequest .ok, .recv o, .write initializedNotification .ok] ++ fs)
          = m₁ :: consumed env fs := by
        simp [hm₁]
      rw [hconsumed]
      rcases hr.consumed_cases with ⟨hfs, msg, rfl⟩ | ⟨m, hfs, rfl⟩
      · -- The only message is the reply that the handshake accepted.
        obtain ⟨v, hcheck, _⟩ := (acceptsInitialize_iff env m₁).mp haccept
        have hcode : messagesCode cli.command [m₁] = 3 := handshakeCode_ok hcheck
        rw [hfs, hcode]
        rcases finish_error env hp (.transport msg) with ⟨_, hrep⟩ | ⟨⟨_, _, _, he⟩, _⟩
        · rw [hrep]
          rfl
        · cases he
      · rw [hfs]
        exact finish_code hp m

/-- The exit code of every run can be read off its transcript. A usage error of the command
line is the code 2, and `schema` is otherwise the code 0. For every other command the code
depends on whether the spawn failed and on the first two messages that came back. -/
theorem exitCode_of_transcript (env : Env) (cli : Cli) :
    (LocalUsage env cli.command → (execute env cli).1 = 2) ∧
      (¬ LocalUsage env cli.command → (∃ path, cli.command = .schema path) →
        (execute env cli).1 = 0) ∧
      (¬ LocalUsage env cli.command → (∀ path, cli.command ≠ .schema path) →
        (execute env cli).1 = transcriptCode env cli.command (execute env cli).2.trace) := by
  obtain ⟨es, rep, hrun, hexec⟩ := execute_run env cli
  rw [hexec]
  cases hplan : plan env cli.command cli.compact with
  | report rep' =>
      cases hrun with
      | report _ hp =>
          rcases planReport_cases env hp with ⟨hlocal, hschema, data, rfl⟩ | ⟨hlocal, msg, rfl⟩
          · refine ⟨fun h => absurd h hlocal, fun _ _ => rfl, fun _ hno => ?_⟩
            obtain ⟨path, hpath⟩ := hschema
            exact absurd hpath (hno path)
          · exact ⟨fun _ => rfl, fun h => absurd hlocal h, fun h => absurd hlocal h⟩
      | failed _ _ _ hp | connected _ _ _ hp =>
          rw [hplan] at hp
          cases hp
  | exchange method params finish =>
      obtain ⟨hlocal, hschema, _⟩ := planExchange_cases env hplan
      refine ⟨fun h => absurd h hlocal, fun _ h => ?_, fun _ _ => hrun.code_eq hplan⟩
      obtain ⟨path, hpath⟩ := h
      exact absurd hpath (hschema path)

end OrgCli
