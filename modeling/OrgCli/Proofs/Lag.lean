import OrgCli.Proofs.Adequacy
import OrgCli.Proofs.Dialogue
import OrgCli.Proofs.Session
import OrgCli.Spec.Lag

/-!
# `OrgCli.Proofs.Lag`: a session does not recover from a timeout

`calls_wp` is the precondition of a session on a server that answers in order. While nothing is
pending, a request reads its own reply. Once a request has run out of time, its reply stays
pending, and `calls_wp_late` goes on from there: the first pending message is always the reply
to an earlier request, so it is rejected, and the next reply takes its place.

`session_play` connects the dialogue to the methods of `Client`, and `session_lags` is the
result for every interleaving.
-/

set_option autoImplicit false

namespace OrgCli.Mcp

open OrgCli.Support

variable {σ : Type} {env : Env} {encode : Json → Line} {M : Machine σ String Line}
  {timeout : Option Duration} {p : σ} {id : UInt64} {ms : List Method} {vs : List Json}
  {items : List Item} {rs : List (Except McpError Json)}
  {post : List (Except McpError Json) → σ → Prop}

/-! ### The ids of the requests -/

/-- The counter does not come around. -/
theorem toNat_succ {n : Nat} (h : id.toNat + (n + 1) < 2 ^ 64) :
    (id + 1).toNat = id.toNat + 1 ∧ (id + 1).toNat + n < 2 ^ 64 := by
  have hsucc : (id + 1).toNat = id.toNat + 1 := by
    rw [UInt64.toNat_add]
    exact Nat.mod_eq_of_lt (by show id.toNat + 1 < 2 ^ 64; omega)
  exact ⟨hsucc, by omega⟩

/-- The item is the reply to a request before the request `id`. -/
def Late (env : Env) (id : UInt64) (item : Item) : Prop :=
  ∃ v i, parseItem env item = .ok v ∧ v.get? "id" = some (.ofU64 i) ∧ i.toNat < id.toNat

/-- A late reply is rejected. -/
theorem Late.rejected (timeout : Option Duration) {item : Item} (h : Late env id item) :
    ∃ msg, (finishRecv env timeout (.ok item)).bind (checkResponse env id)
      = .error (.protocol msg) := by
  obtain ⟨v, i, hparse, hid, hlt⟩ := h
  have hne : i ≠ id := by
    rintro rfl
    exact Nat.lt_irrefl _ hlt
  have hmis : Misaddressed id v := by
    refine ⟨.ofU64 i, hid, ?_⟩
    intro hi
    cases hi
    exact hne rfl
  obtain ⟨msg, hmsg⟩ := checkResponse_misaddressed env hmis
  rw [finishRecv_ok hparse]
  exact ⟨msg, hmsg⟩

/-! ### The preconditions -/

/-- A client that lags behind misses every reply from then on. -/
theorem calls_wp_late (hin : InOrder env encode M p id ms vs)
    (hids : id.toNat + ms.length < 2 ^ 64) (hitems : items ≠ [])
    (hlate : ∀ item ∈ items, Late env id item)
    (hpost : ∀ lost q, lost.length = vs.length → (∀ r ∈ lost, Missed timeout r) →
      post (rs ++ lost) q) :
    (Dialogue.calls env timeout id ms rs).wp encode M timeout post p items .up := by
  induction hin generalizing items rs with
  | nil p id hrunning =>
      have hdone := hpost [] p rfl (List.forall_mem_nil _)
      rw [List.append_nil] at hdone
      exact hdone
  | @cons p p' id m ms reply v vs hrunning hreact hparse hid hrest ih =>
      obtain ⟨hsucc, hids'⟩ := toNat_succ hids
      -- The reply to this request is late for the next one, as the others are.
      have hnext : ∀ item ∈ items ++ [reply.item], Late env (id + 1) item := by
        intro item hitem
        rcases List.mem_append.mp hitem with hitem | hitem
        · obtain ⟨w, i, hw, hi, hlt⟩ := hlate item hitem
          exact ⟨w, i, hw, hi, by omega⟩
        · obtain rfl := List.mem_singleton.mp hitem
          exact ⟨v, id, hparse, hid, by omega⟩
      have hstep : ∀ r, Missed timeout r → ∀ lost q, lost.length = vs.length →
          (∀ r ∈ lost, Missed timeout r) → post (rs ++ [r] ++ lost) q := by
        intro r hr lost q hlength hlost
        rw [List.append_assoc]
        refine hpost (r :: lost) q ?_ ?_
        · rw [List.length_cons, List.length_cons, hlength]
        · exact List.forall_mem_cons.mpr ⟨hr, hlost⟩
      obtain ⟨item, rest, rfl⟩ := List.exists_cons_of_ne_nil hitems
      refine wp_request_pending hrunning hreact List.cons_append ?_ ?_
      · obtain ⟨msg, hmsg⟩ := Late.rejected timeout (hlate item (List.mem_cons_self ..))
        rw [hmsg]
        exact ih hids' (by simp) (fun i hi => hnext i (List.mem_cons_of_mem _ hi))
          (hstep _ (Or.inr ⟨msg, rfl⟩))
      · intro d hd
        exact ih hids' (by simp) hnext (hstep _ (Or.inl ⟨d, hd, rfl⟩))

/-- A session on a server that answers in order has these outcomes. -/
theorem calls_wp (hin : InOrder env encode M p id ms vs) (hids : id.toNat + ms.length < 2 ^ 64)
    (hpost : ∀ tail q, Outcomes env timeout id vs tail → post (rs ++ tail) q) :
    (Dialogue.calls env timeout id ms rs).wp encode M timeout post p [] .up := by
  induction hin generalizing rs with
  | nil p id hrunning =>
      have hdone := hpost [] p ⟨0, [], rfl, rfl, List.forall_mem_nil _, fun r hr => by cases hr⟩
      rw [List.append_nil] at hdone
      exact hdone
  | @cons p p' id m ms reply v vs hrunning hreact hparse hid hrest ih =>
      obtain ⟨hsucc, hids'⟩ := toNat_succ hids
      refine wp_request hrunning hreact hparse ?_ ?_
      · -- The request gets its own reply, and nothing is pending.
        refine ih hids' fun tail q htail => ?_
        obtain ⟨k, lost, rfl, hlength, hlost, hfirst⟩ := htail
        rw [List.append_assoc]
        refine hpost _ q ⟨k + 1, lost, rfl, ?_, hlost, hfirst⟩
        rw [List.take_succ_cons, List.length_cons, List.length_cons]
        omega
      · intro d hd
        refine calls_wp_late hrest hids' (by simp) ?_ fun lost q hlength hlost => ?_
        · intro item hitem
          obtain rfl := List.mem_singleton.mp hitem
          exact ⟨v, id, hparse, hid, by omega⟩
        · have htimedOut : TimedOut timeout (.error (timeoutError d)) := ⟨d, hd, rfl⟩
          rw [List.append_assoc]
          refine hpost _ q ⟨0, _ :: lost, rfl, ?_, ?_, ?_⟩
          · simp [hlength]
          · exact List.forall_mem_cons.mpr ⟨Or.inl htimedOut, hlost⟩
          · intro r hr
            obtain rfl := Option.some.inj hr
            exact htimedOut

/-! ### The methods of the client -/

/-- The requests of a session play its dialogue. -/
theorem session_play (env : Env) (ms : List Method) (c : Client) (w : World) :
    ∃ gs, ∀ rs, (Dialogue.calls env c.transport.timeout c.nextId ms rs).play env
        c.transport.timeout w.trace
      = (rs ++ (session env ms c w).map Record.request, w.trace ++ gs) := by
  induction ms generalizing c w with
  | nil =>
      refine ⟨[], fun rs => ?_⟩
      simp only [Dialogue.calls, Dialogue.play, session, List.map_nil, List.append_nil]
  | cons m ms ih =>
      obtain ⟨r, gs, hrun, hplay⟩ := play_request (ρ := List (Except McpError Json)) env
        m.message.1 m.message.2 c w
      obtain ⟨g, hcall⟩ := m.call_finishedWith env hrun
      have hrequest : c.run (m.request env) w = ((r, c.next), w.extend gs) :=
        Client.run_of_finishedWith hrun
      obtain ⟨fs, hrest⟩ := ih c.next (w.extend gs)
      refine ⟨gs ++ fs, fun rs => ?_⟩
      have hrest := hrest (rs ++ [r])
      rw [World.trace_extend, List.append_assoc, List.append_assoc] at hrest
      simp only [session, Client.run_of_finishedWith hcall, hrequest, List.map_cons]
      exact (hplay _).trans hrest

/-- The dialogue of a session does not depend on the server. -/
theorem calls_playing (env : Env) (all : List Event) (timeout : Option Duration) (id : UInt64)
    (ms : List Method) (rs : List (Except McpError Json)) :
    Dialogue.calls (env.playing all) timeout id ms rs = Dialogue.calls env timeout id ms rs := by
  induction ms generalizing id rs with
  | nil => rfl
  | cons m ms ih =>
      simp only [Dialogue.calls, ih]
      rfl

/-- A session of any methods, with a server that answers in order, in every interleaving. The
requests before the first timeout get their own replies, and none of the later ones ever gets
one: each of them times out, or it reads the reply to an earlier request and fails. No
interleaving stops before the end of the session, and the results of a session that is done are
those of the methods of `Client`. -/
theorem session_lags (env : Env) (encode : Json → Line) (M : Machine σ String Line) (p : σ)
    (c : Client) (ms : List Method) (vs : List Json)
    (hin : InOrder env encode M p c.nextId ms vs) (hids : c.nextId.toNat + ms.length < 2 ^ 64)
    (es : List SystemLabel) (s : SystemState σ (List (Except McpError Json)))
    (h : Run (system env encode M (Dialogue.calls env c.transport.timeout c.nextId ms [])
      c.transport.timeout p) es s) :
    (∀ rs, s.program = .done rs → Outcomes env c.transport.timeout c.nextId vs rs ∧
      (session (env.playing (systemEvents es)) ms c .initial).map Record.request = rs) ∧
    ((∀ l s', ¬ SystemStep env encode M s l s') → ∃ rs, s.program = .done rs) := by
  have hwp : (Dialogue.calls env c.transport.timeout c.nextId ms []).wp encode M
      c.transport.timeout (fun rs _ => Outcomes env c.transport.timeout c.nextId vs rs) p [] .up :=
    calls_wp hin hids fun tail q htail => htail
  refine ⟨fun rs hdone => ?_, wp_done hwp h⟩
  obtain ⟨_, _, _, hpost⟩ := wp_post hwp h hdone
  refine ⟨hpost, ?_⟩
  obtain ⟨q, hrun, hr⟩ := run_refines h
  have hconv : (Dialogue.calls env c.transport.timeout c.nextId ms []).play
      (env.playing (systemEvents es)) c.transport.timeout [] = _ :=
    play_conversation hrun List.prefix_rfl
  rw [hr.program, hdone] at hconv
  obtain ⟨gs, hplay⟩ := session_play (env.playing (systemEvents es)) ms c .initial
  have hplay := hplay []
  rw [calls_playing] at hplay
  exact congrArg Prod.fst (hplay.symm.trans hconv)

/-- The reply to `tools/list` of a server without tools. -/
def noToolsReply (id : UInt64) : Json :=
  .object (.ofList [("jsonrpc", .string "2.0"), ("id", .ofU64 id),
    ("result", .object (.ofList [("tools", .array [])]))])

/-- The texts of two requests and their replies. -/
def listWire : List (Json × Line) := [
  (requestMsg 2 "tools/list" emptyObject, ⟨"\x7b\"id\":2,\"jsonrpc\":\"2.0\","
    ++ "\"method\":\"tools/list\",\"params\":\x7b\x7d\x7d", by decide +kernel⟩),
  (requestMsg 3 "tools/list" emptyObject, ⟨"\x7b\"id\":3,\"jsonrpc\":\"2.0\","
    ++ "\"method\":\"tools/list\",\"params\":\x7b\x7d\x7d", by decide +kernel⟩),
  (noToolsReply 2, ⟨"\x7b\"id\":2,\"jsonrpc\":\"2.0\",\"result\":\x7b\"tools\":[]\x7d\x7d",
    by decide +kernel⟩),
  (noToolsReply 3, ⟨"\x7b\"id\":3,\"jsonrpc\":\"2.0\",\"result\":\x7b\"tools\":[]\x7d\x7d",
    by decide +kernel⟩)]

/-- The text of one of them. -/
def listEncode : Json → Line := wireText listWire

/-- A server without tools. -/
def noTools : Machine Unit String Line where
  handle p line :=
    if line = (listEncode (requestMsg 2 "tools/list" emptyObject)).text then
      (p, [listEncode (noToolsReply 2)])
    else (p, [listEncode (noToolsReply 3)])
  halted _ := false

/-- A client that reads these texts. -/
def listEnv : Env where
  server := .replay []
  serde := { Serde.ofTable (listWire.map fun entry => (entry.2.text, entry.1)) with
    debugValue := fun _ => "Number(2)" }

/-- The server answers both requests in order. -/
theorem noTools_inOrder : InOrder listEnv listEncode noTools () 2 [.toolsList, .toolsList]
    [noToolsReply 2, noToolsReply 3] := by
  have hfirst : noTools.react () (listEncode (requestMsg 2 "tools/list" emptyObject)).text
      = ((), [listEncode (noToolsReply 2)]) := by
    simp [noTools, Machine.react]
  have hother : (listEncode (requestMsg 3 "tools/list" emptyObject)).text
      ≠ (listEncode (requestMsg 2 "tools/list" emptyObject)).text := by
    decide +kernel
  have hsecond : noTools.react () (listEncode (requestMsg 3 "tools/list" emptyObject)).text
      = ((), [listEncode (noToolsReply 3)]) := by
    simp [noTools, Machine.react, hother]
  exact .cons rfl hfirst (by decide +kernel) (by decide +kernel)
    (.cons rfl hsecond (by decide +kernel) (by decide +kernel) (.nil _ _ rfl))

/-- The first request times out. The second one reads the reply to it, and fails. -/
theorem session_lags_late :
    ∃ es, Outcomes listEnv (some (.fromSecs 30)) 2 [noToolsReply 2, noToolsReply 3]
        [.error (timeoutError (.fromSecs 30)),
          .error (.protocol "response id Number(2) does not match request id 3")] ∧
      (session (listEnv.playing (systemEvents es)) [.toolsList, .toolsList]
          ⟨⟨some (.fromSecs 30)⟩, 2⟩ .initial).map Record.request
        = [.error (timeoutError (.fromSecs 30)),
          .error (.protocol "response id Number(2) does not match request id 3")] := by
  have hrun : Run (system listEnv listEncode noTools
      (Dialogue.calls listEnv (some (.fromSecs 30)) 2 [.toolsList, .toolsList] [])
      (some (.fromSecs 30)) ()) []
      (.start (Dialogue.calls listEnv (some (.fromSecs 30)) 2 [.toolsList, .toolsList] [])
        (some (.fromSecs 30)) ()) := .init rfl
  have hread := step_reading_cons .new (listEncode (noToolsReply 2)) []
  have hrun := hrun.step (.write rfl (.send rfl (requestMsg 2 "tools/list" emptyObject) .ok) rfl)
  have hrun := hrun.step (.recv rfl (.recv rfl))
  have hrun := hrun.step (.recvReturn rfl (.timedOut rfl rfl rfl ⟨rfl, rfl⟩))
  have hrun := hrun.step (.write rfl (.send rfl (requestMsg 3 "tools/list" emptyObject) .ok) rfl)
  have hrun := hrun.step (.serve rfl rfl
    (l := listEncode (requestMsg 2 "tools/list" emptyObject)) rfl)
  have hrun := hrun.step (.recv rfl (.recv rfl))
  have hrun := hrun.step (.reader rfl (fun _ => Or.inl (by decide +kernel)) hread)
  have hrun := hrun.step (.reader rfl (fun h => by cases h) rfl)
  have hrun := hrun.step (.recvReturn rfl (.taken rfl rfl rfl))
  have hlags := session_lags listEnv listEncode noTools () ⟨⟨some (.fromSecs 30)⟩, 2⟩ _ _
    noTools_inOrder (by decide) _ _ hrun
  obtain ⟨houtcomes, hsession⟩ := hlags.1 _ rfl
  have hrejected : (finishRecv listEnv (some (.fromSecs 30))
      (.ok (listEncode (noToolsReply 2)).item)).bind (checkResponse listEnv 3)
      = .error (.protocol "response id Number(2) does not match request id 3") := by
    decide +kernel
  exact ⟨_, by rw [← hrejected]; exact houtcomes, by rw [← hrejected]; exact hsession⟩

end OrgCli.Mcp
