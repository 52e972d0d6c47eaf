import Mathlib.Data.List.Nodup
import OrgCli.Spec.Session

/-!
# `OrgCli.Proofs.Session`: which reply belongs to which request

`Client::request` compares the id of a message with its own only when the message has one.
So a message with another id is never accepted, whenever it arrives, and a message without
an id is accepted for whichever request reads it. `RequestRun.attributed_iff` is this fact
for one request, and `session_wellAttributed_iff` states it for every session.

`session_cons` runs one method of a session, and `session_records` and `session_ids` follow
by induction on the methods. The ids are the numbers from the client's counter on, so they
are distinct as long as the counter does not come around.
-/

set_option autoImplicit false

namespace OrgCli.Mcp

open OrgCli.Support

variable (env : Env)

/-! ### One request -/

/-- A result of the checks is accepted when the message is for the request and has an `error`
or a `result`. -/
theorem accepted_checkResponse_iff {id : UInt64} {m : Json} :
    Accepted (checkResponse env id m) ↔
      ¬ Misaddressed id m ∧ (m.get? "error" ≠ none ∨ m.get? "result" ≠ none) := by
  by_cases h : Misaddressed id m
  · obtain ⟨msg, hmsg⟩ := checkResponse_misaddressed env h
    simp [hmsg, h, Accepted]
  · rw [checkResponse_addressed env h]
    cases m.get? "error" <;> cases m.get? "result" <;> simp [h, Accepted, toolErrorOf]

/-- A request accepts only its own reply exactly when it does not read an unaddressed
message. -/
theorem RequestRun.attributed_iff {id : UInt64} {msg : Json} {es : List Event}
    {r : Except McpError Json} (h : RequestRun env id msg es r) :
    (Accepted r → ∃ m, consumed env es = [m] ∧ m.get? "id" = some (.ofU64 id)) ↔
      ∀ m ∈ consumed env es, ¬ Unaddressed m := by
  rcases h.consumed_cases with ⟨hes, e, rfl⟩ | ⟨m, hes, rfl⟩
  · simp [hes, Accepted]
  · rw [hes, accepted_checkResponse_iff]
    simp only [List.cons.injEq, and_true, exists_eq_left', List.mem_singleton, forall_eq]
    constructor
    · rintro hattr ⟨hid, hbody⟩
      -- A message without an id is not misaddressed, so it would have to carry the id.
      have haddr : ¬ Misaddressed id m := by
        intro ⟨i, hi, _⟩
        rw [hid] at hi
        cases hi
      rw [hattr ⟨haddr, hbody⟩] at hid
      cases hid
    · rintro hun ⟨haddr, hbody⟩
      cases hid : m.get? "id" with
      | none => exact absurd ⟨hid, hbody⟩ hun
      | some i =>
          by_contra hne
          have hi : i ≠ .ofU64 id := by
            intro hi
            exact hne (congrArg some hi)
          exact haddr ⟨i, hid, hi⟩

/-! ### One method -/

/-- `toolsList` is its request and a look at the result. -/
theorem toolsList_finishedWith {s s' : Client × World} {r : Except McpError Json}
    (h : Client.request env "tools/list" emptyObject s = finishedWith r s') :
    ∃ g, Client.toolsList env s = finishedWith (r.bind g) s' := by
  let missing : McpError := .protocol "tools/list response missing 'tools' array"
  refine ⟨fun result => ((result.get? "tools").bind Json.asArray).elim (.error missing) .ok,
    bind_finishedWith h fun result => ?_⟩
  generalize (result.get? "tools").bind Json.asArray = tools
  cases tools <;> rfl

/-- Every method is its request and a look at the result. -/
theorem Method.call_finishedWith (m : Method) {s s' : Client × World} {r : Except McpError Json}
    (h : m.request env s = finishedWith r s') :
    ∃ g, m.call env s = finishedWith (r.bind g) s' := by
  -- A function of what a look returns is a look, too.
  have hthen : ∀ {α β : Type} (x : Client.M α) (f : α → β) (g : Json → Except McpError α),
      x s = finishedWith (r.bind g) s' →
        (x >>= fun a => pure (f a)) s = finishedWith (r.bind fun v => (g v).map f) s' := by
    intro α β x f g hx
    refine (map_finishedWith f hx).trans ?_
    cases r with
    | ok v => rfl
    | error e => rfl
  cases m with
  | toolsList =>
      obtain ⟨g, hg⟩ := toolsList_finishedWith env h
      exact ⟨_, hthen _ (fun _ => ()) g hg⟩
  | toolsCall toolName arguments =>
      have hok : Client.request env "tools/call" (toolsCallParams toolName arguments) s
          = finishedWith (r.bind .ok) s' := by
        have hr : r.bind .ok = r := by cases r <;> rfl
        rw [hr]
        exact h
      exact ⟨_, hthen _ (fun _ => ()) _ (hthen _ _ _ hok)⟩
  | serverHasTool toolName =>
      obtain ⟨g, hg⟩ := toolsList_finishedWith env h
      exact ⟨_, hthen _ (fun _ => ()) _ (hthen _ _ g hg)⟩

/-- A method never accepts more than its request. -/
theorem Accepted.of_bind {α : Type} {r : Except McpError Json} {g : Json → Except McpError α}
    (h : Accepted (r.bind g)) : Accepted r := by
  cases r with
  | ok v => trivial
  | error e => cases e <;> exact h

/-! ### A session -/

/-- The first method of a session runs one request with the id of the counter. The rest of
the session continues with the next id. -/
theorem session_cons (m : Method) (ms : List Method) (c : Client) (w : World) :
    ∃ es r g, RequestRun env c.nextId (requestMsg c.nextId m.message.1 m.message.2) es r ∧
      session env (m :: ms) c w
        = ⟨c.nextId, es, r, r.bind g⟩ :: session env ms c.next (w.extend es) := by
  obtain ⟨es, r, hreq, hrun⟩ := request_run env m.message.1 m.message.2 c w
  obtain ⟨g, hcall⟩ := m.call_finishedWith env hrun
  have hrequest : c.run (m.request env) w = ((r, c.next), w.extend es) :=
    Client.run_of_finishedWith hrun
  have hevents : (w.extend es).trace.drop w.trace.length = es := by
    rw [World.trace_extend, List.drop_left]
  refine ⟨es, r, g, hreq, ?_⟩
  simp only [session, Client.run_of_finishedWith hcall, hrequest, hevents]

/-- Every record of a session is a run of one request, and its method accepts no more than
the request does. -/
theorem session_records (ms : List Method) (c : Client) (w : World) :
    ∀ r ∈ session env ms c w,
      (∃ method params, RequestRun env r.id (requestMsg r.id method params) r.events r.request) ∧
        (Accepted r.result → Accepted r.request) := by
  induction ms generalizing c w with
  | nil => exact List.forall_mem_nil _
  | cons m ms ih =>
      obtain ⟨es, r, g, hreq, hsession⟩ := session_cons env m ms c w
      rw [hsession, List.forall_mem_cons]
      exact ⟨⟨⟨_, _, hreq⟩, Accepted.of_bind⟩, ih c.next (w.extend es)⟩

/-- The ids of a session count up from the client's counter. -/
theorem session_ids (ms : List Method) (c : Client) (w : World) :
    (session env ms c w).map Record.id
      = (List.range ms.length).map fun i => c.nextId + UInt64.ofNat i := by
  induction ms generalizing c w with
  | nil => rfl
  | cons m ms ih =>
      obtain ⟨es, r, g, _, hsession⟩ := session_cons env m ms c w
      rw [hsession, List.map_cons, ih, List.length_cons, List.range_succ_eq_map, List.map_cons,
        List.map_map]
      have hzero : c.nextId + UInt64.ofNat 0 = c.nextId := UInt64.add_zero _
      have hsucc : ∀ i, c.next.nextId + UInt64.ofNat i = c.nextId + UInt64.ofNat (i + 1) := by
        intro i
        show c.nextId + 1 + UInt64.ofNat i = _
        rw [UInt64.ofNat_add, UInt64.add_assoc, UInt64.add_comm 1]
        rfl
      simp only [hzero, hsucc, Function.comp_def]

/-- The ids are distinct while the counter does not come around. -/
theorem session_ids_nodup {ms : List Method} (h : ms.length < 2 ^ 64) (c : Client) (w : World) :
    ((session env ms c w).map Record.id).Nodup := by
  rw [session_ids]
  refine List.Nodup.map_on ?_ List.nodup_range
  intro i hi j hj hij
  rw [List.mem_range] at hi hj
  have hmod : (UInt64.ofNat i).toNat = (UInt64.ofNat j).toNat :=
    congrArg UInt64.toNat ((UInt64.add_right_inj c.nextId).mp hij)
  rw [UInt64.toNat_ofNat', UInt64.toNat_ofNat'] at hmod
  omega

/-- One record reports only its own reply exactly when it does not read an unaddressed
message. -/
theorem session_attributed_iff {ms : List Method} {c : Client} {w : World} {r : Record}
    (hr : r ∈ session env ms c w) :
    (Accepted r.request ∨ Accepted r.result → r.Attributed env) ↔
      ∀ m ∈ consumed env r.events, ¬ Unaddressed m := by
  obtain ⟨⟨method, params, hreq⟩, hresult⟩ := session_records env ms c w r hr
  rw [or_iff_left_of_imp hresult]
  exact hreq.attributed_iff env

/-- A session attributes every reply to its own request exactly when it reads no message
that has an `error` or a `result` but no `id`. -/
theorem session_wellAttributed_iff (ms : List Method) (c : Client) (w : World)
    (h : ms.length < 2 ^ 64) :
    WellAttributed env (session env ms c w) ↔
      ∀ r ∈ session env ms c w, ∀ m ∈ consumed env r.events, ¬ Unaddressed m := by
  constructor
  · intro hwell r hr
    exact (session_attributed_iff env hr).mp (hwell.attributed r hr)
  · intro hun
    refine ⟨session_ids_nodup env h c w, ?_, ?_⟩
    · intro r hr
      obtain ⟨⟨method, params, hreq⟩, _⟩ := session_records env ms c w r hr
      exact ⟨method, params, hreq.written_eq⟩
    · intro r hr
      exact (session_attributed_iff env hr).mpr (hun r hr)

/-- Two tool calls on a connected client with the default timeout. -/
def twoCalls (env : Env) : List Record :=
  session env [.toolsCall "org-read" emptyObject, .toolsCall "org-read" emptyObject]
    { transport := { timeout := some (.fromSecs 30) }, nextId := 2 } .initial

/-- The first call runs out of time, and its reply comes late. The reply carries the id of
the first call, so the second call does not accept it. -/
theorem session_wellAttributed_late :
    WellAttributed (Env.late emptyContentEntry) (twoCalls (Env.late emptyContentEntry)) :=
  (session_wellAttributed_iff _ _ _ _ (by decide)).mpr (by decide +kernel)

/-- The same late reply without its id is reported as the result of the second call. -/
theorem session_unaddressed_attributed :
    ¬ WellAttributed (Env.late bareEntry) (twoCalls (Env.late bareEntry)) := by
  intro h
  have hwrong : ∃ r ∈ twoCalls (Env.late bareEntry),
      Accepted r.request ∧ ¬ r.Attributed (Env.late bareEntry) := by
    decide +kernel
  obtain ⟨r, hr, haccepted, hattr⟩ := hwrong
  exact hattr (h.attributed r hr (.inl haccepted))

end OrgCli.Mcp
