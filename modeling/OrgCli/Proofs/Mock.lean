import OrgCli.Proofs.Client
import OrgCli.Spec.Mock

/-!
# `OrgCli.Proofs.Mock`: the mock is a JSON-RPC server

`handle_cases` lists what one turn of the loop does. From it follows `feed_replies` by induction
on the lines: over a whole input the mock gives each line that it hears its `Reply`, in the
order of the lines, and it logs the requests among them (`mock_answers_each`).

`checkResponse_toValue` is the other side: a client that checks a response of the mock gets
its `Response.outcome`.
-/

set_option autoImplicit false

namespace OrgCli.Mock

open OrgCli.Mcp (Line McpError)
open OrgCli.Support

variable {mock : Mock} {s : State} {line : String}

/-! ### One line -/

/-- The members of a serialized response. -/
theorem toValue_get? (r : Response) (key : String) :
    r.toValue.get? key = (lookup key [("jsonrpc", some (.string r.jsonrpc)), ("id", some r.id),
      ("result", r.result), ("error", r.error.map RpcError.toValue)]).join :=
  SortedMap.get?_ofFields (by simp) key

/-- A response with one of the two members is well formed. -/
theorem toValue_isResponse {r : Response} (hversion : r.jsonrpc = "2.0")
    (hone : r.result.isSome ≠ r.error.isSome) : IsResponse r.id r.toValue := by
  refine ⟨?_, ?_, ?_⟩
  · rw [toValue_get?, hversion]
    rfl
  · rw [toValue_get?]
    rfl
  · rw [toValue_get?, toValue_get?]
    simpa [lookup] using hone

/-- Every request gets a response under its own id. -/
theorem respond_isResponse (mock : Mock) (req : Request) :
    IsResponse (req.id.getD .null) (mock.respond req).toValue := by
  have hrespond : (mock.respond req).jsonrpc = "2.0" ∧
      (mock.respond req).id = req.id.getD .null ∧
      (mock.respond req).result.isSome ≠ (mock.respond req).error.isSome := by
    unfold respond
    simp only
    split
    · exact ⟨rfl, rfl, Bool.noConfusion⟩
    · exact ⟨rfl, rfl, Bool.noConfusion⟩
    · unfold handleToolsCall
      simp only
      split
      · exact ⟨rfl, rfl, Bool.noConfusion⟩
      · split <;> exact ⟨rfl, rfl, Bool.noConfusion⟩
    · exact ⟨rfl, rfl, Bool.noConfusion⟩
  obtain ⟨hversion, hid, hone⟩ := hrespond
  rw [← hid]
  exact toValue_isResponse hversion hone

/-- A line that is no request gets an error without an id. -/
theorem parseFailure_isResponse (e : String) : IsResponse .null (parseFailure e) where
  version := by simp [parseFailure, obj, lookup]
  correlated := by simp [parseFailure, obj, lookup]
  one := by simp [parseFailure, obj, lookup]

/-- The log grows at its end. -/
theorem recordRequest_append (log : List String) (line : String) :
    mock.recordRequest log line = log ++ mock.recordRequest [] line := by
  unfold recordRequest
  split
  · exact (List.append_nil log).symm
  · split
    · rfl
    · exact (List.append_nil log).symm

/-- A line that is a request is logged. It gets its response, or it is a notification. -/
theorem handle_request {req : Request} (hreq : mock.requestOf line = some req) (s : State) :
    mock.handle s line = (⟨s.log ++ mock.recorded line, s.exited || mock.stops line⟩,
      if req.isNotification then [] else [mock.encode (mock.respond req).toValue]) := by
  have hblank : (trim (chomp line)).isEmpty = false := by
    cases hblank : (trim (chomp line)).isEmpty with
    | true => simp [requestOf, hblank] at hreq
    | false => rfl
  have hparse : mock.parse (chomp line) = .ok req := by
    cases hparse : mock.parse (chomp line) with
    | error e => simp [requestOf, hblank, hparse, Except.toOption] at hreq
    | ok req' =>
        simp only [requestOf, hblank, hparse] at hreq
        exact congrArg Except.ok (Option.some.inj hreq)
  have hlog : mock.recordRequest s.log (chomp line) = _ := recordRequest_append _ _
  unfold handle recorded stops
  cases hnotification : req.isNotification with
  | true =>
      have hskip : (req.id.isNone && startsWith req.method "notifications/") = true :=
        hnotification
      simp only [hblank, hparse, hreq, hlog, hskip, hnotification, Option.isSome_some,
        Bool.false_eq_true, if_false, if_true, Bool.not_true, Bool.false_and, Bool.or_false]
  | false =>
      have hskip : (req.id.isNone && startsWith req.method "notifications/") = false :=
        hnotification
      simp only [hblank, hparse, hreq, hlog, hskip, hnotification, Option.isSome_some,
        Bool.false_eq_true, if_false, if_true, Bool.not_false, Bool.true_and]

/-- One turn of the loop: the line gets its reply, a request is logged, and the process exits
when the line stops it. -/
theorem handle_cases (mock : Mock) (s : State) (line : String) :
    ∃ reply, mock.Reply line reply ∧
      mock.handle s line = (⟨s.log ++ mock.recorded line, s.exited || mock.stops line⟩,
        reply.toList.map mock.encode) := by
  cases hreq : mock.requestOf line with
  | some req =>
      rw [handle_request hreq]
      cases hnotification : req.isNotification with
      | true => exact ⟨none, .notification req hreq hnotification, rfl⟩
      | false =>
          exact ⟨_, .request req hreq hnotification _ (respond_isResponse mock req), rfl⟩
  | none =>
      -- The line is blank, or it does not parse.
      have hkeep : s = ⟨s.log ++ mock.recorded line, s.exited || mock.stops line⟩ := by
        simp [recorded, stops, hreq]
      rw [← hkeep]
      unfold handle
      cases hblank : (trim (chomp line)).isEmpty with
      | true =>
          refine ⟨none, .blank hblank, ?_⟩
          simp only [hblank, if_true]
          rfl
      | false =>
          cases hparse : mock.parse (chomp line) with
          | error e =>
              refine ⟨_, .garbage e hparse hblank _ (parseFailure_isResponse e) ?_, ?_⟩
              · simp [parseFailure, obj, lookup, Json.asI64_ofI64]
              · simp only [hblank, hparse, Bool.false_eq_true, if_false]
                rfl
          | ok req => simp [requestOf, hblank, hparse, Except.toOption] at hreq

/-! ### All lines -/

@[simp] theorem machine_halted (mock : Mock) (s : State) : mock.machine.halted s = s.exited := rfl

@[simp] theorem machine_handle (mock : Mock) : mock.machine.handle = mock.handle := by
  simp only [machine]

/-- A mock that has not exited handles its line. -/
theorem react_of_running (hs : s.exited = false) (line : String) :
    mock.machine.react s line = mock.handle s line := by
  have hhalted : mock.machine.halted s = false := by
    rw [machine_halted]
    exact hs
  rw [Machine.react_of_not hhalted, machine_handle]

/-- From any state, the mock gives each line that it hears its reply. -/
theorem feed_replies (mock : Mock) (s : State) (hs : s.exited = false) (lines : List String) :
    ∃ replies, List.Forall₂ mock.Reply (mock.heard lines) replies ∧
      mock.machine.feed s lines
        = (⟨s.log ++ (mock.heard lines).flatMap mock.recorded, lines.any mock.stops⟩,
            (replies.filterMap id).map mock.encode) := by
  induction lines generalizing s with
  | nil =>
      refine ⟨[], .nil, ?_⟩
      show (s, []) = (⟨s.log ++ [], false⟩, [])
      rw [List.append_nil, ← hs]
  | cons line lines ih =>
      obtain ⟨reply, hreply, hhandle⟩ := handle_cases mock s line
      rw [hs, Bool.false_or] at hhandle
      have hreact : mock.machine.react s line = mock.handle s line := react_of_running hs line
      rw [hhandle] at hreact
      -- The replies to the rest follow the reply to this line.
      have hreplies : ∀ replies : List (Option Json),
          (reply :: replies).filterMap id = reply.toList ++ replies.filterMap id := by
        intro replies
        cases reply <;> rfl
      rw [Machine.feed_cons, hreact]
      cases hstops : mock.stops line with
      | true =>
          -- The process has exited, so the other lines have no effect.
          have hheard : mock.heard (line :: lines) = [line] := if_pos hstops
          have hhalted : mock.machine.halted ⟨s.log ++ mock.recorded line, true⟩ = true := by
            rw [machine_halted]
          refine ⟨[reply], hheard ▸ .cons hreply .nil, ?_⟩
          rw [Machine.feed_of_halted hhalted, hheard, hreplies, List.any_cons, hstops,
            List.filterMap_nil, List.flatMap_singleton, Bool.true_or, List.append_nil,
            List.append_nil]
      | false =>
          have hheard : mock.heard (line :: lines) = line :: mock.heard lines :=
            if_neg (by rw [hstops]; exact Bool.false_ne_true)
          obtain ⟨replies, hforall, hfeed⟩ := ih ⟨s.log ++ mock.recorded line, false⟩ rfl
          refine ⟨reply :: replies, hheard ▸ .cons hreply hforall, ?_⟩
          rw [hfeed, hheard, hreplies, List.any_cons, hstops, List.flatMap_cons, Bool.false_or,
            List.map_append, List.append_assoc]

/-- Over a whole input of lines in UTF-8, the mock gives each line that it hears its reply, in the
order of the lines, and writes nothing else. Its log holds the requests among the lines, and it
has exited when a line stopped it. A line that is not UTF-8 ends the loop of the mock, and no
such line is in the input. -/
theorem mock_answers_each (mock : Mock) (lines : List String) :
    ∃ replies, List.Forall₂ mock.Reply (mock.heard lines) replies ∧
      mock.machine.feed .fresh lines
        = (⟨(mock.heard lines).flatMap mock.recorded, lines.any mock.stops⟩,
            (replies.filterMap id).map mock.encode) :=
  feed_replies mock .fresh rfl lines

/-! ### The client's side -/

/-- A serialized error reads back as the tool error that it is. -/
theorem toolErrorOf_toValue (e : RpcError) :
    Mcp.toolErrorOf e.toValue = .toolError e.code e.message (e.data.getD .null) := by
  have hget : ∀ key, e.toValue.get? key = (lookup key [("code", some (.ofI64 e.code)),
      ("message", some (.string e.message)), ("data", e.data)]).join :=
    SortedMap.get?_ofFields (by simp)
  unfold Mcp.toolErrorOf
  rw [hget, hget, hget]
  simp [lookup, Json.asI64_ofI64]

/-- The checks of a client on a response under its own id. -/
theorem checkResponse_toValue (env : Env) {id : UInt64} {r : Response} (hid : r.id = .ofU64 id) :
    Mcp.checkResponse env id r.toValue = r.outcome := by
  have haddr : ¬ Mcp.Misaddressed id r.toValue := by
    refine Mcp.not_misaddressed_of_id ?_
    rw [toValue_get?, hid]
    rfl
  have herror : r.toValue.get? "error" = r.error.map RpcError.toValue := by
    rw [toValue_get?]
    simp [lookup]
  have hresult : r.toValue.get? "result" = r.result := by
    rw [toValue_get?]
    simp [lookup]
  rw [Mcp.checkResponse_addressed env haddr, herror, hresult]
  unfold Response.outcome
  cases r.error with
  | some e => exact congrArg Except.error (toolErrorOf_toValue e)
  | none => cases r.result <;> rfl

/-- A response has the id of its request. -/
theorem respond_id (mock : Mock) (req : Request) : (mock.respond req).id = req.id.getD .null := by
  unfold respond
  simp only
  split
  · rfl
  · rfl
  · unfold handleToolsCall
    simp only
    split
    · rfl
    · split <;> rfl
  · rfl

/-- The handshake accepts the mock's reply to `initialize`. -/
theorem initialize_accepted :
    Mcp.AcceptsInitialize (handleInitialize (.ofU64 1)).toValue where
  addressed := by
    refine Mcp.not_misaddressed_of_id ?_
    rw [toValue_get?]
    rfl
  noError := by
    rw [toValue_get?]
    rfl
  hasTools := by
    rw [toValue_get?]
    refine ⟨_, rfl, obj [("tools", Mcp.emptyObject)], Mcp.emptyObject, ?_, ?_⟩
    · simp [obj]
    · simp [obj]

end OrgCli.Mock
