import OrgCli.Mcp.Dialogue
import OrgCli.Support.EState

/-!
# `OrgCli.Proofs.Client`: what one request and one connect can do

`request_run` lists everything `Client.request` can do: the write fails, or no message
comes back, or one message comes back and `checkResponse` decides. `connect_run` does the
same for `Client.connectWithTimeout`. `RequestRun` and `ConnectRun` are the two lists, each
with the events of the run and its result. Later proofs take cases on them and never open
the client code again.

The lists leave the server's choice free: they name the outcome of a write or a read, not
the function that produced it. So every fact derived from them holds for every server.
-/

set_option autoImplicit false

namespace OrgCli.Mcp

open OrgCli.Support

variable (env : Env)

/-! ### Messages in a trace -/

/-- The message that a `recv` event delivers, if it delivers one. -/
def replyOf : Event → Option Json
  | .recv (.ok (.ok line)) =>
      if line.isEmpty then none else (env.serde.fromStr (trim line)).toOption
  | _ => none

/-- The message that an event writes to the server. -/
def writtenBy : Event → Option Json
  | .write msg _ => some msg
  | _ => none

/-- The messages the run consumed, in order. -/
def consumed (es : List Event) : List Json := es.filterMap (replyOf env)

/-- The messages the run wrote, in order. -/
def written (es : List Event) : List Json := es.filterMap writtenBy

/-- The attempts to spawn the server in a run, each with its argv. -/
def spawns (es : List Event) : List (List String × SpawnOutcome) :=
  es.filterMap fun e => match e with
    | .spawn argv o => some (argv, o)
    | _ => none

@[simp] theorem spawns_append (es fs : List Event) :
    spawns (es ++ fs) = spawns es ++ spawns fs := List.filterMap_append

@[simp] theorem written_append (es fs : List Event) :
    written (es ++ fs) = written es ++ written fs := List.filterMap_append

@[simp] theorem written_nil : written [] = [] := rfl

@[simp] theorem written_spawn (argv : List String) (o : SpawnOutcome) (es : List Event) :
    written (.spawn argv o :: es) = written es := rfl

@[simp] theorem written_write (msg : Json) (o : WriteOutcome) (es : List Event) :
    written (.write msg o :: es) = msg :: written es := rfl

@[simp] theorem written_recv (o : Except RecvTimeoutError Item) (es : List Event) :
    written (.recv o :: es) = written es := rfl

@[simp] theorem consumed_append (es fs : List Event) :
    consumed env (es ++ fs) = consumed env es ++ consumed env fs := List.filterMap_append

@[simp] theorem consumed_nil : consumed env [] = [] := rfl

@[simp] theorem consumed_spawn (argv : List String) (o : SpawnOutcome) (es : List Event) :
    consumed env (.spawn argv o :: es) = consumed env es := rfl

@[simp] theorem consumed_write (msg : Json) (o : WriteOutcome) (es : List Event) :
    consumed env (.write msg o :: es) = consumed env es := rfl

/-- A read consumes the message that it delivers. -/
@[simp] theorem consumed_recv (o : Except RecvTimeoutError Item) (es : List Event) :
    consumed env (.recv o :: es) = (replyOf env (.recv o)).toList ++ consumed env es := by
  unfold consumed
  rw [List.filterMap_cons]
  cases replyOf env (.recv o) <;> rfl

/-- A read delivers a message exactly when the channel gave a line that parses. -/
theorem finishRecv_eq_ok_iff (t : Option Duration) (o : Except RecvTimeoutError Item)
    (m : Json) : finishRecv env t o = .ok m ↔ replyOf env (.recv o) = some m := by
  match o with
  | .error .timeout => cases t <;> simp [finishRecv, receivedItem, replyOf]
  | .error .disconnected => cases t <;> simp [finishRecv, receivedItem, replyOf]
  | .ok (.error e) => simp [finishRecv, receivedItem, parseItem, replyOf]
  | .ok (.ok line) =>
      -- An empty line is an end of the file, and any other line is parsed.
      simp only [finishRecv, receivedItem, parseItem, replyOf]
      split
      · simp
      · cases env.serde.fromStr (trim line) <;> simp [Except.toOption]

/-- A read that fails is a transport error. -/
theorem finishRecv_error {t : Option Duration} {o : Except RecvTimeoutError Item}
    {e : McpError} (h : finishRecv env t o = .error e) : ∃ msg, e = .transport msg := by
  match o with
  | .error .timeout =>
      cases t <;> simp [finishRecv, receivedItem, timeoutError, eofError] at h <;> exact ⟨_, h.symm⟩
  | .error .disconnected =>
      cases t <;> simp [finishRecv, receivedItem, eofError] at h <;> exact ⟨_, h.symm⟩
  | .ok (.error e) => simp [finishRecv, receivedItem, parseItem] at h; exact ⟨_, h.symm⟩
  | .ok (.ok line) =>
      simp only [finishRecv, receivedItem, parseItem] at h
      split at h
      · exact ⟨_, (Except.error.inj h).symm⟩
      · cases hp : env.serde.fromStr (trim line) with
        | ok v => simp [hp] at h
        | error e' =>
            simp only [hp] at h
            exact ⟨_, (Except.error.inj h).symm⟩

/-! ### One request -/

/-- The events of a request and its result: the write failed, no message came back, or one
message came back. -/
inductive RequestRun (id : UInt64) (msg : Json) : List Event → Except McpError Json → Prop
  | unsent (o : WriteOutcome) (e : String) (ho : o ≠ .ok) :
      RequestRun id msg [.write msg o] (.error (.transport e))
  | unanswered (o : Except RecvTimeoutError Item) (e : String)
      (ho : replyOf env (.recv o) = none) :
      RequestRun id msg [.write msg .ok, .recv o] (.error (.transport e))
  | answered (o : Except RecvTimeoutError Item) (m : Json)
      (ho : replyOf env (.recv o) = some m) :
      RequestRun id msg [.write msg .ok, .recv o] (checkResponse env id m)

/-- The client after it took an id. -/
def Client.next (c : Client) : Client := { c with nextId := c.nextId + 1 }

/-- The result of a method run that ends with `r` in the state `s`. -/
def finishedWith {α : Type} (r : Except McpError α) (s : Client × World) :
    EStateM.Result McpError (Client × World) α :=
  match r with
  | .ok a => .ok a s
  | .error e => .error e s

/-- `recv` logs what the channel gave, and ends with what `finishRecv` makes of it. -/
theorem recv_eq (c : Client) (w : World) :
    recv env (c, w)
      = finishedWith (finishRecv env c.transport.timeout
          (channelOutcome env c.transport.timeout w.trace))
        (c, w.extend [.recv (channelOutcome env c.transport.timeout w.trace)]) := by
  unfold recv
  simp only [bind_get, bind_set]
  cases finishRecv env c.transport.timeout (channelOutcome env c.transport.timeout w.trace) <;> rfl

/-- `send` logs what became of the write, and ends with what `sendResult` makes of it. -/
theorem send_eq (msg : Json) (c : Client) (w : World) :
    send env msg (c, w) = finishedWith (sendResult (env.server.write w.trace msg))
      (c, w.extend [.write msg (env.server.write w.trace msg)]) := by
  unfold send
  simp only [bind_get, bind_set]
  cases env.server.write w.trace msg <;> rfl

/-- `send` logs one write. It fails with a transport error unless the write succeeds. -/
theorem send_run (msg : Json) (c : Client) (w : World) :
    ∃ o, (o = .ok ∧ send env msg (c, w) = .ok () (c, w.extend [.write msg o])) ∨
      (o ≠ .ok ∧ ∃ e : String,
        send env msg (c, w) = .error (.transport e) (c, w.extend [.write msg o])) := by
  refine ⟨env.server.write w.trace msg, ?_⟩
  rw [send_eq]
  cases env.server.write w.trace msg with
  | ok => exact Or.inl ⟨rfl, rfl⟩
  | writeError e => exact Or.inr ⟨by simp, _, rfl⟩
  | flushError e => exact Or.inr ⟨by simp, _, rfl⟩

/-- `recv` logs one read. It returns the message the read delivers, or fails with a
transport error. -/
theorem recv_run (c : Client) (w : World) :
    ∃ o, (∃ m, replyOf env (.recv o) = some m ∧
        recv env (c, w) = .ok m (c, w.extend [.recv o])) ∨
      (replyOf env (.recv o) = none ∧ ∃ e : String,
        recv env (c, w) = .error (.transport e) (c, w.extend [.recv o])) := by
  refine ⟨channelOutcome env c.transport.timeout w.trace, ?_⟩
  rw [recv_eq]
  cases h : finishRecv env c.transport.timeout
      (channelOutcome env c.transport.timeout w.trace) with
  | ok m => exact Or.inl ⟨m, (finishRecv_eq_ok_iff env _ _ _).mp h, rfl⟩
  | error e =>
      obtain ⟨msg, rfl⟩ := finishRecv_error env h
      refine Or.inr ⟨?_, msg, rfl⟩
      -- A message that was delivered would have been returned.
      rw [Option.eq_none_iff_forall_ne_some]
      intro m hm
      rw [← finishRecv_eq_ok_iff env c.transport.timeout, h] at hm
      cases hm

/-- A step that only looks at the result of a method keeps the method's state. -/
theorem bind_finishedWith {α β : Type} {x : Client.M α} {f : α → Client.M β}
    {s s' : Client × World} {r : Except McpError α} {g : α → Except McpError β}
    (hx : x s = finishedWith r s') (hf : ∀ a, f a s' = finishedWith (g a) s') :
    (x >>= f) s = finishedWith (r.bind g) s' := by
  cases r with
  | ok a =>
      rw [bind_of_ok hx]
      exact hf a
  | error e =>
      rw [bind_of_error hx]
      rfl

/-- A function of the result keeps the state too. -/
theorem map_finishedWith {α β : Type} {x : Client.M α} {s s' : Client × World}
    {r : Except McpError α} (f : α → β) (hx : x s = finishedWith r s') :
    (x >>= fun a => pure (f a)) s = finishedWith (r.map f) s' := by
  cases r with
  | ok a =>
      rw [bind_of_ok hx]
      rfl
  | error e =>
      rw [bind_of_error hx]
      rfl

/-- A method run in the program returns its result and leaves its state. -/
theorem Client.run_of_finishedWith {α : Type} {x : Client.M α} {c c' : Client} {w w' : World}
    {r : Except McpError α} (h : x (c, w) = finishedWith r (c', w')) :
    c.run x w = ((r, c'), w') := by
  unfold Client.run
  rw [h]
  cases r <;> rfl

/-- A request runs as `RequestRun` lists, and it takes one id. -/
theorem request_run (method : String) (params : Json) (c : Client) (w : World) :
    ∃ es r, RequestRun env c.nextId (requestMsg c.nextId method params) es r ∧
      Client.request env method params (c, w) = finishedWith r (c.next, w.extend es) := by
  have hid : Client.takeId (c, w) = .ok c.nextId (c.next, w) := rfl
  unfold Client.request
  rw [bind_of_ok hid]
  rcases send_run env (requestMsg c.nextId method params) c.next w
      with ⟨o, ⟨rfl, hsend⟩ | ⟨ho, e, hsend⟩⟩
  · rw [bind_of_ok hsend]
    rcases recv_run env c.next (w.extend [.write (requestMsg c.nextId method params) .ok])
        with ⟨o', ⟨m, hm, hrecv⟩ | ⟨hm, e, hrecv⟩⟩
    · -- One message came back, and the checks on it give the result.
      rw [bind_of_ok hrecv, World.extend_extend]
      refine ⟨_, _, .answered o' m hm, ?_⟩
      cases checkResponse env c.nextId m <;> rfl
    · rw [bind_of_error hrecv, World.extend_extend]
      exact ⟨_, _, .unanswered o' e hm, rfl⟩
  · -- The write failed, and nothing is read.
    rw [bind_of_error hsend]
    exact ⟨_, _, .unsent o e ho, rfl⟩

/-- A request writes its message, once. -/
theorem RequestRun.written_eq {id : UInt64} {msg : Json} {es : List Event}
    {r : Except McpError Json} (h : RequestRun env id msg es r) : written es = [msg] := by
  cases h <;> rfl

/-- A request spawns nothing. -/
theorem RequestRun.spawns_eq {id : UInt64} {msg : Json} {es : List Event}
    {r : Except McpError Json} (h : RequestRun env id msg es r) : spawns es = [] := by
  cases h <;> rfl

/-- A request consumes no message and fails with a transport error, or it consumes one, and
the checks on it decide. -/
theorem RequestRun.consumed_cases {id : UInt64} {msg : Json} {es : List Event}
    {r : Except McpError Json} (h : RequestRun env id msg es r) :
    (consumed env es = [] ∧ ∃ e, r = .error (.transport e)) ∨
      ∃ m, consumed env es = [m] ∧ r = checkResponse env id m := by
  cases h with
  | unsent o e ho => exact Or.inl ⟨rfl, e, rfl⟩
  | unanswered o e ho => exact Or.inl ⟨by simp [ho], e, rfl⟩
  | answered o m ho => exact Or.inr ⟨m, by simp [ho], rfl⟩

/-- A request that consumed a message has the result of the checks on it. -/
theorem RequestRun.eq_checkResponse {id : UInt64} {msg : Json} {es : List Event}
    {r : Except McpError Json} {m : Json} (h : RequestRun env id msg es r)
    (hm : (consumed env es)[0]? = some m) : r = checkResponse env id m := by
  rcases h.consumed_cases with ⟨hnil, _⟩ | ⟨m', hone, hr⟩
  · rw [hnil] at hm
    cases hm
  · rw [hone] at hm
    obtain rfl := Option.some.inj hm
    exact hr

/-- A request that returns a result read a message, and the message passed the checks. -/
theorem RequestRun.ok_inv {id : UInt64} {msg : Json} {es : List Event}
    {r : Except McpError Json} {v : Json} (h : RequestRun env id msg es r) (hr : r = .ok v) :
    ∃ o m, es = [.write msg .ok, .recv o] ∧ replyOf env (.recv o) = some m ∧
      checkResponse env id m = .ok v := by
  cases h with
  | unsent o e ho => cases hr
  | unanswered o e ho => cases hr
  | answered o m ho => exact ⟨o, m, rfl, ho, hr⟩

/-! ### The checks on a reply -/

/-- A reply that names another request. -/
def Misaddressed (id : UInt64) (m : Json) : Prop :=
  ∃ i, m.get? "id" = some i ∧ i ≠ .ofU64 id

/-- A reply under the request's own id is not misaddressed. -/
theorem not_misaddressed_of_id {id : UInt64} {m : Json} (h : m.get? "id" = some (.ofU64 id)) :
    ¬ Misaddressed id m := by
  intro ⟨i, hi, hne⟩
  rw [h] at hi
  exact hne (Option.some.inj hi).symm

/-- The tool error of an `error` member. -/
def toolErrorOf (err : Json) : McpError :=
  .toolError (((err.get? "code").bind Json.asI64).getD (-1))
    (((err.get? "message").bind Json.asStr).getD "unknown error")
    ((err.get? "data").getD .null)

/-- A reply that names another request is a protocol error. -/
theorem checkResponse_misaddressed {id : UInt64} {m : Json} (h : Misaddressed id m) :
    ∃ msg, checkResponse env id m = .error (.protocol msg) := by
  obtain ⟨i, hi, hne⟩ := h
  unfold checkResponse
  rw [hi]
  simp only [ne_eq, hne, not_false_eq_true, if_true]
  exact ⟨_, rfl⟩

/-- On any other reply the `error` member decides, and then the `result` member. -/
theorem checkResponse_addressed {id : UInt64} {m : Json} (h : ¬ Misaddressed id m) :
    checkResponse env id m
      = match m.get? "error", m.get? "result" with
        | some err, _ => .error (toolErrorOf err)
        | none, some result => .ok result
        | none, none => .error (.protocol "response missing 'result' field") := by
  unfold checkResponse
  cases hi : m.get? "id" with
  | none =>
      cases m.get? "error" <;> cases m.get? "result" <;> rfl
  | some i =>
      -- The id is there, and it is not another one.
      have heq : i = .ofU64 id := by
        by_contra hne
        exact h ⟨i, hi, hne⟩
      subst heq
      simp only [ne_eq, not_true_eq_false, if_false]
      cases m.get? "error" <;> cases m.get? "result" <;> rfl

/-- A reply gives a result exactly when it names no other request, has no `error` member
and has that `result` member. -/
theorem checkResponse_eq_ok_iff {id : UInt64} {m v : Json} :
    checkResponse env id m = .ok v ↔
      ¬ Misaddressed id m ∧ m.get? "error" = none ∧ m.get? "result" = some v := by
  by_cases h : Misaddressed id m
  · obtain ⟨msg, hmsg⟩ := checkResponse_misaddressed env h
    simp [hmsg, h]
  · rw [checkResponse_addressed env h]
    cases m.get? "error" <;> cases m.get? "result" <;> simp [h]

/-- A reply gives a tool error exactly when it names no other request and has an `error`
member, and the tool error is the one of that member. -/
theorem checkResponse_eq_toolError_iff {id : UInt64} {m : Json} {code : Int64}
    {message : String} {data : Json} :
    checkResponse env id m = .error (.toolError code message data) ↔
      ¬ Misaddressed id m ∧
        ∃ err, m.get? "error" = some err ∧ toolErrorOf err = .toolError code message data := by
  by_cases h : Misaddressed id m
  · obtain ⟨msg, hmsg⟩ := checkResponse_misaddressed env h
    simp [hmsg, h]
  · rw [checkResponse_addressed env h]
    cases m.get? "error" <;> cases m.get? "result" <;> simp [h]

/-- A request never fails with a spawn error. -/
theorem RequestRun.ne_spawn {id : UInt64} {msg : Json} {es : List Event}
    {r : Except McpError Json} (h : RequestRun env id msg es r) (e : String) :
    r ≠ .error (.spawn e) := by
  cases h with
  | unsent o e' ho => simp
  | unanswered o e' ho => simp
  | answered o m ho =>
      by_cases hm : Misaddressed id m
      · obtain ⟨msg, hmsg⟩ := checkResponse_misaddressed env hm
        simp [hmsg]
      · rw [checkResponse_addressed env hm]
        cases m.get? "error" <;> cases m.get? "result" <;> simp [toolErrorOf]

/-! ### The handshake -/

/-- The first message of a run. -/
def initializeRequest : Json := requestMsg 1 "initialize" initializeParams

/-- The second message of a run. -/
def initializedNotification : Json :=
  notificationMsg "notifications/initialized" emptyObject

/-- The result of `initialize` advertises the tools capability. -/
def HasTools (result : Json) : Prop :=
  ∃ caps tools, result.get? "capabilities" = some caps ∧ caps.get? "tools" = some tools

/-- A reply to `initialize` that the handshake accepts. -/
structure AcceptsInitialize (m : Json) : Prop where
  addressed : ¬ Misaddressed 1 m
  noError : m.get? "error" = none
  hasTools : ∃ result, m.get? "result" = some result ∧ HasTools result

/-- The test of `Client::handshake` fails exactly when the tools capability is there. -/
theorem missingTools_iff (result : Json) :
    ((result.get? "capabilities").map fun c => (c.get? "tools").isNone).getD true = true
      ↔ ¬ HasTools result := by
  unfold HasTools
  cases result.get? "capabilities" with
  | none => simp
  | some caps => cases h : caps.get? "tools" <;> simp [h]

/-- The handshake accepts a reply exactly when the checks pass and the tools are there. -/
theorem acceptsInitialize_iff (m : Json) :
    AcceptsInitialize m ↔ ∃ v, checkResponse env 1 m = .ok v ∧ HasTools v := by
  constructor
  · rintro ⟨haddr, herr, v, hv, ht⟩
    exact ⟨v, (checkResponse_eq_ok_iff env).mpr ⟨haddr, herr, hv⟩, ht⟩
  · rintro ⟨v, hcheck, ht⟩
    obtain ⟨haddr, herr, hv⟩ := (checkResponse_eq_ok_iff env).mp hcheck
    exact ⟨haddr, herr, v, hv, ht⟩

/-- The events of a connect and its result. -/
inductive ConnectRun (argv : List String) : List Event → Except McpError Client → Prop
  | spawnFailed (o : SpawnOutcome) (e : String) (ho : o ≠ .spawned) :
      ConnectRun argv [.spawn argv o] (.error (.spawn e))
  | initFailed (es : List Event) (e : McpError)
      (h : RequestRun env 1 initializeRequest es (.error e)) :
      ConnectRun argv (.spawn argv .spawned :: es) (.error e)
  | noTools (es : List Event) (v : Json) (h : RequestRun env 1 initializeRequest es (.ok v))
      (ht : ¬ HasTools v) :
      ConnectRun argv (.spawn argv .spawned :: es)
        (.error (.protocol "server does not advertise tools capability"))
  | notifyFailed (es : List Event) (v : Json)
      (h : RequestRun env 1 initializeRequest es (.ok v)) (ht : HasTools v)
      (o : WriteOutcome) (ho : o ≠ .ok) (e : String) :
      ConnectRun argv (.spawn argv .spawned :: (es ++ [.write initializedNotification o]))
        (.error (.transport e))
  | connected (es : List Event) (v : Json)
      (h : RequestRun env 1 initializeRequest es (.ok v)) (ht : HasTools v) (c : Client)
      (hc : c.nextId = 2) :
      ConnectRun argv (.spawn argv .spawned :: (es ++ [.write initializedNotification .ok]))
        (.ok c)

/-- A connect that succeeds: it spawned the server, wrote the request, read a reply that
the handshake accepts, and wrote the notification. -/
theorem ConnectRun.ok_inv {argv : List String} {es : List Event} {c : Client}
    (h : ConnectRun env argv es (.ok c)) :
    c.nextId = 2 ∧ ∃ o m, replyOf env (.recv o) = some m ∧ AcceptsInitialize m ∧
      es = [.spawn argv .spawned, .write initializeRequest .ok, .recv o,
        .write initializedNotification .ok] := by
  cases h with
  | connected es v hreq ht c hc =>
      obtain ⟨o, m, rfl, hm, hcheck⟩ := hreq.ok_inv env rfl
      have haccept : AcceptsInitialize m := (acceptsInitialize_iff env m).mpr ⟨v, hcheck, ht⟩
      exact ⟨hc, o, m, hm, haccept, rfl⟩

/-- A connect that succeeds has consumed the reply to `initialize`, and the handshake
accepts it. -/
theorem ConnectRun.consumed_ok {argv : List String} {es : List Event} {c : Client}
    (h : ConnectRun env argv es (.ok c)) :
    ∃ m, consumed env es = [m] ∧ AcceptsInitialize m := by
  obtain ⟨_, o, m, hm, haccept, rfl⟩ := h.ok_inv env
  exact ⟨m, by simp [hm], haccept⟩

/-- A connect whose reply fails the checks fails with their error. -/
theorem ConnectRun.error_of_reply {argv : List String} {es : List Event}
    {r : Except McpError Client} {m : Json} {e : McpError} (h : ConnectRun env argv es r)
    (hm : (consumed env es)[0]? = some m) (hcheck : checkResponse env 1 m = .error e) :
    r = .error e := by
  cases h with
  | spawnFailed o e' ho => cases hm
  | initFailed fs e' hreq =>
      have heq : Except.error e' = checkResponse env 1 m := hreq.eq_checkResponse env hm
      rw [hcheck] at heq
      obtain rfl := Except.error.inj heq
      rfl
  -- In the other cases the request returned a result.
  | noTools fs v hreq ht =>
      have heq := hreq.eq_checkResponse env hm
      rw [hcheck] at heq
      cases heq
  | notifyFailed fs v hreq ht o ho e' =>
      have heq := hreq.eq_checkResponse env (m := m) (by simpa using hm)
      rw [hcheck] at heq
      cases heq
  | connected fs v hreq ht c hc =>
      have heq := hreq.eq_checkResponse env (m := m) (by simpa using hm)
      rw [hcheck] at heq
      cases heq

/-- A connect consumes at most one message. -/
theorem ConnectRun.consumed_length {argv : List String} {es : List Event}
    {r : Except McpError Client} (h : ConnectRun env argv es r) :
    (consumed env es).length ≤ 1 := by
  have hreq : ∀ es r, RequestRun env 1 initializeRequest es r →
      (consumed env es).length ≤ 1 := by
    intro es r h
    rcases h.consumed_cases with ⟨he, _⟩ | ⟨m, he, _⟩ <;> simp [he]
  cases h with
  | spawnFailed o e ho => exact Nat.zero_le 1
  | initFailed es e h => exact hreq es _ h
  | noTools es v h ht => exact hreq es _ h
  | notifyFailed es v h ht o ho e => simpa using hreq es _ h
  | connected es v h ht c hc => simpa using hreq es _ h

/-- A connect attempts one spawn, and it fails with a spawn error exactly when the spawn
does. -/
theorem ConnectRun.spawns_eq {argv : List String} {es : List Event}
    {r : Except McpError Client} (h : ConnectRun env argv es r) :
    ∃ o, spawns es = [(argv, o)] ∧ (o ≠ .spawned ↔ ∃ e, r = .error (.spawn e)) := by
  cases h with
  | spawnFailed o e ho => exact ⟨o, rfl, by simp [ho]⟩
  | initFailed es e hreq =>
      -- A request spawns nothing and does not fail with a spawn error.
      refine ⟨.spawned, congrArg (_ :: ·) hreq.spawns_eq, ?_⟩
      have hne := hreq.ne_spawn
      simpa using hne
  | noTools es v hreq ht => exact ⟨.spawned, congrArg (_ :: ·) hreq.spawns_eq, by simp⟩
  | notifyFailed es v hreq ht o ho e =>
      refine ⟨.spawned, ?_, by simp⟩
      show _ :: spawns (es ++ [.write initializedNotification o]) = _
      rw [spawns_append, hreq.spawns_eq]
      rfl
  | connected es v hreq ht c hc =>
      refine ⟨.spawned, ?_, by simp⟩
      show _ :: spawns (es ++ [.write initializedNotification .ok]) = _
      rw [spawns_append, hreq.spawns_eq]
      rfl

/-- A connect writes the messages of the handshake, in order. -/
theorem ConnectRun.written_prefix {argv : List String} {es : List Event}
    {r : Except McpError Client} (h : ConnectRun env argv es r) :
    written es <+: [initializeRequest, initializedNotification] := by
  cases h with
  | spawnFailed o e ho => exact List.nil_prefix
  | initFailed es e hreq =>
      show written es <+: _
      rw [hreq.written_eq]
      exact ⟨[_], rfl⟩
  | noTools es v hreq ht =>
      show written es <+: _
      rw [hreq.written_eq]
      exact ⟨[_], rfl⟩
  | notifyFailed es v hreq ht o ho e =>
      show written (es ++ [.write initializedNotification o]) <+: _
      rw [written_append, hreq.written_eq]
      exact List.prefix_rfl
  | connected es v hreq ht c hc =>
      show written (es ++ [.write initializedNotification .ok]) <+: _
      rw [written_append, hreq.written_eq]
      exact List.prefix_rfl

/-- The handshake of a new client: its request, the capability test, its notification. -/
theorem handshake_run (argv : List String) (c : Client) (hc : c.nextId = 1) (w : World) :
    ∃ es r, Client.handshake env (c, w) = finishedWith r (c.next, w.extend es) ∧
      ConnectRun env argv (.spawn argv .spawned :: es) (r.map fun _ => c.next) := by
  obtain ⟨es, r, hreq, hrun⟩ := request_run env "initialize" initializeParams c w
  rw [hc] at hreq
  unfold Client.handshake
  cases r with
  | error e =>
      rw [bind_of_error hrun]
      exact ⟨es, .error e, rfl, .initFailed es e hreq⟩
  | ok v =>
      rw [bind_of_ok hrun]
      by_cases ht : HasTools v
      · -- The capability test passes, so the notification is sent.
        have htest := mt (missingTools_iff v).mp (not_not_intro ht)
        rcases send_run env initializedNotification c.next (w.extend es)
            with ⟨o, ⟨rfl, hsend⟩ | ⟨ho, e, hsend⟩⟩
        · rw [World.extend_extend] at hsend
          refine ⟨_, .ok (), ?_, .connected es v hreq ht c.next ?_⟩
          · simp only [htest, Bool.false_eq_true, if_false]
            exact hsend
          · show c.nextId + 1 = 2
            rw [hc]
            rfl
        · rw [World.extend_extend] at hsend
          refine ⟨_, .error (.transport e), ?_, .notifyFailed es v hreq ht o ho e⟩
          simp only [htest, Bool.false_eq_true, if_false]
          exact hsend
      · -- The capability test fails before anything else is sent.
        have htest := (missingTools_iff v).mpr ht
        refine ⟨es, .error _, ?_, .noTools es v hreq ht⟩
        simp only [htest, if_true]
        rfl

/-- `spawn` logs one spawn. It fails with a spawn error unless the child and its two pipes
are there. -/
theorem spawn_run (program : String) (args : List String) (w : World) :
    ∃ o, (o = .spawned ∧ Transport.spawn env (program :: args) w
        = (.ok { timeout := none }, w.extend [.spawn (program :: args) o])) ∨
      (o ≠ .spawned ∧ ∃ e : String, Transport.spawn env (program :: args) w
        = (.error (.spawn e), w.extend [.spawn (program :: args) o])) := by
  -- The spawn is one event, and its outcome decides what is returned.
  refine ⟨env.server.spawn w.trace (program :: args), ?_⟩
  unfold Transport.spawn
  simp only [Proc.bind_apply, Proc.get_apply, Proc.set_apply]
  cases env.server.spawn w.trace (program :: args) with
  | spawned => exact Or.inl ⟨rfl, rfl⟩
  | failed e => exact Or.inr ⟨by simp, _, rfl⟩
  | stdinUnavailable => exact Or.inr ⟨by simp, _, rfl⟩
  | stdoutUnavailable => exact Or.inr ⟨by simp, _, rfl⟩

/-- A connect runs as `ConnectRun` lists, for every argv with a program. -/
theorem connect_run (program : String) (args : List String) (timeout : Option Duration)
    (w : World) :
    ∃ es r, ConnectRun env (program :: args) es r ∧
      Client.connectWithTimeout env (program :: args) timeout w = (r, w.extend es) := by
  unfold Client.connectWithTimeout
  rw [Proc.bind_apply]
  rcases spawn_run env program args w with ⟨o, ⟨rfl, hspawn⟩ | ⟨ho, e, hspawn⟩⟩
  · rw [hspawn]
    -- The timeout is set before the handshake, so its `recv` has it already.
    let client : Client :=
      { transport := { timeout := normalizeTimeout timeout }, nextId := 1 }
    obtain ⟨es, r, hrun, hconn⟩ := handshake_run env (program :: args) client rfl
      (w.extend [.spawn (program :: args) .spawned])
    have hrun' := Client.run_of_finishedWith hrun
    refine ⟨_, _, hconn, ?_⟩
    show (client.run (Client.handshake env) >>= _)
      (w.extend [.spawn (program :: args) .spawned]) = _
    rw [Proc.bind_apply, hrun', World.extend_extend]
    cases r <;> rfl
  · rw [hspawn]
    exact ⟨_, _, .spawnFailed o e ho, rfl⟩

end OrgCli.Mcp

namespace OrgCli

/-! ### Example servers -/

/-- A reply to `initialize` that the handshake accepts: its text and its value. -/
def initializeEntry : String × Json :=
  ("\x7b\"jsonrpc\":\"2.0\",\"id\":1,"
      ++ "\"result\":\x7b\"capabilities\":\x7b\"tools\":\x7b\x7d\x7d\x7d\x7d",
    .object (.ofList [("jsonrpc", .string "2.0"), ("id", .ofU64 1), ("result", .object (.ofList
      [("capabilities", .object (.ofList [("tools", Mcp.emptyObject)]))]))]))

/-- A server that completes the handshake and answers the request with one message. -/
def Env.answering (entry : String × Json) : Env := Env.replay [initializeEntry, entry]

/-- A reply to the request with empty content. -/
def emptyContentEntry : String × Json :=
  ("\x7b\"jsonrpc\":\"2.0\",\"id\":2,\"result\":\x7b\"content\":[]\x7d\x7d",
    .object (.ofList [("jsonrpc", .string "2.0"), ("id", .ofU64 2),
      ("result", .object (.ofList [("content", .array [])]))]))

/-- A reply that carries no id. -/
def bareEntry : String × Json :=
  ("\x7b\"jsonrpc\":\"2.0\",\"result\":\x7b\"content\":[]\x7d\x7d",
    .object (.ofList [("jsonrpc", .string "2.0"),
      ("result", .object (.ofList [("content", .array [])]))]))

/-- A server whose first reply comes only after the first timeout. -/
def Env.late (entry : String × Json) : Env :=
  let line : Item := .ok (entry.1 ++ "\n")
  { server := { Server.replay [line] with
      recvTimeout es _ := match (reads es).length with
        | 0 => .error .timeout
        | 1 => .ok line
        | _ => .error .disconnected }
    serde := .ofTable [entry] }

end OrgCli
