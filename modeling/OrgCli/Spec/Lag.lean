import OrgCli.Mcp.System
import OrgCli.Spec.Session

/-!
# `OrgCli.Spec.Lag`: a session with a server that answers in order

`Dialogue.calls` makes the requests of several methods on one client. A server is `InOrder`
for them when it answers each request with one message under the request's id.

`Outcomes` is what such a session comes to. The requests before the first timeout get their own
replies. After it the client reads one reply too few, so from then on every message that it
reads is the reply to an earlier request, and the session never recovers.
-/

set_option autoImplicit false

namespace OrgCli.Mcp

open OrgCli.Support

/-- The requests of the methods, one after the other, from the id `id` on. `rs` are the results
so far, and the program ends with all of them. -/
def Dialogue.calls (env : Env) (timeout : Option Duration) :
    UInt64 → List Method → List (Except McpError Json) → Dialogue (List (Except McpError Json))
  | _, [], rs => .done rs
  | id, m :: ms, rs =>
      .request env timeout id m.message.1 m.message.2 fun r =>
        calls env timeout (id + 1) ms (rs ++ [r])

variable {σ : Type} (env : Env) (encode : Json → Line) (M : Machine σ String Line)

/-- From the state `p` on, the server answers each request of the methods with one message, and
the message carries the id of the request. The messages are `vs`. -/
inductive InOrder : σ → UInt64 → List Method → List Json → Prop
  | nil (p : σ) (id : UInt64) (hrunning : M.halted p = false) : InOrder p id [] []
  | cons {p p' : σ} {id : UInt64} {m : Method} {ms : List Method} {reply : Line} {v : Json}
      {vs : List Json} (hrunning : M.halted p = false)
      (hreact : M.react p (encode (requestMsg id m.message.1 m.message.2)).text = (p', [reply]))
      (hparse : parseItem env reply.item = .ok v) (hid : v.get? "id" = some (.ofU64 id))
      (hrest : InOrder p' (id + 1) ms vs) : InOrder p id (m :: ms) (v :: vs)

/-- The results of requests that get their own replies. -/
def ownReplies : UInt64 → List Json → List (Except McpError Json)
  | _, [] => []
  | id, v :: vs => checkResponse env id v :: ownReplies (id + 1) vs

variable (timeout : Option Duration)

/-- The request ran out of time. -/
def TimedOut (r : Except McpError Json) : Prop :=
  ∃ d, timeout = some d ∧ r = .error (timeoutError d)

/-- The request got no reply, or it read the reply to another one. -/
def Missed (r : Except McpError Json) : Prop :=
  TimedOut timeout r ∨ ∃ msg, r = .error (.protocol msg)

/-- What the requests from the id `id` on come to, when `vs` are the replies to them. -/
def Outcomes (id : UInt64) (vs : List Json) (rs : List (Except McpError Json)) : Prop :=
  ∃ k lost, rs = ownReplies env id (vs.take k) ++ lost ∧
    (vs.take k).length + lost.length = vs.length ∧ (∀ r ∈ lost, Missed timeout r) ∧
    ∀ r, lost.head? = some r → TimedOut timeout r

end OrgCli.Mcp
