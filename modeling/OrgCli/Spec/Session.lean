import OrgCli.Proofs.Client

/-!
# `OrgCli.Spec.Session`: a sequence of calls on one client

The command line makes one request for each process. `Client` allows more: its methods can
be called in any order, and a reply that was too late for one request is then what the next
one reads. `session` runs a list of methods on one client and records what each of them did.

`Record.Attributed` says that the message a request consumed is the reply to that request.
`Accepted` is the result that reports a message: a value or a tool error. `WellAttributed`
is what the ids are for: no two requests share one, and a result is reported only from the
reply that carries the id of its request.
-/

set_option autoImplicit false

namespace OrgCli.Mcp

variable (env : Env)

/-- The methods of a connected `Client`. -/
inductive Method where
  | toolsList
  | toolsCall (toolName : String) (arguments : Json)
  | serverHasTool (toolName : String)

/-- The method and the params of the request that a method makes. -/
def Method.message : Method → String × Json
  | .toolsList | .serverHasTool _ => ("tools/list", emptyObject)
  | .toolsCall toolName arguments => ("tools/call", toolsCallParams toolName arguments)

/-- The request that a method makes. -/
def Method.request (m : Method) : Client.M Json := Client.request env m.message.1 m.message.2

/-- A method, without its value. -/
def Method.call : Method → Client.M Unit
  | .toolsList => do let _ ← Client.toolsList env
  | .toolsCall toolName arguments => do let _ ← Client.toolsCall env toolName arguments
  | .serverHasTool toolName => do let _ ← Client.serverHasTool env toolName

/-- What a method left behind: the id of its request, its events, and the results of the
request and of the method. -/
structure Record where
  id : UInt64
  events : List Event
  request : Except McpError Json
  result : Except McpError Unit

/-- Run methods one after the other on one client. -/
def session : List Method → Client → World → List Record
  | [], _, _ => []
  | m :: ms, c, w =>
      let out := c.run (m.call env) w
      { id := c.nextId
        events := out.2.trace.drop w.trace.length
        request := (c.run (m.request env) w).1.1
        result := out.1.1 } :: session ms out.1.2 out.2

/-- A result that reports a message from the server: a value or a tool error. -/
def Accepted {α : Type} : Except McpError α → Prop
  | .ok _ => True
  | .error (.toolError _ _ _) => True
  | .error _ => False

/-- The request consumed one message, and the message carries the id of the request. -/
def Record.Attributed (r : Record) : Prop :=
  ∃ m, consumed env r.events = [m] ∧ m.get? "id" = some (.ofU64 r.id)

instance {α : Type} (r : Except McpError α) : Decidable (Accepted r) :=
  match r with
  | .ok _ => .isTrue trivial
  | .error (.toolError _ _ _) => .isTrue trivial
  | .error (.transport _) | .error (.protocol _) | .error (.spawn _) => .isFalse id

instance (r : Record) : Decidable (r.Attributed env) :=
  decidable_of_iff ((consumed env r.events).map (·.get? "id") = [some (.ofU64 r.id)])
    List.map_eq_singleton_iff

/-- The requests of a session have distinct ids, each is sent with its own id, and none
reports another message than its own reply. -/
structure WellAttributed (rs : List Record) : Prop where
  distinct : (rs.map Record.id).Nodup
  sent : ∀ r ∈ rs, ∃ method params, written r.events = [requestMsg r.id method params]
  attributed : ∀ r ∈ rs, Accepted r.request ∨ Accepted r.result → r.Attributed env

/-- A message without an `id` that still has an `error` or a `result`. -/
def Unaddressed (m : Json) : Prop :=
  m.get? "id" = none ∧ (m.get? "error" ≠ none ∨ m.get? "result" ≠ none)

instance (m : Json) : Decidable (Unaddressed m) := inferInstanceAs (Decidable (_ ∧ _))

end OrgCli.Mcp
