import OrgCli.World

/-!
# `OrgCli.Output`: the JSON envelope

The envelopes of `src/output.rs` and the functions that print them. Every command prints
one of

    {"ok": true, "data": ..}
    {"ok": false, "error": {"kind": .., "code": .., "message": .., "data": ..}, "exit_code": ..}

`Printed.ok`, `Printed.data` and the readers beside them read a printed envelope the way a
script that calls the program does, from the JSON value.
-/

set_option autoImplicit false

namespace OrgCli

open OrgCli.Support (SortedMap)

/-- `output::ErrorKind`. -/
inductive ErrorKind where
  | tool
  | transport
  | usage
  deriving DecidableEq

/-- The serialized name of an `ErrorKind` (`rename_all = "lowercase"`). -/
def ErrorKind.name : ErrorKind → String
  | .tool => "tool"
  | .transport => "transport"
  | .usage => "usage"

/-- `output::SuccessEnvelope`. -/
structure SuccessEnvelope where
  ok : Bool
  data : Json

/-- `output::ErrorDetail`. -/
structure ErrorDetail where
  kind : ErrorKind
  code : Int64
  message : String
  data : Json

/-- `output::ErrorEnvelope`. -/
structure ErrorEnvelope where
  ok : Bool
  error : ErrorDetail
  exitCode : Int32

/-- `serde_json::to_value` of a `SuccessEnvelope`. -/
def SuccessEnvelope.toValue (env : SuccessEnvelope) : Json :=
  .object (SortedMap.ofList [("ok", .bool env.ok), ("data", env.data)])

/-- `serde_json::to_value` of an `ErrorDetail`. -/
def ErrorDetail.toValue (detail : ErrorDetail) : Json :=
  .object (SortedMap.ofList [("kind", .string detail.kind.name), ("code", .ofI64 detail.code),
    ("message", .string detail.message), ("data", detail.data)])

/-- `serde_json::to_value` of an `ErrorEnvelope`. -/
def ErrorEnvelope.toValue (env : ErrorEnvelope) : Json :=
  .object (SortedMap.ofList [("ok", .bool env.ok), ("error", env.error.toValue),
    ("exit_code", .ofI64 env.exitCode.toInt64)])

/-- `output::print_json`. A write to stdout is assumed to succeed. -/
def printJson (v : Json) (compact : Bool) : Proc Unit := modify fun w => w.print ⟨v, compact⟩

/-- `output::print_success`. -/
def printSuccess (data : Json) (compact : Bool) : Proc Unit :=
  printJson (SuccessEnvelope.toValue ⟨true, data⟩) compact

/-- `output::print_error`: print an error envelope and return the exit code. -/
def printError (kind : ErrorKind) (code : Int64) (message : String) (data : Json)
    (exitCode : Int32) (compact : Bool) : Proc Int32 := do
  printJson (ErrorEnvelope.toValue ⟨false, ⟨kind, code, message, data⟩, exitCode⟩) compact
  return exitCode

namespace Printed

/-- The `ok` field. -/
def ok (p : Printed) : Option Bool := (p.value.get? "ok").bind Json.asBool

/-- The `exit_code` field. -/
def exitCode (p : Printed) : Option Int64 := (p.value.get? "exit_code").bind Json.asI64

/-- The `error.kind` field. -/
def errorKind (p : Printed) : Option String :=
  ((p.value.get? "error").bind (·.get? "kind")).bind Json.asStr

/-- The `data` field. -/
def data (p : Printed) : Option Json := p.value.get? "data"

/-- The `error.code` field. -/
def errorCode (p : Printed) : Option Int64 :=
  ((p.value.get? "error").bind (·.get? "code")).bind Json.asI64

/-- The `error.message` field. -/
def errorMessage (p : Printed) : Option String :=
  ((p.value.get? "error").bind (·.get? "message")).bind Json.asStr

/-- The `error.data` field. -/
def errorData (p : Printed) : Option Json := (p.value.get? "error").bind (·.get? "data")

end Printed

end OrgCli
