import OrgCli.Proofs.Run

/-!
# `OrgCli.Proofs.Layout`: what `--compact` changes

Every handler takes the flag and passes it on to the function that prints. `compact_is_layout`
compares two runs of one command line that differ in the flag, on any server: the server sees
the same messages, and the two envelopes hold the same value. The two runs share the connect
and the request (`exec_same`), and their plans differ in reports of the same value
(`plan_same`).
-/

set_option autoImplicit false

namespace OrgCli

open OrgCli.Mcp
open OrgCli.Support

variable (env : Env)

/-- Two reports with the same code and the same value. -/
structure Report.Same (r r' : Report) : Prop where
  code : r.code = r'.code
  value : r.printed.value = r'.printed.value

/-- Two plans that do the same, up to the layout of their reports. -/
inductive Plan.Same : Plan → Plan → Prop
  | report {r r' : Report} (h : r.Same r') : Plan.Same (.report r) (.report r')
  | exchange (method : String) (params : Json) {finish finish' : Except McpError Json → Report}
      (h : ∀ r, (finish r).Same (finish' r)) :
      Plan.Same (.exchange method params finish) (.exchange method params finish')

/-- Two runs with the same exit code, the same events, and the same values on stdout. -/
structure SameRun (out out' : Int32 × World) : Prop where
  code : out.1 = out'.1
  trace : out.2.trace = out'.2.trace
  values : out.2.stdout.map Printed.value = out'.2.stdout.map Printed.value

variable (compact compact' : Bool)

/-- The reports of one result. -/
theorem successReport_same (data : Json) :
    (successReport data compact).Same (successReport data compact') := ⟨rfl, rfl⟩

/-- The reports of one usage error. -/
theorem usageReport_same (code : Int64) (msg : String) :
    (usageReport code msg compact).Same (usageReport code msg compact') := ⟨rfl, rfl⟩

/-- The reports of one error. -/
theorem errorReport_same (e : McpError) :
    (errorReport e compact).Same (errorReport e compact') := ⟨rfl, rfl⟩

/-- The reports on one reply. -/
theorem finishWith_same (data : Json → Json) (r : Except McpError Json) :
    (finishWith data compact r).Same (finishWith data compact' r) := by
  cases r with
  | ok v => exact successReport_same compact compact' _
  | error e => exact errorReport_same compact compact' e

/-- The reports on one reply to a GTD query. -/
theorem finishGtd_same (toolName : String) (r : Except McpError Json) :
    (finishGtd env toolName compact r).Same (finishGtd env toolName compact' r) := by
  cases r with
  | ok v => exact successReport_same compact compact' _
  | error e =>
      cases e with
      | toolError code message data =>
          simp only [finishGtd]
          split
          · exact usageReport_same compact compact' _ _
          · exact errorReport_same compact compact' _
      | transport | spawn | protocol => exact errorReport_same compact compact' _

/-- The plans of one command. -/
theorem plan_same (c : Commands) : (plan env c compact).Same (plan env c compact') := by
  by_cases hwire : c.isWire = true
  · rw [plan_eq_toolCall env hwire, plan_eq_toolCall env hwire]
    cases c.toolCall with
    | none => exact .report (usageReport_same compact compact' _ _)
    | some call =>
        refine .exchange _ _ fun r => ?_
        cases c.isGtd with
        | true => exact finishGtd_same env compact compact' _ r
        | false => exact finishWith_same compact compact' _ r
  · cases c with
    | schema path =>
        refine .report ?_
        unfold schemaReport
        split
        · exact successReport_same compact compact' _
        · cases Contract.serializeOne path with
          | some data => exact successReport_same compact compact' data
          | none => exact usageReport_same compact compact' _ _
    | tools cmd =>
        cases cmd with
        | list =>
            refine .exchange _ _ fun r => ?_
            unfold finishToolsList
            cases r.bind toolsOf with
            | ok tools => exact successReport_same compact compact' _
            | error e => exact errorReport_same compact compact' e
        | call name args =>
            simp only [plan]
            cases callArguments env args with
            | ok v => exact .exchange _ _ (finishWith_same compact compact' _)
            | error e => exact .report (usageReport_same compact compact' _ _)
    | read | readHeadline | outline | query | todo | edit | clock | config =>
        exact absurd rfl hwire

/-- Carrying out one report. -/
theorem Report.Same.emit {r r' : Report} (h : r.Same r') (w : World) :
    SameRun (r.emit w) (r'.emit w) where
  code := h.code
  trace := rfl
  values := by
    show (w.stdout ++ [r.printed]).map Printed.value = (w.stdout ++ [r'.printed]).map _
    rw [List.map_append, List.map_append, List.map_singleton, List.map_singleton, h.value]

/-- Carrying out two such plans. -/
theorem exec_same (argv : List String) {p p' : Plan} (h : p.Same p') (w : World) :
    SameRun (p.exec env argv compact w) (p'.exec env argv compact' w) := by
  cases h with
  | report h => exact h.emit w
  | @exchange method params finish finish' h =>
      simp only [Plan.exec, Proc.bind_apply]
      rcases hconnect : Client.connectWithTimeout env argv w.connectTimeout w with ⟨e | c, w'⟩
      · rw [connect_error env hconnect compact, connect_error env hconnect compact']
        exact (errorReport_same compact compact' e).emit w'
      · -- The two requests are the same, and only the reports differ.
        rw [connect_ok env hconnect compact, connect_ok env hconnect compact']
        exact (h _).emit _

/-- The flag `--compact` changes the layout and nothing else. On any server, two runs of one
command line that differ in the flag end with the same exit code, exchange the same events with
the server, and print the same value. -/
theorem compact_is_layout (env : Env) (cli : Cli) (compact compact' : Bool) :
    SameRun (execute env { cli with compact := compact })
      (execute env { cli with compact := compact' }) := by
  unfold execute
  rw [run_eq_plan, run_eq_plan]
  exact exec_same env compact compact' _ (plan_same env compact compact' cli.command) _

end OrgCli
