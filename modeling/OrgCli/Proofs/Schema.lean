import Mathlib.Data.List.Nodup
import OrgCli.Proofs.Run
import OrgCli.Spec.Schema

/-!
# `OrgCli.Proofs.Schema`: `org schema` loses nothing

`serializeCommand_reads_back_iff` is the round trip of one command: it reads back unless it is
internal and has a target all the same, which the serializer drops. No entry of the registry
is like that, so the output of `org schema` reads back to the registry
(`schema_reads_back`).
-/

set_option autoImplicit false

namespace OrgCli.Contract

open OrgCli.Support

/-! ### The parts of a command -/

/-- A list reads back when each of its items does. -/
theorem mapM_read {α : Type} {read : Json → Option α} {serialize : α → Json} {xs : List α}
    (h : ∀ x ∈ xs, read (serialize x) = some x) : (xs.map serialize).mapM read = some xs := by
  induction xs with
  | nil => rfl
  | cons x xs ih =>
      rw [List.forall_mem_cons] at h
      rw [List.map_cons, List.mapM_cons, h.1, ih h.2]
      rfl

/-- A parameter kind reads back. -/
theorem readParamKind_serialize (k : ParamKind) :
    readParamKind (serializeParamKind k) = some k := by
  cases k <;> rfl

/-- A parameter type reads back. -/
theorem readParamType_serialize (t : ParamType) :
    readParamType (serializeParamType t) = some t := by
  cases t <;> rfl

/-- A URI rule reads back. -/
theorem readUriRule_serialize (r : UriRule) : readUriRule (serializeUriRule r) = some r := by
  cases r <;> rfl

/-- A parameter reads back. -/
theorem readParam_serializeParam (p : ParamSpec) : readParam (serializeParam p) = some p := by
  obtain ⟨name, serverName, required, repeated, kind, ty, uriRule, serverValue, description⟩ := p
  cases serverValue <;>
    simp [readParam, serializeParam, serializeServerValue, strMember, boolMember, readServerValue,
      lookup, readParamKind_serialize, readParamType_serialize, readUriRule_serialize]

/-- An output shape reads back. -/
theorem readOutputShape_serialize (s : OutputShape) :
    readOutputShape (serializeOutputShape s) = some s := by
  cases s with
  | tool serverReturns cliData =>
      cases serverReturns <;>
        simp [readOutputShape, serializeOutputShape, strMember, lookup, readServerReturns]
  | internal cliData => simp [readOutputShape, serializeOutputShape, strMember, lookup]

/-- An exit code with its meaning, as `org schema` prints it. -/
def serializeExitCode (entry : Int32 × String) : Json :=
  .object (.ofList [("code", .ofI64 entry.1.toInt64), ("meaning", .string entry.2)])

/-- An exit code reads back. -/
theorem readExitCode_serialize (entry : Int32 × String) :
    readExitCode (serializeExitCode entry) = some entry := by
  simp [readExitCode, serializeExitCode, strMember, lookup, Json.asI64_ofI64]

/-! ### A command -/

/-- The target of a command, as `org schema` prints it. -/
def serializeTarget (cmd : CommandSpec) : Json :=
  match cmd.kind with
  | .internal => .object (.ofList [("kind", .string "internal")])
  | kind => .object (.ofList [("kind", .string (serializeTargetKind kind)),
      ("name", .string cmd.target)])

/-- A target reads back, except for the name of an internal one. -/
theorem readTarget_serialize (cmd : CommandSpec) :
    readTarget (serializeTarget cmd)
      = some (cmd.kind, if cmd.kind = .internal then "" else cmd.target) := by
  unfold serializeTarget
  cases hkind : cmd.kind <;> simp [readTarget, strMember, lookup, serializeTargetKind]

/-- What reads back of a command: all of it, except for the name of an internal target. -/
theorem readCommand_serializeCommand (cmd : CommandSpec) :
    readCommand (serializeCommand cmd)
      = some { cmd with target := if cmd.kind = .internal then "" else cmd.target } := by
  have hserialize : serializeCommand cmd = .object (.ofList [
      ("path", .strings cmd.path), ("summary", .string cmd.summary),
      ("target", serializeTarget cmd), ("params", .array (cmd.params.map serializeParam)),
      ("output", serializeOutputShape cmd.outputShape),
      ("exit_codes", .array (cmd.exitCodes.map serializeExitCode))]) := rfl
  have hpath : (cmd.path.map Json.string).mapM Json.asStr = some cmd.path :=
    mapM_read fun s _ => rfl
  have hparams : (cmd.params.map serializeParam).mapM readParam = some cmd.params :=
    mapM_read fun p _ => readParam_serializeParam p
  have hexit : (cmd.exitCodes.map serializeExitCode).mapM readExitCode = some cmd.exitCodes :=
    mapM_read fun e _ => readExitCode_serialize e
  rw [hserialize]
  simp [readCommand, arrayMember, strMember, lookup, Json.strings, readTarget_serialize,
    readOutputShape_serialize, hpath, hparams, hexit]

/-- A command without such a name reads back. -/
theorem readCommand_eq_some {cmd : CommandSpec} (h : cmd.kind = .internal → cmd.target = "") :
    readCommand (serializeCommand cmd) = some cmd := by
  rw [readCommand_serializeCommand]
  by_cases hkind : cmd.kind = .internal
  · rw [if_pos hkind, ← h hkind]
  · rw [if_neg hkind]

/-- The JSON of a command determines the command, whatever its parameters, its output and its
exit codes are, exactly when it is no internal command with a target. -/
theorem serializeCommand_reads_back_iff (cmd : CommandSpec) :
    readCommand (serializeCommand cmd) = some cmd ↔ (cmd.kind = .internal → cmd.target = "") := by
  refine ⟨fun h hkind => ?_, readCommand_eq_some⟩
  rw [readCommand_serializeCommand] at h
  have htarget := congrArg CommandSpec.target (Option.some.inj h)
  rw [if_pos hkind] at htarget
  exact htarget.symm

/-! ### The registry -/

/-- No internal command of the registry has a target. -/
theorem internal_target : ∀ cmd ∈ COMMANDS, cmd.kind = .internal → cmd.target = "" := by
  decide +kernel

/-- No two commands of the registry have the same path. -/
theorem paths_nodup : (COMMANDS.map CommandSpec.path).Nodup := by
  decide +kernel

/-- The command that `org schema` finds is the one with the path. -/
theorem findCommand_eq_some_iff (path : List String) (spec : CommandSpec) :
    findCommand path = some spec ↔ spec ∈ COMMANDS ∧ spec.path = path := by
  unfold findCommand
  constructor
  · intro h
    exact ⟨List.mem_of_find?_eq_some h, by simpa using List.find?_some h⟩
  · rintro ⟨hmem, rfl⟩
    cases hfind : COMMANDS.find? fun c => c.path = spec.path with
    | none =>
        have hne := List.find?_eq_none.mp hfind spec hmem
        simp at hne
    | some other =>
        have hpath : other.path = spec.path := by simpa using List.find?_some hfind
        have hother := List.mem_of_find?_eq_some hfind
        rw [List.inj_on_of_nodup_map paths_nodup hother hmem hpath]

/-- A registry whose commands read back does. -/
theorem readRegistry_commands {cmds : List CommandSpec}
    (h : ∀ cmd ∈ cmds, cmd.kind = .internal → cmd.target = "") :
    readRegistry (.object (.ofList [("version", .ofI64 1),
      ("commands", .array (cmds.map serializeCommand))])) = some cmds := by
  have hcommands : (cmds.map serializeCommand).mapM readCommand = some cmds :=
    mapM_read fun cmd hcmd => readCommand_eq_some (h cmd hcmd)
  simp [readRegistry, arrayMember, hcommands]

/-- The registry reads back. -/
theorem readRegistry_serializeAll : readRegistry serializeAll = some COMMANDS := by
  unfold serializeAll
  exact readRegistry_commands internal_target

/-- One entry reads back. -/
theorem readEntry_serializeOne (path : List String) :
    (serializeOne path).bind readEntry = findCommand path := by
  unfold serializeOne
  cases hfind : findCommand path with
  | none => rfl
  | some cmd =>
      obtain ⟨hmem, _⟩ := (findCommand_eq_some_iff path cmd).mp hfind
      have hread := readCommand_eq_some (internal_target cmd hmem)
      simp [readEntry, hread]

end OrgCli.Contract

namespace OrgCli

open OrgCli.Contract

/-- A run of `org schema` is its report, without a server. -/
theorem execute_schema (env : Env) (cli : Cli) (path : List String) :
    execute env { cli with command := .schema path }
      = ((schemaReport path cli.compact).code,
          ⟨[], [(schemaReport path cli.compact).printed], cli.timeout⟩) := by
  unfold execute
  rw [run_eq_plan]
  rfl

/-- The output of `org schema` reads back to the registry. Without a path it is the whole
registry, in its order. With a path it is the command of the registry that has this path, and
nothing when there is none. -/
theorem schema_reads_back (env : Env) (cli : Cli) :
    (∃ p, (execute env { cli with command := .schema [] }).2.stdout = [p] ∧
      p.data.bind readRegistry = some COMMANDS) ∧
    ∀ path ≠ [], ∀ spec,
      (∃ p, (execute env { cli with command := .schema path }).2.stdout = [p] ∧
        p.data.bind readEntry = some spec) ↔ spec ∈ COMMANDS ∧ spec.path = path := by
  refine ⟨?_, fun path hpath spec => ?_⟩
  · have hreport : schemaReport [] cli.compact = successReport serializeAll cli.compact := by
      unfold schemaReport
      exact if_pos rfl
    rw [execute_schema, hreport]
    refine ⟨_, rfl, ?_⟩
    rw [successReport_data, Option.bind_some, readRegistry_serializeAll]
  · -- The envelope has data exactly when the path is in the registry.
    have hdata : (schemaReport path cli.compact).printed.data = serializeOne path := by
      unfold schemaReport
      rw [if_neg (by simpa using hpath)]
      cases serializeOne path with
      | none => exact failureReport_data ..
      | some data => exact successReport_data ..
    refine Iff.trans ?_ (findCommand_eq_some_iff path spec)
    have hread := readEntry_serializeOne path
    rw [← hdata] at hread
    rw [← hread, execute_schema]
    constructor
    · rintro ⟨p, hp, hread⟩
      rw [List.singleton_inj.mp hp]
      exact hread
    · intro hread
      exact ⟨_, rfl, hread⟩

end OrgCli
