import OrgCli.Proofs.Run
import OrgCli.Spec.Registry

/-!
# `OrgCli.Proofs.Registry`: the calls conform to the registry

Two tables describe the wire format, the registry and the handlers. `callMatches_of_fields`
reduces their comparison to the lists of fields, and then each command is one case. Every
command conforms to its entry except the org-ql query: the entry names the key `query`,
and the handler sends `ql_expr`.
-/

set_option autoImplicit false

namespace OrgCli

open OrgCli.Mcp
open OrgCli.Support
open OrgCli.Contract

variable (env : Env)

/-- A command other than `tools` and `schema` sends its fields. -/
theorem call_eq_fields {c : Commands} {name : String} {args : Json}
    (h : c.call env = some (name, args)) (hw : c.isWire = true) :
    ∃ fs, c.fields = some (name, fs) ∧ args = .object (.ofFields fs) := by
  rw [call_eq_toolCall env hw] at h
  unfold Commands.toolCall at h
  rw [Option.map_map, Option.map_eq_some_iff] at h
  obtain ⟨⟨n, fs⟩, hfs, heq⟩ := h
  obtain ⟨rfl, rfl⟩ := Prod.mk.inj heq
  exact ⟨fs, hfs, rfl⟩

/-! ### The property flags -/

/-- The pairs of a list of set strings that all parse. -/
theorem setPairs_eq_filterMap {sets : List String} {pairs : List (String × String)}
    (h : setPairs sets = some pairs) : pairs = sets.filterMap (splitOnce · '=') := by
  induction sets generalizing pairs with
  | nil =>
      cases h
      rfl
  | cons s sets ih =>
      obtain ⟨p, hp, hrest⟩ := Option.bind_eq_some_iff.mp (setPairs_cons s sets ▸ h)
      obtain ⟨rest, hsets, rfl⟩ := Option.map_eq_some_iff.mp hrest
      rw [List.filterMap_cons, hp, ih hsets]

/-- After the merge, an unset key is null and every other key is as before. -/
theorem get?_mergeUnsets (m : Map) (unsets : List String) (key : String) :
    (mergeUnsets m unsets).get? key = if key ∈ unsets then some .null else m.get? key := by
  unfold mergeUnsets
  induction unsets generalizing m with
  | nil => simp
  | cons k unsets ih =>
      -- The key is null when a later flag names it, or when this one does.
      rw [List.foldl_cons, ih, SortedMap.get?_insert]
      by_cases hmem : key ∈ unsets
      · simp [hmem]
      · by_cases hk : key = k <;> simp [hmem, hk]

/-- The `properties` object: the unsets come after the sets, and among the sets the last one
comes first in reverse. -/
theorem get?_propertiesMap_reverse (pairs : List (String × String)) (unsets : List String)
    (key : String) :
    (propertiesMap pairs unsets).get? key
      = if key ∈ unsets then some .null else (lookup key pairs.reverse).map .string := by
  unfold propertiesMap
  rw [get?_mergeUnsets, SortedMap.get?_ofList, ← List.map_reverse, lookup_map]

/-- The `properties` object holds the effect of the flags on each key. -/
theorem get?_propertiesMap {sets : List String} {pairs : List (String × String)}
    (h : setPairs sets = some pairs) (unsets : List String) (key : String) :
    (propertiesMap pairs unsets).get? key = (flagEffect sets unsets key).map .ofOption := by
  unfold flagEffect
  rw [get?_propertiesMap_reverse, setPairs_eq_filterMap h]
  by_cases hmem : key ∈ unsets
  · simp [hmem, Json.ofOption]
  · rw [if_neg hmem, if_neg hmem, Option.map_map]
    rfl

/-! ### One command at a time -/

/-- The entry of a command is the one that its path finds in the registry. -/
theorem findCommand_entry (c : Commands) : findCommand c.entry.path = some c.entry := by
  cases c with
  | read | readHeadline | outline => rfl
  | query args =>
      obtain ⟨qlExpr, files, kind⟩ := args
      cases kind with
      | none => rfl
      | some kind => cases kind <;> rfl
  | todo kind => cases kind <;> rfl
  | tools cmd => cases cmd <;> rfl
  | edit kind => cases kind <;> rfl
  | clock kind => cases kind <;> rfl
  | config kind => cases kind <;> rfl
  | schema path => cases path <;> rfl

/-- The call of a command matches the command's entry: it conforms, and it sends the
command's URIs. -/
structure CallMatches (c : Commands) (name : String) (fs : Fields) : Prop where
  conforms : Conforms c name (.object (.ofFields fs))
  uris : ∀ p ∈ c.entry.params, SendsUri c p ((Json.object (.ofFields fs)).get? p.serverName)

/-- A call matches when its fields do: their names are distinct and belong to parameters,
and the field of each parameter is what the parameter prescribes. -/
theorem callMatches_of_fields {c : Commands} {name : String} {fs : Fields}
    (htarget : name = c.entry.target) (hnodup : (fs.map Prod.fst).Nodup)
    (hkeys : ∀ key ∈ fs.map Prod.fst, ∃ p ∈ c.entry.params, p.serverName = key)
    (hparams : ∀ p ∈ c.entry.params, ParamConforms c p (lookup p.serverName fs).join ∧
      SendsUri c p (lookup p.serverName fs).join) :
    CallMatches c name fs where
  conforms :=
    { target := htarget
      object := ⟨_, rfl⟩
      keys := by
        intro key hkey
        rw [Json.get?_object, SortedMap.get?_ofFields hnodup] at hkey
        -- A key of the object is the name of a field.
        refine hkeys key ((lookup_isSome_iff key fs).mp ?_)
        cases h : lookup key fs with
        | none =>
            rw [h] at hkey
            cases hkey
        | some o => rfl
      params := by
        intro p hp
        rw [Json.get?_object, SortedMap.get?_ofFields hnodup]
        exact (hparams p hp).1 }
  uris p hp := by
    rw [Json.get?_object, SortedMap.get?_ofFields hnodup]
    exact (hparams p hp).2

/-- Every call that the command can make matches its entry. -/
def Matches (c : Commands) : Prop :=
  ∀ name fs, c.fields = some (name, fs) → CallMatches c name fs

/-- A command whose fields are known matches when they do. -/
theorem matches_of {c : Commands} {name : String} {fs : Fields}
    (hfs : c.fields = some (name, fs)) (htarget : name = c.entry.target)
    (hnodup : (fs.map Prod.fst).Nodup)
    (hkeys : ∀ key ∈ fs.map Prod.fst, ∃ p ∈ c.entry.params, p.serverName = key)
    (hparams : ∀ p ∈ c.entry.params, ParamConforms c p (lookup p.serverName fs).join ∧
      SendsUri c p (lookup p.serverName fs).join) : Matches c := by
  intro name' fs' hfs'
  obtain ⟨rfl, rfl⟩ := Prod.mk.inj (Option.some.inj (hfs.symm.trans hfs'))
  exact callMatches_of_fields htarget hnodup hkeys hparams

/-- A command without parameters and fields matches. -/
theorem matches_of_nil {c : Commands} (hfs : c.fields = some (c.entry.target, []))
    (hparams : c.entry.params = []) : Matches c :=
  matches_of hfs rfl List.nodup_nil (by simp) fun p hp => by
    rw [hparams] at hp
    cases hp

/-- The `todo` commands match. -/
theorem matches_todo (kind : TodoKind) : Matches (.todo kind) := by
  cases kind with
  | state uri newState from' note =>
      exact matches_of rfl rfl (by simp) (by simp [todoStateSpec])
        (by simp [todoStateSpec, ParamConforms_iff, SendsUri, IsUriParam])
  | add parent title todo body names after =>
      refine matches_of rfl rfl (by simp) (by simp [todoAddSpec]) ?_
      -- The sibling is a URI that may be absent.
      cases after <;> simp [todoAddSpec, ParamConforms_iff, SendsUri, IsUriParam]

/-- The `edit` commands match. Both property flags are sent as one object. -/
theorem matches_edit (kind : EditKind) : Matches (.edit kind) := by
  cases kind with
  | rename uri from' to' =>
      exact matches_of rfl rfl (by simp) (by simp [editRenameSpec])
        (by simp [editRenameSpec, ParamConforms_iff, SendsUri, IsUriParam])
  | body uri new old append =>
      exact matches_of rfl rfl (by simp) (by simp [editBodySpec])
        (by simp [editBodySpec, ParamConforms_iff, SendsUri, IsUriParam])
  | properties uri sets unsets =>
      intro name fs hfs
      -- The call exists only when every `--set` string parses.
      obtain ⟨pairs, hpairs, heq⟩ := Option.map_eq_some_iff.mp hfs
      obtain ⟨rfl, rfl⟩ := Prod.mk.inj heq
      have hget := get?_propertiesMap hpairs unsets
      exact callMatches_of_fields rfl (by simp [propertiesFields])
        (by simp [editPropertiesSpec, propertiesFields])
        (by simp [editPropertiesSpec, propertiesFields, ParamConforms_iff, SendsUri, IsUriParam,
          Commands.propertyEffect, hget])
  | tags uri names =>
      exact matches_of rfl rfl (by simp) (by simp [editTagsSpec])
        (by simp [editTagsSpec, ParamConforms_iff, SendsUri, IsUriParam])
  | priority uri letter =>
      exact matches_of rfl rfl (by simp) (by simp [editPrioritySpec])
        (by simp [editPrioritySpec, ParamConforms_iff, SendsUri, IsUriParam])
  | scheduled uri date =>
      exact matches_of rfl rfl (by simp) (by simp [editScheduledSpec])
        (by simp [editScheduledSpec, ParamConforms_iff, SendsUri, IsUriParam])
  | deadline uri date =>
      exact matches_of rfl rfl (by simp) (by simp [editDeadlineSpec])
        (by simp [editDeadlineSpec, ParamConforms_iff, SendsUri, IsUriParam])
  | logNote uri note =>
      exact matches_of rfl rfl (by simp) (by simp [editLogNoteSpec])
        (by simp [editLogNoteSpec, ParamConforms_iff, SendsUri, IsUriParam])

/-- The `clock` commands match. `clock in` sends its flag as a string. -/
theorem matches_clock (kind : ClockKind) : Matches (.clock kind) := by
  cases kind with
  | status | dangling => exact matches_of_nil rfl rfl
  | in' uri at' resolve =>
      exact matches_of rfl rfl (by simp) (by simp [clockInSpec])
        (by simp [clockInSpec, ParamConforms_iff, SendsUri, IsUriParam])
  | out uri at' =>
      refine matches_of rfl rfl (by simp) (by simp [clockOutSpec]) ?_
      cases uri <;> simp [clockOutSpec, ParamConforms_iff, SendsUri, IsUriParam]
  | add uri start end' =>
      exact matches_of rfl rfl (by simp) (by simp [clockAddSpec])
        (by simp [clockAddSpec, ParamConforms_iff, SendsUri, IsUriParam])
  | delete uri at' =>
      exact matches_of rfl rfl (by simp) (by simp [clockDeleteSpec])
        (by simp [clockDeleteSpec, ParamConforms_iff, SendsUri, IsUriParam])

/-- The queries match, except for the org-ql query. -/
theorem matches_query (args : QueryArgs) (hpath : args.entry.path ≠ ["query"]) :
    Matches (.query args) := by
  obtain ⟨qlExpr, files, kind⟩ := args
  cases kind with
  | none => exact absurd rfl hpath
  | some kind =>
      cases kind with
      | run expr files => exact absurd rfl hpath
      | inbox => exact matches_of_nil rfl rfl
      | next tag =>
          exact matches_of rfl rfl (by simp) (by simp [queryNextSpec])
            (by simp [queryNextSpec, ParamConforms_iff, SendsUri, IsUriParam])
      | backlog tag =>
          exact matches_of rfl rfl (by simp) (by simp [queryBacklogSpec])
            (by simp [queryBacklogSpec, ParamConforms_iff, SendsUri, IsUriParam])

/-- Every command matches, except for the org-ql query. -/
theorem matches_of_path (c : Commands) (hpath : c.entry.path ≠ ["query"]) : Matches c := by
  cases c with
  | read uri =>
      exact matches_of rfl rfl (by simp) (by simp [readSpec])
        (by simp [readSpec, ParamConforms_iff, SendsUri, IsUriParam])
  | readHeadline uri =>
      exact matches_of rfl rfl (by simp) (by simp [readHeadlineSpec])
        (by simp [readHeadlineSpec, ParamConforms_iff, SendsUri, IsUriParam])
  | outline file =>
      intro name fs hfs
      simp only [Commands.fields, Commands.normalized, Commands.mapUris, encode] at hfs
      split at hfs
      · obtain ⟨rfl, rfl⟩ := Prod.mk.inj (Option.some.inj hfs)
        exact callMatches_of_fields rfl (by simp) (by simp [outlineSpec])
          (by simp [outlineSpec, ParamConforms_iff, SendsUri, IsUriParam])
      · cases hfs
  | query args => exact matches_query args hpath
  | todo kind => exact matches_todo kind
  | edit kind => exact matches_edit kind
  | clock kind => exact matches_clock kind
  | config kind => cases kind <;> exact matches_of_nil rfl rfl
  | tools cmd => exact fun _ _ hfs => by cases hfs
  | schema path => exact fun _ _ hfs => by cases hfs

/-! ### The calls of a run -/

/-- Only queries have the path of the org-ql query. -/
theorem query_of_path {c : Commands} (hpath : c.entry.path = ["query"]) :
    ∃ args, c = .query args := by
  cases c with
  | query args => exact ⟨args, rfl⟩
  | read | readHeadline | outline =>
      simp [readSpec, readHeadlineSpec, outlineSpec] at hpath
  | todo kind => cases kind <;> simp [todoStateSpec, todoAddSpec] at hpath
  | tools cmd => cases cmd <;> simp [toolsListSpec, toolsCallSpec] at hpath
  | edit kind =>
      cases kind <;> simp [editRenameSpec, editBodySpec, editPropertiesSpec, editTagsSpec,
        editPrioritySpec, editScheduledSpec, editDeadlineSpec, editLogNoteSpec] at hpath
  | clock kind =>
      cases kind <;> simp [clockStatusSpec, clockInSpec, clockOutSpec, clockAddSpec,
        clockDeleteSpec, clockDanglingSpec] at hpath
  | config kind =>
      cases kind <;> simp [configTodoSpec, configTagsSpec, configTagCandidatesSpec,
        configPrioritySpec, configFilesSpec, configClockSpec] at hpath
  | schema path => cases path <;> simp [schemaSpec, schemaPathSpec] at hpath

/-- The entry of the org-ql query. -/
theorem entry_of_path {c : Commands} (hpath : c.entry.path = ["query"]) :
    c.entry = querySpec := by
  have h := findCommand_entry c
  rw [hpath] at h
  exact (Option.some.inj h).symm

/-- The org-ql query sends its fields. -/
theorem queryRun_fields {args : QueryArgs} (hpath : args.entry.path = ["query"]) {name : String}
    {fs : Fields} (hfs : (Commands.query args).fields = some (name, fs)) :
    ∃ qlExpr files, fs = queryRunFields qlExpr files := by
  obtain ⟨qlExpr, files, kind⟩ := args
  cases kind with
  | none =>
      cases qlExpr with
      | none => cases hfs
      | some expr => exact ⟨expr, files, (Prod.mk.inj (Option.some.inj hfs)).2.symm⟩
  | some kind =>
      cases kind with
      | run expr files => exact ⟨expr, files, (Prod.mk.inj (Option.some.inj hfs)).2.symm⟩
      | inbox | next | backlog =>
          simp [queryInboxSpec, queryNextSpec, queryBacklogSpec] at hpath

/-- The entries of the kind `tool` are those of the commands other than `tools` and
`schema`. -/
theorem isWire_of_kind {c : Commands} (h : c.entry.kind = .tool) : c.isWire = true := by
  cases c with
  | tools cmd => cases cmd <;> cases h
  | schema path => cases path <;> cases h
  | read | readHeadline | outline | query | todo | edit | clock | config => rfl

/-- No parameter of the org-ql query has the key `ql_expr`. -/
theorem querySpec_no_qlExpr : ∀ p ∈ querySpec.params, p.serverName ≠ "ql_expr" := by
  simp [querySpec]

/-- A tool call of a run conforms to the registry entry of its command exactly when the
command is not the org-ql query. -/
theorem call_conforms_iff (cli : Cli) (hkind : cli.command.entry.kind = .tool) (name : String)
    (args : Json) (hsent : (name, args) ∈ sentCalls (execute env cli).2.trace) :
    Conforms cli.command name args ↔ cli.command.entry.path ≠ ["query"] := by
  obtain ⟨es, rep, hrun, hexec⟩ := execute_run env cli
  rw [hexec] at hsent
  rcases hrun.sentCalls_cases with hnil | ⟨call, hcall, hone⟩
  · rw [hnil] at hsent
    cases hsent
  · rw [hone, List.mem_singleton] at hsent
    subst hsent
    obtain ⟨fs, hfs, rfl⟩ := call_eq_fields env hcall (isWire_of_kind hkind)
    constructor
    · intro hconf hpath
      obtain ⟨qargs, hc⟩ := query_of_path hpath
      have hentry := entry_of_path hpath
      rw [hc] at hfs hpath
      obtain ⟨qlExpr, files, rfl⟩ := queryRun_fields hpath hfs
      -- The key `ql_expr` is sent, and no parameter of the entry has it.
      have hkey : ((Json.object (.ofFields (queryRunFields qlExpr files))).get? "ql_expr").isSome
          = true := by
        rw [Json.get?_object, SortedMap.get?_ofFields (by simp [queryRunFields])]
        rfl
      obtain ⟨p, hp, hname⟩ := hconf.keys "ql_expr" hkey
      rw [hentry] at hp
      exact querySpec_no_qlExpr p hp hname
    · intro hpath
      exact (matches_of_path _ hpath name fs hfs).conforms

/-- The call of `org edit rename` conforms to its entry. -/
theorem call_conforms_rename :
    Conforms renameCli.command "org-rename-headline"
      (.object (.ofList [("current_title", .string "Old"), ("new_title", .string "New"),
        ("uri", .string "id")])) :=
  (call_conforms_iff (Env.answering emptyContentEntry) renameCli rfl _ _
    (by decide +kernel)).mpr (by decide)

/-- `org query` with one expression. -/
def queryCli : Cli := ⟨"org-mcp", [], false, 30, .query ⟨some "(todo)", [], none⟩⟩

/-- The call of `org query` does not conform to its entry: it has the key `ql_expr`, and the
entry prescribes `query`. -/
theorem call_query_not_conforms :
    queryCli.command.entry = querySpec ∧ querySpec ∈ COMMANDS ∧ querySpec.kind = .tool ∧
      sentCalls (execute (Env.answering emptyContentEntry) queryCli).2.trace
        = [("org-ql-query", .object (.ofList [("ql_expr", .string "(todo)"),
            ("files", .strings [])]))] ∧
      ¬ Conforms queryCli.command "org-ql-query"
        (.object (.ofList [("ql_expr", .string "(todo)"), ("files", .strings [])])) := by
  refine ⟨rfl, by simp [COMMANDS], rfl, by decide +kernel, fun h => ?_⟩
  obtain ⟨p, hp, hkey⟩ := h.keys "ql_expr" rfl
  exact querySpec_no_qlExpr p hp hkey

end OrgCli
