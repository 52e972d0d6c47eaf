import OrgCli.Proofs.Registry

/-!
# `OrgCli.Proofs.Uris`: the URI parameters

A URI may be given bare or with the `org://` prefix, and the tools want it bare. The
handlers normalize each URI on its own, and `sendsUri_of_call` says that none of them
forgets to: what a call holds under the key of a URI parameter is the given string after
one normalization.

One normalization removes one prefix. So the sent string is bare exactly when the given
string does not start with two prefixes (`sentUri_bare_iff`), and for bare strings the
prefixed and the bare form give the same run (`prefixed_run_eq`).

`mem_uriArgs_iff` ties `Commands.uriArgs` to the registry: it lists the arguments of the
parameters that have a URI type there.
-/

set_option autoImplicit false

namespace OrgCli

open OrgCli.Mcp
open OrgCli.Support
open OrgCli.Contract
open OrgCli.Uri (normalizeForTool normalizeForTool_of_bare normalizeForTool_prefixed orgScheme
  startsWith_normalizeForTool normalizeForTool_eq_self_iff IsBare)

variable (env : Env)

/-! ### What is sent -/

/-- A call holds the normalized URI under the key of each URI parameter. -/
theorem sendsUri_of_call {c : Commands} {name : String} {args : Json}
    (hcall : c.call env = some (name, args)) {p : ParamSpec} (hp : p ∈ c.entry.params) :
    SendsUri c p (args.get? p.serverName) := by
  -- The entries of `tools` and of the org-ql query have no URI parameter.
  have hnone : (∀ q ∈ c.entry.params, ¬ IsUriParam q) → SendsUri c p (args.get? p.serverName) :=
    fun h hty => absurd hty (h p hp)
  by_cases hpath : c.entry.path = ["query"]
  · refine hnone ?_
    rw [entry_of_path hpath]
    simp [querySpec, IsUriParam]
  · cases c with
    | tools cmd =>
        cases cmd with
        | list => cases hcall
        | call n a => exact hnone (by simp [toolsCallSpec, IsUriParam])
    | schema path => cases hcall
    | read | readHeadline | outline | query | todo | edit | clock | config =>
        obtain ⟨fs, hfs, rfl⟩ := call_eq_fields env hcall rfl
        exact (matches_of_path _ hpath name fs hfs).uris p hp

/-- A URI that was given is sent bare exactly when it does not start with two prefixes. -/
theorem sentUri_bare_iff (cli : Cli) (p : ParamSpec) (hp : p ∈ cli.command.entry.params)
    (hty : IsUriParam p) (u : String) (hu : cli.command.text p.name = some u) (name : String)
    (args : Json) (hsent : (name, args) ∈ sentCalls (execute env cli).2.trace) :
    ∃ s, args.get? p.serverName = some (.string s) ∧
      (normalizeForTool s = s ↔ IsBare s) ∧
      (IsBare s ↔ startsWith u (orgScheme ++ orgScheme) = false) := by
  obtain ⟨es, rep, hrun, hexec⟩ := execute_run env cli
  rw [hexec] at hsent
  rcases hrun.sentCalls_cases with hnil | ⟨call, hcall, hone⟩
  · rw [hnil] at hsent
    cases hsent
  · rw [hone, List.mem_singleton] at hsent
    subst hsent
    refine ⟨normalizeForTool u, ?_, normalizeForTool_eq_self_iff _, ?_⟩
    · have hsends := sendsUri_of_call env hcall hp hty
      rw [hsends, hu]
      rfl
    · unfold IsBare
      rw [startsWith_normalizeForTool]

/-- The URI of `org edit rename` is sent bare. -/
theorem sentUri_bare_rename :
    ∃ s, (Json.object (.ofList [("current_title", .string "Old"), ("new_title", .string "New"),
        ("uri", .string "id")])).get? "uri" = some (.string s) ∧
      (normalizeForTool s = s ↔ IsBare s) ∧
      (IsBare s ↔ startsWith "id" (orgScheme ++ orgScheme) = false) :=
  sentUri_bare_iff (Env.answering emptyContentEntry) renameCli _ (List.mem_cons_self ..)
    (Or.inl rfl) "id" rfl "org-rename-headline" _ (by decide +kernel)

/-- `org read` with the prefix given twice. -/
def doublePrefixCli : Cli := ⟨"org-mcp", [], false, 30, .read "org://org://x"⟩

/-- A URI with two prefixes is sent with one. -/
theorem sentUri_doublePrefix :
    ∃ p ∈ doublePrefixCli.command.entry.params, IsUriParam p ∧
      doublePrefixCli.command.text p.name = some "org://org://x" ∧
      ∃ args, ("org-read", args) ∈
          sentCalls (execute (Env.answering emptyContentEntry) doublePrefixCli).2.trace ∧
        args.get? p.serverName = some (.string "org://x") ∧ ¬ IsBare "org://x" :=
  ⟨_, List.mem_cons_self .., Or.inl rfl, rfl, .object (.ofList [("uri", .string "org://x")]),
    by decide +kernel, rfl, by decide⟩

/-! ### The URI arguments -/

/-- A URI parameter of the entry, with the text given for it. -/
def Commands.GivesUri (c : Commands) (name u : String) : Prop :=
  ∃ p ∈ c.entry.params, IsUriParam p ∧ p.name = name ∧ c.text p.name = some u

/-- The URI arguments of a command are the texts given for the URI parameters of its
entry. -/
theorem mem_uriArgs_iff (c : Commands) (name u : String) :
    (name, u) ∈ c.uriArgs ↔ c.GivesUri name u := by
  unfold Commands.GivesUri
  cases c with
  | read | readHeadline | outline =>
      simp [Commands.uriArgs, readSpec, readHeadlineSpec, outlineSpec, IsUriParam, eq_comm]
  | query args =>
      obtain ⟨qlExpr, files, kind⟩ := args
      cases kind with
      | none => simp [Commands.uriArgs, querySpec, IsUriParam]
      | some kind =>
          cases kind <;> simp [Commands.uriArgs, querySpec, queryInboxSpec, queryNextSpec,
            queryBacklogSpec, IsUriParam]
  | todo kind =>
      cases kind with
      | state uri newState from' note =>
          simp [Commands.uriArgs, todoStateSpec, IsUriParam, eq_comm]
      | add parent title todo body names after =>
          cases after <;> simp [Commands.uriArgs, todoAddSpec, IsUriParam, eq_comm]
  | tools cmd =>
      cases cmd <;> simp [Commands.uriArgs, toolsListSpec, toolsCallSpec, IsUriParam]
  | edit kind =>
      cases kind <;> simp [Commands.uriArgs, editRenameSpec, editBodySpec, editPropertiesSpec,
        editTagsSpec, editPrioritySpec, editScheduledSpec, editDeadlineSpec, editLogNoteSpec,
        IsUriParam, eq_comm]
  | clock kind =>
      cases kind with
      | out uri at' => cases uri <;> simp [Commands.uriArgs, clockOutSpec, IsUriParam, eq_comm]
      | status | dangling =>
          simp [Commands.uriArgs, clockStatusSpec, clockDanglingSpec, IsUriParam]
      | in' | add | delete =>
          simp [Commands.uriArgs, clockInSpec, clockAddSpec, clockDeleteSpec, IsUriParam,
            eq_comm]
  | config kind =>
      cases kind <;> simp [Commands.uriArgs, configTodoSpec, configTagsSpec,
        configTagCandidatesSpec, configPrioritySpec, configFilesSpec, configClockSpec]
  | schema path =>
      cases path <;> simp [Commands.uriArgs, schemaSpec, schemaPathSpec, IsUriParam]

/-- Two maps that agree on the URI arguments give the same command. -/
theorem mapUris_congr {c : Commands} {f g : String → String → String}
    (h : ∀ name u, (name, u) ∈ c.uriArgs → f name u = g name u) :
    c.mapUris f = c.mapUris g := by
  cases c with
  | outline | query | tools | config | schema => rfl
  | read uri | readHeadline uri =>
      have huri := h "uri" uri (by simp [Commands.uriArgs])
      simp only [Commands.mapUris, huri]
  | todo kind =>
      cases kind with
      | state uri newState from' note =>
          have huri := h "uri" uri (by simp [Commands.uriArgs])
          simp only [Commands.mapUris, huri]
      | add parent title todo body names after =>
          have hparent := h "parent" parent (by simp [Commands.uriArgs])
          have hafter : after.map (f "after") = after.map (g "after") :=
            Option.map_congr fun u hu => h "after" u (by simp [Commands.uriArgs, hu])
          simp only [Commands.mapUris, hparent, hafter]
  | edit kind =>
      have huri := h "uri" kind.uri (by simp [Commands.uriArgs])
      simp only [Commands.mapUris, huri]
  | clock kind =>
      cases kind with
      | status | dangling => rfl
      | out uri at' =>
          have huri : uri.map (f "uri") = uri.map (g "uri") :=
            Option.map_congr fun u hu => h "uri" u (by simp [Commands.uriArgs, hu])
          simp only [Commands.mapUris, huri]
      | in' uri at' resolve | add uri start end' | delete uri at' =>
          have huri := h "uri" uri (by simp [Commands.uriArgs])
          simp only [Commands.mapUris, huri]

/-- Two maps of the URIs are one. -/
theorem mapUris_mapUris (c : Commands) (f g : String → String → String) :
    (c.mapUris g).mapUris f = c.mapUris fun name u => f name (g name u) := by
  cases c with
  | read | readHeadline | outline | query | tools | config | schema => rfl
  | todo kind =>
      cases kind with
      | state uri newState from' note => rfl
      | add parent title todo body names after => cases after <;> rfl
  | edit kind => cases kind <;> rfl
  | clock kind =>
      cases kind with
      | out uri at' => cases uri <;> rfl
      | status | in' | add | delete | dangling => rfl

/-! ### Two forms of one URI -/

/-- A map of the URIs keeps the command a GTD query or not. -/
theorem isGtd_mapUris (c : Commands) (f : String → String → String) :
    (c.mapUris f).isGtd = c.isGtd := by
  cases c with
  | todo kind => cases kind <;> rfl
  | clock kind => cases kind <;> rfl
  | read | readHeadline | outline | query | tools | edit | config | schema => rfl

/-- A map of the URIs keeps the message of a usage error. -/
theorem usageMessage_mapUris (c : Commands) (f : String → String → String) :
    usageMessage env (c.mapUris f) = usageMessage env c := by
  cases c with
  | todo kind => cases kind <;> rfl
  | edit kind => cases kind <;> rfl
  | clock kind => cases kind <;> rfl
  | read | readHeadline | outline | query | tools | config | schema => rfl

/-- A map of the URIs keeps the command outside of `tools` and `schema`. -/
theorem isWire_mapUris (c : Commands) (f : String → String → String) :
    (c.mapUris f).isWire = c.isWire := by
  cases c with
  | todo kind => cases kind <;> rfl
  | clock kind => cases kind <;> rfl
  | read | readHeadline | outline | query | tools | edit | config | schema => rfl

/-- The plan of a command depends on its URIs only through their normal forms. -/
theorem plan_mapUris (c : Commands) (f : String → String → String) (compact : Bool)
    (h : (c.mapUris f).normalized = c.normalized) :
    plan env (c.mapUris f) compact = plan env c compact := by
  by_cases hw : c.isWire = true
  · -- The call is built from the normal forms, and the rest of the plan has no URI.
    have hcall : (c.mapUris f).toolCall = c.toolCall := by
      unfold Commands.toolCall Commands.fields
      rw [h]
    rw [plan_eq_toolCall env hw, plan_eq_toolCall env ((isWire_mapUris c f).trans hw), hcall,
      isGtd_mapUris, usageMessage_mapUris]
  · cases c with
    | tools cmd => rfl
    | schema path => rfl
    | read | readHeadline | outline | query | todo | edit | clock | config =>
        exact absurd rfl hw

/-- The prefix on the parameters that `S` selects. -/
def addPrefix (S : String → Bool) (name u : String) : String :=
  if S name then orgScheme ++ u else u

/-- On bare URIs, the prefix does not survive the normalization. -/
theorem normalized_addPrefix {c : Commands} (S : String → Bool)
    (hbare : ∀ name u, c.GivesUri name u → IsBare u) :
    (c.mapUris (addPrefix S)).normalized = c.normalized := by
  unfold Commands.normalized
  rw [mapUris_mapUris]
  refine mapUris_congr ?_
  intro name u hu
  have hu := normalizeForTool_of_bare (hbare name u ((mem_uriArgs_iff c name u).mp hu))
  unfold addPrefix
  split
  · rw [normalizeForTool_prefixed, hu]
  · rfl

/-- With bare URIs, the prefix on any of them changes nothing: the run writes the same
messages, prints the same envelope and returns the same code. -/
theorem prefixed_run_eq (cli : Cli) (S : String → Bool)
    (hbare : ∀ name u, cli.command.GivesUri name u → IsBare u) :
    execute env { cli with command := cli.command.mapUris (addPrefix S) } = execute env cli := by
  unfold execute
  rw [run_eq_plan, run_eq_plan]
  show Plan.exec env cli.serverArgv cli.compact (plan env (cli.command.mapUris _) _) _ = _
  rw [plan_mapUris env cli.command _ cli.compact (normalized_addPrefix S hbare)]

/-- `org todo add` with a parent and a sibling, both bare. -/
def todoAddCli : Cli :=
  ⟨"org-mcp", [], false, 30, .todo (.add "inbox.org" "Buy milk" "TODO" none ["home"] (some "id"))⟩

/-- The prefix on the sibling of `org todo add` changes nothing. -/
theorem prefixed_run_eq_todoAdd :
    execute (Env.answering emptyContentEntry)
        { todoAddCli with
          command := todoAddCli.command.mapUris (addPrefix fun name => name = "after") }
      = execute (Env.answering emptyContentEntry) todoAddCli := by
  refine prefixed_run_eq _ todoAddCli _ ?_
  intro name u h
  rw [← mem_uriArgs_iff] at h
  simp only [todoAddCli, Commands.uriArgs, Option.toList_some, List.map_cons, List.map_nil,
    List.mem_cons, Prod.mk.injEq, List.not_mem_nil, or_false] at h
  rcases h with ⟨_, rfl⟩ | ⟨_, rfl⟩ <;> decide

end OrgCli
