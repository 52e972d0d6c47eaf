import OrgCli.Proofs.Registry
import OrgCli.Spec.Encoding

/-!
# `OrgCli.Proofs.Encoding`: the encoding confuses no two commands

`decode_toolCall` reads the canonical command back from its call, one case for each command.
So equal calls have equal canonical commands. The converse is `encode_canonical`, except for
the properties object, which `propertiesMap_eq_iff` compares key by key. `toolCall_eq_iff`
joins the two directions, and `sentCall_eq_iff` reads them on the messages of two runs.
-/

set_option autoImplicit false

namespace OrgCli

open OrgCli.Mcp
open OrgCli.Support
open OrgCli.Uri (normalizeForTool)

variable (env : Env)

/-! ### Reading a field -/

/-- Every string of an array of strings is read. -/
@[simp] theorem asStr_comp_string : Json.asStr ∘ Json.string = some := rfl

/-- An optional string that is mapped and left out when absent. -/
@[simp] theorem bind_asStr_map_comp (f : String → String) (o : Option String) :
    (o.map (Json.string ∘ f)).bind Json.asStr = o.map f := by
  cases o <;> rfl

/-- An optional string that is sent as null when absent. -/
@[simp] theorem asStr_ofOption (o : Option String) : (Json.ofOption o).asStr = o := by
  cases o <;> rfl

/-! ### Reading a call -/

/-- The call of a `todo` command reads back. -/
theorem decode_todo (kind : TodoKind) {call : String × Map}
    (h : (Commands.todo kind).toolCall = some call) :
    decode call = some (Commands.todo kind).normalized.canonical := by
  cases kind <;> cases h <;> simp [decode, decoders, SortedMap.get?_ofFields, encodeTodo,
    Commands.normalized, Commands.mapUris, Json.strings]

/-- The call of `edit properties`. -/
theorem toolCall_properties {uri : String} {sets unsets : List String} {call : String × Map}
    (h : (Commands.edit (.properties uri sets unsets)).toolCall = some call) :
    ∃ pairs, setPairs sets = some pairs ∧ call = ("org-set-properties",
      .ofFields (propertiesFields (normalizeForTool uri) pairs unsets)) := by
  obtain ⟨_, hfs, rfl⟩ := Option.map_eq_some_iff.mp h
  obtain ⟨pairs, hpairs, rfl⟩ := Option.map_eq_some_iff.mp hfs
  exact ⟨pairs, hpairs, rfl⟩

/-- The call of an `edit` command reads back, without the property flags. -/
theorem decode_edit (kind : EditKind) {call : String × Map}
    (h : (Commands.edit kind).toolCall = some call) :
    decode call = some (Commands.edit kind).normalized.canonical := by
  cases kind with
  | properties uri sets unsets =>
      obtain ⟨pairs, _, rfl⟩ := toolCall_properties h
      simp [decode, decoders, SortedMap.get?_ofFields, propertiesFields, Commands.normalized,
        Commands.mapUris, EditKind.withUri]
  | rename | body | tags | priority | scheduled | deadline | logNote =>
      cases h
      simp [decode, decoders, SortedMap.get?_ofFields, Commands.normalized, Commands.mapUris,
        EditKind.withUri, Json.strings]

/-- The call of a `clock` command reads back. -/
theorem decode_clock (kind : ClockKind) {call : String × Map}
    (h : (Commands.clock kind).toolCall = some call) :
    decode call = some (Commands.clock kind).normalized.canonical := by
  cases kind <;> cases h <;> simp [decode, decoders, SortedMap.get?_ofFields, encodeClock,
    Commands.normalized, Commands.mapUris]

/-- The call of a query reads back as a subcommand. -/
theorem decode_query (args : QueryArgs) (hq : args.NoConflict) {call : String × Map}
    (h : (Commands.query args).toolCall = some call) :
    decode call = some (Commands.query args).normalized.canonical := by
  obtain ⟨qlExpr, files, kind⟩ := args
  cases kind with
  | none =>
      cases qlExpr with
      | none => cases h
      | some expr =>
          cases h
          simp [decode, decoders, SortedMap.get?_ofFields, queryRunFields, Commands.normalized,
            Commands.mapUris, Json.strings]
  | some kind =>
      rcases hq with hnone | ⟨rfl, rfl⟩
      · cases hnone
      · cases kind <;> cases h <;> simp [decode, decoders, SortedMap.get?_ofFields,
          queryRunFields, Commands.normalized, Commands.mapUris, Json.strings]

/-- The canonical command reads back from every tool call. -/
theorem decode_toolCall {c : Commands} (hq : c.NoConflict) {call : String × Map}
    (h : c.toolCall = some call) : decode call = some c.normalized.canonical := by
  cases c with
  | read uri | readHeadline uri =>
      cases h
      simp [decode, decoders, SortedMap.get?_ofFields, Commands.normalized, Commands.mapUris]
  | outline file =>
      simp only [Commands.toolCall, Commands.fields, Commands.normalized, Commands.mapUris,
        encode] at h
      split at h
      · cases h
        simp [decode, decoders, SortedMap.get?_ofFields, Commands.normalized, Commands.mapUris]
      · cases h
  | query args => exact decode_query args hq h
  | todo kind => exact decode_todo kind h
  | edit kind => exact decode_edit kind h
  | clock kind => exact decode_clock kind h
  | config kind =>
      cases kind <;> cases h <;> simp [decode, decoders, configTool, Commands.normalized,
        Commands.mapUris]
  | tools cmd => cases h
  | schema path => cases h

/-! ### The property flags -/

/-- A value and its absence are sent as different things. -/
theorem ofOption_injective : Function.Injective Json.ofOption := by
  intro a b h
  have hread := congrArg Json.asStr h
  rwa [asStr_ofOption, asStr_ofOption] at hread

/-- The `properties` objects of two flag lists are equal exactly when the flags have the same
effect on every key. -/
theorem propertiesMap_eq_iff {sets sets' : List String} {pairs pairs' : List (String × String)}
    (h : setPairs sets = some pairs) (h' : setPairs sets' = some pairs')
    (unsets unsets' : List String) :
    propertiesMap pairs unsets = propertiesMap pairs' unsets' ↔
      ∀ key, flagEffect sets unsets key = flagEffect sets' unsets' key := by
  -- The object holds the effect of each key, and the value shows which effect it is.
  have hinj := Option.map_injective ofOption_injective
  constructor
  · intro heq key
    apply hinj
    rw [← get?_propertiesMap h, ← get?_propertiesMap h', heq]
  · intro heffect
    apply SortedMap.ext_get?
    intro key
    rw [get?_propertiesMap h, get?_propertiesMap h', heffect key]

/-- The command is `edit properties`. -/
def IsProperties (c : Commands) : Prop := ∃ uri sets unsets, c = .edit (.properties uri sets unsets)

/-- The canonical form keeps a command `edit properties` or not. -/
theorem isProperties_canonical (c : Commands) : IsProperties c.canonical ↔ IsProperties c := by
  unfold IsProperties
  cases c with
  | edit kind => cases kind <;> simp
  | read | readHeadline | outline | query | todo | tools | clock | config | schema => simp

/-- The normal form of the URIs keeps a command `edit properties` or not. -/
theorem isProperties_normalized (c : Commands) : IsProperties c.normalized ↔ IsProperties c := by
  unfold IsProperties
  cases c with
  | todo kind => cases kind <;> simp [Commands.normalized, Commands.mapUris]
  | edit kind => cases kind <;> simp [Commands.normalized, Commands.mapUris, EditKind.withUri]
  | clock kind => cases kind <;> simp [Commands.normalized, Commands.mapUris]
  | read | readHeadline | outline | query | tools | config | schema =>
      simp [Commands.normalized, Commands.mapUris]

/-- The encoding of a command other than `edit properties` depends on its canonical form. -/
theorem encode_canonical {c : Commands} (h : ¬ IsProperties c) : encode c.canonical = encode c := by
  cases c with
  | query args =>
      obtain ⟨qlExpr, files, kind⟩ := args
      cases kind <;> cases qlExpr <;> rfl
  | edit kind =>
      cases kind with
      | properties uri sets unsets => exact absurd ⟨uri, sets, unsets, rfl⟩ h
      | rename | body | tags | priority | scheduled | deadline | logNote => rfl
  | read | readHeadline | outline | todo | clock | tools | config | schema => rfl

/-- Only `edit properties` has an effect on a property. -/
theorem propertyEffect_of_not {c : Commands} (h : ¬ IsProperties c) (key : String) :
    c.propertyEffect key = none := by
  cases c with
  | edit kind =>
      cases kind with
      | properties uri sets unsets => exact absurd ⟨uri, sets, unsets, rfl⟩ h
      | rename | body | tags | priority | scheduled | deadline | logNote => rfl
  | read | readHeadline | outline | query | todo | clock | tools | config | schema => rfl

/-- Two calls of `edit properties` are equal exactly when the URIs and the effects are. -/
theorem propertiesCall_eq_iff {uri uri' : String} {sets sets' unsets unsets' : List String}
    {p q : String × Map}
    (hp : (Commands.edit (.properties uri sets unsets)).toolCall = some p)
    (hq : (Commands.edit (.properties uri' sets' unsets')).toolCall = some q) :
    p = q ↔ SameCall (.edit (.properties uri sets unsets))
      (.edit (.properties uri' sets' unsets')) := by
  obtain ⟨pairs, hpairs, rfl⟩ := toolCall_properties hp
  obtain ⟨pairs', hpairs', rfl⟩ := toolCall_properties hq
  have heffect := propertiesMap_eq_iff hpairs hpairs' unsets unsets'
  have hfields : SortedMap.ofFields (propertiesFields (normalizeForTool uri) pairs unsets)
        = .ofFields (propertiesFields (normalizeForTool uri') pairs' unsets') ↔
      normalizeForTool uri = normalizeForTool uri' ∧
        propertiesMap pairs unsets = propertiesMap pairs' unsets' := by
    rw [SortedMap.ofFields_inj (by simp [propertiesFields]) (by simp [propertiesFields])]
    simp [propertiesFields]
  have hcommand : (Commands.edit (.properties uri sets unsets)).normalized.canonical
        = (Commands.edit (.properties uri' sets' unsets')).normalized.canonical ↔
      normalizeForTool uri = normalizeForTool uri' := by
    simp [Commands.normalized, Commands.mapUris, EditKind.withUri]
  rw [Prod.mk.injEq, hfields, heffect]
  constructor
  · rintro ⟨_, huri, hkeys⟩
    exact ⟨hcommand.mpr huri, hkeys⟩
  · rintro ⟨h, hkeys⟩
    exact ⟨rfl, hcommand.mp h, hkeys⟩

/-! ### Two calls -/

/-- Two calls are equal exactly when their commands are the same. -/
theorem toolCall_eq_iff {c d : Commands} (hc : c.NoConflict) (hd : d.NoConflict)
    {p q : String × Map} (hp : c.toolCall = some p) (hq : d.toolCall = some q) :
    p = q ↔ SameCall c d := by
  have hread : p = q → c.normalized.canonical = d.normalized.canonical := by
    intro h
    subst h
    exact Option.some.inj ((decode_toolCall hc hp).symm.trans (decode_toolCall hd hq))
  -- Both sides say that the canonical commands are equal, so both or none are `properties`.
  have hboth : c.normalized.canonical = d.normalized.canonical →
      (IsProperties c ↔ IsProperties d) := by
    intro h
    rw [← isProperties_normalized c, ← isProperties_normalized d,
      ← isProperties_canonical c.normalized, ← isProperties_canonical d.normalized, h]
  by_cases hcp : IsProperties c
  · by_cases hdp : IsProperties d
    · obtain ⟨uri, sets, unsets, rfl⟩ := hcp
      obtain ⟨uri', sets', unsets', rfl⟩ := hdp
      exact propertiesCall_eq_iff hp hq
    · exact iff_of_false (fun h => hdp ((hboth (hread h)).mp hcp))
        fun h => hdp ((hboth h.command).mp hcp)
  · by_cases hdp : IsProperties d
    · exact iff_of_false (fun h => hcp ((hboth (hread h)).mpr hdp))
        fun h => hcp ((hboth h.command).mpr hdp)
    · -- Neither is `properties`, so the call depends on the canonical command alone.
      constructor
      · intro h
        refine ⟨hread h, ?_⟩
        intro key
        rw [propertyEffect_of_not hcp, propertyEffect_of_not hdp]
      · rintro ⟨hcommand, _⟩
        have hfields : c.fields = d.fields := by
          unfold Commands.fields
          rw [← encode_canonical (mt (isProperties_normalized c).mp hcp),
            ← encode_canonical (mt (isProperties_normalized d).mp hdp), hcommand]
        unfold Commands.toolCall at hp hq
        rw [hfields] at hp
        exact Option.some.inj (hp.symm.trans hq)

/-- A run of a command other than `tools` and `schema` sends its tool call. -/
theorem toolCall_of_sent {cli : Cli} (hw : cli.command.isWire = true) {p : String × Json}
    (hp : p ∈ sentCalls (execute env cli).2.trace) :
    ∃ call, cli.command.toolCall = some call ∧ p = (call.1, .object call.2) := by
  obtain ⟨es, rep, hrun, hexec⟩ := execute_run env cli
  rw [hexec] at hp
  rcases hrun.sentCalls_cases with hnil | ⟨sent, hsent, hone⟩
  · rw [hnil] at hp
    cases hp
  · rw [hone, List.mem_singleton] at hp
    subst hp
    rw [call_eq_toolCall env hw, Option.map_eq_some_iff] at hsent
    obtain ⟨call, hcall, rfl⟩ := hsent
    exact ⟨call, hcall, rfl⟩

/-- Two command lines send the same tool call exactly when their commands are the same up to
the normal form of URIs, the two forms of the org-ql query, and the final effect of the
property flags. -/
theorem sentCall_eq_iff (env env' : Env) (cli cli' : Cli) (hw : cli.command.isWire = true)
    (hw' : cli'.command.isWire = true) (hq : cli.command.NoConflict)
    (hq' : cli'.command.NoConflict) (p p' : String × Json)
    (hp : p ∈ sentCalls (execute env cli).2.trace)
    (hp' : p' ∈ sentCalls (execute env' cli').2.trace) :
    p = p' ↔ SameCall cli.command cli'.command := by
  obtain ⟨call, hcall, rfl⟩ := toolCall_of_sent env hw hp
  obtain ⟨call', hcall', rfl⟩ := toolCall_of_sent env' hw' hp'
  rw [← toolCall_eq_iff hq hq' hcall hcall', Prod.mk.injEq, Json.object_inj, Prod.ext_iff]

/-- `org edit properties` that sets one key twice. -/
def setTwiceCli : Cli := ⟨"org-mcp", [], false, 30, .edit (.properties "id" ["a=1", "a=2"] [])⟩

/-- `org edit properties` that sets the same key to its last value. -/
def setOnceCli : Cli := ⟨"org-mcp", [], false, 30, .edit (.properties "org://id" ["a=2"] [])⟩

/-- The last value of a key and the prefix of a URI are all that is lost. -/
theorem sentCall_eq_properties : SameCall setTwiceCli.command setOnceCli.command :=
  (sentCall_eq_iff (Env.answering emptyContentEntry) (Env.answering emptyContentEntry)
    setTwiceCli setOnceCli rfl rfl trivial trivial
    ("org-set-properties", .object (.ofList
      [("properties", .object (.ofList [("a", .string "2")])), ("uri", .string "id")])) _
    (by decide +kernel) (by decide +kernel)).mp rfl

end OrgCli
