import OrgCli.Proofs.Envelope
import OrgCli.Proofs.Registry

/-!
# `OrgCli.Proofs.Properties`: the object that `edit properties` sends

The flags of `edit properties` are two lists of strings that become one JSON object.
`WrittenAs` reads the `--set` strings as pairs, and `IsPropertiesOf` says what the object
holds for each key. `properties_sent` puts them together for a whole run.

The order of the flags matters only within the `--set` flags of one key.
`propertiesMap_congr` says so.
-/

set_option autoImplicit false

namespace OrgCli

open OrgCli.Mcp
open OrgCli.Support
open OrgCli.Uri (normalizeForTool)

variable (env : Env)

/-! ### The flags -/

/-- The strings are the pairs, each written as key, `=` and value, with no `=` in the key. -/
structure WrittenAs (sets : List String) (pairs : List (String × String)) : Prop where
  strings : sets = pairs.map fun p => p.1 ++ "=" ++ p.2
  keys : ∀ p ∈ pairs, '=' ∉ p.1.toList

/-- The pairs of a key, in order. -/
def pairsOf (pairs : List (String × String)) (key : String) : List (String × String) :=
  pairs.filter fun p => p.1 = key

/-- The value of the last pair of a key. -/
def lastValue (pairs : List (String × String)) (key : String) : Option String :=
  (pairsOf pairs key).getLast?.map Prod.snd

/-- The object maps the keys of `--unset` to null, every other key of `--set` to its last
value, and no further key. -/
structure IsPropertiesOf (m : Map) (pairs : List (String × String)) (unsets : List String) :
    Prop where
  unset : ∀ key, m.get? key = some .null ↔ key ∈ unsets
  set : ∀ key, key ∉ unsets → m.get? key = (lastValue pairs key).map .string
  keys : ∀ key, (m.get? key).isSome = true ↔ key ∈ unsets ∨ key ∈ pairs.map Prod.fst

/-- A string splits at its first `=` exactly when it is written as the two parts. -/
theorem splitOnce_eq_iff (s key value : String) :
    splitOnce s '=' = some (key, value) ↔ s = key ++ "=" ++ value ∧ '=' ∉ key.toList := by
  rw [splitOnce_eq_some_iff, ← String.toList_inj]
  simp [String.toList_append]

/-- The strings parse to the pairs exactly when they are written as these. -/
theorem setPairs_eq_some_iff (sets : List String) (pairs : List (String × String)) :
    setPairs sets = some pairs ↔ WrittenAs sets pairs := by
  induction sets generalizing pairs with
  | nil =>
      constructor
      · intro h
        cases h
        exact ⟨rfl, by simp⟩
      · intro h
        rw [List.map_eq_nil_iff.mp h.strings.symm]
        rfl
  | cons s sets ih =>
      rw [setPairs_cons]
      constructor
      · intro h
        obtain ⟨p, hp, hrest⟩ := Option.bind_eq_some_iff.mp h
        obtain ⟨rest, hpairs, rfl⟩ := Option.map_eq_some_iff.mp hrest
        obtain ⟨hs, hkey⟩ := (splitOnce_eq_iff s p.1 p.2).mp hp
        obtain ⟨hsets, hkeys⟩ := (ih rest).mp hpairs
        exact ⟨congrArg₂ List.cons hs hsets, List.forall_mem_cons.mpr ⟨hkey, hkeys⟩⟩
      · intro ⟨hstrings, hkeys⟩
        cases pairs with
        | nil => cases hstrings
        | cons p rest =>
            obtain ⟨hs, hsets⟩ := List.cons.inj hstrings
            obtain ⟨hkey, hrest⟩ := List.forall_mem_cons.mp hkeys
            have hp : splitOnce s '=' = some p := (splitOnce_eq_iff s p.1 p.2).mpr ⟨hs, hkey⟩
            have hpairs := (ih rest).mpr ⟨hsets, hrest⟩
            rw [hp, hpairs]
            rfl

/-- Looking from the end finds the last value. -/
theorem lookup_reverse (pairs : List (String × String)) (key : String) :
    lookup key pairs.reverse = lastValue pairs key := by
  unfold lastValue pairsOf
  rw [lookup_eq_find?, List.getLast?_filter]

/-- A key has a last value exactly when a pair has it. -/
theorem lastValue_isSome_iff (pairs : List (String × String)) (key : String) :
    (lastValue pairs key).isSome = true ↔ key ∈ pairs.map Prod.fst := by
  rw [← lookup_reverse, lookup_isSome_iff, List.map_reverse, List.mem_reverse]

/-- The object of the pairs: the unset keys, then the last values. -/
theorem get?_propertiesMap_pairs (pairs : List (String × String)) (unsets : List String)
    (key : String) :
    (propertiesMap pairs unsets).get? key
      = if key ∈ unsets then some .null else (lastValue pairs key).map .string := by
  rw [get?_propertiesMap_reverse, lookup_reverse]

/-- The object is the one of the flags. -/
theorem propertiesMap_isPropertiesOf (pairs : List (String × String)) (unsets : List String) :
    IsPropertiesOf (propertiesMap pairs unsets) pairs unsets where
  unset := by
    intro key
    rw [get?_propertiesMap_pairs]
    by_cases hmem : key ∈ unsets
    · simp [hmem]
    · -- A value that is set is a string, and no null.
      rw [if_neg hmem]
      cases lastValue pairs key <;> simp [hmem]
  set := by
    intro key hmem
    rw [get?_propertiesMap_pairs, if_neg hmem]
  keys := by
    intro key
    rw [get?_propertiesMap_pairs, ← lastValue_isSome_iff]
    by_cases hmem : key ∈ unsets
    · simp [hmem]
    · simp [hmem]

example : (propertiesMap [("a", "1"), ("b", "x=y"), ("a", "2")] ["c", "b"]).entries
    = [("a", .string "2"), ("b", .null), ("c", .null)] := by decide +kernel

/-- The object depends on the set of unset keys and, for each key, on its own pairs in
order. -/
theorem propertiesMap_congr {pairs pairs' : List (String × String)} {unsets unsets' : List String}
    (hpairs : ∀ key, pairsOf pairs key = pairsOf pairs' key)
    (hunsets : ∀ key, key ∈ unsets ↔ key ∈ unsets') :
    propertiesMap pairs unsets = propertiesMap pairs' unsets' := by
  refine SortedMap.ext_get? ?_
  intro key
  rw [get?_propertiesMap_pairs, get?_propertiesMap_pairs]
  unfold lastValue
  simp only [hpairs key, hunsets key]

/-! ### The run -/

/-- The command line with the command `edit properties`. -/
def Cli.editProperties (cli : Cli) (uri : String) (sets unsets : List String) : Cli :=
  { cli with command := .edit (.properties uri sets unsets) }

/-- The call of `edit properties`, with the object `m`. -/
def propertiesCall (uri : String) (m : Map) : String × Json :=
  ("org-set-properties", .object (.ofList [("uri", .string (normalizeForTool uri)),
    ("properties", .object m)]))

/-- The command makes the call with the object of its flags. -/
theorem call_editProperties (cli : Cli) (uri : String) {sets : List String}
    {pairs : List (String × String)} (h : WrittenAs sets pairs) (unsets : List String) :
    (cli.editProperties uri sets unsets).command.call env
      = some (propertiesCall uri (propertiesMap pairs unsets)) := by
  have hpairs := (setPairs_eq_some_iff sets pairs).mpr h
  show ((((setPairs sets).map fun pairs => ("org-set-properties",
    propertiesFields (normalizeForTool uri) pairs unsets)).map _).map _) = _
  rw [hpairs]
  rfl

/-- Strings that all have a `=` are written as pairs. -/
theorem exists_writtenAs {sets : List String} (h : ∀ s ∈ sets, '=' ∈ s.toList) :
    ∃ pairs, WrittenAs sets pairs := by
  cases hpairs : setPairs sets with
  | some pairs => exact ⟨pairs, (setPairs_eq_some_iff sets pairs).mp hpairs⟩
  | none =>
      obtain ⟨s, hs, hno⟩ := (setPairs_eq_none_iff sets).mp hpairs
      exact absurd (h s hs) hno

/-- A command line that fails its validation prints a usage error with the exit code 2 and
leaves no event. -/
theorem execute_localUsage {cli : Cli} (h : LocalUsage env cli.command) :
    EndsWithUsage (execute env cli).2 ∧ (execute env cli).1 = 2 ∧
      (execute env cli).2.trace = [] := by
  obtain ⟨es, rep, hrun, hexec⟩ := execute_run env cli
  rw [hexec]
  cases hrun with
  | report rep hp =>
      rcases planReport_cases env hp with ⟨hlocal, _⟩ | ⟨_, msg, rfl⟩
      · exact absurd h hlocal
      · exact ⟨⟨_, List.mem_singleton_self _, usageReport_errorKind 2 msg cli.compact⟩, rfl, rfl⟩
  | failed method params finish hp es e hc => exact absurd h (planExchange_cases env hp).1
  | connected method params finish hp es fs c hc r hr =>
      exact absurd h (planExchange_cases env hp).1

/-- `edit properties` sends exactly what its flags say. With a `--set` string that has no `=`
it is a usage error, and nothing is sent. Otherwise the strings are written as pairs. The run
attempts one spawn and sends the call with their object: once when the handshake succeeds, and
no other call. The object depends on the set of unset keys and on the pairs of each key only. -/
theorem properties_sent (cli : Cli) (uri : String) (sets unsets : List String) :
    ((∃ s ∈ sets, '=' ∉ s.toList) →
        EndsWithUsage (execute env (cli.editProperties uri sets unsets)).2 ∧
          (execute env (cli.editProperties uri sets unsets)).1 = 2 ∧
          (execute env (cli.editProperties uri sets unsets)).2.trace = []) ∧
      ((∀ s ∈ sets, '=' ∈ s.toList) → ∃ pairs m, WrittenAs sets pairs ∧
        IsPropertiesOf m pairs unsets ∧
        (∃ o, spawns (execute env (cli.editProperties uri sets unsets)).2.trace
          = [(cli.serverArgv, o)]) ∧
        (∀ call ∈ sentCalls (execute env (cli.editProperties uri sets unsets)).2.trace,
          call = propertiesCall uri m) ∧
        (HandshakeSucceeded env (execute env (cli.editProperties uri sets unsets)).2.trace →
          sentCalls (execute env (cli.editProperties uri sets unsets)).2.trace
            = [propertiesCall uri m]) ∧
        ∀ sets' unsets' pairs', WrittenAs sets' pairs' →
          (∀ key, pairsOf pairs key = pairsOf pairs' key) →
          (∀ key, key ∈ unsets ↔ key ∈ unsets') →
          (cli.editProperties uri sets' unsets').command.call env
            = some (propertiesCall uri m)) := by
  constructor
  · intro hmalformed
    exact execute_localUsage env hmalformed
  · intro hsets
    obtain ⟨pairs, hpairs⟩ := exists_writtenAs hsets
    have hcall := call_editProperties env cli uri hpairs unsets
    obtain ⟨es, rep, hrun, hexec⟩ := execute_run env (cli.editProperties uri sets unsets)
    rw [hexec]
    refine ⟨pairs, propertiesMap pairs unsets, hpairs,
      propertiesMap_isPropertiesOf pairs unsets, ?_, ?_, ?_, ?_⟩
    · refine hrun.spawn_cases.2 ?_ fun path hschema => by cases hschema
      rintro ⟨s, hs, hno⟩
      exact hno (hsets s hs)
    · intro call hsent
      rcases hrun.sentCalls_cases with hnil | ⟨sent, hcall', hone⟩
      · rw [hnil] at hsent
        cases hsent
      · rw [hone, List.mem_singleton] at hsent
        rw [hsent]
        exact Option.some.inj (hcall'.symm.trans hcall)
    · intro hshake
      exact hrun.sentCalls_eq env hshake hcall
    · intro sets' unsets' pairs' hpairs' hsame hunsets
      rw [call_editProperties env cli uri hpairs' unsets', propertiesMap_congr hsame hunsets]

end OrgCli
