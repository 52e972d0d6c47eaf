import OrgCli.Support.Text

/-!
# `OrgCli.Uri`: URI normalization

`normalizeForTool` and `validateOutlinePath` of `src/uri.rs`. A tool input must be bare,
and the `org://` prefix belongs to the resource layer of the server. The program accepts
both forms and strips one leading prefix before it sends a tool call.

`normalizeForTool_of_bare` and `normalizeForTool_prefixed` say what the two accepted forms
become. `startsWith_normalizeForTool` says when the result still has the prefix: exactly
when the input had it twice.
-/

set_option autoImplicit false

namespace OrgCli.Uri

open OrgCli.Support

/-- The prefix of the resource layer. -/
def orgScheme : String := "org://"

/-- `uri::OutlineUriError`. -/
inductive OutlineUriError where
  | orgUriNotAllowed

/-- The `Display` text of an `OutlineUriError`. -/
def OutlineUriError.toString : OutlineUriError → String
  | .orgUriNotAllowed => "org outline expects a file path, not an org:// URI"

/-- `uri::normalize_for_tool`: strip a leading `org://` prefix if present. -/
def normalizeForTool (input : String) : String := (stripPrefix input orgScheme).getD input

/-- `uri::validate_outline_path`: reject an input that starts with `org://`. -/
def validateOutlinePath (input : String) : Except OutlineUriError String :=
  if startsWith input orgScheme then .error .orgUriNotAllowed else .ok input

/-- A string without the `org://` prefix. -/
def IsBare (s : String) : Prop := startsWith s orgScheme = false

instance (s : String) : Decidable (IsBare s) := inferInstanceAs (Decidable (_ = false))

/-- Normalization leaves a bare string unchanged. -/
theorem normalizeForTool_of_bare {u : String} (h : IsBare u) : normalizeForTool u = u := by
  unfold normalizeForTool
  rw [(stripPrefix_eq_none_iff u orgScheme).mpr h, Option.getD_none]

/-- Normalization removes one prefix, whatever follows it. -/
theorem normalizeForTool_prefixed (u : String) : normalizeForTool (orgScheme ++ u) = u := by
  unfold normalizeForTool
  rw [(stripPrefix_eq_some_iff _ _ u).mpr rfl, Option.getD_some]

/-- The normalized string starts with the prefix exactly when the input starts with the
prefix twice. -/
theorem startsWith_normalizeForTool (u : String) :
    startsWith (normalizeForTool u) orgScheme = startsWith u (orgScheme ++ orgScheme) := by
  by_cases h : IsBare u
  · rw [normalizeForTool_of_bare h, h, eq_comm, ← Bool.not_eq_true, startsWith_iff]
    rintro ⟨t, rfl⟩
    -- Two prefixes are in particular one.
    unfold IsBare at h
    rw [String.append_assoc, ← Bool.not_eq_true, startsWith_iff] at h
    exact h ⟨_, rfl⟩
  · obtain ⟨t, rfl⟩ := (startsWith_iff u orgScheme).mp (Bool.of_not_eq_false h)
    rw [normalizeForTool_prefixed, startsWith_append]

/-- A second normalization changes nothing exactly when the string is bare. -/
theorem normalizeForTool_eq_self_iff (s : String) : normalizeForTool s = s ↔ IsBare s := by
  constructor
  · intro hs
    by_contra h
    obtain ⟨t, rfl⟩ := (startsWith_iff s orgScheme).mp (Bool.of_not_eq_false h)
    rw [normalizeForTool_prefixed] at hs
    -- A string is not longer than itself.
    have hlen := congrArg String.length hs
    rw [String.length_append] at hlen
    have : orgScheme.length = 6 := rfl
    omega
  · exact normalizeForTool_of_bare

example : normalizeForTool "org://file#H1/H2" = "file#H1/H2" := by decide

end OrgCli.Uri
