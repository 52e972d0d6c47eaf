import Mathlib.Data.String.Basic
import Mathlib.Data.List.TakeWhile

/-!
# `OrgCli.Support.Text`: prefixes, splitting and trimming of strings

The string operations of Rust's standard library that the program uses, on the list of
characters of a string. A Rust string is a sequence of Unicode scalar values, and so is
a Lean string. `startsWith` and `stripPrefix` are `str::starts_with` and
`str::strip_prefix`. `splitOnce` is a split at the first occurrence of a character, and
`trim` is `str::trim`.

`stripPrefix_eq_some_iff` and `startsWith_iff` reduce both prefix operations to the
equation `s = p ++ t`, which the proofs about them use. `splitOnce_eq_none_iff` says which
strings do not split, and `splitOnce_eq_some_iff` what the parts of the others are.
-/

set_option autoImplicit false

namespace OrgCli.Support

/-- `str::strip_prefix`: the rest of `s` after `p`. -/
def stripPrefix (s p : String) : Option String :=
  (s.toList.dropPrefix? p.toList).map String.ofList

/-- `str::starts_with`. -/
def startsWith (s p : String) : Bool := p.toList.isPrefixOf s.toList

/-- The parts of `s` before and after the first `c`. -/
def splitOnce (s : String) (c : Char) : Option (String × String) :=
  match s.toList.dropWhile (· ≠ c) with
  | [] => none
  -- The rest starts with the separator, which belongs to neither part.
  | _ :: rest => some (String.ofList (s.toList.takeWhile (· ≠ c)), String.ofList rest)

/-- `char::is_whitespace`: the Unicode property `White_Space`. -/
def isWhitespace (c : Char) : Bool :=
  let n := c.toNat
  -- Tab to carriage return, the space, and the spaces and separators beyond ASCII.
  (9 ≤ n && n ≤ 13) || n = 0x20 || n = 0x85 || n = 0xA0 || n = 0x1680 ||
    (0x2000 ≤ n && n ≤ 0x200A) || n = 0x2028 || n = 0x2029 || n = 0x202F || n = 0x205F ||
    n = 0x3000

/-- `str::trim`: the string without leading and trailing white space. -/
def trim (s : String) : String :=
  String.ofList ((s.toList.dropWhile isWhitespace).reverse.dropWhile isWhitespace).reverse

/-- Stripping `p` from `s` leaves `t` exactly when `s` is `p` followed by `t`. -/
theorem stripPrefix_eq_some_iff (s p t : String) : stripPrefix s p = some t ↔ s = p ++ t := by
  unfold stripPrefix
  rw [Option.map_eq_some_iff]
  constructor
  · rintro ⟨l, hl, rfl⟩
    -- `dropPrefix?` finds characters that are equal by `==` to those of `p`.
    obtain ⟨p', hp', hbeq⟩ := List.dropPrefix?_eq_some_iff.mp hl
    have hpp : p' = p.toList := by simpa using hbeq
    apply String.toList_injective
    rw [hp', hpp, String.toList_append, String.toList_ofList]
  · intro h
    subst h
    refine ⟨t.toList, List.dropPrefix?_eq_some_iff.mpr ⟨p.toList, ?_, by simp⟩, by simp⟩
    rw [String.toList_append]

/-- A string starts with `p` exactly when it is `p` followed by something. -/
theorem startsWith_iff (s p : String) : startsWith s p = true ↔ ∃ t, s = p ++ t := by
  unfold startsWith
  rw [List.isPrefixOf_iff_prefix]
  constructor
  · rintro ⟨l, hl⟩
    refine ⟨String.ofList l, String.toList_injective ?_⟩
    rw [String.toList_append, String.toList_ofList, hl]
  · rintro ⟨t, rfl⟩
    exact ⟨t.toList, by rw [String.toList_append]⟩

/-- Stripping fails exactly when the string does not start with the prefix. -/
theorem stripPrefix_eq_none_iff (s p : String) :
    stripPrefix s p = none ↔ startsWith s p = false := by
  rw [Option.eq_none_iff_forall_ne_some, ← Bool.not_eq_true, startsWith_iff, not_exists]
  exact forall_congr' fun t => not_congr (stripPrefix_eq_some_iff s p t)

/-- A common first part of two strings can be dropped from a prefix test. -/
theorem startsWith_append (p s q : String) : startsWith (p ++ s) (p ++ q) = startsWith s q := by
  rw [Bool.eq_iff_iff, startsWith_iff, startsWith_iff]
  refine exists_congr ?_
  intro t
  rw [← String.toList_inj, ← String.toList_inj]
  simp only [String.toList_append, List.append_assoc, List.append_cancel_left_eq]

/-- A string splits at `c` exactly when it has a `c`. -/
theorem splitOnce_eq_none_iff (s : String) (c : Char) :
    splitOnce s c = none ↔ c ∉ s.toList := by
  have hdrop : s.toList.dropWhile (· ≠ c) = [] ↔ c ∉ s.toList := by
    rw [List.dropWhile_eq_nil_iff]
    constructor
    · intro h hc
      simpa using h c hc
    · intro hc x hx
      have hne : x ≠ c := by
        intro hxc
        exact hc (hxc ▸ hx)
      simpa using hne
  unfold splitOnce
  rw [← hdrop]
  cases s.toList.dropWhile (· ≠ c) <;> simp

/-- A string splits at `c` into `before` and `after` exactly when it is `before`, a `c` and
`after`, and `before` has no `c`. -/
theorem splitOnce_eq_some_iff (s : String) (c : Char) (before after : String) :
    splitOnce s c = some (before, after) ↔
      s.toList = before.toList ++ c :: after.toList ∧ c ∉ before.toList := by
  unfold splitOnce
  constructor
  · intro h
    cases hdrop : s.toList.dropWhile (· ≠ c) with
    | nil =>
        rw [hdrop] at h
        cases h
    | cons x rest =>
        rw [hdrop] at h
        obtain ⟨rfl, rfl⟩ := Prod.mk.inj (Option.some.inj h)
        -- The rest starts with the first `c`.
        have hx : x = c := by
          have hhead := List.head?_dropWhile_not (· ≠ c) s.toList
          rw [hdrop] at hhead
          simpa using hhead
        have hall := List.takeWhile_append_dropWhile (p := (· ≠ c)) (l := s.toList)
        rw [hdrop, hx] at hall
        rw [String.toList_ofList, String.toList_ofList]
        refine ⟨hall.symm, ?_⟩
        intro hc
        simpa using List.mem_takeWhile_imp hc
  · intro ⟨hs, hc⟩
    have hbefore : ∀ x ∈ before.toList, (decide (x ≠ c)) = true := by
      intro x hx
      have hne : x ≠ c := by
        intro hxc
        exact hc (hxc ▸ hx)
      simpa using hne
    rw [hs, List.dropWhile_append_of_pos hbefore, List.takeWhile_append_of_pos hbefore]
    simp

end OrgCli.Support
