import Mathlib.Data.List.Basic

/-!
# `OrgCli.Support.Lines`: cutting a list at a terminator

A line is what comes before the next terminator, with the terminator. The last line of a
list may lack it. `takeLine` takes one line and leaves the rest, as a reader does, and
`splitLines` is all lines of a list. `splitLines_eq` says that the second is the first, done
again and again, and `splitLines_flatten` that no element is lost. `takeLine_append` and
`splitLines_append` read back a line that was written with its terminator, and
`takeLine_append_of_mem` that a reader needs no more than the first terminator.
-/

set_option autoImplicit false

namespace OrgCli.Support

variable {α : Type} [DecidableEq α] (sep : α)

/-- The first line, and what comes after it. -/
def takeLine : List α → List α × List α
  | [] => ([], [])
  | a :: as => if a = sep then ([a], as) else (a :: (takeLine as).1, (takeLine as).2)

/-- All lines. -/
def splitLines : List α → List (List α)
  | [] => []
  | a :: as =>
      if a = sep then [a] :: splitLines as
      else
        match splitLines as with
        | [] => [[a]]
        | line :: rest => (a :: line) :: rest

/-- Splitting loses nothing. -/
theorem splitLines_flatten (as : List α) : (splitLines sep as).flatten = as := by
  induction as with
  | nil => rfl
  | cons a as ih =>
      unfold splitLines
      split
      · exact congrArg (a :: ·) ih
      · -- `a` joins the first line of `as`, or it is a line of its own.
        cases h : splitLines sep as with
        | nil =>
            rw [h] at ih
            exact congrArg (a :: ·) ih
        | cons line rest =>
            rw [h] at ih
            exact congrArg (a :: ·) ih

/-- The first line of a list that is not empty is not empty. -/
theorem takeLine_ne_nil {as : List α} (h : as ≠ []) : (takeLine sep as).1 ≠ [] := by
  cases as with
  | nil => exact absurd rfl h
  | cons a as =>
      unfold takeLine
      split <;> simp

/-- No line is empty. -/
theorem ne_nil_of_mem_splitLines {as line : List α} (h : line ∈ splitLines sep as) :
    line ≠ [] := by
  induction as generalizing line with
  | nil => cases h
  | cons a as ih =>
      unfold splitLines at h
      split at h
      · rcases List.mem_cons.mp h with rfl | h
        · exact List.cons_ne_nil _ _
        · exact ih h
      · cases hs : splitLines sep as with
        | nil =>
            rw [hs] at h
            obtain rfl := List.mem_singleton.mp h
            exact List.cons_ne_nil _ _
        | cons first rest =>
            rw [hs] at h ih
            rcases List.mem_cons.mp h with rfl | h
            · exact List.cons_ne_nil _ _
            · exact ih (List.mem_cons_of_mem _ h)

/-- The lines are the first line and the lines of the rest. -/
theorem splitLines_eq {as : List α} (h : as ≠ []) :
    splitLines sep as = (takeLine sep as).1 :: splitLines sep (takeLine sep as).2 := by
  induction as with
  | nil => exact absurd rfl h
  | cons a as ih =>
      by_cases ha : a = sep
      · simp only [splitLines, takeLine, if_pos ha]
      · -- The line goes on, so it starts with `a` and continues as the first line of `as`.
        simp only [splitLines, takeLine, if_neg ha]
        by_cases hnil : as = []
        · subst hnil
          rfl
        · rw [ih hnil]

/-- A list with its terminator is the first line of what it stands before. -/
theorem takeLine_append {l : List α} (h : sep ∉ l) (rest : List α) :
    takeLine sep (l ++ sep :: rest) = (l ++ [sep], rest) := by
  induction l with
  | nil => exact if_pos rfl
  | cons a l ih =>
      have ha : a ≠ sep := by
        intro heq
        exact h (heq ▸ List.mem_cons_self)
      have hl := ih fun hmem => h (List.mem_cons_of_mem _ hmem)
      show (if a = sep then _ else (a :: (takeLine sep (l ++ sep :: rest)).1,
        (takeLine sep (l ++ sep :: rest)).2)) = _
      rw [if_neg ha, hl]
      rfl

omit [DecidableEq α] in
/-- A list that starts with a line starts with it when it is cut behind a terminator. -/
theorem eq_append_of_mem {l as bs rest : List α} (h : sep ∉ l) (hmem : sep ∈ as)
    (heq : as ++ bs = l ++ sep :: rest) : ∃ cs, as = l ++ sep :: cs ∧ rest = cs ++ bs := by
  rcases List.append_eq_append_iff.mp heq with ⟨cs, rfl, hbs⟩ | ⟨cs, rfl, hcs⟩
  · -- The cut is in the line, before its terminator.
    exact absurd (List.mem_append_left cs hmem) h
  · cases cs with
    | nil =>
        rw [List.append_nil] at hmem
        exact absurd hmem h
    | cons c cs =>
        obtain ⟨hc, hrest⟩ := List.cons_eq_cons.mp hcs
        exact ⟨cs, by rw [hc], hrest⟩

/-- A list that holds a terminator has its first line in any longer list. -/
theorem takeLine_append_of_mem {as : List α} (h : sep ∈ as) (bs : List α) :
    takeLine sep (as ++ bs) = ((takeLine sep as).1, (takeLine sep as).2 ++ bs) := by
  obtain ⟨l, rest, rfl, hl⟩ := List.eq_append_cons_of_mem h
  rw [List.append_assoc, List.cons_append, takeLine_append sep hl, takeLine_append sep hl]

/-- A list with its terminator is one line, and the rest is split on its own. -/
theorem splitLines_append {l : List α} (h : sep ∉ l) (rest : List α) :
    splitLines sep (l ++ sep :: rest) = (l ++ [sep]) :: splitLines sep rest := by
  rw [splitLines_eq sep (by simp), takeLine_append sep h]

end OrgCli.Support
