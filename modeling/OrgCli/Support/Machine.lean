import Mathlib.Init

/-!
# `OrgCli.Support.Machine`: a process that reacts to its inputs

A `Machine` takes one input after the other. Each input changes its state and makes some
outputs. A state can be a halt: there the process stops, and what is still sent to it goes
nowhere. `feed` sends a list of inputs, and `feed_append` cuts such a list anywhere.

Nothing here names the program.
-/

set_option autoImplicit false

namespace OrgCli.Support

/-- A process with states `σ`, inputs `α` and outputs `β`. -/
structure Machine (σ α β : Type) where
  /-- The state after an input, and the outputs. -/
  handle : σ → α → σ × List β
  /-- The process stops in this state. -/
  halted : σ → Bool

namespace Machine

variable {σ α β : Type} (M : Machine σ α β)

/-- One input. After a halt it has no effect. -/
def react (s : σ) (a : α) : σ × List β := if M.halted s then (s, []) else M.handle s a

/-- A list of inputs, with all of their outputs in order. -/
def feed (s : σ) : List α → σ × List β
  | [] => (s, [])
  | a :: as => ((feed (M.react s a).1 as).1, (M.react s a).2 ++ (feed (M.react s a).1 as).2)

variable {M} {s : σ}

@[simp] theorem feed_nil : M.feed s [] = (s, []) := rfl

theorem feed_cons (a : α) (as : List α) :
    M.feed s (a :: as)
      = ((M.feed (M.react s a).1 as).1, (M.react s a).2 ++ (M.feed (M.react s a).1 as).2) := rfl

/-- A process that has not halted handles its input. -/
theorem react_of_not (h : M.halted s = false) (a : α) : M.react s a = M.handle s a :=
  if_neg (by simp [h])

/-- A halt is final. -/
theorem feed_of_halted (h : M.halted s = true) (as : List α) : M.feed s as = (s, []) := by
  induction as with
  | nil => rfl
  | cons a as ih =>
      have hreact : M.react s a = (s, []) := if_pos h
      unfold feed
      rw [hreact, ih]
      rfl

/-- The inputs of two lists are handled one list after the other. -/
theorem feed_append (as bs : List α) :
    M.feed s (as ++ bs)
      = ((M.feed (M.feed s as).1 bs).1, (M.feed s as).2 ++ (M.feed (M.feed s as).1 bs).2) := by
  induction as generalizing s with
  | nil => rfl
  | cons a as ih =>
      show ((M.feed (M.react s a).1 (as ++ bs)).1,
        (M.react s a).2 ++ (M.feed (M.react s a).1 (as ++ bs)).2) = _
      rw [ih, ← List.append_assoc]
      rfl

/-- One input is its reaction. -/
theorem feed_singleton (a : α) : M.feed s [a] = M.react s a := by
  show ((M.react s a).1, (M.react s a).2 ++ []) = _
  rw [List.append_nil]

end Machine

end OrgCli.Support
