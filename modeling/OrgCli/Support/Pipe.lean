import Mathlib.Data.List.Basic

/-!
# `OrgCli.Support.Pipe`: a pipe of a bounded capacity

A `Pipe` holds what was put into it and not taken out yet, the oldest element first, and never
more than its capacity. A writer puts a part of what it has to write (`Puts`), and it blocks
when the pipe is full. A reader takes a part of what is there (`Takes`), and it blocks when the
pipe is empty. `exists_puts` and `exists_takes` say that nothing else blocks them.

Nothing here names the program.
-/

set_option autoImplicit false

namespace OrgCli.Support

/-- How much a pipe can hold, which is at least one element. -/
structure Capacity where
  size : Nat
  pos : 0 < size

/-- A pipe. -/
structure Pipe (α : Type) (cap : Capacity) where
  held : List α
  fits : held.length ≤ cap.size

namespace Pipe

variable {α : Type} {cap : Capacity}

/-- A new pipe. -/
def empty : Pipe α cap := ⟨[], Nat.zero_le _⟩

/-- No element can be put into the pipe. -/
def Full (p : Pipe α cap) : Prop := p.held.length = cap.size

/-- A writer puts the elements `chunk` into the pipe. -/
structure Puts (p : Pipe α cap) (chunk : List α) (p' : Pipe α cap) : Prop where
  chunk_ne : chunk ≠ []
  held : p'.held = p.held ++ chunk

/-- A reader takes the elements `chunk` out of the pipe. -/
structure Takes (p : Pipe α cap) (chunk : List α) (p' : Pipe α cap) : Prop where
  chunk_ne : chunk ≠ []
  held : p.held = chunk ++ p'.held

/-- A full pipe holds something. -/
theorem Full.held_ne {p : Pipe α cap} (h : p.Full) : p.held ≠ [] := by
  intro hnil
  have hlength : p.held.length = cap.size := h
  rw [hnil] at hlength
  exact absurd hlength.symm (Nat.ne_of_gt cap.pos)

/-- What there is room for can be put into the pipe. -/
theorem exists_puts_of_le {p : Pipe α cap} {chunk : List α} (hne : chunk ≠ [])
    (h : (p.held ++ chunk).length ≤ cap.size) : ∃ p', p.Puts chunk p' :=
  ⟨⟨p.held ++ chunk, h⟩, hne, rfl⟩

/-- A pipe that is not full takes one element. -/
theorem exists_puts {p : Pipe α cap} (h : ¬ p.Full) (a : α) : ∃ p', p.Puts [a] p' := by
  refine exists_puts_of_le (List.cons_ne_nil a []) ?_
  rw [List.length_append]
  exact Nat.lt_of_le_of_ne p.fits h

/-- A reader can take all that a pipe holds. -/
theorem exists_takes {p : Pipe α cap} (h : p.held ≠ []) :
    ∃ p', p.Takes p.held p' ∧ p'.held = [] :=
  ⟨empty, ⟨h, (List.append_nil _).symm⟩, rfl⟩

end Pipe

end OrgCli.Support
