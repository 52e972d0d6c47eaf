import Mathlib.Init

/-!
# `OrgCli.Support.EState`: running an `EStateM` program step by step

A bind in `EStateM` continues after a success and stops at a failure. `bind_of_ok` and
`bind_of_error` state this at a given start state, so that a proof can follow one run of a
program: it rewrites with the known result of the first step and goes on with the rest.
`bind_get` and `bind_set` are the cases where the first step reads or writes the state.
-/

set_option autoImplicit false

namespace OrgCli.Support

variable {ε σ α β : Type} {x : EStateM ε σ α} {f : α → EStateM ε σ β} {s s' : σ}

/-- After a step that succeeds, the run continues with the result. -/
theorem bind_of_ok {a : α} (h : x s = .ok a s') : (x >>= f) s = f a s' := by
  show EStateM.bind x f s = f a s'
  unfold EStateM.bind
  rw [h]

/-- A step that fails ends the run. -/
theorem bind_of_error {e : ε} (h : x s = .error e s') : (x >>= f) s = .error e s' := by
  show EStateM.bind x f s = .error e s'
  unfold EStateM.bind
  rw [h]

/-- A read of the state passes the state on. -/
theorem bind_get {f : σ → EStateM ε σ β} : (get >>= f) s = f s s :=
  bind_of_ok rfl

/-- A write to the state replaces it. -/
theorem bind_set {f : PUnit → EStateM ε σ β} : (set s' >>= f) s = f ⟨⟩ s' :=
  bind_of_ok rfl

end OrgCli.Support
