import Mathlib.Algebra.GroupWithZero.Nat
import Mathlib.Data.List.Induction

/-!
# `OrgCli.Support.Lts`: labelled transition systems and their invariants

An `Lts` has initial states and labelled steps. `Run M es s` says that `M` can reach `s`
along the labels `es`. A run grows at its end, so an induction on it appends one step to a
run that is already understood.

`Run.invariant` is the rule for safety: a property of the labels and the state that holds at
the start and is preserved by a step holds of every run. `Run.before` cuts a run at one of
its labels, so a property can be read at the moment before a step.

`Simulation.run` is the rule for refinement: when each step of one system is a step of
another, or invisible there, then each run is. `Run.length_le` is the rule for termination:
a potential that each step lowers, apart from what the label pays, bounds the length of a
run. `Path` is a run from a given state, and `Realisation.run` is the converse of
`Simulation.run`: when each step of one system is a path of another that shows the same, then
each run is a run there.

The module is about transition systems only. Nothing here names the program.
-/

set_option autoImplicit false

namespace OrgCli.Support

/-- A labelled transition system. -/
structure Lts (σ ε : Type) where
  init : σ → Prop
  step : σ → ε → σ → Prop

variable {σ ε : Type} {M : Lts σ ε}

/-- `M` can reach the state along the labels. -/
inductive Run (M : Lts σ ε) : List ε → σ → Prop
  | init {s : σ} (h : M.init s) : Run M [] s
  | step {es : List ε} {s s' : σ} {e : ε} (h : Run M es s) (hs : M.step s e s') :
      Run M (es ++ [e]) s'

namespace Run

/-- An invariant of the labels and the state: it holds at the start, a step preserves it,
and so it holds of every run. -/
theorem invariant {Inv : List ε → σ → Prop} (hinit : ∀ s, M.init s → Inv [] s)
    (hstep : ∀ es s e s', Inv es s → M.step s e s' → Inv (es ++ [e]) s')
    {es : List ε} {s : σ} (h : Run M es s) : Inv es s := by
  induction h with
  | init h => exact hinit _ h
  | step _ hs ih => exact hstep _ _ _ _ ih hs

/-- The first part of a run is a run. -/
theorem of_append {es : List ε} (fs : List ε) {s : σ} (h : Run M (es ++ fs) s) :
    ∃ s', Run M es s' := by
  induction fs using List.reverseRecOn generalizing s with
  | nil =>
      rw [List.append_nil] at h
      exact ⟨s, h⟩
  | append_singleton fs f ih =>
      -- The run ends with `f`, so without its last step it is a run of the shorter list.
      rw [← List.append_assoc] at h
      generalize hgs : es ++ fs ++ [f] = gs at h
      cases h with
      | init h => simp at hgs
      | step h hs =>
          obtain ⟨rfl, _⟩ := List.append_inj' hgs rfl
          exact ih h

/-- A run that contains a label takes a step with it, from a state that the labels before
it reach. -/
theorem before {es fs : List ε} {e : ε} {s : σ} (h : Run M (es ++ e :: fs) s) :
    ∃ p q, Run M es p ∧ M.step p e q := by
  -- The first part of the run that ends with `e`, taken apart at its last step.
  rw [← List.singleton_append, ← List.append_assoc] at h
  obtain ⟨q, hq⟩ := of_append fs h
  generalize hgs : es ++ [e] = gs at hq
  cases hq with
  | init h => simp at hgs
  | step h hs =>
      obtain ⟨rfl, heq⟩ := List.append_inj' hgs rfl
      obtain rfl := List.singleton_inj.mp heq
      exact ⟨_, _, h, hs⟩

/-- The rule for termination. Each step that a run takes lowers the potential, or its label
pays for what it adds, so the length is bounded by the first potential and the payments. -/
theorem length_le {pot : σ → Nat} {pay : ε → Nat} {bound : Nat}
    (hinit : ∀ s, M.init s → pot s ≤ bound)
    (hstep : ∀ es s e s', Run M es s → M.step s e s' → pot s' + 1 ≤ pot s + pay e)
    {es : List ε} {s : σ} (h : Run M es s) :
    es.length + pot s ≤ bound + (es.map pay).sum := by
  induction h with
  | init h =>
      have := hinit _ h
      simpa using this
  | step hrun hs ih =>
      have := hstep _ _ _ _ hrun hs
      simp only [List.length_append, List.length_singleton, List.map_append, List.map_cons,
        List.map_nil, List.sum_append, List.sum_singleton]
      omega

end Run

/-! ### Refinement -/

/-- A forward simulation along `R`. A step of `M` whose label shows as `d` is matched by a
step of `N` with `d`, and a step whose label shows as nothing leaves the state of `N`. -/
structure Simulation {τ δ : Type} (M : Lts σ ε) (N : Lts τ δ) (shown : ε → Option δ)
    (R : σ → τ → Prop) : Prop where
  init : ∀ s, M.init s → ∃ t, N.init t ∧ R s t
  hidden : ∀ s e s' t, R s t → M.step s e s' → shown e = none → R s' t
  visible : ∀ s e s' t d, R s t → M.step s e s' → shown e = some d →
    ∃ t', N.step t d t' ∧ R s' t'

/-- A simulation maps the runs of one system to runs of the other. -/
theorem Simulation.run {τ δ : Type} {N : Lts τ δ} {shown : ε → Option δ} {R : σ → τ → Prop}
    (hsim : Simulation M N shown R) {es : List ε} {s : σ} (h : Run M es s) :
    ∃ t, Run N (es.filterMap shown) t ∧ R s t := by
  induction h with
  | init h =>
      obtain ⟨t, ht, hR⟩ := hsim.init _ h
      exact ⟨t, .init ht, hR⟩
  | @step es s s' e _ hs ih =>
      obtain ⟨t, ht, hR⟩ := ih
      rw [List.filterMap_append]
      cases hshown : shown e with
      | none =>
          refine ⟨t, ?_, hsim.hidden _ _ _ _ hR hs hshown⟩
          simpa [hshown] using ht
      | some d =>
          obtain ⟨t', hstep, hR'⟩ := hsim.visible _ _ _ _ d hR hs hshown
          refine ⟨t', ?_, hR'⟩
          simpa [hshown] using ht.step hstep

/-! ### Runs from a given state -/

/-- `M` goes from one state to the other along the labels. -/
inductive Path (M : Lts σ ε) : σ → List ε → σ → Prop
  | nil (s : σ) : Path M s [] s
  | cons {s s' t : σ} {e : ε} {es : List ε} (hs : M.step s e s') (h : Path M s' es t) :
      Path M s (e :: es) t

/-- A path and a path from its end are one path. -/
theorem Path.append {s t u : σ} {es fs : List ε} (h : Path M s es t) (h' : Path M t fs u) :
    Path M s (es ++ fs) u := by
  induction h with
  | nil s => exact h'
  | cons hs _ ih => exact .cons hs (ih h')

/-- A run and a path from its end are one run. -/
theorem Run.extend {es fs : List ε} {s t : σ} (h : Run M es s) (h' : Path M s fs t) :
    Run M (es ++ fs) t := by
  induction h' generalizing es with
  | nil s =>
      rw [List.append_nil]
      exact h
  | @cons s s' t e fs hs _ ih =>
      have hrun := ih (h.step hs)
      rw [List.append_assoc] at hrun
      exact hrun

/-- The converse of a simulation along `R`: every step of `N` is a path of `M` that shows
the label of the step and nothing else. -/
structure Realisation {τ δ : Type} (N : Lts τ δ) (M : Lts σ ε) (shown : ε → Option δ)
    (R : σ → τ → Prop) : Prop where
  init : ∀ t, N.init t → ∃ s, M.init s ∧ R s t
  step : ∀ s t d t', R s t → N.step t d t' →
    ∃ es s', Path M s es s' ∧ es.filterMap shown = [d] ∧ R s' t'

/-- A realisation maps the runs of `N` to runs of `M` that show the same labels. -/
theorem Realisation.run {τ δ : Type} {N : Lts τ δ} {shown : ε → Option δ} {R : σ → τ → Prop}
    (hreal : Realisation N M shown R) {ds : List δ} {t : τ} (h : Run N ds t) :
    ∃ es s, Run M es s ∧ es.filterMap shown = ds ∧ R s t := by
  induction h with
  | init h =>
      obtain ⟨s, hs, hR⟩ := hreal.init _ h
      exact ⟨[], s, .init hs, rfl, hR⟩
  | @step ds t t' d _ hs ih =>
      obtain ⟨es, s, hrun, hshown, hR⟩ := ih
      obtain ⟨fs, s', hpath, hshown', hR'⟩ := hreal.step _ _ _ _ hR hs
      refine ⟨es ++ fs, s', hrun.extend hpath, ?_, hR'⟩
      rw [List.filterMap_append, hshown, hshown']

end OrgCli.Support
