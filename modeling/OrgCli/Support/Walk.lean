import Mathlib.Data.List.TakeWhile

/-!
# `OrgCli.Support.Walk`: index walks with a stride

`walk` is the loop of a token scanner. It looks at the token under an index, stops at the
first hit, and otherwise steps over the token and over the tokens that belong to it. Its
result has two layers: `none` is an access outside the list, `some none` is a walk that
ends without a hit, and `some (some j)` is a hit at `j`.

`Reached` is the relation the loop follows, free of the loop's own order of tests. The
theorems:

* `walk_cases`: a walk ends, without an access outside the list, and it finds the first hit
  among the reached indices. `walk_eq_hit_iff` and `walk_eq_miss_iff` are its two halves.
* `walk_block` and `walk_flatten`: a walk steps over a block that is one token with the
  tokens that belong to it, and over a sequence of such blocks.
* `walk_unit`: with no token stepped over, the hit is right behind the part without one.
  `exists_part` splits a list there.

`slice?` is the slice of a list between two indices, with `none` where the bounds are not
in order or not in the list. `slice?_of_append` reads it off the parts of the list.
-/

set_option autoImplicit false

namespace OrgCli.Support

variable {α : Type}

/-! ### Slices -/

/-- The slice of a list from `lo` to before `hi`, if both are bounds of it. -/
def slice? (xs : List α) (lo hi : Nat) : Option (List α) :=
  if lo ≤ hi ∧ hi ≤ xs.length then some ((xs.take hi).drop lo) else none

/-- The middle of three parts is the slice between its bounds. -/
theorem slice?_of_append {xs before part rest : List α} {lo hi : Nat}
    (hxs : xs = before ++ (part ++ rest)) (hlo : lo = before.length)
    (hhi : hi = lo + part.length) : slice? xs lo hi = some part := by
  subst hxs hlo hhi
  unfold slice?
  have hbounds : before.length ≤ before.length + part.length ∧
      before.length + part.length ≤ (before ++ (part ++ rest)).length := by
    simp only [List.length_append]
    omega
  rw [if_pos hbounds, ← List.append_assoc, ← List.length_append, List.take_left,
    List.drop_left]

/-- An element of a list stands between what is before it and what is behind it. -/
theorem exists_before {xs : List α} {i : Nat} {x : α} (h : xs[i]? = some x) :
    ∃ before rest, xs = before ++ x :: rest ∧ i = before.length := by
  obtain ⟨hlt, heq⟩ := List.getElem?_eq_some_iff.mp h
  refine ⟨xs.take i, xs.drop (i + 1), ?_, ?_⟩
  · rw [← heq, ← List.drop_eq_getElem_cons hlt, List.take_append_drop]
  · rw [List.length_take]
    omega

/-! ### The walk -/

variable (hit : α → Bool) (skip : α → Nat)

/-- The index of the first hit of a walk from `i`. A token that is no hit is stepped over,
together with the `skip` tokens that belong to it. -/
def walk (xs : List α) (i : Nat) : Option (Option Nat) :=
  if i < xs.length then
    match xs[i]? with
    | none => none
    | some x => if hit x then some (some i) else walk xs (i + 1 + skip x)
  else some none
termination_by xs.length - i

/-- The indices that a walk from `i` reaches when nothing stops it. -/
inductive Reached (xs : List α) : Nat → Nat → Prop
  | refl (i : Nat) : Reached xs i i
  | step {i j : Nat} {x : α} (hx : xs[i]? = some x) (h : Reached xs (i + 1 + skip x) j) :
      Reached xs i j

/-- No index that a walk from `i` reaches holds a hit. -/
def NoHit (xs : List α) (i : Nat) : Prop :=
  ∀ j x, Reached skip xs i j → xs[j]? = some x → hit x = false

/-- The first index that a walk from `i` reaches and that holds a hit. -/
structure FirstHit (xs : List α) (i j : Nat) : Prop where
  reached : Reached skip xs i j
  holds : ∃ x, xs[j]? = some x ∧ hit x = true
  first : ∀ k x, Reached skip xs i k → k < j → xs[k]? = some x → hit x = false

variable {hit skip}

/-- A walk only moves forward. -/
theorem Reached.le {xs : List α} {i j : Nat} (h : Reached skip xs i j) : i ≤ j := by
  induction h with
  | refl i => exact Nat.le_refl i
  | step hx h ih => omega

/-- An index that is reached is the start, or it is reached from the next position. -/
theorem Reached.cases_start {xs : List α} {i j : Nat} {x : α} (hx : xs[i]? = some x)
    (h : Reached skip xs i j) : j = i ∨ Reached skip xs (i + 1 + skip x) j := by
  cases h with
  | refl => exact Or.inl rfl
  | step hy h =>
      have hxy := Option.some.inj (hy.symm.trans hx)
      subst hxy
      exact Or.inr h

/-- One step of a walk. -/
theorem walk_token {xs : List α} {i : Nat} {x : α} (hx : xs[i]? = some x) :
    walk hit skip xs i = if hit x then some (some i) else walk hit skip xs (i + 1 + skip x) := by
  obtain ⟨hlt, _⟩ := List.getElem?_eq_some_iff.mp hx
  rw [walk, if_pos hlt, hx]

/-- A walk ends at the end of the list. -/
theorem walk_end {xs : List α} {i : Nat} (h : xs.length ≤ i) :
    walk hit skip xs i = some none := by
  rw [walk, if_neg (by omega)]

/-- A walk that starts at a hit finds it. -/
theorem FirstHit.here {xs : List α} {i : Nat} {x : α} (hx : xs[i]? = some x)
    (hhit : hit x = true) : FirstHit hit skip xs i i where
  reached := .refl i
  holds := ⟨x, hx, hhit⟩
  first := by
    intro k y hk hlt
    have := hk.le
    omega

/-- A first hit from the next position is one from here, when there is no hit here. -/
theorem FirstHit.step {xs : List α} {i j : Nat} {x : α} (hx : xs[i]? = some x)
    (hhit : hit x = false) (h : FirstHit hit skip xs (i + 1 + skip x) j) :
    FirstHit hit skip xs i j where
  reached := .step hx h.reached
  holds := h.holds
  first := by
    intro k y hk hlt hy
    rcases hk.cases_start hx with heq | hk
    · subst heq
      rw [hx] at hy
      obtain rfl := Option.some.inj hy
      exact hhit
    · exact h.first k y hk hlt hy

/-- A walk without a hit from the next position has none from here, when there is none
here. -/
theorem NoHit.step {xs : List α} {i : Nat} {x : α} (hx : xs[i]? = some x)
    (hhit : hit x = false) (h : NoHit hit skip xs (i + 1 + skip x)) :
    NoHit hit skip xs i := by
  intro k y hk hy
  rcases hk.cases_start hx with heq | hk
  · subst heq
    rw [hx] at hy
    obtain rfl := Option.some.inj hy
    exact hhit
  · exact h k y hk hy

/-- There is no hit from the end of the list on. -/
theorem NoHit.of_end {xs : List α} {i : Nat} (h : xs.length ≤ i) : NoHit hit skip xs i := by
  intro k y hk hy
  obtain ⟨hlt, _⟩ := List.getElem?_eq_some_iff.mp hy
  have := hk.le
  omega

/-- A walk ends without an access outside the list. It finds the first hit, or there is no
hit on its way. Induction on what is left of the list. -/
theorem walk_cases (hit : α → Bool) (skip : α → Nat) (xs : List α) (i : Nat) :
    (NoHit hit skip xs i ∧ walk hit skip xs i = some none) ∨
      ∃ j, FirstHit hit skip xs i j ∧ walk hit skip xs i = some (some j) := by
  induction hn : xs.length - i using Nat.strongRecOn generalizing i with
  | ind n ih =>
      by_cases hlt : i < xs.length
      · obtain ⟨x, hx⟩ : ∃ x, xs[i]? = some x := ⟨xs[i], List.getElem?_eq_getElem hlt⟩
        rw [walk_token hx]
        cases hhit : hit x with
        | true => exact Or.inr ⟨i, .here hx hhit, rfl⟩
        | false =>
            -- The rest of the walk is shorter, and it decides.
            have hrest := ih (xs.length - (i + 1 + skip x)) (by omega) (i + 1 + skip x) rfl
            rcases hrest with ⟨hno, hwalk⟩ | ⟨j, hfirst, hwalk⟩
            · exact Or.inl ⟨hno.step hx hhit, hwalk⟩
            · exact Or.inr ⟨j, hfirst.step hx hhit, hwalk⟩
      · have hend : xs.length ≤ i := by omega
        exact Or.inl ⟨.of_end hend, walk_end hend⟩

/-- There is at most one first hit. -/
theorem FirstHit.unique {xs : List α} {i j k : Nat} (hj : FirstHit hit skip xs i j)
    (hk : FirstHit hit skip xs i k) : j = k := by
  obtain ⟨x, hx, hhitx⟩ := hj.holds
  obtain ⟨y, hy, hhity⟩ := hk.holds
  -- The smaller one of two would be a hit before the other one.
  rcases Nat.lt_trichotomy j k with hlt | heq | hlt
  · have := hk.first j x hj.reached hlt hx
    rw [hhitx] at this
    cases this
  · exact heq
  · have := hj.first k y hk.reached hlt hy
    rw [hhity] at this
    cases this

/-- Where there is a first hit, there is a hit. -/
theorem FirstHit.not_noHit {xs : List α} {i j : Nat} (h : FirstHit hit skip xs i j) :
    ¬ NoHit hit skip xs i := by
  intro hno
  obtain ⟨x, hx, hhit⟩ := h.holds
  rw [hno j x h.reached hx] at hhit
  cases hhit

/-- A walk finds `j` exactly when `j` is the first hit. -/
theorem walk_eq_hit_iff (xs : List α) (i j : Nat) :
    walk hit skip xs i = some (some j) ↔ FirstHit hit skip xs i j := by
  rcases walk_cases hit skip xs i with ⟨hno, hwalk⟩ | ⟨k, hfirst, hwalk⟩
  · rw [hwalk]
    exact iff_of_false (by simp) (fun h => h.not_noHit hno)
  · rw [hwalk]
    constructor
    · intro h
      obtain rfl : k = j := by simpa using h
      exact hfirst
    · intro h
      rw [hfirst.unique h]

/-- A walk ends without a hit exactly when no reached index holds one. -/
theorem walk_eq_miss_iff (xs : List α) (i : Nat) :
    walk hit skip xs i = some none ↔ NoHit hit skip xs i := by
  rcases walk_cases hit skip xs i with ⟨hno, hwalk⟩ | ⟨k, hfirst, hwalk⟩
  · rw [hwalk]
    exact iff_of_true rfl hno
  · rw [hwalk]
    exact iff_of_false (by simp) hfirst.not_noHit

/-! ### Blocks -/

variable (hit skip) in
/-- A token that is no hit, with the tokens that belong to it. -/
def IsBlock (block : List α) : Prop :=
  ∃ x values, block = x :: values ∧ hit x = false ∧ skip x = values.length

/-- A walk stops at a hit under its start. -/
theorem walk_here (before rest : List α) {x : α} (hx : hit x = true) :
    walk hit skip (before ++ x :: rest) before.length = some (some before.length) := by
  rw [walk_eq_hit_iff]
  exact .here (by simp) hx

/-- A walk over tokens that are no hits finds nothing. -/
theorem walk_miss (before rest : List α) (h : ∀ x ∈ rest, hit x = false) :
    walk hit skip (before ++ rest) before.length = some none := by
  rw [walk_eq_miss_iff]
  intro k y hk hy
  -- What the walk reaches lies behind the first part.
  have hle := hk.le
  rw [List.getElem?_append_right hle] at hy
  exact h y (List.mem_of_getElem? hy)

/-- A walk steps over a block. -/
theorem walk_block (before rest : List α) {block : List α} (h : IsBlock hit skip block) :
    walk hit skip (before ++ (block ++ rest)) before.length
      = walk hit skip (before ++ (block ++ rest)) (before ++ block).length := by
  obtain ⟨x, values, rfl, hx, hskip⟩ := h
  have hhere : (before ++ (x :: values ++ rest))[before.length]? = some x := by simp
  rw [walk_token hhere, hx, hskip, List.length_append, List.length_cons]
  simp only [Bool.false_eq_true, if_false]
  congr 1
  omega

/-- A walk steps over a sequence of blocks. -/
theorem walk_flatten (before rest : List α) {blocks : List (List α)}
    (h : ∀ block ∈ blocks, IsBlock hit skip block) :
    walk hit skip (before ++ (blocks.flatten ++ rest)) before.length
      = walk hit skip (before ++ (blocks.flatten ++ rest)) (before ++ blocks.flatten).length := by
  induction blocks generalizing before with
  | nil => simp
  | cons block blocks ih =>
      obtain ⟨hblock, hblocks⟩ := List.forall_mem_cons.mp h
      have hstep := walk_block before (blocks.flatten ++ rest) hblock
      have hrest := ih (before ++ block) hblocks
      simp only [List.flatten_cons, List.append_assoc] at hstep hrest ⊢
      rw [hstep, hrest]

/-- Without tokens to step over, a walk finds the hit behind a part without one. -/
theorem walk_unit (before rest : List α) {part : List α} {x : α}
    (hpart : ∀ y ∈ part, hit y = false) (hx : hit x = true) :
    walk hit (fun _ => 0) (before ++ (part ++ x :: rest)) before.length
      = some (some (before ++ part).length) := by
  -- Each token of the part is a block of its own.
  have hblocks : ∀ block ∈ part.map ([·]), IsBlock hit (fun _ => 0) block := by
    intro block hmem
    obtain ⟨y, hy, rfl⟩ := List.mem_map.mp hmem
    exact ⟨y, [], rfl, hpart y hy, rfl⟩
  have hflat : (part.map ([·])).flatten = part := List.flatMap_singleton' part
  have hwalk := walk_flatten before (x :: rest) hblocks
  rw [hflat] at hwalk
  rw [hwalk, ← List.append_assoc]
  exact walk_here (before ++ part) rest hx

/-- A list is a part without a hit, followed by nothing or by a hit. -/
theorem exists_part (hit : α → Bool) (xs : List α) :
    ∃ part rest, xs = part ++ rest ∧ (∀ y ∈ part, hit y = false) ∧
      (rest = [] ∨ ∃ x tail, rest = x :: tail ∧ hit x = true) := by
  refine ⟨xs.takeWhile (!hit ·), xs.dropWhile (!hit ·),
    List.takeWhile_append_dropWhile.symm, ?_, ?_⟩
  · intro y hy
    simpa using List.mem_takeWhile_imp hy
  · cases hrest : xs.dropWhile (!hit ·) with
    | nil => exact Or.inl rfl
    | cons x tail =>
        have hhead := List.head?_dropWhile_not (!hit ·) xs
        exact Or.inr ⟨x, tail, rfl, by simpa [hrest] using hhead⟩

end OrgCli.Support
