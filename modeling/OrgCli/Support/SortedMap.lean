import Mathlib.Order.Lattice
import Mathlib.Data.List.Basic

/-!
# `OrgCli.Support.SortedMap`: finite maps as sorted entry lists

A `SortedMap κ ν` is a list of entries whose keys are strictly increasing, so it holds
each key at most once and has one representation for each finite map. It is the model of
an ordered tree map: `insert` replaces the value of a key that is present, and iteration
is in key order.

The theory rests on two facts. `get?_insert` reads an inserted map. `ext_get?` says that
two maps with the same lookups are the same map, so an equation between maps is proved or
used one key at a time. `get?_foldl_insert` and `get?_ofList` extend the first fact to a
run of insertions, where the last value of a key wins.

`ofFields` builds a map from a list of optional fields, where an absent field leaves no
entry. With distinct names, `get?_ofFields` reads a field back and `ofFields_inj` recovers
the whole list from the map.

The module is about finite maps only. Nothing here names the program.
-/

set_option autoImplicit false

namespace OrgCli.Support

variable {κ ν : Type} [LinearOrder κ]

/-! ### Entry lists -/

/-- The value of the first entry with the key `k`. -/
def lookup (k : κ) : List (κ × ν) → Option ν
  | [] => none
  | (k', v) :: es => if k = k' then some v else lookup k es

/-- Insertion in key order. The value of a key that is present is replaced. -/
def insertEntry (k : κ) (v : ν) : List (κ × ν) → List (κ × ν)
  | [] => [(k, v)]
  | (k', v') :: es =>
      if k < k' then (k, v) :: (k', v') :: es
      else if k = k' then (k, v) :: es
      else (k', v') :: insertEntry k v es

@[simp] theorem lookup_nil (k : κ) : lookup k ([] : List (κ × ν)) = none := rfl

@[simp] theorem lookup_cons (k k' : κ) (v : ν) (es : List (κ × ν)) :
    lookup k ((k', v) :: es) = if k = k' then some v else lookup k es := rfl

/-- A lookup in a concatenation reads the first list, then the second. -/
theorem lookup_append (k : κ) (es fs : List (κ × ν)) :
    lookup k (es ++ fs) = (lookup k es).or (lookup k fs) := by
  induction es with
  | nil => simp
  | cons e es ih =>
      obtain ⟨k', v⟩ := e
      by_cases hk : k = k'
      · simp [hk]
      · simp [hk, ih]

/-- A key has a value exactly when it is the key of an entry. -/
theorem lookup_isSome_iff (k : κ) (es : List (κ × ν)) :
    (lookup k es).isSome = true ↔ k ∈ es.map Prod.fst := by
  induction es with
  | nil => simp
  | cons e es ih =>
      obtain ⟨k', v⟩ := e
      by_cases hk : k = k'
      · simp [hk]
      · simp [hk, ih]

/-- A function on the values can be applied after the lookup. -/
theorem lookup_map {μ : Type} (f : ν → μ) (k : κ) (es : List (κ × ν)) :
    lookup k (es.map fun e => (e.1, f e.2)) = (lookup k es).map f := by
  induction es with
  | nil => rfl
  | cons e es ih =>
      obtain ⟨k', v⟩ := e
      by_cases hk : k = k'
      · simp [hk]
      · simp [hk, ih]

/-- A lookup finds the first entry with the key. -/
theorem lookup_eq_find? (k : κ) (es : List (κ × ν)) :
    lookup k es = (es.find? fun e => e.1 = k).map Prod.snd := by
  induction es with
  | nil => rfl
  | cons e es ih =>
      obtain ⟨k', v⟩ := e
      rw [lookup_cons, List.find?_cons]
      by_cases hk : k = k'
      · simp [hk]
      · simp [hk, Ne.symm hk, ih]

/-- The inserted key has the inserted value, and every other key keeps its own. -/
theorem lookup_insertEntry (k k' : κ) (v : ν) (es : List (κ × ν)) :
    lookup k' (insertEntry k v es) = if k' = k then some v else lookup k' es := by
  induction es with
  | nil => rfl
  | cons e es ih =>
      obtain ⟨k'', v''⟩ := e
      unfold insertEntry
      by_cases hlt : k < k''
      · -- The new entry is the head, so the lookup reads it first.
        rw [if_pos hlt, lookup_cons]
      · rw [if_neg hlt]
        by_cases heq : k = k''
        · -- The new entry replaces the head.
          subst heq
          by_cases hk : k' = k <;> simp [hk]
        · -- The head stays, and its key is not the inserted one.
          rw [if_neg heq, lookup_cons, ih, lookup_cons]
          by_cases hk : k' = k
          · subst hk
            simp [heq]
          · simp [hk]

/-- The keys of an insertion are the inserted key and the old ones. -/
theorem mem_keys_insertEntry {k k' : κ} {v : ν} {es : List (κ × ν)}
    (h : k' ∈ (insertEntry k v es).map Prod.fst) : k' = k ∨ k' ∈ es.map Prod.fst := by
  rw [← lookup_isSome_iff, lookup_insertEntry] at h
  by_cases hk : k' = k
  · exact Or.inl hk
  · rw [if_neg hk, lookup_isSome_iff] at h
    exact Or.inr h

/-- Insertion keeps the keys strictly increasing. -/
theorem sorted_insertEntry (k : κ) (v : ν) (es : List (κ × ν))
    (h : (es.map Prod.fst).Pairwise (· < ·)) :
    ((insertEntry k v es).map Prod.fst).Pairwise (· < ·) := by
  induction es with
  | nil => simp [insertEntry]
  | cons e es ih =>
      obtain ⟨k', v'⟩ := e
      rw [List.map_cons, List.pairwise_cons] at h
      obtain ⟨hhead, htail⟩ := h
      simp only [insertEntry]
      split_ifs with hlt heq
      · -- A key below the head is below the whole list.
        rw [List.map_cons, List.pairwise_cons]
        refine ⟨?_, List.pairwise_cons.mpr ⟨hhead, htail⟩⟩
        intro a ha
        rcases List.mem_cons.mp ha with rfl | ha
        · exact hlt
        · exact lt_trans hlt (hhead a ha)
      · subst heq
        exact List.pairwise_cons.mpr ⟨hhead, htail⟩
      · -- The head is below the inserted key and below the rest.
        rw [List.map_cons, List.pairwise_cons]
        refine ⟨?_, ih htail⟩
        intro a ha
        rcases mem_keys_insertEntry ha with rfl | ha
        · exact lt_of_le_of_ne (not_lt.mp hlt) (Ne.symm heq)
        · exact hhead a ha

/-- A key below every key of the list has no value. -/
private theorem lookup_eq_none_of_lt {k : κ} {es : List (κ × ν)}
    (h : ∀ a ∈ es.map Prod.fst, k < a) : lookup k es = none := by
  rw [← Option.not_isSome_iff_eq_none, lookup_isSome_iff]
  intro hk
  exact lt_irrefl k (h k hk)

/-- The head key of a sorted list is at most every key with a value. -/
private theorem head_le_of_isSome {k a : κ} {v : ν} {es : List (κ × ν)}
    (h : ∀ b ∈ es.map Prod.fst, k < b) (ha : (lookup a ((k, v) :: es)).isSome = true) :
    k ≤ a := by
  rw [lookup_isSome_iff, List.map_cons, List.mem_cons] at ha
  rcases ha with rfl | ha
  · exact le_refl _
  · exact le_of_lt (h a ha)

/-- Two sorted entry lists with the same lookups are equal. Induction on the first list. -/
theorem entries_ext :
    ∀ (es fs : List (κ × ν)), (es.map Prod.fst).Pairwise (· < ·) →
      (fs.map Prod.fst).Pairwise (· < ·) → (∀ k, lookup k es = lookup k fs) → es = fs := by
  intro es
  induction es with
  | nil =>
      intro fs _ _ h
      cases fs with
      | nil => rfl
      | cons f fs => exact absurd (h f.1) (by simp [lookup])
  | cons e es ih =>
      intro fs hes hfs h
      obtain ⟨k, v⟩ := e
      cases fs with
      | nil => exact absurd (h k) (by simp)
      | cons f fs =>
          obtain ⟨k', v'⟩ := f
          obtain ⟨hes, hes'⟩ := List.pairwise_cons.mp hes
          obtain ⟨hfs, hfs'⟩ := List.pairwise_cons.mp hfs
          -- Each head key has a value in the other list, so neither is below the other.
          have hk : k = k' :=
            le_antisymm (head_le_of_isSome hes (by rw [h k']; simp))
              (head_le_of_isSome hfs (by rw [← h k]; simp))
          subst hk
          have hv : v = v' := by simpa using h k
          subst hv
          have htail : es = fs := by
            refine ih fs hes' hfs' ?_
            intro a
            by_cases ha : a = k
            · -- The head key is in neither tail.
              subst ha
              rw [lookup_eq_none_of_lt hes, lookup_eq_none_of_lt hfs]
            · simpa [ha] using h a
          rw [htail]

/-! ### The map -/

/-- A finite map: entries with strictly increasing keys. -/
structure SortedMap (κ ν : Type) [LinearOrder κ] where
  /-- The entries, in key order. -/
  entries : List (κ × ν)
  /-- The keys are strictly increasing. -/
  sorted : (entries.map Prod.fst).Pairwise (· < ·)

namespace SortedMap

instance [DecidableEq ν] : DecidableEq (SortedMap κ ν) := fun m n =>
  decidable_of_iff (m.entries = n.entries) (by cases m; cases n; simp)

/-- The empty map. -/
def empty : SortedMap κ ν := ⟨[], List.Pairwise.nil⟩

/-- The value of a key. -/
def get? (m : SortedMap κ ν) (k : κ) : Option ν := lookup k m.entries

/-- The map with the value `v` at `k`. An old value of `k` is replaced. -/
def insert (m : SortedMap κ ν) (k : κ) (v : ν) : SortedMap κ ν :=
  ⟨insertEntry k v m.entries, sorted_insertEntry k v m.entries m.sorted⟩

/-- The map of a list of entries, inserted from left to right. -/
def ofList (es : List (κ × ν)) : SortedMap κ ν :=
  es.foldl (fun m e => m.insert e.1 e.2) empty

@[simp] theorem get?_empty (k : κ) : (empty : SortedMap κ ν).get? k = none := rfl

@[simp] theorem get?_insert (m : SortedMap κ ν) (k k' : κ) (v : ν) :
    (m.insert k v).get? k' = if k' = k then some v else m.get? k' :=
  lookup_insertEntry k k' v m.entries

/-- Maps with the same lookups are equal. -/
theorem ext_get? {m n : SortedMap κ ν} (h : ∀ k, m.get? k = n.get? k) : m = n := by
  obtain ⟨es, hes⟩ := m
  obtain ⟨fs, hfs⟩ := n
  have : es = fs := entries_ext es fs hes hfs h
  subst this
  rfl

/-- After a run of insertions, a key has its last inserted value, or its old one. -/
theorem get?_foldl_insert (es : List (κ × ν)) (m : SortedMap κ ν) (k : κ) :
    (es.foldl (fun m e => m.insert e.1 e.2) m).get? k
      = (lookup k es.reverse).or (m.get? k) := by
  induction es generalizing m with
  | nil => rfl
  | cons e es ih =>
      obtain ⟨k', v⟩ := e
      -- The first insertion is the last entry of the reversed list.
      rw [List.foldl_cons, ih, get?_insert, List.reverse_cons, lookup_append]
      by_cases hk : k = k'
      · cases lookup k es.reverse <;> simp [hk]
      · cases lookup k es.reverse <;> simp [hk]

/-- The map of a list has the last value of each key. -/
@[simp] theorem get?_ofList (es : List (κ × ν)) (k : κ) :
    (ofList es).get? k = lookup k es.reverse := by
  unfold ofList
  rw [get?_foldl_insert, get?_empty, Option.or_none]

/-! ### Optional fields -/

/-- The map with the value at `k`, if there is a value. -/
def insertSome (m : SortedMap κ ν) (k : κ) : Option ν → SortedMap κ ν
  | some v => m.insert k v
  | none => m

/-- The map of the fields that are present. -/
def ofFields (fs : List (κ × Option ν)) : SortedMap κ ν :=
  fs.foldl (fun m f => m.insertSome f.1 f.2) empty

theorem get?_insertSome (m : SortedMap κ ν) (k k' : κ) (o : Option ν) :
    (m.insertSome k o).get? k' = if k' = k then o.or (m.get? k') else m.get? k' := by
  cases o with
  | none => simp [insertSome]
  | some v => simp [insertSome]

/-- After a run of optional insertions under distinct names, a key has its new value or its
old one. -/
theorem get?_foldl_insertSome (fs : List (κ × Option ν)) (h : (fs.map Prod.fst).Nodup)
    (m : SortedMap κ ν) (k : κ) :
    (fs.foldl (fun m f => m.insertSome f.1 f.2) m).get? k
      = (lookup k fs).join.or (m.get? k) := by
  induction fs generalizing m with
  | nil => rfl
  | cons f fs ih =>
      obtain ⟨k', o⟩ := f
      rw [List.map_cons, List.nodup_cons] at h
      obtain ⟨hnotin, hnodup⟩ := h
      rw [List.foldl_cons, ih hnodup, get?_insertSome, lookup_cons]
      by_cases hk : k = k'
      · subst hk
        -- The names are distinct, so the tail does not overwrite the head field.
        have htail : lookup k fs = none := by
          rw [← Option.not_isSome_iff_eq_none, lookup_isSome_iff]
          exact hnotin
        simp [htail]
      · simp [hk]

/-- A field of the map. -/
theorem get?_ofFields {fs : List (κ × Option ν)} (h : (fs.map Prod.fst).Nodup) (k : κ) :
    (ofFields fs).get? k = (lookup k fs).join := by
  unfold ofFields
  rw [get?_foldl_insertSome fs h, get?_empty, Option.or_none]

/-- Two lists with the same distinct names and the same lookups are equal. -/
theorem eq_of_lookup_eq {fs gs : List (κ × ν)} (hkeys : fs.map Prod.fst = gs.map Prod.fst)
    (hnodup : (fs.map Prod.fst).Nodup) (h : ∀ k, lookup k fs = lookup k gs) : fs = gs := by
  induction fs generalizing gs with
  | nil => exact (List.map_eq_nil_iff.mp hkeys.symm).symm
  | cons f fs ih =>
      obtain ⟨k, v⟩ := f
      cases gs with
      | nil => cases hkeys
      | cons g gs =>
          obtain ⟨k', v'⟩ := g
          obtain ⟨hk, htail⟩ : k = k' ∧ fs.map Prod.fst = gs.map Prod.fst := List.cons.inj hkeys
          subst hk
          obtain ⟨hnotin, hnodup⟩ := List.nodup_cons.mp hnodup
          have hv : v = v' := by simpa using h k
          subst hv
          rw [ih htail hnodup ?_]
          intro a
          by_cases ha : a = k
          · -- The names are distinct, so the head name is in neither tail.
            subst ha
            have hfs : lookup a fs = none := by
              rw [← Option.not_isSome_iff_eq_none, lookup_isSome_iff]
              exact hnotin
            have hgs : lookup a gs = none := by
              rw [← Option.not_isSome_iff_eq_none, lookup_isSome_iff, ← htail]
              exact hnotin
            rw [hfs, hgs]
          · simpa [ha] using h a

/-- Two lists of fields with the same distinct names give the same map exactly when they are
equal. -/
theorem ofFields_inj {fs gs : List (κ × Option ν)}
    (hkeys : fs.map Prod.fst = gs.map Prod.fst) (hnodup : (fs.map Prod.fst).Nodup) :
    ofFields fs = ofFields gs ↔ fs = gs := by
  constructor
  · intro h
    refine eq_of_lookup_eq hkeys hnodup ?_
    intro k
    have hk : (lookup k fs).join = (lookup k gs).join := by
      rw [← get?_ofFields hnodup, ← get?_ofFields (hkeys ▸ hnodup), h]
    have hsome : (lookup k fs).isSome = (lookup k gs).isSome := by
      rw [Bool.eq_iff_iff, lookup_isSome_iff, lookup_isSome_iff, hkeys]
    -- A name of the lists has a field in both, and a field is its own join.
    cases hf : lookup k fs <;> cases hg : lookup k gs <;> simp_all
  · intro h
    rw [h]

end SortedMap

end OrgCli.Support
