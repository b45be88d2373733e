import Mathlib.Algebra.Order.Group.Unbundled.Int
import Mathlib.Data.Int.Basic
import Mathlib.Data.List.Basic
import Mathlib.Tactic.Lift
import Mathlib.Tactic.Push

/-!
Rectangular data kept as a list of rows, read and written at machine
integers. Reading and writing are partial: an index outside the rows that
exist has no result. `Shape g m n` says that the grid has exactly m rows of
exactly n entries; resizing follows the usual vector operation, which keeps
the surviving rows at their old width.
-/

namespace Grid

variable {α : Type*}

/-- The entry at (i, j), when both indices name an existing element. -/
def read (g : List (List α)) (i j : ℤ) : Option α :=
  if 0 ≤ i ∧ 0 ≤ j then g[i.toNat]? >>= fun row => row[j.toNat]? else none

/-- Overwrite the entry at (i, j); nothing happens outside the grid. -/
def put (g : List (List α)) (i j : ℤ) (v : α) : List (List α) :=
  if 0 ≤ i ∧ 0 ≤ j then g.modify i.toNat fun row => row.set j.toNat v else g

/-- The checked form of `put`, without a result when the entry does not exist. -/
def write (g : List (List α)) (i j : ℤ) (v : α) : Option (List (List α)) :=
  if (read g i j).isSome then some (put g i j v) else none

/-- Resize to m rows: surplus rows are dropped, missing ones are copies of `row`. -/
def resize (g : List (List α)) (m : ℤ) (row : List α) : List (List α) :=
  g.take m.toNat ++ List.replicate (m.toNat - g.length) row

/-- The grid of m rows of n copies of v. -/
def fill (m n : ℤ) (v : α) : List (List α) :=
  List.replicate m.toNat (List.replicate n.toNat v)

def Shape (g : List (List α)) (m n : ℤ) : Prop :=
  (g.length : ℤ) = m ∧ ∀ row ∈ g, (row.length : ℤ) = n

instance (g : List (List α)) (m n : ℤ) : Decidable (Shape g m n) :=
  inferInstanceAs (Decidable (_ ∧ _))

theorem read_of_neg (g : List (List α)) (i j : ℤ) (h : ¬ (0 ≤ i ∧ 0 ≤ j)) :
    read g i j = none := by
  simp [read, h]

theorem read_natCast (g : List (List α)) (i j : ℕ) :
    read g i j = g[i]? >>= fun row => row[j]? := by
  simp [read]

/-- A pair of indices names nothing when one is negative; else both are natural. -/
@[elab_as_elim]
theorem index_cases {motive : ℤ → ℤ → Prop} (i j : ℤ)
    (neg : ∀ i j, ¬ (0 ≤ i ∧ 0 ≤ j) → motive i j) (nat : ∀ i j : ℕ, motive i j) :
    motive i j := by
  by_cases h : 0 ≤ i ∧ 0 ≤ j
  · obtain ⟨hi, hj⟩ := h
    lift i to ℕ using hi
    lift j to ℕ using hj
    exact nat i j
  · exact neg i j h

theorem mem_of_read {g : List (List α)} {i j : ℤ} {v : α} (h : read g i j = some v) :
    ∃ row ∈ g, v ∈ row := by
  unfold read at h
  split at h
  · obtain ⟨row, hrow, hv⟩ := Option.bind_eq_some_iff.mp h
    exact ⟨row, List.mem_of_getElem? hrow, List.mem_of_getElem? hv⟩
  · contradiction

/-- Reading after a write sees the new value at the written entry only. -/
theorem read_put (g : List (List α)) (i j i' j' : ℤ) (v : α) :
    read (put g i j v) i' j' =
      if i' = i ∧ j' = j then (read g i j).map fun _ => v else read g i' j' := by
  by_cases h : 0 ≤ i ∧ 0 ≤ j
  · by_cases h' : 0 ≤ i' ∧ 0 ≤ j'
    · obtain ⟨⟨hi, hj⟩, ⟨hi', hj'⟩⟩ := And.intro h h'
      lift i to ℕ using hi
      lift j to ℕ using hj
      lift i' to ℕ using hi'
      lift j' to ℕ using hj'
      simp only [put, Int.natCast_nonneg, and_self, if_true, Int.toNat_natCast, read_natCast,
        Int.natCast_inj, List.getElem?_modify]
      by_cases hrow : i' = i
      · subst hrow
        cases hg : g[i']? with
        | none => simp
        | some row =>
          by_cases hcol : j' = j
          · subst hcol
            by_cases hlt : j' < row.length <;> simp [hlt]
          · have hne : ¬ j = j' := fun e => hcol e.symm
            simp [hcol, hne]
      · have hne : ¬ i = i' := fun e => hrow e.symm
        simp [hrow, hne]
    · have hne : ¬ (i' = i ∧ j' = j) := by
        intro hsame
        obtain ⟨rfl, rfl⟩ := hsame
        exact h' h
      rw [read_of_neg _ _ _ h', if_neg hne, read_of_neg _ _ _ h']
  · by_cases heq : i' = i ∧ j' = j
    · obtain ⟨rfl, rfl⟩ := heq
      simp [put, h, read_of_neg]
    · simp [put, h, heq]

theorem write_of_isSome {g : List (List α)} {i j : ℤ} (h : (read g i j).isSome) (v : α) :
    write g i j v = some (put g i j v) := by
  simp [write, h]

theorem Shape.rows_nonneg {g : List (List α)} {m n : ℤ} (h : Shape g m n) : 0 ≤ m := by
  have hlen := h.1
  omega

/-- The shape is a property of the row lengths. -/
theorem shape_iff_lengths (g : List (List α)) (m n : ℤ) :
    Shape g m n ↔ ((g.map List.length).length : ℤ) = m ∧
      ∀ k ∈ g.map List.length, (k : ℤ) = n := by
  simp [Shape]

theorem map_length_put (g : List (List α)) (i j : ℤ) (v : α) :
    (put g i j v).map List.length = g.map List.length := by
  unfold put
  split
  · apply List.ext_getElem (by simp)
    intro k _ _
    simp only [List.getElem_map, List.getElem_modify]
    split <;> simp
  · rfl

/-- Overwriting entries neither gives a grid a shape nor takes it away. -/
theorem shape_put_iff (g : List (List α)) (i j : ℤ) (v : α) (m n : ℤ) :
    Shape (put g i j v) m n ↔ Shape g m n := by
  rw [shape_iff_lengths, map_length_put, ← shape_iff_lengths]

theorem Shape.put {g : List (List α)} {m n : ℤ} (h : Shape g m n) (i j : ℤ) (v : α) :
    Shape (put g i j v) m n :=
  (shape_put_iff g i j v m n).mpr h

/-- In a grid of known shape exactly the in-range indices can be read. -/
theorem Shape.isSome_read_iff {g : List (List α)} {m n : ℤ} (h : Shape g m n) (i j : ℤ) :
    (read g i j).isSome ↔ (0 ≤ i ∧ i < m) ∧ (0 ≤ j ∧ j < n) := by
  induction i, j using index_cases with
  | neg i j hneg =>
    rw [read_of_neg _ _ _ hneg]
    simp
    omega
  | nat i j =>
    rw [read_natCast]
    have hlen := h.1
    by_cases hrow : i < g.length
    · have hwidth := h.2 _ (List.getElem_mem hrow)
      simp only [List.getElem?_eq_getElem hrow, Option.bind_eq_bind, Option.bind_some,
        isSome_getElem?]
      omega
    · rw [List.getElem?_eq_none (by omega)]
      simp
      omega

theorem Shape.read_eq_none {g : List (List α)} {m n : ℤ} (h : Shape g m n) (i j : ℤ)
    (hout : ¬ ((0 ≤ i ∧ i < m) ∧ (0 ≤ j ∧ j < n))) : read g i j = none := by
  rw [← h.isSome_read_iff, Option.not_isSome_iff_eq_none] at hout
  exact hout

/-- Two grids of one shape with the same entries are equal. -/
theorem Shape.ext {g g' : List (List α)} {m n : ℤ} (h : Shape g m n) (h' : Shape g' m n)
    (hread : ∀ i j, read g i j = read g' i j) : g = g' := by
  have hlen := h.1
  have hlen' := h'.1
  apply List.ext_getElem (by omega)
  intro i hi hi'
  have hwidth := h.2 _ (List.getElem_mem hi)
  have hwidth' := h'.2 _ (List.getElem_mem hi')
  apply List.ext_getElem?
  intro j
  have hij := hread i j
  simpa [read_natCast, List.getElem?_eq_getElem hi, List.getElem?_eq_getElem hi'] using hij

theorem shape_fill (m n : ℤ) (hm : 0 ≤ m) (hn : 0 ≤ n) (v : α) : Shape (fill m n v) m n := by
  constructor
  · simp [fill]
    omega
  · intro row hrow
    rw [fill, List.mem_replicate] at hrow
    rw [hrow.2, List.length_replicate]
    omega

theorem read_fill (m n : ℤ) (v : α) (i j : ℤ) :
    read (fill m n v) i j = if (0 ≤ i ∧ i < m) ∧ (0 ≤ j ∧ j < n) then some v else none := by
  induction i, j using index_cases with
  | neg i j hneg => rw [read_of_neg _ _ _ hneg, if_neg (by omega)]
  | nat i j =>
    rw [read_natCast, fill]
    by_cases hrow : i < m.toNat
    · by_cases hcol : j < n.toNat
      · rw [if_pos (by omega)]
        simp [hrow, hcol]
      · rw [if_neg (by omega)]
        simp [hrow, hcol]
    · rw [if_neg (by omega)]
      simp [hrow]

theorem resize_nil (m n : ℤ) (v : α) :
    resize [] m (List.replicate n.toNat v) = fill m n v := by
  simp [resize, fill]

/-- Resizing a grid that already has the new dimensions keeps it. -/
theorem Shape.resize_self {g : List (List α)} {m n : ℤ} (h : Shape g m n) (row : List α) :
    resize g m row = g := by
  have hlen := h.1
  have hm : m.toNat = g.length := by omega
  simp [resize, hm]

/-- A row that survives the resizing is read as before. -/
theorem read_resize_kept (g : List (List α)) (m : ℤ) (row : List α) (i j : ℤ) (him : i < m)
    (hig : i < g.length) : read (resize g m row) i j = read g i j := by
  induction i, j using index_cases with
  | neg i j hneg => rw [read_of_neg _ _ _ hneg, read_of_neg _ _ _ hneg]
  | nat i j =>
    have hlen : i < (g.take m.toNat).length := by
      rw [List.length_take]
      omega
    rw [read_natCast, read_natCast, resize, List.getElem?_append_left hlen,
      List.getElem?_take_of_lt (by omega)]

/-- A row that was not there is a copy of the prototype. -/
theorem read_resize_new (g : List (List α)) (m n : ℤ) (v : α) (i j : ℤ) (him : i < m)
    (hig : g.length ≤ i) (hj : 0 ≤ j) (hjn : j < n) :
    read (resize g m (List.replicate n.toNat v)) i j = some v := by
  lift i to ℕ using by omega
  lift j to ℕ using hj
  have hcol : j < n.toNat := by omega
  have hlen : (g.take m.toNat).length ≤ i := by
    rw [List.length_take]
    omega
  have hnew : i - (g.take m.toNat).length < m.toNat - g.length := by
    rw [List.length_take]
    omega
  rw [read_natCast, resize, List.getElem?_append_right hlen,
    List.getElem?_replicate_of_lt hnew]
  exact List.getElem?_replicate_of_lt hcol

/-- The surviving rows keep their old width, so the result has the new shape
exactly when no row survives or the width does not change. -/
theorem Shape.shape_resize_iff {g : List (List α)} {m n : ℤ} (h : Shape g m n)
    (m' n' : ℤ) (hm' : 0 ≤ m') (hn' : 0 ≤ n') (v : α) :
    Shape (resize g m' (List.replicate n'.toNat v)) m' n' ↔ m = 0 ∨ m' = 0 ∨ n = n' := by
  have hlen := h.1
  constructor
  · intro hs
    by_contra hne
    push Not at hne
    have hg : 0 < g.length := by omega
    have hpos : 0 < m'.toNat := by omega
    have hmem : g[0] ∈ g.take m'.toNat := by
      rw [List.mem_take_iff_getElem]
      exact ⟨0, by omega, rfl⟩
    have hold := h.2 _ (List.getElem_mem hg)
    have hnew := hs.2 g[0] (List.mem_append_left _ hmem)
    omega
  · intro hcase
    constructor
    · simp only [resize, List.length_append, List.length_take, List.length_replicate]
      omega
    · intro row hrow
      rcases List.mem_append.mp hrow with hold | hnew
      · have hwidth := h.2 row (List.mem_of_mem_take hold)
        have hsurvive := List.length_pos_of_mem hold
        rw [List.length_take] at hsurvive
        omega
      · rw [List.mem_replicate] at hnew
        rw [hnew.2, List.length_replicate]
        omega

/-- Every entry has the property. -/
def All (P : α → Prop) (g : List (List α)) : Prop := ∀ row ∈ g, ∀ v ∈ row, P v

theorem All.read {P : α → Prop} {g : List (List α)} (h : All P g) {i j : ℤ} {v : α}
    (hread : Grid.read g i j = some v) : P v := by
  obtain ⟨row, hrow, hv⟩ := mem_of_read hread
  exact h row hrow v hv

/-- A write brings in nothing but the new value. -/
theorem All.put {P : α → Prop} {g : List (List α)} (h : All P g) (i j : ℤ) {v : α} (hv : P v) :
    All P (Grid.put g i j v) := by
  unfold Grid.put
  split
  · intro row hrow w hw
    obtain ⟨k, hk, heq⟩ := List.mem_iff_getElem.mp hrow
    rw [List.getElem_modify] at heq
    have hold : g.get ⟨k, by simpa using hk⟩ ∈ g := List.get_mem _ _
    split at heq
    · subst heq
      rcases List.mem_or_eq_of_mem_set hw with hmem | rfl
      · exact h _ hold w hmem
      · exact hv
    · subst heq
      exact h _ hold w hw
  · exact h

theorem All.resize {P : α → Prop} {g : List (List α)} (h : All P g) (m : ℤ) {row : List α}
    (hrow : ∀ v ∈ row, P v) : All P (Grid.resize g m row) := by
  intro row' hrow' v hv
  rcases List.mem_append.mp hrow' with hkept | hnew
  · exact h row' (List.mem_of_mem_take hkept) v hv
  · rw [List.eq_of_mem_replicate hnew] at hv
    exact hrow v hv

end Grid
