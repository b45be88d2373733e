import Mathlib.Data.List.Nodup
import Mathlib.Data.List.Count
import Mathlib.Data.List.Dedup
import Mathlib.Data.List.Induction

/-!
A table without constraints is a list of rows in storage order. The four
statements of a row store act on the rows whose key has a given value. No
uniqueness of keys is built in; `Unique` states it, and `upsert` (look the key
up, then update or insert) preserves it.
-/

namespace RowTable

variable {α κ : Type*} [DecidableEq κ] (key : α → κ)

/-- `SELECT ... WHERE key = k`, in storage order. -/
def rowsAt (k : κ) (t : List α) : List α := t.filter fun row => key row = k

/-- `UPDATE ... WHERE key = k`. -/
def updateAt (k : κ) (f : α → α) (t : List α) : List α :=
  t.map fun row => if key row = k then f row else row

/-- `DELETE ... WHERE key = k`. -/
def deleteAt (k : κ) (t : List α) : List α := t.filter fun row => key row ≠ k

/-- Overwrite the rows that share the key of `row`, or insert it when there is none. -/
def upsert (row : α) (t : List α) : List α :=
  if rowsAt key (key row) t = [] then t ++ [row]
  else updateAt key (key row) (fun _ => row) t

/-- Upsert, for each key of a list, the row that f has for it. -/
def upsertAll (f : κ → Option α) (ks : List κ) (t : List α) : List α :=
  ks.foldl (fun t k => (f k).elim t fun row => upsert key row t) t

/-- At most one row for each key. -/
def Unique (t : List α) : Prop := ∀ k, (rowsAt key k t).length ≤ 1

theorem mem_rowsAt (k : κ) (t : List α) (row : α) :
    row ∈ rowsAt key k t ↔ row ∈ t ∧ key row = k := by
  simp [rowsAt]

theorem rowsAt_nil (k : κ) : rowsAt key k [] = [] := rfl

theorem rowsAt_append (k : κ) (t t' : List α) :
    rowsAt key k (t ++ t') = rowsAt key k t ++ rowsAt key k t' := by
  simp [rowsAt]

theorem rowsAt_cons (k : κ) (row : α) (t : List α) :
    rowsAt key k (row :: t) = if key row = k then row :: rowsAt key k t else rowsAt key k t := by
  by_cases h : key row = k <;> simp [rowsAt, h]

theorem rowsAt_eq_nil_iff (k : κ) (t : List α) :
    rowsAt key k t = [] ↔ ∀ row ∈ t, key row ≠ k := by
  simp [rowsAt, List.filter_eq_nil_iff]

theorem unique_nil : Unique key ([] : List α) := by
  intro k
  simp [rowsAt]

/-- Tables with the same rows at every key differ in the order of rows only. -/
theorem perm_of_rowsAt_eq [DecidableEq α] {t t' : List α}
    (h : ∀ k, rowsAt key k t = rowsAt key k t') : t.Perm t' := by
  rw [List.perm_iff_count]
  intro row
  have hcount : ∀ u : List α, u.count row = (rowsAt key (key row) u).count row := by
    intro u
    rw [rowsAt, List.count_filter (by simp)]
  rw [hcount t, hcount t', h]

theorem updateAt_eq_self (k : κ) (f : α → α) (t : List α)
    (h : ∀ row ∈ rowsAt key k t, f row = row) : updateAt key k f t = t := by
  unfold updateAt
  conv_rhs => rw [← List.map_id t]
  apply List.map_congr_left
  intro row hrow
  by_cases hk : key row = k
  · rw [if_pos hk, h row ((mem_rowsAt key k t row).mpr ⟨hrow, hk⟩), id]
  · rw [if_neg hk, id]

theorem updateAt_cons (k : κ) (f : α → α) (row : α) (t : List α) :
    updateAt key k f (row :: t) =
      (if key row = k then f row else row) :: updateAt key k f t := rfl

/-- Overwriting the rows at one key leaves the rows at the others. -/
theorem rowsAt_overwrite_ne (row : α) (k : κ) (t : List α) (hk : k ≠ key row) :
    rowsAt key k (updateAt key (key row) (fun _ => row) t) = rowsAt key k t := by
  induction t with
  | nil => rfl
  | cons head tail ih =>
    rw [updateAt_cons, rowsAt_cons, rowsAt_cons, ih]
    by_cases hhead : key head = key row
    · have hrow : key row ≠ k := Ne.symm hk
      simp [hhead, hrow]
    · simp [hhead]

theorem rowsAt_overwrite_self (row : α) (t : List α) :
    rowsAt key (key row) (updateAt key (key row) (fun _ => row) t) =
      List.replicate (rowsAt key (key row) t).length row := by
  induction t with
  | nil => rfl
  | cons head tail ih =>
    rw [updateAt_cons, rowsAt_cons, rowsAt_cons, ih]
    by_cases hhead : key head = key row
    · simp [hhead, List.replicate_succ]
    · simp [hhead]

theorem rowsAt_upsert_ne (row : α) (k : κ) (t : List α) (hk : k ≠ key row) :
    rowsAt key k (upsert key row t) = rowsAt key k t := by
  unfold upsert
  split
  · have hrow : key row ≠ k := Ne.symm hk
    simp [rowsAt_append, rowsAt_cons, rowsAt_nil, hrow]
  · exact rowsAt_overwrite_ne key row k t hk

/-- After an upsert the rows at its key are copies of the row, at least one. -/
theorem rowsAt_upsert_self (row : α) (t : List α) :
    rowsAt key (key row) (upsert key row t) =
      List.replicate (max 1 (rowsAt key (key row) t).length) row := by
  unfold upsert
  split
  · next h => simp [rowsAt_append, h, rowsAt_cons, rowsAt_nil]
  · next h =>
    have hpos : 1 ≤ (rowsAt key (key row) t).length :=
      Nat.one_le_iff_ne_zero.mpr (fun h0 => h (List.length_eq_zero_iff.mp h0))
    rw [rowsAt_overwrite_self, Nat.max_eq_right hpos]

/-- A key without a row gets one at the end. -/
theorem upsert_of_nil {row : α} {t : List α} (h : rowsAt key (key row) t = []) :
    upsert key row t = t ++ [row] := by
  rw [upsert, if_pos h]

theorem Unique.rowsAt_upsert_self {t : List α} (h : Unique key t) (row : α) :
    rowsAt key (key row) (upsert key row t) = [row] := by
  rw [RowTable.rowsAt_upsert_self, Nat.max_eq_left (h (key row))]
  rfl

theorem Unique.upsert {t : List α} (h : Unique key t) (row : α) :
    Unique key (upsert key row t) := by
  intro k
  by_cases hk : k = key row
  · subst hk
    simp [h.rowsAt_upsert_self key row]
  · rw [rowsAt_upsert_ne key row k t hk]
    exact h k

theorem mem_upsert (row x : α) (t : List α) (h : x ∈ upsert key row t) : x = row ∨ x ∈ t := by
  unfold upsert at h
  split at h
  · rw [List.mem_append, List.mem_singleton] at h
    exact h.symm
  · obtain ⟨y, hy, rfl⟩ := List.mem_map.mp h
    split
    · exact Or.inl rfl
    · exact Or.inr hy

section UpsertAll

variable (f : κ → Option α)

theorem upsertAll_nil (t : List α) : upsertAll key f [] t = t := rfl

theorem upsertAll_cons (k : κ) (ks : List κ) (t : List α) :
    upsertAll key f (k :: ks) t =
      upsertAll key f ks ((f k).elim t fun row => upsert key row t) := rfl

/-- Keys outside the list, and keys without a new row, keep their rows. -/
theorem rowsAt_upsertAll_of_not (hf : ∀ k row, f k = some row → key row = k) (k : κ)
    (ks : List κ) (t : List α) (hk : k ∉ ks ∨ f k = none) :
    rowsAt key k (upsertAll key f ks t) = rowsAt key k t := by
  induction ks generalizing t with
  | nil => rfl
  | cons k' ks ih =>
    have hrest : k ∉ ks ∨ f k = none :=
      hk.imp_left fun h => fun hmem => h (List.mem_cons_of_mem k' hmem)
    rw [upsertAll_cons, ih _ hrest]
    cases hrow : f k' with
    | none => rfl
    | some row =>
      have hne : k ≠ key row := by
        intro heq
        subst heq
        have hkey := hf k' row hrow
        rcases hk with hmem | hnone
        · exact hmem (hkey ▸ List.mem_cons_self)
        · rw [hkey, hrow] at hnone
          contradiction
      exact rowsAt_upsert_ne key row k t hne

/-- A key of the list with a new row ends with copies of that row only. -/
theorem rowsAt_upsertAll_of_mem (hf : ∀ k row, f k = some row → key row = k) {k : κ}
    {row : α} {ks : List κ} (hk : k ∈ ks) (hrow : f k = some row) (t : List α) :
    rowsAt key k (upsertAll key f ks t) =
      List.replicate (max 1 (rowsAt key k t).length) row := by
  have hkey := hf k row hrow
  induction ks generalizing t with
  | nil => simp at hk
  | cons k' ks ih =>
    rw [upsertAll_cons]
    by_cases hmem : k ∈ ks
    · rw [ih hmem]
      by_cases heq : k' = k
      · subst heq
        simp only [hrow, Option.elim_some]
        rw [← hkey, rowsAt_upsert_self, List.length_replicate]
        congr 1
        omega
      · cases hrow' : f k' with
        | none => rfl
        | some row' =>
          have hne : k ≠ key row' := fun h => heq ((hf k' row' hrow').symm.trans h.symm)
          simp only [Option.elim_some, rowsAt_upsert_ne key row' k t hne]
    · have heq : k' = k := by
        rcases List.mem_cons.mp hk with h | h
        · exact h.symm
        · exact absurd h hmem
      subst heq
      rw [rowsAt_upsertAll_of_not key f hf k' ks _ (Or.inl hmem)]
      simp only [hrow, Option.elim_some]
      rw [← hkey, rowsAt_upsert_self]

theorem Unique.upsertAll {t : List α} (h : Unique key t) (ks : List κ) :
    Unique key (upsertAll key f ks t) := by
  induction ks generalizing t with
  | nil => exact h
  | cons k ks ih =>
    rw [upsertAll_cons]
    apply ih
    cases f k with
    | none => exact h
    | some row => exact h.upsert key row

theorem mem_upsertAll (ks : List κ) (t : List α) (x : α)
    (hx : x ∈ RowTable.upsertAll key f ks t) : x ∈ t ∨ ∃ k ∈ ks, f k = some x := by
  induction ks generalizing t with
  | nil => exact Or.inl hx
  | cons k ks ih =>
    rw [upsertAll_cons] at hx
    rcases ih _ hx with hmem | ⟨k', hk', hrow'⟩
    · cases hrow : f k with
      | none =>
        rw [hrow] at hmem
        exact Or.inl hmem
      | some row =>
        rw [hrow] at hmem
        rcases mem_upsert key row x t hmem with rfl | hold
        · exact Or.inr ⟨k, List.mem_cons_self, hrow⟩
        · exact Or.inl hold
    · exact Or.inr ⟨k', List.mem_cons_of_mem k hk', hrow'⟩

/-- What stands in the place of an old row after the upserts for the keys `ks`. -/
def overwritten (ks : List κ) (row : α) : α :=
  if key row ∈ ks then (f (key row)).getD row else row

/-- The row that a key without rows gets. -/
def added (t : List α) (k : κ) : Option α :=
  if rowsAt key k t = [] then f k else none

theorem overwritten_cons_of_ne (ks : List κ) {k : κ} {row : α}
    (hne : key row ≠ k) : overwritten key f (k :: ks) row = overwritten key f ks row := by
  simp [overwritten, hne]

theorem overwritten_of_not_mem {ks : List κ} {row : α}
    (hk : key row ∉ ks) : overwritten key f ks row = row := by
  rw [overwritten, if_neg hk]

theorem added_congr {ks : List κ} {t t' : List α}
    (h : ∀ k ∈ ks, rowsAt key k t' = rowsAt key k t) :
    ks.filterMap (added key f t') = ks.filterMap (added key f t) := by
  apply List.filterMap_congr
  intro k hk
  rw [added, added, h k hk]

/-- The table after all upserts of distinct keys: old rows stand in their places,
overwritten where there is something to write, and keys without a row follow. -/
theorem upsertAll_eq (hf : ∀ k row, f k = some row → key row = k)
    (ks : List κ) (hks : ks.Nodup) (t : List α) :
    upsertAll key f ks t = t.map (overwritten key f ks) ++ ks.filterMap (added key f t) := by
  induction ks generalizing t with
  | nil =>
    have hid : overwritten key f [] = id :=
      funext fun row => overwritten_of_not_mem key f List.not_mem_nil
    simp [upsertAll_nil, hid]
  | cons k ks ih =>
    obtain ⟨hk, hnodup⟩ := List.nodup_cons.mp hks
    rw [upsertAll_cons, ih hnodup, List.filterMap_cons]
    cases hrow : f k with
    | none =>
      have hnone : added key f t k = none := by simp [added, hrow]
      have hmap : ∀ row ∈ t, overwritten key f ks row = overwritten key f (k :: ks) row := by
        intro row _
        by_cases heq : key row = k
        · subst heq
          simp [overwritten, hk, hrow]
        · rw [overwritten_cons_of_ne key f ks heq]
      rw [hnone, Option.elim_none, List.map_congr_left hmap]
    | some row =>
      have hkey := hf k row hrow
      subst hkey
      have hothers : ∀ k' ∈ ks, rowsAt key k' (upsert key row t) = rowsAt key k' t := by
        intro k' hk'
        apply rowsAt_upsert_ne
        exact fun heq => hk (heq ▸ hk')
      rw [Option.elim_some, added_congr key f hothers]
      by_cases hnil : rowsAt key (key row) t = []
      · have hadded : added key f t (key row) = some row := by rw [added, if_pos hnil, hrow]
        have hmap : ∀ row' ∈ t,
            overwritten key f ks row' = overwritten key f (key row :: ks) row' := by
          intro row' hmem
          rw [overwritten_cons_of_ne key f ks ((rowsAt_eq_nil_iff key _ t).mp hnil row' hmem)]
        rw [upsert_of_nil key hnil, List.map_append, List.map_singleton,
          overwritten_of_not_mem key f hk, List.map_congr_left hmap, hadded]
        simp
      · have hadded : added key f t (key row) = none := by rw [added, if_neg hnil]
        have hmap : ∀ row' ∈ t,
            overwritten key f ks (if key row' = key row then row else row') =
              overwritten key f (key row :: ks) row' := by
          intro row' _
          by_cases heq : key row' = key row
          · rw [if_pos heq, overwritten_of_not_mem key f hk]
            simp [overwritten, heq, hrow]
          · rw [if_neg heq, overwritten_cons_of_ne key f ks heq]
        rw [upsert, if_neg hnil, updateAt, List.map_map, hadded]
        congr 1
        exact List.map_congr_left hmap

end UpsertAll

theorem rowsAt_deleteAt_self (k : κ) (t : List α) : rowsAt key k (deleteAt key k t) = [] := by
  simp [rowsAt, deleteAt]

theorem rowsAt_deleteAt_ne (k k' : κ) (t : List α) (h : k' ≠ k) :
    rowsAt key k' (deleteAt key k t) = rowsAt key k' t := by
  rw [rowsAt, deleteAt, List.filter_filter]
  apply List.filter_congr
  intro row _
  by_cases hrow : key row = k'
  · have hk : key row ≠ k := hrow ▸ h
    simp [hrow, h]
  · simp [hrow]

theorem deleteAt_eq_self (k : κ) (t : List α) (h : rowsAt key k t = []) :
    deleteAt key k t = t := by
  apply List.filter_eq_self.mpr
  intro row hrow
  have hne : key row ≠ k := by
    intro heq
    have hmem := (mem_rowsAt key k t row).mpr ⟨hrow, heq⟩
    rw [h] at hmem
    contradiction
  simpa using hne

theorem deleteAt_append (k : κ) (t t' : List α) :
    deleteAt key k (t ++ t') = deleteAt key k t ++ deleteAt key k t' := by
  simp [deleteAt]

theorem Unique.deleteAt {t : List α} (h : Unique key t) (k : κ) :
    Unique key (deleteAt key k t) := by
  intro k'
  by_cases hk : k' = k
  · subst hk
    simp [rowsAt_deleteAt_self]
  · rw [rowsAt_deleteAt_ne key k k' t hk]
    exact h k'

/-- `Unique` in the usual form: the list of keys has no duplicate. -/
theorem unique_iff_nodup (t : List α) : Unique key t ↔ (t.map key).Nodup := by
  rw [List.nodup_iff_count_le_one]
  have hcount : ∀ k, (t.map key).count k = (rowsAt key k t).length := by
    intro k
    rw [List.count, List.countP_map, List.countP_eq_length_filter]
    rfl
  simp only [hcount]
  rfl

section Survival

/-- `row` is the last row at its key. -/
def LastAt (row : α) (t : List α) : Prop := (rowsAt key (key row) t).getLast? = some row

/-- `row` is all there is at its key. -/
def Settled (row : α) (t : List α) : Prop :=
  rowsAt key (key row) t ≠ [] ∧ ∀ x ∈ rowsAt key (key row) t, x = row

variable {key} {row x : α} {t : List α}

theorem Settled.getLast? (h : Settled key row t) :
    (rowsAt key (key row) t).getLast? = some row := by
  have hlast := List.getLast?_eq_some_getLast h.1
  rw [h.2 _ (List.getLast_mem h.1)] at hlast
  exact hlast

theorem Settled.eq_of_key (h : Settled key row t) (hx : Settled key x t)
    (hkey : key row = key x) : row = x := by
  have hlast := h.getLast?
  rw [hkey] at hlast
  exact Option.some.inj (hlast.symm.trans hx.getLast?)

theorem settled_upsert_self (row : α) (t : List α) : Settled key row (upsert key row t) := by
  rw [Settled, rowsAt_upsert_self]
  refine ⟨?_, fun y hy => List.eq_of_mem_replicate hy⟩
  intro hnil
  have hzero := congrArg List.length hnil
  rw [List.length_replicate, List.length_nil] at hzero
  omega

/-- A row survives an upsert that writes the same at its key, or somewhere else. -/
theorem Settled.upsert (h : Settled key x t) (hrow : key row = key x → row = x) :
    Settled key x (upsert key row t) := by
  by_cases hkey : key row = key x
  · rw [← hrow hkey]
    exact settled_upsert_self row t
  · rwa [Settled, rowsAt_upsert_ne key row (key x) t (Ne.symm hkey)]

/-- Writing again what is there already changes nothing. -/
theorem Settled.upsert_eq (h : Settled key row t) :
    RowTable.upsert key row t = t := by
  rw [RowTable.upsert, if_neg h.1]
  exact updateAt_eq_self key (key row) _ t fun x hx => (h.2 x hx).symm

theorem upsertAll_of_settled (f : κ → Option α) (ks : List κ) (t : List α)
    (h : ∀ k ∈ ks, ∀ row, f k = some row → Settled key row t) : upsertAll key f ks t = t := by
  induction ks with
  | nil => rfl
  | cons k ks ih =>
    have hrest := ih fun k' hk' => h k' (List.mem_cons_of_mem k hk')
    rw [upsertAll_cons]
    cases hrow : f k with
    | none => exact hrest
    | some row =>
      rw [Option.elim_some, (h k List.mem_cons_self row hrow).upsert_eq]
      exact hrest

/-- When all other rows are settled only the row of one key is upserted. -/
theorem upsertAll_of_settled_ne (f : κ → Option α)
    (hf : ∀ k row, f k = some row → key row = k) {k : κ} {ks : List κ} (hk : k ∈ ks)
    (t : List α)
    (h : ∀ k' ∈ ks, k' ≠ k → ∀ row, f k' = some row → Settled key row t) :
    upsertAll key f ks t = (f k).elim t fun row => RowTable.upsert key row t := by
  induction ks with
  | nil => simp at hk
  | cons k' ks ih =>
    have hrest : ∀ k'' ∈ ks, k'' ≠ k → ∀ row, f k'' = some row → Settled key row t :=
      fun k'' hk'' => h k'' (List.mem_cons_of_mem k' hk'')
    rw [upsertAll_cons]
    by_cases heq : k' = k
    · subst heq
      apply upsertAll_of_settled
      intro k'' hk'' row hrow
      by_cases hsame : k'' = k'
      · subst hsame
        rw [hrow]
        exact settled_upsert_self row t
      · have hsettled := hrest k'' hk'' hsame row hrow
        cases hrow' : f k' with
        | none => exact hsettled
        | some row' =>
          have hne : key row ≠ key row' := by
            rw [hf k'' row hrow, hf k' row' hrow']
            exact hsame
          rwa [Option.elim_some, Settled, rowsAt_upsert_ne key row' (key row) t hne]
    · have hmem : k ∈ ks := (List.mem_cons.mp hk).resolve_left (Ne.symm heq)
      cases hrow' : f k' with
      | none => exact ih hmem hrest
      | some row' =>
        rw [Option.elim_some, (h k' List.mem_cons_self heq row' hrow').upsert_eq]
        exact ih hmem hrest

theorem settled_upsertAll (f : κ → Option α) (hf : ∀ k row, f k = some row → key row = k)
    {k : κ} {ks : List κ} (hk : k ∈ ks) (hrow : f k = some row) (t : List α) :
    Settled key row (upsertAll key f ks t) := by
  have hkey := hf k row hrow
  subst hkey
  rw [Settled, rowsAt_upsertAll_of_mem key f hf hk hrow]
  refine ⟨?_, fun x hx => List.eq_of_mem_replicate hx⟩
  rw [ne_eq, List.replicate_eq_nil_iff]
  omega

/-- Upserting the same rows once more changes nothing. -/
theorem upsertAll_upsertAll (f : κ → Option α) (hf : ∀ k row, f k = some row → key row = k)
    (ks : List κ) (t : List α) :
    upsertAll key f ks (upsertAll key f ks t) = upsertAll key f ks t :=
  upsertAll_of_settled f ks _ fun _ hk _ hrow => settled_upsertAll f hf hk hrow t

end Survival

section Replace

/-- `INSERT or REPLACE` on a unique key: the row that has it goes, the new one is last. -/
def replace (row : α) (t : List α) : List α := deleteAt key (key row) t ++ [row]

/-- Replace by all rows of a list, one after the other. -/
def replaceAll (rows : List α) (t : List α) : List α :=
  rows.foldl (fun t row => replace key row t) t

theorem rowsAt_replace_self (row : α) (t : List α) :
    rowsAt key (key row) (replace key row t) = [row] := by
  simp [replace, rowsAt_append, rowsAt_deleteAt_self, rowsAt_cons, rowsAt_nil]

theorem rowsAt_replace_ne (row : α) (k : κ) (t : List α) (hk : k ≠ key row) :
    rowsAt key k (replace key row t) = rowsAt key k t := by
  have hrow : key row ≠ k := Ne.symm hk
  simp [replace, rowsAt_append, rowsAt_deleteAt_ne key (key row) k t hk, rowsAt_cons,
    rowsAt_nil, hrow]

/-- At each key there is the last row of the list that has it, if any has. -/
theorem rowsAt_replaceAll (k : κ) (rows : List α) :
    rowsAt key k (replaceAll key rows []) = (rowsAt key k rows).getLast?.toList := by
  induction rows using List.reverseRecOn with
  | nil => rfl
  | append_singleton rows row ih =>
    rw [replaceAll, List.foldl_concat, rowsAt_append, rowsAt_cons, rowsAt_nil]
    by_cases hk : k = key row
    · subst hk
      rw [rowsAt_replace_self, if_pos rfl, List.getLast?_concat, Option.toList_some]
    · rw [rowsAt_replace_ne key row k _ hk, if_neg (Ne.symm hk), List.append_nil]
      exact ih

theorem unique_replaceAll (rows : List α) : Unique key (replaceAll key rows []) := by
  intro k
  rw [rowsAt_replaceAll]
  cases (rowsAt key k rows).getLast? <;> simp

/-- The rows that are left are those without a later row at their key. -/
theorem mem_replaceAll_iff (row : α) (rows : List α) :
    row ∈ replaceAll key rows [] ↔ LastAt key row rows := by
  have hmem := mem_rowsAt key (key row) (replaceAll key rows []) row
  rw [rowsAt_replaceAll, Option.mem_toList] at hmem
  exact ⟨fun h => hmem.mpr ⟨h, rfl⟩, fun h => (hmem.mp h).1⟩

/-- One row is left for each key of the list. -/
theorem length_replaceAll (rows : List α) :
    (replaceAll key rows []).length = (rows.map key).dedup.length := by
  have hnodup := (unique_iff_nodup key _).mp (unique_replaceAll key rows)
  have hkeys : ∀ k, k ∈ (replaceAll key rows []).map key ↔ k ∈ (rows.map key).dedup := by
    intro k
    have hleft : k ∈ (replaceAll key rows []).map key ↔
        rowsAt key k (replaceAll key rows []) ≠ [] := by
      simp [rowsAt_eq_nil_iff]
    have hright : k ∈ rows.map key ↔ rowsAt key k rows ≠ [] := by
      simp [rowsAt_eq_nil_iff]
    rw [hleft, rowsAt_replaceAll, List.mem_dedup, hright]
    cases rowsAt key k rows using List.reverseRecOn <;> simp
  have hperm := (List.perm_ext_iff_of_nodup hnodup (List.nodup_dedup _)).mpr hkeys
  rw [← hperm.length_eq, List.length_map]

theorem rowsAt_map {β : Type*} (key' : β → κ) (f : α → β) (h : ∀ row, key' (f row) = key row)
    (k : κ) (t : List α) : rowsAt key' k (t.map f) = (rowsAt key k t).map f := by
  induction t with
  | nil => rfl
  | cons row rest ih =>
    rw [List.map_cons, rowsAt_cons, rowsAt_cons, h, ih]
    split <;> rfl

end Replace

end RowTable
