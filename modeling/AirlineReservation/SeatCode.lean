import AirlineReservation.Library.Reading
import Mathlib.Logic.Function.Iterate

/-!
The seat codes that the buttons show. The row is written as a run of Z and one
more character, the column as a decimal number behind them, with nothing in
between. Rows near 2^16 wrap around and have a character below 'A'.
-/

namespace AirlineReservation.SeatCode

/-- The body of the `while` loop, on `procRow` and `lHandCode`. -/
def extend (state : UInt16 × List Char) : UInt16 × List Char :=
  (state.1 - 26, state.2 ++ ['Z'])

theorem toNat_sub_26 {procRow : UInt16} (h : 90 < procRow) :
    (procRow - 26).toNat = procRow.toNat - 26 ∧ 90 < procRow.toNat := by
  have hlt : 90 < procRow.toNat := UInt16.lt_iff_toNat_lt.mp h
  have hle : (26 : UInt16) ≤ procRow := by
    rw [UInt16.le_iff_toNat_le]
    simp
    omega
  exact ⟨UInt16.toNat_sub_of_le _ _ hle, hlt⟩

/-- `while (procRow > 90)`. -/
def loop (procRow : UInt16) (lHandCode : List Char) : UInt16 × List Char :=
  if 90 < procRow then loop (procRow - 26) (lHandCode ++ ['Z']) else (procRow, lHandCode)
termination_by procRow.toNat
decreasing_by
  obtain ⟨hsub, hlt⟩ := toNat_sub_26 (by assumption)
  omega

/-- `row + 65` is an `unsigned short` again. -/
def generateSeatCode (row col : UInt16) : String :=
  let (procRow, lHandCode) := loop (row + 65) []
  String.ofList (lHandCode ++ [Char.ofNat procRow.toNat] ++ (Nat.repr col.toNat).toList)

/-- The condition holds before each of the first n iterations and then no more. -/
def EndsAfter (n : ℕ) (state : UInt16 × List Char) : Prop :=
  (∀ m < n, 90 < (extend^[m] state).1) ∧ ¬ 90 < (extend^[n] state).1

/-- What the loop leaves after n iterations. Only a row that has wrapped around
ends below 'A', and then there was no iteration. -/
structure Ends (n : ℕ) (procRow : UInt16) (lHandCode : List Char)
    (final : UInt16 × List Char) : Prop where
  endsAfter : EndsAfter n (procRow, lHandCode)
  code_eq : final.2 = lHandCode ++ List.replicate n 'Z'
  row_eq : procRow.toNat = 26 * n + final.1.toNat
  le : final.1.toNat ≤ 90
  ge : n = 0 ∨ 65 ≤ final.1.toNat

theorem EndsAfter.succ {n : ℕ} {state : UInt16 × List Char} (h : 90 < state.1)
    (hends : EndsAfter n (extend state)) : EndsAfter (n + 1) state := by
  refine ⟨?_, hends.2⟩
  intro m hm
  cases m with
  | zero => exact h
  | succ m => exact hends.1 m (Nat.lt_of_succ_lt_succ hm)

theorem loop_ends (procRow : UInt16) (lHandCode : List Char) :
    ∃ n, Ends n procRow lHandCode (loop procRow lHandCode) := by
  fun_induction loop procRow lHandCode with
  | case1 procRow lHandCode h ih =>
    obtain ⟨n, hends, hcode, hrow, hle, hge⟩ := ih
    obtain ⟨hsub, hlt⟩ := toNat_sub_26 h
    refine ⟨n + 1, hends.succ h, ?_, ?_, hle, ?_⟩
    · rw [hcode, List.append_assoc, List.replicate_succ]
      rfl
    · omega
    · omega
  | case2 procRow lHandCode h =>
    have hle : procRow.toNat ≤ 90 := by
      rw [UInt16.lt_iff_toNat_lt] at h
      exact Nat.not_lt.mp h
    refine ⟨0, ⟨by simp, h⟩, by simp, by simp, hle, Or.inl rfl⟩

/-- The characters before the column: a run of Z and one more. -/
def rowPart (n r : ℕ) : List Char := List.replicate n 'Z' ++ [Char.ofNat r]

/-- The row part that belongs to a row. -/
structure RowPart (row : UInt16) (n r : ℕ) : Prop where
  row_eq : (row + 65).toNat = 26 * n + r
  le : r ≤ 90
  ge : n = 0 ∨ 65 ≤ r

theorem generateSeatCode_parts (row col : UInt16) :
    ∃ n r, RowPart row n r ∧ (generateSeatCode row col).toList =
      rowPart n r ++ Nat.toDigits 10 col.toNat := by
  obtain ⟨n, hends⟩ := loop_ends (row + 65) []
  refine ⟨n, (loop (row + 65) []).1.toNat, ⟨hends.row_eq, hends.le, hends.ge⟩, ?_⟩
  rw [generateSeatCode, String.toList_ofList, hends.code_eq, Nat.toList_repr]
  rfl

theorem length_rowPart (n r : ℕ) : (rowPart n r).length = n + 1 := by simp [rowPart]

theorem isDigit_letter : ∀ r ≤ 90, 65 ≤ r → (Char.ofNat r).isDigit = false := by decide

theorem ofNat_inj_of_le {r r' : ℕ} (hr : r ≤ 90) (hr' : r' ≤ 90)
    (h : Char.ofNat r = Char.ofNat r') : r = r' := by
  have hvalid : ∀ k ≤ 90, (Char.ofNat k).toNat = k := by decide
  rw [← hvalid r hr, h, hvalid r' hr']

/-- Apart from a wrapped row, which is one character, no character of a row part
is a digit. -/
theorem not_isDigit_of_mem_rowPart {n r : ℕ} (hr : r ≤ 90) (hge : 65 ≤ r) {c : Char}
    (hc : c ∈ rowPart n r) : c.isDigit = false := by
  rcases List.mem_append.mp hc with hz | hlast
  · rw [List.eq_of_mem_replicate hz]
    rfl
  · rw [List.mem_singleton.mp hlast]
    exact isDigit_letter r hr hge

/-- A longer row part does not fit over a shorter one: where the column begins
it has a letter. -/
theorem not_append_eq_of_lt {n r n' r' : ℕ} {row' : UInt16} (h' : RowPart row' n' r')
    (hlt : n < n') (k : ℕ) (rest : List Char) :
    rowPart n r ++ Nat.toDigits 10 k ≠ rowPart n' r' ++ rest := by
  intro heq
  obtain ⟨c, digits, hdigits, hc⟩ := Reading.head_toDigits k
  have hge : 65 ≤ r' := h'.ge.resolve_left (by omega)
  have hleft : (rowPart n r ++ Nat.toDigits 10 k)[n + 1]? = some c := by
    rw [List.getElem?_append_right (Nat.le_of_eq (length_rowPart n r)), length_rowPart, hdigits]
    simp
  have hright : (rowPart n' r' ++ rest)[n + 1]? = (rowPart n' r')[n + 1]? :=
    List.getElem?_append_left (by rw [length_rowPart]; omega)
  rw [heq, hright] at hleft
  have hletter := not_isDigit_of_mem_rowPart h'.le hge (List.mem_of_getElem? hleft)
  rw [hc] at hletter
  contradiction

theorem toNat_add_65_inj {row row' : UInt16} (h : (row + 65).toNat = (row' + 65).toNat) :
    row = row' := by
  have hlt := row.toNat_lt
  have hlt' := row'.toNat_lt
  rw [UInt16.toNat_add, UInt16.toNat_add] at h
  apply UInt16.toNat_inj.mp
  simp only [UInt16.reduceToNat] at h
  omega

/-- For every row the loop ends, and different seats have different codes. -/
theorem generateSeatCode_injective :
    (∀ row : UInt16, ∃ n, EndsAfter n (row + 65, [])) ∧
      Function.Injective fun seat : UInt16 × UInt16 => generateSeatCode seat.1 seat.2 := by
  constructor
  · intro row
    obtain ⟨n, hends⟩ := loop_ends (row + 65) []
    exact ⟨n, hends.endsAfter⟩
  · intro seat seat' hcode
    obtain ⟨row, col⟩ := seat
    obtain ⟨row', col'⟩ := seat'
    obtain ⟨n, r, hpart, hlist⟩ := generateSeatCode_parts row col
    obtain ⟨n', r', hpart', hlist'⟩ := generateSeatCode_parts row' col'
    have heq : rowPart n r ++ Nat.toDigits 10 col.toNat =
        rowPart n' r' ++ Nat.toDigits 10 col'.toNat := by
      rw [← hlist, ← hlist']
      exact congrArg String.toList hcode
    rcases Nat.lt_trichotomy n n' with hlt | hsame | hgt
    · exact absurd heq (not_append_eq_of_lt hpart' hlt _ _)
    · subst hsame
      obtain ⟨hrow, hdigits⟩ := List.append_inj heq (by rw [length_rowPart, length_rowPart])
      have hlast := List.append_cancel_left hrow
      have hr := ofNat_inj_of_le hpart.le hpart'.le (List.cons.inj hlast).1
      have hcol := congrArg (fun digits => Nat.ofDigitChars 10 digits 0) hdigits
      simp only [Nat.ofDigitChars_ten_toDigits] at hcol
      have hsum : (row + 65).toNat = (row' + 65).toNat := by
        rw [hpart.row_eq, hpart'.row_eq, hr]
      rw [toNat_add_65_inj hsum, UInt16.toNat_inj.mp hcol]
    · exact absurd heq.symm (not_append_eq_of_lt hpart hgt _ _)

end AirlineReservation.SeatCode
