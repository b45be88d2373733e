import AirlineReservation.BufferBounds
import AirlineReservation.PackedDates
import AirlineReservation.SeatCode

/-!
The buttons of the seat grid. The loops run over the rows of the grid itself and
keep three counters beside it: two of 16 bits for the coordinates, which a button
shows and selects, and an int for the labels. They equal the position in the grid
until one of them has run out of values.
-/

namespace AirlineReservation.SeatButtons

open Frames Outcome BufferBounds

/-- A button: its `codeText`, and what `g_SelectedRowCol` becomes when it is clicked. -/
structure SeatButton where
  codeText : String
  selects : ℤ × ℤ
  deriving DecidableEq, Repr

/-- A text up to the seat code: the availability and the coordinates. -/
def codeStart (seat : Bool) (row col : ℕ) : String :=
  (if seat then "AVAILABLE" else "TAKEN") ++ " (" ++ toString row ++ "," ++ toString col ++ ") "

def seatButton (seat : Bool) (seatLNum seatRNum : UInt16) (labelCounter : ℤ) : SeatButton where
  codeText := codeStart seat seatLNum.toNat seatRNum.toNat ++
    (SeatCode.generateSeatCode seatLNum seatRNum ++ ("###Btn_Seat_" ++ toString labelCounter))
  selects := (seatLNum.toNat, seatRNum.toNat)

/-- The loop over one row, from a label and a column on, with the label after it.
Without a result `labelCounter` has overflowed. -/
def rowButtons (seatLNum : UInt16) :
    List Bool → ℤ → UInt16 → Option (List SeatButton × ℤ)
  | [], labelCounter, _ => some ([], labelCounter)
  | seat :: rest, labelCounter, seatRNum => do
    let next ← int32 (labelCounter + 1)
    let (buttons, last) ← rowButtons seatLNum rest next (seatRNum + 1)
    return (seatButton seat seatLNum seatRNum labelCounter :: buttons, last)

/-- The loop over the rows, from a label and a row on. -/
def gridButtons : List (List Bool) → ℤ → UInt16 → Option (List (List SeatButton))
  | [], _, _ => some []
  | row :: rest, labelCounter, seatLNum => do
    let (buttons, next) ← rowButtons seatLNum row labelCounter 0
    let rows ← gridButtons rest next (seatLNum + 1)
    return buttons :: rows

/-- The buttons of a frame, by the rows they are laid out in. -/
def seatButtons (s : SeatMap) : Option (List (List SeatButton)) := gridButtons s.seatMap 0 0

/-- The buttons of a row at a position, with the counters wrapped around. -/
def buttonsOfRow (seatLNum : UInt16) (label : ℕ) (seatRNum : UInt16) (row : List Bool) :
    List SeatButton :=
  row.mapIdx fun j seat =>
    seatButton seat seatLNum (seatRNum + UInt16.ofNat j) ((label + j : ℕ) : ℤ)

/-- The buttons of a grid with n columns. -/
def buttonsOfGrid (n label : ℕ) (seatLNum : UInt16) (rows : List (List Bool)) :
    List (List SeatButton) :=
  rows.mapIdx fun i row => buttonsOfRow (seatLNum + UInt16.ofNat i) (label + i * n) 0 row

theorem add_ofNat_zero (num : UInt16) : num + UInt16.ofNat 0 = num := by simp

theorem add_ofNat_succ (num : UInt16) (k : ℕ) :
    num + UInt16.ofNat (k + 1) = num + 1 + UInt16.ofNat k := by
  rw [UInt16.ofNat_add, UInt16.add_assoc, UInt16.add_comm (UInt16.ofNat k)]
  rfl

theorem buttonsOfRow_cons (seatLNum : UInt16) (label : ℕ) (seatRNum : UInt16) (seat : Bool)
    (rest : List Bool) :
    buttonsOfRow seatLNum label seatRNum (seat :: rest) =
      seatButton seat seatLNum seatRNum label ::
        buttonsOfRow seatLNum (label + 1) (seatRNum + 1) rest := by
  rw [buttonsOfRow, List.mapIdx_cons, add_ofNat_zero, Nat.add_zero]
  refine congrArg (List.cons _) ?_
  simp only [buttonsOfRow, add_ofNat_succ, Nat.add_assoc, Nat.add_comm 1]

theorem buttonsOfGrid_cons (n label : ℕ) (seatLNum : UInt16) (row : List Bool)
    (rest : List (List Bool)) :
    buttonsOfGrid n label seatLNum (row :: rest) =
      buttonsOfRow seatLNum label 0 row ::
        buttonsOfGrid n (label + n) (seatLNum + 1) rest := by
  have hlabel : ∀ i, label + (i + 1) * n = label + n + i * n := by
    intro i
    rw [Nat.succ_mul]
    omega
  rw [buttonsOfGrid, List.mapIdx_cons, add_ofNat_zero, Nat.zero_mul, Nat.add_zero]
  refine congrArg (List.cons _) ?_
  simp only [buttonsOfGrid, add_ofNat_succ, hlabel]

/-- A row is drawn unless its labels run out of the ints. -/
theorem rowButtons_eq (seatLNum : UInt16) (row : List Bool) (label : ℕ) (seatRNum : UInt16)
    (hlabel : label < 2 ^ 31) :
    rowButtons seatLNum row label seatRNum =
      if label + row.length < 2 ^ 31 then
        some (buttonsOfRow seatLNum label seatRNum row, ((label + row.length : ℕ) : ℤ))
      else none := by
  induction row generalizing label seatRNum with
  | nil =>
    rw [List.length_nil, Nat.add_zero, if_pos hlabel]
    rfl
  | cons seat rest ih =>
    rw [rowButtons, List.length_cons]
    by_cases hnext : label + 1 < 2 ^ 31
    · have hint : int32 ((label : ℤ) + 1) = some ((label + 1 : ℕ) : ℤ) :=
        PackedDates.int32_of_lt (by omega) (by omega)
      have hlength : label + 1 + rest.length = label + (rest.length + 1) := by omega
      rw [hint, Option.bind_eq_bind, Option.bind_some, ih (label + 1) (seatRNum + 1) hnext,
        hlength]
      split
      · rw [buttonsOfRow_cons]
        rfl
      · rfl
    · rw [PackedDates.int32_of_ge (by omega), if_neg (by omega)]
      rfl

/-- A grid is drawn unless its labels run out of the ints. -/
theorem gridButtons_eq (n : ℕ) (rows : List (List Bool)) (hwidth : ∀ row ∈ rows, row.length = n)
    (label : ℕ) (seatLNum : UInt16) (hlabel : label < 2 ^ 31) :
    gridButtons rows label seatLNum =
      if label + rows.length * n < 2 ^ 31 then some (buttonsOfGrid n label seatLNum rows)
      else none := by
  induction rows generalizing label seatLNum with
  | nil =>
    rw [List.length_nil, Nat.zero_mul, Nat.add_zero, if_pos hlabel]
    rfl
  | cons row rest ih =>
    have hrow : row.length = n := hwidth row List.mem_cons_self
    have hcount : label + (row :: rest).length * n = label + n + rest.length * n := by
      rw [List.length_cons, Nat.succ_mul]
      omega
    rw [gridButtons, rowButtons_eq seatLNum row label 0 hlabel, hrow, hcount]
    by_cases hnext : label + n < 2 ^ 31
    · rw [if_pos hnext, Option.bind_eq_bind, Option.bind_some]
      simp only
      rw [ih (fun row' hrow' => hwidth row' (List.mem_cons_of_mem row hrow')) (label + n)
        (seatLNum + 1) hnext]
      split
      · rw [buttonsOfGrid_cons]
        rfl
      · rfl
    · rw [if_neg hnext, if_neg (by omega)]
      rfl

/-- The button at a position has the coordinates modulo 2^16. -/
theorem read_buttonsOfGrid (n : ℕ) (rows : List (List Bool)) (i j : ℕ) :
    Grid.read (buttonsOfGrid n 0 0 rows) i j = (Grid.read rows i j).map fun seat =>
      seatButton seat (UInt16.ofNat i) (UInt16.ofNat j) ((i * n + j : ℕ) : ℤ) := by
  rw [Grid.read_natCast, Grid.read_natCast, buttonsOfGrid, List.getElem?_mapIdx]
  cases rows[i]? with
  | none => rfl
  | some row =>
    simp only [Option.map_some, Option.bind_eq_bind, Option.bind_some, buttonsOfRow,
      List.getElem?_mapIdx, Nat.zero_add, UInt16.zero_add]

theorem shape_buttonsOfGrid {s : SeatMap} (h : Grid.Shape s.seatMap s.rows s.cols) (n : ℕ) :
    Grid.Shape (buttonsOfGrid n 0 0 s.seatMap) s.rows s.cols := by
  constructor
  · rw [buttonsOfGrid, List.length_mapIdx]
    exact h.1
  · intro buttons hbuttons
    obtain ⟨i, hi, rfl⟩ := List.exists_of_mem_mapIdx hbuttons
    rw [buttonsOfRow, List.length_mapIdx]
    exact h.2 _ (List.getElem_mem hi)

/-- The frame of a shaped map draws its buttons unless there are too many. -/
theorem seatButtons_eq {s : SeatMap} (h : Grid.Shape s.seatMap s.rows s.cols) :
    seatButtons s = if s.rows * s.cols < 2 ^ 31 then
      some (buttonsOfGrid s.cols.toNat 0 0 s.seatMap) else none := by
  have hwidth : ∀ row ∈ s.seatMap, row.length = s.cols.toNat := by
    intro row hrow
    have hcols := h.2 row hrow
    omega
  have hcount : ((s.seatMap.length * s.cols.toNat : ℕ) : ℤ) = s.rows * s.cols := by
    cases hrows : s.seatMap with
    | nil =>
      have hnone := h.1
      rw [hrows] at hnone
      rw [← hnone]
      simp
    | cons row rest =>
      have hcols := h.2 row (hrows ▸ List.mem_cons_self)
      rw [← hrows, Nat.cast_mul, h.1, Int.toNat_of_nonneg (by omega)]
  have hiff : 0 + s.seatMap.length * s.cols.toNat < 2 ^ 31 ↔ s.rows * s.cols < 2 ^ 31 := by
    rw [← hcount]
    omega
  exact (gridButtons_eq s.cols.toNat s.seatMap hwidth 0 0 (by omega)).trans
    (if_congr hiff rfl rfl)

/-- In a grid with n columns the labels count the seats row by row. -/
theorem seatAt_position {rows : List (List Bool)} {n i j : ℕ}
    (hwidth : ∀ row ∈ rows, row.length = n) (hi : i < rows.length) (hj : j < n) :
    seatAt rows (i * n + j) = some (i, j) := by
  induction rows generalizing i with
  | nil => contradiction
  | cons row rest ih =>
    have hrow : row.length = n := hwidth row List.mem_cons_self
    unfold seatAt
    rw [hrow]
    cases i with
    | zero =>
      rw [Nat.zero_mul, Nat.zero_add, if_pos hj]
    | succ i =>
      have hlater : ¬ (i + 1) * n + j < n := by
        rw [Nat.succ_mul]
        omega
      have hback : (i + 1) * n + j - n = i * n + j := by
        rw [Nat.succ_mul]
        omega
      rw [if_neg hlater, hback, ih (fun row' hrow' => hwidth row' (List.mem_cons_of_mem row hrow'))
        (Nat.lt_of_succ_lt_succ hi)]
      rfl

/-- In a frame that returns, a click has set the coordinates of the seat, modulo 2^16. -/
theorem seatMapGUI_click {gui gui' : Gui} {flight : Flight} {n i j : ℕ}
    (hactive : gui.session.activeFlight = some flight)
    (hwidth : ∀ row ∈ flight.seatMap.seatMap, row.length = n)
    (hi : i < flight.seatMap.seatMap.length) (hj : j < n)
    (h : seatMapGUI (.pressed (.seat (i * n + j))) gui = .ok gui') :
    gui'.session = (gui.selectSeat (i % 2 ^ 16) (j % 2 ^ 16)).session := by
  simp only [seatMapGUI, hactive] at h
  have hsession := (drawRows_session (by omega) h).2
  rw [hsession]
  simp only [clicked, Option.bind_some, Nat.zero_le, if_true, Nat.sub_zero,
    seatAt_position hwidth hi hj, Option.map_some, Nat.zero_add]
  rfl

/-- A shaped map whose texts fit gives them for every seat, in or out of range. -/
theorem gives_of_shaped {s : SeatMap} (h : s.Shaped) (hshort : ShortMap s) :
    Gives (fun _ => False) s := by
  have hget : ∀ grid, Grid.Shape grid s.rows s.cols → Grid.All Short grid → ∀ row col,
      Post (fun _ => False) Short (s.textAt grid row col) := by
    intro grid hshape hall row col
    unfold SeatMap.textAt
    split
    · next hin =>
      have hsome := (hshape.isSome_read_iff row col).mpr ((s.inRange_iff_bounds row col).mp hin)
      obtain ⟨text, htext⟩ := Option.isSome_iff_exists.mp hsome
      rw [SeatMap.element_of_read htext]
      exact hall.read htext
    · exact short_empty
  exact ⟨hget _ h.passenger hshort.names, hget _ h.email hshort.emails,
    hget _ h.maxLoad hshort.maxLoads⟩

/-- Whatever is clicked, the grid of such a map is drawn to its end. -/
theorem seatMapGUI_returns {gui : Gui} {flight : Flight} (input : Input)
    (hactive : gui.session.activeFlight = some flight) (h : flight.seatMap.Shaped)
    (hshort : ShortMap flight.seatMap) : ∃ gui', seatMapGUI input gui = .ok gui' := by
  have hdraw := post_drawRows (gives_of_shaped h hshort) input flight.seatMap.seatMap 0 0 gui
  simp only [seatMapGUI, hactive]
  cases hresult : drawRows flight input flight.seatMap.seatMap 0 0 gui with
  | error e =>
    rw [hresult] at hdraw
    exact hdraw.elim
  | ok gui' => exact ⟨gui', rfl⟩

/-- The button shows the seat at (i, j) with its coordinates, and a click selects it:
in every window that shows the map, whichever seat was selected before. A click is a
press that is reported for this button and no other; labels of a grid with millions of
seats can share an identifier, and then a press is reported for more than one. -/
structure ButtonOf (s : SeatMap) (i j : ℕ) (button : SeatButton) : Prop where
  shows : ∃ seat code, Grid.read s.seatMap i j = some seat ∧
    button.codeText = codeStart seat i j ++ code
  selects : button.selects = ((i : ℤ), (j : ℤ))
  click : s.Shaped → ShortMap s → ∀ gui flight, gui.session.activeFlight = some flight →
    flight.seatMap = s → ∃ gui',
      seatMapGUI (.pressed (.seat (i * s.cols.toNat + j))) gui = .ok gui' ∧
        gui'.session = { gui.session with selectedRowCol := ((i : ℤ), (j : ℤ)) }

/-- One button for each seat and no other. -/
def DrawsEverySeat (s : SeatMap) : Prop :=
  ∃ drawn, seatButtons s = some drawn ∧ Grid.Shape drawn s.rows s.cols ∧
    ∀ (i j : ℕ) button, Grid.read drawn i j = some button → ButtonOf s i j button

section Shape

variable {s : SeatMap} (h : Grid.Shape s.seatMap s.rows s.cols)
include h

/-- The labels have not run out, and the counters have not wrapped around on any seat. -/
theorem fits_of_drawsEverySeat (hdraws : DrawsEverySeat s) {i j : ℕ} (hi : (i : ℤ) < s.rows)
    (hj : (j : ℤ) < s.cols) : i < 2 ^ 16 ∧ j < 2 ^ 16 ∧ s.rows * s.cols < 2 ^ 31 := by
  obtain ⟨drawn, hdrawn, _, hbutton⟩ := hdraws
  rw [seatButtons_eq h] at hdrawn
  split at hdrawn
  · next hfits =>
    have hsome := (h.isSome_read_iff i j).mpr ⟨⟨by omega, hi⟩, ⟨by omega, hj⟩⟩
    obtain ⟨seat, hseat⟩ := Option.isSome_iff_exists.mp hsome
    have hread := read_buttonsOfGrid s.cols.toNat s.seatMap i j
    rw [hseat, Option.some.inj hdrawn] at hread
    have hselects := (hbutton i j _ hread).selects
    simp only [seatButton, UInt16.toNat_ofNat', Prod.mk.injEq, Nat.cast_inj] at hselects
    omega
  · contradiction

theorem buttonOf_position (hrows : s.rows ≤ 2 ^ 16) (hcols : s.cols ≤ 2 ^ 16) {i j : ℕ}
    {seat : Bool} (hseat : Grid.read s.seatMap i j = some seat) (label : ℤ) :
    ButtonOf s i j (seatButton seat (UInt16.ofNat i) (UInt16.ofNat j) label) := by
  have hin := (h.isSome_read_iff i j).mp (Option.isSome_iff_exists.mpr ⟨seat, hseat⟩)
  have hrow : i % 2 ^ 16 = i := Nat.mod_eq_of_lt (by omega)
  have hcol : j % 2 ^ 16 = j := Nat.mod_eq_of_lt (by omega)
  let code := SeatCode.generateSeatCode (UInt16.ofNat i) (UInt16.ofNat j) ++
    ("###Btn_Seat_" ++ toString label)
  refine ⟨⟨seat, code, hseat, ?_⟩, ?_, ?_⟩
  · simp only [seatButton, UInt16.toNat_ofNat', hrow, hcol, code]
  · simp only [seatButton, UInt16.toNat_ofNat', hrow, hcol]
  · intro hshaped hshort gui flight hactive hmap
    subst hmap
    obtain ⟨gui', hreturns⟩ := seatMapGUI_returns
      (.pressed (.seat (i * flight.seatMap.cols.toNat + j))) hactive hshaped hshort
    refine ⟨gui', hreturns, ?_⟩
    have hwidth : ∀ row ∈ flight.seatMap.seatMap, row.length = flight.seatMap.cols.toNat := by
      intro row hmem
      have hlength := h.2 row hmem
      omega
    have hlength := h.1
    rw [seatMapGUI_click hactive hwidth (by omega) (by omega) hreturns, hrow, hcol]
    rfl

/-- Every seat is shown and selected by its own button exactly when the grid has no seat,
or neither of its dimensions exceeds 2^16 and it has less than 2^31 seats. -/
theorem drawsEverySeat_iff :
    DrawsEverySeat s ↔
      s.rows = 0 ∨ s.cols = 0 ∨ s.rows ≤ 2 ^ 16 ∧ s.cols ≤ 2 ^ 16 ∧ s.rows * s.cols < 2 ^ 31 := by
  constructor
  · intro hdraws
    by_cases hrows : s.rows = 0
    · exact Or.inl hrows
    · by_cases hcols : s.cols = 0
      · exact Or.inr (Or.inl hcols)
      · have hlength := h.1
        have hwidth : 0 < s.cols := by
          obtain ⟨row, hrow⟩ := List.exists_mem_of_length_pos (l := s.seatMap) (by omega)
          have hpos := h.2 row hrow
          omega
        -- the counters have reached the last seat
        obtain ⟨hi, hj, hseats⟩ := fits_of_drawsEverySeat h hdraws (i := s.rows.toNat - 1)
          (j := s.cols.toNat - 1) (by omega) (by omega)
        exact Or.inr (Or.inr ⟨by omega, by omega, hseats⟩)
  · intro hcond
    have hseats : s.rows * s.cols < 2 ^ 31 := by
      rcases hcond with hrows | hcols | hfits
      · rw [hrows, Int.zero_mul]
        omega
      · rw [hcols, Int.mul_zero]
        omega
      · exact hfits.2.2
    refine ⟨_, (seatButtons_eq h).trans (if_pos hseats), shape_buttonsOfGrid h _, ?_⟩
    intro i j button hread
    rw [read_buttonsOfGrid] at hread
    obtain ⟨seat, hseat, rfl⟩ := Option.map_eq_some_iff.mp hread
    have hin := (h.isSome_read_iff i j).mp (Option.isSome_iff_exists.mpr ⟨seat, hseat⟩)
    rcases hcond with hrows | hcols | hfits
    · omega
    · omega
    · exact buttonOf_position h hfits.1 hfits.2.1 hseat _

end Shape

/-- A flight of thirty rows. -/
theorem thirty_rows_drawn : DrawsEverySeat (SeatMap.vacant 30 6) := by
  have hshape := (SeatMap.shaped_vacant 30 6 (by omega) (by omega)).seat
  exact (drawsEverySeat_iff hshape).mpr (Or.inr (Or.inr ⟨by decide, by decide, by decide⟩))

/-- One seat in each of 65537 rows, of which the last is taken. -/
def lastTaken : SeatMap := (SeatMap.vacant 65537 1).putCell 65536 0 (Cell.taken "Ann" "" "")

theorem first_button :
    seatButton false 0 0 65536 = ⟨"TAKEN (0,0) A0###Btn_Seat_65536", (0, 0)⟩ := by
  have hcode : SeatCode.generateSeatCode 0 0 = "A0" := by
    rw [SeatCode.generateSeatCode, SeatCode.loop, if_neg (by decide)]
    decide
  rw [seatButton, hcode]
  decide

/-- The button of the last row has the coordinates of the first, and selects it. -/
theorem last_row_not_selected :
    lastTaken.Shaped ∧
      (seatButtons lastTaken).bind (fun drawn => Grid.read drawn 65536 0) =
        some ⟨"TAKEN (0,0) A0###Btn_Seat_65536", (0, 0)⟩ ∧
      ¬ DrawsEverySeat lastTaken := by
  have hshaped : lastTaken.Shaped :=
    (SeatMap.shaped_vacant 65537 1 (by omega) (by omega)).putCell 65536 0 _
  refine ⟨hshaped, ?_, ?_⟩
  · have hseat : Grid.read lastTaken.seatMap 65536 0 = some false := by
      simp only [lastTaken, SeatMap.putCell, SeatMap.vacant, Cell.taken, Grid.read_put,
        Grid.read_fill]
      decide
    have hdrawn : seatButtons lastTaken = some (buttonsOfGrid 1 0 0 lastTaken.seatMap) :=
      (seatButtons_eq hshaped.seat).trans (if_pos (by decide))
    have hread := read_buttonsOfGrid 1 lastTaken.seatMap 65536 0
    rw [hdrawn, Option.bind_some]
    refine hread.trans ?_
    rw [Nat.cast_ofNat, Nat.cast_zero, hseat]
    exact congrArg some first_button
  · intro hdraws
    have hlast := (fits_of_drawsEverySeat hshaped.seat hdraws (i := 65536) (j := 0)
      (by decide) (by decide)).1
    omega

end AirlineReservation.SeatButtons
