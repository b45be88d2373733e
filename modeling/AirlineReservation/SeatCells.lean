import AirlineReservation.SeatMap

/-!
The seats of a map. `Shaped` says that the four grids have the dimensions, so
that the range check is exactly the existence of what is indexed; under it each
operation reads or overwrites one `Cell`.
-/

namespace AirlineReservation

/-- What the four grids hold for one seat. -/
@[ext]
structure Cell where
  available : Bool
  name : String
  email : String
  maxLoad : String
  deriving DecidableEq, Repr

namespace Cell

def free : Cell := ⟨true, "", "", ""⟩

def taken (name email maxLoad : String) : Cell := ⟨false, name, email, maxLoad⟩

/-- The booking row that stores the cell's texts for a seat. -/
def row (x : Cell) (r c : ℤ) : BookingInformation := ⟨x.name, x.email, x.maxLoad, r, c⟩

/-- The cell that a booking row fills. -/
def ofRow (b : BookingInformation) : Cell := taken b.name b.email b.maxLoad

theorem row_ofRow (b : BookingInformation) : (ofRow b).row b.row b.col = b := rfl

end Cell

namespace SeatMap

def cell? (s : SeatMap) (row col : ℤ) : Option Cell := do
  let available ← Grid.read s.seatMap row col
  let name ← Grid.read s.passengerMap row col
  let email ← Grid.read s.emailMap row col
  let maxLoad ← Grid.read s.maxLoadMap row col
  return ⟨available, name, email, maxLoad⟩

/-- Overwrite all four grids at one seat. -/
def putCell (s : SeatMap) (row col : ℤ) (x : Cell) : SeatMap :=
  { s with
    seatMap := Grid.put s.seatMap row col x.available
    passengerMap := Grid.put s.passengerMap row col x.name
    emailMap := Grid.put s.emailMap row col x.email
    maxLoadMap := Grid.put s.maxLoadMap row col x.maxLoad }

/-- The map with every seat available. -/
def vacant (rows cols : ℤ) : SeatMap :=
  ⟨rows, cols, Grid.fill rows cols true, Grid.fill rows cols "", Grid.fill rows cols "",
    Grid.fill rows cols ""⟩

/-- The four grids have exactly `rows` rows of exactly `cols` entries. -/
structure Shaped (s : SeatMap) : Prop where
  seat : Grid.Shape s.seatMap s.rows s.cols
  passenger : Grid.Shape s.passengerMap s.rows s.cols
  email : Grid.Shape s.emailMap s.rows s.cols
  maxLoad : Grid.Shape s.maxLoadMap s.rows s.cols

variable {s : SeatMap}

/-- The range check in the form in which the grids state their bounds. -/
theorem inRange_iff_bounds (s : SeatMap) (row col : ℤ) :
    s.InRange row col ↔ (0 ≤ row ∧ row < s.rows) ∧ (0 ≤ col ∧ col < s.cols) :=
  and_assoc.symm

theorem Shaped.putCell (h : s.Shaped) (row col : ℤ) (x : Cell) :
    (s.putCell row col x).Shaped :=
  ⟨h.seat.put row col x.available, h.passenger.put row col x.name,
    h.email.put row col x.email, h.maxLoad.put row col x.maxLoad⟩

/-- Under `Shaped` the range check is exactly the existence of all four entries. -/
theorem Shaped.reads (h : s.Shaped) (row col : ℤ) (hin : s.InRange row col) :
    ∃ x : Cell, Grid.read s.seatMap row col = some x.available ∧
      Grid.read s.passengerMap row col = some x.name ∧
      Grid.read s.emailMap row col = some x.email ∧
      Grid.read s.maxLoadMap row col = some x.maxLoad := by
  have hbounds := (s.inRange_iff_bounds row col).mp hin
  obtain ⟨a, ha⟩ := Option.isSome_iff_exists.mp ((h.seat.isSome_read_iff row col).mpr hbounds)
  obtain ⟨n, hn⟩ := Option.isSome_iff_exists.mp
    ((h.passenger.isSome_read_iff row col).mpr hbounds)
  obtain ⟨e, he⟩ := Option.isSome_iff_exists.mp ((h.email.isSome_read_iff row col).mpr hbounds)
  obtain ⟨m, hm⟩ := Option.isSome_iff_exists.mp
    ((h.maxLoad.isSome_read_iff row col).mpr hbounds)
  exact ⟨⟨a, n, e, m⟩, ha, hn, he, hm⟩

theorem cell?_eq_some_iff (s : SeatMap) (row col : ℤ) (x : Cell) :
    s.cell? row col = some x ↔ Grid.read s.seatMap row col = some x.available ∧
      Grid.read s.passengerMap row col = some x.name ∧
      Grid.read s.emailMap row col = some x.email ∧
      Grid.read s.maxLoadMap row col = some x.maxLoad := by
  unfold cell?
  cases Grid.read s.seatMap row col <;> cases Grid.read s.passengerMap row col <;>
    cases Grid.read s.emailMap row col <;> cases Grid.read s.maxLoadMap row col <;>
    simp [Cell.ext_iff]

theorem Shaped.exists_cell (h : s.Shaped) (row col : ℤ) (hin : s.InRange row col) :
    ∃ x, s.cell? row col = some x := by
  obtain ⟨x, hx⟩ := h.reads row col hin
  exact ⟨x, (cell?_eq_some_iff s row col x).mpr hx⟩

theorem Shaped.cell?_eq_none (h : s.Shaped) (row col : ℤ) (hout : ¬ s.InRange row col) :
    s.cell? row col = none := by
  have hread : Grid.read s.seatMap row col = none := by
    apply h.seat.read_eq_none
    rwa [← s.inRange_iff_bounds]
  simp [cell?, hread]

theorem Shaped.inRange_of_cell? (h : s.Shaped) {row col : ℤ} {x : Cell}
    (hx : s.cell? row col = some x) : s.InRange row col := by
  by_contra hout
  rw [h.cell?_eq_none row col hout] at hx
  contradiction

/-- A written seat shows the new cell, every other seat is unchanged. -/
theorem cell?_putCell (s : SeatMap) (row col r c : ℤ) (x : Cell) :
    (s.putCell row col x).cell? r c =
      if r = row ∧ c = col then (s.cell? row col).map fun _ => x else s.cell? r c := by
  by_cases heq : r = row ∧ c = col
  · obtain ⟨rfl, rfl⟩ := heq
    simp only [cell?, SeatMap.putCell, Grid.read_put, and_self, if_true]
    cases Grid.read s.seatMap r c <;> cases Grid.read s.passengerMap r c <;>
      cases Grid.read s.emailMap r c <;> cases Grid.read s.maxLoadMap r c <;> rfl
  · simp only [cell?, SeatMap.putCell, Grid.read_put, if_neg heq]

theorem cell?_putCell_self (s : SeatMap) {row col : ℤ} {y : Cell}
    (hy : s.cell? row col = some y) (x : Cell) :
    (s.putCell row col x).cell? row col = some x := by
  simp [cell?_putCell, hy]

theorem cell?_putCell_ne (s : SeatMap) {row col r c : ℤ} (x : Cell)
    (hne : (r, c) ≠ (row, col)) : (s.putCell row col x).cell? r c = s.cell? r c := by
  have hne' : ¬ (r = row ∧ c = col) := by
    intro hsame
    obtain ⟨rfl, rfl⟩ := hsame
    exact hne rfl
  rw [cell?_putCell, if_neg hne']

/-- Shaped maps with the same dimensions and the same cells are equal. -/
theorem Shaped.ext {s' : SeatMap} (h : s.Shaped) (h' : s'.Shaped) (hrows : s.rows = s'.rows)
    (hcols : s.cols = s'.cols) (hcell : ∀ r c, s.cell? r c = s'.cell? r c) : s = s' := by
  have hreads : ∀ r c, Grid.read s.seatMap r c = Grid.read s'.seatMap r c ∧
      Grid.read s.passengerMap r c = Grid.read s'.passengerMap r c ∧
      Grid.read s.emailMap r c = Grid.read s'.emailMap r c ∧
      Grid.read s.maxLoadMap r c = Grid.read s'.maxLoadMap r c := by
    intro r c
    by_cases hin : s.InRange r c
    · obtain ⟨x, hx⟩ := h.exists_cell r c hin
      have hx' : s'.cell? r c = some x := (hcell r c).symm.trans hx
      obtain ⟨h1, h2, h3, h4⟩ := (cell?_eq_some_iff s r c x).mp hx
      obtain ⟨h1', h2', h3', h4'⟩ := (cell?_eq_some_iff s' r c x).mp hx'
      exact ⟨h1.trans h1'.symm, h2.trans h2'.symm, h3.trans h3'.symm, h4.trans h4'.symm⟩
    · have hout := hin
      rw [s.inRange_iff_bounds] at hout
      have hout' := hout
      rw [hrows, hcols] at hout'
      exact ⟨(h.seat.read_eq_none r c hout).trans (h'.seat.read_eq_none r c hout').symm,
        (h.passenger.read_eq_none r c hout).trans (h'.passenger.read_eq_none r c hout').symm,
        (h.email.read_eq_none r c hout).trans (h'.email.read_eq_none r c hout').symm,
        (h.maxLoad.read_eq_none r c hout).trans (h'.maxLoad.read_eq_none r c hout').symm⟩
  have hseat := h.seat
  have hpassenger := h.passenger
  have hemail := h.email
  have hmaxLoad := h.maxLoad
  rw [hrows, hcols] at hseat hpassenger hemail hmaxLoad
  have e1 := hseat.ext h'.seat fun r c => (hreads r c).1
  have e2 := hpassenger.ext h'.passenger fun r c => (hreads r c).2.1
  have e3 := hemail.ext h'.email fun r c => (hreads r c).2.2.1
  have e4 := hmaxLoad.ext h'.maxLoad fun r c => (hreads r c).2.2.2
  cases s
  cases s'
  simp_all

theorem element_of_read {α : Type*} {grid : List (List α)} {row col : ℤ} {v : α}
    (h : Grid.read grid row col = some v) : element grid row col = .ok v := by
  simp [element, h]

theorem assign_of_read {α : Type*} {grid : List (List α)} {row col : ℤ} {v : α}
    (h : Grid.read grid row col = some v) (w : α) :
    assign grid row col w = .ok (Grid.put grid row col w) := by
  simp [assign, Grid.write_of_isSome (Option.isSome_of_eq_some h)]

theorem Shaped.isSeatAvailable (h : s.Shaped) {row col : ℤ} {x : Cell}
    (hx : s.cell? row col = some x) : s.isSeatAvailable row col = .ok x.available := by
  rw [SeatMap.isSeatAvailable, if_pos (h.inRange_of_cell? hx)]
  exact element_of_read ((cell?_eq_some_iff s row col x).mp hx).1

theorem isSeatAvailable_of_not_inRange {row col : ℤ} (hout : ¬ s.InRange row col) :
    s.isSeatAvailable row col = .ok false := by
  rw [SeatMap.isSeatAvailable, if_neg hout]

theorem Shaped.bookSeat_of_available (h : s.Shaped) {row col : ℤ} {x : Cell}
    (hx : s.cell? row col = some x) (hfree : x.available = true) (name email maxLoad : String) :
    s.bookSeat row col name email maxLoad =
      .ok (true, s.putCell row col (Cell.taken name email maxLoad)) := by
  obtain ⟨h1, h2, h3, h4⟩ := (cell?_eq_some_iff s row col x).mp hx
  simp only [bookSeat, h.isSeatAvailable hx, hfree, assign_of_read h1, assign_of_read h2,
    assign_of_read h3, assign_of_read h4]
  rfl

theorem Shaped.bookSeat_of_taken (h : s.Shaped) {row col : ℤ} {x : Cell}
    (hx : s.cell? row col = some x) (htaken : x.available = false)
    (name email maxLoad : String) :
    s.bookSeat row col name email maxLoad = .ok (false, s) := by
  simp only [bookSeat, h.isSeatAvailable hx, htaken]
  rfl

theorem bookSeat_of_not_inRange {row col : ℤ} (hout : ¬ s.InRange row col)
    (name email maxLoad : String) :
    s.bookSeat row col name email maxLoad = .ok (false, s) := by
  simp only [bookSeat, isSeatAvailable_of_not_inRange hout]
  rfl

theorem Shaped.cancelBooking_of_inRange (h : s.Shaped) {row col : ℤ}
    (hin : s.InRange row col) :
    s.cancelBooking row col = .ok (s.putCell row col Cell.free) := by
  obtain ⟨x, h1, h2, h3, h4⟩ := h.reads row col hin
  simp only [cancelBooking, if_pos hin, assign_of_read h1, assign_of_read h2,
    assign_of_read h3, assign_of_read h4]
  rfl

theorem cancelBooking_of_not_inRange {row col : ℤ} (hout : ¬ s.InRange row col) :
    s.cancelBooking row col = .ok s := by
  rw [cancelBooking, if_neg hout]

theorem Shaped.getPassengerName (h : s.Shaped) {row col : ℤ} {x : Cell}
    (hx : s.cell? row col = some x) : s.getPassengerName row col = .ok x.name := by
  rw [SeatMap.getPassengerName, textAt, if_pos (h.inRange_of_cell? hx)]
  exact element_of_read ((cell?_eq_some_iff s row col x).mp hx).2.1

theorem Shaped.getEmail (h : s.Shaped) {row col : ℤ} {x : Cell}
    (hx : s.cell? row col = some x) : s.getEmail row col = .ok x.email := by
  rw [SeatMap.getEmail, textAt, if_pos (h.inRange_of_cell? hx)]
  exact element_of_read ((cell?_eq_some_iff s row col x).mp hx).2.2.1

theorem Shaped.getMaxLoad (h : s.Shaped) {row col : ℤ} {x : Cell}
    (hx : s.cell? row col = some x) : s.getMaxLoad row col = .ok x.maxLoad := by
  rw [SeatMap.getMaxLoad, textAt, if_pos (h.inRange_of_cell? hx)]
  exact element_of_read ((cell?_eq_some_iff s row col x).mp hx).2.2.2

/-- The grids have the dimensions and a free seat holds no text. -/
structure Valid (s : SeatMap) : Prop where
  shaped : s.Shaped
  cleared : ∀ r c x, s.cell? r c = some x → x.available = true → x = Cell.free

theorem Valid.putCell (h : s.Valid) (r c : ℤ) (x : Cell)
    (hx : x.available = true → x = Cell.free) : (s.putCell r c x).Valid := by
  refine ⟨h.shaped.putCell r c x, ?_⟩
  intro r' c' y hy
  rw [SeatMap.cell?_putCell] at hy
  split at hy
  · obtain ⟨_, _, rfl⟩ := Option.map_eq_some_iff.mp hy
    exact hx
  · exact h.cleared r' c' y hy

theorem Valid.putTaken (h : s.Valid) (r c : ℤ)
    (name email maxLoad : String) : (s.putCell r c (Cell.taken name email maxLoad)).Valid :=
  h.putCell r c _ (fun hfree => by simp [Cell.taken] at hfree)

theorem Valid.putFree (h : s.Valid) (r c : ℤ) :
    (s.putCell r c Cell.free).Valid :=
  h.putCell r c _ (fun _ => rfl)

/-- Writing a seat twice leaves the second cell. -/
theorem Shaped.putCell_putCell (h : s.Shaped) (r c : ℤ) (x y : Cell) :
    (s.putCell r c x).putCell r c y = s.putCell r c y := by
  apply ((h.putCell r c x).putCell r c y).ext (h.putCell r c y) rfl rfl
  intro r' c'
  simp only [SeatMap.cell?_putCell]
  split
  · cases s.cell? r c <;> simp
  · rfl

/-- Cancelling and booking again overwrites the cell, whatever it held. -/
theorem Shaped.cancelBooking_bookSeat (h : s.Shaped) {r c : ℤ}
    (hin : s.InRange r c) (name email maxLoad : String) :
    (s.cancelBooking r c >>= fun s => s.bookSeat r c name email maxLoad) =
      .ok (true, s.putCell r c (Cell.taken name email maxLoad)) := by
  obtain ⟨y, hy⟩ := h.exists_cell r c hin
  have hcleared := cell?_putCell_self s hy Cell.free
  have hbook := (h.putCell r c Cell.free).bookSeat_of_available hcleared rfl name email maxLoad
  rw [h.putCell_putCell] at hbook
  rw [h.cancelBooking_of_inRange hin]
  exact hbook

end SeatMap

end AirlineReservation
