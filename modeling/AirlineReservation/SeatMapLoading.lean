import AirlineReservation.SeatCells

/-!
Construction and loading of a seat map. Rows inside the map fill one cell each
and the last row of a seat decides; the first row outside makes the load
undefined.
-/

namespace AirlineReservation.SeatMap

variable {s : SeatMap}

theorem shaped_vacant (rows cols : ℤ) (hrows : 0 ≤ rows) (hcols : 0 ≤ cols) :
    (vacant rows cols).Shaped :=
  ⟨Grid.shape_fill rows cols hrows hcols true, Grid.shape_fill rows cols hrows hcols "",
    Grid.shape_fill rows cols hrows hcols "", Grid.shape_fill rows cols hrows hcols ""⟩

theorem cell?_vacant (rows cols r c : ℤ) :
    (vacant rows cols).cell? r c =
      if (vacant rows cols).InRange r c then some Cell.free else none := by
  by_cases hin : (vacant rows cols).InRange r c
  · have hbounds : (0 ≤ r ∧ r < rows) ∧ (0 ≤ c ∧ c < cols) :=
      ((vacant rows cols).inRange_iff_bounds r c).mp hin
    rw [if_pos hin]
    simp [cell?, vacant, Grid.read_fill, hbounds, Cell.free]
  · have hbounds : ¬ ((0 ≤ r ∧ r < rows) ∧ (0 ≤ c ∧ c < cols)) :=
      fun hbounds => hin (((vacant rows cols).inRange_iff_bounds r c).mpr hbounds)
    rw [if_neg hin]
    simp [cell?, vacant, Grid.read_fill, hbounds]

theorem new_eq_vacant (rows cols : ℤ) (hrows : 0 ≤ rows) (hcols : 0 ≤ cols) :
    SeatMap.new rows cols = .ok (vacant rows cols) := by
  rw [SeatMap.new, internalInitMaps, if_neg (by simp only; omega)]
  simp only [Grid.resize_nil, vacant]

/-- Initialising a shaped map again for the dimensions it has keeps its contents. -/
theorem Shaped.internalInitMaps (h : s.Shaped) (hcols : 0 ≤ s.cols) :
    s.internalInitMaps = .ok s := by
  have hrows := h.seat.rows_nonneg
  rw [SeatMap.internalInitMaps, if_neg (by omega)]
  simp only [h.seat.resize_self, h.passenger.resize_self, h.email.resize_self,
    h.maxLoad.resize_self]

theorem Shaped.loadBooking (h : s.Shaped) (b : BookingInformation)
    (hin : s.InRange b.row b.col) :
    s.loadBooking b = .ok (s.putCell b.row b.col (Cell.ofRow b)) := by
  obtain ⟨x, h1, h2, h3, h4⟩ := h.reads b.row b.col hin
  simp only [SeatMap.loadBooking, assign_of_read h1, assign_of_read h2, assign_of_read h3,
    assign_of_read h4]
  rfl

/-- The cell of a seat after the rows of a table were loaded over `old`: the
last row of the seat decides. -/
def loadedCell (rows : List BookingInformation) (old : Cell) : Cell :=
  (rows.getLast?.map Cell.ofRow).getD old

theorem loadedCell_free {rows : List BookingInformation}
    (h : (loadedCell rows Cell.free).available = true) : loadedCell rows Cell.free = Cell.free := by
  unfold loadedCell at h ⊢
  cases hlast : rows.getLast? with
  | none => rfl
  | some b =>
    rw [hlast] at h
    contradiction

/-- The load loop over rows that all lie inside the map. -/
theorem Shaped.foldlM_loadBooking (h : s.Shaped) (bookingInfos : List BookingInformation)
    (hin : ∀ b ∈ bookingInfos, s.InRange b.row b.col) :
    ∃ s', bookingInfos.foldlM SeatMap.loadBooking s = .ok s' ∧ s'.Shaped ∧
      s'.rows = s.rows ∧ s'.cols = s.cols ∧
      ∀ r c, s'.cell? r c = (s.cell? r c).map
        (loadedCell (RowTable.rowsAt BookingInformation.seat (r, c) bookingInfos)) := by
  induction bookingInfos generalizing s with
  | nil =>
    refine ⟨s, rfl, h, rfl, rfl, ?_⟩
    intro r c
    have hkeep : loadedCell [] = id := rfl
    rw [RowTable.rowsAt_nil, hkeep, Option.map_id_fun, id]
  | cons b rest ih =>
    have hb := hin b List.mem_cons_self
    have hput := h.putCell b.row b.col (Cell.ofRow b)
    obtain ⟨s', hrun, hshaped, hrows, hcols, hcells⟩ :=
      ih hput (fun b' hb' => hin b' (List.mem_cons_of_mem b hb'))
    refine ⟨s', ?_, hshaped, hrows, hcols, ?_⟩
    · rw [List.foldlM_cons, h.loadBooking b hb]
      exact hrun
    · intro r c
      rw [hcells r c, RowTable.rowsAt_cons]
      by_cases hseat : b.seat = (r, c)
      · obtain ⟨rfl, rfl⟩ := Prod.mk.inj hseat
        obtain ⟨x, hx⟩ := h.exists_cell b.row b.col hb
        rw [cell?_putCell_self s hx, hx, if_pos hseat]
        simp only [Option.map_some, loadedCell, List.getLast?_cons]
        cases (RowTable.rowsAt BookingInformation.seat (b.row, b.col) rest).getLast? <;> rfl
      · rw [cell?_putCell_ne s _ (Ne.symm hseat), if_neg hseat]

/-- A row outside the map makes the first unchecked write miss. -/
theorem Shaped.loadBooking_outside (h : s.Shaped) (b : BookingInformation)
    (hout : ¬ s.InRange b.row b.col) : s.loadBooking b = .error .outOfRange := by
  have hread : Grid.read s.seatMap b.row b.col = none := by
    apply h.seat.read_eq_none
    rwa [← s.inRange_iff_bounds]
  have hwrite : assign s.seatMap b.row b.col false = .error .outOfRange := by
    simp [assign, Grid.write, hread]
  simp only [SeatMap.loadBooking, hwrite]
  rfl

theorem Shaped.foldlM_loadBooking_outside (h : s.Shaped)
    (bookingInfos : List BookingInformation) (b : BookingInformation) (hb : b ∈ bookingInfos)
    (hout : ¬ s.InRange b.row b.col) :
    bookingInfos.foldlM SeatMap.loadBooking s = .error .outOfRange := by
  induction bookingInfos generalizing s with
  | nil => contradiction
  | cons first rest ih =>
    rw [List.foldlM_cons]
    by_cases hfirst : s.InRange first.row first.col
    · rw [h.loadBooking first hfirst]
      rcases List.mem_cons.mp hb with rfl | hrest
      · exact absurd hfirst hout
      · exact ih (h.putCell first.row first.col (Cell.ofRow first)) hrest hout
    · rw [h.loadBooking_outside first hfirst]
      rfl

/-- A fresh map of the flight's dimensions goes straight into the load loop. -/
theorem loadBookings_vacant_eq (flightInfo : FlightInformation)
    (bookingInfos : List BookingInformation) (hrows : 0 ≤ flightInfo.rows)
    (hcols : 0 ≤ flightInfo.cols) :
    (vacant flightInfo.rows flightInfo.cols).loadBookings flightInfo bookingInfos =
      bookingInfos.foldlM SeatMap.loadBooking (vacant flightInfo.rows flightInfo.cols) := by
  have hinit := (shaped_vacant flightInfo.rows flightInfo.cols hrows hcols).internalInitMaps hcols
  rw [loadBookings]
  change (do
    let s ← (vacant flightInfo.rows flightInfo.cols).internalInitMaps
    bookingInfos.foldlM SeatMap.loadBooking s) = _
  rw [hinit]
  rfl

/-- Loading rows inside the flight's dimensions into a fresh map of them. -/
theorem loadBookings_vacant (flightInfo : FlightInformation)
    (bookingInfos : List BookingInformation) (hrows : 0 ≤ flightInfo.rows)
    (hcols : 0 ≤ flightInfo.cols)
    (hin : ∀ b ∈ bookingInfos, (vacant flightInfo.rows flightInfo.cols).InRange b.row b.col) :
    ∃ s', (vacant flightInfo.rows flightInfo.cols).loadBookings flightInfo bookingInfos = .ok s' ∧
      s'.Shaped ∧ s'.rows = flightInfo.rows ∧ s'.cols = flightInfo.cols ∧
      ∀ r c, s'.cell? r c = ((vacant flightInfo.rows flightInfo.cols).cell? r c).map
        (loadedCell (RowTable.rowsAt BookingInformation.seat (r, c) bookingInfos)) := by
  have hshaped := shaped_vacant flightInfo.rows flightInfo.cols hrows hcols
  obtain ⟨s', hrun, h⟩ := hshaped.foldlM_loadBooking bookingInfos hin
  exact ⟨s', (loadBookings_vacant_eq flightInfo bookingInfos hrows hcols).trans hrun, h⟩

/-- A row outside the flight's dimensions makes the load undefined. -/
theorem loadBookings_vacant_outside (flightInfo : FlightInformation)
    (bookingInfos : List BookingInformation) (hrows : 0 ≤ flightInfo.rows)
    (hcols : 0 ≤ flightInfo.cols) (b : BookingInformation) (hb : b ∈ bookingInfos)
    (hout : ¬ (vacant flightInfo.rows flightInfo.cols).InRange b.row b.col) :
    (vacant flightInfo.rows flightInfo.cols).loadBookings flightInfo bookingInfos =
      .error .outOfRange := by
  rw [loadBookings_vacant_eq flightInfo bookingInfos hrows hcols]
  exact (shaped_vacant flightInfo.rows flightInfo.cols hrows hcols).foldlM_loadBooking_outside
    bookingInfos b hb hout

end AirlineReservation.SeatMap
