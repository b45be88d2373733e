import AirlineReservation.SeatMapShape

/-!
Loading a flight into a seat map that was in use. `Internal_InitMaps` means to
start from available seats, yet `resize` keeps the rows that survive, with their
width and their bookings; so what a load gives depends on what the map held.
-/

namespace AirlineReservation.Reloading

open BookingInformation SeatMapShape

/-- All seats free except those of the rows, the last row of a seat deciding. -/
def loadedMap (flightInfo : FlightInformation) (bookingInfos : List BookingInformation) :
    SeatMap :=
  bookingInfos.foldl (fun s b => s.putCell b.row b.col (Cell.ofRow b))
    (SeatMap.vacant flightInfo.rows flightInfo.cols)

/-- No old seat shows through: no row of the map survives, or those that do have
the width of the flight and are free wherever the table has no row. -/
def LeavesNothing (s : SeatMap) (flightInfo : FlightInformation)
    (bookingInfos : List BookingInformation) : Prop :=
  s.rows = 0 ∨ flightInfo.rows = 0 ∨
    s.cols = flightInfo.cols ∧ ∀ r c x, r < flightInfo.rows → s.cell? r c = some x →
      seatRows bookingInfos r c = [] → x = Cell.free

section Load

variable {s : SeatMap} {flightInfo : FlightInformation} {bookingInfos : List BookingInformation}
  (hrows : 0 ≤ flightInfo.rows) (hcols : 0 ≤ flightInfo.cols)

/-- The load loop writes the rows one after the other. -/
theorem foldlM_loadBooking_eq (h : s.Shaped)
    (hin : ∀ b ∈ bookingInfos, s.InRange b.row b.col) :
    bookingInfos.foldlM SeatMap.loadBooking s =
      .ok (bookingInfos.foldl (fun s b => s.putCell b.row b.col (Cell.ofRow b)) s) := by
  induction bookingInfos generalizing s with
  | nil => rfl
  | cons b rest ih =>
    have hb := hin b List.mem_cons_self
    rw [List.foldlM_cons, h.loadBooking b hb]
    exact ih (h.putCell b.row b.col (Cell.ofRow b))
      fun b' hb' => hin b' (List.mem_cons_of_mem b hb')

/-- A cell of the resized map is an old one or, below the old rows, a free one. -/
theorem cell?_resized (h : s.Shaped) {r c : ℤ}
    (hin : (resized s flightInfo).InRange r c) :
    (resized s flightInfo).cell? r c = if r < s.rows then s.cell? r c else some Cell.free := by
  obtain ⟨hr, hrlt, hc, hclt⟩ := hin
  change r < flightInfo.rows at hrlt
  change c < flightInfo.cols at hclt
  have hlen := h.seat.1
  have hlen' := h.passenger.1
  have hlen'' := h.email.1
  have hlen''' := h.maxLoad.1
  by_cases hkept : r < s.rows
  · rw [if_pos hkept]
    simp only [SeatMap.cell?, resized]
    rw [Grid.read_resize_kept _ _ _ r c hrlt (by omega),
      Grid.read_resize_kept _ _ _ r c hrlt (by omega),
      Grid.read_resize_kept _ _ _ r c hrlt (by omega),
      Grid.read_resize_kept _ _ _ r c hrlt (by omega)]
  · rw [if_neg hkept]
    simp only [SeatMap.cell?, resized]
    rw [Grid.read_resize_new _ _ _ _ r c hrlt (by omega) hc hclt,
      Grid.read_resize_new _ _ _ _ r c hrlt (by omega) hc hclt,
      Grid.read_resize_new _ _ _ _ r c hrlt (by omega) hc hclt,
      Grid.read_resize_new _ _ _ _ r c hrlt (by omega) hc hclt]
    rfl

include hrows hcols in
theorem loadedMap_spec (hin : RowsInside bookingInfos flightInfo.rows flightInfo.cols) :
    (loadedMap flightInfo bookingInfos).Shaped ∧
      (loadedMap flightInfo bookingInfos).rows = flightInfo.rows ∧
      (loadedMap flightInfo bookingInfos).cols = flightInfo.cols ∧
      ∀ r c, (loadedMap flightInfo bookingInfos).cell? r c =
        ((SeatMap.vacant flightInfo.rows flightInfo.cols).cell? r c).map
          (SeatMap.loadedCell (seatRows bookingInfos r c)) := by
  have hvacant := SeatMap.shaped_vacant flightInfo.rows flightInfo.cols hrows hcols
  have hinside : ∀ b ∈ bookingInfos,
      (SeatMap.vacant flightInfo.rows flightInfo.cols).InRange b.row b.col :=
    RowsInside.inRange hin
  obtain ⟨s', hrun, h⟩ := hvacant.foldlM_loadBooking bookingInfos hinside
  rw [foldlM_loadBooking_eq hvacant hinside] at hrun
  cases Except.ok.inj hrun
  exact h

/-- With a row for the seat it does not matter what the cell held. -/
theorem loadedCell_eq_iff (rows : List BookingInformation) (x : Cell) :
    SeatMap.loadedCell rows x = SeatMap.loadedCell rows Cell.free ↔
      (rows = [] → x = Cell.free) := by
  cases hlast : rows.getLast? with
  | none => simp [SeatMap.loadedCell, List.getLast?_eq_none_iff.mp hlast]
  | some b =>
    have hne : rows ≠ [] := by
      intro hnil
      simp [hnil] at hlast
    simp [SeatMap.loadedCell, hlast, hne]

/-- An old seat that survives, when nothing shows through. -/
theorem LeavesNothing.exists_cell (hleaves : LeavesNothing s flightInfo bookingInfos)
    (h : s.Shaped) {r c : ℤ} (hin : (resized s flightInfo).InRange r c) (hold : r < s.rows) :
    ∃ x, s.cell? r c = some x ∧ (seatRows bookingInfos r c = [] → x = Cell.free) := by
  obtain ⟨hr, hrlt, hc, hclt⟩ := hin
  change r < flightInfo.rows at hrlt
  change c < flightInfo.cols at hclt
  rcases hleaves with hs | hf | ⟨hwidth, hfree⟩
  · omega
  · omega
  · obtain ⟨x, hx⟩ := h.exists_cell r c ⟨hr, hold, hc, by omega⟩
    exact ⟨x, hx, hfree r c x hrlt hx⟩

include hrows hcols in
/-- A load gives the map of the table exactly when nothing old shows through. -/
theorem loadBookings_eq_iff (h : s.Shaped)
    (hin : RowsInside bookingInfos flightInfo.rows flightInfo.cols) :
    s.loadBookings flightInfo bookingInfos = .ok (loadedMap flightInfo bookingInfos) ↔
      LeavesNothing s flightInfo bookingInfos := by
  obtain ⟨hshaped, hmrows, hmcols, hmcells⟩ := loadedMap_spec hrows hcols hin
  rw [loadBookings_eq s flightInfo bookingInfos hrows hcols]
  constructor
  · intro hload
    have hresized := shaped_of_foldlM hload hshaped
    rcases (shaped_resized_iff h flightInfo hrows hcols).mp hresized with hs | hf | hwidth
    · exact .inl hs
    · exact .inr (.inl hf)
    · refine .inr (.inr ⟨hwidth, ?_⟩)
      intro r c x hr hx hnone
      obtain ⟨hr0, hrlt, hc0, hclt⟩ := h.inRange_of_cell? hx
      rw [hwidth] at hclt
      have hinr : (resized s flightInfo).InRange r c := ⟨hr0, hr, hc0, hclt⟩
      obtain ⟨s', hrun, _, _, _, hcells⟩ :=
        hresized.foldlM_loadBooking bookingInfos (RowsInside.inRange hin)
      rw [hload] at hrun
      cases Except.ok.inj hrun
      have hcell := (hmcells r c).symm.trans (hcells r c)
      have hvacant : (SeatMap.vacant flightInfo.rows flightInfo.cols).InRange r c := hinr
      rw [cell?_resized h hinr, if_pos hrlt, hx, SeatMap.cell?_vacant, if_pos hvacant] at hcell
      exact (loadedCell_eq_iff (seatRows bookingInfos r c) x).mp (Option.some.inj hcell).symm hnone
  · intro hleaves
    have hcase : s.rows = 0 ∨ flightInfo.rows = 0 ∨ s.cols = flightInfo.cols :=
      hleaves.imp_right fun hrest => hrest.imp_right fun hboth => hboth.1
    have hresized := (shaped_resized_iff h flightInfo hrows hcols).mpr hcase
    obtain ⟨s', hrun, hs', hsrows, hscols, hcells⟩ :=
      hresized.foldlM_loadBooking bookingInfos (RowsInside.inRange hin)
    rw [hrun]
    congr 1
    apply hs'.ext hshaped (hsrows.trans hmrows.symm) (hscols.trans hmcols.symm)
    intro r c
    rw [hcells, hmcells]
    by_cases hinr : (resized s flightInfo).InRange r c
    · have hvacant : (SeatMap.vacant flightInfo.rows flightInfo.cols).InRange r c := hinr
      rw [cell?_resized h hinr, SeatMap.cell?_vacant, if_pos hvacant]
      by_cases hold : r < s.rows
      · obtain ⟨x, hx, hfree⟩ := hleaves.exists_cell h hinr hold
        rw [if_pos hold, hx]
        exact congrArg some ((loadedCell_eq_iff _ x).mpr hfree)
      · rw [if_neg hold]
        rfl
    · have hvacant : ¬ (SeatMap.vacant flightInfo.rows flightInfo.cols).InRange r c := hinr
      rw [hresized.cell?_eq_none r c hinr, SeatMap.cell?_vacant, if_neg hvacant]
      rfl

include hrows hcols in
theorem load_eq_iff (h : s.Shaped) {db : Database} {t : List BookingInformation}
    (ht : db.bookingTable ("Booking" ++ flightInfo.flightID) = some t)
    (hin : RowsInside t flightInfo.rows flightInfo.cols) :
    s.loadFromFlightInformation db flightInfo .succeeds = .ok (loadedMap flightInfo t) ↔
      CountFits t ∧ LeavesNothing s flightInfo t := by
  rw [← loadBookings_eq_iff hrows hcols h hin, SeatMap.loadFromFlightInformation,
    getBookingsInfo_succeeds_eq ht]
  by_cases hfits : CountFits t
  · rw [if_pos hfits]
    exact (and_iff_right hfits).symm
  · rw [if_neg hfits]
    refine iff_of_false ?_ fun hboth => hfits hboth.1
    intro heq
    contradiction

end Load

/-- Loading the flight into two maps gives the map of the table both times exactly
when its count fits and nothing old shows through in either. -/
theorem loads_eq_iff (s₁ s₂ : SeatMap) (h₁ : s₁.Shaped) (h₂ : s₂.Shaped)
    (flightInfo : FlightInformation) (hrows : 0 ≤ flightInfo.rows) (hcols : 0 ≤ flightInfo.cols)
    (db : Database) (t : List BookingInformation)
    (ht : db.bookingTable ("Booking" ++ flightInfo.flightID) = some t)
    (hin : RowsInside t flightInfo.rows flightInfo.cols) :
    (s₁.loadFromFlightInformation db flightInfo .succeeds =
        s₂.loadFromFlightInformation db flightInfo .succeeds ∧
      s₁.loadFromFlightInformation db flightInfo .succeeds = .ok (loadedMap flightInfo t)) ↔
      CountFits t ∧ LeavesNothing s₁ flightInfo t ∧ LeavesNothing s₂ flightInfo t := by
  have hload₁ := load_eq_iff hrows hcols h₁ ht hin
  have hload₂ := load_eq_iff hrows hcols h₂ ht hin
  constructor
  · intro hboth
    obtain ⟨hsame, hmap⟩ := hboth
    obtain ⟨hfits, hleaves₁⟩ := hload₁.mp hmap
    exact ⟨hfits, hleaves₁, (hload₂.mp (hsame.symm.trans hmap)).2⟩
  · intro hall
    obtain ⟨hfits, hleaves₁, hleaves₂⟩ := hall
    have hmap₁ := hload₁.mpr ⟨hfits, hleaves₁⟩
    exact ⟨hmap₁.trans (hload₂.mpr ⟨hfits, hleaves₂⟩).symm, hmap₁⟩

section OneSeat

/-- A map in which Ann holds the only seat. -/
def annMap : SeatMap := (SeatMap.vacant 1 1).putCell 0 0 (Cell.taken "Ann" "" "20")

def tableOf (t : List BookingInformation) : Database :=
  Database.empty.setBookingTable "BookingAA123" t

theorem shaped_annMap : annMap.Shaped := ⟨by decide, by decide, by decide, by decide⟩

end OneSeat

/-- The table has a row for the seat, so the old booking is written over. -/
theorem rebooked_seat_reloaded :
    annMap.loadFromFlightInformation (tableOf [⟨"Bob", "", "15", 0, 0⟩]) (flightOf 1 1)
      .succeeds = .ok (loadedMap (flightOf 1 1) [⟨"Bob", "", "15", 0, 0⟩]) := by
  have htable : (tableOf [⟨"Bob", "", "15", 0, 0⟩]).bookingTable
    ("Booking" ++ (flightOf 1 1).flightID) = some [⟨"Bob", "", "15", 0, 0⟩] := by rfl
  refine ((loads_eq_iff annMap (SeatMap.vacant 0 3) shaped_annMap
    (SeatMap.shaped_vacant 0 3 (by decide) (by decide)) (flightOf 1 1) (by decide) (by decide)
    _ _ htable (by decide)).mpr ⟨by decide, .inr (.inr ⟨rfl, ?_⟩), .inl rfl⟩).2
  intro r c x _ hx hnone
  obtain ⟨hr0, hr, hc0, hc⟩ := shaped_annMap.inRange_of_cell? hx
  change r < 1 at hr
  change c < 1 at hc
  obtain rfl : r = 0 := by omega
  obtain rfl : c = 0 := by omega
  exact absurd hnone (by decide)

/-- Ann's booking, gone from the table, survives the load of the same flight. -/
theorem old_booking_survives :
    annMap.loadFromFlightInformation (tableOf []) (flightOf 1 1) .succeeds = .ok annMap ∧
    (SeatMap.vacant 1 1).loadFromFlightInformation (tableOf []) (flightOf 1 1) .succeeds =
      .ok (SeatMap.vacant 1 1) ∧
    loadedMap (flightOf 1 1) [] = SeatMap.vacant 1 1 ∧ annMap ≠ SeatMap.vacant 1 1 := by
  refine ⟨by decide, by decide, by decide, by decide⟩

end AirlineReservation.Reloading
