import AirlineReservation.SessionRuns
import Mathlib.Data.List.Perm.Subperm

/-!
Save, then load. A named seat of the saved map comes back with its texts; a seat
that the save loop skips comes back as the old table had it, because no upsert
for another seat touches its rows.
-/

namespace AirlineReservation.RoundTrip

open BookingInformation

/-- Rows of distinct seats inside the dimensions are no more than the seats. -/
theorem length_le_seats {t : List BookingInformation} (s : SeatMap) (ht : UniqueSeats t)
    (hin : RowsInside t s.rows s.cols) : t.length ≤ s.rows.toNat * s.cols.toNat := by
  have hnodup : (t.map seat).Nodup := (RowTable.unique_iff_nodup seat t).mp ht
  have hsubset : t.map seat ⊆ s.seats := by
    intro k hk
    obtain ⟨b, hb, rfl⟩ := List.mem_map.mp hk
    exact (mem_seats s b.row b.col).mpr (hin.inRange b hb)
  have hlength : s.seats.length = s.rows.toNat * s.cols.toNat := by
    simp [SeatMap.seats]
  calc
    t.length = (t.map seat).length := (List.length_map seat).symm
    _ ≤ s.seats.length := (List.subperm_of_subset hnodup hsubset).length_le
    _ = s.rows.toNat * s.cols.toNat := hlength

/-- A grid of fewer than 2^31 seats holds no more rows than an int counts. -/
theorem countFits_of_inside {t : List BookingInformation} (s : SeatMap) (ht : UniqueSeats t)
    (hin : RowsInside t s.rows s.cols) (hrows : 0 ≤ s.rows) (hcols : 0 ≤ s.cols)
    (hsmall : s.rows * s.cols < 2 ^ 31) : CountFits t := by
  have hlength := length_le_seats s ht hin
  have hproduct : ((s.rows.toNat * s.cols.toNat : ℕ) : ℤ) = s.rows * s.cols := by
    rw [Int.natCast_mul, Int.toNat_of_nonneg hrows, Int.toNat_of_nonneg hcols]
  unfold CountFits
  omega

theorem freshLoad_returns {s : SeatMap} {db : Database} {f : FlightInformation}
    {t : List BookingInformation} (hrows : f.rows = s.rows) (hcols : f.cols = s.cols)
    (ht : db.bookingTable ("Booking" ++ f.flightID) = some t) (hunique : UniqueSeats t)
    (hin : RowsInside t s.rows s.cols) (hrows0 : 0 ≤ s.rows) (hcols0 : 0 ≤ s.cols)
    (hsmall : s.rows * s.cols < 2 ^ 31) :
    ∃ s', SeatMap.freshLoad db f .succeeds = .ok s' := by
  have hfits := countFits_of_inside s hunique hin hrows0 hcols0 hsmall
  have hread := getBookingsInfo_succeeds ht hfits
  rw [← hrows, ← hcols] at hin
  obtain ⟨s', hload, _⟩ :=
    SeatMap.freshLoad_of_inside (hrows ▸ hrows0) (hcols ▸ hcols0) hread hin
  exact ⟨s', hload⟩

/-- What `saved` holds at a seat comes back in `new`; an unnamed seat is as in `old`. -/
def ComesBack (saved old new : SeatMap) (r c : ℤ) : Prop :=
  ∃ x xOld xNew, saved.cell? r c = some x ∧ old.cell? r c = some xOld ∧
    new.cell? r c = some xNew ∧
    (x.name ≠ "" → xNew = Cell.taken x.name x.email x.maxLoad) ∧ (x.name = "" → xNew = xOld)

theorem comesBack_of_loaded {s old new : SeatMap} {f : FlightInformation}
    {t : List BookingInformation} (h : s.Shaped) (hrows : f.rows = s.rows)
    (hcols : f.cols = s.cols) (hunique : UniqueSeats t) (hold : Loaded f t old)
    (hnew : Loaded f (saveTable s (fun _ => .committed) t) new) {r c : ℤ}
    (hin : s.InRange r c) : ComesBack s old new r c := by
  obtain ⟨x, hx⟩ := h.exists_cell r c hin
  have hinOld : old.InRange r c := by
    rwa [SeatMap.InRange, hold.rows_eq, hold.cols_eq, hrows, hcols]
  have hinNew : new.InRange r c := by
    rwa [SeatMap.InRange, hnew.rows_eq, hnew.cols_eq, hrows, hcols]
  obtain ⟨xOld, hxOld⟩ := hold.valid.shaped.exists_cell r c hinOld
  obtain ⟨xNew, hxNew⟩ := hnew.valid.shaped.exists_cell r c hinNew
  refine ⟨x, xOld, xNew, hx, hxOld, hxNew, ?_, ?_⟩
  · intro hname
    rw [hnew.cell_eq r c xNew hxNew, seatRows_saveTable_unique _ h hunique hx hname rfl]
    rfl
  · intro hname
    have hskip : seatRows (saveTable s (fun _ => .committed) t) r c = seatRows t r c := by
      apply seatRows_saveTable_of_not
      intro y hy
      cases Option.some.inj (hx.symm.trans hy)
      exact Or.inl hname
    rw [hnew.cell_eq r c xNew hxNew, hskip, hold.cell_eq r c xOld hxOld]

/-- Save followed by load. The save ends normally; below 2^31 seats both loads
return; and whenever they return, every seat comes back. -/
theorem load_after_save (s : SeatMap) (h : s.Shaped) (db : Database) (f : FlightInformation)
    (hrows : f.rows = s.rows) (hcols : f.cols = s.cols) (t : List BookingInformation)
    (ht : db.bookingTable ("Booking" ++ f.flightID) = some t) (hunique : UniqueSeats t)
    (hin : RowsInside t s.rows s.cols) :
    ∃ db', insertBookingData s db ("Booking" ++ f.flightID) (fun _ => .committed) =
        (db', .ok ()) ∧
      (0 ≤ s.cols → s.rows * s.cols < 2 ^ 31 →
        (∃ old, SeatMap.freshLoad db f .succeeds = .ok old) ∧
        ∃ new, SeatMap.freshLoad db' f .succeeds = .ok new) ∧
      ∀ old new, SeatMap.freshLoad db f .succeeds = .ok old →
        SeatMap.freshLoad db' f .succeeds = .ok new →
        ∀ r c, s.InRange r c → ComesBack s old new r c := by
  have ht' := db.bookingTable_setBookingTable_self _ ht (saveTable s (fun _ => .committed) t)
  refine ⟨db.setBookingTable ("Booking" ++ f.flightID) (saveTable s (fun _ => .committed) t),
    insertBookingData_eq h _ (fun _ => Or.inl rfl) ht, ?_, ?_⟩
  · intro hcols0 hsmall
    have hrows0 := h.seat.rows_nonneg
    exact ⟨freshLoad_returns hrows hcols ht hunique hin hrows0 hcols0 hsmall,
      freshLoad_returns hrows hcols ht' (hunique.saveTable _) (hin.saveTable _ h) hrows0 hcols0
        hsmall⟩
  · intro old new hold hnew r c hseat
    obtain ⟨_, hread, loadedOld⟩ := SeatMap.freshLoad_ok hold
    obtain ⟨_, hread', loadedNew⟩ := SeatMap.freshLoad_ok hnew
    cases getBookingsInfo_eq_table ht hread
    cases getBookingsInfo_eq_table ht' hread'
    exact comesBack_of_loaded h hrows hcols hunique loadedOld loadedNew hseat

def annMap : SeatMap := (SeatMap.vacant 1 2).putCell 0 0 (Cell.taken "Ann" "ann@mail" "20")

def bobTable : List BookingInformation := [⟨"Bob", "bob@mail", "15", 0, 1⟩]

def bobDatabase : Database := (Database.empty.setBookingTable "BookingAA123" bobTable)

theorem bobDatabase_table :
    bobDatabase.bookingTable ("Booking" ++ twoSeats.flightID) = some bobTable := by rfl

/-- Ann is saved at (0, 0) while the table holds Bob at (0, 1). -/
theorem load_after_save_ann :
    ∃ db' old new, insertBookingData annMap bobDatabase ("Booking" ++ twoSeats.flightID)
        (fun _ => .committed) = (db', .ok ()) ∧
      SeatMap.freshLoad bobDatabase twoSeats .succeeds = .ok old ∧
      SeatMap.freshLoad db' twoSeats .succeeds = .ok new ∧
      ComesBack annMap old new 0 0 ∧ ComesBack annMap old new 0 1 := by
  obtain ⟨db', hsave, hreturn, hback⟩ := load_after_save annMap
    ((SeatMap.shaped_vacant 1 2 (by decide) (by decide)).putCell 0 0 _) bobDatabase twoSeats
    rfl rfl bobTable bobDatabase_table (by decide) (by decide)
  obtain ⟨⟨old, hold⟩, new, hnew⟩ := hreturn (by decide) (by decide)
  exact ⟨db', old, new, hsave, hold, hnew, hback old new hold hnew 0 0 (by decide),
    hback old new hold hnew 0 1 (by decide)⟩

end AirlineReservation.RoundTrip
