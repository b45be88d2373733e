import AirlineReservation.Saving
import AirlineReservation.SeatMapLoading

/-!
Reading a booking table into a fresh seat map. The retrieval succeeds unless the
count fails or no longer fits an int, and the load needs every row inside the
flight.
-/

namespace AirlineReservation

/-- The count of the rows fits an int, so that `reserve` accepts it. -/
def CountFits {ρ : Type*} (t : List ρ) : Prop := t.length % 2 ^ 32 < 2 ^ 31

instance {ρ : Type*} (t : List ρ) : Decidable (CountFits t) :=
  inferInstanceAs (Decidable (_ < _))

/-- The count read as an int and passed as a size is accepted exactly when it
is not negative. -/
theorem reserve_count_iff (n : ℕ) :
    reserve (toSizeT (getInt n)) = .ok () ↔ n % 2 ^ 32 < 2 ^ 31 := by
  have hsize : toSizeT (getInt n) ≤ maxSize ↔ n % 2 ^ 32 < 2 ^ 31 := by
    unfold toSizeT getInt maxSize
    rw [Int.bmod_def]
    split <;> omega
  unfold reserve
  rw [← hsize]
  by_cases h : maxSize < toSizeT (getInt n)
  · simp [h]
  · simp [h, Nat.le_of_not_lt h]

theorem reserve_eq_ok_or (n : ℕ) : reserve n = .ok () ∨ reserve n = .error .lengthError := by
  unfold reserve
  split
  · exact Or.inr rfl
  · exact Or.inl rfl

theorem fetchRows_succeeds {ρ : Type*} (k : ℕ) (rows : List ρ) :
    fetchRows (fun _ => false) k rows = (rows, false) := by
  induction rows generalizing k with
  | nil => rfl
  | cons row rest ih => simp [fetchRows, ih]

/-- The rows read are an initial part of the table. -/
theorem fetchRows_initial {ρ : Type*} (stepRaises : ℕ → Bool) (k : ℕ) (rows : List ρ) :
    (fetchRows stepRaises k rows).1 <+: rows := by
  induction rows generalizing k with
  | nil => exact List.nil_prefix
  | cons row rest ih =>
    unfold fetchRows
    split
    · exact List.nil_prefix
    · simpa using ih (k + 1)

theorem reserve_count_of_not (n : ℕ) (h : ¬ n % 2 ^ 32 < 2 ^ 31) :
    reserve (toSizeT (getInt n)) = .error .lengthError := by
  rcases reserve_eq_ok_or (toSizeT (getInt n)) with hok | herror
  · exact absurd ((reserve_count_iff n).mp hok) h
  · exact herror

theorem countEntriesInTable_succeeds {ρ : Type*} (t : List ρ) :
    countEntriesInTable .succeeds (some t) = (toSizeT (getInt t.length), []) := by
  simp [countEntriesInTable, countRaises, SelectOutcome.succeeds]

theorem retrieve_of_reserve_ok {ρ α : Type*} (message : String) (convert : ρ → α)
    (outcome : RetrievalOutcome) (table : Option (List ρ)) {n : ℕ} {reports : List String}
    (hcount : countEntriesInTable outcome.count table = (n, reports))
    (hreserve : reserve n = .ok ()) :
    (retrieve message convert outcome table).result =
      .ok ((fetch outcome.select table).1.map convert) := by
  simp only [retrieve, hcount, hreserve]

theorem retrieve_of_reserve_error {ρ α : Type*} (message : String) (convert : ρ → α)
    (outcome : RetrievalOutcome) (table : Option (List ρ)) {n : ℕ} {reports : List String}
    {e : Fault} (hcount : countEntriesInTable outcome.count table = (n, reports))
    (hreserve : reserve n = .error e) :
    (retrieve message convert outcome table).result = .error e := by
  simp only [retrieve, hcount, hreserve]

/-- A retrieval without failures reads the whole table, unless the count of its
rows is read as negative. -/
theorem retrieve_succeeds {ρ α : Type*} (message : String) (convert : ρ → α) (t : List ρ) :
    (retrieve message convert .succeeds (some t)).result =
      if CountFits t then .ok (t.map convert) else .error .lengthError := by
  have hcount := countEntriesInTable_succeeds t
  by_cases hfits : CountFits t
  · have hfetch : fetch RetrievalOutcome.succeeds.select (some t) = (t, false) :=
      fetchRows_succeeds 0 t
    rw [if_pos hfits, retrieve_of_reserve_ok message convert .succeeds (some t) hcount
      ((reserve_count_iff t.length).mpr hfits), hfetch]
  · rw [if_neg hfits]
    exact retrieve_of_reserve_error message convert .succeeds (some t) hcount
      (reserve_count_of_not t.length hfits)

theorem getBookingsInfo_succeeds_eq {db : Database} {tableName : String}
    {t : List BookingInformation} (ht : db.bookingTable tableName = some t) :
    (getBookingsInfo db tableName .succeeds).result =
      if CountFits t then .ok t else .error .lengthError := by
  rw [getBookingsInfo, ht, retrieve_succeeds, List.map_id]

theorem getBookingsInfo_succeeds {db : Database} {tableName : String}
    {t : List BookingInformation} (ht : db.bookingTable tableName = some t)
    (hfits : CountFits t) : (getBookingsInfo db tableName .succeeds).result = .ok t := by
  rw [getBookingsInfo_succeeds_eq ht, if_pos hfits]

/-- Without failures, a retrieval that returns has read the whole table. -/
theorem getBookingsInfo_eq_table {db : Database} {tableName : String}
    {t bookingInfos : List BookingInformation} (ht : db.bookingTable tableName = some t)
    (h : (getBookingsInfo db tableName .succeeds).result = .ok bookingInfos) :
    bookingInfos = t := by
  rw [getBookingsInfo_succeeds_eq ht] at h
  by_cases hfits : CountFits t
  · rw [if_pos hfits] at h
    exact (Except.ok.inj h).symm
  · rw [if_neg hfits] at h
    contradiction

/-- Whatever fails, a retrieval that returns has read an initial part of the table. -/
theorem getBookingsInfo_result {db : Database} {tableName : String}
    {outcome : RetrievalOutcome} {bookingInfos : List BookingInformation}
    (h : (getBookingsInfo db tableName outcome).result = .ok bookingInfos) :
    bookingInfos = [] ∨ ∃ t, db.bookingTable tableName = some t ∧ bookingInfos <+: t := by
  unfold getBookingsInfo retrieve at h
  simp only [List.map_id_fun, id] at h
  split at h
  · contradiction
  · have heq := Except.ok.inj h
    rw [← heq]
    unfold fetch
    split
    · exact Or.inl rfl
    · next t ht =>
      split
      · exact Or.inl rfl
      · exact Or.inr ⟨t, ht, fetchRows_initial _ 0 t⟩

/-- The only exception that leaves a retrieval is that of `reserve`. -/
theorem retrieve_error {ρ α : Type*} {message : String} {convert : ρ → α}
    {outcome : RetrievalOutcome} {table : Option (List ρ)} {e : Fault}
    (h : (retrieve message convert outcome table).result = .error e) : e = .lengthError := by
  unfold retrieve at h
  simp only at h
  split at h
  · next e' hreserve =>
    cases Except.error.inj h
    rcases reserve_eq_ok_or (countEntriesInTable outcome.count table).1 with hok | herror
    · rw [hok] at hreserve
      contradiction
    · exact (Except.error.inj (herror.symm.trans hreserve)).symm
  · contradiction

/-- What a fresh load of the rows `bookingInfos` has produced. -/
structure Loaded (flightInfo : FlightInformation) (bookingInfos : List BookingInformation)
    (s : SeatMap) : Prop where
  valid : s.Valid
  rows_eq : s.rows = flightInfo.rows
  cols_eq : s.cols = flightInfo.cols
  inside : RowsInside bookingInfos flightInfo.rows flightInfo.cols
  cell_eq : ∀ r c x, s.cell? r c = some x →
    x = SeatMap.loadedCell (seatRows bookingInfos r c) Cell.free

namespace SeatMap

variable {db : Database} {flightInfo : FlightInformation} {outcome : RetrievalOutcome}
  {bookingInfos : List BookingInformation}

theorem freshLoad_negative (hdims : flightInfo.rows < 0 ∨ flightInfo.cols < 0) :
    freshLoad db flightInfo outcome = .error .lengthError := by
  rw [freshLoad, new, internalInitMaps, if_pos hdims]
  rfl

/-- The retrieval, and then the load into a vacant map. -/
theorem freshLoad_eq (hrows : 0 ≤ flightInfo.rows) (hcols : 0 ≤ flightInfo.cols) :
    freshLoad db flightInfo outcome =
      (getBookingsInfo db ("Booking" ++ flightInfo.flightID) outcome).result.bind
        ((vacant flightInfo.rows flightInfo.cols).loadBookings flightInfo) := by
  rw [freshLoad, new_eq_vacant _ _ hrows hcols]
  rfl

/-- Rows that lie inside the flight are loaded. -/
theorem freshLoad_of_inside (hrows : 0 ≤ flightInfo.rows) (hcols : 0 ≤ flightInfo.cols)
    (hread : (getBookingsInfo db ("Booking" ++ flightInfo.flightID) outcome).result =
      .ok bookingInfos)
    (hin : RowsInside bookingInfos flightInfo.rows flightInfo.cols) :
    ∃ s, freshLoad db flightInfo outcome = .ok s ∧ Loaded flightInfo bookingInfos s := by
  obtain ⟨s, hload, hshaped, hsrows, hscols, hcells⟩ :=
    loadBookings_vacant flightInfo bookingInfos hrows hcols (RowsInside.inRange hin)
  have hcell : ∀ r c x, s.cell? r c = some x →
      x = loadedCell (seatRows bookingInfos r c) Cell.free := by
    intro r c x hx
    rw [hcells r c, cell?_vacant] at hx
    split at hx
    · exact (Option.some.inj hx).symm
    · contradiction
  refine ⟨s, ?_, ⟨hshaped, ?_⟩, hsrows, hscols, hin, hcell⟩
  · rw [freshLoad_eq hrows hcols, hread]
    exact hload
  · intro r c x hx hfree
    rw [hcell r c x hx] at hfree ⊢
    exact loadedCell_free hfree

/-- A fresh load returns only when all rows that were read lie inside the flight. -/
theorem freshLoad_ok {s : SeatMap} (h : freshLoad db flightInfo outcome = .ok s) :
    ∃ bookingInfos, (getBookingsInfo db ("Booking" ++ flightInfo.flightID) outcome).result =
      .ok bookingInfos ∧ Loaded flightInfo bookingInfos s := by
  by_cases hdims : flightInfo.rows < 0 ∨ flightInfo.cols < 0
  · rw [freshLoad_negative hdims] at h
    contradiction
  · have hrows : 0 ≤ flightInfo.rows := by omega
    have hcols : 0 ≤ flightInfo.cols := by omega
    have heq := h
    rw [freshLoad_eq hrows hcols] at heq
    obtain ⟨bookingInfos, hread, hload⟩ := exists_of_bind_ok heq
    refine ⟨bookingInfos, hread, ?_⟩
    have hin : RowsInside bookingInfos flightInfo.rows flightInfo.cols := by
      intro b hb
      by_contra hout
      rw [loadBookings_vacant_outside flightInfo bookingInfos hrows hcols b hb
        fun hinside => hout ((inRange_iff_bounds _ _ _).mp hinside)] at hload
      contradiction
    obtain ⟨s', hload', loaded⟩ := freshLoad_of_inside hrows hcols hread hin
    cases Except.ok.inj (h.symm.trans hload')
    exact loaded

/-- Rows inside the flight leave no write of the load loop undefined. -/
theorem freshLoad_inside_ne (hin : ∀ bookingInfos,
    (getBookingsInfo db ("Booking" ++ flightInfo.flightID) outcome).result = .ok bookingInfos →
      RowsInside bookingInfos flightInfo.rows flightInfo.cols) :
    freshLoad db flightInfo outcome ≠ .error .outOfRange := by
  intro h
  by_cases hdims : flightInfo.rows < 0 ∨ flightInfo.cols < 0
  · rw [freshLoad_negative hdims] at h
    contradiction
  · have hrows : 0 ≤ flightInfo.rows := by omega
    have hcols : 0 ≤ flightInfo.cols := by omega
    cases hread : (getBookingsInfo db ("Booking" ++ flightInfo.flightID) outcome).result with
    | error e =>
      rw [freshLoad_eq hrows hcols, hread, retrieve_error hread] at h
      exact absurd (Except.error.inj h) (by decide)
    | ok bookingInfos =>
      obtain ⟨s, hload, _⟩ := freshLoad_of_inside hrows hcols hread (hin bookingInfos hread)
      rw [h] at hload
      contradiction

end SeatMap

end AirlineReservation
