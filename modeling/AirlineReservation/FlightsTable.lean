import AirlineReservation.Loading

/-!
The flights table after any number of `InsertFlight` calls, read back by
`GetFlightsInfo`. Writer and reader name the columns in different orders, and a
flight that is inserted again replaces its row. Parsing a date and the time zone
are parameters, and so is what the DATETIME columns, which have numeric affinity,
give back for a text.
-/

namespace AirlineReservation

/-- `getTime` is what `std::get_time` reads from a text, none if it fails, and
`mktime` the seconds since the epoch. The cast to int keeps the low 32 bits. -/
def datetimeToInt {τ : Type} (getTime : String → Option τ) (mktime : τ → ℤ)
    (datetimeString : String) : ℤ :=
  match getTime datetimeString with
  | none => -1
  | some timeStruct => (mktime timeStruct).bmod (2 ^ 32)

/-- A text comes back from a DATETIME column as it was, unless it looks like a
number: then neither spelling is a date. -/
def KeepsDates {τ : Type} (getTime : String → Option τ) (stored : String → String) : Prop :=
  ∀ text, stored text = text ∨ (getTime text = none ∧ getTime (stored text) = none)

namespace FlightsTable

/-- The arguments of one `InsertFlight`. -/
structure FlightCall where
  flightId : String
  origin : String
  destination : String
  departureTime : String
  arrivalTime : String
  rows : ℤ
  cols : ℤ
  deriving DecidableEq, Repr

/-- `InsertFlight` called for each of the flights, all of them committed. -/
def insertFlights (db : Database) (calls : List FlightCall) : Database :=
  calls.foldl (fun db call => (insertFlight db call.flightId call.origin call.destination
    call.departureTime call.arrivalTime call.rows call.cols .committed).1) db

/-- The last of the calls for a flight. -/
def lastCall (calls : List FlightCall) (flightId : String) : Option FlightCall :=
  (RowTable.rowsAt FlightCall.flightId flightId calls).getLast?

/-- The entry that a call asks for. -/
def FlightCall.entry (toInt : String → ℤ) (call : FlightCall) : FlightInformation where
  flightID := call.flightId
  origin := call.origin
  destination := call.destination
  bookingTable := "booking" ++ call.flightId
  departureTime := toInt call.departureTime
  arrivalTime := toInt call.arrivalTime
  rows := call.rows
  cols := call.cols

/-- One entry for each flight that was inserted: that of its last call. -/
structure ListsLast (toInt : String → ℤ) (calls : List FlightCall)
    (flightsInfo : List FlightInformation) : Prop where
  nodup : (flightsInfo.map FlightInformation.flightID).Nodup
  mem_iff : ∀ info, info ∈ flightsInfo ↔
    ∃ call, lastCall calls info.flightID = some call ∧ info = call.entry toInt

/-- The row that a call binds. -/
def FlightCall.row (call : FlightCall) : FlightRow where
  flightId := call.flightId
  origin := call.origin
  destination := call.destination
  departureTime := call.departureTime
  arrivalTime := call.arrivalTime
  bookingTable := "booking" ++ call.flightId
  rows := call.rows
  cols := call.cols

theorem insertFlight_committed {db : Database} {t : List FlightRow} (h : db.flights = some t)
    (call : FlightCall) :
    ((insertFlight db call.flightId call.origin call.destination call.departureTime
      call.arrivalTime call.rows call.cols .committed).1).flights =
      some (RowTable.replace FlightRow.flightId call.row t) := by
  simp only [insertFlight, transaction, h]
  rfl

/-- The calls replace their rows one after the other. -/
theorem flights_insertFlights {db : Database} {t : List FlightRow} (h : db.flights = some t)
    (calls : List FlightCall) :
    (insertFlights db calls).flights =
      some (RowTable.replaceAll FlightRow.flightId (calls.map FlightCall.row) t) := by
  induction calls generalizing db t with
  | nil => exact h
  | cons call rest ih => exact ih (insertFlight_committed h call)

/-- The last row of a flight is the row of its last call. -/
theorem lastAt_row_iff (calls : List FlightCall) (row : FlightRow) :
    RowTable.LastAt FlightRow.flightId row (calls.map FlightCall.row) ↔
      ∃ call, lastCall calls row.flightId = some call ∧ call.row = row := by
  have hrows := RowTable.rowsAt_map FlightCall.flightId FlightRow.flightId FlightCall.row
    (fun call => rfl) row.flightId calls
  rw [RowTable.LastAt, hrows, List.getLast?_map, Option.map_eq_some_iff]
  rfl

section Dates

variable {τ : Type} {getTime : String → Option τ} {mktime : τ → ℤ} {stored : String → String}

/-- What the column gives back is converted to the same number. -/
theorem datetimeToInt_stored (hstored : KeepsDates getTime stored) (text : String) :
    datetimeToInt getTime mktime (stored text) = datetimeToInt getTime mktime text := by
  rcases hstored text with hsame | ⟨hbefore, hafter⟩
  · rw [hsame]
  · rw [datetimeToInt, datetimeToInt, hbefore, hafter]

theorem information_row (hstored : KeepsDates getTime stored) (call : FlightCall) :
    FlightRow.information (fun text => datetimeToInt getTime mktime (stored text)) call.row =
      call.entry (datetimeToInt getTime mktime) := by
  simp only [FlightRow.information, FlightCall.row, FlightCall.entry,
    datetimeToInt_stored hstored]

/-- The rows that the calls leave are listed as their last calls say. -/
theorem listsLast_information (hstored : KeepsDates getTime stored) (calls : List FlightCall) :
    ListsLast (datetimeToInt getTime mktime) calls
      ((RowTable.replaceAll FlightRow.flightId (calls.map FlightCall.row) []).map
        (FlightRow.information fun text => datetimeToInt getTime mktime (stored text))) := by
  constructor
  · have hunique := RowTable.unique_replaceAll FlightRow.flightId (calls.map FlightCall.row)
    rw [List.map_map]
    exact (RowTable.unique_iff_nodup FlightRow.flightId _).mp hunique
  · intro info
    simp only [List.mem_map, RowTable.mem_replaceAll_iff, lastAt_row_iff]
    constructor
    · intro h
      obtain ⟨row, ⟨call, hlast, rfl⟩, rfl⟩ := h
      exact ⟨call, hlast, information_row hstored call⟩
    · intro h
      obtain ⟨call, hlast, rfl⟩ := h
      exact ⟨call.row, ⟨call, hlast, rfl⟩, information_row hstored call⟩

/-- What `GetFlightsInfo` gives after the calls, on a table that was empty. -/
theorem getFlightsInfo_insertFlights (toInt : String → ℤ) {db : Database}
    (hempty : db.flights = some []) (calls : List FlightCall) :
    (getFlightsInfo toInt (insertFlights db calls) .succeeds).result =
      if (calls.map FlightCall.flightId).dedup.length % 2 ^ 32 < 2 ^ 31 then
        .ok ((RowTable.replaceAll FlightRow.flightId (calls.map FlightCall.row) []).map
          (FlightRow.information toInt))
      else .error .lengthError := by
  have hlength : (RowTable.replaceAll FlightRow.flightId (calls.map FlightCall.row) []).length =
      (calls.map FlightCall.flightId).dedup.length := by
    rw [RowTable.length_replaceAll, List.map_map]
    rfl
  rw [getFlightsInfo, flights_insertFlights hempty calls, retrieve_succeeds]
  simp only [CountFits, hlength]

/-- After any calls on an empty table the retrieval returns one entry for each
flight, as its last call gave it, exactly when the number of flights is not read
as a negative int. -/
theorem lists_last_calls_iff (hstored : KeepsDates getTime stored) (db : Database)
    (hempty : db.flights = some []) (calls : List FlightCall) :
    (∃ flightsInfo,
      (getFlightsInfo (fun text => datetimeToInt getTime mktime (stored text))
        (insertFlights db calls) .succeeds).result = .ok flightsInfo ∧
      ListsLast (datetimeToInt getTime mktime) calls flightsInfo) ↔
    (calls.map FlightCall.flightId).dedup.length % 2 ^ 32 < 2 ^ 31 := by
  rw [getFlightsInfo_insertFlights _ hempty calls]
  by_cases hfits : (calls.map FlightCall.flightId).dedup.length % 2 ^ 32 < 2 ^ 31
  · rw [if_pos hfits]
    exact iff_of_true ⟨_, rfl, listsLast_information hstored calls⟩ hfits
  · rw [if_neg hfits]
    refine iff_of_false ?_ hfits
    intro h
    obtain ⟨flightsInfo, hresult, _⟩ := h
    contradiction

end Dates

/-- `std::get_time` and `mktime` in UTC on the texts of the examples. -/
def exampleTime (text : String) : Option ℤ :=
  if text = "2024-05-01 08:00:00" then some 1714550400
  else if text = "2024-05-01 10:30:00" then some 1714559400
  else none

/-- A text that looks like a number comes back as SQLite prints that number. -/
def exampleStored (text : String) : String := if text = "1e99" then "1.0e+99" else text

theorem keepsDates_example : KeepsDates exampleTime exampleStored := by
  intro text
  by_cases h : text = "1e99"
  · subst h
    exact Or.inr ⟨by decide, by decide⟩
  · exact Or.inl (if_neg h)

/-- A flight that is inserted once more has the entry of its second call, also
where a date is no date. -/
theorem replaced_flight_listed :
    ∃ flightsInfo,
      (getFlightsInfo (fun text => datetimeToInt exampleTime id (exampleStored text))
        (insertFlights ⟨some [], fun _ => none⟩
          [⟨"PR1", "MNL", "CEB", "2024-05-01 08:00:00", "2024-05-01 10:30:00", 1, 2⟩,
            ⟨"PR2", "CEB", "MNL", "2024-05-01 10:30:00", "soon", 2, 2⟩,
            ⟨"PR1", "MNL", "DVO", "1e99", "2024-05-01 08:00:00", 3, 2⟩]) .succeeds).result =
        .ok flightsInfo ∧
      ListsLast (datetimeToInt exampleTime id)
        [⟨"PR1", "MNL", "CEB", "2024-05-01 08:00:00", "2024-05-01 10:30:00", 1, 2⟩,
          ⟨"PR2", "CEB", "MNL", "2024-05-01 10:30:00", "soon", 2, 2⟩,
          ⟨"PR1", "MNL", "DVO", "1e99", "2024-05-01 08:00:00", 3, 2⟩] flightsInfo :=
  (lists_last_calls_iff keepsDates_example ⟨some [], fun _ => none⟩ rfl _).mpr (by decide)

/-- Flights whose ids are "0", "1" and so on. -/
def manyFlights (n : ℕ) : List FlightCall :=
  (List.range n).map fun i =>
    ⟨Nat.repr i, "MNL", "CEB", "2024-05-01 08:00:00", "2024-05-01 10:30:00", 1, 1⟩

theorem repr_injective : Function.Injective Nat.repr := by
  intro i j h
  have hdigits : Nat.toDigits 10 i = Nat.toDigits 10 j := by
    rw [← Nat.toList_repr, ← Nat.toList_repr, h]
  rw [← Nat.ofDigitChars_ten_toDigits (n := i), hdigits, Nat.ofDigitChars_ten_toDigits]

theorem distinct_manyFlights (n : ℕ) :
    ((manyFlights n).map FlightCall.flightId).dedup.length = n := by
  have hids : (manyFlights n).map FlightCall.flightId = (List.range n).map Nat.repr := by
    rw [manyFlights, List.map_map]
    rfl
  rw [hids, (List.nodup_range.map repr_injective).dedup, List.length_map, List.length_range]

theorem getFlightsInfo_manyFlights (toInt : String → ℤ) (n : ℕ) (h : ¬ n % 2 ^ 32 < 2 ^ 31) :
    (getFlightsInfo toInt (insertFlights ⟨some [], fun _ => none⟩ (manyFlights n))
      .succeeds).result = .error .lengthError := by
  rw [getFlightsInfo_insertFlights toInt rfl, distinct_manyFlights, if_neg h]

/-- With 2^31 flights the count is read as a negative int and `reserve` throws. -/
theorem many_flights_not_listed :
    ¬ ∃ flightsInfo,
      (getFlightsInfo (fun text => datetimeToInt exampleTime id (exampleStored text))
        (insertFlights ⟨some [], fun _ => none⟩ (manyFlights (2 ^ 31))) .succeeds).result =
        .ok flightsInfo ∧
      ListsLast (datetimeToInt exampleTime id) (manyFlights (2 ^ 31)) flightsInfo := by
  intro h
  obtain ⟨flightsInfo, hresult, _⟩ := h
  rw [getFlightsInfo_manyFlights _ (2 ^ 31) (by decide)] at hresult
  contradiction

end FlightsTable

end AirlineReservation
