import AirlineReservation.FlightsTable

/-!
The overload of `InsertFlight` that takes a `FlightInformation`. Its statement
names six columns and has six placeholders, while the code binds eight values,
so that the seventh bind raises and the handler rolls back. The listing then
has the flight only where the table had it before.
-/

namespace AirlineReservation

/-- `bind` throws on an index that the statement has no placeholder for. -/
def bindIndex (placeholders index : ℕ) : Except Fault Unit :=
  if 1 ≤ index ∧ index ≤ placeholders then .ok () else .error .sqlException

/-- `InsertFlight(db, flightInfo)`. The times are bound as integers, which the
columns give back as decimal texts; a column that is not named is NULL, and
`getInt` reads NULL as 0. -/
def insertFlightInformation (db : Database) (flightInfo : FlightInformation)
    (outcome : TransactionOutcome) : Database × Except Fault Unit :=
  transaction outcome (fun db =>
    match db.flights with
    | none => .error .sqlException
    | some flights => do
      bindIndex 6 1
      bindIndex 6 2
      bindIndex 6 3
      bindIndex 6 4
      bindIndex 6 5
      bindIndex 6 6
      bindIndex 6 7
      bindIndex 6 8
      return { db with
        flights := some (RowTable.replace FlightRow.flightId
          { flightId := flightInfo.flightID
            origin := flightInfo.origin
            destination := flightInfo.destination
            departureTime := toString flightInfo.departureTime
            arrivalTime := toString flightInfo.arrivalTime
            bookingTable := "booking" ++ flightInfo.flightID
            rows := 0
            cols := 0 } flights) }) db

namespace FlightsTable

/-- The listing of a database has an entry with the fields of the flight, its
booking table aside, and of all other flights the entries of the table before. -/
def ListsInserted (toInt : String → ℤ) (before : List FlightRow) (after : Database)
    (flightInfo : FlightInformation) : Prop :=
  ∃ flightsInfo, (getFlightsInfo toInt after .succeeds).result = .ok flightsInfo ∧
    (∃ entry ∈ flightsInfo, entry = { flightInfo with bookingTable := entry.bookingTable }) ∧
    flightsInfo.filter (fun entry => entry.flightID ≠ flightInfo.flightID) =
      (RowTable.deleteAt FlightRow.flightId flightInfo.flightID before).map
        (FlightRow.information toInt)

/-- Whatever becomes of the transaction, the overload changes nothing. -/
theorem insertFlightInformation_unchanged (db : Database) (flightInfo : FlightInformation)
    (outcome : TransactionOutcome) : (insertFlightInformation db flightInfo outcome).1 = db := by
  cases outcome with
  | committed =>
    cases hflights : db.flights with
    | none => simp only [insertFlightInformation, transaction, hflights]
    | some flights =>
      -- the first six binds succeed, the seventh ends the `try` body
      simp only [insertFlightInformation, transaction, hflights]
      rfl
  | rolledBack => rfl
  | beginRaised => rfl
  | rollbackRaised => rfl

/-- The entries of the other flights, before and after the conversion. -/
theorem filter_information (toInt : String → ℤ) (flightId : String) (t : List FlightRow) :
    (t.map (FlightRow.information toInt)).filter (fun entry => entry.flightID ≠ flightId) =
      (RowTable.deleteAt FlightRow.flightId flightId t).map (FlightRow.information toInt) := by
  rw [List.filter_map]
  rfl

/-- Where a table is listed, the listing has the flight when one of its rows has it. -/
theorem listsInserted_iff (toInt : String → ℤ) {before t : List FlightRow} {after : Database}
    (flightInfo : FlightInformation) (hflights : after.flights = some t)
    (hothers : RowTable.deleteAt FlightRow.flightId flightInfo.flightID t =
      RowTable.deleteAt FlightRow.flightId flightInfo.flightID before) :
    ListsInserted toInt before after flightInfo ↔
      CountFits t ∧ ∃ row ∈ t, row.information toInt =
        { flightInfo with bookingTable := row.bookingTable } := by
  have hresult : (getFlightsInfo toInt after .succeeds).result =
      if CountFits t then .ok (t.map (FlightRow.information toInt)) else .error .lengthError := by
    rw [getFlightsInfo, hflights, retrieve_succeeds]
  constructor
  · intro h
    obtain ⟨flightsInfo, hok, hentry, _⟩ := h
    rw [hresult] at hok
    by_cases hfits : CountFits t
    · rw [if_pos hfits] at hok
      obtain rfl := Except.ok.inj hok
      obtain ⟨entry, hmem, heq⟩ := hentry
      obtain ⟨row, hrow, rfl⟩ := List.mem_map.mp hmem
      exact ⟨hfits, row, hrow, heq⟩
    · rw [if_neg hfits] at hok
      contradiction
  · intro h
    obtain ⟨hfits, row, hrow, heq⟩ := h
    refine ⟨t.map (FlightRow.information toInt), ?_, ?_, ?_⟩
    · rw [hresult, if_pos hfits]
    · exact ⟨row.information toInt, List.mem_map_of_mem hrow, heq⟩
    · rw [filter_information, hothers]

theorem deleteAt_replace (row : FlightRow) (t : List FlightRow) :
    RowTable.deleteAt FlightRow.flightId row.flightId
      (RowTable.replace FlightRow.flightId row t) =
      RowTable.deleteAt FlightRow.flightId row.flightId t := by
  have hgone : RowTable.rowsAt FlightRow.flightId row.flightId
      (RowTable.deleteAt FlightRow.flightId row.flightId t) = [] :=
    RowTable.rowsAt_deleteAt_self FlightRow.flightId row.flightId t
  rw [RowTable.replace, RowTable.deleteAt_append,
    RowTable.deleteAt_eq_self FlightRow.flightId row.flightId _ hgone]
  simp [RowTable.deleteAt]

section Dates

variable {τ : Type} {getTime : String → Option τ} {mktime : τ → ℤ} {stored : String → String}

/-- The overload and the listing agree exactly where the flight was there before,
with the same fields; the overload for texts always agrees with the listing. Both
up to the number of flights that the listing can count. -/
theorem overload_lists_iff (hstored : KeepsDates getTime stored) (db : Database)
    (t : List FlightRow) (ht : db.flights = some t) :
    (∀ flightInfo : FlightInformation,
      ListsInserted (fun text => datetimeToInt getTime mktime (stored text)) t
        (insertFlightInformation db flightInfo .committed).1 flightInfo ↔
      CountFits t ∧ ∃ row ∈ t,
        row.information (fun text => datetimeToInt getTime mktime (stored text)) =
          { flightInfo with bookingTable := row.bookingTable }) ∧
    (∀ call : FlightCall,
      ListsInserted (fun text => datetimeToInt getTime mktime (stored text)) t
        (insertFlight db call.flightId call.origin call.destination call.departureTime
          call.arrivalTime call.rows call.cols .committed).1
        (call.entry (datetimeToInt getTime mktime)) ↔
      CountFits (RowTable.replace FlightRow.flightId call.row t)) := by
  constructor
  · intro flightInfo
    rw [insertFlightInformation_unchanged]
    exact listsInserted_iff _ flightInfo ht rfl
  · intro call
    have hothers := deleteAt_replace call.row t
    rw [listsInserted_iff _ _ (insertFlight_committed ht call) hothers]
    refine and_iff_left ?_
    refine ⟨call.row, by simp [RowTable.replace], ?_⟩
    rw [information_row hstored]
    rfl

end Dates

/-- A flight whose times are read from the row below. -/
def exampleFlight : FlightInformation where
  flightID := "PR1"
  origin := "MNL"
  destination := "CEB"
  bookingTable := ""
  departureTime := 1714550400
  arrivalTime := 1714559400
  rows := 1
  cols := 2

def exampleRow : FlightRow where
  flightId := "PR1"
  origin := "MNL"
  destination := "CEB"
  departureTime := "2024-05-01 08:00:00"
  arrivalTime := "2024-05-01 10:30:00"
  bookingTable := "bookingPR1"
  rows := 1
  cols := 2

/-- In a table that has the flight already, it is listed after the call. -/
theorem listed_before_listed_after :
    ListsInserted (fun text => datetimeToInt exampleTime id (exampleStored text)) [exampleRow]
      (insertFlightInformation ⟨some [exampleRow], fun _ => none⟩ exampleFlight .committed).1
      exampleFlight :=
  ((overload_lists_iff keepsDates_example ⟨some [exampleRow], fun _ => none⟩ [exampleRow]
    rfl).1 exampleFlight).mpr ⟨by decide, exampleRow, List.mem_singleton_self exampleRow, by decide⟩

/-- In an empty table the flight is not listed after the call. -/
theorem overload_inserts_nothing :
    ¬ ListsInserted (fun text => datetimeToInt exampleTime id (exampleStored text)) []
      (insertFlightInformation ⟨some [], fun _ => none⟩ exampleFlight .committed).1
      exampleFlight := by
  rw [insertFlightInformation_unchanged]
  intro h
  obtain ⟨_, row, hrow, _⟩ := (listsInserted_iff _ exampleFlight rfl rfl).mp h
  exact List.not_mem_nil hrow

end FlightsTable

end AirlineReservation
