import AirlineReservation.SeatMap

/-!
The persistence manager: creating tables, storing flights, saving and deleting
bookings, and reading everything back. Saving walks the whole grid and runs one
transaction for each seat that holds a passenger name; whether a seat is taken
plays no part.
-/

namespace AirlineReservation

def createFlightsTable (db : Database) : Database :=
  if db.flights.isSome then db else { db with flights := some [] }

/-- `INSERT or REPLACE` on the primary key: the old row goes, the new one is last. -/
def insertFlight (db : Database)
    (flightId origin destination departureTime arrivalTime : String) (rows cols : ℤ)
    (outcome : TransactionOutcome) : Database × Except Fault Unit :=
  transaction outcome (fun db =>
    match db.flights with
    | none => .error .sqlException
    | some flights => .ok { db with
        flights := some (RowTable.deleteAt FlightRow.flightId flightId flights ++
          [⟨flightId, origin, destination, departureTime, arrivalTime, "booking" ++ flightId,
            rows, cols⟩]) }) db

/-- `CREATE TABLE IF NOT EXISTS`. The names the program forms begin with
"Booking", so the flights table is never meant. For a text that is no name
`sqlite3_exec` runs all statements that its pasting makes; the model then only
fails, see `tableKey`. -/
def createBookingTable (db : Database) (tableName : String) : Except Fault Database :=
  match tableKey tableName with
  | none => .error .sqlException
  | some key =>
    match db.bookings key with
    | some _ => .ok db
    | none => .ok (db.setBookingTable tableName [])

/-- The positions of the loops `row < m_Rows`, `col < m_Cols`, in order. -/
def SeatMap.seats (s : SeatMap) : List (ℤ × ℤ) :=
  (List.range s.rows.toNat).flatMap fun (row : ℕ) =>
    (List.range s.cols.toNat).map fun (col : ℕ) => ((row : ℤ), (col : ℤ))

/-- The `try` body for one seat: look the entry up, then update or insert it. -/
def storeSeat (seatMap : SeatMap) (tableName : String) (row col : ℤ) (name : String)
    (db : Database) : Except Fault Database := do
  let found ← db.selectSeat tableName row col
  let email ← seatMap.getEmail row col
  let maxLoad ← seatMap.getMaxLoad row col
  match found with
  | _ :: _ => db.updateSeat tableName name email maxLoad row col
  | [] => db.insertSeat tableName name email maxLoad row col

/-- One iteration of the save loop. -/
def insertBookingSeat (seatMap : SeatMap) (tableName : String) (outcome : TransactionOutcome)
    (seat : ℤ × ℤ) (db : Database) : Database × Except Fault Unit :=
  match element seatMap.passengerMap seat.1 seat.2 with
  | .error e => (db, .error e)
  | .ok name =>
    if name ≠ "" then
      transaction outcome (storeSeat seatMap tableName seat.1 seat.2 name) db
    else (db, .ok ())

/-- The save loop over the positions that remain. -/
def insertBookingLoop (seatMap : SeatMap) (tableName : String)
    (outcome : ℤ × ℤ → TransactionOutcome) :
    List (ℤ × ℤ) → Database → Database × Except Fault Unit
  | [], db => (db, .ok ())
  | seat :: rest, db =>
    match insertBookingSeat seatMap tableName (outcome seat) seat db with
    | (db', .ok ()) => insertBookingLoop seatMap tableName outcome rest db'
    | (db', .error e) => (db', .error e)

def insertBookingData (seatMap : SeatMap) (db : Database) (tableName : String)
    (outcome : ℤ × ℤ → TransactionOutcome) : Database × Except Fault Unit :=
  insertBookingLoop seatMap tableName outcome seatMap.seats db

/-- Every exception of the delete is caught; `raises` says that there is one. -/
def deleteBookingData (db : Database) (tableName : String) (row col : ℤ) (raises : Bool) :
    Database :=
  if raises then db
  else
    match db.deleteSeat tableName row col with
    | .ok db' => db'
    | .error _ => db

/-- Whether preparing a SELECT raises, and whether its k-th `executeStep` does. -/
structure SelectOutcome where
  prepareRaises : Bool
  stepRaises : ℕ → Bool

def SelectOutcome.succeeds : SelectOutcome := ⟨false, fun _ => false⟩

/-- `static_cast` of an int to `size_t`. -/
def toSizeT (i : ℤ) : ℕ := (i % 2 ^ 64).toNat

/-- `getInt` of a 64-bit column: its low 32 bits, signed. -/
def getInt (i : ℤ) : ℤ := i.bmod (2 ^ 32)

/-- The number of pointers beyond which `std::vector::reserve` refuses. -/
def maxSize : ℕ := 2 ^ 61 - 1

def reserve (n : ℕ) : Except Fault Unit :=
  if maxSize < n then .error .lengthError else .ok ()

/-- Whether the count raises, by the table being missing or by an error. -/
def countRaises {ρ : Type*} (outcome : SelectOutcome) (table : Option (List ρ)) : Bool :=
  table.isNone || outcome.prepareRaises || outcome.stepRaises 0

/-- The count of the rows, with the texts reported to `std::cerr`. The handler
returns -1 as an unsigned size. -/
def countEntriesInTable {ρ : Type*} (outcome : SelectOutcome) (table : Option (List ρ)) :
    ℕ × List String :=
  if countRaises outcome table then (toSizeT (-1), ["Error counting entries: "])
  else (toSizeT (getInt (table.getD []).length), [])

/-- The rows stepped through until the first error, and whether there was one. -/
def fetchRows {ρ : Type*} (stepRaises : ℕ → Bool) : ℕ → List ρ → List ρ × Bool
  | k, [] => ([], stepRaises k)
  | k, row :: rest =>
    if stepRaises k then ([], true)
    else
      let fetched := fetchRows stepRaises (k + 1) rest
      (row :: fetched.1, fetched.2)

def fetch {ρ : Type*} (outcome : SelectOutcome) (table : Option (List ρ)) : List ρ × Bool :=
  match table with
  | none => ([], true)
  | some rows => if outcome.prepareRaises then ([], true) else fetchRows outcome.stepRaises 0 rows

structure RetrievalOutcome where
  count : SelectOutcome
  select : SelectOutcome

def RetrievalOutcome.succeeds : RetrievalOutcome := ⟨.succeeds, .succeeds⟩

/-- A retrieval: the argument its `reserve` was called with, what it reported,
and the vector it returned or the exception that left it. -/
structure Retrieval (α : Type*) where
  reserved : ℕ
  reports : List String
  result : Except Fault (List α)

/-- The shared body of the two retrieval functions. The `reserve` stands before
the `try`, so its exception is not caught. -/
def retrieve {ρ α : Type*} (message : String) (convert : ρ → α) (outcome : RetrievalOutcome)
    (table : Option (List ρ)) : Retrieval α :=
  let (numEntries, countReports) := countEntriesInTable outcome.count table
  match reserve numEntries with
  | .error e => ⟨numEntries, countReports, .error e⟩
  | .ok () =>
    let (rows, failed) := fetch outcome.select table
    ⟨numEntries, countReports ++ (if failed then [message] else []), .ok (rows.map convert)⟩

def FlightRow.information (datetimeToInt : String → ℤ) (row : FlightRow) : FlightInformation :=
  ⟨row.flightId, row.origin, row.destination, row.bookingTable, datetimeToInt row.departureTime,
    datetimeToInt row.arrivalTime, row.rows, row.cols⟩

/-- `datetimeToInt` is the conversion of the text of a DATETIME column. -/
def getFlightsInfo (datetimeToInt : String → ℤ) (db : Database) (outcome : RetrievalOutcome) :
    Retrieval FlightInformation :=
  retrieve "Error retrieving flights information: " (FlightRow.information datetimeToInt) outcome
    db.flights

def getBookingsInfo (db : Database) (tableName : String) (outcome : RetrievalOutcome) :
    Retrieval BookingInformation :=
  retrieve "Error retrieving booking information: " id outcome (db.bookingTable tableName)

/-- The seat map loads through the retrieval of its booking table. -/
def SeatMap.loadFromFlightInformation (s : SeatMap) (db : Database)
    (flightInfo : FlightInformation) (outcome : RetrievalOutcome) : Except Fault SeatMap := do
  let tableName := "Booking" ++ flightInfo.flightID
  let bookingInfos ← (getBookingsInfo db tableName outcome).result
  s.loadBookings flightInfo bookingInfos

/-- A new `SeatMap` of the flight's dimensions, then the load. -/
def SeatMap.freshLoad (db : Database) (flightInfo : FlightInformation)
    (outcome : RetrievalOutcome) : Except Fault SeatMap := do
  let s ← SeatMap.new flightInfo.rows flightInfo.cols
  s.loadFromFlightInformation db flightInfo outcome

end AirlineReservation
