import AirlineReservation.FlightOverload
import AirlineReservation.Library.Transactions

/-!
The persistence functions one call of SQLite at a time. A statement is prepared,
its parameters are bound by their numbers, it is stepped, and its columns are
found by name; transactions are begun, committed and rolled back by statements
too. Any of these calls may fail. What the functions of the persistence manager
take as the outcome of a transaction or of a retrieval follows here from where
the failures are.
-/

namespace AirlineReservation.Statements

open Transactions Program

abbrev Sqlite (α : Type) := Prog Fault Database α

/-- A call of the program itself: its fault is no exception that a handler catches. -/
def lift {α : Type} (result : Except Fault α) : Sqlite α :=
  match result with
  | .ok a => pure a
  | .error e => throw (.fault e)

inductive Value
  | integer (i : ℤ)
  | text (s : String)
  deriving DecidableEq, Repr

def isSpace (c : Char) : Bool := c = ' ' || (9 ≤ c.toNat && c.toNat ≤ 13)

/-- `sqlite3Atoi64`: the leading number of a text, cut off at 64 bits. -/
def atoi64 (text : String) : ℤ :=
  let digits (cs : List Char) : ℤ := Nat.ofDigitChars 10 (cs.takeWhile Char.isDigit) 0
  match text.toList.dropWhile isSpace with
  | '-' :: cs => max (-2 ^ 63) (-digits cs)
  | '+' :: cs => min (2 ^ 63 - 1) (digits cs)
  | cs => min (2 ^ 63 - 1) (digits cs)

def Value.getInt : Value → ℤ
  | .integer i => AirlineReservation.getInt i
  | .text s => AirlineReservation.getInt (atoi64 s)

def Value.getString : Value → String
  | .integer i => toString i
  | .text s => s

inductive Table
  | flights
  | bookings (tableName : String)
  deriving DecidableEq, Repr

/-- The texts of the statements, by what they say. -/
inductive Query
  | count (table : Table)
  | selectAll (table : Table)
  | selectSeat (tableName : String)
  | updateSeat (tableName : String)
  | insertSeat (tableName : String)
  | deleteSeat (tableName : String)
  | insertFlight
  | insertFlightInformation
  deriving DecidableEq, Repr

namespace Query

def table : Query → Table
  | count table => table
  | selectAll table => table
  | selectSeat tableName => .bookings tableName
  | updateSeat tableName => .bookings tableName
  | insertSeat tableName => .bookings tableName
  | deleteSeat tableName => .bookings tableName
  | insertFlight => .flights
  | insertFlightInformation => .flights

/-- The number of `?` placeholders. -/
def parameters : Query → ℕ
  | count _ => 0
  | selectAll _ => 0
  | selectSeat _ => 2
  | updateSeat _ => 5
  | insertSeat _ => 5
  | deleteSeat _ => 2
  | insertFlight => 8
  | insertFlightInformation => 6

def columns : Query → List String
  | count _ => ["COUNT(*)"]
  | selectAll .flights => ["flightId", "origin", "destination", "departureTime", "arrivalTime",
      "bookingTable", "rows", "cols"]
  | selectAll (.bookings _) => ["name", "email", "maxLoad", "row", "col"]
  | selectSeat _ => ["row", "col"]
  | _ => []

end Query

/-- The columns of a row, in the order of the schema. -/
def flightValues (row : FlightRow) : List Value :=
  [.text row.flightId, .text row.origin, .text row.destination, .text row.departureTime,
    .text row.arrivalTime, .text row.bookingTable, .integer row.rows, .integer row.cols]

def bookingValues (b : BookingInformation) : List Value :=
  [.text b.name, .text b.email, .text b.maxLoad, .integer b.row, .integer b.col]

/-- A query prepares when its table exists. -/
def openTable (db : Database) : Table → Except Fault (List (List Value))
  | .flights =>
    match db.flights with
    | some rows => .ok (rows.map flightValues)
    | none => .error .sqlException
  | .bookings tableName => do
    let t ← db.openTable tableName
    return t.map bookingValues

/-- `INSERT or REPLACE INTO flights` -/
def replaceFlight (db : Database) (row : FlightRow) : Except Fault Database :=
  match db.flights with
  | some flights => .ok { db with
      flights := some (RowTable.deleteAt FlightRow.flightId row.flightId flights ++ [row]) }
  | none => .error .sqlException

/-- The rows that a query gives and the database after it. The program binds each
parameter to a value of its column's type; what another value would do is not modelled. -/
def Query.run (db : Database) : Query → List (Option Value) →
    Except Fault (List (List Value) × Database)
  | .count table, _ => do
    let rows ← openTable db table
    return ([[.integer rows.length]], db)
  | .selectAll table, _ => do
    let rows ← openTable db table
    return (rows, db)
  | .selectSeat tableName, [some (.integer row), some (.integer col)] => do
    let found ← db.selectSeat tableName row col
    return (found.map fun b => [.integer b.row, .integer b.col], db)
  | .updateSeat tableName, [some (.text name), some (.text email), some (.text maxLoad),
      some (.integer row), some (.integer col)] => do
    let db' ← db.updateSeat tableName name email maxLoad row col
    return ([], db')
  | .insertSeat tableName, [some (.text name), some (.text email), some (.text maxLoad),
      some (.integer row), some (.integer col)] => do
    let db' ← db.insertSeat tableName name email maxLoad row col
    return ([], db')
  | .deleteSeat tableName, [some (.integer row), some (.integer col)] => do
    let db' ← db.deleteSeat tableName row col
    return ([], db')
  | .insertFlight, [some (.text flightId), some (.text origin), some (.text destination),
      some (.text departureTime), some (.text arrivalTime), some (.text bookingTable),
      some (.integer rows), some (.integer cols)] => do
    let db' ← replaceFlight db
      ⟨flightId, origin, destination, departureTime, arrivalTime, bookingTable, rows, cols⟩
    return ([], db')
  | .insertFlightInformation, [some (.text flightId), some (.text origin),
      some (.text destination), some (.integer departureTime), some (.integer arrivalTime),
      some (.text bookingTable)] => do
    let db' ← replaceFlight db
      ⟨flightId, origin, destination, toString departureTime, toString arrivalTime,
        bookingTable, 0, 0⟩
    return ([], db')
  | _, _ => .error .sqlException

/-- A prepared statement: its parameters, the rows still to come once it was stepped,
the current row, and the two flags of `SQLite::Statement`. -/
structure Statement where
  query : Query
  bound : List (Option Value)
  pending : Option (List (List Value))
  row : List Value
  mbHasRow : Bool
  mbDone : Bool
  deriving DecidableEq, Repr

/-- What `sqlite3_step` returns, or `SQLITE_MISUSE` of the wrapper. -/
inductive ResultCode
  | row
  | done
  | misuse
  | failed
  deriving DecidableEq, Repr

namespace Statement

/-- The statement without any value bound. -/
def start (query : Query) : Statement :=
  ⟨query, List.replicate query.parameters none, none, [], false, false⟩

/-- The constructor: `sqlite3_prepare_v2`. -/
def prepare (query : Query) : Sqlite Statement := do
  call
  let engine ← get
  match openTable engine.store.contents query.table with
  | .ok _ => return start query
  | .error _ => throw .exception

/-- The parameters are numbered from 1. -/
def setBound (stmt : Statement) (aIndex : ℕ) (aValue : Value) : Statement :=
  { stmt with bound := stmt.bound.set (aIndex - 1) (some aValue) }

def bind (stmt : Statement) (aIndex : ℕ) (aValue : Value) : Sqlite Statement := do
  call
  if 1 ≤ aIndex ∧ aIndex ≤ stmt.query.parameters then return stmt.setBound aIndex aValue
  else throw .exception

/-- `sqlite3_step`: the next row if there is one, and the rows after it. The first
step runs the query. -/
def sqlite3Step (stmt : Statement) : Sqlite (Option (List Value) × List (List Value)) :=
  attempt fun engine =>
    match stmt.pending with
    | some [] => .ok (none, []) engine
    | some (row :: rest) => .ok (some row, rest) engine
    | none =>
      match stmt.query.run engine.store.contents stmt.bound with
      | .error _ => .error .exception engine
      | .ok ([], db) => .ok (none, []) { engine with store := engine.store.write db }
      | .ok (row :: rest, db) =>
        .ok (some row, rest) { engine with store := engine.store.write db }

/-- After an error the next step starts the query again. -/
def tryExecuteStep (stmt : Statement) : Sqlite (ResultCode × Statement) :=
  if stmt.mbDone then return (.misuse, stmt)
  else
    catching (do
      let (row, rest) ← stmt.sqlite3Step
      match row with
      | some row =>
        return (.row, { stmt with pending := some rest, row := row, mbHasRow := true })
      | none =>
        return (.done, { stmt with pending := some rest, mbHasRow := false, mbDone := true }))
    (return (.failed, { stmt with pending := none, mbHasRow := false, mbDone := false }))

def executeStep (stmt : Statement) : Sqlite (Bool × Statement) := do
  let (ret, stmt) ← stmt.tryExecuteStep
  if ret = .row ∨ ret = .done then return (stmt.mbHasRow, stmt) else throw .exception

def exec (stmt : Statement) : Sqlite Statement := do
  let (ret, stmt) ← stmt.tryExecuteStep
  if ret = .done then return stmt else throw .exception

/-- The map of `getColumnIndex` is filled from left to right: a later column of the
same name replaces an earlier one. -/
def getColumnIndex (stmt : Statement) (apName : String) : Option ℕ :=
  ((stmt.query.columns.zipIdx.filter fun column => column.1 = apName).getLast?).map Prod.snd

/-- `getColumn(0)` and the like. -/
def getColumnAt (stmt : Statement) (aIndex : ℕ) : Sqlite Value :=
  if stmt.mbHasRow then
    match stmt.row[aIndex]? with
    | some value => pure value
    | none => throw .exception
  else throw .exception

def getColumn (stmt : Statement) (apName : String) : Sqlite Value :=
  if stmt.mbHasRow then
    match stmt.getColumnIndex apName with
    | some index => stmt.getColumnAt index
    | none => throw .exception
  else throw .exception

end Statement

def insertFlight (flightId origin destination departureTime arrivalTime : String)
    (rows cols : ℤ) : Sqlite Unit :=
  let bookingTable := "booking" ++ flightId
  transact do
    let query ← Statement.prepare .insertFlight
    let query ← query.bind 1 (.text flightId)
    let query ← query.bind 2 (.text origin)
    let query ← query.bind 3 (.text destination)
    let query ← query.bind 4 (.text departureTime)
    let query ← query.bind 5 (.text arrivalTime)
    let query ← query.bind 6 (.text bookingTable)
    let query ← query.bind 7 (.integer rows)
    let query ← query.bind 8 (.integer cols)
    let _ ← query.exec

def insertFlightInformation (flightInfo : FlightInformation) : Sqlite Unit :=
  let bookingTable := "booking" ++ flightInfo.flightID
  transact do
    let query ← Statement.prepare .insertFlightInformation
    let query ← query.bind 1 (.text flightInfo.flightID)
    let query ← query.bind 2 (.text flightInfo.origin)
    let query ← query.bind 3 (.text flightInfo.destination)
    let query ← query.bind 4 (.integer flightInfo.departureTime)
    let query ← query.bind 5 (.integer flightInfo.arrivalTime)
    let query ← query.bind 6 (.text bookingTable)
    let query ← query.bind 7 (.integer flightInfo.rows)
    let query ← query.bind 8 (.integer flightInfo.cols)
    let _ ← query.exec

/-- The UPDATE and the INSERT bind the same five values in the same order. -/
def writeSeat (seatMap : SeatMap) (statement : Query) (row col : ℤ) (name : String) :
    Sqlite Unit := do
  let query ← Statement.prepare statement
  let query ← query.bind 1 (.text name)
  let email ← lift (seatMap.getEmail row col)
  let query ← query.bind 2 (.text email)
  let maxLoad ← lift (seatMap.getMaxLoad row col)
  let query ← query.bind 3 (.text maxLoad)
  let query ← query.bind 4 (.integer row)
  let query ← query.bind 5 (.integer col)
  let _ ← query.exec

/-- The `try` body for one seat. -/
def storeSeat (seatMap : SeatMap) (tableName : String) (row col : ℤ) (name : String) :
    Sqlite Unit := do
  let checkQuery ← Statement.prepare (.selectSeat tableName)
  let checkQuery ← checkQuery.bind 1 (.integer row)
  let checkQuery ← checkQuery.bind 2 (.integer col)
  let (found, _) ← checkQuery.executeStep
  if found then writeSeat seatMap (.updateSeat tableName) row col name
  else writeSeat seatMap (.insertSeat tableName) row col name

def insertBookingSeat (seatMap : SeatMap) (tableName : String) (seat : ℤ × ℤ) : Sqlite Unit := do
  let name ← lift (element seatMap.passengerMap seat.1 seat.2)
  if name ≠ "" then transact (storeSeat seatMap tableName seat.1 seat.2 name)

def insertBookingLoop (seatMap : SeatMap) (tableName : String) : List (ℤ × ℤ) → Sqlite Unit
  | [] => return ()
  | seat :: rest => do
    insertBookingSeat seatMap tableName seat
    insertBookingLoop seatMap tableName rest

def insertBookingData (seatMap : SeatMap) (tableName : String) : Sqlite Unit :=
  insertBookingLoop seatMap tableName seatMap.seats

def deleteBookingData (tableName : String) (row col : ℤ) : Sqlite Unit :=
  catching (do
    let query ← Statement.prepare (.deleteSeat tableName)
    let query ← query.bind 1 (.integer row)
    let query ← query.bind 2 (.integer col)
    let _ ← query.exec)
  (return ())

def countEntriesInTable (table : Table) : Sqlite ℕ :=
  catching (do
    let query ← Statement.prepare (.count table)
    let (hasRow, query) ← query.executeStep
    if hasRow then return toSizeT (← query.getColumnAt 0).getInt else return 0)
  (return toSizeT (-1))

/-- The rows that a statement has still to give. -/
def Statement.remaining (stmt : Statement) (engine : Engine Database) : ℕ :=
  match stmt.pending with
  | some rows => rows.length
  | none =>
    match stmt.query.run engine.store.contents stmt.bound with
    | .ok (rows, _) => rows.length
    | .error _ => 0

theorem Statement.ends_sqlite3Step (stmt : Statement) (engine : Engine Database) :
    Ends stmt.sqlite3Step engine
      (fun result _ => result.1.isSome → result.2.length < stmt.remaining engine)
      (fun _ _ => True) := by
  refine ends_attempt ?_ (fun _ => trivial) (fun _ => trivial) (fun _ => trivial)
  intro script
  unfold Ends Statement.remaining
  cases stmt.pending with
  | some rows =>
    cases rows with
    | nil => simp
    | cons row rest => simp
  | none =>
    simp only
    cases stmt.query.run engine.store.contents stmt.bound with
    | error e => trivial
    | ok result =>
      obtain ⟨rows, db⟩ := result
      cases rows with
      | nil => simp
      | cons row rest => simp

theorem Statement.ends_executeStep (stmt : Statement) (engine : Engine Database) :
    Ends stmt.executeStep engine
      (fun result _ => result.1 = true →
        ∃ rest, result.2.pending = some rest ∧ rest.length < stmt.remaining engine)
      (fun _ _ => True) := by
  unfold Statement.executeStep Statement.tryExecuteStep
  split
  · exact trivial
  · refine Ends.bind (P := fun result _ => result.2.mbHasRow = true →
        ∃ rest, result.2.pending = some rest ∧ rest.length < stmt.remaining engine) ?_ ?_
    · refine ends_catching (F := fun _ _ => True) ?_ ?_ (fun _ _ _ _ => trivial)
      · refine (stmt.ends_sqlite3Step engine).bind ?_
        intro result engine' hrest
        obtain ⟨row, rest⟩ := result
        cases row with
        | none => exact Ends.pure (by simp)
        | some row => exact Ends.pure fun _ => ⟨rest, rfl, hrest rfl⟩
      · intro engine' _
        exact Ends.pure (by simp)
    · intro result engine' hrow
      obtain ⟨ret, stmt'⟩ := result
      simp only
      split
      · exact Ends.pure hrow
      · exact trivial

/-- A step that gives a row leaves one row less. -/
theorem Statement.remaining_executeStep {stmt stmt' : Statement} {engine engine' : Engine Database}
    (h : stmt.executeStep engine = .ok (true, stmt') engine') (engine'' : Engine Database) :
    stmt'.remaining engine'' < stmt.remaining engine := by
  obtain ⟨rest, hpending, hless⟩ := (stmt.ends_executeStep engine).of_ok h rfl
  rw [Statement.remaining, hpending]
  exact hless

/-- `while (query.executeStep())` within its `try`, with the vector filled so far. The
handler keeps what is in it. -/
def fetchFrom {α : Type} (read : Statement → Sqlite α) (query : Statement) (returnVec : List α)
    (engine : Engine Database) : EStateM.Result (Stop Fault) (Engine Database) (List α) :=
  match _h : query.executeStep engine with
  | .ok (true, query') engine' =>
    match read query' engine' with
    | .ok a engine'' => fetchFrom read query' (returnVec ++ [a]) engine''
    | .error .exception engine'' => .ok returnVec engine''
    | .error stop engine'' => .error stop engine''
  | .ok (false, _) engine' => .ok returnVec engine'
  | .error .exception engine' => .ok returnVec engine'
  | .error stop engine' => .error stop engine'
termination_by query.remaining engine
decreasing_by exact Statement.remaining_executeStep _h engine''

/-- The shared body of the two retrieval functions. The `reserve` stands before the `try`. -/
def retrieve {α : Type} (table : Table) (read : Statement → Sqlite α) : Sqlite (List α) := do
  let numEntries ← countEntriesInTable table
  match reserve numEntries with
  | .error _ => throw .exception
  | .ok () =>
    let query ← catching (do let query ← Statement.prepare (.selectAll table); return some query)
      (return none)
    match query with
    | some query => fetchFrom read query []
    | none => return []

def readFlight (datetimeToInt : String → ℤ) (query : Statement) : Sqlite FlightInformation := do
  let flightID := (← query.getColumn "flightId").getString
  let origin := (← query.getColumn "origin").getString
  let destination := (← query.getColumn "destination").getString
  let bookingTable := (← query.getColumn "bookingTable").getString
  let departureTime := datetimeToInt (← query.getColumn "departureTime").getString
  let arrivalTime := datetimeToInt (← query.getColumn "arrivalTime").getString
  let rows := (← query.getColumn "rows").getInt
  let cols := (← query.getColumn "cols").getInt
  return ⟨flightID, origin, destination, bookingTable, departureTime, arrivalTime, rows, cols⟩

def getFlightsInfo (datetimeToInt : String → ℤ) : Sqlite (List FlightInformation) :=
  retrieve .flights (readFlight datetimeToInt)

def readBooking (query : Statement) : Sqlite BookingInformation := do
  let name := (← query.getColumn "name").getString
  let email := (← query.getColumn "email").getString
  let maxLoad := (← query.getColumn "maxLoad").getString
  let row := (← query.getColumn "row").getInt
  let col := (← query.getColumn "col").getInt
  return ⟨name, email, maxLoad, row, col⟩

def getBookingsInfo (tableName : String) : Sqlite (List BookingInformation) :=
  retrieve (.bookings tableName) readBooking

end AirlineReservation.Statements
