import AirlineReservation.Library.Run
import AirlineReservation.PersistenceManager

/-!
One application session: the active flight, the selected seat, and what the
buttons of the panels do to them and to the database. An exception that leaves
a button handler ends the process; the database keeps what was committed. The
texts of a Book or Update are arguments here, the panels that supply them
follow in Frames.
-/

namespace AirlineReservation

structure Flight where
  flightID : String
  origin : String
  destination : String
  departureTime : ℤ
  arrivalTime : ℤ
  seatMap : SeatMap
  deriving DecidableEq, Repr

/-- `activeFlight` (with `activeSeatMap` inside it) and `g_SelectedRowCol`. -/
structure Session where
  activeFlight : Option Flight
  selectedRowCol : ℤ × ℤ
  deriving DecidableEq, Repr

def Session.start : Session := ⟨none, (0, 0)⟩

def generateBookingTableName (activeFlight : Option Flight) : String :=
  match activeFlight with
  | some flight => "Booking" ++ flight.flightID
  | none => ""

/-- The outcomes of the SQL statements that one action may issue. -/
structure SqlOutcomes where
  retrieval : RetrievalOutcome
  seat : ℤ × ℤ → TransactionOutcome
  deleteRaises : Bool

def SqlOutcomes.succeed : SqlOutcomes := ⟨.succeeds, fun _ => .committed, false⟩

/-- The Select button of a listed flight. -/
def selectPressed (outcomes : SqlOutcomes) (db : Database)
    (flightInformation : FlightInformation) (session : Session) : Except Fault Session := do
  let seatMap ← SeatMap.freshLoad db flightInformation outcomes.retrieval
  return { session with
    activeFlight := some ⟨flightInformation.flightID, flightInformation.origin,
      flightInformation.destination, flightInformation.departureTime,
      flightInformation.arrivalTime, seatMap⟩ }

/-- The button at grid position (i, j); the coordinates are `unsigned short`. -/
def seatPressed (flight : Flight) (i j : ℕ) (session : Session) : Session :=
  if (Grid.read flight.seatMap.seatMap i j).isSome then
    { session with selectedRowCol := ((i % 2 ^ 16 : ℕ), (j % 2 ^ 16 : ℕ)) }
  else session

/-- Make `seatMap` the contents of the active flight and save it. -/
def saveActive (outcomes : SqlOutcomes) (db : Database) (flight : Flight) (seatMap : SeatMap)
    (session : Session) : Database × Except Fault Session :=
  let active := some { flight with seatMap := seatMap }
  match insertBookingData seatMap db (generateBookingTableName active) outcomes.seat with
  | (db', .ok ()) => (db', .ok { session with activeFlight := active })
  | (db', .error e) => (db', .error e)

/-- The Book button; a refused booking is only logged. -/
def bookPressed (outcomes : SqlOutcomes) (db : Database) (flight : Flight) (session : Session)
    (name email maxLoad : String) : Database × Except Fault Session :=
  match flight.seatMap.bookSeat session.selectedRowCol.1 session.selectedRowCol.2
      name email maxLoad with
  | .error e => (db, .error e)
  | .ok (false, _) => (db, .ok session)
  | .ok (true, seatMap) => saveActive outcomes db flight seatMap session

/-- The Update button cancels, books again whatever that returns, and saves. -/
def updatePressed (outcomes : SqlOutcomes) (db : Database) (flight : Flight) (session : Session)
    (name email maxLoad : String) : Database × Except Fault Session :=
  let (row, col) := session.selectedRowCol
  match flight.seatMap.cancelBooking row col >>=
      fun seatMap => seatMap.bookSeat row col name email maxLoad with
  | .error e => (db, .error e)
  | .ok (_, seatMap) => saveActive outcomes db flight seatMap session

def deletePressed (outcomes : SqlOutcomes) (db : Database) (flight : Flight)
    (session : Session) : Database × Except Fault Session :=
  let (row, col) := session.selectedRowCol
  match flight.seatMap.cancelBooking row col with
  | .error e => (db, .error e)
  | .ok seatMap =>
    let active := some { flight with seatMap := seatMap }
    (deleteBookingData db (generateBookingTableName active) row col outcomes.deleteRaises,
      .ok { session with activeFlight := active })

/-- The Manage Bookings panel shows its buttons unless the seat is available. -/
def whenNotAvailable (db : Database) (flight : Flight) (session : Session)
    (handler : Database × Except Fault Session) : Database × Except Fault Session :=
  match flight.seatMap.isSeatAvailable session.selectedRowCol.1 session.selectedRowCol.2 with
  | .error e => (db, .error e)
  | .ok true => (db, .ok session)
  | .ok false => handler

inductive Action
  | selectFlight (flightInformation : FlightInformation)
  | clickSeat (i j : ℕ)
  | book (name email maxLoad : String)
  | update (name email maxLoad : String)
  | delete
  deriving DecidableEq, Repr

/-- Without an active flight only Select does anything. -/
def perform (outcomes : SqlOutcomes) (db : Database) (session : Session) (action : Action) :
    Database × Except Fault Session :=
  match action, session.activeFlight with
  | .selectFlight flightInformation, _ =>
    (db, selectPressed outcomes db flightInformation session)
  | _, none => (db, .ok session)
  | .clickSeat i j, some flight => (db, .ok (seatPressed flight i j session))
  | .book name email maxLoad, some flight =>
    bookPressed outcomes db flight session name email maxLoad
  | .update name email maxLoad, some flight =>
    whenNotAvailable db flight session
      (updatePressed outcomes db flight session name email maxLoad)
  | .delete, some flight =>
    whenNotAvailable db flight session (deletePressed outcomes db flight session)

/-- The database with one session, which is an error once the process has ended. -/
structure App where
  db : Database
  session : Except Fault Session

def App.step (app : App) (event : SqlOutcomes × Action) : App :=
  match app.session with
  | .error _ => app
  | .ok session =>
    let (db, session) := perform event.1 app.db session event.2
    ⟨db, session⟩

/-- An action with every SQL statement succeeding. -/
def App.act (app : App) (action : Action) : App := app.step (.succeed, action)

end AirlineReservation
