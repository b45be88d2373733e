import AirlineReservation.SessionRuns
import AirlineReservation.Interleaving

/-!
Several sessions that select and book on one flight. Each decides on its own
copy of the seat map and saves the whole copy, one transaction for each named
seat. A booking can only be lost to a copy that was loaded before the booking
stored its seat: any later copy shows the seat as taken.
-/

namespace AirlineReservation.Confirmation

open BookingInformation Interleaving

/-- A session between two frames, in the middle of saving a booking, or ended. -/
inductive Party
  | idle (session : Session)
  | saving (session : Session) (loop : SaveLoop) (booking : BookingInformation)
  | ended (e : Fault)

/-- `transact` lets a save run to the end of its next transaction, or return. -/
inductive Move
  | selectFlight
  | clickSeat (i j : ℕ)
  | book (name email maxLoad : String)
  | transact
  deriving DecidableEq, Repr

/-- The sessions, their database and, for the statements only, the bookings that
were confirmed so far, those that have stored their seat, oldest first, and how
many of the latter there were when each session loaded its copy. -/
structure World (ι : Type*) where
  db : Database
  parties : ι → Party
  confirmed : List BookingInformation
  stored : List BookingInformation
  loadedAt : ι → ℕ

/-- The Book button up to the call of `InsertBookingData`. -/
def beginBooking (session : Session) (flight : Flight) (name email maxLoad : String) : Party :=
  let (row, col) := session.selectedRowCol
  match flight.seatMap.bookSeat row col name email maxLoad with
  | .error e => .ended e
  | .ok (false, _) => .idle session
  | .ok (true, seatMap) =>
    let active := some { flight with seatMap := seatMap }
    .saving { session with activeFlight := active }
      (SaveLoop.begin seatMap (generateBookingTableName active)) ⟨name, email, maxLoad, row, col⟩

/-- One move of a session: the database, the session and what it has confirmed. -/
def Party.move (flightInformation : FlightInformation) (db : Database) :
    Party → Move → Database × Party × List BookingInformation
  | .idle session, .selectFlight =>
    match selectPressed .succeed db flightInformation session with
    | .ok session => (db, .idle session, [])
    | .error e => (db, .ended e, [])
  | .idle session, .clickSeat i j =>
    match session.activeFlight with
    | some flight => (db, .idle (seatPressed flight i j session), [])
    | none => (db, .idle session, [])
  | .idle session, .book name email maxLoad =>
    match session.activeFlight with
    | some flight => (db, beginBooking session flight name email maxLoad, [])
    | none => (db, .idle session, [])
  | .saving session loop booking, .transact =>
    match loop.pending with
    | [] => (db, .idle session, [booking])
    | _ :: _ =>
      match loop.step .committed db with
      | (db, some loop) => (db, .saving session loop booking, [])
      | (db, none) => (db, .ended .outOfRange, [])
  | party, _ => (db, party, [])

/-- The move loads a copy of the seat map. -/
def Party.loads : Party → Move → Bool
  | .idle _, .selectFlight => true
  | _, _ => false

/-- The row that the move writes. -/
def Party.writes : Party → Move → Option BookingInformation
  | .saving _ loop _, .transact =>
    loop.pending.head?.bind (savedRow loop.seatMap fun _ => .committed)
  | _, _ => none

/-- The booking that stores its own seat with the move. -/
def Party.stores : Party → Move → List BookingInformation
  | .saving _ loop booking, .transact =>
    if loop.pending.head? = some booking.seat then [booking] else []
  | _, _ => []

variable {ι : Type*} [DecidableEq ι]

def step (flightInformation : FlightInformation) (world : World ι) (move : ι × Move) : World ι :=
  let before := world.parties move.1
  let (db, party, confirmed) := before.move flightInformation world.db move.2
  { db := db
    parties := Function.update world.parties move.1 party
    confirmed := confirmed ++ world.confirmed
    stored := world.stored ++ before.stores move.2
    loadedAt := if before.loads move.2 then
        Function.update world.loadedAt move.1 world.stored.length
      else world.loadedAt }

/-- All sessions idle without a flight, nothing confirmed. -/
def World.start (ι : Type*) (db : Database) : World ι :=
  ⟨db, fun _ => .idle Session.start, [], [], fun _ => 0⟩

/-- The bookings that have stored their seat since the session loaded its copy. -/
def World.storedSince (world : World ι) (i : ι) : List BookingInformation :=
  world.stored.drop (world.loadedAt i)

/-- Each confirmed booking is all that the table holds for its seat, and no seat
was confirmed to two passengers. -/
def Kept (flightInformation : FlightInformation) (world : World ι) : Prop :=
  (∀ b ∈ world.confirmed, ∃ t,
    world.db.bookingTable ("Booking" ++ flightInformation.flightID) = some t ∧
      RowTable.Settled seat b t) ∧
  ∀ b ∈ world.confirmed, ∀ b' ∈ world.confirmed, b.seat = b'.seat → b = b'

/-- A copy that was loaded before b stored its seat does not write another booking there. -/
def NoStaleSave (b : BookingInformation) (world : World ι) (move : ι × Move) : Prop :=
  ∀ row ∈ (world.parties move.1).writes move.2, row.seat = b.seat →
    b ∈ world.storedSince move.1 → row = b

end AirlineReservation.Confirmation
