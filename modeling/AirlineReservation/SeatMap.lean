import AirlineReservation.Library.Grid
import AirlineReservation.Database

/-!
The seat map of a flight: two dimensions and four grids that are meant to have
them. Every operation compares the coordinates with `m_Rows` and `m_Cols` and
then indexes the grids without looking at their sizes, so an access has a
result only when the indexed element exists.
-/

namespace AirlineReservation

structure SeatMap where
  rows : ℤ
  cols : ℤ
  seatMap : List (List Bool)
  passengerMap : List (List String)
  emailMap : List (List String)
  maxLoadMap : List (List String)
  deriving DecidableEq, Repr

/-- `grid[row][col]` as a value. -/
def element {α : Type*} (grid : List (List α)) (row col : ℤ) : Except Fault α :=
  match Grid.read grid row col with
  | some v => .ok v
  | none => .error .outOfRange

/-- `grid[row][col] = v`. -/
def assign {α : Type*} (grid : List (List α)) (row col : ℤ) (v : α) :
    Except Fault (List (List α)) :=
  match Grid.write grid row col v with
  | some grid' => .ok grid'
  | none => .error .outOfRange

namespace SeatMap

/-- The range check that stands at the head of every operation. -/
def InRange (s : SeatMap) (row col : ℤ) : Prop :=
  0 ≤ row ∧ row < s.rows ∧ 0 ≤ col ∧ col < s.cols

instance (s : SeatMap) (row col : ℤ) : Decidable (s.InRange row col) :=
  inferInstanceAs (Decidable (_ ∧ _))

/-- A negative dimension becomes a huge unsigned size, which the vector refuses.
The prototype rows are built before any grid is resized. -/
def internalInitMaps (s : SeatMap) : Except Fault SeatMap :=
  if s.rows < 0 ∨ s.cols < 0 then .error .lengthError
  else .ok { s with
    seatMap := Grid.resize s.seatMap s.rows (List.replicate s.cols.toNat true)
    passengerMap := Grid.resize s.passengerMap s.rows (List.replicate s.cols.toNat "")
    emailMap := Grid.resize s.emailMap s.rows (List.replicate s.cols.toNat "")
    maxLoadMap := Grid.resize s.maxLoadMap s.rows (List.replicate s.cols.toNat "") }

/-- The constructor `SeatMap(rows, cols)`. -/
def new (rows cols : ℤ) : Except Fault SeatMap :=
  internalInitMaps ⟨rows, cols, [], [], [], []⟩

def isSeatAvailable (s : SeatMap) (row col : ℤ) : Except Fault Bool :=
  if s.InRange row col then element s.seatMap row col else .ok false

def bookSeat (s : SeatMap) (row col : ℤ) (passengerName email maxLoad : String) :
    Except Fault (Bool × SeatMap) := do
  if ← s.isSeatAvailable row col then
    let seatMap ← assign s.seatMap row col false
    let passengerMap ← assign s.passengerMap row col passengerName
    let emailMap ← assign s.emailMap row col email
    let maxLoadMap ← assign s.maxLoadMap row col maxLoad
    return (true, { s with seatMap, passengerMap, emailMap, maxLoadMap })
  else
    return (false, s)

def cancelBooking (s : SeatMap) (row col : ℤ) : Except Fault SeatMap :=
  if s.InRange row col then do
    let seatMap ← assign s.seatMap row col true
    let passengerMap ← assign s.passengerMap row col ""
    let emailMap ← assign s.emailMap row col ""
    let maxLoadMap ← assign s.maxLoadMap row col ""
    return { s with seatMap, passengerMap, emailMap, maxLoadMap }
  else .ok s

/-- The shared body of the three getters. -/
def textAt (s : SeatMap) (grid : List (List String)) (row col : ℤ) : Except Fault String :=
  if s.InRange row col then element grid row col else .ok ""

def getPassengerName (s : SeatMap) (row col : ℤ) : Except Fault String :=
  s.textAt s.passengerMap row col

def getMaxLoad (s : SeatMap) (row col : ℤ) : Except Fault String :=
  s.textAt s.maxLoadMap row col

def getEmail (s : SeatMap) (row col : ℤ) : Except Fault String :=
  s.textAt s.emailMap row col

/-- The body of the load loop: four writes with no range check. -/
def loadBooking (s : SeatMap) (bookingInfo : BookingInformation) : Except Fault SeatMap := do
  let seatMap ← assign s.seatMap bookingInfo.row bookingInfo.col false
  let passengerMap ← assign s.passengerMap bookingInfo.row bookingInfo.col bookingInfo.name
  let emailMap ← assign s.emailMap bookingInfo.row bookingInfo.col bookingInfo.email
  let maxLoadMap ← assign s.maxLoadMap bookingInfo.row bookingInfo.col bookingInfo.maxLoad
  return { s with seatMap, passengerMap, emailMap, maxLoadMap }

/-- `LoadFromFlightInformation` from the point where the bookings have been read. -/
def loadBookings (s : SeatMap) (flightInfo : FlightInformation)
    (bookingInfos : List BookingInformation) : Except Fault SeatMap := do
  let s ← internalInitMaps { s with rows := flightInfo.rows, cols := flightInfo.cols }
  bookingInfos.foldlM loadBooking s

end SeatMap

end AirlineReservation
