import AirlineReservation.Application
import AirlineReservation.Library.Simulation
import AirlineReservation.SeatMapLoading

/-!
A seat map is a reservation book. The four grids of a new map represent the
empty partial map from its seats to bookings; booking and cancelling keep the
representation, and what the map shows of a seat is what the partial map says.
-/

namespace AirlineReservation

namespace Flight

def bookSeat (flight : Flight) (row col : ℤ) (passengerName email maxLoad : String) :
    Except Fault (Bool × Flight) := do
  let (booked, seatMap) ← flight.seatMap.bookSeat row col passengerName email maxLoad
  return (booked, { flight with seatMap := seatMap })

def cancelBooking (flight : Flight) (row col : ℤ) : Except Fault Flight := do
  let seatMap ← flight.seatMap.cancelBooking row col
  return { flight with seatMap := seatMap }

def getPassengerName (flight : Flight) (row col : ℤ) : Except Fault String :=
  flight.seatMap.getPassengerName row col

def getEmail (flight : Flight) (row col : ℤ) : Except Fault String :=
  flight.seatMap.getEmail row col

def getMaxLoad (flight : Flight) (row col : ℤ) : Except Fault String :=
  flight.seatMap.getMaxLoad row col

end Flight

namespace SeatMapRefinement

open Simulation

structure Booking where
  name : String
  email : String
  maxLoad : String
  deriving DecidableEq, Repr

inductive Call
  | bookSeat (row col : ℤ) (passengerName email maxLoad : String)
  | cancelBooking (row col : ℤ)
  deriving DecidableEq, Repr

/-- A call on the seat map. Only BookSeat answers. -/
def call (s : SeatMap) : Call → Except Fault (Option Bool × SeatMap)
  | .bookSeat row col passengerName email maxLoad => do
    let (booked, s') ← s.bookSeat row col passengerName email maxLoad
    return (some booked, s')
  | .cancelBooking row col => do
    let s' ← s.cancelBooking row col
    return (none, s')

/-- The same call on a flight. -/
def callFlight (flight : Flight) : Call → Except Fault (Option Bool × Flight)
  | .bookSeat row col passengerName email maxLoad => do
    let (booked, flight') ← flight.bookSeat row col passengerName email maxLoad
    return (some booked, flight')
  | .cancelBooking row col => do
    let flight' ← flight.cancelBooking row col
    return (none, flight')

def IsSeat (rows cols : ℤ) (k : ℤ × ℤ) : Prop :=
  (0 ≤ k.1 ∧ k.1 < rows) ∧ (0 ≤ k.2 ∧ k.2 < cols)

variable {rows cols : ℤ}

instance : DecidablePred (IsSeat rows cols) :=
  fun _ => inferInstanceAs (Decidable (_ ∧ _))

abbrev Bookings (rows cols : ℤ) := Reservations (ℤ × ℤ) Booking (IsSeat rows cols)

/-- The call on the partial map. -/
def callSpec (m : Bookings rows cols) : Call → Option Bool × Bookings rows cols
  | .bookSeat row col passengerName email maxLoad =>
    let (booked, m') := m.reserve (row, col) ⟨passengerName, email, maxLoad⟩
    (some booked, m')
  | .cancelBooking row col => (none, m.release (row, col))

def cellOf : Option Booking → Cell
  | none => Cell.free
  | some booking => Cell.taken booking.name booking.email booking.maxLoad

/-- The four grids are those of the partial map. -/
structure Represents (s : SeatMap) (m : Bookings rows cols) : Prop where
  shaped : s.Shaped
  rows_eq : s.rows = rows
  cols_eq : s.cols = cols
  cell_eq : ∀ row col, s.InRange row col → s.cell? row col = some (cellOf (m.holder (row, col)))

/-- What the seat map shows of every pair of coordinates is what the partial map
says of it. -/
structure Shows (s : SeatMap) (m : Bookings rows cols) : Prop where
  available : ∀ row col, s.isSeatAvailable row col =
    .ok (decide (IsSeat rows cols (row, col) ∧ m.holder (row, col) = none))
  passengerName : ∀ row col, s.getPassengerName row col =
    .ok ((m.holder (row, col)).elim "" Booking.name)
  email : ∀ row col, s.getEmail row col = .ok ((m.holder (row, col)).elim "" Booking.email)
  maxLoad : ∀ row col, s.getMaxLoad row col =
    .ok ((m.holder (row, col)).elim "" Booking.maxLoad)

variable {s s' : SeatMap} {m : Bookings rows cols}

theorem Represents.isSeat_iff (h : Represents s m) (row col : ℤ) :
    IsSeat rows cols (row, col) ↔ s.InRange row col := by
  rw [s.inRange_iff_bounds, h.rows_eq, h.cols_eq, IsSeat]

/-- A partial map has only one representation. -/
theorem Represents.unique (h : Represents s m) (h' : Represents s' m) : s = s' := by
  apply h.shaped.ext h'.shaped (h.rows_eq.trans h'.rows_eq.symm) (h.cols_eq.trans h'.cols_eq.symm)
  intro row col
  by_cases hseat : IsSeat rows cols (row, col)
  · rw [h.cell_eq row col ((h.isSeat_iff row col).mp hseat),
      h'.cell_eq row col ((h'.isSeat_iff row col).mp hseat)]
  · rw [h.shaped.cell?_eq_none row col (fun hin => hseat ((h.isSeat_iff row col).mpr hin)),
      h'.shaped.cell?_eq_none row col (fun hin => hseat ((h'.isSeat_iff row col).mpr hin))]

theorem represents_vacant (hrows : 0 ≤ rows) (hcols : 0 ≤ cols) :
    Represents (SeatMap.vacant rows cols) (Reservations.empty : Bookings rows cols) := by
  refine ⟨SeatMap.shaped_vacant rows cols hrows hcols, rfl, rfl, ?_⟩
  intro row col hin
  rw [SeatMap.cell?_vacant, if_pos hin]
  rfl

theorem cellOf_available (holder : Option Booking) :
    (cellOf holder).available = true ↔ holder = none := by
  cases holder <;> simp [cellOf, Cell.free, Cell.taken]

theorem textAt_of_not_inRange {row col : ℤ} (hout : ¬ s.InRange row col)
    (grid : List (List String)) : s.textAt grid row col = .ok "" := by
  rw [SeatMap.textAt, if_neg hout]

/-- A getter that shows one text of the cell, and nothing outside the map. -/
theorem Represents.text_eq (h : Represents s m) {row col : ℤ} (part : Cell → String)
    (text : Booking → String) (hfree : part Cell.free = "")
    (htaken : ∀ booking, part (cellOf (some booking)) = text booking)
    {shown : Except Fault String}
    (hinside : ∀ x, s.cell? row col = some x → shown = .ok (part x))
    (houtside : ¬ s.InRange row col → shown = .ok "") :
    shown = .ok ((m.holder (row, col)).elim "" text) := by
  by_cases hin : s.InRange row col
  · rw [hinside _ (h.cell_eq row col hin)]
    cases m.holder (row, col) with
    | none => exact congrArg Except.ok hfree
    | some booking => exact congrArg Except.ok (htaken booking)
  · have hnone := m.holder_eq_none (row, col) fun hseat =>
      hin ((h.isSeat_iff row col).mp hseat)
    rw [houtside hin, hnone]
    rfl

theorem Represents.isSeatAvailable (h : Represents s m) (row col : ℤ) :
    s.isSeatAvailable row col =
      .ok (decide (IsSeat rows cols (row, col) ∧ m.holder (row, col) = none)) := by
  by_cases hin : s.InRange row col
  · have hseat := (h.isSeat_iff row col).mpr hin
    rw [h.shaped.isSeatAvailable (h.cell_eq row col hin)]
    cases m.holder (row, col) <;> simp [cellOf, Cell.free, Cell.taken, hseat]
  · have hseat : ¬ IsSeat rows cols (row, col) := fun hseat =>
      hin ((h.isSeat_iff row col).mp hseat)
    rw [SeatMap.isSeatAvailable_of_not_inRange hin]
    simp [hseat]

theorem Represents.shows (h : Represents s m) : Shows s m where
  available := h.isSeatAvailable
  passengerName _ _ := h.text_eq Cell.name Booking.name rfl (fun _ => rfl)
    (fun _ hx => h.shaped.getPassengerName hx) (fun hout => textAt_of_not_inRange hout _)
  email _ _ := h.text_eq Cell.email Booking.email rfl (fun _ => rfl)
    (fun _ hx => h.shaped.getEmail hx) (fun hout => textAt_of_not_inRange hout _)
  maxLoad _ _ := h.text_eq Cell.maxLoad Booking.maxLoad rfl (fun _ => rfl)
    (fun _ hx => h.shaped.getMaxLoad hx) (fun hout => textAt_of_not_inRange hout _)

/-- Overwriting a seat is changing its holder. -/
theorem Represents.putCell (h : Represents s m) {row col : ℤ} {m' : Bookings rows cols}
    (holder : Option Booking) (hm' : m'.holder = Function.update m.holder (row, col) holder) :
    Represents (s.putCell row col (cellOf holder)) m' := by
  refine ⟨h.shaped.putCell row col _, h.rows_eq, h.cols_eq, ?_⟩
  intro row' col' hin
  have hcell := h.cell_eq row' col' hin
  rw [hm']
  by_cases hsame : (row', col') = (row, col)
  · obtain ⟨rfl, rfl⟩ := Prod.mk.inj hsame
    rw [SeatMap.cell?_putCell_self s hcell, Function.update_self]
  · rw [SeatMap.cell?_putCell_ne s _ hsame, hcell, Function.update_of_ne hsame]

theorem bookSeat_simulates (h : Represents s m) (row col : ℤ) (name email maxLoad : String) :
    ∃ s', s.bookSeat row col name email maxLoad =
        .ok ((m.reserve (row, col) ⟨name, email, maxLoad⟩).1, s') ∧
      Represents s' (m.reserve (row, col) ⟨name, email, maxLoad⟩).2 := by
  by_cases hfree : IsSeat rows cols (row, col) ∧ m.holder (row, col) = none
  · obtain ⟨hseat, hnone⟩ := hfree
    have hcell := h.cell_eq row col ((h.isSeat_iff row col).mp hseat)
    rw [hnone] at hcell
    obtain ⟨hbooked, hholder⟩ := m.reserve_free (row, col) ⟨name, email, maxLoad⟩ hseat hnone
    refine ⟨_, ?_, h.putCell (some ⟨name, email, maxLoad⟩) hholder⟩
    rw [hbooked]
    exact h.shaped.bookSeat_of_available hcell rfl name email maxLoad
  · rw [m.reserve_refused (row, col) _ hfree]
    refine ⟨s, ?_, h⟩
    by_cases hin : s.InRange row col
    · have htaken : (cellOf (m.holder (row, col))).available = false := by
        rw [← Bool.not_eq_true, cellOf_available]
        exact fun hnone => hfree ⟨(h.isSeat_iff row col).mpr hin, hnone⟩
      exact h.shaped.bookSeat_of_taken (h.cell_eq row col hin) htaken name email maxLoad
    · exact SeatMap.bookSeat_of_not_inRange hin name email maxLoad

theorem cancelBooking_simulates (h : Represents s m) (row col : ℤ) :
    ∃ s', s.cancelBooking row col = .ok s' ∧ Represents s' (m.release (row, col)) := by
  by_cases hseat : IsSeat rows cols (row, col)
  · exact ⟨_, h.shaped.cancelBooking_of_inRange ((h.isSeat_iff row col).mp hseat),
      h.putCell none (m.release_place (row, col) hseat)⟩
  · rw [m.release_outside (row, col) hseat]
    exact ⟨s, SeatMap.cancelBooking_of_not_inRange fun hin =>
      hseat ((h.isSeat_iff row col).mpr hin), h⟩

theorem call_simulates :
    Simulates call (@callSpec rows cols) Represents := by
  intro s m c h
  cases c with
  | bookSeat row col passengerName email maxLoad =>
    obtain ⟨s', hbook, h'⟩ := bookSeat_simulates h row col passengerName email maxLoad
    refine ⟨s', ?_, h'⟩
    simp only [call, hbook]
    rfl
  | cancelBooking row col =>
    obtain ⟨s', hcancel, h'⟩ := cancelBooking_simulates h row col
    refine ⟨s', ?_, h'⟩
    simp only [call, hcancel]
    rfl

/-- A call that does not change the partial map does not change the seat map. -/
theorem call_unchanged (h : Represents s m) (c : Call) (hsame : (callSpec m c).2 = m) :
    call s c = .ok ((callSpec m c).1, s) := by
  obtain ⟨s', hcall, h'⟩ := call_simulates s m c h
  rw [hsame] at h'
  rw [hcall, h'.unique h]

/-- Every sequence of calls on a new seat map gets the answers of the partial map
and ends with a seat map that shows it; from there a call that leaves the partial
map leaves the seat map. -/
theorem behaves_as_map (rows cols : ℤ) (hrows : 0 ≤ rows) (hcols : 0 ≤ cols)
    (calls : List Call) :
    ∃ s s' given m, SeatMap.new rows cols = .ok s ∧
      specAnswers callSpec (Reservations.empty : Bookings rows cols) calls = (given, m) ∧
      answers call s calls = .ok (given, s') ∧ Shows s' m ∧
      ∀ c, (callSpec m c).2 = m → ∃ answer, call s' c = .ok (answer, s') := by
  have hvacant := represents_vacant hrows hcols
  obtain ⟨s', hrun, h⟩ := call_simulates.run _ _ calls hvacant
  refine ⟨_, s', _, _, SeatMap.new_eq_vacant rows cols hrows hcols, rfl, hrun, h.shows, ?_⟩
  intro c hsame
  exact ⟨_, call_unchanged h c hsame⟩

/-- A taken seat refuses, a cancelled one can be booked again, and coordinates
outside the map answer like a seat that is not there. -/
theorem rebooked_after_cancel :
    ∃ s', answers call (SeatMap.vacant 1 1)
        [.bookSeat 0 0 "Ann" "ann@mail" "20", .bookSeat 0 0 "Bob" "" "", .cancelBooking 0 0,
          .bookSeat 0 0 "Bob" "bob@mail" "15", .bookSeat (-1) 7 "Eve" "" ""] =
        .ok ([some true, some false, none, some true, some false], s') ∧
      s'.getPassengerName 0 0 = .ok "Bob" ∧ s'.getPassengerName (-1) 7 = .ok "" := by
  obtain ⟨s, s', given, m, hnew, hspec, hrun, hshows, _⟩ :=
    behaves_as_map 1 1 (by decide) (by decide)
      [.bookSeat 0 0 "Ann" "ann@mail" "20", .bookSeat 0 0 "Bob" "" "", .cancelBooking 0 0,
        .bookSeat 0 0 "Bob" "bob@mail" "15", .bookSeat (-1) 7 "Eve" "" ""]
  cases Except.ok.inj (hnew.symm.trans (SeatMap.new_eq_vacant 1 1 (by decide) (by decide)))
  cases hspec
  exact ⟨s', hrun, hshows.passengerName 0 0, hshows.passengerName (-1) 7⟩

theorem callFlight_eq (flight : Flight) (c : Call) :
    callFlight flight c = (call flight.seatMap c).map
      fun answered => (answered.1, { flight with seatMap := answered.2 }) := by
  cases c with
  | bookSeat row col passengerName email maxLoad =>
    simp only [callFlight, call, Flight.bookSeat]
    cases flight.seatMap.bookSeat row col passengerName email maxLoad <;> rfl
  | cancelBooking row col =>
    simp only [callFlight, call, Flight.cancelBooking]
    cases flight.seatMap.cancelBooking row col <;> rfl

theorem callFlight_simulates :
    Simulates callFlight (@callSpec rows cols) fun flight m => Represents flight.seatMap m := by
  intro flight m c h
  obtain ⟨s', hcall, h'⟩ := call_simulates flight.seatMap m c h
  refine ⟨{ flight with seatMap := s' }, ?_, h'⟩
  rw [callFlight_eq, hcall]
  rfl

/-- A flight around a new seat map behaves in the same way. -/
theorem flight_behaves_as_map (flight : Flight) (hrows : 0 ≤ rows) (hcols : 0 ≤ cols)
    (hnew : SeatMap.new rows cols = .ok flight.seatMap) (calls : List Call) :
    ∃ flight' given m,
      specAnswers callSpec (Reservations.empty : Bookings rows cols) calls = (given, m) ∧
      answers callFlight flight calls = .ok (given, flight') ∧ ∀ row col,
        flight'.getPassengerName row col =
          .ok ((m.holder (row, col)).elim "" Booking.name) ∧
        flight'.getEmail row col = .ok ((m.holder (row, col)).elim "" Booking.email) ∧
        flight'.getMaxLoad row col = .ok ((m.holder (row, col)).elim "" Booking.maxLoad) := by
  have hvacant := represents_vacant hrows hcols
  rw [← Except.ok.inj (hnew.symm.trans (SeatMap.new_eq_vacant rows cols hrows hcols))] at hvacant
  obtain ⟨flight', hrun, h⟩ := callFlight_simulates.run flight _ calls hvacant
  refine ⟨flight', _, _, rfl, hrun, ?_⟩
  intro row col
  exact ⟨h.shows.passengerName row col, h.shows.email row col, h.shows.maxLoad row col⟩

end SeatMapRefinement

end AirlineReservation
