import AirlineReservation.Application
import AirlineReservation.Saving

/-!
What Book, Update and Delete can do. On a shaped map each of them replaces at
most the cell of the selected seat and then asks the database for a save, a
delete or nothing; `Effect` lists the cases, and what holds after an action is
read off them.
-/

namespace AirlineReservation

theorem saveActive_fst (outcomes : SqlOutcomes) (db : Database) (flight : Flight)
    (s : SeatMap) (session : Session) :
    (saveActive outcomes db flight s session).1 =
      (insertBookingData s db ("Booking" ++ flight.flightID) outcomes.seat).1 := by
  simp only [saveActive, generateBookingTableName]
  split
  · next heq => rw [heq]
  · next heq => rw [heq]

theorem SqlOutcomes.caught_succeed (k : ℤ × ℤ) : (SqlOutcomes.succeed.seat k).Caught :=
  Or.inl rfl

/-- What a button handler asks of the database at the end. -/
inductive Request
  | nothing
  | save
  | delete
  deriving DecidableEq, Repr

/-- The end of a handler that has made `s` the active map. -/
def Request.run (request : Request) (outcomes : SqlOutcomes) (db : Database) (flight : Flight)
    (session : Session) (s : SeatMap) : Database × Except Fault Session :=
  match request with
  | .nothing => (db, .ok session)
  | .save => saveActive outcomes db flight s session
  | .delete =>
    (deleteBookingData db ("Booking" ++ flight.flightID) session.selectedRowCol.1
        session.selectedRowCol.2 outcomes.deleteRaises,
      .ok { session with activeFlight := some { flight with seatMap := s } })

/-- The rows of the active table afterwards, when every exception is caught. -/
def Request.rows (request : Request) (outcomes : SqlOutcomes) (s : SeatMap) (seat : ℤ × ℤ)
    (t : List BookingInformation) : List BookingInformation :=
  match request with
  | .nothing => t
  | .save => saveTable s outcomes.seat t
  | .delete =>
    if outcomes.deleteRaises then t else RowTable.deleteAt BookingInformation.seat seat t

/-- Everything Book, Update and Delete can do when seat (r, c) is selected in
the active map `s`: the map they leave and the request they make. -/
inductive Effect (s : SeatMap) (r c : ℤ) : Action → SeatMap → Request → Prop
  | booked (name email maxLoad : String) (x : Cell) (hx : s.cell? r c = some x)
      (hfree : x.available = true) :
      Effect s r c (.book name email maxLoad)
        (s.putCell r c (Cell.taken name email maxLoad)) .save
  | refused (name email maxLoad : String)
      (hnot : ∀ x, s.cell? r c = some x → x.available = false) :
      Effect s r c (.book name email maxLoad) s .nothing
  | updated (name email maxLoad : String) (x : Cell) (hx : s.cell? r c = some x)
      (htaken : x.available = false) :
      Effect s r c (.update name email maxLoad)
        (s.putCell r c (Cell.taken name email maxLoad)) .save
  | updatedOutside (name email maxLoad : String) (hout : ¬ s.InRange r c) :
      Effect s r c (.update name email maxLoad) s .save
  | updateHidden (name email maxLoad : String) (x : Cell) (hx : s.cell? r c = some x)
      (hfree : x.available = true) :
      Effect s r c (.update name email maxLoad) s .nothing
  | deleted (x : Cell) (hx : s.cell? r c = some x) (htaken : x.available = false) :
      Effect s r c .delete (s.putCell r c Cell.free) .delete
  | deletedOutside (hout : ¬ s.InRange r c) :
      Effect s r c .delete s .delete
  | deleteHidden (x : Cell) (hx : s.cell? r c = some x) (hfree : x.available = true) :
      Effect s r c .delete s .nothing

def Action.IsBooking : Action → Prop
  | .selectFlight _ => False
  | .clickSeat _ _ => False
  | .book _ _ _ => True
  | .update _ _ _ => True
  | .delete => True

section Handlers

variable {outcomes : SqlOutcomes} {db : Database} {flight : Flight} {session : Session}
  {r c : ℤ} {x : Cell} (hselected : session.selectedRowCol = (r, c))
include hselected

theorem bookPressed_available (h : flight.seatMap.Shaped)
    (hx : flight.seatMap.cell? r c = some x) (hfree : x.available = true)
    (name email maxLoad : String) :
    bookPressed outcomes db flight session name email maxLoad =
      saveActive outcomes db flight
        (flight.seatMap.putCell r c (Cell.taken name email maxLoad)) session := by
  simp only [bookPressed, hselected, h.bookSeat_of_available hx hfree]

theorem bookPressed_taken (h : flight.seatMap.Shaped)
    (hx : flight.seatMap.cell? r c = some x) (htaken : x.available = false)
    (name email maxLoad : String) :
    bookPressed outcomes db flight session name email maxLoad = (db, .ok session) := by
  simp only [bookPressed, hselected, h.bookSeat_of_taken hx htaken]

theorem bookPressed_outside (hout : ¬ flight.seatMap.InRange r c)
    (name email maxLoad : String) :
    bookPressed outcomes db flight session name email maxLoad = (db, .ok session) := by
  simp only [bookPressed, hselected, SeatMap.bookSeat_of_not_inRange hout]

theorem whenNotAvailable_available (h : flight.seatMap.Shaped)
    (hx : flight.seatMap.cell? r c = some x) (hfree : x.available = true)
    (handler : Database × Except Fault Session) :
    whenNotAvailable db flight session handler = (db, .ok session) := by
  simp only [whenNotAvailable, hselected, h.isSeatAvailable hx, hfree]

theorem whenNotAvailable_taken (h : flight.seatMap.Shaped)
    (hx : flight.seatMap.cell? r c = some x) (htaken : x.available = false)
    (handler : Database × Except Fault Session) :
    whenNotAvailable db flight session handler = handler := by
  simp only [whenNotAvailable, hselected, h.isSeatAvailable hx, htaken]

theorem whenNotAvailable_outside (hout : ¬ flight.seatMap.InRange r c)
    (handler : Database × Except Fault Session) :
    whenNotAvailable db flight session handler = handler := by
  simp only [whenNotAvailable, hselected, SeatMap.isSeatAvailable_of_not_inRange hout]

/-- Updating a seat of the map overwrites its cell, whatever it held. -/
theorem updatePressed_inRange (h : flight.seatMap.Shaped) (hin : flight.seatMap.InRange r c)
    (name email maxLoad : String) :
    updatePressed outcomes db flight session name email maxLoad =
      saveActive outcomes db flight
        (flight.seatMap.putCell r c (Cell.taken name email maxLoad)) session := by
  simp only [updatePressed, hselected, h.cancelBooking_bookSeat hin]

/-- Updating a selection outside the map only saves the map again. -/
theorem updatePressed_outside (hout : ¬ flight.seatMap.InRange r c)
    (name email maxLoad : String) :
    updatePressed outcomes db flight session name email maxLoad =
      saveActive outcomes db flight flight.seatMap session := by
  simp only [updatePressed, hselected, SeatMap.cancelBooking_of_not_inRange hout, bind,
    Except.bind, SeatMap.bookSeat_of_not_inRange hout]

theorem deletePressed_inRange (h : flight.seatMap.Shaped) (hin : flight.seatMap.InRange r c) :
    deletePressed outcomes db flight session =
      Request.delete.run outcomes db flight session (flight.seatMap.putCell r c Cell.free) := by
  simp only [deletePressed, Request.run, hselected, h.cancelBooking_of_inRange hin,
    generateBookingTableName]

theorem deletePressed_outside (hout : ¬ flight.seatMap.InRange r c) :
    deletePressed outcomes db flight session =
      Request.delete.run outcomes db flight session flight.seatMap := by
  simp only [deletePressed, Request.run, hselected, SeatMap.cancelBooking_of_not_inRange hout,
    generateBookingTableName]

end Handlers

/-- The code of the three actions has exactly these effects. -/
theorem perform_effect (outcomes : SqlOutcomes) (db : Database) {flight : Flight}
    {session : Session} {action : Action} (hbooking : action.IsBooking)
    (hactive : session.activeFlight = some flight) (h : flight.seatMap.Shaped) :
    ∃ s' request, Effect flight.seatMap session.selectedRowCol.1 session.selectedRowCol.2
        action s' request ∧
      perform outcomes db session action = request.run outcomes db flight session s' := by
  obtain ⟨⟨r, c⟩, hselected⟩ : ∃ seat, session.selectedRowCol = seat := ⟨_, rfl⟩
  simp only [hselected]
  cases action with
  | selectFlight flightInformation => exact absurd hbooking id
  | clickSeat i j => exact absurd hbooking id
  | book name email maxLoad =>
    simp only [perform, hactive]
    by_cases hin : flight.seatMap.InRange r c
    · obtain ⟨x, hx⟩ := h.exists_cell r c hin
      cases havail : x.available with
      | true =>
        exact ⟨_, .save, .booked name email maxLoad x hx havail,
          bookPressed_available hselected h hx havail name email maxLoad⟩
      | false =>
        refine ⟨_, .nothing, .refused name email maxLoad ?_,
          bookPressed_taken hselected h hx havail name email maxLoad⟩
        intro y hy
        cases Option.some.inj (hx.symm.trans hy)
        exact havail
    · refine ⟨_, .nothing, .refused name email maxLoad ?_,
        bookPressed_outside hselected hin name email maxLoad⟩
      intro y hy
      exact absurd (h.inRange_of_cell? hy) hin
  | update name email maxLoad =>
    simp only [perform, hactive]
    by_cases hin : flight.seatMap.InRange r c
    · obtain ⟨x, hx⟩ := h.exists_cell r c hin
      cases havail : x.available with
      | true =>
        exact ⟨_, .nothing, .updateHidden name email maxLoad x hx havail,
          whenNotAvailable_available hselected h hx havail _⟩
      | false =>
        exact ⟨_, .save, .updated name email maxLoad x hx havail,
          (whenNotAvailable_taken hselected h hx havail _).trans
            (updatePressed_inRange hselected h hin name email maxLoad)⟩
    · exact ⟨_, .save, .updatedOutside name email maxLoad hin,
        (whenNotAvailable_outside hselected hin _).trans
          (updatePressed_outside hselected hin name email maxLoad)⟩
  | delete =>
    simp only [perform, hactive]
    by_cases hin : flight.seatMap.InRange r c
    · obtain ⟨x, hx⟩ := h.exists_cell r c hin
      cases havail : x.available with
      | true =>
        exact ⟨_, .nothing, .deleteHidden x hx havail,
          whenNotAvailable_available hselected h hx havail _⟩
      | false =>
        exact ⟨_, .delete, .deleted x hx havail,
          (whenNotAvailable_taken hselected h hx havail _).trans
            (deletePressed_inRange hselected h hin)⟩
    · exact ⟨_, .delete, .deletedOutside hin,
        (whenNotAvailable_outside hselected hin _).trans (deletePressed_outside hselected hin)⟩

namespace Effect

variable {s s' : SeatMap} {r c : ℤ} {action : Action} {request : Request}

theorem valid (h : Effect s r c action s' request) (hs : s.Valid) : s'.Valid := by
  cases h with
  | booked name email maxLoad x hx hfree => exact hs.putTaken r c name email maxLoad
  | refused name email maxLoad hnot => exact hs
  | updated name email maxLoad x hx htaken => exact hs.putTaken r c name email maxLoad
  | updatedOutside name email maxLoad hout => exact hs
  | updateHidden name email maxLoad x hx hfree => exact hs
  | deleted x hx htaken => exact hs.putFree r c
  | deletedOutside hout => exact hs
  | deleteHidden x hx hfree => exact hs

theorem dimensions (h : Effect s r c action s' request) :
    s'.rows = s.rows ∧ s'.cols = s.cols := by
  cases h <;> exact ⟨rfl, rfl⟩

/-- A handler that asks nothing has left the map alone. -/
theorem map_of_nothing (h : Effect s r c action s' .nothing) : s' = s := by
  cases h <;> rfl

end Effect

namespace Request

variable (request : Request) (outcomes : SqlOutcomes) (s : SeatMap) (seat : ℤ × ℤ)
  {t : List BookingInformation}

theorem uniqueSeats (ht : UniqueSeats t) : UniqueSeats (request.rows outcomes s seat t) := by
  cases request with
  | nothing => exact ht
  | save => exact ht.saveTable outcomes.seat
  | delete =>
    simp only [rows]
    split
    · exact ht
    · exact RowTable.Unique.deleteAt BookingInformation.seat ht seat

end Request

/-- A handler that returns has made `s'` the active map. -/
theorem Effect.session_of_run {outcomes : SqlOutcomes} {db db' : Database} {flight : Flight}
    {session session' : Session} {s' : SeatMap} {r c : ℤ} {action : Action} {request : Request}
    (heffect : Effect flight.seatMap r c action s' request)
    (hactive : session.activeFlight = some flight)
    (hrun : request.run outcomes db flight session s' = (db', .ok session')) :
    session' = { session with activeFlight := some { flight with seatMap := s' } } := by
  cases request with
  | nothing =>
    have hsession := Except.ok.inj (Prod.mk.inj hrun).2
    rw [heffect.map_of_nothing, ← hsession]
    cases session
    cases hactive
    rfl
  | save =>
    simp only [Request.run, saveActive] at hrun
    split at hrun
    · exact (Except.ok.inj (Prod.mk.inj hrun).2).symm
    · exact absurd (Prod.mk.inj hrun).2 (by simp)
  | delete => exact (Except.ok.inj (Prod.mk.inj hrun).2).symm

/-- The state after the active map and the rows of its table were replaced. -/
def afterAction (db : Database) (flight : Flight) (session : Session) (s : SeatMap)
    (t : List BookingInformation) : Database × Except Fault Session :=
  (db.setBookingTable ("Booking" ++ flight.flightID) t,
    .ok { session with activeFlight := some { flight with seatMap := s } })

section Caught

variable {outcomes : SqlOutcomes} {db : Database} {flight : Flight} {session : Session}
  {t : List BookingInformation} (ht : db.bookingTable ("Booking" ++ flight.flightID) = some t)
include ht

theorem afterAction_self (hactive : session.activeFlight = some flight) :
    afterAction db flight session flight.seatMap t = (db, .ok session) := by
  rw [afterAction, db.setBookingTable_self _ ht]
  cases session
  cases hactive
  rfl

theorem saveActive_eq {s : SeatMap} (h : s.Shaped) (hcaught : ∀ k, (outcomes.seat k).Caught) :
    saveActive outcomes db flight s session =
      afterAction db flight session s (saveTable s outcomes.seat t) := by
  simp only [saveActive, generateBookingTableName]
  rw [insertBookingData_eq h outcomes.seat hcaught ht]
  rfl

/-- When every exception is caught, an action ends normally with the map of its
effect and the rows of its request. -/
theorem perform_caught {action : Action} (hbooking : action.IsBooking)
    (hactive : session.activeFlight = some flight) (h : flight.seatMap.Valid)
    (hcaught : ∀ k, (outcomes.seat k).Caught) :
    ∃ s' request, Effect flight.seatMap session.selectedRowCol.1 session.selectedRowCol.2
        action s' request ∧
      perform outcomes db session action =
        afterAction db flight session s'
          (request.rows outcomes s' session.selectedRowCol t) := by
  obtain ⟨s', request, heffect, hrun⟩ :=
    perform_effect outcomes db hbooking hactive h.shaped
  refine ⟨s', request, heffect, hrun.trans ?_⟩
  cases request with
  | nothing =>
    rw [heffect.map_of_nothing]
    exact (afterAction_self ht hactive).symm
  | save => exact saveActive_eq ht (heffect.valid h).shaped hcaught
  | delete =>
    simp only [Request.run, Request.rows, deleteBookingData_eq ht, afterAction]

end Caught

end AirlineReservation
