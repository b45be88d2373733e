import AirlineReservation.Effects
import AirlineReservation.Library.Run
import AirlineReservation.Loading

/-!
Runs of a session. Every action is a Select, a step that keeps the active map,
or one of the effects, and the active seat map stays valid along every run.
-/

namespace AirlineReservation

/-- A Select that returns has made a freshly loaded map the active one. -/
theorem selectPressed_ok {outcomes : SqlOutcomes} {db : Database}
    {flightInformation : FlightInformation} {session session' : Session}
    (h : selectPressed outcomes db flightInformation session = .ok session') :
    ∃ flight, session' = { session with activeFlight := some flight } ∧
      flight.flightID = flightInformation.flightID ∧
      SeatMap.freshLoad db flightInformation outcomes.retrieval = .ok flight.seatMap := by
  obtain ⟨s, hload, hreturn⟩ := exists_of_bind_ok h
  exact ⟨_, (Except.ok.inj hreturn).symm, rfl, hload⟩

/-- The active seat map, if there is one, is valid. -/
def Session.Valid (session : Session) : Prop :=
  ∀ flight, session.activeFlight = some flight → flight.seatMap.Valid

theorem Session.valid_start : Session.start.Valid := by
  intro flight hactive
  contradiction

/-- Everything that an action can do in a session with a valid map. -/
theorem perform_cases (outcomes : SqlOutcomes) (db : Database) {session : Session}
    (hs : session.Valid) (action : Action) :
    (∃ flightInformation, action = .selectFlight flightInformation ∧
      perform outcomes db session action =
        (db, selectPressed outcomes db flightInformation session)) ∨
    (∃ session', session'.activeFlight = session.activeFlight ∧
      (session.activeFlight = none ∨ ¬ action.IsBooking) ∧
      perform outcomes db session action = (db, .ok session')) ∨
    ∃ flight s' request, action.IsBooking ∧ session.activeFlight = some flight ∧
      Effect flight.seatMap session.selectedRowCol.1 session.selectedRowCol.2
        action s' request ∧
      perform outcomes db session action = request.run outcomes db flight session s' := by
  cases hactive : session.activeFlight with
  | none =>
    cases action with
    | selectFlight flightInformation => exact .inl ⟨flightInformation, rfl, rfl⟩
    | _ => exact .inr (.inl ⟨session, hactive, .inl rfl, by simp [perform, hactive]⟩)
  | some flight =>
    by_cases hbooking : action.IsBooking
    · obtain ⟨s', request, heffect, hrun⟩ :=
        perform_effect outcomes db hbooking hactive (hs flight hactive).shaped
      exact .inr (.inr ⟨flight, s', request, hbooking, rfl, heffect, hrun⟩)
    · cases action with
      | selectFlight flightInformation => exact .inl ⟨flightInformation, rfl, rfl⟩
      | clickSeat i j =>
        simp only [perform, hactive, seatPressed]
        split
        · refine .inr (.inl ⟨_, ?_, .inr hbooking, rfl⟩)
          rfl
        · exact .inr (.inl ⟨session, hactive, .inr hbooking, rfl⟩)
      | book name email maxLoad => exact absurd trivial hbooking
      | update name email maxLoad => exact absurd trivial hbooking
      | delete => exact absurd trivial hbooking

theorem perform_valid {outcomes : SqlOutcomes} {db db' : Database} {session session' : Session}
    {action : Action} (hs : session.Valid)
    (hok : perform outcomes db session action = (db', .ok session')) : session'.Valid := by
  rcases perform_cases outcomes db hs action with
    ⟨flightInformation, rfl, hperform⟩ | ⟨_, hkeep, _, hperform⟩ |
      ⟨flight, s', request, _, hactive, heffect, hperform⟩
  · have hselect := (Prod.mk.inj (hperform.symm.trans hok)).2
    obtain ⟨flight, rfl, _, hload⟩ := selectPressed_ok hselect
    obtain ⟨_, _, loaded⟩ := SeatMap.freshLoad_ok hload
    intro _ hflight
    cases hflight
    exact loaded.valid
  · have hsession := Except.ok.inj (Prod.mk.inj (hperform.symm.trans hok)).2
    intro flight hactive
    rw [← hsession, hkeep] at hactive
    exact hs flight hactive
  · rw [heffect.session_of_run hactive (hperform.symm.trans hok)]
    intro _ hflight
    cases hflight
    exact heffect.valid (hs flight hactive)

namespace App

variable {app : App} {session : Session}

theorem step_dead {e : Fault} (h : app.session = .error e) (event : SqlOutcomes × Action) :
    app.step event = app := by
  simp [step, h]

theorem step_live (h : app.session = .ok session) (event : SqlOutcomes × Action) :
    app.step event = ⟨(perform event.1 app.db session event.2).1,
      (perform event.1 app.db session event.2).2⟩ := by
  simp [step, h]

def Valid (app : App) : Prop := ∀ session, app.session = .ok session → session.Valid

theorem valid_step (h : app.Valid) (event : SqlOutcomes × Action) : (app.step event).Valid := by
  intro session' hsession'
  cases hsession : app.session with
  | error e =>
    rw [step_dead hsession] at hsession'
    exact h session' hsession'
  | ok session =>
    rw [step_live hsession] at hsession'
    exact perform_valid (h session hsession) (Prod.ext rfl hsession')

/-- Whatever the SQL statements do, the active seat map stays valid. -/
theorem valid_run (h : app.Valid) (events : List (SqlOutcomes × Action)) :
    (Run.run step app events).Valid :=
  (Run.throughout_of_forall step Valid (fun _ => True)
    (fun _ event hvalid _ => valid_step hvalid event) app events h fun _ _ => trivial).final

theorem valid_start (db : Database) : Valid ⟨db, .ok Session.start⟩ := by
  intro _ hlive
  cases hlive
  exact Session.valid_start

end App

/-- A flight of one seat, nothing booked. -/
def oneSeat : FlightInformation :=
  ⟨"AA123", "New York", "Los Angeles", "bookingAA123", 0, 0, 1, 1⟩

/-- The same flight with a second seat. -/
def twoSeats : FlightInformation :=
  ⟨"AA123", "New York", "Los Angeles", "bookingAA123", 0, 0, 1, 2⟩

def oneSeatDatabase : Database := Database.empty.setBookingTable "BookingAA123" []

theorem oneSeat_table :
    oneSeatDatabase.bookingTable ("Booking" ++ oneSeat.flightID) = some [] := by rfl

end AirlineReservation
