import AirlineReservation.FrameActions

/-!
Which seats the Manage Bookings panel offers to update and delete. It asks only
that the selected seat is not available, and a seat that does not exist is not
available either. The selection survives the flight it was made on; a click
always hits a seat of the active map, a Select may leave the selection outside
of the new one.
-/

namespace AirlineReservation.Selection

/-- The panel shows its buttons; `IsSeatAvailable` has said no. -/
def offers (flight : Flight) (session : Session) : Bool :=
  match flight.seatMap.isSeatAvailable session.selectedRowCol.1 session.selectedRowCol.2 with
  | .ok available => !available
  | .error _ => false

/-- The coordinates are inside the map and the seat there is booked. -/
def IsBooked (s : SeatMap) (seat : ℤ × ℤ) : Prop :=
  s.InRange seat.1 seat.2 ∧ element s.seatMap seat.1 seat.2 = .ok false

/-- With an active flight, the panel offers exactly booked seats. -/
def OffersBooked (app : App) : Prop :=
  ∀ session flight, app.session = .ok session → session.activeFlight = some flight →
    (offers flight session = true ↔ IsBooked flight.seatMap session.selectedRowCol)

/-- The selected coordinates are inside the active map. -/
def SelectedInside (app : App) : Prop :=
  ∀ session flight, app.session = .ok session → session.activeFlight = some flight →
    flight.seatMap.InRange session.selectedRowCol.1 session.selectedRowCol.2

/-- A Select is of a flight that has the coordinates selected at that moment. -/
def SelectsAround (app : App) (event : SqlOutcomes × Action) : Prop :=
  ∀ session f, app.session = .ok session → event.2 = .selectFlight f →
    (0 ≤ session.selectedRowCol.1 ∧ session.selectedRowCol.1 < f.rows) ∧
      (0 ≤ session.selectedRowCol.2 ∧ session.selectedRowCol.2 < f.cols)

section Panel

variable {flight : Flight} {session : Session} (h : flight.seatMap.Shaped)
include h

/-- The handlers run exactly when the panel offers them. -/
theorem whenNotAvailable_eq (db : Database) (handler : Database × Except Fault Session) :
    whenNotAvailable db flight session handler =
      if offers flight session then handler else (db, .ok session) := by
  unfold whenNotAvailable offers
  by_cases hin : flight.seatMap.InRange session.selectedRowCol.1 session.selectedRowCol.2
  · obtain ⟨x, hx⟩ := h.exists_cell _ _ hin
    rw [h.isSeatAvailable hx]
    cases x.available <;> rfl
  · rw [SeatMap.isSeatAvailable_of_not_inRange hin]
    rfl

/-- In a frame in which the panel does not offer them, its buttons and fields are
not there. -/
theorem manageBookings_not_offered (frame : Frames.Frame) (db : Database) (gui : Frames.Gui)
    (hsession : gui.session = session) (hactive : session.activeFlight = some flight)
    (hnot : offers flight session = false) :
    Frames.manageBookings frame db gui = (db, .ok gui) := by
  subst hsession
  unfold offers at hnot
  unfold Frames.manageBookings
  simp only [hactive]
  by_cases hin : flight.seatMap.InRange gui.session.selectedRowCol.1 gui.session.selectedRowCol.2
  · obtain ⟨x, hx⟩ := h.exists_cell _ _ hin
    rw [h.isSeatAvailable hx] at hnot ⊢
    cases havail : x.available with
    | true => rfl
    | false => simp [havail] at hnot
  · rw [SeatMap.isSeatAvailable_of_not_inRange hin] at hnot
    contradiction

/-- The panel is right about the selection exactly when that is a seat at all. -/
theorem offers_iff_booked_iff_inRange :
    (offers flight session = true ↔ IsBooked flight.seatMap session.selectedRowCol) ↔
      flight.seatMap.InRange session.selectedRowCol.1 session.selectedRowCol.2 := by
  unfold offers IsBooked
  by_cases hin : flight.seatMap.InRange session.selectedRowCol.1 session.selectedRowCol.2
  · obtain ⟨x, hx⟩ := h.exists_cell _ _ hin
    have helement := SeatMap.element_of_read ((SeatMap.cell?_eq_some_iff _ _ _ x).mp hx).1
    rw [h.isSeatAvailable hx, helement]
    simp [hin]
  · rw [SeatMap.isSeatAvailable_of_not_inRange hin]
    simp [hin]

end Panel

theorem offersBooked_iff {app : App} (hvalid : app.Valid) :
    OffersBooked app ↔ SelectedInside app := by
  constructor
  · intro h session flight hlive hactive
    have hs := (hvalid session hlive flight hactive).shaped
    exact (offers_iff_booked_iff_inRange hs).mp (h session flight hlive hactive)
  · intro h session flight hlive hactive
    have hs := (hvalid session hlive flight hactive).shaped
    exact (offers_iff_booked_iff_inRange hs).mpr (h session flight hlive hactive)

/-- The button that was drawn at (i, j) selects a seat of the map, also where the
16-bit counters have wrapped around. -/
theorem seatPressed_inside {flight : Flight} {session : Session} (h : flight.seatMap.Shaped)
    (i j : ℕ)
    (hin : flight.seatMap.InRange session.selectedRowCol.1 session.selectedRowCol.2) :
    flight.seatMap.InRange (seatPressed flight i j session).selectedRowCol.1
      (seatPressed flight i j session).selectedRowCol.2 := by
  unfold seatPressed
  split
  · next hdrawn =>
    obtain ⟨⟨_, hi⟩, ⟨_, hj⟩⟩ := (h.seat.isSome_read_iff i j).mp hdrawn
    have hi' := Nat.mod_le i (2 ^ 16)
    have hj' := Nat.mod_le j (2 ^ 16)
    simp only [SeatMap.InRange]
    omega
  · exact hin

/-- Everything but a Select keeps the selection inside the active map. -/
theorem inside_step {app : App} {outcomes : SqlOutcomes} {action : Action}
    (hvalid : app.Valid) (hother : ∀ f, action ≠ .selectFlight f) (h : SelectedInside app) :
    SelectedInside (app.step (outcomes, action)) := by
  cases hsession : app.session with
  | error e => rwa [App.step_dead hsession]
  | ok session =>
    rw [App.step_live hsession]
    cases hactive : session.activeFlight with
    | none =>
      have hsame : perform outcomes app.db session action = (app.db, .ok session) := by
        cases action with
        | selectFlight f => exact absurd rfl (hother f)
        | _ => simp [perform, hactive]
      rw [hsame]
      intro _ flight hlive hflight
      cases hlive
      rw [hactive] at hflight
      contradiction
    | some flight =>
      have hs := (hvalid session hsession flight hactive).shaped
      have hin := h session flight hsession hactive
      intro session' flight' hlive hflight
      by_cases hbooking : action.IsBooking
      · obtain ⟨s', request, heffect, hrun⟩ := perform_effect outcomes app.db hbooking hactive hs
        have hrun' : request.run outcomes app.db flight session s' =
            ((perform outcomes app.db session action).1, .ok session') := by
          rw [← hrun]
          exact Prod.ext rfl hlive
        obtain ⟨hrows, hcols⟩ := heffect.dimensions
        rw [heffect.session_of_run hactive hrun'] at hflight ⊢
        cases Option.some.inj hflight
        simpa only [SeatMap.InRange, hrows, hcols] using hin
      · cases action with
        | selectFlight f => exact absurd rfl (hother f)
        | clickSeat i j =>
          simp only [perform, hactive] at hlive
          cases Except.ok.inj hlive
          have hkeep : (seatPressed flight i j session).activeFlight = session.activeFlight := by
            unfold seatPressed
            split <;> rfl
          cases Option.some.inj ((hkeep.symm.trans hflight).symm.trans hactive)
          exact seatPressed_inside hs i j hin
        | _ => exact absurd trivial hbooking

/-- A Select that returns. -/
theorem inside_select_iff {app : App} {session session' : Session} {outcomes : SqlOutcomes}
    {f : FlightInformation} (hsession : app.session = .ok session)
    (hreturns : (app.step (outcomes, .selectFlight f)).session = .ok session') :
    SelectedInside (app.step (outcomes, .selectFlight f)) ↔
      SelectsAround app (outcomes, .selectFlight f) := by
  have hselect := hreturns
  rw [App.step_live hsession] at hselect
  obtain ⟨flight, rfl, _, hload⟩ := selectPressed_ok hselect
  obtain ⟨_, _, loaded⟩ := SeatMap.freshLoad_ok hload
  have hrange : flight.seatMap.InRange session.selectedRowCol.1 session.selectedRowCol.2 ↔
      (0 ≤ session.selectedRowCol.1 ∧ session.selectedRowCol.1 < f.rows) ∧
        (0 ≤ session.selectedRowCol.2 ∧ session.selectedRowCol.2 < f.cols) := by
    rw [flight.seatMap.inRange_iff_bounds, loaded.rows_eq, loaded.cols_eq]
  constructor
  · intro h session'' f' hlive heq
    cases Except.ok.inj (hsession.symm.trans hlive)
    cases heq
    exact hrange.mp (h { session with activeFlight := some flight } flight hreturns rfl)
  · intro h session'' flight' hlive hactive
    cases Except.ok.inj (hreturns.symm.trans hlive)
    cases Option.some.inj hactive
    exact hrange.mpr (h session f hsession rfl)

/-- The process has not ended. -/
def Alive (app : App) : Prop := ∃ session, app.session = .ok session

theorem alive_of_step {app : App} {event : SqlOutcomes × Action} (h : Alive (app.step event)) :
    Alive app := by
  cases hsession : app.session with
  | ok session => exact ⟨session, hsession⟩
  | error e => rwa [App.step_dead hsession] at h

theorem alive_of_run {app : App} {events : List (SqlOutcomes × Action)}
    (h : Alive (Run.run App.step app events)) : Alive app := by
  induction events generalizing app with
  | nil => exact h
  | cons event events ih => exact alive_of_step (ih h)

/-- A step that does not end the process. -/
theorem inside_step_iff {app : App} (event : SqlOutcomes × Action) (hvalid : app.Valid)
    (h : SelectedInside app) :
    SelectedInside (app.step event) ↔ (Alive (app.step event) → SelectsAround app event) := by
  obtain ⟨outcomes, action⟩ := event
  by_cases hselect : ∃ f, action = .selectFlight f
  · obtain ⟨f, rfl⟩ := hselect
    constructor
    · intro hafter halive
      obtain ⟨session, hsession⟩ := alive_of_step halive
      obtain ⟨session', hreturns⟩ := halive
      exact (inside_select_iff hsession hreturns).mp hafter
    · intro haround session' flight hlive hactive
      obtain ⟨session, hsession⟩ := alive_of_step ⟨session', hlive⟩
      exact (inside_select_iff hsession hlive).mpr (haround ⟨session', hlive⟩) session' flight
        hlive hactive
  · have hother : ∀ f, action ≠ .selectFlight f := fun f heq => hselect ⟨f, heq⟩
    refine iff_of_true (inside_step hvalid hother h) ?_
    intro _ session f _ heq
    exact absurd heq (hother f)

/-- In a run that does not end the process, the panel offers exactly booked seats
in every state exactly when every flight is selected around the coordinates that
are selected already. -/
theorem throughout_offersBooked_iff (db : Database) (events : List (SqlOutcomes × Action))
    (halive : Alive (Run.run App.step ⟨db, .ok Session.start⟩ events)) :
    Run.Throughout App.step OffersBooked ⟨db, .ok Session.start⟩ events ↔
      Run.EveryStep App.step SelectsAround ⟨db, .ok Session.start⟩ events := by
  have hiff := Run.throughout_iff_everyStep App.step App.Valid SelectedInside (fun _ => True)
    (fun app event => Alive (app.step event) → SelectsAround app event)
    (fun _ event hvalid _ => App.valid_step hvalid event)
    (fun _ event hvalid _ h => inside_step_iff event hvalid h) ⟨db, .ok Session.start⟩ events
    (App.valid_start db) ?_ (fun _ _ => trivial)
  · have hpanel : Run.Throughout App.step OffersBooked ⟨db, .ok Session.start⟩ events ↔
        Run.Throughout App.step SelectedInside ⟨db, .ok Session.start⟩ events := by
      refine forall_congr' fun pre => forall_congr' fun _ => ?_
      exact offersBooked_iff (App.valid_run (App.valid_start db) pre)
    rw [hpanel, hiff]
    constructor
    · intro h pre event hpre
      apply h pre event hpre
      obtain ⟨rest, rfl⟩ := hpre
      rw [Run.run_append, Run.run_append] at halive
      exact alive_of_run halive
    · intro h pre event hpre _
      exact h pre event hpre
  · intro _ flight hlive hactive
    cases hlive
    contradiction

section TwoFlights

/-- A second flight, of one seat. -/
def smallFlight : FlightInformation := ⟨"BB7", "Boston", "Chicago", "bookingBB7", 0, 0, 1, 1⟩

def twoFlightsDatabase : Database := oneSeatDatabase.setBookingTable "BookingBB7" []

def smallFlightActive (s : SeatMap) : Flight := ⟨"BB7", "Boston", "Chicago", 0, 0, s⟩

end TwoFlights

theorem same_size_offers_booked :
    Run.Throughout App.step OffersBooked ⟨twoFlightsDatabase, .ok Session.start⟩
      [(.succeed, .selectFlight smallFlight), (.succeed, .book "Ann" "" "20"),
        (.succeed, .selectFlight oneSeat)] := by
  have hbooked : (Run.run App.step ⟨twoFlightsDatabase, .ok Session.start⟩
      [(.succeed, .selectFlight smallFlight), (.succeed, .book "Ann" "" "20")]).session =
      .ok ⟨some (smallFlightActive
        ((SeatMap.vacant 1 1).putCell 0 0 (Cell.taken "Ann" "" "20"))), (0, 0)⟩ := by
    decide
  have halive : Alive (Run.run App.step ⟨twoFlightsDatabase, .ok Session.start⟩
      [(.succeed, .selectFlight smallFlight), (.succeed, .book "Ann" "" "20"),
        (.succeed, .selectFlight oneSeat)]) :=
    ⟨⟨some ⟨"AA123", "New York", "Los Angeles", 0, 0, SeatMap.vacant 1 1⟩, (0, 0)⟩, by decide⟩
  apply (throughout_offersBooked_iff twoFlightsDatabase _ halive).mpr
  simp only [Run.everyStep_cons]
  refine ⟨?_, ?_, ?_, Run.everyStep_nil _ _ _⟩
  · intro session f hlive heq
    cases hlive
    cases heq
    decide
  · intro session f _ heq
    contradiction
  · intro session f hlive heq
    cases Except.ok.inj (hbooked.symm.trans hlive)
    cases heq
    decide

/-- Seat (0, 1) was selected on a flight of two seats; on a flight of one seat the
panel offers to update and delete it. -/
theorem old_selection_offered :
    (Run.run App.step ⟨twoFlightsDatabase, .ok Session.start⟩
      [(.succeed, .selectFlight twoSeats), (.succeed, .clickSeat 0 1),
        (.succeed, .selectFlight smallFlight)]).session =
      .ok ⟨some (smallFlightActive (SeatMap.vacant 1 1)), (0, 1)⟩ ∧
    offers (smallFlightActive (SeatMap.vacant 1 1))
      ⟨some (smallFlightActive (SeatMap.vacant 1 1)), (0, 1)⟩ = true ∧
    ¬ IsBooked (smallFlightActive (SeatMap.vacant 1 1)).seatMap (0, 1) := by
  refine ⟨by decide, by decide, ?_⟩
  intro hbooked
  exact absurd hbooked.1 (by decide)

end AirlineReservation.Selection
