import AirlineReservation.OnlyTable
import AirlineReservation.SessionRuns

/-!
Bookings inside their flight. The load loop writes without a range check, so it
needs every row of a booking table to lie inside the dimensions that the flights
table has for each flight read from it. Nothing in the program compares the two:
`InsertFlight` replaces dimensions without looking at the bookings, and a save
writes what an older and larger seat map still holds.
-/

namespace AirlineReservation.Bounds

/-- The calls of a run. Those on the database alone leave the session. -/
inductive Operation
  | createFlightsTable
  | insertFlight (flightId origin destination departureTime arrivalTime : String) (rows cols : ℤ)
      (outcome : TransactionOutcome)
  | createBookingTable (tableName : String)
  | selectFlight (outcomes : SqlOutcomes) (listing : RetrievalOutcome) (index : ℕ)
  | clickSeat (i j : ℕ)
  | book (outcomes : SqlOutcomes) (name email maxLoad : String)
  | update (outcomes : SqlOutcomes) (name email maxLoad : String)
  | delete (outcomes : SqlOutcomes)

/-- The Select button with this index in the list that the panel shows. -/
def selectListed (datetimeToInt : String → ℤ) (app : App) (outcomes : SqlOutcomes)
    (listing : RetrievalOutcome) (index : ℕ) : App :=
  match (getFlightsInfo datetimeToInt app.db listing).result with
  | .error e => { app with session := app.session.bind fun _ => .error e }
  | .ok flightsInformation =>
    match flightsInformation[index]? with
    | some flightInformation => app.step (outcomes, .selectFlight flightInformation)
    | none => app

def step (datetimeToInt : String → ℤ) (app : App) : Operation → App
  | .createFlightsTable => { app with db := createFlightsTable app.db }
  | .insertFlight flightId origin destination departureTime arrivalTime rows cols outcome =>
    { app with db := (insertFlight app.db flightId origin destination departureTime arrivalTime
        rows cols outcome).1 }
  | .createBookingTable tableName =>
    match createBookingTable app.db tableName with
    | .ok db => { app with db := db }
    | .error _ => app
  | .selectFlight outcomes listing index => selectListed datetimeToInt app outcomes listing index
  | .clickSeat i j => app.step (.succeed, .clickSeat i j)
  | .book outcomes name email maxLoad => app.step (outcomes, .book name email maxLoad)
  | .update outcomes name email maxLoad => app.step (outcomes, .update name email maxLoad)
  | .delete outcomes => app.step (outcomes, .delete)

/-- What a Select may read of a listed flight lies inside it, so that no write of
the load loop misses. -/
def SelectInside (datetimeToInt : String → ℤ) (app : App) (operation : Operation) : Prop :=
  ∀ outcomes listing index flightsInformation f, operation = .selectFlight outcomes listing index →
    (getFlightsInfo datetimeToInt app.db listing).result = .ok flightsInformation →
    flightsInformation[index]? = some f →
    (∀ bookingInfos,
      (getBookingsInfo app.db ("Booking" ++ f.flightID) outcomes.retrieval).result =
        .ok bookingInfos → RowsInside bookingInfos f.rows f.cols) ∧
    SeatMap.freshLoad app.db f outcomes.retrieval ≠ .error .outOfRange

/-- Seat k holds a name when the map is saved with `name` at the selected seat. -/
def Saves (s : SeatMap) (selected : ℤ × ℤ) (name : String) (k : ℤ × ℤ) : Prop :=
  ∃ x, s.cell? k.1 k.2 = some x ∧ if k = selected then name ≠ "" else x.name ≠ ""

/-- The seats to be saved lie inside every stored flight that shares the table. -/
def SavesInside (db : Database) (outcomes : SqlOutcomes) (flight : Flight) (selected : ℤ × ℤ)
    (name : String) : Prop :=
  ∀ rows row, db.flights = some rows → row ∈ rows →
    tableKey ("Booking" ++ row.flightId) = tableKey ("Booking" ++ flight.flightID) →
    ∀ k, Saves flight.seatMap selected name k → outcomes.seat k = .committed →
      (0 ≤ k.1 ∧ k.1 < row.rows) ∧ (0 ≤ k.2 ∧ k.2 < row.cols)

/-- An inserted flight has a name for an id and room for the bookings that its table
has already, and a created table has a name; an accepted Book and an Update stay
inside the stored dimensions. -/
def Allowed (app : App) : Operation → Prop
  | .insertFlight flightId _ _ _ _ rows cols outcome => outcome = .committed →
      IsName flightId ∧
      ∀ t, app.db.bookingTable ("Booking" ++ flightId) = some t → RowsInside t rows cols
  | .createBookingTable tableName => IsName tableName
  | .book outcomes name _ _ => ∀ session flight x, app.session = .ok session →
      session.activeFlight = some flight →
      flight.seatMap.cell? session.selectedRowCol.1 session.selectedRowCol.2 = some x →
      x.available = true → SavesInside app.db outcomes flight session.selectedRowCol name
  | .update outcomes name _ _ => ∀ session flight, app.session = .ok session →
      session.activeFlight = some flight →
      (∀ x, flight.seatMap.cell? session.selectedRowCol.1 session.selectedRowCol.2 = some x →
        x.available = false) → SavesInside app.db outcomes flight session.selectedRowCol name
  | _ => True

/-- Every row of the booking table of a stored flight lies inside it. -/
def AllInside (db : Database) : Prop :=
  ∀ rows row t, db.flights = some rows → row ∈ rows →
    db.bookingTable ("Booking" ++ row.flightId) = some t → RowsInside t row.rows row.cols

structure Inv (app : App) : Prop where
  valid : app.Valid
  inside : AllInside app.db

/-- Fewer rows, in the tables that are there, of the flights that are there. -/
theorem AllInside.mono {db db' : Database} (h : AllInside db)
    (hflights : db'.flights = db.flights)
    (hrows : ∀ tableName t, db'.bookingTable tableName = some t → ∀ b ∈ t,
      ∃ told, db.bookingTable tableName = some told ∧ b ∈ told) : AllInside db' := by
  intro rows row t hrowsEq hrow ht b hb
  rw [hflights] at hrowsEq
  obtain ⟨told, htold, hold⟩ := hrows _ t ht b hb
  exact h rows row told hrowsEq hrow htold b hold

theorem allInside_createFlightsTable {db : Database} (h : AllInside db) :
    AllInside (createFlightsTable db) := by
  unfold createFlightsTable
  split
  · exact h
  · intro rows row t hrows hrow
    cases Option.some.inj hrows
    exact absurd hrow List.not_mem_nil

theorem allInside_createBookingTable {db db' : Database} {tableName : String} (h : AllInside db)
    (hcreate : createBookingTable db tableName = .ok db') : AllInside db' := by
  unfold createBookingTable at hcreate
  split at hcreate
  · contradiction
  · split at hcreate
    · cases hcreate
      exact h
    · cases hcreate
      intro rows row t hrows hrow ht
      rw [db.flights_setBookingTable] at hrows
      rcases db.bookingTable_setBookingTable_cases tableName _ ht with hold | ⟨_, rfl⟩
      · exact h rows row t hrows hrow hold
      · exact fun b hb => absurd hb List.not_mem_nil

theorem allInside_insertFlight {db : Database}
    (flightId origin destination departureTime arrivalTime : String) (rows cols : ℤ)
    (outcome : TransactionOutcome) (h : AllInside db)
    (hroom : outcome = .committed → ∀ t, db.bookingTable ("Booking" ++ flightId) = some t →
      RowsInside t rows cols) :
    AllInside (insertFlight db flightId origin destination departureTime arrivalTime rows cols
      outcome).1 := by
  unfold insertFlight transaction
  cases outcome with
  | beginRaised => exact h
  | rolledBack => exact h
  | rollbackRaised => exact h
  | committed =>
    cases hflights : db.flights with
    | none => simpa only [hflights] using h
    | some old =>
      simp only [hflights]
      intro rows' row t hrows' hrow ht
      cases Option.some.inj hrows'
      rcases List.mem_append.mp hrow with hold | hnew
      · exact h old row t hflights (List.mem_of_mem_filter hold) ht
      · cases List.mem_singleton.mp hnew
        exact hroom rfl t ht

/-- A committed row comes from a named cell of the saved map. -/
theorem cell_of_committedRow {s : SeatMap} {outcome : ℤ × ℤ → TransactionOutcome}
    {b : BookingInformation} (hs : s.Shaped) (h : CommittedRow s outcome s.seats b) :
    ∃ y, s.cell? b.row b.col = some y ∧ y.name ≠ "" := by
  obtain ⟨y, hy⟩ := hs.exists_cell b.row b.col ((mem_seats s b.row b.col).mp h.visited)
  have hname := SeatMap.element_of_read ((SeatMap.cell?_eq_some_iff s b.row b.col y).mp hy).2.1
  refine ⟨y, hy, ?_⟩
  rw [Except.ok.inj (hname.symm.trans h.name_eq)]
  exact h.named

/-- Saving after an action keeps the bookings inside when the saved seats are. -/
theorem allInside_saved {app : App} {session : Session} {flight : Flight} {s' : SeatMap}
    {outcomes : SqlOutcomes} {name : String} (h : AllInside app.db) (hs : s'.Shaped)
    (hsaves : ∀ k y, s'.cell? k.1 k.2 = some y → y.name ≠ "" →
      Saves flight.seatMap session.selectedRowCol name k)
    (hin : SavesInside app.db outcomes flight session.selectedRowCol name) :
    AllInside (saveActive outcomes app.db flight s' session).1 := by
  rw [saveActive_fst]
  intro rows row t hrows hrow ht b hb
  rw [(onlyTable_insertBookingData s' app.db _ outcomes.seat).flights] at hrows
  rcases row_of_insertBookingLoop outcomes.seat s'.seats ht hb with
    ⟨told, htold, hold⟩ | ⟨hkey, hnew⟩
  · exact h rows row told hrows hrow htold b hold
  · obtain ⟨y, hy, hname⟩ := cell_of_committedRow hs hnew
    exact hin rows row hrows hrow hkey b.seat (hsaves b.seat y hy hname) hnew.committed

theorem saves_of_put {s : SeatMap} {r c : ℤ} {x : Cell} (hx : s.cell? r c = some x)
    (name email maxLoad : String) (k : ℤ × ℤ) (y : Cell)
    (hy : (s.putCell r c (Cell.taken name email maxLoad)).cell? k.1 k.2 = some y)
    (hname : y.name ≠ "") : Saves s (r, c) name k := by
  by_cases hk : k = (r, c)
  · subst hk
    rw [SeatMap.cell?_putCell_self s hx] at hy
    cases Option.some.inj hy
    refine ⟨x, hx, ?_⟩
    rw [if_pos rfl]
    exact hname
  · rw [SeatMap.cell?_putCell_ne s _ hk] at hy
    refine ⟨y, hy, ?_⟩
    rwa [if_neg hk]

/-- Whatever a Book, Update or Delete requests of the database. -/
theorem allInside_request {app : App} {session : Session} {flight : Flight}
    {outcomes : SqlOutcomes} {action : Action} {s' : SeatMap} {request : Request}
    (h : AllInside app.db) (hvalid : flight.seatMap.Valid)
    (heffect : Effect flight.seatMap session.selectedRowCol.1 session.selectedRowCol.2
      action s' request)
    (hbook : ∀ name email maxLoad x, action = .book name email maxLoad →
      flight.seatMap.cell? session.selectedRowCol.1 session.selectedRowCol.2 = some x →
      x.available = true → SavesInside app.db outcomes flight session.selectedRowCol name)
    (hupdate : ∀ name email maxLoad, action = .update name email maxLoad →
      (∀ x, flight.seatMap.cell? session.selectedRowCol.1 session.selectedRowCol.2 = some x →
        x.available = false) →
      SavesInside app.db outcomes flight session.selectedRowCol name) :
    AllInside (request.run outcomes app.db flight session s').1 := by
  have hdelete : ∀ s', AllInside (Request.delete.run outcomes app.db flight session s').1 :=
    fun s' => h.mono
      (onlyTable_deleteBookingData app.db _ _ _ outcomes.deleteRaises).flights
      (fun _ _ ht _ hb => row_of_deleteBookingData _ _ outcomes.deleteRaises ht hb)
  have hshaped := (heffect.valid hvalid).shaped
  cases heffect with
  | booked name email maxLoad x hx hfree =>
    exact allInside_saved h hshaped (saves_of_put hx name email maxLoad)
      (hbook name email maxLoad x rfl hx hfree)
  | refused name email maxLoad hnot => exact h
  | updated name email maxLoad x hx htaken =>
    refine allInside_saved h hshaped (saves_of_put hx name email maxLoad)
      (hupdate name email maxLoad rfl fun y hy => ?_)
    cases Option.some.inj (hx.symm.trans hy)
    exact htaken
  | updatedOutside name email maxLoad hout =>
    refine allInside_saved h hshaped (fun k y hy hname => ⟨y, hy, ?_⟩)
      (hupdate name email maxLoad rfl fun y hy => ?_)
    · have hk : k ≠ session.selectedRowCol := by
        intro hselected
        subst hselected
        exact hout (hshaped.inRange_of_cell? hy)
      rwa [if_neg hk]
    · exact absurd (hshaped.inRange_of_cell? hy) hout
  | updateHidden name email maxLoad x hx hfree => exact h
  | deleted x hx htaken => exact hdelete _
  | deletedOutside hout => exact hdelete _
  | deleteHidden x hx hfree => exact h

theorem allInside_appStep {app : App} {outcomes : SqlOutcomes} {action : Action} (h : Inv app)
    (hbook : ∀ name email maxLoad session flight x, action = .book name email maxLoad →
      app.session = .ok session → session.activeFlight = some flight →
      flight.seatMap.cell? session.selectedRowCol.1 session.selectedRowCol.2 = some x →
      x.available = true → SavesInside app.db outcomes flight session.selectedRowCol name)
    (hupdate : ∀ name email maxLoad session flight, action = .update name email maxLoad →
      app.session = .ok session → session.activeFlight = some flight →
      (∀ x, flight.seatMap.cell? session.selectedRowCol.1 session.selectedRowCol.2 = some x →
        x.available = false) →
      SavesInside app.db outcomes flight session.selectedRowCol name) :
    Inv (app.step (outcomes, action)) := by
  refine ⟨App.valid_step h.valid _, ?_⟩
  cases hsession : app.session with
  | error e =>
    rw [App.step_dead hsession]
    exact h.inside
  | ok session =>
    rw [App.step_live hsession]
    rcases perform_cases outcomes app.db (h.valid session hsession) action with
      ⟨f, _, hperform⟩ | ⟨_, _, _, hperform⟩ | ⟨flight, s', request, _, hactive, heffect, hperform⟩
    · simpa only [hperform] using h.inside
    · simpa only [hperform] using h.inside
    · simp only [hperform]
      exact allInside_request h.inside (h.valid session hsession flight hactive) heffect
        (fun name email maxLoad x haction =>
          hbook name email maxLoad session flight x haction hsession hactive)
        (fun name email maxLoad haction =>
          hupdate name email maxLoad session flight haction hsession hactive)

theorem inv_step (datetimeToInt : String → ℤ) {app : App} (operation : Operation) (h : Inv app)
    (hallowed : Allowed app operation) : Inv (step datetimeToInt app operation) := by
  cases operation with
  | createFlightsTable => exact ⟨h.valid, allInside_createFlightsTable h.inside⟩
  | insertFlight flightId origin destination departureTime arrivalTime rows cols outcome =>
    exact ⟨h.valid, allInside_insertFlight _ _ _ _ _ _ _ outcome h.inside
      fun hcommit => (hallowed hcommit).2⟩
  | createBookingTable tableName =>
    simp only [step]
    split
    · next db hcreate => exact ⟨h.valid, allInside_createBookingTable h.inside hcreate⟩
    · exact h
  | selectFlight outcomes listing index =>
    simp only [step, selectListed]
    split
    · refine ⟨?_, h.inside⟩
      intro session hlive
      cases hsession : app.session with
      | error e =>
        rw [hsession] at hlive
        contradiction
      | ok session =>
        rw [hsession] at hlive
        contradiction
    · split
      · exact allInside_appStep h (fun _ _ _ _ _ _ haction => by contradiction)
          (fun _ _ _ _ _ haction => by contradiction)
      · exact h
  | clickSeat i j =>
    exact allInside_appStep h (fun _ _ _ _ _ _ haction => by contradiction)
      (fun _ _ _ _ _ haction => by contradiction)
  | book outcomes name email maxLoad =>
    refine allInside_appStep h ?_ (fun _ _ _ _ _ haction => by contradiction)
    intro _ _ _ session flight x hlive
    cases hlive
    exact hallowed session flight x
  | update outcomes name email maxLoad =>
    refine allInside_appStep h (fun _ _ _ _ _ _ haction => by contradiction) ?_
    intro _ _ _ session flight hlive
    cases hlive
    exact hallowed session flight
  | delete outcomes =>
    exact allInside_appStep h (fun _ _ _ _ _ _ haction => by contradiction)
      (fun _ _ _ _ _ haction => by contradiction)

/-- A listed flight is the information of a stored row. -/
theorem listed_stored {datetimeToInt : String → ℤ} {db : Database} {listing : RetrievalOutcome}
    {flightsInformation : List FlightInformation} {f : FlightInformation}
    (hlist : (getFlightsInfo datetimeToInt db listing).result = .ok flightsInformation)
    (hf : f ∈ flightsInformation) :
    ∃ rows row, db.flights = some rows ∧ row ∈ rows ∧ f = row.information datetimeToInt := by
  unfold getFlightsInfo retrieve at hlist
  simp only at hlist
  split at hlist
  · contradiction
  · cases Except.ok.inj hlist
    obtain ⟨row, hrow, rfl⟩ := List.mem_map.mp hf
    unfold fetch at hrow
    split at hrow
    · exact absurd hrow List.not_mem_nil
    · next rows hrows =>
      split at hrow
      · exact absurd hrow List.not_mem_nil
      · exact ⟨rows, row, hrows, (fetchRows_initial _ 0 rows).subset hrow, rfl⟩

theorem selectInside_of_inv (datetimeToInt : String → ℤ) {app : App} (operation : Operation)
    (h : Inv app) : SelectInside datetimeToInt app operation := by
  intro outcomes listing index flightsInformation f _ hlist hindex
  obtain ⟨rows, row, hrows, hrow, rfl⟩ := listed_stored hlist (List.mem_of_getElem? hindex)
  have hinside : ∀ bookingInfos, (getBookingsInfo app.db
      ("Booking" ++ (row.information datetimeToInt).flightID) outcomes.retrieval).result =
        .ok bookingInfos → RowsInside bookingInfos row.rows row.cols := by
    intro bookingInfos hread b hb
    rcases getBookingsInfo_result hread with rfl | ⟨t, ht, hinitial⟩
    · exact absurd hb List.not_mem_nil
    · exact h.inside rows row t hrows hrow ht b (hinitial.subset hb)
  refine ⟨hinside, ?_⟩
  exact SeatMap.freshLoad_inside_ne hinside

/-- Along every run of allowed operations from an empty database, each Select
reads rows inside the flight only. -/
theorem selects_inside (datetimeToInt : String → ℤ) (operations : List Operation)
    (hallowed : Run.EveryStep (step datetimeToInt) Allowed
      ⟨Database.empty, .ok Session.start⟩ operations) :
    Run.EveryStep (step datetimeToInt) (SelectInside datetimeToInt)
      ⟨Database.empty, .ok Session.start⟩ operations := by
  have hstart : Inv ⟨Database.empty, .ok Session.start⟩ := by
    refine ⟨App.valid_start _, ?_⟩
    intro rows row t hrows
    contradiction
  have hinv := Run.throughout_of_everyStep (step datetimeToInt) Inv Allowed
    (fun app operation => inv_step datetimeToInt operation) _ operations hstart hallowed
  intro pre operation hpre
  exact selectInside_of_inv datetimeToInt operation
    (hinv pre ((List.prefix_append pre [operation]).trans hpre))

/-- A booked flight is replaced by a wider one. -/
theorem widened_flight_inside :
    Run.EveryStep (step fun _ => 0) (SelectInside fun _ => 0)
      ⟨Database.empty, .ok Session.start⟩
      [.createFlightsTable, .insertFlight "A1" "" "" "" "" 1 1 .committed,
        .createBookingTable "BookingA1", .selectFlight .succeed .succeeds 0,
        .book .succeed "Ann" "" "", .insertFlight "A1" "" "" "" "" 1 2 .committed,
        .selectFlight .succeed .succeeds 0] := by
  apply selects_inside
  simp only [Run.everyStep_cons]
  refine ⟨trivial, ?_, (by decide : IsName "BookingA1"), trivial, ?_, ?_, trivial,
    Run.everyStep_nil _ _ _⟩
  · refine fun _ => ⟨by decide, ?_⟩
    intro t ht
    contradiction
  · intro session flight x hlive hactive _ _ rows row hrows hrow _ k hk _
    cases hlive
    cases hactive
    cases hrows
    cases List.mem_singleton.mp hrow
    obtain ⟨y, hy, _⟩ := hk
    have hshaped := SeatMap.shaped_vacant 1 1 (by decide) (by decide)
    exact (SeatMap.inRange_iff_bounds _ _ _).mp (hshaped.inRange_of_cell? hy)
  · refine fun _ => ⟨by decide, ?_⟩
    intro t ht
    have hann : t = [⟨"Ann", "", "", 0, 0⟩] := Option.some.inj (ht.symm.trans (by decide))
    subst hann
    decide

/-- A booked flight is replaced by a narrower one, and then selected. -/
theorem narrowed_flight_outside :
    ¬ Run.EveryStep (step fun _ => 0) (SelectInside fun _ => 0)
      ⟨Database.empty, .ok Session.start⟩
      [.createFlightsTable, .insertFlight "A1" "" "" "" "" 1 2 .committed,
        .createBookingTable "BookingA1", .selectFlight .succeed .succeeds 0, .clickSeat 0 1,
        .book .succeed "Ann" "" "", .insertFlight "A1" "" "" "" "" 1 1 .committed,
        .selectFlight .succeed .succeeds 0] := by
  intro h
  simp only [Run.everyStep_cons] at h
  obtain ⟨_, _, _, _, _, _, _, hselect, _⟩ := h
  have hread := (hselect .succeed .succeeds 0 [⟨"A1", "", "", "bookingA1", 0, 0, 1, 1⟩] _ rfl
    (by decide) rfl).1 [⟨"Ann", "", "", 0, 1⟩] (by decide)
  exact absurd hread (by decide)

end AirlineReservation.Bounds
