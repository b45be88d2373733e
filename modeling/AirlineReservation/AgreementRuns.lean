import AirlineReservation.Agreement

/-!
Agreement along runs. With every statement succeeding it survives a run exactly
when no Book or Update stores an empty name that the table does not hold; with
failures, an action exactly when the transaction of its own seat commits.
-/

namespace AirlineReservation.Agreement

/-- The row of the selected seat of the active map is kept by the action. -/
def KeepsAgreement (outcomes : SqlOutcomes) (app : App) (action : Action) : Prop :=
  ∀ session flight, app.session = .ok session → session.activeFlight = some flight →
    RowKept outcomes flight.seatMap session.selectedRowCol.1 session.selectedRowCol.2 action

theorem agrees_of_active_eq {db : Database} {session session' : Session}
    (hkeep : session'.activeFlight = session.activeFlight) (h : AppAgrees ⟨db, .ok session⟩) :
    AppAgrees ⟨db, .ok session'⟩ := by
  intro _ flight hlive hactive
  cases hlive
  rw [hkeep] at hactive
  exact h session flight rfl hactive

/-- After a Book, Update or Delete whose exceptions are all caught. -/
theorem booking_agrees_iff (outcomes : SqlOutcomes) {app : App} {action : Action}
    (hvalid : app.Valid) (hbooking : action.IsBooking)
    (hcaught : ∀ k, (outcomes.seat k).Caught) (h : AppAgrees app) :
    AppAgrees (app.step (outcomes, action)) ↔ KeepsAgreement outcomes app action := by
  cases hsession : app.session with
  | error e =>
    rw [App.step_dead hsession]
    refine ⟨fun _ session flight hlive _ => ?_, fun _ => h⟩
    rw [hsession] at hlive
    contradiction
  | ok session =>
    cases hactive : session.activeFlight with
    | none =>
      have hsame : perform outcomes app.db session action = (app.db, .ok session) := by
        cases action with
        | selectFlight flightInformation => exact absurd hbooking id
        | _ => simp [perform, hactive]
      rw [App.step_live hsession, hsame]
      constructor
      · intro _ session' flight hlive hactive'
        cases Except.ok.inj (hsession.symm.trans hlive)
        rw [hactive] at hactive'
        contradiction
      · intro _ _ flight hlive hactive'
        cases hlive
        rw [hactive] at hactive'
        contradiction
    | some flight =>
      obtain ⟨t, ht, hagree⟩ := h session flight hsession hactive
      have hmap := hvalid session hsession flight hactive
      obtain ⟨s', request, heffect, hperform⟩ :=
        perform_caught ht hbooking hactive hmap hcaught
      have hiff := effect_agrees_iff outcomes heffect hmap hagree
      have htable := app.db.bookingTable_setBookingTable_self _ ht
        (request.rows outcomes s' session.selectedRowCol t)
      rw [App.step_live hsession, hperform]
      constructor
      · intro hafter session' flight' hlive hactive'
        cases Except.ok.inj (hsession.symm.trans hlive)
        cases Option.some.inj (hactive.symm.trans hactive')
        obtain ⟨t', ht', hagree'⟩ := hafter _ { flight with seatMap := s' } rfl rfl
        cases Option.some.inj (htable.symm.trans ht')
        exact hiff.mp hagree'
      · intro hkeeps _ _ hlive hflight
        cases hlive
        cases hflight
        exact ⟨_, htable, hiff.mpr (hkeeps session flight hsession hactive)⟩

theorem selected_agrees {db : Database} {flightInformation : FlightInformation}
    {session session' : Session} {t : List BookingInformation}
    (ht : db.bookingTable ("Booking" ++ flightInformation.flightID) = some t)
    (hunique : UniqueSeats t)
    (hselect : selectPressed .succeed db flightInformation session = .ok session') :
    AppAgrees ⟨db, .ok session'⟩ := by
  obtain ⟨flight, rfl, hid, hload⟩ := selectPressed_ok hselect
  obtain ⟨bookingInfos, hread, loaded⟩ := SeatMap.freshLoad_ok hload
  have hall : bookingInfos = t := getBookingsInfo_eq_table ht hread
  subst hall
  intro _ _ hlive hflight
  cases hlive
  cases hflight
  rw [hid]
  exact ⟨bookingInfos, ht, agrees_of_loaded loaded.valid.shaped hunique loaded.cell_eq⟩

/-- Each flight's booking table exists and holds at most one row for each seat. -/
def TablesUnique (flights : List FlightInformation) (db : Database) : Prop :=
  ∀ f ∈ flights, ∃ t, db.bookingTable ("Booking" ++ f.flightID) = some t ∧ UniqueSeats t

/-- Flights may share a table: then its new rows are unique for each of them. -/
theorem TablesUnique.setBookingTable {flights : List FlightInformation} {db : Database}
    (h : TablesUnique flights db) {tableName : String} {t t' : List BookingInformation}
    (ht : db.bookingTable tableName = some t) (hunique : UniqueSeats t') :
    TablesUnique flights (db.setBookingTable tableName t') := by
  intro f hf
  by_cases hkey : tableKey ("Booking" ++ f.flightID) = tableKey tableName
  · refine ⟨t', ?_, hunique⟩
    rw [Database.bookingTable_congr _ tableName _ hkey]
    exact db.bookingTable_setBookingTable_self tableName ht t'
  · rw [db.bookingTable_setBookingTable_ne tableName _ t' hkey]
    exact h f hf

/-- What every action keeps, whether or not agreement survives. -/
structure Sound (flights : List FlightInformation) (app : App) : Prop where
  tables : TablesUnique flights app.db
  valid : app.Valid
  listed : ∀ session flight, app.session = .ok session → session.activeFlight = some flight →
    ∃ f ∈ flights, f.flightID = flight.flightID

/-- Only the listed flights are selected. -/
def SelectsFrom (flights : List FlightInformation) (action : Action) : Prop :=
  ∀ f, action = .selectFlight f → f ∈ flights

theorem sound_act {flights : List FlightInformation} {app : App} (action : Action)
    (h : Sound flights app) (hselects : SelectsFrom flights action) :
    Sound flights (app.act action) := by
  have hvalid := App.valid_step h.valid (.succeed, action)
  cases hsession : app.session with
  | error e => rwa [App.act, App.step_dead hsession]
  | ok session =>
    rcases perform_cases .succeed app.db (h.valid session hsession) action with
      ⟨f, rfl, hperform⟩ | ⟨session', hkeep, _, hperform⟩ |
        ⟨flight, s', request, hbooking, hactive, heffect, hperform⟩
    · refine ⟨?_, hvalid, ?_⟩
      · rw [App.act, App.step_live hsession, hperform]
        exact h.tables
      · intro session' flight hlive hactive
        rw [App.act, App.step_live hsession, hperform] at hlive
        obtain ⟨flight', rfl, hid, _⟩ := selectPressed_ok hlive
        cases Option.some.inj hactive
        exact ⟨f, hselects f rfl, hid.symm⟩
    · refine ⟨?_, hvalid, ?_⟩
      · rw [App.act, App.step_live hsession, hperform]
        exact h.tables
      · intro session'' flight hlive hactive
        rw [App.act, App.step_live hsession, hperform] at hlive
        cases Except.ok.inj hlive
        rw [hkeep] at hactive
        exact h.listed session flight hsession hactive
    · obtain ⟨f, hf, hid⟩ := h.listed session flight hsession hactive
      obtain ⟨t, ht, hunique⟩ := h.tables f hf
      rw [hid] at ht
      obtain ⟨s', request, heffect, hperform⟩ := perform_caught ht hbooking hactive
        (h.valid session hsession flight hactive) SqlOutcomes.caught_succeed
      refine ⟨?_, hvalid, ?_⟩
      · rw [App.act, App.step_live hsession, hperform]
        exact h.tables.setBookingTable ht (request.uniqueSeats _ s' _ hunique)
      · intro session' flight' hlive hactive'
        rw [App.act, App.step_live hsession, hperform] at hlive
        cases Except.ok.inj hlive
        cases Option.some.inj hactive'
        exact ⟨f, hf, hid⟩

theorem act_agrees_iff {flights : List FlightInformation} {app : App} (action : Action)
    (h : Sound flights app) (hselects : SelectsFrom flights action) (hagree : AppAgrees app) :
    AppAgrees (app.act action) ↔ KeepsAgreement .succeed app action := by
  by_cases hbooking : action.IsBooking
  · exact booking_agrees_iff .succeed h.valid hbooking (fun _ => Or.inl rfl) hagree
  · have hkept : KeepsAgreement .succeed app action := by
      intro session flight _ _
      cases action with
      | selectFlight f => exact trivial
      | clickSeat i j => exact trivial
      | _ => exact absurd trivial hbooking
    refine iff_of_true ?_ hkept
    cases hsession : app.session with
    | error e => rwa [App.act, App.step_dead hsession]
    | ok session =>
      rw [App.act, App.step_live hsession]
      have hbefore : AppAgrees ⟨app.db, .ok session⟩ := hsession ▸ hagree
      rcases perform_cases .succeed app.db (h.valid session hsession) action with
        ⟨f, rfl, hperform⟩ | ⟨session', hkeep, _, hperform⟩ | ⟨_, _, _, hbooking', _⟩
      · obtain ⟨t, ht, hunique⟩ := h.tables f (hselects f rfl)
        rw [hperform]
        cases hselect : selectPressed .succeed app.db f session with
        | error e =>
          intro _ _ hlive
          contradiction
        | ok session' => exact selected_agrees ht hunique hselect
      · rw [hperform]
        exact agrees_of_active_eq hkeep hbefore
      · exact absurd hbooking' hbooking

/-- Map and table agree after every action of a run exactly when no Book or
Update of the run stores an empty name that the table does not hold. -/
theorem throughout_agrees_iff (flights : List FlightInformation) (db : Database)
    (actions : List Action) (htables : TablesUnique flights db)
    (hselects : ∀ action ∈ actions, SelectsFrom flights action) :
    Run.Throughout App.act AppAgrees ⟨db, .ok Session.start⟩ actions ↔
      Run.EveryStep App.act (KeepsAgreement .succeed) ⟨db, .ok Session.start⟩ actions := by
  apply Run.throughout_iff_everyStep App.act (Sound flights) AppAgrees (SelectsFrom flights)
  · intro app action hsound hselects
    exact sound_act action hsound hselects
  · intro app action hsound hselects hagree
    exact act_agrees_iff action hsound hselects hagree
  · refine ⟨htables, App.valid_start db, ?_⟩
    intro _ flight hlive hactive
    cases hlive
    contradiction
  · intro _ flight hlive hactive
    cases hlive
    contradiction
  · exact hselects

section OneSeat

/-- The session that has selected the flight and shows `x` at its seat. -/
def oneSeatSession (x : Cell) : Session :=
  ⟨some ⟨"AA123", "New York", "Los Angeles", 0, 0, (SeatMap.vacant 1 1).putCell 0 0 x⟩, (0, 0)⟩

theorem oneSeat_tablesUnique : TablesUnique [oneSeat] oneSeatDatabase := by
  intro f hf
  cases List.mem_singleton.mp hf
  exact ⟨[], oneSeat_table, RowTable.unique_nil BookingInformation.seat⟩

theorem oneSeat_selected : selectPressed .succeed oneSeatDatabase oneSeat Session.start =
    .ok (oneSeatSession Cell.free) := by decide

theorem oneSeat_agrees : AppAgrees ⟨oneSeatDatabase, .ok (oneSeatSession Cell.free)⟩ :=
  selected_agrees oneSeat_table (RowTable.unique_nil BookingInformation.seat) oneSeat_selected

theorem oneSeat_disagrees (name email maxLoad : String) :
    ¬ AppAgrees ⟨oneSeatDatabase, .ok (oneSeatSession (Cell.taken name email maxLoad))⟩ := by
  intro h
  obtain ⟨t, ht, hagree⟩ := h _ _ rfl rfl
  have hnone : t = [] := Option.some.inj (ht.symm.trans oneSeat_table)
  subst hnone
  obtain ⟨x, hx, hrow⟩ := hagree 0 0 ⟨le_rfl, Int.zero_lt_one, le_rfl, Int.zero_lt_one⟩
  have hcell : x = Cell.taken name email maxLoad := Option.some.inj (hx.symm.trans rfl)
  subst hcell
  exact List.cons_ne_nil _ _ ((agreesAt_taken name email maxLoad _ 0 0).mp hrow).symm

end OneSeat

theorem named_booking_agrees :
    Run.Throughout App.act AppAgrees ⟨oneSeatDatabase, .ok Session.start⟩
      [.selectFlight oneSeat, .book "Ann" "ann@mail" "20"] := by
  apply (throughout_agrees_iff [oneSeat] oneSeatDatabase _ oneSeat_tablesUnique ?_).mpr
  · rw [Run.everyStep_cons, Run.everyStep_cons]
    refine ⟨fun _ _ _ _ => trivial, fun _ _ _ _ _ _ _ => ⟨by decide, rfl⟩, ?_⟩
    exact Run.everyStep_nil App.act _ _
  · intro action haction f hselect
    rw [hselect] at haction
    simpa using haction

/-- A booking without a name marks the seat as taken and stores no row. -/
theorem empty_name_disagrees :
    (∃ t, oneSeatDatabase.bookingTable ("Booking" ++ oneSeat.flightID) = some t ∧ UniqueSeats t ∧
      RowsInside t oneSeat.rows oneSeat.cols) ∧
    ¬ Run.Throughout App.act AppAgrees ⟨oneSeatDatabase, .ok Session.start⟩
      [.selectFlight oneSeat, .book "" "" ""] := by
  refine ⟨⟨[], oneSeat_table, RowTable.unique_nil BookingInformation.seat, by decide⟩, ?_⟩
  intro h
  exact oneSeat_disagrees "" "" "" h.final

/-- Whatever the run before, whatever the other sessions have made of the database
meanwhile, and whichever statements of the action fail: the failures are
swallowed, so agreement is left to the row of the selected seat. -/
theorem agrees_after_failures_iff (db now : Database) (events : List (SqlOutcomes × Action))
    (outcomes : SqlOutcomes) (action : Action) (hbooking : action.IsBooking)
    (hcaught : ∀ k, (outcomes.seat k).Caught)
    (hagree : AppAgrees ⟨now, (Run.run App.step ⟨db, .ok Session.start⟩ events).session⟩) :
    AppAgrees (App.step ⟨now, (Run.run App.step ⟨db, .ok Session.start⟩ events).session⟩
        (outcomes, action)) ↔
      KeepsAgreement outcomes ⟨now, (Run.run App.step ⟨db, .ok Session.start⟩ events).session⟩
        action := by
  have hvalid := App.valid_run (App.valid_start db) events
  exact booking_agrees_iff outcomes (fun session hlive => hvalid session hlive) hbooking hcaught
    hagree

theorem committed_booking_agrees :
    AppAgrees ((Run.run App.step ⟨oneSeatDatabase, .ok Session.start⟩
        [(.succeed, .selectFlight oneSeat)]).step
      (⟨.succeeds, fun _ => .committed, true⟩, .book "Ann" "ann@mail" "20")) :=
  (agrees_after_failures_iff oneSeatDatabase oneSeatDatabase
    [(.succeed, .selectFlight oneSeat)]
    ⟨.succeeds, fun _ => .committed, true⟩ (.book "Ann" "ann@mail" "20") trivial
    (fun _ => Or.inl rfl) oneSeat_agrees).mpr fun _ _ _ _ _ _ _ => ⟨by decide, rfl⟩

/-- A booking whose transaction is rolled back stays in the seat map. -/
theorem rolled_back_booking_disagrees :
    AppAgrees (Run.run App.step ⟨oneSeatDatabase, .ok Session.start⟩
      [(.succeed, .selectFlight oneSeat)]) ∧
    ¬ AppAgrees ((Run.run App.step ⟨oneSeatDatabase, .ok Session.start⟩
        [(.succeed, .selectFlight oneSeat)]).step
      (⟨.succeeds, fun _ => .rolledBack, false⟩, .book "Ann" "ann@mail" "20")) :=
  ⟨oneSeat_agrees, oneSeat_disagrees "Ann" "ann@mail" "20"⟩

end AirlineReservation.Agreement
