import AirlineReservation.OnlyTable
import AirlineReservation.SessionRuns

/-!
Isolation of flights. Flights are told apart by `flightId`, compared exactly;
their bookings live in the table named after it, and table names ignore ASCII
case. Whatever happens on one flight changes only its own table, so another
flight is isolated from it exactly when the two table names differ there too.
-/

namespace AirlineReservation.Isolation

theorem onlyTable_request (request : Request) (outcomes : SqlOutcomes) (db : Database)
    (flight : Flight) (session : Session) (s : SeatMap) :
    OnlyTable ("Booking" ++ flight.flightID) db
      (request.run outcomes db flight session s).1 := by
  cases request with
  | nothing => exact .refl
  | save =>
    rw [Request.run, saveActive_fst]
    exact onlyTable_insertBookingData s db _ outcomes.seat
  | delete => exact onlyTable_deleteBookingData db _ _ _ outcomes.deleteRaises

/-- The action is not a Select of any flight but those with this id. -/
def ActsOn (id : String) (action : Action) : Prop :=
  ∀ f, action = .selectFlight f → f.flightID = id

/-- The session shows no other flight than `id`, and only its table has changed. -/
structure Confined (id : String) (db : Database) (app : App) : Prop where
  valid : app.Valid
  only : OnlyTable ("Booking" ++ id) db app.db
  active : ∀ session flight, app.session = .ok session → session.activeFlight = some flight →
    flight.flightID = id

theorem confined_step {id : String} {db : Database} {app : App} (h : Confined id db app)
    (event : SqlOutcomes × Action) (hacts : ActsOn id event.2) :
    Confined id db (app.step event) := by
  cases hsession : app.session with
  | error e => rwa [App.step_dead hsession]
  | ok session =>
    have hstep := App.step_live hsession event
    refine ⟨App.valid_step h.valid event, ?_, ?_⟩
    · rcases perform_cases event.1 app.db (h.valid session hsession) event.2 with
        ⟨f, _, hperform⟩ | ⟨_, _, _, hperform⟩ |
          ⟨flight, s', request, _, hactive, _, hperform⟩
      · simpa [hstep, hperform] using h.only
      · simpa [hstep, hperform] using h.only
      · have hid := h.active session flight hsession hactive
        have hrequest := onlyTable_request request event.1 app.db flight session s'
        rw [hid] at hrequest
        rw [hstep, hperform]
        exact h.only.trans hrequest
    · intro session' flight' hlive hactive'
      rw [hstep] at hlive
      rcases perform_cases event.1 app.db (h.valid session hsession) event.2 with
        ⟨f, haction, hperform⟩ | ⟨_, hkeep, _, hperform⟩ |
          ⟨flight, s', request, _, hactive, heffect, hperform⟩
      · rw [hperform] at hlive
        obtain ⟨flight, rfl, hid, _⟩ := selectPressed_ok hlive
        cases Option.some.inj hactive'
        exact hid.trans (hacts f haction)
      · rw [hperform] at hlive
        cases Except.ok.inj hlive
        rw [hkeep] at hactive'
        exact h.active session flight' hsession hactive'
      · have hresult := heffect.session_of_run hactive
          (hperform.symm.trans (Prod.ext rfl hlive))
        rw [hresult] at hactive'
        cases Option.some.inj hactive'
        exact h.active session flight hsession hactive

theorem confined_run (id : String) (db : Database) (events : List (SqlOutcomes × Action))
    (hacts : ∀ event ∈ events, ActsOn id event.2) :
    Confined id db (Run.run App.step ⟨db, .ok Session.start⟩ events) := by
  have hstart : Confined id db ⟨db, .ok Session.start⟩ := by
    refine ⟨App.valid_start db, .refl, ?_⟩
    intro _ flight hlive hactive
    cases hlive
    contradiction
  exact (Run.throughout_of_forall App.step (Confined id db) (fun event => ActsOn id event.2)
    (fun _ event h hacts => confined_step h event hacts) _ events hstart hacts).final

/-- What a fresh map loads depends on the flight's own table only. -/
theorem freshLoad_congr {db db' : Database} (f : FlightInformation) (outcome : RetrievalOutcome)
    (h : db'.bookingTable ("Booking" ++ f.flightID) =
      db.bookingTable ("Booking" ++ f.flightID)) :
    SeatMap.freshLoad db' f outcome = SeatMap.freshLoad db f outcome := by
  simp only [SeatMap.freshLoad, SeatMap.loadFromFlightInformation, getBookingsInfo, h]

/-- Two stored flights with these ids are isolated: no run on the first changes
what a fresh seat map loads for the second. -/
def Isolated (id₁ id₂ : String) : Prop :=
  ∀ (datetimeToInt : String → ℤ) (db : Database) (rows : List FlightRow) (row₁ row₂ : FlightRow)
    (events : List (SqlOutcomes × Action)) (outcome : RetrievalOutcome),
    db.flights = some rows → row₁ ∈ rows → row₂ ∈ rows →
    row₁.flightId = id₁ → row₂.flightId = id₂ →
    (∀ event ∈ events, ∀ f, event.2 = .selectFlight f → f = row₁.information datetimeToInt) →
    SeatMap.freshLoad (Run.run App.step ⟨db, .ok Session.start⟩ events).db
        (row₂.information datetimeToInt) outcome =
      SeatMap.freshLoad db (row₂.information datetimeToInt) outcome

theorem isolated_of_tableKey_ne {id₁ id₂ : String}
    (hne : tableKey ("Booking" ++ id₂) ≠ tableKey ("Booking" ++ id₁)) : Isolated id₁ id₂ := by
  intro datetimeToInt db rows row₁ row₂ events outcome _ _ _ hid₁ hid₂ hselects
  subst hid₁
  subst hid₂
  have hconfined := confined_run row₁.flightId db events fun event hevent f hselect => by
    rw [hselects event hevent f hselect]
    rfl
  exact freshLoad_congr _ outcome (hconfined.only.bookingTable _ hne)

theorem freshLoad_vacant {db : Database} (f : FlightInformation) (hrows : 0 ≤ f.rows)
    (hcols : 0 ≤ f.cols) (ht : db.bookingTable ("Booking" ++ f.flightID) = some []) :
    SeatMap.freshLoad db f .succeeds = .ok (SeatMap.vacant f.rows f.cols) := by
  rw [SeatMap.freshLoad_eq hrows hcols, getBookingsInfo_succeeds ht (by decide)]
  exact SeatMap.loadBookings_vacant_eq f [] hrows hcols

section Shared

def oneSeatRow (id : String) : FlightRow := ⟨id, "", "", "", "", "booking" ++ id, 1, 1⟩

/-- Two flights of one seat that share an empty booking table. -/
def sharedDatabase (id₁ id₂ : String) : Database :=
  ⟨some [oneSeatRow id₁, oneSeatRow id₂], fun _ => some []⟩

/-- The first flight, selected while nothing is booked. -/
def vacantFlight (id : String) : Flight := ⟨id, "", "", 0, 0, SeatMap.vacant 1 1⟩

def vacantSession (id : String) : Session := ⟨some (vacantFlight id), (0, 0)⟩

def annRow : BookingInformation := ⟨"Ann", "", "", 0, 0⟩

variable {id₁ id₂ : String} {key : List Char} (hkey₁ : tableKey ("Booking" ++ id₁) = some key)
include hkey₁

theorem sharedDatabase_table (id₂ : String) :
    (sharedDatabase id₁ id₂).bookingTable ("Booking" ++ id₁) = some [] := by
  simp [sharedDatabase, Database.bookingTable, hkey₁]

theorem shared_booked :
    (Run.run App.step ⟨sharedDatabase id₁ id₂, .ok Session.start⟩
      [(.succeed, .selectFlight ((oneSeatRow id₁).information fun _ => 0)),
        (.succeed, .book "Ann" "" "")]).db =
      (sharedDatabase id₁ id₂).setBookingTable ("Booking" ++ id₁) [annRow] := by
  have ht := sharedDatabase_table hkey₁ id₂
  have hload := freshLoad_vacant ((oneSeatRow id₁).information fun _ => 0)
    (Int.zero_le_ofNat 1) (Int.zero_le_ofNat 1) ht
  have hselect : App.step ⟨sharedDatabase id₁ id₂, .ok Session.start⟩
      (.succeed, .selectFlight ((oneSeatRow id₁).information fun _ => 0)) =
      ⟨sharedDatabase id₁ id₂, .ok (vacantSession id₁)⟩ := by
    simp only [App.step, perform, selectPressed, SqlOutcomes.succeed, hload]
    rfl
  have hshaped := SeatMap.shaped_vacant 1 1 (by decide) (by decide)
  have hsaved : saveTable ((SeatMap.vacant 1 1).putCell 0 0 (Cell.taken "Ann" "" ""))
      SqlOutcomes.succeed.seat [] = [annRow] := by decide
  have hbook : bookPressed .succeed (sharedDatabase id₁ id₂) (vacantFlight id₁)
      (vacantSession id₁) "Ann" "" "" = saveActive .succeed (sharedDatabase id₁ id₂)
        (vacantFlight id₁) ((SeatMap.vacant 1 1).putCell 0 0 (Cell.taken "Ann" "" ""))
        (vacantSession id₁) := bookPressed_available rfl hshaped rfl rfl "Ann" "" ""
  have hsave : saveActive .succeed (sharedDatabase id₁ id₂) (vacantFlight id₁)
      ((SeatMap.vacant 1 1).putCell 0 0 (Cell.taken "Ann" "" "")) (vacantSession id₁) =
        afterAction (sharedDatabase id₁ id₂) (vacantFlight id₁) (vacantSession id₁)
          ((SeatMap.vacant 1 1).putCell 0 0 (Cell.taken "Ann" "" "")) [annRow] := by
    have ht' : (sharedDatabase id₁ id₂).bookingTable ("Booking" ++ (vacantFlight id₁).flightID) =
        some [] := ht
    rw [saveActive_eq ht' (hshaped.putCell 0 0 _) fun _ => Or.inl rfl, hsaved]
  rw [Run.run_cons, hselect, Run.run_cons, Run.run_nil, App.step_live rfl]
  simp only [SqlOutcomes.succeed, perform, vacantSession] at hbook hsave ⊢
  rw [hbook, hsave, afterAction, vacantFlight]

/-- Ann's row then shows up in the second flight. -/
theorem not_isolated_of_tableKey_eq (hkey₂ : tableKey ("Booking" ++ id₂) = some key) :
    ¬ Isolated id₁ id₂ := by
  intro h
  have hload := h (fun _ => 0) (sharedDatabase id₁ id₂) _ (oneSeatRow id₁) (oneSeatRow id₂)
    [(.succeed, .selectFlight ((oneSeatRow id₁).information fun _ => 0)),
      (.succeed, .book "Ann" "" "")] .succeeds rfl (by simp) (by simp) rfl rfl
    (by simp)
  have hempty : (sharedDatabase id₁ id₂).bookingTable ("Booking" ++ id₂) = some [] := by
    simp [sharedDatabase, Database.bookingTable, hkey₂]
  have hann : ((sharedDatabase id₁ id₂).setBookingTable ("Booking" ++ id₁) [annRow]).bookingTable
      ("Booking" ++ id₂) = some [annRow] := by
    rw [Database.bookingTable_congr _ ("Booking" ++ id₁) _ (hkey₂.trans hkey₁.symm)]
    exact Database.bookingTable_setBookingTable_self _ _ (sharedDatabase_table hkey₁ id₂) _
  rw [shared_booked hkey₁, freshLoad_vacant ((oneSeatRow id₂).information fun _ => 0)
    (Int.zero_le_ofNat 1) (Int.zero_le_ofNat 1) hempty] at hload
  obtain ⟨bookingInfos, hread, loaded⟩ := SeatMap.freshLoad_ok hload
  have hrows : bookingInfos = [annRow] := getBookingsInfo_eq_table hann hread
  subst hrows
  have hcell := loaded.cell_eq 0 0 Cell.free rfl
  exact absurd hcell (by decide)

end Shared

/-- Letters and digits of ASCII only. -/
def Alphanumeric (id : String) : Prop := ∀ c ∈ id.toList, c.isAlphanum = true

instance (id : String) : Decidable (Alphanumeric id) := List.decidableBAll _ id.toList

theorem Alphanumeric.isName {id : String} (h : Alphanumeric id) : IsName id := by
  rw [IsName, List.all_eq_true]
  intro c hc
  simp [isNameChar, h c hc]

theorem tableKey_booking {id : String} (h : IsName id) :
    tableKey ("Booking" ++ id) =
      some ("booking".toList ++ id.toList.map Char.toLower) := by
  have hname : ("Booking" ++ id).toList.all isNameChar = true := by
    rw [String.toList_append, List.all_append, show id.toList.all isNameChar = true from h]
    decide
  rw [tableKey, if_pos hname, String.toList_append, List.map_append]
  rfl

/-- Flights are isolated from each other exactly when their ids differ in more
than the case of letters. -/
theorem isolated_iff (id₁ id₂ : String) (h₁ : Alphanumeric id₁) (h₂ : Alphanumeric id₂) :
    Isolated id₁ id₂ ↔ id₁.toList.map Char.toLower ≠ id₂.toList.map Char.toLower := by
  have hkey₁ := tableKey_booking h₁.isName
  have hkey₂ := tableKey_booking h₂.isName
  constructor
  · intro hisolated heq
    rw [← heq] at hkey₂
    exact not_isolated_of_tableKey_eq hkey₁ hkey₂ hisolated
  · intro hne
    apply isolated_of_tableKey_ne
    rw [hkey₁, hkey₂]
    intro heq
    exact hne (List.append_cancel_left (Option.some.inj heq)).symm

theorem different_numbers_isolated : Isolated "AA123" "AA124" :=
  (isolated_iff "AA123" "AA124" (by decide) (by decide)).mpr (by decide)

theorem case_variants_not_isolated : "AB1" ≠ "ab1" ∧ ¬ Isolated "AB1" "ab1" :=
  ⟨by decide, not_isolated_of_tableKey_eq (show _ = some "bookingab1".toList by decide) (by decide)⟩

end AirlineReservation.Isolation
