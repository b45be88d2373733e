import AirlineReservation.FrameActions
import AirlineReservation.StatementRetrieval

/-!
The window on one connection. The panels issue the calls of the persistence
functions in order; an exception that leaves a panel ends the process, and the
process may be killed at any call. A window on calls does what the window on
atomic transactions does for some outcomes, frame by frame and whatever fails, so
that what holds along every run of the one holds along every run of the other.
-/

namespace AirlineReservation.Statements

open Transactions Program
open Frames hiding andThen

/-- `new Flight`, then `LoadFromFlightInformation`. -/
def freshLoad (flightInfo : FlightInformation) : Sqlite SeatMap := do
  let s ← lift (SeatMap.new flightInfo.rows flightInfo.cols)
  let bookingInfos ← getBookingsInfo ("Booking" ++ flightInfo.flightID)
  lift (s.loadBookings flightInfo bookingInfos)

def selectPressed (flightInformation : FlightInformation) (session : Session) :
    Sqlite Session := do
  let seatMap ← freshLoad flightInformation
  return { session with
    activeFlight := some ⟨flightInformation.flightID, flightInformation.origin,
      flightInformation.destination, flightInformation.departureTime,
      flightInformation.arrivalTime, seatMap⟩ }

def saveActive (flight : Flight) (seatMap : SeatMap) (session : Session) : Sqlite Session := do
  let active := some { flight with seatMap := seatMap }
  insertBookingData seatMap (generateBookingTableName active)
  return { session with activeFlight := active }

def bookPressed (flight : Flight) (session : Session) (name email maxLoad : String) :
    Sqlite Session := do
  let (booked, seatMap) ← lift (flight.seatMap.bookSeat session.selectedRowCol.1
    session.selectedRowCol.2 name email maxLoad)
  if booked then saveActive flight seatMap session else return session

def updatePressed (flight : Flight) (session : Session) (name email maxLoad : String) :
    Sqlite Session := do
  let (row, col) := session.selectedRowCol
  let seatMap ← lift (flight.seatMap.cancelBooking row col)
  let (_, seatMap) ← lift (seatMap.bookSeat row col name email maxLoad)
  saveActive flight seatMap session

def deletePressed (flight : Flight) (session : Session) : Sqlite Session := do
  let (row, col) := session.selectedRowCol
  let seatMap ← lift (flight.seatMap.cancelBooking row col)
  let active := some { flight with seatMap := seatMap }
  deleteBookingData (generateBookingTableName active) row col
  return { session with activeFlight := active }

def createBookings (input : Input) (gui : Gui) : Sqlite Gui :=
  match gui.session.activeFlight with
  | none => return gui
  | some flight => do
    let gui := { gui with create := inputTexts .createBookings input gui.create }
    match input with
    | .pressed .book =>
      let session ← bookPressed flight gui.session gui.create.name.text gui.create.email.text
        gui.create.maxLoad.text
      return { gui with session := session }
    | _ => return gui

def manageBookings (input : Input) (gui : Gui) : Sqlite Gui :=
  match gui.session.activeFlight with
  | none => return gui
  | some flight => do
    if ← lift (flight.seatMap.isSeatAvailable gui.session.selectedRowCol.1
        gui.session.selectedRowCol.2) then return gui
    else
      let gui := { gui with manage := inputTexts .manageBookings input gui.manage }
      match input with
      | .pressed .update =>
        let session ← updatePressed flight gui.session gui.manage.name.text
          gui.manage.email.text gui.manage.maxLoad.text
        return { gui with session := session }
      | .pressed .delete =>
        let session ← deletePressed flight gui.session
        return { gui with session := session }
      | _ => return gui

/-- The Select buttons of the listed flights. -/
def selectButtons (input : Input) (flightsInformation : List FlightInformation) (gui : Gui) :
    Sqlite Gui :=
  match input with
  | .pressed (.select index) =>
    match flightsInformation[index]? with
    | some flightInformation => do
      let session ← selectPressed flightInformation gui.session
      return { gui with session := session }
    | none => return gui
  | _ => return gui

def selectFlight (datetimeToInt : String → ℤ) (input : Input) (gui : Gui) : Sqlite Gui := do
  let flightsInformation ← getFlightsInfo datetimeToInt
  selectButtons input flightsInformation gui

def guiMain (datetimeToInt : String → ℤ) (input : Input) (gui : Gui) : Sqlite Gui := do
  let gui ← lift (seatMapGUI input gui)
  let gui ← createBookings input gui
  let gui ← manageBookings input gui
  selectFlight datetimeToInt input gui

/-- The engine with the window, or why the process ended. -/
structure EngineApp where
  engine : Engine Database
  gui : Except (Stop Fault) Gui

/-- The window on a database, with what becomes of the calls that it is going to make. -/
def EngineApp.start (db : Database) (script : List (Option Failure)) : EngineApp :=
  ⟨⟨⟨db, none⟩, script⟩, .ok Gui.start⟩

def EngineApp.step (datetimeToInt : String → ℤ) (app : EngineApp) (input : Input) : EngineApp :=
  match app.gui with
  | .error _ => app
  | .ok gui =>
    match guiMain datetimeToInt input gui app.engine with
    | .ok gui engine => ⟨engine, .ok gui⟩
    | .error stop engine => ⟨engine, .error stop⟩

variable {α β Ω : Type} {x : Database}

theorem refines_lift_then {result : Except Fault α} {f : α → Sqlite β}
    {atomic : Ω → Database × Except Fault β}
    (hok : ∀ a, result = .ok a → Refines (f a) x atomic)
    (herror : ∀ e, result = .error e → ∃ o, atomic o = (x, .error e)) :
    Refines (lift result >>= f) x atomic := by
  intro engine hstore
  refine ends_lift_then (fun a ha => hok a ha engine hstore) ?_
  intro e he
  obtain ⟨o, ho⟩ := herror e he
  exact ⟨o, by rw [ho, hstore], fun _ => ⟨e, by rw [ho]⟩⟩

/-- What is computed from a result changes nothing that is stored. -/
theorem refines_then_lift {prog : Sqlite α} {atomic : Ω → Database × Except Fault α}
    (h : Refines prog x atomic) (f : α → Except Fault β) :
    Refines (prog >>= fun a => lift (f a)) x
      fun o => andThen (atomic o) fun a x' => (x', f a) := by
  have hlift : ∀ a x', Refines (lift (f a)) x' fun _ : Unit => (x', f a) := by
    intro a x' engine hstore
    cases hf : f a with
    | ok b => exact ⟨by rw [hstore], (), by rw [hstore]⟩
    | error e => exact ⟨(), by rw [hstore], fun _ => ⟨e, rfl⟩⟩
  exact (h.bind (g := fun a x' (_ : Unit) => (x', f a)) (fun _ _ => ⟨(), rfl⟩)
    fun _ a x' _ => hlift a x').rename Prod.fst fun _ => rfl

theorem refines_freshLoad (flightInfo : FlightInformation) (hints : Ints x) :
    Refines (freshLoad flightInfo) x fun outcome =>
      (x, SeatMap.freshLoad x flightInfo outcome) := by
  unfold freshLoad
  refine refines_lift_then ?_ ?_
  · intro s hs
    refine (refines_then_lift (refines_getBookingsInfo _ hints) (s.loadBookings flightInfo)).rename
      id ?_
    intro outcome
    simp only [SeatMap.freshLoad, SeatMap.loadFromFlightInformation, hs, bind, Except.bind, andThen,
      id]
    cases (AirlineReservation.getBookingsInfo x ("Booking" ++ flightInfo.flightID) outcome).result
      <;> rfl
  · intro e he
    refine ⟨.succeeds, ?_⟩
    simp only [SeatMap.freshLoad, he, bind, Except.bind]

theorem refines_selectPressed (flightInformation : FlightInformation) (session : Session)
    (hints : Ints x) :
    Refines (selectPressed flightInformation session) x fun outcomes =>
      (x, AirlineReservation.selectPressed outcomes x flightInformation session) := by
  refine (refines_then_lift (refines_freshLoad flightInformation hints) fun seatMap =>
    .ok { session with activeFlight := some ⟨flightInformation.flightID, flightInformation.origin,
      flightInformation.destination, flightInformation.departureTime,
      flightInformation.arrivalTime, seatMap⟩ }).rename
    (fun outcome => { SqlOutcomes.succeed with retrieval := outcome }) ?_
  intro outcome
  simp only [AirlineReservation.selectPressed, bind, Except.bind, andThen]
  cases SeatMap.freshLoad x flightInformation outcome <;> rfl

theorem refines_saveActive (flight : Flight) (seatMap : SeatMap) (session : Session) :
    Refines (saveActive flight seatMap session) x fun outcomes =>
      AirlineReservation.saveActive outcomes x flight seatMap session := by
  refine (refines_then_lift (refines_insertBookingData seatMap
    (generateBookingTableName (some { flight with seatMap := seatMap }))) fun _ =>
      .ok { session with activeFlight := some { flight with seatMap := seatMap } }).rename
    (fun outcome => { SqlOutcomes.succeed with seat := outcome }) ?_
  intro outcome
  simp only [AirlineReservation.saveActive, andThen]
  cases AirlineReservation.insertBookingData seatMap x
    (generateBookingTableName (some { flight with seatMap := seatMap })) outcome with
  | mk x' result => cases result <;> rfl

theorem refines_bookPressed (flight : Flight) (session : Session) (name email maxLoad : String) :
    Refines (bookPressed flight session name email maxLoad) x fun outcomes =>
      AirlineReservation.bookPressed outcomes x flight session name email maxLoad := by
  unfold bookPressed AirlineReservation.bookPressed
  refine refines_lift_then ?_ ?_
  · intro answer hanswer
    obtain ⟨booked, seatMap⟩ := answer
    simp only [hanswer]
    cases booked with
    | true => exact refines_saveActive flight seatMap session
    | false => exact Refines.pure SqlOutcomes.succeed rfl
  · intro e he
    exact ⟨SqlOutcomes.succeed, by simp only [he]⟩

theorem refines_updatePressed (flight : Flight) (session : Session)
    (name email maxLoad : String) :
    Refines (updatePressed flight session name email maxLoad) x fun outcomes =>
      AirlineReservation.updatePressed outcomes x flight session name email maxLoad := by
  obtain ⟨⟨row, col⟩, hselected⟩ : ∃ seat, session.selectedRowCol = seat := ⟨_, rfl⟩
  simp only [updatePressed, AirlineReservation.updatePressed, hselected]
  refine refines_lift_then ?_ ?_
  · intro cancelled hcancelled
    refine refines_lift_then ?_ ?_
    · intro answer hanswer
      simp only [hcancelled, hanswer, bind, Except.bind]
      exact refines_saveActive flight answer.2 session
    · intro e he
      exact ⟨SqlOutcomes.succeed, by simp only [hcancelled, he, bind, Except.bind]⟩
  · intro e he
    exact ⟨SqlOutcomes.succeed, by simp only [he, bind, Except.bind]⟩

theorem refines_deletePressed (flight : Flight) (session : Session) :
    Refines (deletePressed flight session) x fun outcomes =>
      AirlineReservation.deletePressed outcomes x flight session := by
  obtain ⟨⟨row, col⟩, hselected⟩ : ∃ seat, session.selectedRowCol = seat := ⟨_, rfl⟩
  simp only [deletePressed, AirlineReservation.deletePressed, hselected]
  refine refines_lift_then ?_ ?_
  · intro seatMap hseatMap
    refine (refines_then_lift (refines_deleteBookingData _ row col) fun _ => .ok
      ({ activeFlight := some { flight with seatMap := seatMap },
         selectedRowCol := (row, col) } : Session)).rename
      (fun raises => { SqlOutcomes.succeed with deleteRaises := raises }) ?_
    intro raises
    simp only [hseatMap, andThen]
  · intro e he
    exact ⟨SqlOutcomes.succeed, by simp only [he]⟩

section Panels

variable (input : Input) (listing : RetrievalOutcome) (gui : Gui)

/-- The session of a handler goes back into the window. -/
theorem refines_after {prog : Sqlite Session}
    {atomic : SqlOutcomes → Database × Except Fault Session} (h : Refines prog x atomic) :
    Refines (do let session ← prog; return { gui with session := session }) x
      fun outcomes => gui.after (atomic outcomes) := by
  refine (refines_then_lift h fun session => .ok { gui with session := session }).rename id ?_
  intro outcomes
  rw [id, Gui.after]
  cases atomic outcomes with
  | mk x' result => cases result <;> rfl

theorem refines_createBookings :
    Refines (createBookings input gui) x fun outcomes =>
      Frames.createBookings ⟨input, listing, outcomes⟩ x gui := by
  unfold createBookings Frames.createBookings
  cases gui.session.activeFlight with
  | none => exact Refines.pure SqlOutcomes.succeed rfl
  | some flight =>
    cases input with
    | pressed b =>
      cases b with
      | book => exact refines_after _ (refines_bookPressed flight _ _ _ _)
      | _ => exact Refines.pure SqlOutcomes.succeed rfl
    | _ => exact Refines.pure SqlOutcomes.succeed rfl

theorem refines_manageBookings :
    Refines (manageBookings input gui) x fun outcomes =>
      Frames.manageBookings ⟨input, listing, outcomes⟩ x gui := by
  unfold manageBookings Frames.manageBookings
  cases gui.session.activeFlight with
  | none => exact Refines.pure SqlOutcomes.succeed rfl
  | some flight =>
    simp only
    refine refines_lift_then ?_ ?_
    · intro available havailable
      rw [havailable]
      cases available with
      | true => exact Refines.pure SqlOutcomes.succeed rfl
      | false =>
        simp only [Bool.false_eq_true, if_false]
        cases input with
        | pressed b =>
          cases b with
          | update => exact refines_after _ (refines_updatePressed flight _ _ _ _)
          | delete => exact refines_after _ (refines_deletePressed flight _)
          | _ => exact Refines.pure SqlOutcomes.succeed rfl
        | _ => exact Refines.pure SqlOutcomes.succeed rfl
    · intro e he
      exact ⟨SqlOutcomes.succeed, by rw [he]⟩

/-- The Select buttons on atomic transactions. -/
def selected (outcomes : SqlOutcomes) (db : Database)
    (flightsInformation : List FlightInformation) : Database × Except Fault Gui :=
  match input with
  | .pressed (.select index) =>
    match flightsInformation[index]? with
    | some flightInformation =>
      gui.after (db, AirlineReservation.selectPressed outcomes db flightInformation gui.session)
    | none => (db, .ok gui)
  | _ => (db, .ok gui)

theorem selectFlight_eq (datetimeToInt : String → ℤ) (outcomes : SqlOutcomes) (db : Database) :
    Frames.selectFlight datetimeToInt ⟨input, listing, outcomes⟩ db gui =
      andThen (db, (AirlineReservation.getFlightsInfo datetimeToInt db listing).result)
        fun flightsInformation db' => selected input gui outcomes db' flightsInformation := by
  unfold Frames.selectFlight selected
  cases (AirlineReservation.getFlightsInfo datetimeToInt db listing).result <;> rfl

theorem selected_fst (outcomes : SqlOutcomes) (db : Database)
    (flightsInformation : List FlightInformation) :
    (selected input gui outcomes db flightsInformation).1 = db := by
  unfold selected
  split
  · split <;> rfl
  · rfl

theorem refines_selectButtons (flightsInformation : List FlightInformation) (hints : Ints x) :
    Refines (selectButtons input flightsInformation gui) x fun outcomes =>
      selected input gui outcomes x flightsInformation := by
  unfold selectButtons selected
  cases input with
  | idle => exact Refines.pure SqlOutcomes.succeed rfl
  | typed panel field text => exact Refines.pure SqlOutcomes.succeed rfl
  | pressed button =>
    cases button with
    | select index =>
      simp only
      cases flightsInformation[index]? with
      | some flightInformation =>
        exact refines_after gui (refines_selectPressed flightInformation _ hints)
      | none => exact Refines.pure SqlOutcomes.succeed rfl
    | _ => exact Refines.pure SqlOutcomes.succeed rfl

theorem refines_selectFlight (datetimeToInt : String → ℤ) (hints : Ints x) :
    Refines (selectFlight datetimeToInt input gui) x
      fun o : RetrievalOutcome × SqlOutcomes =>
        Frames.selectFlight datetimeToInt ⟨input, o.1, o.2⟩ x gui := by
  have : Nonempty SqlOutcomes := ⟨.succeed⟩
  refine ((refines_getFlightsInfo datetimeToInt hints).bind
    (g := fun flightsInformation x' outcomes =>
      selected input gui outcomes x' flightsInformation)
    (fun flightsInformation x' => ⟨.succeed, selected_fst input gui .succeed x' _⟩) ?_).rename id
    fun o => selectFlight_eq input o.1 gui datetimeToInt o.2 x
  intro o flightsInformation x' hlisted
  obtain ⟨rfl, _⟩ := Prod.mk.inj hlisted
  exact refines_selectButtons input gui flightsInformation hints

end Panels

end AirlineReservation.Statements
