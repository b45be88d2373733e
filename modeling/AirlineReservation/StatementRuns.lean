import AirlineReservation.Library.Simulation
import AirlineReservation.Bounds
import AirlineReservation.RetrievalErrors
import AirlineReservation.StatementFrames

/-!
Runs of the window on calls. Between frames no transaction is open, so that the
stored database is the whole database, and the next frame does what a frame on
atomic transactions does for some outcomes. An exception, a fault and a kill end
the process alike: what is stored then is what a frame that ends in an error
leaves.
-/

namespace AirlineReservation.Statements

open Transactions Program
open Frames hiding andThen

/-- The whole numbers of the database and of the active map are those of C++. -/
structure Sound (db : Database) (session : Session) : Prop where
  ints : Ints db
  valid : session.Valid
  whole : ∀ flight, session.activeFlight = some flight →
    IsInt flight.seatMap.rows ∧ IsInt flight.seatMap.cols

theorem Ints.onlyTable {tableName : String} {db db' : Database} (h : Ints db)
    (hother : OnlyTable tableName db db')
    (hrows : ∀ tableName' t b, db'.bookingTable tableName' = some t → b ∈ t →
      (∃ told, db.bookingTable tableName' = some told ∧ b ∈ told) ∨
        IsInt b.row ∧ IsInt b.col) : Ints db' := by
  refine ⟨fun rows hflights => h.flights rows (hother.flights ▸ hflights), ?_⟩
  intro tableName' t ht b hb
  rcases hrows tableName' t b ht hb with ⟨told, htold, hold⟩ | hnew
  · exact h.bookings tableName' told htold b hold
  · exact hnew

/-- The seats that a save visits have int coordinates when the map has int dimensions. -/
theorem isInt_of_mem_seats {s : SeatMap} (hrows : IsInt s.rows) (hcols : IsInt s.cols) {r c : ℤ}
    (h : (r, c) ∈ s.seats) : IsInt r ∧ IsInt c := by
  obtain ⟨hr, hrlt, hc, hclt⟩ := (mem_seats s r c).mp h
  obtain ⟨_, hrowsHigh⟩ := hrows
  obtain ⟨_, hcolsHigh⟩ := hcols
  unfold IsInt
  omega

theorem Ints.insertBookingData {db : Database} (h : Ints db) {s : SeatMap} (hrows : IsInt s.rows)
    (hcols : IsInt s.cols) (tableName : String) (outcome : ℤ × ℤ → TransactionOutcome) :
    Ints (AirlineReservation.insertBookingData s db tableName outcome).1 := by
  refine h.onlyTable (onlyTable_insertBookingData s db tableName outcome) ?_
  intro tableName' t b ht hb
  rcases row_of_insertBookingLoop outcome s.seats ht hb with hold | ⟨_, hnew⟩
  · exact Or.inl hold
  · exact Or.inr (isInt_of_mem_seats hrows hcols hnew.visited)

theorem Ints.deleteBookingData {db : Database} (h : Ints db) (tableName : String) (r c : ℤ)
    (raises : Bool) : Ints (AirlineReservation.deleteBookingData db tableName r c raises) := by
  refine h.onlyTable (onlyTable_deleteBookingData db tableName r c raises) ?_
  intro tableName' t b ht hb
  exact Or.inl (row_of_deleteBookingData r c raises ht hb)

theorem Sound.performs {outcomes : SqlOutcomes} {db db' : Database} {session session' : Session}
    {action : Option Action} (h : Sound db session)
    (hselect : ∀ flightInformation, action = some (.selectFlight flightInformation) →
      IsInt flightInformation.rows ∧ IsInt flightInformation.cols)
    (hperforms : Performs outcomes db session action db' session') : Sound db' session' := by
  have hvalid := hperforms.valid h.valid
  cases action with
  | none =>
    obtain ⟨rfl, rfl⟩ := hperforms
    exact h
  | some action =>
    rcases perform_cases outcomes db h.valid action with
      ⟨flightInformation, rfl, hperform⟩ | ⟨_, hkeep, _, hperform⟩ |
        ⟨flight, s', request, _, hactive, heffect, hperform⟩
    · obtain ⟨rfl, hpressed⟩ := Prod.mk.inj (hperform.symm.trans hperforms)
      refine ⟨h.ints, hvalid, ?_⟩
      obtain ⟨flight, rfl, _, hload⟩ := selectPressed_ok hpressed
      obtain ⟨_, _, loaded⟩ := SeatMap.freshLoad_ok hload
      intro flight' hflight'
      cases hflight'
      rw [loaded.rows_eq, loaded.cols_eq]
      exact hselect flightInformation rfl
    · obtain ⟨rfl, hsession⟩ := Prod.mk.inj (hperform.symm.trans hperforms)
      refine ⟨h.ints, hvalid, ?_⟩
      rw [← Except.ok.inj hsession, hkeep]
      exact h.whole
    · have hrun := hperform.symm.trans hperforms
      obtain ⟨hrows, hcols⟩ := h.whole flight hactive
      rw [← heffect.dimensions.1] at hrows
      rw [← heffect.dimensions.2] at hcols
      refine ⟨?_, hvalid, ?_⟩
      · have hdb : (request.run outcomes db flight session s').1 = db' := by rw [hrun]
        rw [← hdb]
        cases request with
        | nothing => exact h.ints
        | save =>
          rw [Request.run, saveActive_fst]
          exact h.ints.insertBookingData hrows hcols _ _
        | delete => exact h.ints.deleteBookingData _ _ _ _
      · rw [heffect.session_of_run hactive hrun]
        intro flight' hflight'
        cases hflight'
        exact ⟨hrows, hcols⟩

/-- The flights that are listed have int dimensions. -/
theorem Ints.listed {db : Database} (h : Ints db) {datetimeToInt : String → ℤ}
    {listing : RetrievalOutcome} {flightsInformation : List FlightInformation}
    (hlist : (AirlineReservation.getFlightsInfo datetimeToInt db listing).result =
      .ok flightsInformation) {flightInformation : FlightInformation}
    (hmem : flightInformation ∈ flightsInformation) :
    IsInt flightInformation.rows ∧ IsInt flightInformation.cols := by
  obtain ⟨rows, row, hrows, hrow, rfl⟩ := Bounds.listed_stored hlist hmem
  exact h.flights rows hrows row hrow

section Frame

variable {frame : Frame} {db db' : Database} {gui gui' : Gui}

theorem Sound.createBookings (h : Sound db gui.session)
    (hpanel : Frames.createBookings frame db gui = (db', .ok gui')) : Sound db' gui'.session := by
  refine h.performs ?_ (createBookings_performs hpanel).1
  intro flightInformation haction
  unfold createAction at haction
  split at haction <;> simp at haction

theorem Sound.manageBookings (h : Sound db gui.session)
    (hpanel : Frames.manageBookings frame db gui = (db', .ok gui')) : Sound db' gui'.session := by
  refine h.performs ?_ (manageBookings_performs hpanel)
  intro flightInformation haction
  unfold manageAction at haction
  split at haction <;> simp at haction

theorem Sound.seatMapGUI {input : Input} (h : Sound db gui.session)
    (hdrawn : Frames.seatMapGUI input gui = .ok gui') : Sound db gui'.session := by
  let frame : Frame := ⟨input, .succeeds, .succeed⟩
  have hdraw : Frames.seatMapGUI frame.input gui = .ok gui' := hdrawn
  refine h.performs ?_ (seatMapGUI_performs .succeed db hdraw).2
  intro flightInformation haction
  unfold seatAction at haction
  cases hactive : gui.session.activeFlight with
  | none => simp [hactive] at haction
  | some flight =>
    simp only [hactive, Option.bind_eq_some_iff, Option.map_eq_some_iff] at haction
    obtain ⟨_, _, _, _, heq⟩ := haction
    contradiction

theorem Sound.guiMain {datetimeToInt : String → ℤ} (h : Sound db gui.session)
    (hframe : Frames.guiMain datetimeToInt frame db gui = (db', .ok gui')) :
    Sound db' gui'.session := by
  obtain ⟨db₂, managed, hmanaged, hselect⟩ := andThen_ok hframe
  obtain ⟨db₁, created, hcreated, hmanage⟩ := andThen_ok hmanaged
  obtain ⟨db₀, drawn, hdrawn, hcreate⟩ := andThen_ok hcreated
  obtain ⟨rfl, hdraw⟩ := Prod.mk.inj hdrawn
  have hmiddle := ((h.seatMapGUI hdraw).createBookings hcreate).manageBookings hmanage
  obtain ⟨flightsInformation, rfl, hlist, hpick⟩ := selectFlight_performs hselect
  refine hmiddle.performs ?_ hpick
  intro flightInformation haction
  unfold selectAction at haction
  split at haction
  · obtain ⟨_, hmem, heq⟩ := Option.map_eq_some_iff.mp haction
    cases heq
    exact hmiddle.ints.listed hlist (List.mem_of_getElem? hmem)
  · contradiction

end Frame

section Outcomes

variable (input : Input) (x : Database) (gui : Gui)

/-- Only the panel whose button is pressed makes calls for it. -/
def pressedOutcomes (created managed selected : SqlOutcomes) : SqlOutcomes :=
  match input with
  | .pressed .book => created
  | .pressed (.select _) => selected
  | _ => managed

theorem createBookings_pressed (listing : RetrievalOutcome)
    (created managed selected : SqlOutcomes) :
    Frames.createBookings ⟨input, listing, pressedOutcomes input created managed selected⟩ x gui =
      Frames.createBookings ⟨input, .succeeds, created⟩ x gui := by
  cases input with
  | pressed button => cases button <;> rfl
  | _ => rfl

theorem manageBookings_pressed (listing : RetrievalOutcome)
    (created managed selected : SqlOutcomes) :
    Frames.manageBookings ⟨input, listing, pressedOutcomes input created managed selected⟩ x gui =
      Frames.manageBookings ⟨input, .succeeds, managed⟩ x gui := by
  cases input with
  | pressed button => cases button <;> rfl
  | _ => rfl

theorem selectFlight_pressed (datetimeToInt : String → ℤ) (listing : RetrievalOutcome)
    (created managed selected : SqlOutcomes) :
    Frames.selectFlight datetimeToInt
        ⟨input, listing, pressedOutcomes input created managed selected⟩ x gui =
      Frames.selectFlight datetimeToInt ⟨input, listing, selected⟩ x gui := by
  cases input with
  | pressed button => cases button <;> rfl
  | _ => rfl

/-- Every write is rolled back. -/
def refusing : SqlOutcomes := ⟨.succeeds, fun _ => .rolledBack, true⟩

theorem saveActive_refusing (flight : Flight) (seatMap : SeatMap) (session : Session) :
    (AirlineReservation.saveActive refusing x flight seatMap session).1 = x := by
  rw [saveActive_fst]
  exact insertBookingLoop_rolledBack seatMap _ _ x

theorem updatePressed_refusing (flight : Flight) (session : Session)
    (name email maxLoad : String) :
    (AirlineReservation.updatePressed refusing x flight session name email maxLoad).1 = x := by
  unfold AirlineReservation.updatePressed
  simp only
  split
  · rfl
  · exact saveActive_refusing x flight _ session

theorem deletePressed_refusing (flight : Flight) (session : Session) :
    (AirlineReservation.deletePressed refusing x flight session).1 = x := by
  unfold AirlineReservation.deletePressed
  simp only
  split <;> rfl

theorem manageBookings_refusing (listing : RetrievalOutcome) :
    (Frames.manageBookings ⟨input, listing, refusing⟩ x gui).1 = x := by
  unfold Frames.manageBookings
  split
  · rfl
  · next flight _ =>
    split
    · rfl
    · rfl
    · simp only
      split
      · exact updatePressed_refusing x flight _ _ _ _
      · exact deletePressed_refusing x flight _
      · rfl

end Outcomes

section Guimain

variable (datetimeToInt : String → ℤ) (input : Input) {x : Database} {gui : Gui}

theorem refines_guiMain (hsound : Sound x gui.session) :
    Refines (guiMain datetimeToInt input gui) x fun o : RetrievalOutcome × SqlOutcomes =>
      Frames.guiMain datetimeToInt ⟨input, o.1, o.2⟩ x gui := by
  have : Nonempty SqlOutcomes := ⟨.succeed⟩
  have : Nonempty RetrievalOutcome := ⟨.succeeds⟩
  unfold guiMain
  refine refines_lift_then ?_ ?_
  · intro drawn hdrawn
    have hdraw := hsound.seatMapGUI hdrawn
    refine ((refines_createBookings input .succeeds drawn).bind
      (g := fun created x' (o : SqlOutcomes × RetrievalOutcome × SqlOutcomes) =>
        andThen (Frames.manageBookings ⟨input, .succeeds, o.1⟩ x' created) fun managed x'' =>
          Frames.selectFlight datetimeToInt ⟨input, o.2.1, o.2.2⟩ x'' managed) ?_ ?_).rename
      (fun o => (o.2.2.1, pressedOutcomes input o.1 o.2.1 o.2.2.2)) ?_
    · intro created x'
      refine ⟨(refusing, .succeeds, refusing), ?_⟩
      have hmanage := manageBookings_refusing input x' created .succeeds
      simp only
      cases hpanel : Frames.manageBookings ⟨input, .succeeds, refusing⟩ x' created with
      | mk x'' result =>
        rw [hpanel] at hmanage
        cases result with
        | error e => exact hmanage
        | ok managed => exact (selectFlight_fst datetimeToInt _ x'' managed).trans hmanage
    · intro o created x' hcreate
      refine (refines_manageBookings input .succeeds created).bind
        (g := fun managed x'' (o : RetrievalOutcome × SqlOutcomes) =>
          Frames.selectFlight datetimeToInt ⟨input, o.1, o.2⟩ x'' managed) ?_ ?_
      · intro managed x''
        exact ⟨(.succeeds, refusing), selectFlight_fst datetimeToInt _ x'' managed⟩
      · intro o' managed x'' hmanage
        exact refines_selectFlight input managed datetimeToInt
          ((hdraw.createBookings hcreate).manageBookings hmanage).ints
    · intro o
      obtain ⟨created, managed, listing, selected⟩ := o
      simp only [Frames.guiMain, hdrawn, Frames.andThen, createBookings_pressed]
      cases Frames.createBookings ⟨input, .succeeds, created⟩ x drawn with
      | mk x' result =>
        cases result with
        | error e => rfl
        | ok gui₁ =>
          simp only [manageBookings_pressed, andThen]
          cases Frames.manageBookings ⟨input, .succeeds, managed⟩ x' gui₁ with
          | mk x'' result =>
            cases result with
            | error e => rfl
            | ok gui₂ => exact selectFlight_pressed input x'' gui₂ datetimeToInt listing _ _ _
  · intro e he
    exact ⟨(.succeeds, .succeed), by simp only [Frames.guiMain, he, Frames.andThen]⟩

/-- The count of the flights raises. -/
def lost : RetrievalOutcome := ⟨⟨true, fun _ => false⟩, .succeeds⟩

theorem countEntriesInTable_lost {ρ : Type} (t : Option (List ρ)) :
    AirlineReservation.countEntriesInTable lost.count t =
      (toSizeT (-1), ["Error counting entries: "]) := by
  simp [AirlineReservation.countEntriesInTable, countRaises, lost]

/-- A frame that returns would have ended in an error, with the same stored, had the
count of the flights raised. -/
theorem guiMain_lost {outcomes : SqlOutcomes} {listing : RetrievalOutcome} {db' : Database}
    {gui' : Gui}
    (h : Frames.guiMain datetimeToInt ⟨input, listing, outcomes⟩ x gui = (db', .ok gui')) :
    Frames.guiMain datetimeToInt ⟨input, lost, outcomes⟩ x gui = (db', .error .lengthError) := by
  obtain ⟨db₂, managed, hmanaged, hselect⟩ := andThen_ok h
  have hsame : Frames.andThen (Frames.andThen (x, Frames.seatMapGUI input gui)
      (Frames.createBookings ⟨input, lost, outcomes⟩))
      (Frames.manageBookings ⟨input, lost, outcomes⟩) = (db₂, .ok managed) := hmanaged
  obtain ⟨_, hdb, _⟩ := selectFlight_performs hselect
  have hlist : (AirlineReservation.getFlightsInfo datetimeToInt db₂ lost).result =
      .error .lengthError :=
    retrieve_of_reserve_error _ _ lost _ (countEntriesInTable_lost db₂.flights)
      RetrievalErrors.reserve_sentinel
  rw [Frames.guiMain, hsame, hdb]
  simp only [Frames.andThen, Frames.selectFlight, hlist]

/-- Whatever the calls of a frame do, they do what a frame on atomic transactions does, and
one that ends the process ends in an error there. -/
theorem ends_guiMain (hsound : Sound x gui.session) {engine : Engine Database}
    (hstore : engine.store = ⟨x, none⟩) :
    Ends (guiMain datetimeToInt input gui) engine
      (fun gui' e => e.store.working = none ∧ ∃ frame, frame.input = input ∧
        Frames.guiMain datetimeToInt frame x gui = (e.store.stored, .ok gui'))
      (fun _ e => ∃ frame f, frame.input = input ∧
        Frames.guiMain datetimeToInt frame x gui = (e.store.stored, .error f)) := by
  refine (refines_guiMain datetimeToInt input hsound engine hstore).mono ?_ ?_
  · intro gui' e hreturn
    obtain ⟨hclosed, o, ho⟩ := hreturn
    exact ⟨hclosed, ⟨input, o.1, o.2⟩, rfl, ho⟩
  · intro stop e hstop
    obtain ⟨o, hstored, _⟩ := hstop
    obtain ⟨x', result⟩ : ∃ result, Frames.guiMain datetimeToInt ⟨input, o.1, o.2⟩ x gui =
      (e.store.stored, result) := ⟨_, Prod.ext hstored rfl⟩
    cases x' with
    | error f => exact ⟨⟨input, o.1, o.2⟩, f, rfl, result⟩
    | ok gui' =>
      exact ⟨⟨input, lost, o.2⟩, .lengthError, rfl, guiMain_lost datetimeToInt input result⟩

end Guimain

/-- The process on calls beside the window on atomic transactions: the same database is
stored and, while they are alive, they have the same window. -/
def Matches (app : EngineApp) (app' : GuiApp) : Prop :=
  app.engine.store.stored = app'.db ∧
    match app.gui with
    | .ok gui => app.engine.store.working = none ∧ app'.gui = .ok gui ∧ Sound app'.db gui.session
    | .error _ => ∃ e, app'.gui = .error e

theorem matches_start {db : Database} (hints : Ints db) (script : List (Option Failure)) :
    Matches (EngineApp.start db script) (GuiApp.start db) :=
  ⟨rfl, rfl, rfl, hints, Session.valid_start, fun _ hactive => by contradiction⟩

theorem matches_step (datetimeToInt : String → ℤ) :
    Simulation.Follows (EngineApp.step datetimeToInt) (GuiApp.step datetimeToInt)
      (fun input frame => frame.input = input) Matches := by
  intro app app' input hmatches
  obtain ⟨⟨store, script⟩, window⟩ := app
  obtain ⟨hstored, hwindow⟩ := hmatches
  cases window with
  | error stop =>
    obtain ⟨e, he⟩ := hwindow
    refine ⟨⟨input, .succeeds, .succeed⟩, rfl, ?_⟩
    rw [GuiApp.step_dead datetimeToInt he]
    exact ⟨hstored, e, he⟩
  | ok gui =>
    obtain ⟨hclosed, hgui, hsound⟩ := hwindow
    have hstore : store = ⟨app'.db, none⟩ := by
      rw [← hstored, ← hclosed]
    let engine : Engine Database := ⟨store, script⟩
    have hends := ends_guiMain datetimeToInt input hsound (show engine.store = _ from hstore)
    unfold Ends at hends
    simp only [EngineApp.step]
    cases hrun : guiMain datetimeToInt input gui ⟨store, script⟩ with
    | ok gui' e =>
      rw [hrun] at hends
      obtain ⟨hworking, frame, hinput, hframe⟩ := hends
      refine ⟨frame, hinput, ?_⟩
      rw [GuiApp.step_live datetimeToInt hgui, hframe]
      exact ⟨rfl, hworking, rfl, hsound.guiMain hframe⟩
    | error stop e =>
      rw [hrun] at hends
      obtain ⟨frame, f, hinput, hframe⟩ := hends
      refine ⟨frame, hinput, ?_⟩
      rw [GuiApp.step_live datetimeToInt hgui, hframe]
      exact ⟨rfl, f, rfl⟩

def listedRow : FlightRow := ⟨"AA123", "Boston", "Chicago", "", "", "bookingAA123", 1, 1⟩

def listedDatabase : Database :=
  ({ Database.empty with flights := some [listedRow] }).setBookingTable "BookingAA123"
    [⟨"Ann", "", "20", 0, 0⟩]

theorem ints_listedDatabase : Ints listedDatabase := by
  refine ⟨?_, ?_⟩
  · intro rows hrows row hrow
    cases Option.some.inj hrows
    cases List.mem_singleton.mp hrow
    simp [IsInt, listedRow]
  · intro tableName t ht b hb
    rcases Database.bookingTable_setBookingTable_cases _ _ _ ht with hold | ⟨_, rfl⟩
    · unfold Database.bookingTable at hold
      cases htable : tableKey tableName with
      | none => simp [htable] at hold
      | some key => simp [htable, Database.empty] at hold
    · cases List.mem_singleton.mp hb
      simp [IsInt]

end AirlineReservation.Statements
