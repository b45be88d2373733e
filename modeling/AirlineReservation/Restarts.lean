import AirlineReservation.Retention
import AirlineReservation.StatementRuns

/-!
The program ended and started again, any number of times. Whatever ended it, a kill in
the middle of a save included, the next start finds what is stored and nothing else.
In every such run each stored row is one that somebody booked, no seat has two, and
the row of a seat stays until Delete is pressed for it.
-/

namespace AirlineReservation.Restarts

open Statements Transactions Provenance Retention FrameWrites
open Interleaving (UniqueTables)
open Frames hiding andThen

/-- A frame, or the end of the program and its next start. -/
inductive Event
  | frame (input : Input)
  | restart (script : List (Option Failure))

variable (datetimeToInt : String → ℤ)

def step (app : EngineApp) : Event → EngineApp
  | .frame input => app.step datetimeToInt input
  | .restart script => EngineApp.start app.engine.store.stored script

section Frame

variable {P : List Char → BookingInformation → Prop} {db : Database} {gui : Gui} (frame : Frame)

theorem guiMain_drawn {drawn : Gui} (hdraw : seatMapGUI frame.input gui = .ok drawn) :
    Frames.guiMain datetimeToInt frame db gui =
      SharedWindows.panels datetimeToInt frame db drawn := by
  simp only [Frames.guiMain, Frames.andThen, hdraw, SharedWindows.panels]

theorem guiMain_undrawn {e : Fault} (hdraw : seatMapGUI frame.input gui = .error e) :
    Frames.guiMain datetimeToInt frame db gui = (db, .error e) := by
  simp only [Frames.guiMain, Frames.andThen, hdraw]

theorem keeps_guiMain (h : Stored P db) (hgui : ShownIn P gui.session)
    (hcut : ∀ key b, P key b → P key (cut b)) (henters : Enters P frame.input gui) :
    Provenance.Keeps P (fun gui' => ShownIn P gui'.session)
      (Frames.guiMain datetimeToInt frame db gui) := by
  cases hdraw : seatMapGUI frame.input gui with
  | error e =>
    rw [guiMain_undrawn datetimeToInt frame hdraw]
    exact .error h e
  | ok drawn =>
    rw [guiMain_drawn datetimeToInt frame hdraw]
    exact keeps_panels h (hgui.drawn hdraw) frame datetimeToInt (henters.drawn hdraw)
      (hgui.refilled hdraw hcut)

theorem kept_guiMain {deletes : Prop} {I : Database → Prop} (h : Kept deletes I) (hdb : I db)
    (hinput : frame.input = .pressed .delete → deletes) :
    I (Frames.guiMain datetimeToInt frame db gui).1 := by
  cases hdraw : seatMapGUI frame.input gui with
  | error e =>
    rw [guiMain_undrawn datetimeToInt frame hdraw]
    exact hdb
  | ok drawn =>
    rw [guiMain_drawn datetimeToInt frame hdraw]
    exact h.panels hdb frame drawn datetimeToInt hinput

/-- The flights are listed as before. -/
theorem flights_guiMain :
    (Frames.guiMain datetimeToInt frame db gui).1.flights = db.flights := by
  have hkept : Kept True fun x => x.flights = db.flights := by
    refine ⟨?_, ?_⟩
    · intro s tableName outcome k x hx
      exact (onlyTable_insertBookingSeat s x tableName outcome k).flights.trans hx
    · intro _ x tableName r c raises hx
      exact (onlyTable_deleteBookingData x tableName r c raises).flights.trans hx
  exact kept_guiMain datetimeToInt frame hkept rfl fun _ => trivial

/-- The row and the column of a booking are ints, when its table has a name. -/
def IntSeat (key : List Char) (b : BookingInformation) : Prop :=
  ∀ tableName, tableKey tableName = some key → IsInt b.row ∧ IsInt b.col

theorem intSeats_stored (h : Ints db) : Stored IntSeat db := by
  intro key t ht b hb tableName hkey
  refine h.bookings tableName t ?_ b hb
  rw [Database.bookingTable, hkey]
  exact ht

theorem isInt_of_inRange {s : SeatMap} (hrows : IsInt s.rows) (hcols : IsInt s.cols) {r c : ℤ}
    (hin : s.InRange r c) : IsInt r ∧ IsInt c := by
  obtain ⟨hr, hrlt, hc, hclt⟩ := hin
  exact isInt_of_mem_seats hrows hcols ((mem_seats s r c).mpr ⟨hr, hrlt, hc, hclt⟩)

theorem intSeats_shown (h : Sound db gui.session) : ShownIn IntSeat gui.session := by
  intro flight hactive
  obtain ⟨hrows, hcols⟩ := h.whole flight hactive
  have hvalid := h.valid flight hactive
  refine ⟨hvalid, ?_⟩
  intro key _ r c x hx _ tableName _
  exact isInt_of_inRange hrows hcols (hvalid.shaped.inRange_of_cell? hx)

theorem intSeats_entered (h : Sound db gui.session) (input : Input) : Enters IntSeat input gui := by
  intro _ flight key hactive _ havailable tableName _
  obtain ⟨hrows, hcols⟩ := h.whole flight hactive
  have hin : flight.seatMap.InRange gui.session.selectedRowCol.1
      gui.session.selectedRowCol.2 := by
    by_contra hout
    rw [SeatMap.isSeatAvailable_of_not_inRange hout] at havailable
    cases havailable
  exact isInt_of_inRange hrows hcols hin

/-- Also a frame that ends the process leaves whole numbers that C++ can read. -/
theorem ints_guiMain (h : Sound db gui.session) :
    Ints (Frames.guiMain datetimeToInt frame db gui).1 := by
  have hkeeps := keeps_guiMain datetimeToInt frame (intSeats_stored h.ints) (intSeats_shown h)
    (fun _ _ hb => hb) (intSeats_entered h frame.input)
  refine ⟨?_, ?_⟩
  · rw [flights_guiMain]
    exact h.ints.flights
  · intro tableName t ht b hb
    obtain ⟨key, hkey⟩ := Database.tableKey_of_bookingTable _ tableName ht
    exact hkeeps.stored.of_bookingTable ht hkey b hb tableName hkey

end Frame

variable {P : List Char → BookingInformation → Prop} {app : EngineApp} {app' : GuiApp}

/-- The two are the same as far as atomic transactions go, and every stored row and every
taken seat is such a booking. -/
structure Beside (P : List Char → BookingInformation → Prop) (app : EngineApp) (app' : GuiApp) :
    Prop where
  matched : Matches app app'
  ints : Ints app'.db
  stored : Stored P app'.db
  shown : ∀ gui, app'.gui = .ok gui → ShownIn P gui.session

theorem Beside.stored_eq (h : Beside P app app') : app.engine.store.stored = app'.db :=
  h.matched.1

theorem Beside.mono {Q : List Char → BookingInformation → Prop} (h : Beside P app app')
    (himp : ∀ key b, P key b → Q key b) : Beside Q app app' :=
  ⟨h.matched, h.ints, h.stored.mono himp, fun gui hgui => (h.shown gui hgui).mono himp⟩

/-- While the one is alive, so is the other, with the same window. -/
theorem Beside.gui_eq (h : Beside P app app') {gui : Gui} (hgui : app'.gui = .ok gui) :
    app.gui = .ok gui ∧ Sound app'.db gui.session := by
  obtain ⟨_, hwindow⟩ := h.matched
  cases happ : app.gui with
  | error stop =>
    rw [happ] at hwindow
    obtain ⟨e, he⟩ := hwindow
    cases hgui.symm.trans he
  | ok gui' =>
    rw [happ] at hwindow
    obtain ⟨_, hgui', hsound⟩ := hwindow
    cases hgui.symm.trans hgui'
    exact ⟨rfl, hsound⟩

theorem Beside.shownIn (h : Beside P app app') {gui : Gui} (hgui : app.gui = .ok gui) :
    ShownIn P gui.session := by
  obtain ⟨_, hwindow⟩ := h.matched
  rw [hgui] at hwindow
  exact h.shown gui hwindow.2.1

theorem beside_start {db : Database} (hints : Ints db) (h : Stored P db)
    (script : List (Option Failure)) :
    Beside P (EngineApp.start db script) (GuiApp.start db) := by
  refine ⟨matches_start hints script, hints, h, ?_⟩
  intro gui hgui flight hactive
  cases Except.ok.inj hgui
  contradiction

/-- What is stored is all that a restart finds. -/
theorem Beside.restart (h : Beside P app app') (script : List (Option Failure)) :
    Beside P (EngineApp.start app.engine.store.stored script) (GuiApp.start app'.db) := by
  rw [h.stored_eq]
  exact beside_start h.ints h.stored script

theorem Beside.frame (h : Beside P app app') (hcut : ∀ key b, P key b → P key (cut b))
    (input : Input) (henters : ∀ gui, app.gui = .ok gui → Enters P input gui) :
    ∃ frame, frame.input = input ∧
      Beside P (app.step datetimeToInt input) (app'.step datetimeToInt frame) := by
  obtain ⟨frame, hinput, hmatched⟩ := matches_step datetimeToInt app app' input h.matched
  refine ⟨frame, hinput, ?_⟩
  cases hgui : app'.gui with
  | error e =>
    rw [GuiApp.step_dead datetimeToInt hgui] at hmatched ⊢
    exact ⟨hmatched, h.ints, h.stored, h.shown⟩
  | ok gui =>
    obtain ⟨happ, hsound⟩ := h.gui_eq hgui
    have hkeeps := keeps_guiMain datetimeToInt frame h.stored (h.shown gui hgui) hcut
      (hinput ▸ henters gui happ)
    rw [GuiApp.step_live datetimeToInt hgui] at hmatched ⊢
    exact ⟨hmatched, ints_guiMain datetimeToInt frame hsound, hkeeps.stored, hkeeps.returned⟩

/-- In this event b is taken from the buffers of Book for the table with this key. -/
def Books (app : EngineApp) (event : Event) (key : List Char) (b : BookingInformation) : Prop :=
  ∃ gui flight, event = .frame (.pressed .book) ∧ app.gui = .ok gui ∧
    gui.session.activeFlight = some flight ∧ tableKey ("Booking" ++ flight.flightID) = some key ∧
    flight.seatMap.isSeatAvailable b.row b.col = .ok true ∧
    b = bookingOf gui.create gui.session.selectedRowCol

/-- How a booking can come into the file, over any number of restarts. -/
def Origin (db : Database) (script : List (Option Failure)) (events : List Event) :
    List Char → BookingInformation → Prop :=
  Run.Origin (step datetimeToInt) (fun key b => ∃ t, db.bookings key = some t ∧ b ∈ t) Books cut
    (EngineApp.start db script) events

theorem beside_step (h : Beside P app app') (hcut : ∀ key b, P key b → P key (cut b))
    (event : Event) (hbooks : ∀ key b, Books app event key b → P key b) :
    ∃ app'', Beside P (step datetimeToInt app event) app'' := by
  cases event with
  | restart script => exact ⟨_, h.restart script⟩
  | frame input =>
    obtain ⟨frame, _, hbeside⟩ := h.frame datetimeToInt hcut input fun gui hgui => by
      intro hinput flight key hactive hkey havailable
      exact hbooks key _ ⟨gui, flight, by rw [hinput], hgui, hactive, hkey, havailable, rfl⟩
    exact ⟨_, hbeside⟩

/-- Every stored row, and every taken seat of a window that is alive. -/
structure EverythingIs (P : List Char → BookingInformation → Prop) (app : EngineApp) : Prop where
  stored : Stored P app.engine.store.stored
  shown : ∀ gui, app.gui = .ok gui → ShownIn P gui.session

/-- On flights whose ids are names. -/
theorem originates_over_restarts {db : Database} (hints : Ints db) (_hnamed : db.NamedFlights)
    (script : List (Option Failure)) (events : List Event) :
    EverythingIs (Origin datetimeToInt db script events)
      (Run.run (step datetimeToInt) (EngineApp.start db script) events) := by
  suffices hbeside : ∃ app', Beside (Origin datetimeToInt db script events)
      (Run.run (step datetimeToInt) (EngineApp.start db script) events) app' by
    obtain ⟨app', h⟩ := hbeside
    refine ⟨?_, fun gui hgui => h.shownIn hgui⟩
    rw [h.stored_eq]
    exact h.stored
  refine Run.originates (step datetimeToInt) _ Books cut (fun P app => ∃ app', Beside P app app')
    ?_ ?_ ?_ events
  · intro P Q app h himp
    obtain ⟨app', h⟩ := h
    exact ⟨app', h.mono himp⟩
  · intro P app event h hcut hbooks
    obtain ⟨app', h⟩ := h
    exact beside_step datetimeToInt h hcut event hbooks
  · exact ⟨_, beside_start hints (fun key t ht b hb => ⟨t, ht, hb⟩) script⟩

/-- Ann's booking is updated, the process is killed at the commit, and the program is
started again. -/
def killedUpdate : List Event :=
  [.restart (List.replicate 22 none ++ [some .kill]), .frame (.pressed (.select 0)),
    .frame (.pressed .update), .restart []]

theorem killed_originates :
    EverythingIs (Origin (fun _ => 0) listedDatabase [] killedUpdate)
      (Run.run (step fun _ => 0) (EngineApp.start listedDatabase []) killedUpdate) :=
  originates_over_restarts _ ints_listedDatabase (by decide) [] killedUpdate

/-- In this event Delete is pressed for the seat, in a window on the table with this key. -/
def Deletes (key : List Char) (k : ℤ × ℤ) (app : EngineApp) (event : Event) : Prop :=
  ∃ gui flight, event = .frame (.pressed .delete) ∧ app.gui = .ok gui ∧
    gui.session.activeFlight = some flight ∧ tableKey ("Booking" ++ flight.flightID) = some key ∧
    gui.session.selectedRowCol = k ∧ flight.seatMap.isSeatAvailable k.1 k.2 = .ok false

/-- What is stored after an event is what was, or what a frame on transactions leaves. -/
theorem Beside.step_stored (h : Beside P app app') (event : Event) :
    (step datetimeToInt app event).engine.store.stored = app.engine.store.stored ∨
      ∃ gui frame, event = .frame frame.input ∧ app.gui = .ok gui ∧ ShownIn P gui.session ∧
        (step datetimeToInt app event).engine.store.stored =
          (Frames.guiMain datetimeToInt frame app.engine.store.stored gui).1 := by
  cases event with
  | restart script => exact .inl rfl
  | frame input =>
    obtain ⟨frame, rfl, hmatched⟩ := matches_step datetimeToInt app app' input h.matched
    cases hgui : app'.gui with
    | error e =>
      rw [GuiApp.step_dead datetimeToInt hgui] at hmatched
      exact .inl (hmatched.1.trans h.stored_eq.symm)
    | ok gui =>
      rw [GuiApp.step_live datetimeToInt hgui] at hmatched
      refine .inr ⟨gui, frame, rfl, (h.gui_eq hgui).1, h.shown gui hgui, ?_⟩
      rw [h.stored_eq]
      exact hmatched.1

theorem kept_uniqueTables : Kept True UniqueTables := by
  refine ⟨?_, ?_⟩
  · intro s tableName outcome k db h
    rcases insertBookingSeat_db s db tableName outcome k with
      hsame | ⟨t, b, ht, _, _, _, _, _, _, hset⟩
    · rwa [hsame]
    · rw [hset]
      exact h.setBookingTable _ (RowTable.Unique.upsert BookingInformation.seat
        (h.bookingTable ht) b)
  · intro _ db tableName r c raises h
    cases ht : db.bookingTable tableName with
    | none => rwa [deleteBookingData_missing ht]
    | some t =>
      rw [deleteBookingData_eq ht]
      apply h.setBookingTable
      split
      · exact h.bookingTable ht
      · exact RowTable.Unique.deleteAt BookingInformation.seat (h.bookingTable ht) (r, c)

theorem Beside.uniqueTables (h : Beside P app app')
    (hunique : UniqueTables app.engine.store.stored) (event : Event) :
    UniqueTables (step datetimeToInt app event).engine.store.stored := by
  rcases h.step_stored datetimeToInt event with hsame | ⟨gui, frame, _, _, _, hstored⟩
  · rwa [hsame]
  · rw [hstored]
    exact kept_guiMain datetimeToInt frame kept_uniqueTables hunique fun _ => trivial

theorem Beside.hasRow {key : List Char} {k : ℤ × ℤ} (h : Beside (fun _ _ => True) app app')
    (hrow : HasRow key k app.engine.store.stored) {event : Event}
    (hdeletes : ¬ Deletes key k app event) :
    HasRow key k (step datetimeToInt app event).engine.store.stored := by
  rcases h.step_stored datetimeToInt event with hsame | ⟨gui, frame, hevent, hgui, hshown, hstored⟩
  · rwa [hsame]
  · rw [hstored]
    by_cases hinput : frame.input = .pressed .delete
    · cases hdraw : seatMapGUI frame.input gui with
      | error e =>
        rw [guiMain_undrawn datetimeToInt frame hdraw]
        exact hrow
      | ok drawn =>
        rw [guiMain_drawn datetimeToInt frame hdraw, hasRow_panels hrow datetimeToInt hinput hdraw
          hshown]
        intro hdelete
        obtain ⟨gui', _, flight, hw, _, _, hactive, hkey, hseat, hfree, _⟩ := hdelete
        cases hw
        exact hdeletes ⟨gui, flight, by rw [hevent, hinput], hgui, hactive, hkey, hseat, hfree⟩
    · exact kept_guiMain datetimeToInt frame kept_hasRow hrow hinput

/-- What holds in every state that is reached. -/
structure Inv (app : EngineApp) : Prop where
  beside : ∃ app', Beside (fun _ _ => True) app app'
  unique : UniqueTables app.engine.store.stored

theorem Inv.step (h : Inv app) (event : Event) : Inv (step datetimeToInt app event) := by
  obtain ⟨app', hbeside⟩ := h.beside
  exact ⟨beside_step datetimeToInt hbeside (fun _ _ htrue => htrue) event fun _ _ _ => trivial,
    hbeside.uniqueTables datetimeToInt h.unique event⟩

theorem inv_run {db : Database} (hints : Ints db) (hunique : UniqueTables db)
    (script : List (Option Failure)) (events : List Event) :
    Inv (Run.run (Restarts.step datetimeToInt) (EngineApp.start db script) events) := by
  have hstart : Inv (EngineApp.start db script) :=
    ⟨⟨_, beside_start hints (fun _ _ _ _ _ => trivial) script⟩, hunique⟩
  refine (Run.throughout_of_forall (Restarts.step datetimeToInt) Inv (fun _ => True) ?_ _ events
    hstart fun _ _ => trivial).final
  exact fun app event h _ => h.step datetimeToInt event

theorem exists_row {db : Database} {key : List Char} {k : ℤ × ℤ} (hunique : UniqueTables db)
    (hrow : HasRow key k db) :
    ∃ t b, db.bookings key = some t ∧ RowTable.rowsAt BookingInformation.seat k t = [b] := by
  obtain ⟨t, ht, hrows⟩ := hrow
  have hlength := hunique key t ht k
  have hpos := List.length_pos_iff.mpr hrows
  obtain ⟨b, hb⟩ := List.length_eq_one_iff.mp (le_antisymm hlength hpos)
  exact ⟨t, b, ht, hb⟩

theorem uniqueTables_listedDatabase : UniqueTables listedDatabase := by
  refine UniqueTables.setBookingTable (fun _ _ ht => by contradiction) _ ?_
  decide

/-- From every state that is reached on flights whose ids are names, a booked seat has exactly
one row, over any number of restarts, until Delete is pressed for it. -/
theorem one_row_until_deleted {db : Database} (hints : Ints db) (_hnamed : db.NamedFlights)
    (hunique : UniqueTables db)
    (script : List (Option Failure)) (before events : List Event) {key : List Char} {k : ℤ × ℤ}
    (hrow : HasRow key k
      (Run.run (step datetimeToInt) (EngineApp.start db script) before).engine.store.stored)
    (hdeletes : Run.EveryStep (step datetimeToInt) (fun app event => ¬ Deletes key k app event)
      (Run.run (step datetimeToInt) (EngineApp.start db script) before) events) :
    Run.Throughout (step datetimeToInt)
      (fun app => ∃ t b, app.engine.store.stored.bookings key = some t ∧
        RowTable.rowsAt BookingInformation.seat k t = [b])
      (Run.run (step datetimeToInt) (EngineApp.start db script) before) events := by
  have hinv := inv_run datetimeToInt hints hunique script before
  have hthrough := Run.throughout_of_everyStep (step datetimeToInt)
    (fun app => Inv app ∧ HasRow key k app.engine.store.stored) _
    (fun app event h hkept => ?_) _ events ⟨hinv, hrow⟩ hdeletes
  · intro pre hpre
    obtain ⟨h, hkept⟩ := hthrough pre hpre
    exact exists_row h.unique hkept
  · obtain ⟨app', hbeside⟩ := h.1.beside
    exact ⟨h.1.step datetimeToInt event, hbeside.hasRow datetimeToInt h.2 hkept⟩

/-- After a restart no flight is active, and Delete does nothing. -/
theorem row_kept_after_restart :
    Run.Throughout (step fun _ => 0)
      (fun app => ∃ t b, app.engine.store.stored.bookings "bookingaa123".toList = some t ∧
        RowTable.rowsAt BookingInformation.seat (0, 0) t = [b])
      (EngineApp.start listedDatabase [])
      [.frame (.pressed (.select 0)), .restart [some .kill], .frame (.pressed .delete)] := by
  refine one_row_until_deleted (fun _ => 0) ints_listedDatabase (by decide)
    uniqueTables_listedDatabase [] [] _ ⟨[⟨"Ann", "", "20", 0, 0⟩], by decide +kernel, by decide⟩ ?_
  rw [Run.everyStep_cons, Run.everyStep_cons, Run.everyStep_cons]
  refine ⟨?_, ?_, ?_, Run.everyStep_nil _ _ _⟩
  · intro hdeletes
    obtain ⟨_, _, hevent, _⟩ := hdeletes
    cases hevent
  · intro hdeletes
    obtain ⟨_, _, hevent, _⟩ := hdeletes
    cases hevent
  · intro hdeletes
    obtain ⟨gui, flight, _, hgui, hactive, _⟩ := hdeletes
    cases Except.ok.inj hgui
    contradiction

end AirlineReservation.Restarts
