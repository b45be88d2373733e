import AirlineReservation.OwnFlights
import AirlineReservation.RetrievalErrors
import AirlineReservation.WidgetFrames

/-!
Which flights can be selected. All Select buttons of a frame have one label, made
from the active flight and not from the listed one, and so one identifier. With the
mouse the first of them takes every release. The keyboard presses all that are drawn,
and the last one is left active. No other flight becomes active, and its bookings are
never changed.
-/

namespace AirlineReservation.Widgets

open Frames Buttons OwnFlights

/-- The identifier of every Select button. -/
def selectId (flightId : String) : Id := getID "Select Flight" (btnCodeLabel flightId)

section Select

variable {frame : WidgetFrame} {flightId : String}

theorem press_select (index : ℕ) (g : Context Id) :
    frame.press (.select index) (btnCodeLabel flightId) g =
      button frame.io (frame.item (.select index)) (selectId flightId) g
        (frame.skipItems "Select Flight") := rfl

/-- No Select button of this frame can be pressed any more. -/
def Passed (frame : WidgetFrame) (flightId : String) (g : Context Id) : Prop :=
  frame.skipItems "Select Flight" = true ∨ ¬ Releasable frame.io (selectId flightId) g

theorem press_passed (hnav : ¬ NavPressed frame.io (selectId flightId)) {g : Context Id}
    (h : Passed frame flightId g) (index : ℕ) :
    (frame.press (.select index) (btnCodeLabel flightId) g).1 = false ∧
      Passed frame flightId (frame.press (.select index) (btnCodeLabel flightId) g).2 := by
  simp only [press_select]
  rcases h with hskip | hnot
  · rw [hskip]
    exact ⟨rfl, Or.inl hskip⟩
  · obtain ⟨hpressed, hafter⟩ := button_not_releasable hnav hnot
    exact ⟨hpressed, Or.inr hafter⟩

/-- One of them is drawn. -/
theorem passed_after (hnav : ¬ NavPressed frame.io (selectId flightId)) (index : ℕ)
    (g : Context Id) :
    Passed frame flightId (frame.press (.select index) (btnCodeLabel flightId) g).2 := by
  simp only [press_select]
  cases hskip : frame.skipItems "Select Flight" with
  | true => exact Or.inl hskip
  | false => exact Or.inr (not_releasable_after hnav)

theorem selectButtons_passed (hnav : ¬ NavPressed frame.io (selectId flightId)) (db : Database)
    (flightsInformation : List FlightInformation) (index : ℕ) (gui : Gui) {g : Context Id}
    (h : Passed frame flightId g) :
    ∃ g', selectButtons frame db flightId flightsInformation index gui g = .ok (gui, g') := by
  induction flightsInformation generalizing index g with
  | nil => exact ⟨g, rfl⟩
  | cons flightInformation rest ih =>
    obtain ⟨hpressed, hafter⟩ := press_passed hnav h index
    obtain ⟨g', hrest⟩ := ih (index + 1) hafter
    refine ⟨g', ?_⟩
    simp only [selectButtons, hpressed]
    exact hrest

/-- The window after a Select of this flight. -/
def Selected (db : Database) (flightInformation : FlightInformation) (gui' : Gui) : Prop :=
  ∃ outcomes session, selectPressed outcomes db flightInformation session = .ok gui'.session

/-- Without the keyboard only the first is ever pressed. -/
theorem selectButtons_mouse (hnav : ¬ NavPressed frame.io (selectId flightId)) {db : Database}
    {flightsInformation : List FlightInformation} {index : ℕ} {gui gui' : Gui}
    {g g' : Context Id}
    (h : selectButtons frame db flightId flightsInformation index gui g = .ok (gui', g')) :
    gui' = gui ∨ ∃ f, flightsInformation.head? = some f ∧ Selected db f gui' := by
  cases flightsInformation with
  | nil =>
    cases h
    exact Or.inl rfl
  | cons flightInformation rest =>
    have hpassed := passed_after hnav index g
    simp only [selectButtons] at h
    split at h
    · obtain ⟨session, hselect, h⟩ := exists_of_bind_ok h
      obtain ⟨g₁, hrest⟩ := selectButtons_passed hnav db rest (index + 1)
        { gui with session := session } hpassed
      rw [hrest] at h
      cases h
      exact Or.inr ⟨flightInformation, rfl, _, _, hselect⟩
    · obtain ⟨g₁, hrest⟩ := selectButtons_passed hnav db rest (index + 1) gui hpassed
      rw [hrest] at h
      cases h
      exact Or.inl rfl

/-- Once the keyboard has pressed one it presses all that follow. -/
theorem selectButtons_shown (hnav : NavPressed frame.io (selectId flightId))
    (hskip : frame.skipItems "Select Flight" = false) {db : Database}
    {flightsInformation : List FlightInformation} {index : ℕ} {gui gui' : Gui}
    {g g' : Context Id} (hshown : g.navId = some (selectId flightId))
    (h : selectButtons frame db flightId flightsInformation index gui g = .ok (gui', g')) :
    (flightsInformation = [] ∧ gui' = gui) ∨
      ∃ f, flightsInformation.getLast? = some f ∧ Selected db f gui' := by
  induction flightsInformation generalizing index gui g with
  | nil =>
    cases h
    exact Or.inl ⟨rfl, rfl⟩
  | cons flightInformation rest ih =>
    obtain ⟨hpressed, hnext⟩ := button_nav_shown (frame.item (.select index)) hnav hshown
    rw [← hskip, ← press_select] at hpressed hnext
    simp only [selectButtons] at h
    rw [if_pos hpressed] at h
    obtain ⟨session, hselect, h⟩ := exists_of_bind_ok h
    refine Or.inr ?_
    rcases ih hnext h with ⟨rfl, rfl⟩ | ⟨f, hlast, hselected⟩
    · exact ⟨flightInformation, rfl, _, _, hselect⟩
    · exact ⟨f, by rw [List.getLast?_cons, hlast]; rfl, hselected⟩

/-- With the keyboard the last one is left. -/
theorem selectButtons_nav (hnav : NavPressed frame.io (selectId flightId)) {db : Database}
    {flightsInformation : List FlightInformation} {index : ℕ} {gui gui' : Gui}
    {g g' : Context Id}
    (h : selectButtons frame db flightId flightsInformation index gui g = .ok (gui', g')) :
    gui' = gui ∨ ∃ f, flightsInformation.getLast? = some f ∧ Selected db f gui' := by
  induction flightsInformation generalizing index g with
  | nil =>
    cases h
    exact Or.inl rfl
  | cons flightInformation rest ih =>
    have hstep : (frame.press (.select index) (btnCodeLabel flightId) g).1 = false ∨
        (frame.press (.select index) (btnCodeLabel flightId) g).1 = true ∧
          (frame.press (.select index) (btnCodeLabel flightId) g).2.navId =
            some (selectId flightId) ∧ frame.skipItems "Select Flight" = false := by
      simp only [press_select]
      cases hskip : frame.skipItems "Select Flight" with
      | true => exact Or.inl rfl
      | false =>
        rcases button_nav (frame.item (.select index)) g hnav with hclipped | hboth
        · exact Or.inl (by rw [hclipped])
        · exact Or.inr ⟨hboth.1, hboth.2, rfl⟩
    simp only [selectButtons] at h
    rcases hstep with hfalse | ⟨hpressed, hshown, hskip⟩
    · rw [hfalse] at h
      rcases ih h with hsame | ⟨f, hlast, hselected⟩
      · exact Or.inl hsame
      · exact Or.inr ⟨f, by rw [List.getLast?_cons, hlast]; rfl, hselected⟩
    · rw [if_pos hpressed] at h
      obtain ⟨session, hselect, h⟩ := exists_of_bind_ok h
      rcases selectButtons_shown hnav hskip hshown h with ⟨rfl, rfl⟩ | ⟨f, hlast, hselected⟩
      · exact Or.inr ⟨flightInformation, rfl, _, _, hselect⟩
      · exact Or.inr ⟨f, by rw [List.getLast?_cons, hlast]; rfl, hselected⟩

end Select

section Keeps

variable {ids : String → Prop} {db₀ db : Database}

def Drawn.Keeps (ids : String → Prop) (db₀ : Database) (drawn : Drawn) : Prop :=
  OwnFlights.Keeps ids db₀ drawn.1 (drawn.2.map fun window => window.1.session)

theorem keeps_andThen {drawn : Drawn} {next : Database → Gui → Context Id → Drawn}
    (h : drawn.Keeps ids db₀)
    (hnext : ∀ db gui g, Untouched ids db₀ db → ActiveIn ids gui.session →
      (next db gui g).Keeps ids db₀) : (andThen drawn next).Keeps ids db₀ := by
  obtain ⟨db, window⟩ := drawn
  cases window with
  | error e => exact h
  | ok window =>
    obtain ⟨gui, g⟩ := window
    exact hnext db gui g h.untouched (h.active gui.session rfl)

theorem keeps_withContext {gui : Gui} {result : Database × Except Fault Session} (g : Context Id)
    (h : Keeps ids db₀ result.1 result.2) :
    (withContext g (gui.after result)).Keeps ids db₀ := by
  obtain ⟨db, session⟩ := result
  cases session with
  | error e => exact .error h.untouched e
  | ok session => exact .ok h.untouched (h.active session rfl)

variable {frame : WidgetFrame} {gui : Gui} (g : Context Id) (h : Untouched ids db₀ db)
  (hactive : ActiveIn ids gui.session)

theorem drawSeats_active {flight : Flight} {seatLNum : ℕ} {row : List Bool} {label seatRNum : ℕ}
    {g g' : Context Id} {gui gui' : Gui}
    (h : drawSeats flight frame seatLNum row label seatRNum g gui = .ok (gui', g')) :
    gui'.session.activeFlight = gui.session.activeFlight := by
  induction row generalizing label seatRNum g gui with
  | nil =>
    cases h
    rfl
  | cons seat rest ih =>
    obtain ⟨gui₁, hseat, hrest⟩ := exists_of_bind_ok h
    have hkeep : gui₁.session = gui.session := by
      split at hseat
      · rw [Except.ok.inj hseat]
      · obtain ⟨_, _, _, buffers, _, _, _, rfl, _⟩ := refill_ok hseat
        rfl
    have hselect : ∀ pressed : Bool,
        (if pressed then gui₁.selectSeat seatLNum seatRNum else gui₁).session.activeFlight =
          gui₁.session.activeFlight := by
      intro pressed
      cases pressed <;> rfl
    exact ((ih hrest).trans (hselect _)).trans (congrArg Session.activeFlight hkeep)

theorem drawRows_active {flight : Flight} {rows : List (List Bool)} {label seatLNum : ℕ}
    {g g' : Context Id} {gui gui' : Gui}
    (h : drawRows flight frame rows label seatLNum g gui = .ok (gui', g')) :
    gui'.session.activeFlight = gui.session.activeFlight := by
  induction rows generalizing label seatLNum g gui with
  | nil =>
    cases h
    rfl
  | cons row rest ih =>
    obtain ⟨⟨gui₁, g₁⟩, hrow, hrest⟩ := exists_of_bind_ok h
    exact (ih hrest).trans (drawSeats_active hrow)

include h hactive

theorem keeps_seatMapGUI : (seatMapGUI frame db gui g).Keeps ids db₀ := by
  unfold seatMapGUI
  split
  · next flight hflight =>
    cases hrows : drawRows flight frame flight.seatMap.seatMap 0 0 g gui with
    | error e => exact .error h e
    | ok window =>
      obtain ⟨gui', g'⟩ := window
      refine .ok h ?_
      intro flight' hflight'
      exact hactive flight' ((drawRows_active hrows).symm.trans hflight')
  · exact .ok h hactive

theorem keeps_inputTexts (panel : Panel) : (inputTexts panel frame db gui g).Keeps ids db₀ := by
  refine .ok h ?_
  have hsame : (edited gui panel (frame.texts panel g).1).session = gui.session := by
    unfold edited
    split
    · rfl
    · cases panel <;> rfl
  simp only [hsame]
  exact hactive

theorem keeps_bookButton {flight : Flight} (hid : ids flight.flightID) :
    (bookButton flight frame db gui g).Keeps ids db₀ := by
  unfold bookButton
  simp only
  split
  · exact keeps_withContext _ (keeps_bookPressed _ h hid hactive _ _ _)
  · exact .ok h hactive

theorem keeps_createBookings : (createBookings frame db gui g).Keeps ids db₀ := by
  unfold createBookings
  split
  · exact .ok h hactive
  · next flight hflight =>
    exact keeps_andThen (keeps_inputTexts g h hactive .createBookings) fun _ _ g h' hactive' =>
      keeps_bookButton g h' hactive' (hactive flight hflight)

theorem keeps_updateButton {flight : Flight} (hid : ids flight.flightID) :
    (updateButton flight frame db gui g).Keeps ids db₀ := by
  unfold updateButton
  simp only
  split
  · exact keeps_withContext _ (keeps_updatePressed _ h hid _ _ _)
  · exact .ok h hactive

theorem keeps_deleteButton {flight : Flight} (hid : ids flight.flightID) :
    (deleteButton flight frame db gui g).Keeps ids db₀ := by
  unfold deleteButton
  simp only
  split
  · exact keeps_withContext _ (keeps_deletePressed _ h hid)
  · exact .ok h hactive

theorem keeps_belowUpdate : (belowUpdate frame db gui g).Keeps ids db₀ := by
  unfold belowUpdate
  split
  · exact .ok h hactive
  · next flight hflight => exact keeps_deleteButton g h hactive (hactive flight hflight)

theorem keeps_manageBookings : (manageBookings frame db gui g).Keeps ids db₀ := by
  unfold manageBookings
  split
  · exact .ok h hactive
  · next flight hflight =>
    split
    · exact .error h _
    · exact .ok h hactive
    · refine keeps_andThen (keeps_andThen (keeps_inputTexts g h hactive .manageBookings)
        fun _ _ g h' hactive' => keeps_updateButton g h' hactive' (hactive flight hflight)) ?_
      exact fun _ _ g h' hactive' => keeps_belowUpdate g h' hactive'

/-- The flights that a frame can make active. -/
def Selectable (frame : WidgetFrame) (flightId : String)
    (flightsInformation : List FlightInformation) (f : FlightInformation) : Prop :=
  flightsInformation.head? = some f ∨
    NavPressed frame.io (selectId flightId) ∧ flightsInformation.getLast? = some f

theorem keeps_selectFlight (datetimeToInt : String → ℤ) (flightId : String)
    (hselectable : ∀ flightsInformation f,
      (getFlightsInfo datetimeToInt db frame.listing).result = .ok flightsInformation →
      Selectable frame flightId flightsInformation f → ids f.flightID) :
    (selectFlight datetimeToInt flightId frame db gui g).Keeps ids db₀ := by
  unfold selectFlight
  split
  · exact .error h _
  · next flightsInformation hlist =>
    cases hbuttons : selectButtons frame db flightId flightsInformation 0 gui g with
    | error e => exact .error h e
    | ok window =>
      obtain ⟨gui', g'⟩ := window
      refine .ok h ?_
      have hresult : gui' = gui ∨
          ∃ f, Selectable frame flightId flightsInformation f ∧ Selected db f gui' := by
        by_cases hnav : NavPressed frame.io (selectId flightId)
        · rcases selectButtons_nav hnav hbuttons with hsame | ⟨f, hlast, hselected⟩
          · exact Or.inl hsame
          · exact Or.inr ⟨f, Or.inr ⟨hnav, hlast⟩, hselected⟩
        · rcases selectButtons_mouse hnav hbuttons with hsame | ⟨f, hfirst, hselected⟩
          · exact Or.inl hsame
          · exact Or.inr ⟨f, Or.inl hfirst, hselected⟩
      rcases hresult with rfl | ⟨f, hf, outcomes, session, hselect⟩
      · exact hactive
      · have hid := hselectable flightsInformation f hlist hf
        exact (keeps_selectPressed .refl outcomes session hid).active gui'.session hselect

end Keeps

/-- One frame. -/
theorem keeps_guiMain {ids : String → Prop} {db₀ db : Database} {frame : WidgetFrame} {gui : Gui}
    (g : Context Id) (h : Untouched ids db₀ db) (hactive : ActiveIn ids gui.session)
    (datetimeToInt : String → ℤ)
    (hselectable : ∀ db' flightsInformation f, db'.flights = db₀.flights →
      (getFlightsInfo datetimeToInt db' frame.listing).result = .ok flightsInformation →
      Selectable frame (flightId gui.session) flightsInformation f → ids f.flightID) :
    (guiMain datetimeToInt frame db gui g).Keeps ids db₀ := by
  refine keeps_andThen (keeps_andThen (keeps_andThen (keeps_andThen
    (keeps_seatMapGUI (frame.newFrame g) h hactive) ?_) ?_) ?_) ?_
  · exact fun _ _ _ h' hactive' => .ok h' hactive'
  · exact fun _ _ g h' hactive' => keeps_createBookings g h' hactive'
  · exact fun _ _ g h' hactive' => keeps_manageBookings g h' hactive'
  · intro db' _ g h' hactive'
    exact keeps_selectFlight g h' hactive' datetimeToInt _ fun list f =>
      hselectable db' list f h'.flights

def WidgetApp.Keeps (ids : String → Prop) (db₀ : Database) (app : WidgetApp) : Prop :=
  OwnFlights.Keeps ids db₀ app.db (app.window.map fun window => window.1.session)

theorem keeps_start (ids : String → Prop) (db : Database) : (WidgetApp.start db).Keeps ids db :=
  .ok .refl fun _ h => by contradiction

theorem keeps_step {ids : String → Prop} {db₀ : Database} {app : WidgetApp} {frame : WidgetFrame}
    (h : app.Keeps ids db₀) (datetimeToInt : String → ℤ)
    (hselectable : ∀ flightId db' flightsInformation f, db'.flights = db₀.flights →
      (getFlightsInfo datetimeToInt db' frame.listing).result = .ok flightsInformation →
      Selectable frame flightId flightsInformation f → ids f.flightID) :
    (app.step datetimeToInt frame).Keeps ids db₀ := by
  obtain ⟨db, window⟩ := app
  cases window with
  | error e => exact h
  | ok window =>
    obtain ⟨gui, g⟩ := window
    exact keeps_guiMain g h.untouched (h.active gui.session rfl) datetimeToInt (hselectable _)

/-- Only these flights can be active. The flights table and the bookings of every other
flight in it are as they were. -/
structure WidgetApp.OnlyOn (ids : String → Prop) (db₀ : Database) (app : WidgetApp) : Prop where
  active : ∀ gui g, app.window = .ok (gui, g) → ActiveIn ids gui.session
  flights : app.db.flights = db₀.flights
  others : ∀ rows ∈ db₀.flights, ∀ row ∈ rows, ¬ ids row.flightId →
    app.db.bookingTable ("Booking" ++ row.flightId) =
      db₀.bookingTable ("Booking" ++ row.flightId)

theorem WidgetApp.Keeps.onlyOn {ids : String → Prop} {db₀ : Database} {app : WidgetApp}
    (h : app.Keeps ids db₀) (hnamed : db₀.NamedFlights) (hdistinct : DistinctFlights db₀)
    (hids : ∀ id, ids id → ∃ rows, db₀.flights = some rows ∧ ∃ row ∈ rows, row.flightId = id) :
    app.OnlyOn ids db₀ := by
  refine ⟨?_, h.untouched.flights, ?_⟩
  · intro gui g hwindow
    exact h.active gui.session (by rw [hwindow]; rfl)
  · intro rows hrows row hrow hother
    refine h.untouched.other_flight hnamed hdistinct hrows ?_ hrow hother
    intro id hid
    obtain ⟨rows', hrows', hstored⟩ := hids id hid
    cases Option.some.inj (hrows'.symm.trans hrows)
    exact hstored

/-- A list that is shown is made of an initial part of the rows. -/
theorem listed_initial {datetimeToInt : String → ℤ} {db : Database} {listing : RetrievalOutcome}
    {flightsInformation : List FlightInformation}
    (h : (getFlightsInfo datetimeToInt db listing).result = .ok flightsInformation) :
    flightsInformation = [] ∨ ∃ rows read, db.flights = some rows ∧ read <+: rows ∧
      flightsInformation = read.map (FlightRow.information datetimeToInt) := by
  unfold getFlightsInfo retrieve at h
  simp only at h
  split at h
  · contradiction
  · rw [← Except.ok.inj h]
    unfold fetch
    split
    · exact Or.inl rfl
    · next rows hrows =>
      split
      · exact Or.inl rfl
      · exact Or.inr ⟨rows, _, hrows, fetchRows_initial _ 0 rows, rfl⟩

/-- Without failures it is made of all of them. -/
theorem listed_all {datetimeToInt : String → ℤ} {db : Database}
    {flightsInformation : List FlightInformation}
    (h : (getFlightsInfo datetimeToInt db .succeeds).result = .ok flightsInformation) :
    ∃ rows, db.flights = some rows ∧
      flightsInformation = rows.map (FlightRow.information datetimeToInt) := by
  cases hrows : db.flights with
  | none =>
    have hlost : (getFlightsInfo datetimeToInt db .succeeds).result = .error .lengthError := by
      rw [getFlightsInfo, hrows]
      exact retrieve_of_reserve_error _ _ .succeeds none rfl RetrievalErrors.reserve_sentinel
    rw [hlost] at h
    contradiction
  | some rows =>
    rw [getFlightsInfo, hrows, retrieve_succeeds] at h
    split at h
    · exact ⟨rows, rfl, (Except.ok.inj h).symm⟩
    · contradiction

/-- The flight in the first row. -/
def IsFirst (db : Database) (flightId : String) : Prop :=
  ∃ rows row, db.flights = some rows ∧ rows.head? = some row ∧ flightId = row.flightId

def IsLast (db : Database) (flightId : String) : Prop :=
  ∃ rows row, db.flights = some rows ∧ rows.getLast? = some row ∧ flightId = row.flightId

theorem IsFirst.stored {db : Database} {flightId : String} (h : IsFirst db flightId) :
    ∃ rows, db.flights = some rows ∧ ∃ row ∈ rows, row.flightId = flightId := by
  obtain ⟨rows, row, hrows, hrow, rfl⟩ := h
  exact ⟨rows, hrows, row, List.mem_of_mem_head? hrow, rfl⟩

theorem IsLast.stored {db : Database} {flightId : String} (h : IsLast db flightId) :
    ∃ rows, db.flights = some rows ∧ ∃ row ∈ rows, row.flightId = flightId := by
  obtain ⟨rows, row, hrows, hrow, rfl⟩ := h
  exact ⟨rows, hrows, row, List.mem_of_getLast? hrow, rfl⟩

theorem isFirst_of_head {datetimeToInt : String → ℤ} {db : Database} {listing : RetrievalOutcome}
    {flightsInformation : List FlightInformation} {f : FlightInformation}
    (h : (getFlightsInfo datetimeToInt db listing).result = .ok flightsInformation)
    (hf : flightsInformation.head? = some f) : IsFirst db f.flightID := by
  rcases listed_initial h with rfl | ⟨rows, read, hrows, hread, rfl⟩
  · contradiction
  · cases read with
    | nil => contradiction
    | cons row rest =>
      obtain ⟨later, rfl⟩ := hread
      cases hf
      exact ⟨_, row, hrows, rfl, rfl⟩

theorem isLast_of_getLast {datetimeToInt : String → ℤ} {db : Database}
    {flightsInformation : List FlightInformation} {f : FlightInformation}
    (h : (getFlightsInfo datetimeToInt db .succeeds).result = .ok flightsInformation)
    (hf : flightsInformation.getLast? = some f) : IsLast db f.flightID := by
  obtain ⟨rows, hrows, rfl⟩ := listed_all h
  rw [List.getLast?_map] at hf
  obtain ⟨row, hrow, rfl⟩ := Option.map_eq_some_iff.mp hf
  exact ⟨rows, row, hrows, hrow, rfl⟩

theorem first_flight_step {db : Database} {app : WidgetApp} {frame : WidgetFrame}
    (h : app.Keeps (IsFirst db) db) (datetimeToInt : String → ℤ)
    (hnav : frame.io.navActivateDownId = none) :
    (app.step datetimeToInt frame).Keeps (IsFirst db) db := by
  refine keeps_step h datetimeToInt ?_
  intro flightId db' flightsInformation f hflights hlist hselectable
  rcases hselectable with hfirst | ⟨hpressed, _⟩
  · obtain ⟨rows, row, hrows, hrow⟩ := isFirst_of_head hlist hfirst
    exact ⟨rows, row, hflights ▸ hrows, hrow⟩
  · have hdown := hpressed.1
    rw [hnav] at hdown
    contradiction

/-- With the mouse only the first flight can be selected, whatever fails, and no other
flight's bookings change. -/
theorem first_flight_by_mouse (datetimeToInt : String → ℤ) (db : Database)
    (hnamed : db.NamedFlights) (hdistinct : DistinctFlights db) (frames : List WidgetFrame)
    (hnav : ∀ frame ∈ frames, frame.io.navActivateDownId = none) :
    Run.Throughout (WidgetApp.step datetimeToInt) (WidgetApp.OnlyOn (IsFirst db) db)
      (WidgetApp.start db) frames := by
  have hkeeps := Run.throughout_of_forall (WidgetApp.step datetimeToInt)
    (WidgetApp.Keeps (IsFirst db) db) (fun frame => frame.io.navActivateDownId = none)
    (fun _ _ hkeeps hnone => first_flight_step hkeeps datetimeToInt hnone) _ frames
    (keeps_start _ db) hnav
  intro pre hpre
  exact (hkeeps pre hpre).onlyOn hnamed hdistinct fun _ hfirst => hfirst.stored

def threeFlights : Database :=
  let row (flightId : String) : FlightRow :=
    ⟨flightId, "Boston", "Chicago", "", "", "booking" ++ flightId, 1, 1⟩
  ((({ Database.empty with flights := some [row "AA1", row "BB2", row "CC3"] }).setBookingTable
    "BookingAA1" []).setBookingTable "BookingBB2" []).setBookingTable "BookingCC3" []

/-- The mouse goes down, or is up. -/
def mouseIo (down : Bool) : Io Id := ⟨down, down, id, false, none, none, none, none, none⟩

/-- The keyboard activates the Select buttons before a flight is active. -/
def selectKey : Io Id :=
  let id := selectId "No Flight Selected"
  ⟨false, false, fun h => h, false, some id, some id, some id, some id, none⟩

def exampleFrame (io : Io Id) (pointed : Button) : WidgetFrame where
  io := io
  skipItems := fun _ => false
  item := fun b => ⟨true, b = pointed, b = pointed⟩
  newFrame := id
  amadeusWindow := id
  texts := fun _ g => (none, g)
  listing := .succeeds
  outcomes := fun _ => .succeed

/-- A click on this button: the mouse goes down and up over it. -/
def clickFrames (pointed : Button) : List WidgetFrame :=
  [exampleFrame (mouseIo true) pointed, exampleFrame (mouseIo false) pointed]

def activeId (app : WidgetApp) : Option String :=
  match app.window with
  | .ok (gui, _) => gui.session.activeFlight.map Flight.flightID
  | .error _ => none

/-- A click on the third Select button does nothing. -/
theorem third_select_ignored :
    activeId (Run.run (WidgetApp.step fun _ => 0) (WidgetApp.start threeFlights)
      (clickFrames (.select 0))) = some "AA1" ∧
    activeId (Run.run (WidgetApp.step fun _ => 0) (WidgetApp.start threeFlights)
      (clickFrames (.select 2))) = none ∧
    Run.Throughout (WidgetApp.step fun _ => 0)
      (WidgetApp.OnlyOn (IsFirst threeFlights) threeFlights)
      (WidgetApp.start threeFlights) (clickFrames (.select 2)) :=
  ⟨by decide +kernel, by decide +kernel,
    first_flight_by_mouse _ threeFlights (by decide) (by decide) (clickFrames (.select 2)) (by
      intro frame hframe
      simp only [clickFrames, List.mem_cons, List.not_mem_nil, or_false] at hframe
      rcases hframe with rfl | rfl <;> rfl)⟩

theorem end_flight_step {db : Database} {app : WidgetApp} {frame : WidgetFrame}
    (h : app.Keeps (fun flightId => IsFirst db flightId ∨ IsLast db flightId) db)
    (datetimeToInt : String → ℤ) (hsucceeds : frame.listing = .succeeds) :
    (app.step datetimeToInt frame).Keeps
      (fun flightId => IsFirst db flightId ∨ IsLast db flightId) db := by
  refine keeps_step h datetimeToInt ?_
  intro flightId db' flightsInformation f hflights hlist hselectable
  rw [hsucceeds] at hlist
  rcases hselectable with hfirst | ⟨_, hlast⟩
  · obtain ⟨rows, row, hrows, hrow⟩ := isFirst_of_head hlist hfirst
    exact Or.inl ⟨rows, row, hflights ▸ hrows, hrow⟩
  · obtain ⟨rows, row, hrows, hrow⟩ := isLast_of_getLast hlist hlast
    exact Or.inr ⟨rows, row, hflights ▸ hrows, hrow⟩

/-- With mouse and keyboard, where the list is read without failures, only the first and the
last can, and the bookings of a flight between them never change. -/
theorem middle_flights_out_of_reach (datetimeToInt : String → ℤ) (db : Database)
    (hnamed : db.NamedFlights) (hdistinct : DistinctFlights db) (frames : List WidgetFrame)
    (hlisting : ∀ frame ∈ frames, frame.listing = .succeeds) :
    Run.Throughout (WidgetApp.step datetimeToInt)
      (WidgetApp.OnlyOn (fun flightId => IsFirst db flightId ∨ IsLast db flightId) db)
      (WidgetApp.start db) frames := by
  have hkeeps := Run.throughout_of_forall (WidgetApp.step datetimeToInt)
    (WidgetApp.Keeps (fun flightId => IsFirst db flightId ∨ IsLast db flightId) db)
    (fun frame => frame.listing = .succeeds)
    (fun _ _ hkeeps hsucceeds => end_flight_step hkeeps datetimeToInt hsucceeds) _ frames
    (keeps_start _ db) hlisting
  intro pre hpre
  refine (hkeeps pre hpre).onlyOn hnamed hdistinct ?_
  intro flightId hend
  rcases hend with hfirst | hlast
  · exact hfirst.stored
  · exact hlast.stored

/-- The keyboard leaves the last flight active. -/
theorem key_selects_last :
    activeId (Run.run (WidgetApp.step fun _ => 0) (WidgetApp.start threeFlights)
      [exampleFrame selectKey .book]) = some "CC3" ∧
    Run.Throughout (WidgetApp.step fun _ => 0)
      (WidgetApp.OnlyOn (fun flightId => IsFirst threeFlights flightId ∨
        IsLast threeFlights flightId) threeFlights)
      (WidgetApp.start threeFlights) [exampleFrame selectKey .book] :=
  ⟨by decide +kernel,
    middle_flights_out_of_reach _ threeFlights (by decide) (by decide)
      [exampleFrame selectKey .book] (by
      intro frame hframe
      rw [List.mem_singleton.mp hframe]
      rfl)⟩

end AirlineReservation.Widgets
