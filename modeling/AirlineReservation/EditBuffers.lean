import AirlineReservation.FrameActions

/-!
What an Update stores. The panel for existing bookings edits three buffers, and
Update reads them one frame after the last edit at the earliest. In between the
seat grid is drawn again: the selected seat is taken, so its texts are copied
over the buffers before the button is looked at. An Update therefore stores
what the seat holds already, and no edit survives that changes it.
-/

namespace AirlineReservation

open Frames in
def Cell.text (x : Cell) : Field → String
  | .name => x.name
  | .email => x.email
  | .maxLoad => x.maxLoad

namespace Frames

/-- The buffers hold the texts of the cell, up to their first NUL. -/
def Buffers.Hold (buffers : Buffers) (x : Cell) : Prop :=
  ∀ field, (buffers.get field).text = cString (x.text field)

section Refill

variable {flight : Flight} {input : Input} {gui gui' : Gui} {r c : ℤ} {x : Cell}

theorem refill_holds (h : flight.seatMap.Shaped) (hselected : gui.session.selectedRowCol = (r, c))
    (hx : flight.seatMap.cell? r c = some x) (hrefill : refill flight gui = .ok gui') :
    gui'.session = gui.session ∧ gui'.manage.Hold x := by
  obtain ⟨name, email, maxLoad, buffers, hname, hemail, hmaxLoad, rfl, hbuffers⟩ :=
    refill_ok hrefill
  rw [hselected] at hname hemail hmaxLoad
  cases Except.ok.inj ((h.getPassengerName hx).symm.trans hname)
  cases Except.ok.inj ((h.getEmail hx).symm.trans hemail)
  cases Except.ok.inj ((h.getMaxLoad hx).symm.trans hmaxLoad)
  refine ⟨rfl, ?_⟩
  intro field
  cases field with
  | name => exact hbuffers.1
  | email => exact hbuffers.2.1
  | maxLoad => exact hbuffers.2.2

/-- Once a taken seat has been drawn the buffers hold the selected cell. -/
theorem drawSeats_holds (h : flight.seatMap.Shaped) (hx : flight.seatMap.cell? r c = some x)
    (hidle : clicked input = none) {row : List Bool} {seatLNum label seatRNum : ℕ}
    (hselected : gui.session.selectedRowCol = (r, c))
    (hdraw : drawSeats flight input seatLNum row label seatRNum gui = .ok gui')
    (hfill : gui.manage.Hold x ∨ false ∈ row) :
    gui'.session = gui.session ∧ gui'.manage.Hold x := by
  induction row generalizing label seatRNum gui with
  | nil =>
    cases Except.ok.inj hdraw
    exact ⟨rfl, hfill.resolve_right List.not_mem_nil⟩
  | cons seat rest ih =>
    obtain ⟨gui₁, hseat, hrest⟩ := drawSeats_cons_ok hdraw
    rw [hidle, if_neg (by simp)] at hrest
    cases seat with
    | true =>
      cases Except.ok.inj hseat
      exact ih hselected hrest (hfill.imp id fun hmem => by simpa using hmem)
    | false =>
      obtain ⟨hsession, hhold⟩ := refill_holds h hselected hx hseat
      rw [← hsession] at hselected ⊢
      exact ih hselected hrest (.inl hhold)

theorem drawRows_holds (h : flight.seatMap.Shaped) (hx : flight.seatMap.cell? r c = some x)
    (hidle : clicked input = none) {rows : List (List Bool)} {label seatLNum : ℕ}
    (hselected : gui.session.selectedRowCol = (r, c))
    (hdraw : drawRows flight input rows label seatLNum gui = .ok gui')
    (hfill : gui.manage.Hold x ∨ ∃ row ∈ rows, false ∈ row) :
    gui'.session = gui.session ∧ gui'.manage.Hold x := by
  induction rows generalizing label seatLNum gui with
  | nil =>
    cases Except.ok.inj hdraw
    exact ⟨rfl, hfill.resolve_right (by simp)⟩
  | cons row rest ih =>
    obtain ⟨gui₁, hrow, hrest⟩ := drawRows_cons_ok hdraw
    have hsession : gui₁.session = gui.session := by
      have hpressed := (drawSeats_session (by decide) hrow).2
      rwa [hidle] at hpressed
    have hselected₁ : gui₁.session.selectedRowCol = (r, c) := by rwa [hsession]
    rw [← hsession]
    apply ih hselected₁ hrest
    rcases hfill with hhold | ⟨row', hmem, hfalse⟩
    · exact .inl (drawSeats_holds h hx hidle hselected hrow (.inl hhold)).2
    · rcases List.mem_cons.mp hmem with rfl | hlater
      · exact .inl (drawSeats_holds h hx hidle hselected hrow (.inr hfalse)).2
      · exact .inr ⟨row', hlater, hfalse⟩

/-- Drawing a grid with a booked seat selected fills the buffers with its texts,
unless a seat is pressed meanwhile. -/
theorem seatMapGUI_holds (h : flight.seatMap.Shaped)
    (hactive : gui.session.activeFlight = some flight)
    (hselected : gui.session.selectedRowCol = (r, c))
    (hx : flight.seatMap.cell? r c = some x) (htaken : x.available = false)
    (hidle : clicked input = none) (hdraw : seatMapGUI input gui = .ok gui') :
    gui'.session = gui.session ∧ gui'.manage.Hold x := by
  have hread := ((SeatMap.cell?_eq_some_iff flight.seatMap r c x).mp hx).1
  rw [htaken] at hread
  simp only [seatMapGUI, hactive] at hdraw
  exact drawRows_holds h hx hidle hselected hdraw (.inr (Grid.mem_of_read hread))

end Refill

/-- The window shows this flight with the booked seat (r, c) selected. -/
def ShowsSeat (flightID : String) (r c : ℤ) (x : Cell) (app : GuiApp) : Prop :=
  ∃ gui flight, app.gui = .ok gui ∧ gui.session.activeFlight = some flight ∧
    flight.flightID = flightID ∧ gui.session.selectedRowCol = (r, c) ∧
    flight.seatMap.cell? r c = some x ∧ x.available = false

def HoldsSeat (flightID : String) (r c : ℤ) (app : GuiApp) : Prop :=
  ∃ x, ShowsSeat flightID r c x app

theorem ShowsSeat.unique {flightID : String} {r c : ℤ} {x y : Cell} {app : GuiApp}
    (hx : ShowsSeat flightID r c x app) (hy : ShowsSeat flightID r c y app) : x = y := by
  obtain ⟨gui, flight, hgui, hactive, _, _, hx, _⟩ := hx
  obtain ⟨gui', flight', hgui', hactive', _, _, hy, _⟩ := hy
  cases Except.ok.inj (hgui.symm.trans hgui')
  cases Option.some.inj (hactive.symm.trans hactive')
  exact Option.some.inj (hx.symm.trans hy)

/-- The text that a frame leaves in a field of the panel, if it edits it. -/
def Frame.edit (field : Field) (frame : Frame) : Option String :=
  match frame.input with
  | .typed .manageBookings field' text => if field' = field then some text.text else none
  | _ => none

def lastTyped (field : Field) (frames : List Frame) : Option String :=
  frames.reverse.findSome? (Frame.edit field)

/-- `CancelBooking` and `BookSeat` of the Update button. -/
def updatedMap (flight : Flight) (gui : Gui) : Except Fault (Bool × SeatMap) := do
  let (row, col) := gui.session.selectedRowCol
  let seatMap ← flight.seatMap.cancelBooking row col
  seatMap.bookSeat row col gui.manage.name.text gui.manage.email.text gui.manage.maxLoad.text

/-- What `BookSeat` stores for the selected seat in a frame with Update pressed. -/
def UpdateStores (app : GuiApp) (x : Cell) : Prop :=
  ∃ gui drawn flight s, app.gui = .ok gui ∧
    seatMapGUI (.pressed .update) gui = .ok drawn ∧
    drawn.session.activeFlight = some flight ∧ updatedMap flight drawn = .ok (true, s) ∧
    s.cell? drawn.session.selectedRowCol.1 drawn.session.selectedRowCol.2 = some x

theorem updatedMap_eq {flight : Flight} {gui : Gui} {r c : ℤ} (h : flight.seatMap.Shaped)
    (hin : flight.seatMap.InRange r c) (hselected : gui.session.selectedRowCol = (r, c)) :
    updatedMap flight gui = .ok (true, flight.seatMap.putCell r c (Cell.taken
      gui.manage.name.text gui.manage.email.text gui.manage.maxLoad.text)) := by
  simp only [updatedMap, hselected]
  exact h.cancelBooking_bookSeat hin _ _ _

/-- The stored cell is taken and has the texts of the refilled buffers. -/
theorem updateStores_cell {gui : Gui} {flight : Flight} {r c : ℤ} {x x' : Cell} {app : GuiApp}
    (hgui : app.gui = .ok gui) (hactive : gui.session.activeFlight = some flight)
    (h : flight.seatMap.Shaped) (hselected : gui.session.selectedRowCol = (r, c))
    (hx : flight.seatMap.cell? r c = some x) (htaken : x.available = false)
    (hstores : UpdateStores app x') :
    ∃ drawn, seatMapGUI (.pressed .update) gui = .ok drawn ∧ drawn.manage.Hold x ∧
      x' = Cell.taken drawn.manage.name.text drawn.manage.email.text
        drawn.manage.maxLoad.text := by
  obtain ⟨gui', drawn, flight', s, hgui', hdraw, hactive', hmap, hx'⟩ := hstores
  cases Except.ok.inj (hgui.symm.trans hgui')
  obtain ⟨hsession, hhold⟩ := seatMapGUI_holds h hactive hselected hx htaken rfl hdraw
  rw [hsession] at hactive' hx'
  cases Option.some.inj (hactive.symm.trans hactive')
  have hselected' : drawn.session.selectedRowCol = (r, c) := by rwa [hsession]
  rw [updatedMap_eq h (h.inRange_of_cell? hx) hselected'] at hmap
  obtain ⟨_, rfl⟩ := Prod.mk.inj (Except.ok.inj hmap)
  rw [hselected, SeatMap.cell?_putCell_self _ hx] at hx'
  exact ⟨drawn, hdraw, hhold, (Option.some.inj hx').symm⟩

/-- An Update of the shown seat stores its own texts, up to their first NUL. -/
theorem updateStores_texts {flightID : String} {r c : ℤ} {x x' : Cell} {app : GuiApp}
    (hvalid : app.Valid) (hshows : ShowsSeat flightID r c x app) (hstores : UpdateStores app x') :
    ∀ field, x'.text field = cString (x.text field) := by
  obtain ⟨gui, flight, hgui, hactive, _, hselected, hx, htaken⟩ := hshows
  obtain ⟨drawn, _, hhold, rfl⟩ := updateStores_cell hgui hactive
    (hvalid gui hgui flight hactive).shaped hselected hx htaken hstores
  intro field
  cases field with
  | name => exact hhold .name
  | email => exact hhold .email
  | maxLoad => exact hhold .maxLoad

/-- A frame with Update pressed that returns leaves the stored cell in the map. -/
theorem update_shows {datetimeToInt : String → ℤ} {flightID : String} {r c : ℤ} {x x' : Cell}
    {app : GuiApp} {frame : Frame} {gui' : Gui} (hvalid : app.Valid)
    (hshows : ShowsSeat flightID r c x app) (hstores : UpdateStores app x')
    (hpressed : frame.input = .pressed .update)
    (hlive : (app.step datetimeToInt frame).gui = .ok gui') :
    ShowsSeat flightID r c x' (app.step datetimeToInt frame) := by
  obtain ⟨gui, flight, hgui, hactive, hid, hselected, hx, htaken⟩ := hshows
  have hshaped : flight.seatMap.Shaped := (hvalid gui hgui flight hactive).shaped
  obtain ⟨drawn, hdraw, _, rfl⟩ :=
    updateStores_cell hgui hactive hshaped hselected hx htaken hstores
  rw [GuiApp.step_live datetimeToInt hgui] at hlive
  obtain ⟨drawn', flightsInformation, hdraw', _, hperforms⟩ :=
    guiMain_performs (Prod.ext rfl hlive : guiMain datetimeToInt frame app.db gui = (_, .ok gui'))
  rw [hpressed] at hdraw' hperforms
  cases Except.ok.inj (hdraw.symm.trans hdraw')
  have hbooking : (Action.update drawn.manage.name.text drawn.manage.email.text
      drawn.manage.maxLoad.text).IsBooking := trivial
  obtain ⟨s', request, heffect, hrun⟩ :=
    perform_effect frame.outcomes app.db hbooking hactive hshaped
  have hsession := heffect.session_of_run hactive (hrun.symm.trans hperforms)
  have hmap : s' = flight.seatMap.putCell r c (Cell.taken drawn.manage.name.text
      drawn.manage.email.text drawn.manage.maxLoad.text) := by
    rw [hselected] at heffect
    cases heffect with
    | updated _ _ _ y hy hytaken => rfl
    | updatedOutside _ _ _ hout => exact absurd (hshaped.inRange_of_cell? hx) hout
    | updateHidden _ _ _ y hy hfree =>
      cases Option.some.inj (hx.symm.trans hy)
      exact absurd (hfree.symm.trans htaken) (by decide)
  rw [GuiApp.step_live datetimeToInt hgui]
  refine ⟨gui', { flight with seatMap := s' }, hlive, ?_, hid, ?_, ?_, rfl⟩
  · rw [hsession]
  · rw [hsession]
    exact hselected
  · rw [hmap]
    exact SeatMap.cell?_putCell_self flight.seatMap hx _

/-- Since the seat was selected: an Update stores what was typed in the frames,
and the old text of a field that was not edited, exactly when what was typed is
what the seat holds already. -/
theorem update_stores_edits_iff (datetimeToInt : String → ℤ) (db : Database)
    (before frames : List Frame) (flightID : String) (r c : ℤ) (x' : Cell)
    (hheld : Run.Throughout (GuiApp.step datetimeToInt) (HoldsSeat flightID r c)
      (Run.run (GuiApp.step datetimeToInt) (GuiApp.start db) before) frames)
    (hstores : UpdateStores
      (Run.run (GuiApp.step datetimeToInt) (GuiApp.start db) (before ++ frames)) x') :
    ∃ x, ShowsSeat flightID r c x
        (Run.run (GuiApp.step datetimeToInt) (GuiApp.start db) (before ++ frames)) ∧
      ((∀ field, x'.text field = (lastTyped field frames).getD (x.text field)) ↔
        ∀ field, (lastTyped field frames).getD (x.text field) = cString (x.text field)) := by
  obtain ⟨x, hshows⟩ := hheld.final
  rw [← Run.run_append] at hshows
  refine ⟨x, hshows, ?_⟩
  have hvalid := GuiApp.valid_run datetimeToInt (GuiApp.valid_start db) (before ++ frames)
  have htexts := updateStores_texts hvalid hshows hstores
  constructor
  · intro hedits field
    rw [← hedits field, htexts field]
  · intro hsame field
    rw [hsame field, htexts field]

section BookedSeat

def annDatabase : Database :=
  { Database.empty.setBookingTable "BookingAA123" [⟨"Ann", "ann@mail", "20", 0, 0⟩] with
    flights := some [⟨"AA123", "New York", "Los Angeles", "", "", "bookingAA123", 1, 1⟩] }

def quiet (input : Input) : Frame := ⟨input, .succeeds, .succeed⟩

/-- The flight is selected, and then its only seat. -/
def annSelected : List Frame := [quiet (.pressed (.select 0)), quiet (.pressed (.seat 0))]

def ann : Cell := Cell.taken "Ann" "ann@mail" "20"

/-- Selected, and then one edit of the name. -/
theorem ann_held (text : CharBuffer) :
    Run.Throughout (GuiApp.step fun _ => 0) (HoldsSeat "AA123" 0 0)
      (Run.run (GuiApp.step fun _ => 0) (GuiApp.start annDatabase) annSelected)
      [quiet (.typed .manageBookings .name text)] := by
  rw [Run.throughout_cons, Run.throughout_nil]
  exact ⟨⟨ann, _, _, rfl, rfl, rfl, rfl, rfl, rfl⟩, ⟨ann, _, _, rfl, rfl, rfl, rfl, rfl, rfl⟩⟩

theorem ann_stored (text : CharBuffer) :
    UpdateStores (Run.run (GuiApp.step fun _ => 0) (GuiApp.start annDatabase)
      (annSelected ++ [quiet (.typed .manageBookings .name text)])) ann :=
  ⟨_, _, _, _, rfl, rfl, rfl, rfl, rfl⟩

end BookedSeat

def annBuffer : CharBuffer := ⟨"Ann", by decide, by decide⟩

def bobBuffer : CharBuffer := ⟨"Bob", by decide, by decide⟩

/-- Typing the name that the seat holds is an edit that Update stores. -/
theorem same_name_stored :
    ∃ x, ShowsSeat "AA123" 0 0 x (Run.run (GuiApp.step fun _ => 0) (GuiApp.start annDatabase)
        (annSelected ++ [quiet (.typed .manageBookings .name annBuffer)])) ∧
      ∀ field, ann.text field =
        (lastTyped field [quiet (.typed .manageBookings .name annBuffer)]).getD
          (x.text field) := by
  obtain ⟨x, hshows, hiff⟩ := update_stores_edits_iff (fun _ => 0) annDatabase annSelected
    [quiet (.typed .manageBookings .name annBuffer)] "AA123" 0 0 ann (ann_held annBuffer)
    (ann_stored annBuffer)
  refine ⟨x, hshows, hiff.mpr ?_⟩
  have hx : x = ann := hshows.unique ⟨_, _, rfl, rfl, rfl, rfl, rfl, rfl⟩
  subst hx
  intro field
  cases field <;> decide

/-- A new name is typed, Update is pressed, and the old name is stored. -/
theorem new_name_lost :
    Run.Throughout (GuiApp.step fun _ => 0) (HoldsSeat "AA123" 0 0)
      (Run.run (GuiApp.step fun _ => 0) (GuiApp.start annDatabase) annSelected)
      [quiet (.typed .manageBookings .name bobBuffer)] ∧
    UpdateStores (Run.run (GuiApp.step fun _ => 0) (GuiApp.start annDatabase)
      (annSelected ++ [quiet (.typed .manageBookings .name bobBuffer)])) ann ∧
    lastTyped .name [quiet (.typed .manageBookings .name bobBuffer)] = some "Bob" ∧
    ann.text .name ≠ "Bob" :=
  ⟨ann_held bobBuffer, ann_stored bobBuffer, by decide, by decide⟩

end Frames

end AirlineReservation
