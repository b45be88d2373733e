import AirlineReservation.Library.Simulation
import AirlineReservation.FrameActions
import AirlineReservation.OwnFlights
import AirlineReservation.SharedWindows

/-!
Windows on different flights. However their frames and transactions interleave, each
window is what it would be alone, and so are the tables of its flights. Two flights
are different here when their table names are, without regard to case.
-/

namespace AirlineReservation.SharedWindows

open Frames Interleaving OwnFlights

/-- The flights that a frame selects are among these. -/
def SelectsIn (ids : String → Prop) (datetimeToInt : String → ℤ)
    (flights : Option (List FlightRow)) (frame : Frame) : Prop :=
  ∀ db flightsInformation index f, db.flights = flights →
    (getFlightsInfo datetimeToInt db frame.listing).result = .ok flightsInformation →
    frame.input = .pressed (.select index) → flightsInformation[index]? = some f → ids f.flightID

section Panels

variable {ids : String → Prop} {flights : Option (List FlightRow)}

def GuiKeeps (ids : String → Prop) (db₀ : Database) (result : Database × Except Fault Gui) :
    Prop :=
  Keeps ids db₀ result.1 (result.2.map Gui.session)

/-- A panel changes only the tables of these flights and depends on no others, in a window on
one of them. -/
structure Own (ids : String → Prop) (flights : Option (List FlightRow))
    (panel : Database → Gui → Database × Except Fault Gui) : Prop where
  keeps : ∀ db gui, db.flights = flights → ActiveIn ids gui.session →
    GuiKeeps ids db (panel db gui)
  same : ∀ db db' gui, db.flights = flights → ActiveIn ids gui.session →
    SameTables ids db db' → SameResult ids (panel db gui) (panel db' gui)

theorem Own.andThen {panel next : Database → Gui → Database × Except Fault Gui}
    (h : Own ids flights panel) (h' : Own ids flights next) :
    Own ids flights (fun db gui => andThen (panel db gui) next) := by
  refine ⟨?_, ?_⟩
  · intro db gui hflights hactive
    have hkeeps := h.keeps db gui hflights hactive
    cases hpanel : panel db gui with
    | mk x window =>
      rw [hpanel] at hkeeps
      cases window with
      | error e => exact hkeeps
      | ok gui₁ =>
        obtain ⟨huntouched, hactive₁⟩ := h'.keeps x gui₁
          (hkeeps.untouched.flights.trans hflights) (hkeeps.active _ rfl)
        exact ⟨hkeeps.untouched.trans huntouched, hactive₁⟩
  · intro db db' gui hflights hactive hsame
    have hkeeps := h.keeps db gui hflights hactive
    obtain ⟨hstored, hreturned⟩ := h.same db db' gui hflights hactive hsame
    cases hpanel : panel db gui with
    | mk x window =>
      cases hpanel' : panel db' gui with
      | mk x' window' =>
        rw [hpanel, hpanel'] at hstored hreturned
        rw [hpanel] at hkeeps
        cases hreturned
        cases window with
        | error e => exact .const hstored _
        | ok gui₁ =>
          exact h'.same x x' gui₁ (hkeeps.untouched.flights.trans hflights)
            (hkeeps.active _ rfl) hstored

/-- A handler and the window around it. -/
theorem guiKeeps_after {db₀ : Database} {gui : Gui} {result : Database × Except Fault Session}
    (h : Keeps ids db₀ result.1 result.2) : GuiKeeps ids db₀ (gui.after result) := by
  obtain ⟨db, session⟩ := result
  cases session with
  | error e => exact .error h.untouched e
  | ok session => exact .ok h.untouched (h.active session rfl)

theorem same_after {gui : Gui} {result result' : Database × Except Fault Session}
    (h : SameResult ids result result') :
    SameResult ids (gui.after result) (gui.after result') :=
  ⟨h.stored, by simp only [Gui.after, h.returned]⟩

variable (frame : Frame)

theorem own_createBookings : Own ids flights (createBookings frame) := by
  refine ⟨?_, ?_⟩
  · intro db gui _ hactive
    unfold createBookings
    cases hflight : gui.session.activeFlight with
    | none => exact .ok .refl hactive
    | some flight =>
      simp only
      split
      · exact guiKeeps_after (keeps_bookPressed _ .refl (hactive flight hflight) hactive _ _ _)
      · exact .ok .refl hactive
  · intro db db' gui _ hactive hsame
    unfold createBookings
    cases hflight : gui.session.activeFlight with
    | none => exact .const hsame _
    | some flight =>
      simp only
      split
      · exact same_after (same_bookPressed _ hsame (hactive flight hflight) _ _ _)
      · exact .const hsame _

theorem own_manageBookings : Own ids flights (manageBookings frame) := by
  refine ⟨?_, ?_⟩
  · intro db gui _ hactive
    unfold manageBookings
    cases hflight : gui.session.activeFlight with
    | none => exact .ok .refl hactive
    | some flight =>
      simp only
      split
      · exact .error .refl _
      · exact .ok .refl hactive
      · split
        · exact guiKeeps_after (keeps_updatePressed _ .refl (hactive flight hflight) _ _ _)
        · exact guiKeeps_after (keeps_deletePressed _ .refl (hactive flight hflight))
        · exact .ok .refl hactive
  · intro db db' gui _ hactive hsame
    unfold manageBookings
    cases hflight : gui.session.activeFlight with
    | none => exact .const hsame _
    | some flight =>
      simp only
      split
      · exact .const hsame _
      · exact .const hsame _
      · split
        · exact same_after (same_updatePressed _ hsame (hactive flight hflight) _ _ _)
        · exact same_after (same_deletePressed _ hsame (hactive flight hflight))
        · exact .const hsame _

variable {frame} {datetimeToInt : String → ℤ}

theorem own_selectFlight (hselects : SelectsIn ids datetimeToInt flights frame) :
    Own ids flights (selectFlight datetimeToInt frame) := by
  refine ⟨?_, ?_⟩
  · intro db gui hflights hactive
    unfold selectFlight
    cases hlist : (getFlightsInfo datetimeToInt db frame.listing).result with
    | error e => exact .error .refl e
    | ok flightsInformation =>
      simp only
      split
      · next index hinput =>
        split
        · next f hf =>
          exact guiKeeps_after (keeps_selectPressed .refl frame.outcomes gui.session
            (hselects db flightsInformation index f hflights hlist hinput hf))
        · exact .ok .refl hactive
      · exact .ok .refl hactive
  · intro db db' gui hflights hactive hsame
    have hlists : getFlightsInfo datetimeToInt db' frame.listing =
        getFlightsInfo datetimeToInt db frame.listing := by
      simp only [getFlightsInfo, hsame.flights]
    unfold selectFlight
    rw [hlists]
    cases hlist : (getFlightsInfo datetimeToInt db frame.listing).result with
    | error e => exact .const hsame _
    | ok flightsInformation =>
      simp only
      split
      · next index hinput =>
        split
        · next f hf =>
          have hid := hselects db flightsInformation index f hflights hlist hinput hf
          rw [same_selectPressed frame.outcomes hsame hid]
          exact .const hsame _
        · exact .const hsame _
      · exact .const hsame _

theorem own_panels (hselects : SelectsIn ids datetimeToInt flights frame) :
    Own ids flights (panels datetimeToInt frame) :=
  ((own_createBookings frame).andThen (own_manageBookings frame)).andThen
    (own_selectFlight hselects)

theorem own_afterSave (hselects : SelectsIn ids datetimeToInt flights frame) :
    Own ids flights (afterSave datetimeToInt frame) := by
  unfold afterSave
  split
  · exact (own_manageBookings frame).andThen (own_selectFlight hselects)
  · exact own_selectFlight hselects

end Panels

/-- A window on these flights, with a save of one of them if it is in the middle of one. -/
structure Window.On (ids : String → Prop) (datetimeToInt : String → ℤ)
    (flights : Option (List FlightRow)) (w : Window) : Prop where
  active : ∀ gui, w.gui = .ok gui → ActiveIn ids gui.session
  saving : ∀ frame loop, w.saving = some (frame, loop) →
    SelectsIn ids datetimeToInt flights frame ∧ ∃ id, ids id ∧ loop.tableName = "Booking" ++ id

section Windows

variable {ids : String → Prop} {flights : Option (List FlightRow)} {datetimeToInt : String → ℤ}

theorem on_start : Window.start.On ids datetimeToInt flights := by
  refine ⟨?_, fun _ _ h => by contradiction⟩
  intro gui hgui flight hactive
  cases hgui
  contradiction

theorem on_ended (e : Fault) : Window.On ids datetimeToInt flights ⟨.error e, none⟩ :=
  ⟨fun _ h => by contradiction, fun _ _ h => by contradiction⟩

theorem on_idle {gui : Gui} (hactive : ActiveIn ids gui.session) :
    Window.On ids datetimeToInt flights ⟨.ok gui, none⟩ :=
  ⟨fun _ h => by cases h; exact hactive, fun _ _ h => by contradiction⟩

theorem on_result {db₀ : Database} {result : Database × Except Fault Gui}
    (h : GuiKeeps ids db₀ result) : Window.On ids datetimeToInt flights ⟨result.2, none⟩ := by
  obtain ⟨db, window⟩ := result
  cases window with
  | error e => exact on_ended e
  | ok gui => exact on_idle (h.active gui.session rfl)

/-- A save that a frame begins is one of the active flight. -/
theorem on_begunSave {frame : Frame} {gui gui' : Gui} {loop : SaveLoop}
    (hactive : ActiveIn ids gui.session) (hselects : SelectsIn ids datetimeToInt flights frame)
    (h : begunSave frame gui = some (gui', loop)) :
    Window.On ids datetimeToInt flights ⟨.ok gui', some (frame, loop)⟩ := by
  have hbegin : ∃ flight seatMap, gui.session.activeFlight = some flight ∧
      beginSave gui flight seatMap = (gui', loop) := by
    unfold begunSave at h
    cases hflight : gui.session.activeFlight with
    | none =>
      rw [hflight] at h
      contradiction
    | some flight =>
      rw [hflight] at h
      simp only at h
      split at h
      · split at h
        · exact ⟨flight, _, rfl, Option.some.inj h⟩
        · contradiction
      · split at h
        · exact ⟨flight, _, rfl, Option.some.inj h⟩
        · contradiction
      · contradiction
  obtain ⟨flight, seatMap, hflight, hbegin⟩ := hbegin
  cases hbegin
  have hid := hactive flight hflight
  refine ⟨?_, ?_⟩
  · intro gui' hgui flight' hflight'
    cases hgui
    cases hflight'
    exact hid
  · intro frame' loop' hsaving
    cases hsaving
    exact ⟨hselects, flight.flightID, hid, rfl⟩

theorem seatMapGUI_active {input : Input} {gui gui' : Gui} (hactive : ActiveIn ids gui.session)
    (h : seatMapGUI input gui = .ok gui') : ActiveIn ids gui'.session :=
  fun flight hflight => hactive flight ((seatMapGUI_activeFlight h).symm.trans hflight)

/-- What a step of a window does: it changes tables of its flights only, and it does the same
on a database with the same tables. -/
structure OwnStep (ids : String → Prop) (datetimeToInt : String → ℤ)
    (flights : Option (List FlightRow)) (stepOf : Database → Window → Database × Window) :
    Prop where
  untouched : ∀ db w, db.flights = flights → w.On ids datetimeToInt flights →
    Untouched ids db (stepOf db w).1
  on : ∀ db w, db.flights = flights → w.On ids datetimeToInt flights →
    (stepOf db w).2.On ids datetimeToInt flights
  same : ∀ db db' w, db.flights = flights → w.On ids datetimeToInt flights →
    SameTables ids db db' →
      SameTables ids (stepOf db w).1 (stepOf db' w).1 ∧ (stepOf db w).2 = (stepOf db' w).2

theorem ownStep_frame {frame : Frame} (hselects : SelectsIn ids datetimeToInt flights frame) :
    OwnStep ids datetimeToInt flights (fun db w => w.frame datetimeToInt frame db) := by
  have hpanels := own_panels hselects
  refine ⟨?_, ?_, ?_⟩
  · intro db w hflights hon
    unfold Window.frame
    split
    · next gui hgui hsaving =>
      split
      · exact .refl
      · next gui₁ hgrid =>
        have hactive := seatMapGUI_active (hon.active gui hgui) hgrid
        split
        · exact .refl
        · exact (hpanels.keeps db gui₁ hflights hactive).untouched
    · exact .refl
  · intro db w hflights hon
    unfold Window.frame
    split
    · next gui hgui hsaving =>
      split
      · exact on_ended _
      · next gui₁ hgrid =>
        have hactive := seatMapGUI_active (hon.active gui hgui) hgrid
        split
        · next hbegun => exact on_begunSave hactive hselects hbegun
        · exact on_result (hpanels.keeps db gui₁ hflights hactive)
    · exact hon
  · intro db db' w hflights hon hsame
    unfold Window.frame
    split
    · next gui hgui hsaving =>
      split
      · exact ⟨hsame, rfl⟩
      · next gui₁ hgrid =>
        have hactive := seatMapGUI_active (hon.active gui hgui) hgrid
        split
        · exact ⟨hsame, rfl⟩
        · obtain ⟨hstored, hreturned⟩ := hpanels.same db db' gui₁ hflights hactive hsame
          exact ⟨hstored, by rw [hreturned]⟩
    · exact ⟨hsame, rfl⟩

theorem ownStep_transact :
    OwnStep ids datetimeToInt flights (fun db w => w.transact datetimeToInt db) := by
  refine ⟨?_, ?_, ?_⟩
  · intro db w hflights hon
    unfold Window.transact
    split
    · next gui frame loop hgui hsaving =>
      obtain ⟨hselects, id, hid, hname⟩ := hon.saving frame loop hsaving
      split
      · exact ((own_afterSave hselects).keeps db gui hflights (hon.active gui hgui)).untouched
      · next k rest _ =>
        have honly := onlyTable_insertBookingSeat loop.seatMap db loop.tableName
          (frame.outcomes.seat k) k
        rw [hname] at honly ⊢
        split
        all_goals
          next hseat =>
          rw [hseat] at honly
          exact Untouched.refl.onlyTable hid honly
    · exact .refl
  · intro db w hflights hon
    unfold Window.transact
    split
    · next gui frame loop hgui hsaving =>
      obtain ⟨hselects, id, hid, hname⟩ := hon.saving frame loop hsaving
      split
      · exact on_result ((own_afterSave hselects).keeps db gui hflights (hon.active gui hgui))
      · split
        · refine ⟨fun _ h => by cases h; exact hon.active gui hgui, ?_⟩
          intro frame' loop' h
          cases h
          exact ⟨hselects, id, hid, hname⟩
        · exact on_ended _
    · exact hon
  · intro db db' w hflights hon hsame
    unfold Window.transact
    split
    · next gui frame loop hgui hsaving =>
      obtain ⟨hselects, id, hid, hname⟩ := hon.saving frame loop hsaving
      split
      · obtain ⟨hstored, hreturned⟩ := (own_afterSave hselects).same db db' gui hflights
          (hon.active gui hgui) hsame
        exact ⟨hstored, by rw [hreturned]⟩
      · next k rest _ =>
        obtain ⟨hstored, hreturned⟩ := same_insertBookingSeat hsame hid loop.seatMap
          (frame.outcomes.seat k) k
        rw [hname]
        cases hseat : insertBookingSeat loop.seatMap ("Booking" ++ id) (frame.outcomes.seat k) k
            db with
        | mk x result =>
          cases hseat' : insertBookingSeat loop.seatMap ("Booking" ++ id)
              (frame.outcomes.seat k) k db' with
          | mk x' result' =>
            rw [hseat, hseat'] at hstored hreturned
            cases hreturned
            cases result <;> exact ⟨hstored, rfl⟩
    · exact ⟨hsame, rfl⟩

end Windows

section Runs

variable {ι : Type*} [DecidableEq ι] (datetimeToInt : String → ℤ)

def Event.window : Event ι → ι
  | .frame i _ => i
  | .transact i => i

/-- A step of the system is a step of the window whose turn it is. -/
def turn (event : Event ι) (db : Database) (w : Window) : Database × Window :=
  match event with
  | .frame _ frame => w.frame datetimeToInt frame db
  | .transact _ => w.transact datetimeToInt db

theorem step_eq_turn (sys : Shared ι) (event : Event ι) :
    step datetimeToInt sys event = sys.put event.window
      (turn datetimeToInt event sys.db (sys.windows event.window)) := by
  cases event <;> rfl

/-- The frame of this event selects only flights of its window. -/
def Selects (ids : ι → String → Prop) (flights : Option (List FlightRow)) : Event ι → Prop
  | .frame i frame => SelectsIn (ids i) datetimeToInt flights frame
  | .transact _ => True

omit [DecidableEq ι] in
theorem ownStep_turn {ids : ι → String → Prop} {flights : Option (List FlightRow)}
    {event : Event ι} (h : Selects datetimeToInt ids flights event) :
    OwnStep (ids event.window) datetimeToInt flights (turn datetimeToInt event) := by
  cases event with
  | frame i frame => exact ownStep_frame h
  | transact i => exact ownStep_transact

/-- No two windows have flights with one table. -/
def TablesApart (ids : ι → String → Prop) : Prop :=
  ∀ i j, i ≠ j → ∀ id other, ids i id → ids j other →
    tableKey ("Booking" ++ id) ≠ tableKey ("Booking" ++ other)

structure AllOn (ids : ι → String → Prop) (flights : Option (List FlightRow)) (sys : Shared ι) :
    Prop where
  stored : sys.db.flights = flights
  on : ∀ i, (sys.windows i).On (ids i) datetimeToInt flights

/-- What a window sees of the system. -/
def SameFor (ids : ι → String → Prop) (i : ι) (sys sys' : Shared ι) : Prop :=
  SameTables (ids i) sys.db sys'.db ∧ sys.windows i = sys'.windows i

theorem unwinding_step {ids : ι → String → Prop} (hapart : TablesApart ids)
    (flights : Option (List FlightRow)) :
    Simulation.Unwinding (step datetimeToInt) Event.window (AllOn datetimeToInt ids flights)
      (Selects datetimeToInt ids flights) (SameFor ids) := by
  refine ⟨?_, ?_, ?_, ?_⟩
  · intro i
    refine ⟨fun sys => ⟨.refl _ _, rfl⟩, fun h => ⟨h.1.symm, h.2.symm⟩, ?_⟩
    exact fun h h' => ⟨h.1.trans h'.1, h.2.trans h'.2⟩
  · intro sys event hall hselects
    have hown := ownStep_turn datetimeToInt hselects
    rw [step_eq_turn]
    refine ⟨?_, ?_⟩
    · exact (hown.untouched sys.db _ hall.stored (hall.on _)).flights.trans hall.stored
    · intro j
      by_cases hj : j = event.window
      · subst hj
        simp only [Shared.put, Function.update_self]
        exact hown.on sys.db _ hall.stored (hall.on _)
      · simp only [Shared.put, Function.update_of_ne hj]
        exact hall.on j
  · intro i sys event hall hselects hne
    have hown := ownStep_turn datetimeToInt hselects
    rw [step_eq_turn]
    refine ⟨?_, ?_⟩
    · exact SameTables.of_untouched (hown.untouched sys.db _ hall.stored (hall.on _))
        (hapart i event.window (Ne.symm hne))
    · simp only [Shared.put, Function.update_of_ne (Ne.symm hne)]
  · intro i sys sys' event hall hall' hselects hwho hsame
    subst hwho
    obtain ⟨htables, hwindow⟩ := hsame
    have hown := ownStep_turn datetimeToInt hselects
    rw [step_eq_turn, step_eq_turn, ← hwindow]
    obtain ⟨hstored, hresult⟩ := hown.same sys.db sys'.db _ hall.stored (hall.on _) htables
    exact ⟨hstored, by simpa only [Shared.put, Function.update_self] using hresult⟩

/-- Windows on different flights, whose ids are names, do not interfere: after every run each
window, and the tables of its flights, are as after its own frames and transactions alone. -/
theorem windows_apart (db : Database) (ids : ι → String → Prop)
    (_hnamed : ∀ i id, ids i id → IsName id) (hapart : TablesApart ids) (events : List (Event ι))
    (hselects : ∀ event ∈ events, Selects datetimeToInt ids db.flights event) (i : ι) :
    SameFor ids i (Run.run (step datetimeToInt) ⟨db, fun _ => Window.start⟩ events)
      (Run.run (step datetimeToInt) ⟨db, fun _ => Window.start⟩
        (events.filter fun event => event.window = i)) :=
  (unwinding_step datetimeToInt hapart db.flights).run _ _ i
    (by exact ⟨rfl, fun _ => on_start⟩) events hselects

/-- A window for each of the two flights. -/
def ownFlight : Bool → String → Prop
  | true, flightId => flightId = "AA1"
  | false, flightId => flightId = "BB2"

def twoFlights : Database :=
  let row (flightId : String) : FlightRow :=
    ⟨flightId, "Boston", "Chicago", "", "", "booking" ++ flightId, 1, 1⟩
  (({ Database.empty with flights := some [row "AA1", row "BB2"] }).setBookingTable
    "BookingAA1" []).setBookingTable "BookingBB2" []

def undisturbed (input : Input) : Frame := ⟨input, .succeeds, .succeed⟩

def zoeName : CharBuffer := ⟨"Zoe", by decide, by decide⟩

/-- Each books the seat of its flight while the other one saves. -/
def besideRun : List (Event Bool) :=
  [.frame true (undisturbed (.pressed (.select 0))),
    .frame false (undisturbed (.pressed (.select 1))),
    .frame true (undisturbed (.typed .createBookings .name zoeName)),
    .frame false (undisturbed (.typed .createBookings .name zoeName)),
    .frame true (undisturbed (.pressed .book)), .frame false (undisturbed (.pressed .book)),
    .transact true, .transact false, .transact false, .transact true]

/-- The list of the two flights. -/
theorem selectsIn_twoFlights {ids : String → Prop} {input : Input}
    (h : ∀ index flightId, input = .pressed (.select index) →
      ["AA1", "BB2"][index]? = some flightId → ids flightId) :
    SelectsIn ids (fun _ => 0) twoFlights.flights (undisturbed input) := by
  intro db flightsInformation index f hflights hlist hinput hf
  have hlisted : flightsInformation.map FlightInformation.flightID = ["AA1", "BB2"] := by
    have hsame : getFlightsInfo (fun _ => 0) db .succeeds =
        getFlightsInfo (fun _ => 0) twoFlights .succeeds := by
      simp only [getFlightsInfo, hflights]
    rw [undisturbed, hsame] at hlist
    cases hlist
    rfl
  refine h index f.flightID hinput ?_
  rw [← hlisted, List.getElem?_map, hf]
  rfl

theorem booked_apart :
    (Run.run (step fun _ => 0) ⟨twoFlights, fun _ => Window.start⟩ besideRun).db.bookingTable
        "BookingAA1" = some [⟨"Zoe", "", "", 0, 0⟩] ∧
      SameFor ownFlight true
        (Run.run (step fun _ => 0) ⟨twoFlights, fun _ => Window.start⟩ besideRun)
        (Run.run (step fun _ => 0) ⟨twoFlights, fun _ => Window.start⟩
          (besideRun.filter fun event => event.window = true)) := by
  have hselect : ∀ (i : Bool) (index : ℕ) (flightId : String),
      ["AA1", "BB2"][index]? = some flightId → ownFlight i flightId →
      SelectsIn (ownFlight i) (fun _ => 0) twoFlights.flights
        (undisturbed (.pressed (.select index))) := by
    intro i index flightId hlisted hown
    refine selectsIn_twoFlights ?_
    intro index' flightId' hinput hlisted'
    cases hinput
    cases Option.some.inj (hlisted.symm.trans hlisted')
    exact hown
  have hbook : ∀ i : Bool,
      SelectsIn (ownFlight i) (fun _ => 0) twoFlights.flights (undisturbed (.pressed .book)) :=
    fun i => selectsIn_twoFlights fun _ _ h _ => by cases h
  have htype : ∀ i : Bool, SelectsIn (ownFlight i) (fun _ => 0) twoFlights.flights
      (undisturbed (.typed .createBookings .name zoeName)) :=
    fun i => selectsIn_twoFlights fun _ _ h _ => by cases h
  refine ⟨by decide +kernel,
    windows_apart (fun _ => 0) twoFlights ownFlight ?_ ?_ besideRun ?_ true⟩
  · intro i id hid
    cases i <;> cases hid <;> decide
  · intro i j hne id other hid hother
    cases i <;> cases j <;> cases hid <;> cases hother <;> first | contradiction | decide
  · intro event hevent
    simp only [besideRun, List.mem_cons, List.not_mem_nil, or_false] at hevent
    rcases hevent with rfl | rfl | rfl | rfl | rfl | rfl | rfl | rfl | rfl | rfl
    · exact hselect true 0 "AA1" rfl rfl
    · exact hselect false 1 "BB2" rfl rfl
    · exact htype true
    · exact htype false
    · exact hbook true
    · exact hbook false
    all_goals trivial

end Runs

end AirlineReservation.SharedWindows
