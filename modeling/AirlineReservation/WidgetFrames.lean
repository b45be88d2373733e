import AirlineReservation.FrameActions
import AirlineReservation.Library.Buttons
import AirlineReservation.SeatButtons

/-!
The window one widget at a time. Whether a button is pressed is decided by the
interface library from the mouse, the keyboard and the widget that is active; a
button is known to it by a hash of its label. Nothing here says that at most one
button is pressed in a frame, nor which one: that follows for frames in which the
keyboard only types.
-/

namespace AirlineReservation.Widgets

open Frames Buttons

def crc32Step (c : UInt32) : UInt32 :=
  if c &&& 1 = 1 then (0xEDB88320 : UInt32) ^^^ (c >>> 1) else c >>> 1

/-- An entry of `GCrc32LookupTable`. -/
def crc32Entry (i : UInt32) : UInt32 := crc32Step^[8] i

/-- The loop of `ImHashStr`. The text before a `###` does not count. -/
def hashFrom (seed : UInt32) : UInt32 → List UInt8 → UInt32
  | crc, [] => crc
  | crc, c :: data =>
    let crc := if c = 35 ∧ data.take 2 = [35, 35] then seed else crc
    hashFrom seed ((crc >>> 8) ^^^ crc32Entry ((crc &&& 0xFF) ^^^ c.toUInt32)) data

def imHashStr (text : String) (seed : UInt32) : UInt32 :=
  ~~~ hashFrom (~~~ seed) (~~~ seed) ((cString text).toList.flatMap String.utf8EncodeChar)

example : imHashStr "123456789" 0 = 0xCBF43926 := by decide +kernel

/-- `GetID` in a window, whose own identifier is the seed. -/
def getID (window label : String) : UInt32 := imHashStr label (imHashStr window 0)

def windowName : Button → String
  | .seat _ => "Seat Map"
  | .book => "Create Bookings"
  | .update => "Manage Bookings"
  | .delete => "Manage Bookings"
  | .select _ => "Select Flight"

def seatLabel (seat : Bool) (seatLNum seatRNum label : ℕ) : String :=
  (SeatButtons.seatButton seat (UInt16.ofNat seatLNum) (UInt16.ofNat seatRNum) label).codeText

/-- `flightId` at the start of a frame. -/
def flightId (session : Session) : String :=
  match session.activeFlight with
  | some flight => flight.flightID
  | none => "No Flight Selected"

/-- The label of every Select button of a frame. -/
def btnCodeLabel (flightId : String) : String := "Select###btn" ++ flightId

abbrev Id := UInt32

/-- A frame: the state of the mouse and the keyboard, what the tests on the rectangles give
for each button, what the other widgets make of the context, which field of a panel is edited,
and the outcomes of the SQL statements that a button may issue. -/
structure WidgetFrame where
  io : Io Id
  skipItems : String → Bool
  item : Button → Item
  newFrame : Context Id → Context Id
  amadeusWindow : Context Id → Context Id
  texts : Panel → Context Id → Option (Field × CharBuffer) × Context Id
  listing : RetrievalOutcome
  outcomes : Button → SqlOutcomes

def WidgetFrame.press (frame : WidgetFrame) (b : Button) (label : String) (g : Context Id) :
    Bool × Context Id :=
  button frame.io (frame.item b) (getID (windowName b) label) g (frame.skipItems (windowName b))

def edited (gui : Gui) (panel : Panel) : Option (Field × CharBuffer) → Gui
  | none => gui
  | some (field, text) =>
    match panel with
    | .createBookings => { gui with create := gui.create.set field text }
    | .manageBookings => { gui with manage := gui.manage.set field text }

/-- The window with the context that the widgets leave. -/
abbrev Drawn := Database × Except Fault (Gui × Context Id)

def withContext (g : Context Id) (result : Database × Except Fault Gui) : Drawn :=
  (result.1, result.2.map fun gui => (gui, g))

def drawSeats (flight : Flight) (frame : WidgetFrame) (seatLNum : ℕ) :
    List Bool → ℕ → ℕ → Context Id → Gui → Except Fault (Gui × Context Id)
  | [], _, _, g, gui => .ok (gui, g)
  | seat :: rest, label, seatRNum, g, gui => do
    let gui ← (if seat then .ok gui else refill flight gui)
    let (pressed, g) := frame.press (.seat label) (seatLabel seat seatLNum seatRNum label) g
    let gui := if pressed then gui.selectSeat seatLNum seatRNum else gui
    drawSeats flight frame seatLNum rest (label + 1) ((seatRNum + 1) % 2 ^ 16) g gui

def drawRows (flight : Flight) (frame : WidgetFrame) :
    List (List Bool) → ℕ → ℕ → Context Id → Gui → Except Fault (Gui × Context Id)
  | [], _, _, g, gui => .ok (gui, g)
  | row :: rest, label, seatLNum, g, gui => do
    let (gui, g) ← drawSeats flight frame seatLNum row label 0 g gui
    drawRows flight frame rest (label + row.length) ((seatLNum + 1) % 2 ^ 16) g gui

def seatMapGUI (frame : WidgetFrame) (db : Database) (gui : Gui) (g : Context Id) : Drawn :=
  match gui.session.activeFlight with
  | some flight => (db, drawRows flight frame flight.seatMap.seatMap 0 0 g gui)
  | none => (db, .ok (gui, g))

def amadeusWindow (frame : WidgetFrame) (db : Database) (gui : Gui) (g : Context Id) : Drawn :=
  (db, .ok (gui, frame.amadeusWindow g))

/-- The next part of a frame, unless the process has ended. -/
def andThen (drawn : Drawn) (next : Database → Gui → Context Id → Drawn) : Drawn :=
  match drawn with
  | (db, .ok (gui, g)) => next db gui g
  | (db, .error e) => (db, .error e)

/-- The `InputText` calls of a panel. -/
def inputTexts (panel : Panel) (frame : WidgetFrame) (db : Database) (gui : Gui)
    (g : Context Id) : Drawn :=
  let (edit, g) := frame.texts panel g
  (db, .ok (edited gui panel edit, g))

def bookButton (flight : Flight) (frame : WidgetFrame) (db : Database) (gui : Gui)
    (g : Context Id) : Drawn :=
  let (pressed, g) := frame.press .book "Book" g
  if pressed then
    withContext g (gui.after (bookPressed (frame.outcomes .book) db flight gui.session
      gui.create.name.text gui.create.email.text gui.create.maxLoad.text))
  else (db, .ok (gui, g))

def createBookings (frame : WidgetFrame) (db : Database) (gui : Gui) (g : Context Id) : Drawn :=
  match gui.session.activeFlight with
  | none => (db, .ok (gui, g))
  | some flight => andThen (inputTexts .createBookings frame db gui g) (bookButton flight frame)

def updateButton (flight : Flight) (frame : WidgetFrame) (db : Database) (gui : Gui)
    (g : Context Id) : Drawn :=
  let (pressed, g) := frame.press .update "Update" g
  if pressed then
    withContext g (gui.after (updatePressed (frame.outcomes .update) db flight gui.session
      gui.manage.name.text gui.manage.email.text gui.manage.maxLoad.text))
  else (db, .ok (gui, g))

def deleteButton (flight : Flight) (frame : WidgetFrame) (db : Database) (gui : Gui)
    (g : Context Id) : Drawn :=
  let (pressed, g) := frame.press .delete "Delete" g
  if pressed then
    withContext g (gui.after (deletePressed (frame.outcomes .delete) db flight gui.session))
  else (db, .ok (gui, g))

/-- The part below the Update button, on the flight as that leaves it. -/
def belowUpdate (frame : WidgetFrame) (db : Database) (gui : Gui) (g : Context Id) : Drawn :=
  match gui.session.activeFlight with
  | none => (db, .ok (gui, g))
  | some flight => deleteButton flight frame db gui g

def manageBookings (frame : WidgetFrame) (db : Database) (gui : Gui) (g : Context Id) : Drawn :=
  match gui.session.activeFlight with
  | none => (db, .ok (gui, g))
  | some flight =>
    match flight.seatMap.isSeatAvailable gui.session.selectedRowCol.1
        gui.session.selectedRowCol.2 with
    | .error e => (db, .error e)
    | .ok true => (db, .ok (gui, g))
    | .ok false => andThen (andThen (inputTexts .manageBookings frame db gui g)
        (updateButton flight frame)) (belowUpdate frame)

/-- The loop over the listed flights. -/
def selectButtons (frame : WidgetFrame) (db : Database) (flightId : String) :
    List FlightInformation → ℕ → Gui → Context Id → Except Fault (Gui × Context Id)
  | [], _, gui, g => .ok (gui, g)
  | flightInformation :: rest, index, gui, g =>
    let (pressed, g) := frame.press (.select index) (btnCodeLabel flightId) g
    if pressed then do
      let session ← selectPressed (frame.outcomes (.select index)) db flightInformation gui.session
      selectButtons frame db flightId rest (index + 1) { gui with session := session } g
    else selectButtons frame db flightId rest (index + 1) gui g

def selectFlight (datetimeToInt : String → ℤ) (flightId : String) (frame : WidgetFrame)
    (db : Database) (gui : Gui) (g : Context Id) : Drawn :=
  match (getFlightsInfo datetimeToInt db frame.listing).result with
  | .error e => (db, .error e)
  | .ok flightsInformation => (db, selectButtons frame db flightId flightsInformation 0 gui g)

def guiMain (datetimeToInt : String → ℤ) (frame : WidgetFrame) (db : Database) (gui : Gui)
    (g : Context Id) : Drawn :=
  andThen (andThen (andThen (andThen (seatMapGUI frame db gui (frame.newFrame g))
    (amadeusWindow frame)) (createBookings frame)) (manageBookings frame))
    (selectFlight datetimeToInt (flightId gui.session) frame)

/-- The database with the window and the context, or the reason why the process has ended. -/
structure WidgetApp where
  db : Database
  window : Except Fault (Gui × Context Id)

def WidgetApp.start (db : Database) : WidgetApp := ⟨db, .ok (Gui.start, ⟨none, .mouse, none⟩)⟩

def WidgetApp.step (datetimeToInt : String → ℤ) (app : WidgetApp) (frame : WidgetFrame) :
    WidgetApp :=
  match app.window with
  | .error _ => app
  | .ok (gui, g) =>
    ⟨(guiMain datetimeToInt frame app.db gui g).1, (guiMain datetimeToInt frame app.db gui g).2⟩

end AirlineReservation.Widgets
