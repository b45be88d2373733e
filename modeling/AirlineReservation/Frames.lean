import AirlineReservation.Application
import Mathlib.Data.List.TakeWhile

/-!
The frames of the window. Each frame draws the seat grid, the panel for new
bookings, the panel for existing ones and the list of flights, in this order,
and at most one widget is touched in it: a text field that is being edited, or a
button. The seat grid refills the buffers of the second panel at every taken
seat it draws.
-/

namespace AirlineReservation.Frames

/-- The text up to its first NUL. -/
def cString (text : String) : String :=
  String.ofList (text.toList.takeWhile fun c => c ≠ Char.ofNat 0)

/-- The contents of a `char[512]`. -/
structure CharBuffer where
  text : String
  fits : text.utf8ByteSize ≤ 511
  terminated : cString text = text

theorem cString_cString (text : String) : cString (cString text) = cString text := by
  simp [cString, List.takeWhile_idem]

def CharBuffer.empty : CharBuffer := ⟨"", by decide, by decide⟩

/-- `strcpy_s` into a `char[512]`. -/
def strcpyS (text : String) : Except Fault CharBuffer :=
  if h : (cString text).utf8ByteSize ≤ 511 then .ok ⟨cString text, h, cString_cString text⟩
  else .error .bufferTooSmall

theorem strcpyS_ok {text : String} {buffer : CharBuffer} (h : strcpyS text = .ok buffer) :
    buffer.text = cString text := by
  unfold strcpyS at h
  split at h
  · rw [← Except.ok.inj h]
  · contradiction

/-- The three buffers of a panel. -/
structure Buffers where
  name : CharBuffer
  email : CharBuffer
  maxLoad : CharBuffer

def Buffers.empty : Buffers := ⟨.empty, .empty, .empty⟩

inductive Field
  | name
  | email
  | maxLoad
  deriving DecidableEq, Repr

def Buffers.get (buffers : Buffers) : Field → CharBuffer
  | .name => buffers.name
  | .email => buffers.email
  | .maxLoad => buffers.maxLoad

def Buffers.set (buffers : Buffers) (field : Field) (text : CharBuffer) : Buffers :=
  match field with
  | .name => { buffers with name := text }
  | .email => { buffers with email := text }
  | .maxLoad => { buffers with maxLoad := text }

inductive Panel
  | createBookings
  | manageBookings
  deriving DecidableEq, Repr

/-- A seat button is known by its label counter, a Select button by its place. -/
inductive Button
  | seat (label : ℕ)
  | book
  | update
  | delete
  | select (index : ℕ)
  deriving DecidableEq, Repr

/-- What the user does in a frame. A field is edited to the text typed so far. -/
inductive Input
  | idle
  | typed (panel : Panel) (field : Field) (text : CharBuffer)
  | pressed (button : Button)

/-- A frame with the outcomes of the SQL statements it may issue. -/
structure Frame where
  input : Input
  listing : RetrievalOutcome
  outcomes : SqlOutcomes

/-- The session with `passengerBuffer`, `emailBuffer`, `maxLoadBuffer` (of the
panel for existing bookings) and the three of the panel for new ones. -/
structure Gui where
  session : Session
  create : Buffers
  manage : Buffers

def Gui.start : Gui := ⟨Session.start, .empty, .empty⟩

/-- The `InputText` calls of a panel. -/
def inputTexts (panel : Panel) (input : Input) (buffers : Buffers) : Buffers :=
  match input with
  | .typed panel' field text => if panel' = panel then buffers.set field text else buffers
  | _ => buffers

/-- The three `strcpy_s` of a taken seat: they copy the texts of the selected one. -/
def refill (flight : Flight) (gui : Gui) : Except Fault Gui := do
  let (row, col) := gui.session.selectedRowCol
  let name ← strcpyS (← flight.seatMap.getPassengerName row col)
  let email ← strcpyS (← flight.seatMap.getEmail row col)
  let maxLoad ← strcpyS (← flight.seatMap.getMaxLoad row col)
  return { gui with manage := ⟨name, email, maxLoad⟩ }

def Gui.selectSeat (gui : Gui) (row col : ℕ) : Gui :=
  { gui with session := { gui.session with selectedRowCol := (row, col) } }

/-- The label of the seat button that is pressed, if one is. -/
def clicked (input : Input) : Option ℕ :=
  match input with
  | .pressed (.seat label) => some label
  | _ => none

/-- The loop over one row, from a label and a column on. `seatRNum` wraps. -/
def drawSeats (flight : Flight) (input : Input) (seatLNum : ℕ) :
    List Bool → ℕ → ℕ → Gui → Except Fault Gui
  | [], _, _, gui => .ok gui
  | seat :: rest, label, seatRNum, gui => do
    let gui ← (if seat then .ok gui else refill flight gui)
    let gui := if clicked input = some label then gui.selectSeat seatLNum seatRNum else gui
    drawSeats flight input seatLNum rest (label + 1) ((seatRNum + 1) % 2 ^ 16) gui

/-- The loop over the rows, from a label and a row on. `seatLNum` wraps. -/
def drawRows (flight : Flight) (input : Input) :
    List (List Bool) → ℕ → ℕ → Gui → Except Fault Gui
  | [], _, _, gui => .ok gui
  | row :: rest, label, seatLNum, gui => do
    let gui ← drawSeats flight input seatLNum row label 0 gui
    drawRows flight input rest (label + row.length) ((seatLNum + 1) % 2 ^ 16) gui

def seatMapGUI (input : Input) (gui : Gui) : Except Fault Gui :=
  match gui.session.activeFlight with
  | some flight => drawRows flight input flight.seatMap.seatMap 0 0 gui
  | none => .ok gui

/-- Put the session that a button handler returns back into the window. -/
def Gui.after (gui : Gui) (result : Database × Except Fault Session) :
    Database × Except Fault Gui :=
  (result.1, result.2.map fun session => { gui with session := session })

def createBookings (frame : Frame) (db : Database) (gui : Gui) : Database × Except Fault Gui :=
  match gui.session.activeFlight with
  | none => (db, .ok gui)
  | some flight =>
    let gui := { gui with create := inputTexts .createBookings frame.input gui.create }
    match frame.input with
    | .pressed .book => gui.after (bookPressed frame.outcomes db flight gui.session
        gui.create.name.text gui.create.email.text gui.create.maxLoad.text)
    | _ => (db, .ok gui)

def manageBookings (frame : Frame) (db : Database) (gui : Gui) : Database × Except Fault Gui :=
  match gui.session.activeFlight with
  | none => (db, .ok gui)
  | some flight =>
    match flight.seatMap.isSeatAvailable gui.session.selectedRowCol.1
        gui.session.selectedRowCol.2 with
    | .error e => (db, .error e)
    | .ok true => (db, .ok gui)
    | .ok false =>
      let gui := { gui with manage := inputTexts .manageBookings frame.input gui.manage }
      match frame.input with
      | .pressed .update => gui.after (updatePressed frame.outcomes db flight gui.session
          gui.manage.name.text gui.manage.email.text gui.manage.maxLoad.text)
      | .pressed .delete => gui.after (deletePressed frame.outcomes db flight gui.session)
      | _ => (db, .ok gui)

/-- The list of flights is read again in every frame. -/
def selectFlight (datetimeToInt : String → ℤ) (frame : Frame) (db : Database) (gui : Gui) :
    Database × Except Fault Gui :=
  match (getFlightsInfo datetimeToInt db frame.listing).result with
  | .error e => (db, .error e)
  | .ok flightsInformation =>
    match frame.input with
    | .pressed (.select index) =>
      match flightsInformation[index]? with
      | some flightInformation =>
        gui.after (db, selectPressed frame.outcomes db flightInformation gui.session)
      | none => (db, .ok gui)
    | _ => (db, .ok gui)

/-- The next panel, unless the process has ended. -/
def andThen (result : Database × Except Fault Gui)
    (panel : Database → Gui → Database × Except Fault Gui) : Database × Except Fault Gui :=
  match result with
  | (db, .ok gui) => panel db gui
  | (db, .error e) => (db, .error e)

def guiMain (datetimeToInt : String → ℤ) (frame : Frame) (db : Database) (gui : Gui) :
    Database × Except Fault Gui :=
  andThen (andThen (andThen (db, seatMapGUI frame.input gui) (createBookings frame))
    (manageBookings frame)) (selectFlight datetimeToInt frame)

/-- The database with the window, which is an error once the process has ended. -/
structure GuiApp where
  db : Database
  gui : Except Fault Gui

def GuiApp.start (db : Database) : GuiApp := ⟨db, .ok Gui.start⟩

def GuiApp.step (datetimeToInt : String → ℤ) (app : GuiApp) (frame : Frame) : GuiApp :=
  match app.gui with
  | .error _ => app
  | .ok gui =>
    ⟨(guiMain datetimeToInt frame app.db gui).1, (guiMain datetimeToInt frame app.db gui).2⟩

/-- The row and column of the seat with this label. -/
def seatAt : List (List Bool) → ℕ → Option (ℕ × ℕ)
  | [], _ => none
  | row :: rest, k =>
    if k < row.length then some (0, k)
    else (seatAt rest (k - row.length)).map fun (i, j) => (i + 1, j)

/-- Refilled buffers hold the texts of the selected seat. -/
theorem refill_ok {flight : Flight} {gui gui' : Gui} (h : refill flight gui = .ok gui') :
    ∃ name email maxLoad buffers,
      flight.seatMap.getPassengerName gui.session.selectedRowCol.1
        gui.session.selectedRowCol.2 = .ok name ∧
      flight.seatMap.getEmail gui.session.selectedRowCol.1
        gui.session.selectedRowCol.2 = .ok email ∧
      flight.seatMap.getMaxLoad gui.session.selectedRowCol.1
        gui.session.selectedRowCol.2 = .ok maxLoad ∧
      gui' = { gui with manage := buffers } ∧ buffers.name.text = cString name ∧
      buffers.email.text = cString email ∧ buffers.maxLoad.text = cString maxLoad := by
  unfold refill at h
  obtain ⟨name, hname, h⟩ := exists_of_bind_ok h
  obtain ⟨nameBuffer, hnameBuffer, h⟩ := exists_of_bind_ok h
  obtain ⟨email, hemail, h⟩ := exists_of_bind_ok h
  obtain ⟨emailBuffer, hemailBuffer, h⟩ := exists_of_bind_ok h
  obtain ⟨maxLoad, hmaxLoad, h⟩ := exists_of_bind_ok h
  obtain ⟨maxLoadBuffer, hmaxLoadBuffer, h⟩ := exists_of_bind_ok h
  exact ⟨name, email, maxLoad, ⟨nameBuffer, emailBuffer, maxLoadBuffer⟩, hname, hemail, hmaxLoad,
    (Except.ok.inj h).symm, strcpyS_ok hnameBuffer, strcpyS_ok hemailBuffer,
    strcpyS_ok hmaxLoadBuffer⟩

/-- One seat of the loop: the refill, then the button. -/
theorem drawSeats_cons_ok {flight : Flight} {input : Input} {seatLNum label seatRNum : ℕ}
    {seat : Bool} {rest : List Bool} {gui gui' : Gui}
    (h : drawSeats flight input seatLNum (seat :: rest) label seatRNum gui = .ok gui') :
    ∃ gui₁, (if seat then .ok gui else refill flight gui) = .ok gui₁ ∧
      drawSeats flight input seatLNum rest (label + 1) ((seatRNum + 1) % 2 ^ 16)
        (if clicked input = some label then gui₁.selectSeat seatLNum seatRNum else gui₁) =
        .ok gui' :=
  exists_of_bind_ok h

/-- The session after the seat at (row, col) was pressed, if one was. -/
def Gui.pressedSession (gui : Gui) (target : Option (ℕ × ℕ)) : Session :=
  match target with
  | some (row, col) => (gui.selectSeat row col).session
  | none => gui.session

theorem drawSeats_session {flight : Flight} {input : Input} {seatLNum label seatRNum : ℕ}
    {row : List Bool} {gui gui' : Gui} (hnum : seatRNum < 2 ^ 16)
    (h : drawSeats flight input seatLNum row label seatRNum gui = .ok gui') :
    gui'.create = gui.create ∧ gui'.session = gui.pressedSession
      ((clicked input).bind fun p => if label ≤ p ∧ p < label + row.length then
        some (seatLNum, (seatRNum + (p - label)) % 2 ^ 16) else none) := by
  induction row generalizing label seatRNum gui with
  | nil =>
    cases Except.ok.inj h
    refine ⟨rfl, ?_⟩
    cases hclick : clicked input with
    | none => rfl
    | some p =>
      have hnot : ¬ (label ≤ p ∧ p < label + ([] : List Bool).length) := by
        simp only [List.length_nil]
        omega
      rw [Option.bind_some, if_neg hnot]
      rfl
  | cons seat rest ih =>
    obtain ⟨gui₁, hseat, hrest⟩ := drawSeats_cons_ok h
    have hkeep : gui₁.create = gui.create ∧ gui₁.session = gui.session := by
      split at hseat
      · cases Except.ok.inj hseat
        exact ⟨rfl, rfl⟩
      · obtain ⟨_, _, _, buffers, _, _, _, rfl, _⟩ := refill_ok hseat
        exact ⟨rfl, rfl⟩
    obtain ⟨hcreate, hsession⟩ := ih (Nat.mod_lt _ (by decide)) hrest
    refine ⟨?_, ?_⟩
    · rw [hcreate]
      split <;> exact hkeep.1
    · rw [hsession]
      cases hclick : clicked input with
      | none => simpa [Gui.pressedSession] using hkeep.2
      | some p =>
        simp only [Option.bind_some, Option.some.injEq, List.length_cons]
        by_cases hp : p = label
        · subst hp
          have hcol : (seatRNum + (p - p)) % 2 ^ 16 = seatRNum := by omega
          have hafter : ¬ (p + 1 ≤ p ∧ p < p + 1 + rest.length) := by omega
          have hhere : p ≤ p ∧ p < p + (rest.length + 1) := by omega
          rw [if_neg hafter, if_pos hhere, if_pos rfl, hcol]
          simp [Gui.pressedSession, Gui.selectSeat, hkeep.2]
        · have hcol : ((seatRNum + 1) % 2 ^ 16 + (p - (label + 1))) % 2 ^ 16 =
              (seatRNum + (p - label)) % 2 ^ 16 ∨ p < label := by omega
          have hrange : (label + 1 ≤ p ∧ p < label + 1 + rest.length) ↔
              (label ≤ p ∧ p < label + (rest.length + 1)) := by omega
          rw [if_neg hp]
          simp only [hrange]
          by_cases hin : label ≤ p ∧ p < label + (rest.length + 1)
          · rcases hcol with hcol | hlt
            · rw [if_pos hin, if_pos hin, hcol]
              simp [Gui.pressedSession, Gui.selectSeat, hkeep.2]
            · omega
          · rw [if_neg hin, if_neg hin]
            exact hkeep.2

theorem drawRows_cons_ok {flight : Flight} {input : Input} {label seatLNum : ℕ}
    {row : List Bool} {rest : List (List Bool)} {gui gui' : Gui}
    (h : drawRows flight input (row :: rest) label seatLNum gui = .ok gui') :
    ∃ gui₁, drawSeats flight input seatLNum row label 0 gui = .ok gui₁ ∧
      drawRows flight input rest (label + row.length) ((seatLNum + 1) % 2 ^ 16) gui₁ =
        .ok gui' :=
  exists_of_bind_ok h

/-- The pressed button selects the seat it is drawn for, modulo the counters. -/
theorem drawRows_session {flight : Flight} {input : Input} {label seatLNum : ℕ}
    {rows : List (List Bool)} {gui gui' : Gui} (hnum : seatLNum < 2 ^ 16)
    (h : drawRows flight input rows label seatLNum gui = .ok gui') :
    gui'.create = gui.create ∧ gui'.session = gui.pressedSession
      ((clicked input).bind fun p => if label ≤ p then (seatAt rows (p - label)).map
        fun (i, j) => ((seatLNum + i) % 2 ^ 16, j % 2 ^ 16) else none) := by
  induction rows generalizing label seatLNum gui with
  | nil =>
    cases Except.ok.inj h
    refine ⟨rfl, ?_⟩
    cases clicked input with
    | none => rfl
    | some p =>
      rw [Option.bind_some]
      split <;> rfl
  | cons row rest ih =>
    obtain ⟨gui₁, hrow, hrest⟩ := drawRows_cons_ok h
    obtain ⟨hcreate₁, hsession₁⟩ := drawSeats_session (by decide) hrow
    obtain ⟨hcreate, hsession⟩ := ih (Nat.mod_lt _ (by decide)) hrest
    refine ⟨hcreate.trans hcreate₁, ?_⟩
    rw [hsession]
    cases hclick : clicked input with
    | none =>
      rw [hclick] at hsession₁
      exact hsession₁
    | some p =>
      rw [hclick] at hsession₁
      simp only [Option.bind_some] at hsession₁ ⊢
      by_cases hlow : label ≤ p
      · by_cases hrow : p < label + row.length
        · have hlater : ¬ label + row.length ≤ p := by omega
          have hhere : p - label < row.length := by omega
          have hfirst : (seatLNum + 0) % 2 ^ 16 = seatLNum := by omega
          rw [if_neg hlater, if_pos hlow, seatAt, if_pos hhere, Option.map_some]
          rw [if_pos ⟨hlow, hrow⟩, Nat.zero_add] at hsession₁
          simp only [hfirst]
          exact hsession₁
        · have hlater : label + row.length ≤ p := by omega
          have hbeyond : ¬ p - label < row.length := by omega
          have hrest : p - (label + row.length) = p - label - row.length := by omega
          rw [if_pos hlater, if_pos hlow, seatAt, if_neg hbeyond, hrest, Option.map_map]
          rw [if_neg (fun hboth => hrow hboth.2)] at hsession₁
          cases seatAt rest (p - label - row.length) with
          | none => exact hsession₁
          | some seat =>
            have hnext : ((seatLNum + 1) % 2 ^ 16 + seat.1) % 2 ^ 16 =
                (seatLNum + (seat.1 + 1)) % 2 ^ 16 := by omega
            have hkeep : gui₁.session = gui.session := hsession₁
            simp only [Option.map_some, Function.comp_apply, hnext, Gui.pressedSession,
              Gui.selectSeat, hkeep]
      · have hlater : ¬ label + row.length ≤ p := by omega
        rw [if_neg hlow, if_neg hlater]
        rw [if_neg (fun hboth => hlow hboth.1)] at hsession₁
        exact hsession₁

theorem isSome_read_seatAt {rows : List (List Bool)} {k i j : ℕ}
    (h : seatAt rows k = some (i, j)) : (Grid.read rows (i : ℤ) (j : ℤ)).isSome := by
  rw [Grid.read_natCast]
  induction rows generalizing k i with
  | nil => contradiction
  | cons row rest ih =>
    unfold seatAt at h
    split at h
    · next hk =>
      cases Option.some.inj h
      simp [hk]
    · obtain ⟨⟨i', j'⟩, hseat, heq⟩ := Option.map_eq_some_iff.mp h
      cases heq
      simpa using ih hseat

end AirlineReservation.Frames
