import AirlineReservation.Frames
import AirlineReservation.Interleaving

/-!
Any number of windows on one database, each with frames of its own. A frame in
which Book or Update is pressed saves with one transaction for each named seat,
so that frames and transactions of other windows come between. Without any of
them the frame is that of the window alone.
-/

namespace AirlineReservation.SharedWindows

open Frames Interleaving

/-- The three panels below the seat grid. -/
def panels (datetimeToInt : String → ℤ) (frame : Frame) (db : Database) (gui : Gui) :
    Database × Except Fault Gui :=
  andThen (andThen (createBookings frame db gui) (manageBookings frame))
    (selectFlight datetimeToInt frame)

/-- The window with this map in the active flight, and the save of it. -/
def beginSave (gui : Gui) (flight : Flight) (seatMap : SeatMap) : Gui × SaveLoop :=
  let active := some { flight with seatMap := seatMap }
  ({ gui with session := { gui.session with activeFlight := active } },
    SaveLoop.begin seatMap (generateBookingTableName active))

/-- The save that a frame begins, if it begins one. -/
def begunSave (frame : Frame) (gui : Gui) : Option (Gui × SaveLoop) :=
  match gui.session.activeFlight with
  | none => none
  | some flight =>
    let (row, col) := gui.session.selectedRowCol
    match frame.input with
    | .pressed .book =>
      match flight.seatMap.bookSeat row col gui.create.name.text gui.create.email.text
          gui.create.maxLoad.text with
      | .ok (true, seatMap) => some (beginSave gui flight seatMap)
      | _ => none
    | .pressed .update =>
      match flight.seatMap.isSeatAvailable row col,
          flight.seatMap.cancelBooking row col >>= fun seatMap =>
            seatMap.bookSeat row col gui.manage.name.text gui.manage.email.text
              gui.manage.maxLoad.text with
      | .ok false, .ok (_, seatMap) => some (beginSave gui flight seatMap)
      | _, _ => none
    | _ => none

/-- The panels that come after the one that saved. -/
def afterSave (datetimeToInt : String → ℤ) (frame : Frame) (db : Database) (gui : Gui) :
    Database × Except Fault Gui :=
  match frame.input with
  | .pressed .book =>
    andThen (manageBookings frame db gui) (selectFlight datetimeToInt frame)
  | _ => selectFlight datetimeToInt frame db gui

/-- A window, with the frame and the save it is in the middle of. -/
structure Window where
  gui : Except Fault Gui
  saving : Option (Frame × SaveLoop)

def Window.start : Window := ⟨.ok Gui.start, none⟩

/-- A frame, as far as its save or else to its end. -/
def Window.frame (datetimeToInt : String → ℤ) (frame : Frame) (db : Database) (w : Window) :
    Database × Window :=
  match w.gui, w.saving with
  | .ok gui, none =>
    match seatMapGUI frame.input gui with
    | .error e => (db, ⟨.error e, none⟩)
    | .ok gui =>
      match begunSave frame gui with
      | some (gui, loop) => (db, ⟨.ok gui, some (frame, loop)⟩)
      | none => ((panels datetimeToInt frame db gui).1,
          ⟨(panels datetimeToInt frame db gui).2, none⟩)
  | _, _ => (db, w)

/-- One iteration of a save, or the rest of the frame when the save is over. -/
def Window.transact (datetimeToInt : String → ℤ) (db : Database) (w : Window) :
    Database × Window :=
  match w.gui, w.saving with
  | .ok gui, some (frame, loop) =>
    match loop.pending with
    | [] => ((afterSave datetimeToInt frame db gui).1,
        ⟨(afterSave datetimeToInt frame db gui).2, none⟩)
    | k :: rest =>
      match insertBookingSeat loop.seatMap loop.tableName (frame.outcomes.seat k) k db with
      | (db', .ok ()) => (db', ⟨.ok gui, some (frame, { loop with pending := rest })⟩)
      | (db', .error e) => (db', ⟨.error e, none⟩)
  | _, _ => (db, w)

structure Shared (ι : Type*) where
  db : Database
  windows : ι → Window

inductive Event (ι : Type*)
  | frame (i : ι) (frame : Frame)
  | transact (i : ι)

variable {ι : Type*} [DecidableEq ι] (datetimeToInt : String → ℤ)

/-- What a step of one window makes of the database and of that window. -/
def Shared.put (sys : Shared ι) (i : ι) (result : Database × Window) : Shared ι :=
  ⟨result.1, Function.update sys.windows i result.2⟩

def step (sys : Shared ι) : Event ι → Shared ι
  | .frame i frame => sys.put i ((sys.windows i).frame datetimeToInt frame sys.db)
  | .transact i => sys.put i ((sys.windows i).transact datetimeToInt sys.db)

theorem Shared.put_put (sys : Shared ι) (i : ι) (result result' : Database × Window) :
    (sys.put i result).put i result' = sys.put i result' := by
  simp only [Shared.put, Function.update_idem]

/-- What the whole save and the panels after it give. -/
def saved (frame : Frame) (gui : Gui) (loop : SaveLoop) (db : Database) :
    Database × Except Fault Gui :=
  match insertBookingLoop loop.seatMap loop.tableName frame.outcomes.seat loop.pending db with
  | (db', .ok ()) => afterSave datetimeToInt frame db' gui
  | (db', .error e) => (db', .error e)

/-- The button handlers save what `beginSave` begins to save. -/
theorem after_saveActive (frame : Frame) {gui gui' : Gui} {flight : Flight} {seatMap : SeatMap}
    {loop : SaveLoop} (h : beginSave gui flight seatMap = (gui', loop)) (db : Database) :
    gui.after (saveActive frame.outcomes db flight seatMap gui.session) =
      match insertBookingLoop loop.seatMap loop.tableName frame.outcomes.seat loop.pending db with
      | (db', .ok ()) => (db', .ok gui')
      | (db', .error e) => (db', .error e) := by
  obtain ⟨rfl, rfl⟩ := Prod.mk.inj h
  simp only [saveActive, insertBookingData, SaveLoop.begin]
  cases insertBookingLoop seatMap
      (generateBookingTableName (some { flight with seatMap := seatMap })) frame.outcomes.seat
      seatMap.seats db with
  | mk db' result => cases result <;> rfl

/-- A frame that saves is the save and the panels after it. -/
theorem panels_of_begunSave {frame : Frame} {db : Database} {gui gui' : Gui} {loop : SaveLoop}
    (h : begunSave frame gui = some (gui', loop)) :
    panels datetimeToInt frame db gui = saved datetimeToInt frame gui' loop db := by
  unfold begunSave at h
  cases hactive : gui.session.activeFlight with
  | none =>
    rw [hactive] at h
    contradiction
  | some flight =>
    rw [hactive] at h
    simp only at h
    split at h
    · next hinput =>
      split at h
      · next seatMap hbook =>
        have hbegun : beginSave gui flight seatMap = (gui', loop) := Option.some.inj h
        have hcreate : createBookings frame db gui =
            gui.after (saveActive frame.outcomes db flight seatMap gui.session) := by
          simp only [createBookings, hactive, hinput, inputTexts, bookPressed, hbook]
        rw [panels, hcreate, after_saveActive frame hbegun, saved]
        split
        · simp only [andThen, afterSave, hinput]
        · rfl
      · contradiction
    · next hinput =>
      split at h
      · next seatMap hseat hbook =>
        have hbegun : beginSave gui flight seatMap = (gui', loop) := Option.some.inj h
        have hcreate : createBookings frame db gui = (db, .ok gui) := by
          simp only [createBookings, hactive, hinput, inputTexts]
        have hmanage : manageBookings frame db gui =
            gui.after (saveActive frame.outcomes db flight seatMap gui.session) := by
          simp only [manageBookings, hactive, hseat, hinput, inputTexts, updatePressed, hbook]
        rw [panels, hcreate, andThen, hmanage, after_saveActive frame hbegun, saved]
        split
        · simp only [andThen, afterSave, hinput]
        · rfl
      · contradiction
    · contradiction

/-- A window that ended in a save takes no more transactions. -/
theorem run_transact_ended (sys : Shared ι) (i : ι) {result : Except Fault Gui}
    (h : sys.windows i = ⟨result, none⟩) (n : ℕ) :
    Run.run (step datetimeToInt) sys (List.replicate n (.transact i)) = sys := by
  have hstep : step datetimeToInt sys (.transact i) = sys := by
    simp only [step, Shared.put, h, Window.transact]
    cases result <;> simp [← h]
  induction n with
  | zero => rfl
  | succ n ih => rw [List.replicate_succ, Run.run_cons, hstep, ih]

/-- The transactions of a save, one after the other. -/
theorem run_transacts (frame : Frame) (gui : Gui) (seatMap : SeatMap) (tableName : String)
    (seats : List (ℤ × ℤ)) (sys : Shared ι) (i : ι)
    (h : sys.windows i = ⟨.ok gui, some (frame, ⟨seatMap, tableName, seats⟩)⟩) :
    Run.run (step datetimeToInt) sys (List.replicate (seats.length + 1) (.transact i)) =
      sys.put i ((saved datetimeToInt frame gui ⟨seatMap, tableName, seats⟩ sys.db).1,
        ⟨(saved datetimeToInt frame gui ⟨seatMap, tableName, seats⟩ sys.db).2, none⟩) := by
  induction seats generalizing sys with
  | nil =>
    have hstep : step datetimeToInt sys (.transact i) = sys.put i
        ((afterSave datetimeToInt frame sys.db gui).1,
          ⟨(afterSave datetimeToInt frame sys.db gui).2, none⟩) := by
      simp only [step, h, Window.transact]
    exact hstep
  | cons k rest ih =>
    rw [List.length_cons, List.replicate_succ, Run.run_cons]
    cases hseat : insertBookingSeat seatMap tableName (frame.outcomes.seat k) k sys.db with
    | mk db' result =>
      cases result with
      | ok _ =>
        have hstep : step datetimeToInt sys (.transact i) = sys.put i
            (db', ⟨.ok gui, some (frame, ⟨seatMap, tableName, rest⟩)⟩) := by
          simp only [step, h, Window.transact, hseat]
        have hloop : saved datetimeToInt frame gui ⟨seatMap, tableName, k :: rest⟩ sys.db =
            saved datetimeToInt frame gui ⟨seatMap, tableName, rest⟩ db' := by
          simp only [saved, insertBookingLoop, hseat]
        rw [hstep, ih _ (Function.update_self i _ sys.windows), Shared.put_put, hloop]
        rfl
      | error e =>
        have hstep : step datetimeToInt sys (.transact i) =
            sys.put i (db', ⟨.error e, none⟩) := by
          simp only [step, h, Window.transact, hseat]
        have hloop : saved datetimeToInt frame gui ⟨seatMap, tableName, k :: rest⟩ sys.db =
            (db', .error e) := by
          simp only [saved, insertBookingLoop, hseat]
        rw [hstep, run_transact_ended datetimeToInt _ i (Function.update_self i _ sys.windows),
          hloop]

/-- A frame and its transactions, with none of another window between them, are the
frame of the window alone. -/
theorem uninterrupted_frame (frame : Frame) (gui : Gui) (sys : Shared ι) (i : ι)
    (h : sys.windows i = ⟨.ok gui, none⟩) :
    ∃ n, Run.run (step datetimeToInt) sys (.frame i frame :: List.replicate n (.transact i)) =
      sys.put i ((guiMain datetimeToInt frame sys.db gui).1,
        ⟨(guiMain datetimeToInt frame sys.db gui).2, none⟩) := by
  cases hgrid : seatMapGUI frame.input gui with
  | error e =>
    refine ⟨0, ?_⟩
    simp only [List.replicate_zero, Run.run_cons, Run.run_nil, step, h, Window.frame, hgrid,
      guiMain, andThen]
  | ok gui₁ =>
    have hmain : guiMain datetimeToInt frame sys.db gui =
        panels datetimeToInt frame sys.db gui₁ := by
      simp only [guiMain, andThen, hgrid, panels]
    rw [hmain]
    cases hsave : begunSave frame gui₁ with
    | none =>
      refine ⟨0, ?_⟩
      simp only [List.replicate_zero, Run.run_cons, Run.run_nil, step, h, Window.frame, hgrid,
        hsave]
    | some begun =>
      obtain ⟨gui₂, loop⟩ := begun
      have hstep : step datetimeToInt sys (.frame i frame) =
          sys.put i (sys.db, ⟨.ok gui₂, some (frame, loop)⟩) := by
        simp only [step, h, Window.frame, hgrid, hsave]
      refine ⟨loop.pending.length + 1, ?_⟩
      rw [Run.run_cons, hstep, panels_of_begunSave datetimeToInt hsave,
        run_transacts datetimeToInt frame gui₂ loop.seatMap loop.tableName loop.pending _ i
          (Function.update_self i _ sys.windows), Shared.put_put]
      rfl

end AirlineReservation.SharedWindows
