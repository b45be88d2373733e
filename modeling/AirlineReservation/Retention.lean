import AirlineReservation.FrameWrites
import AirlineReservation.Provenance
import AirlineReservation.WindowsApart

/-!
What becomes of a stored booking. Among all the frames and transactions of any
number of windows, only Delete removes the rows of a seat: in every run they are
kept until the first Delete of that seat, in whichever window, and not longer.
-/

namespace AirlineReservation.Retention

open Frames SharedWindows Provenance FrameWrites BookingInformation

/-- The table with this key has a row for the seat. -/
def HasRow (key : List Char) (k : ℤ × ℤ) (db : Database) : Prop :=
  ∃ t, db.bookings key = some t ∧ RowTable.rowsAt seat k t ≠ []

variable {key : List Char} {k : ℤ × ℤ}

section Tables

variable {db : Database} {tableName : String}

/-- Replacing one table concerns the seats of that table only. -/
theorem hasRow_setBookingTable {t : List BookingInformation} (hkey : tableKey tableName = some key)
    (t' : List BookingInformation) (ht : db.bookingTable tableName = some t) :
    HasRow key k (db.setBookingTable tableName t') ↔ RowTable.rowsAt seat k t' ≠ [] := by
  have hset : (db.setBookingTable tableName t').bookings key = some t' := by
    have hself := db.bookingTable_setBookingTable_self tableName ht t'
    rwa [Database.bookingTable, hkey] at hself
  constructor
  · intro hrow
    obtain ⟨t'', ht'', hrows⟩ := hrow
    cases Option.some.inj (hset.symm.trans ht'')
    exact hrows
  · exact fun hrows => ⟨t', hset, hrows⟩

theorem hasRow_setBookingTable_ne (hkey : tableKey tableName ≠ some key)
    (t' : List BookingInformation) :
    HasRow key k (db.setBookingTable tableName t') ↔ HasRow key k db := by
  have hsame : (db.setBookingTable tableName t').bookings key = db.bookings key := by
    unfold Database.setBookingTable
    split
    · rfl
    · next name hname =>
      have hne : key ≠ name := fun heq => hkey (heq ▸ hname)
      exact Function.update_of_ne hne _ _
  simp only [HasRow, hsame]

theorem hasRow_of_bookingTable {t : List BookingInformation} (hkey : tableKey tableName = some key)
    (ht : db.bookingTable tableName = some t) :
    HasRow key k db ↔ RowTable.rowsAt seat k t ≠ [] := by
  have hself := hasRow_setBookingTable (k := k) hkey t ht
  rwa [db.setBookingTable_self tableName ht] at hself

theorem HasRow.insertBookingSeat (h : HasRow key k db) (s : SeatMap) (tableName : String)
    (outcome : TransactionOutcome) (seat' : ℤ × ℤ) :
    HasRow key k (insertBookingSeat s tableName outcome seat' db).1 := by
  rcases insertBookingSeat_db s db tableName outcome seat' with
    hsame | ⟨t, b, ht, _, _, _, _, _, _, hset⟩
  · rwa [hsame]
  · rw [hset]
    by_cases hkey : tableKey tableName = some key
    · rw [hasRow_setBookingTable hkey _ ht]
      rw [hasRow_of_bookingTable hkey ht] at h
      by_cases hseat : k = b.seat
      · simp [hseat, RowTable.rowsAt_upsert_self]
      · rwa [RowTable.rowsAt_upsert_ne _ _ _ _ hseat]
    · rwa [hasRow_setBookingTable_ne hkey]

/-- Saves alone take no row away. -/
theorem kept_hasRow : Kept False (HasRow key k) :=
  ⟨fun s tableName outcome seat' _ h => h.insertBookingSeat s tableName outcome seat',
    fun hdeletes => hdeletes.elim⟩

/-- A delete takes the rows of its seat from its table. -/
theorem hasRow_deleteBookingData (r c : ℤ) (raises : Bool) :
    HasRow key k (deleteBookingData db tableName r c raises) ↔
      HasRow key k db ∧ ¬ (tableKey tableName = some key ∧ (r, c) = k ∧ raises = false) := by
  cases ht : db.bookingTable tableName with
  | none =>
    rw [deleteBookingData_missing ht]
    refine ⟨fun h => ⟨h, ?_⟩, fun h => h.1⟩
    intro hdelete
    obtain ⟨t, hstored, _⟩ := h
    rw [Database.bookingTable, hdelete.1, Option.bind_some, hstored] at ht
    contradiction
  | some t =>
    rw [deleteBookingData_eq ht]
    by_cases hkey : tableKey tableName = some key
    · rw [hasRow_setBookingTable hkey _ ht, hasRow_of_bookingTable hkey ht]
      cases raises with
      | true => simp
      | false =>
        by_cases hseat : (r, c) = k
        · simp [hseat, hkey, RowTable.rowsAt_deleteAt_self]
        · simp [hseat, RowTable.rowsAt_deleteAt_ne _ _ _ _ (Ne.symm hseat)]
    · rw [hasRow_setBookingTable_ne hkey]
      simp [hkey]

end Tables

section Panels

variable {db : Database} (frame : Frame) (gui : Gui)

/-- In a frame with Delete pressed only the panel for existing bookings stores anything. -/
theorem panels_delete (datetimeToInt : String → ℤ) (hinput : frame.input = .pressed .delete) :
    (panels datetimeToInt frame db gui).1 = (manageBookings frame db gui).1 := by
  have hcreate : createBookings frame db gui = (db, .ok gui) := by
    unfold Frames.createBookings
    rw [hinput]
    cases gui.session.activeFlight <;> rfl
  unfold SharedWindows.panels
  rw [hcreate]
  cases hmanage : manageBookings frame db gui with
  | mk db' window =>
    simp only [andThen, hmanage]
    cases window with
    | error e => rfl
    | ok gui' => exact selectFlight_fst datetimeToInt frame db' gui'

theorem exists_cancelBooking {s : SeatMap} (hs : s.Shaped) (r c : ℤ) :
    ∃ s', s.cancelBooking r c = .ok s' := by
  by_cases hin : s.InRange r c
  · exact ⟨_, hs.cancelBooking_of_inRange hin⟩
  · exact ⟨s, SeatMap.cancelBooking_of_not_inRange hin⟩

/-- Delete takes the rows of the selected seat, when its button is shown. -/
theorem hasRow_manageBookings (h : HasRow key k db) (hinput : frame.input = .pressed .delete)
    (hshaped : ∀ flight, gui.session.activeFlight = some flight → flight.seatMap.Shaped) :
    HasRow key k (manageBookings frame db gui).1 ↔
      ¬ ∃ flight, gui.session.activeFlight = some flight ∧
        tableKey ("Booking" ++ flight.flightID) = some key ∧ gui.session.selectedRowCol = k ∧
        flight.seatMap.isSeatAvailable k.1 k.2 = .ok false ∧
        frame.outcomes.deleteRaises = false := by
  unfold Frames.manageBookings
  cases hactive : gui.session.activeFlight with
  | none => simp [h]
  | some flight =>
    obtain ⟨cancelled, hcancel⟩ := exists_cancelBooking (hshaped flight hactive)
      gui.session.selectedRowCol.1 gui.session.selectedRowCol.2
    simp only
    cases hseat : flight.seatMap.isSeatAvailable gui.session.selectedRowCol.1
        gui.session.selectedRowCol.2 with
    | error e =>
      refine ⟨fun _ hdelete => ?_, fun _ => h⟩
      obtain ⟨flight', hflight', _, rfl, hfree, _⟩ := hdelete
      cases hflight'
      rw [hseat] at hfree
      contradiction
    | ok available =>
      cases available with
      | true =>
        refine ⟨fun _ hdelete => ?_, fun _ => h⟩
        obtain ⟨flight', hflight', _, rfl, hfree, _⟩ := hdelete
        cases hflight'
        rw [hseat] at hfree
        contradiction
      | false =>
        simp only [hinput, Gui.after, deletePressed, hcancel, generateBookingTableName,
          hasRow_deleteBookingData, h, true_and, Option.some.injEq]
        refine not_congr ⟨fun hdelete => ?_, fun hdelete => ?_⟩
        · obtain ⟨hkey, rfl, hraises⟩ := hdelete
          exact ⟨flight, rfl, hkey, rfl, hseat, hraises⟩
        · obtain ⟨flight', rfl, hkey, rfl, _, hraises⟩ := hdelete
          exact ⟨hkey, rfl, hraises⟩

end Panels

/-- In this frame the window deletes the rows of the seat from the table with this key. -/
def Deletes (w : Window) (frame : Frame) (key : List Char) (k : ℤ × ℤ) : Prop :=
  ∃ gui drawn flight, w = ⟨.ok gui, none⟩ ∧ frame.input = .pressed .delete ∧
    seatMapGUI frame.input gui = .ok drawn ∧ gui.session.activeFlight = some flight ∧
    tableKey ("Booking" ++ flight.flightID) = some key ∧ gui.session.selectedRowCol = k ∧
    flight.seatMap.isSeatAvailable k.1 k.2 = .ok false ∧ frame.outcomes.deleteRaises = false

section Steps

variable {db : Database} (h : HasRow key k db) {w : Window} (datetimeToInt : String → ℤ)
include h

/-- The panels of a frame with Delete pressed, below the grid that has been drawn. -/
theorem hasRow_panels {frame : Frame} {gui drawn : Gui} (hinput : frame.input = .pressed .delete)
    (hdraw : seatMapGUI frame.input gui = .ok drawn)
    (hgui : ShownIn (fun _ _ => True) gui.session) :
    HasRow key k (panels datetimeToInt frame db drawn).1 ↔
      ¬ Deletes ⟨.ok gui, none⟩ frame key k := by
  have hclicked : clicked frame.input = none := by rw [hinput]; rfl
  have hsession := (seatMapGUI_unclicked hdraw hclicked).1
  rw [panels_delete frame drawn datetimeToInt hinput, hasRow_manageBookings frame drawn h hinput
    fun flight hactive => (hgui flight (hsession ▸ hactive)).valid.shaped, hsession]
  refine not_congr ⟨fun hdelete => ?_, fun hdelete => ?_⟩
  · obtain ⟨flight, hactive, hdelete⟩ := hdelete
    exact ⟨gui, drawn, flight, rfl, hinput, hdraw, hactive, hdelete⟩
  · obtain ⟨gui', _, flight, hw', _, _, hactive, hdelete⟩ := hdelete
    cases hw'
    exact ⟨flight, hactive, hdelete⟩

theorem hasRow_frame (hw : ShownOn (fun _ _ => True) w) (frame : Frame) :
    HasRow key k (w.frame datetimeToInt frame db).1 ↔ ¬ Deletes w frame key k := by
  obtain ⟨window, saving⟩ := w
  by_cases hinput : frame.input = .pressed .delete
  · unfold Window.frame
    split
    · next gui hlive hidle =>
      simp only at hlive hidle
      subst hlive hidle
      split
      · next e hdraw =>
        refine ⟨fun _ hdeletes => ?_, fun _ => h⟩
        obtain ⟨_, drawn, _, hw', _, hdraw', _⟩ := hdeletes
        cases hw'
        rw [hdraw] at hdraw'
        contradiction
      · next drawn hdraw =>
        have hnone : begunSave frame drawn = none := by
          unfold begunSave
          rw [hinput]
          cases drawn.session.activeFlight <;> rfl
        simp only [hnone]
        exact hasRow_panels h datetimeToInt hinput hdraw (hw.gui gui rfl)
    · next hbusy =>
      refine ⟨fun _ hdeletes => ?_, fun _ => h⟩
      obtain ⟨gui, _, _, hw', _⟩ := hdeletes
      cases hw'
      exact hbusy gui rfl rfl
  · have hkeeps : HasRow key k (Window.frame datetimeToInt frame db ⟨window, saving⟩).1 := by
      unfold Window.frame
      split
      · split
        · exact h
        · split
          · exact h
          · exact kept_hasRow.panels h frame _ datetimeToInt hinput
      · exact h
    refine ⟨fun _ hdeletes => ?_, fun _ => hkeeps⟩
    obtain ⟨_, _, _, _, hdelete, _⟩ := hdeletes
    exact hinput hdelete

theorem HasRow.transact : HasRow key k (w.transact datetimeToInt db).1 := by
  unfold Window.transact
  split
  · next gui frame loop hlive hsaving =>
    split
    · exact kept_hasRow.afterSave h frame gui datetimeToInt
    · next k' rest _ =>
      have hseat := h.insertBookingSeat loop.seatMap loop.tableName (frame.outcomes.seat k') k'
      split
      all_goals
        next heq =>
        rw [heq] at hseat
        exact hseat
  · exact h

end Steps

section Runs

variable {ι : Type*} [DecidableEq ι] (datetimeToInt : String → ℤ)

/-- In this event some window deletes the rows of the seat. -/
def DeletesRow (key : List Char) (k : ℤ × ℤ) (sys : Shared ι) (event : Event ι) : Prop :=
  ∃ i frame, event = .frame i frame ∧ Deletes (sys.windows i) frame key k

theorem hasRow_step {sys : Shared ι} (hvalid : Everywhere (fun _ _ => True) sys)
    (h : HasRow key k sys.db) (event : Event ι) :
    HasRow key k (step datetimeToInt sys event).db ↔ ¬ DeletesRow key k sys event := by
  cases event with
  | frame i frame =>
    refine (hasRow_frame h datetimeToInt (hvalid.windows i) frame).trans (not_congr ?_)
    refine ⟨fun hdeletes => ⟨i, frame, rfl, hdeletes⟩, fun hdeletes => ?_⟩
    obtain ⟨_, _, hevent, hdeletes⟩ := hdeletes
    cases hevent
    exact hdeletes
  | transact i =>
    refine ⟨fun _ hdeletes => ?_, fun _ => h.transact datetimeToInt⟩
    obtain ⟨_, _, hevent, _⟩ := hdeletes
    contradiction

/-- From any state that is reached on flights whose ids are names: a stored seat keeps a row
as long as nobody deletes it, and exactly as long. -/
theorem kept_iff_never_deleted (db : Database) (before events : List (Event ι))
    (_hnamed : db.NamedFlights)
    (h : HasRow key k (Run.run (step datetimeToInt) ⟨db, fun _ => Window.start⟩ before).db) :
    Run.Throughout (step datetimeToInt) (fun sys => HasRow key k sys.db)
        (Run.run (step datetimeToInt) ⟨db, fun _ => Window.start⟩ before) events ↔
      Run.EveryStep (step datetimeToInt) (fun sys event => ¬ DeletesRow key k sys event)
        (Run.run (step datetimeToInt) ⟨db, fun _ => Window.start⟩ before) events := by
  have hvalid := everything_valid datetimeToInt db before
  refine Run.throughout_iff_everyStep (step datetimeToInt) (Everywhere fun _ _ => True) _
    (fun _ => True) _ ?_ ?_ _ events hvalid h fun _ _ => trivial
  · exact fun sys event hsys _ =>
      everywhere_step datetimeToInt hsys (fun _ _ h => h) fun _ _ _ => trivial
  · exact fun sys event hsys _ hrow => hasRow_step datetimeToInt hsys hrow event

/-- The two windows that have booked the seats of their flights. -/
def bothBooked : Shared Bool :=
  Run.run (step fun _ => 0) ⟨twoFlights, fun _ => Window.start⟩ besideRun

def deletePress (i : Bool) : Event Bool := .frame i (undisturbed (.pressed .delete))

theorem hasRow_bothBooked : HasRow "bookingaa1".toList (0, 0) bothBooked.db :=
  ⟨[⟨"Zoe", "", "", 0, 0⟩], by decide +kernel, by decide⟩

/-- The row is kept when the other window deletes its own, and gone when its window does. -/
theorem kept_until_own_delete :
    Run.EveryStep (step fun _ => 0)
      (fun sys event => ¬ DeletesRow "bookingaa1".toList (0, 0) sys event) bothBooked
      [deletePress false] ∧
    ¬ Run.EveryStep (step fun _ => 0)
      (fun sys event => ¬ DeletesRow "bookingaa1".toList (0, 0) sys event) bothBooked
      [deletePress false, deletePress true] := by
  refine ⟨(kept_iff_never_deleted _ twoFlights besideRun _ (by decide) hasRow_bothBooked).mp ?_,
    ?_⟩
  · rw [Run.throughout_cons, Run.throughout_nil]
    exact ⟨hasRow_bothBooked, [⟨"Zoe", "", "", 0, 0⟩], by decide +kernel, by decide⟩
  · intro hkept
    have hrow := ((kept_iff_never_deleted _ twoFlights besideRun _ (by decide)
      hasRow_bothBooked).mpr hkept).final
    obtain ⟨t, ht, hrows⟩ := hrow
    have hgone : (Run.run (step fun _ => 0) bothBooked
        [deletePress false, deletePress true]).db.bookings "bookingaa1".toList = some [] := by
      decide +kernel
    cases Option.some.inj (hgone.symm.trans ht)
    exact hrows rfl

end Runs

end AirlineReservation.Retention
