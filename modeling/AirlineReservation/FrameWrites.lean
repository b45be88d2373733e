import AirlineReservation.FrameActions
import AirlineReservation.SharedWindows

/-!
All that a frame does to the database: the transactions of a save, and one delete
when its button is pressed. A property of databases that these keep is kept by every
panel, by the part of a frame that follows a save, and by the whole frame.
-/

namespace AirlineReservation.FrameWrites

open Frames SharedWindows

/-- The transactions of saves keep I, and the deletes do where there are any. -/
structure Kept (deletes : Prop) (I : Database → Prop) : Prop where
  seat : ∀ s tableName outcome k db, I db → I (insertBookingSeat s tableName outcome k db).1
  delete : deletes → ∀ db tableName r c raises, I db →
    I (deleteBookingData db tableName r c raises)

namespace Kept

variable {deletes : Prop} {I : Database → Prop} (h : Kept deletes I)

section Handlers

variable {db : Database} (hdb : I db) (outcomes : SqlOutcomes) (flight : Flight)
  (session : Session) (name email maxLoad : String)
include h hdb

theorem insertBookingLoop (s : SeatMap) (tableName : String)
    (outcome : ℤ × ℤ → TransactionOutcome) (seats : List (ℤ × ℤ)) :
    I (insertBookingLoop s tableName outcome seats db).1 := by
  induction seats generalizing db with
  | nil => exact hdb
  | cons k rest ih =>
    have hseat := h.seat s tableName (outcome k) k db hdb
    unfold AirlineReservation.insertBookingLoop
    split
    · next db' heq =>
      rw [heq] at hseat
      exact ih hseat
    · next db' e heq =>
      rw [heq] at hseat
      exact hseat

theorem saveActive (s : SeatMap) : I (saveActive outcomes db flight s session).1 := by
  rw [saveActive_fst]
  exact h.insertBookingLoop hdb s _ outcomes.seat s.seats

theorem bookPressed : I (bookPressed outcomes db flight session name email maxLoad).1 := by
  unfold AirlineReservation.bookPressed
  split
  · exact hdb
  · exact hdb
  · exact h.saveActive hdb outcomes flight session _

theorem updatePressed : I (updatePressed outcomes db flight session name email maxLoad).1 := by
  unfold AirlineReservation.updatePressed
  simp only
  split
  · exact hdb
  · exact h.saveActive hdb outcomes flight session _

theorem deletePressed (hdeletes : deletes) : I (deletePressed outcomes db flight session).1 := by
  unfold AirlineReservation.deletePressed
  simp only
  split
  · exact hdb
  · exact h.delete hdeletes db _ _ _ _ hdb

end Handlers

section Panels

variable {db : Database} (hdb : I db) (frame : Frame) (gui : Gui) (datetimeToInt : String → ℤ)

theorem andThen {result : Database × Except Fault Gui}
    {panel : Database → Gui → Database × Except Fault Gui} (hresult : I result.1)
    (hpanel : ∀ db gui, I db → I (panel db gui).1) : I (andThen result panel).1 := by
  obtain ⟨db, window⟩ := result
  cases window with
  | error e => exact hresult
  | ok gui => exact hpanel db gui hresult

include hdb in
theorem selectFlight : I (selectFlight datetimeToInt frame db gui).1 := by
  rwa [selectFlight_fst]

include h hdb

theorem createBookings : I (createBookings frame db gui).1 := by
  unfold Frames.createBookings
  split
  · exact hdb
  · simp only
    split
    · exact h.bookPressed hdb _ _ _ _ _ _
    · exact hdb

variable (hinput : frame.input = .pressed .delete → deletes)
include hinput

theorem manageBookings : I (manageBookings frame db gui).1 := by
  unfold Frames.manageBookings
  split
  · exact hdb
  · split
    · exact hdb
    · exact hdb
    · simp only
      split
      · exact h.updatePressed hdb _ _ _ _ _ _
      · next hdelete => exact h.deletePressed hdb _ _ _ (hinput hdelete)
      · exact hdb

theorem panels : I (panels datetimeToInt frame db gui).1 := by
  have hmanaged := andThen (h.createBookings hdb frame gui)
    fun _ gui hcreated => h.manageBookings hcreated frame gui hinput
  exact andThen hmanaged fun _ gui hmanaged => selectFlight hmanaged frame gui datetimeToInt

omit hinput in
theorem afterSave : I (afterSave datetimeToInt frame db gui).1 := by
  unfold SharedWindows.afterSave
  split
  · next hbook =>
    refine andThen (h.manageBookings hdb frame gui fun hdelete => ?_)
      fun _ gui hmanaged => selectFlight hmanaged frame gui datetimeToInt
    cases hbook.symm.trans hdelete
  · exact selectFlight hdb frame gui datetimeToInt

end Panels

end Kept

end AirlineReservation.FrameWrites
