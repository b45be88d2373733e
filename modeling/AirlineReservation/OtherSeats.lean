import AirlineReservation.SessionRuns

/-!
What a Book or Update does to the rows of the seats it does not name. The save
walks the whole map, so each of them is written over with what the map holds;
whether its rows stay as they are depends on what the table had, which another
session may have changed since the map was loaded.
-/

namespace AirlineReservation.OtherSeats

open BookingInformation

/-- The rows of the seat are copies of the row that the cell is saved as, and
there is at least one. -/
def Holds (x : Cell) (rows : List BookingInformation) (r c : ℤ) : Prop :=
  rows ≠ [] ∧ ∀ b ∈ rows, b = x.row r c

instance (x : Cell) (rows : List BookingInformation) (r c : ℤ) : Decidable (Holds x rows r c) :=
  inferInstanceAs (Decidable (_ ∧ _))

/-- The Book of an available seat and the Update of one that is not available
end with a save. -/
def Saves (s : SeatMap) (r c : ℤ) : Action → Prop
  | .book _ _ _ => s.isSeatAvailable r c = .ok true
  | .update _ _ _ => s.isSeatAvailable r c = .ok false
  | _ => False

def IsBookOrUpdate : Action → Prop
  | .book _ _ _ => True
  | .update _ _ _ => True
  | _ => False

theorem IsBookOrUpdate.isBooking {action : Action} (h : IsBookOrUpdate action) :
    action.IsBooking := by
  cases action with
  | book name email maxLoad => exact trivial
  | update name email maxLoad => exact trivial
  | _ => exact absurd h id

variable {s s' : SeatMap} {t : List BookingInformation} {r c : ℤ}

theorem replicate_eq_iff (rows : List BookingInformation) (b : BookingInformation) :
    List.replicate (max 1 rows.length) b = rows ↔ rows ≠ [] ∧ ∀ b' ∈ rows, b' = b := by
  constructor
  · intro heq
    rw [← heq]
    refine ⟨?_, fun b' hb' => List.eq_of_mem_replicate hb'⟩
    rw [ne_eq, List.replicate_eq_nil_iff]
    omega
  · intro hheld
    obtain ⟨hne, hall⟩ := hheld
    have hpos := List.length_pos_of_ne_nil hne
    rw [Nat.max_eq_right hpos]
    exact (List.eq_replicate_of_mem hall).symm

/-- A save leaves the rows of a seat exactly when it has nothing to write there
or the rows hold it already. -/
theorem seatRows_saveTable_eq_iff (outcome : ℤ × ℤ → TransactionOutcome) (h : s.Shaped)
    (r c : ℤ) :
    seatRows (saveTable s outcome t) r c = seatRows t r c ↔
      ∀ x, s.cell? r c = some x → x.name ≠ "" → outcome (r, c) = .committed →
        Holds x (seatRows t r c) r c := by
  constructor
  · intro heq x hx hname hcommit
    rw [seatRows_saveTable outcome h hx hname hcommit] at heq
    exact (replicate_eq_iff _ _).mp heq
  · intro hheld
    by_cases hsaved : ∃ x, s.cell? r c = some x ∧ x.name ≠ "" ∧ outcome (r, c) = .committed
    · obtain ⟨x, hx, hname, hcommit⟩ := hsaved
      rw [seatRows_saveTable outcome h hx hname hcommit]
      exact (replicate_eq_iff _ _).mpr (hheld x hx hname hcommit)
    · apply seatRows_saveTable_of_not
      intro x hx
      by_contra hboth
      push Not at hboth
      exact hsaved ⟨x, hx, hboth.1, hboth.2⟩

/-- The effect of a Book or Update: it saves, and then other seats show what they
showed, or it does nothing. -/
theorem effect_cases {action : Action} {request : Request}
    (heffect : Effect s r c action s' request) (hs : s.Shaped)
    (hbooking : IsBookOrUpdate action) :
    (Saves s r c action ∧ request = .save ∧ s'.Shaped ∧
      ∀ r' c', (r', c') ≠ (r, c) → s'.cell? r' c' = s.cell? r' c') ∨
    (¬ Saves s r c action ∧ request = .nothing) := by
  have havailable : ∀ {x : Cell}, s.cell? r c = some x →
      s.isSeatAvailable r c = .ok x.available := fun hx => hs.isSeatAvailable hx
  cases heffect with
  | booked name email maxLoad x hx hfree =>
    exact .inl ⟨(havailable hx).trans (congrArg _ hfree), rfl, hs.putCell r c _,
      fun r' c' hne => SeatMap.cell?_putCell_ne s _ hne⟩
  | refused name email maxLoad hnot =>
    refine .inr ⟨?_, rfl⟩
    intro hsaves
    by_cases hin : s.InRange r c
    · obtain ⟨x, hx⟩ := hs.exists_cell r c hin
      have htrue := Except.ok.inj ((havailable hx).symm.trans hsaves)
      rw [hnot x hx] at htrue
      contradiction
    · rw [Saves, SeatMap.isSeatAvailable_of_not_inRange hin] at hsaves
      contradiction
  | updated name email maxLoad x hx htaken =>
    exact .inl ⟨(havailable hx).trans (congrArg _ htaken), rfl, hs.putCell r c _,
      fun r' c' hne => SeatMap.cell?_putCell_ne s _ hne⟩
  | updatedOutside name email maxLoad hout =>
    exact .inl ⟨SeatMap.isSeatAvailable_of_not_inRange hout, rfl, hs, fun _ _ _ => rfl⟩
  | updateHidden name email maxLoad x hx hfree =>
    refine .inr ⟨?_, rfl⟩
    intro hsaves
    have hfalse := Except.ok.inj ((havailable hx).symm.trans hsaves)
    rw [hfree] at hfalse
    contradiction
  | deleted x hx htaken => exact absurd hbooking id
  | deletedOutside hout => exact absurd hbooking id
  | deleteHidden x hx hfree => exact absurd hbooking id

/-- Whatever the run before and whatever the table holds by now: a Book or Update
leaves the rows of another seat exactly when it does not save, or has nothing to
write for that seat, or the table holds what the map does. -/
theorem other_seat_kept_iff (db now : Database) (events : List (SqlOutcomes × Action))
    (outcomes : SqlOutcomes) (hcaught : ∀ k, (outcomes.seat k).Caught) {session : Session}
    {flight : Flight}
    (hlive : (Run.run App.step ⟨db, .ok Session.start⟩ events).session = .ok session)
    (hactive : session.activeFlight = some flight) {t : List BookingInformation}
    (ht : now.bookingTable ("Booking" ++ flight.flightID) = some t) (action : Action)
    (hbooking : IsBookOrUpdate action) :
    ∃ s' t', perform outcomes now session action = afterAction now flight session s' t' ∧
      ∀ r c, (r, c) ≠ session.selectedRowCol →
        (seatRows t' r c = seatRows t r c ↔
          (Saves flight.seatMap session.selectedRowCol.1 session.selectedRowCol.2 action →
            ∀ x, flight.seatMap.cell? r c = some x → x.name ≠ "" →
              outcomes.seat (r, c) = .committed → Holds x (seatRows t r c) r c)) := by
  have hs := (App.valid_run (App.valid_start db) events session hlive flight hactive).shaped
  obtain ⟨s', request, heffect, hrun⟩ :=
    perform_effect outcomes now hbooking.isBooking hactive hs
  rcases effect_cases heffect hs hbooking with ⟨hsaves, rfl, hs', hothers⟩ | ⟨hnot, rfl⟩
  · refine ⟨s', saveTable s' outcomes.seat t, hrun.trans (saveActive_eq ht hs' hcaught), ?_⟩
    intro r c hne
    rw [seatRows_saveTable_eq_iff outcomes.seat hs', hothers r c hne]
    exact ⟨fun h _ => h, fun h => h hsaves⟩
  · refine ⟨flight.seatMap, t, hrun.trans (afterAction_self ht hactive).symm, ?_⟩
    intro r c _
    exact iff_of_true rfl fun hsaves => absurd hsaves hnot

section StaleCopy

/-- The first of two seats is held under this name. -/
def firstSeatDatabase (name : String) : Database :=
  Database.empty.setBookingTable "BookingAA123" [⟨name, "", "20", 0, 0⟩]

def annFlight : Flight :=
  ⟨"AA123", "New York", "Los Angeles", 0, 0,
    (SeatMap.vacant 1 2).putCell 0 0 (Cell.taken "Ann" "" "20")⟩

/-- The session that has loaded the flight when Ann held the first seat, after a
click on the second. -/
def annSession : Session :=
  ⟨some annFlight, (0, 1)⟩

theorem annSession_reached : (Run.run App.step ⟨firstSeatDatabase "Ann", .ok Session.start⟩
    [(.succeed, .selectFlight twoSeats), (.succeed, .clickSeat 0 1)]).session =
    .ok annSession := by
  decide

end StaleCopy

theorem current_copy_kept :
    ∃ s' t', perform .succeed (firstSeatDatabase "Ann") annSession (.book "Bob" "" "15") =
        afterAction (firstSeatDatabase "Ann") annFlight annSession s' t' ∧
      seatRows t' 0 0 = [⟨"Ann", "", "20", 0, 0⟩] := by
  have ht : (firstSeatDatabase "Ann").bookingTable ("Booking" ++ "AA123") =
    some [⟨"Ann", "", "20", 0, 0⟩] := by rfl
  obtain ⟨s', t', hperform, hkept⟩ := other_seat_kept_iff (firstSeatDatabase "Ann")
    (firstSeatDatabase "Ann") _ .succeed SqlOutcomes.caught_succeed annSession_reached rfl ht
    (.book "Bob" "" "15") trivial
  refine ⟨s', t', hperform, ((hkept 0 0 (by decide)).mpr ?_).trans (by decide)⟩
  intro _ x hx _ _
  have hann : annFlight.seatMap.cell? 0 0 = some (Cell.taken "Ann" "" "20") := by decide
  cases Option.some.inj (hx.symm.trans hann)
  decide

/-- Booking the second seat from the old copy brings back the booking of the
first that was deleted meanwhile, and undoes its change to Eve. -/
theorem stale_copy_restores_row :
    (Run.run App.step ⟨firstSeatDatabase "Ann", .ok Session.start⟩
        [(.succeed, .selectFlight twoSeats), (.succeed, .clickSeat 0 1)]).session =
      .ok annSession ∧
    ((perform .succeed oneSeatDatabase annSession (.book "Bob" "" "15")).1.bookingTable
        "BookingAA123").map (fun t => seatRows t 0 0) = some [⟨"Ann", "", "20", 0, 0⟩] ∧
    (oneSeatDatabase.bookingTable "BookingAA123").map (fun t => seatRows t 0 0) = some [] ∧
    ((perform .succeed (firstSeatDatabase "Eve") annSession (.book "Bob" "" "15")).1.bookingTable
        "BookingAA123").map (fun t => seatRows t 0 0) = some [⟨"Ann", "", "20", 0, 0⟩] ∧
    ((firstSeatDatabase "Eve").bookingTable "BookingAA123").map (fun t => seatRows t 0 0) =
      some [⟨"Eve", "", "20", 0, 0⟩] := by
  refine ⟨annSession_reached, ?_, ?_, ?_, ?_⟩ <;> decide

end AirlineReservation.OtherSeats
