import AirlineReservation.Saving

/-!
The table after `InsertBookingData`, row by row. Whatever transactions fail and
are rolled back, an old row stands where it stood, with the texts of the map if
its seat was saved, and the seats that had no row follow in the order of the
grid. A second save writes what is there already.
-/

namespace AirlineReservation.SavedTable

open BookingInformation

/-- What the save makes of a row of the table. -/
def rowAfter (s : SeatMap) (outcome : ℤ × ℤ → TransactionOutcome) (b : BookingInformation) :
    BookingInformation :=
  (savedRow s outcome b.seat).getD b

/-- The rows that the save inserts. -/
def newRows (s : SeatMap) (outcome : ℤ × ℤ → TransactionOutcome)
    (t : List BookingInformation) : List BookingInformation :=
  s.seats.filterMap fun k => if seatRows t k.1 k.2 = [] then savedRow s outcome k else none

/-- The seat has a name in the map and its transaction commits. -/
def IsSaved (s : SeatMap) (outcome : ℤ × ℤ → TransactionOutcome) (r c : ℤ) (x : Cell) : Prop :=
  s.cell? r c = some x ∧ x.name ≠ "" ∧ outcome (r, c) = .committed

/-- The rows `t'` are those of `t` with exactly the saved seats written. -/
structure SavedExactly (s : SeatMap) (outcome : ℤ × ℤ → TransactionOutcome)
    (t t' : List BookingInformation) : Prop where
  table_eq : t' = t.map (rowAfter s outcome) ++ newRows s outcome t
  saved : ∀ r c x, IsSaved s outcome r c x → seatRows t' r c = [x.row r c]
  kept : ∀ r c, (∀ x, ¬ IsSaved s outcome r c x) → seatRows t' r c = seatRows t r c

variable {s : SeatMap} {t : List BookingInformation}
  (outcome : ℤ × ℤ → TransactionOutcome)

/-- A row is overwritten only if its seat is one of the grid. -/
theorem overwritten_eq_rowAfter (h : s.Shaped) (b : BookingInformation) :
    RowTable.overwritten seat (savedRow s outcome) s.seats b = rowAfter s outcome b := by
  by_cases hseat : b.seat ∈ s.seats
  · rw [RowTable.overwritten, if_pos hseat, rowAfter]
  · have hnone : savedRow s outcome b.seat = none := by
      apply savedRow_eq_none
      intro x hx
      exact absurd ((mem_seats s b.row b.col).mpr (h.inRange_of_cell? hx)) hseat
    rw [RowTable.overwritten_of_not_mem seat _ hseat, rowAfter, hnone]
    rfl

theorem saveTable_eq (h : s.Shaped) (t : List BookingInformation) :
    saveTable s outcome t = t.map (rowAfter s outcome) ++ newRows s outcome t := by
  have hmap : ∀ b ∈ t, RowTable.overwritten seat (savedRow s outcome) s.seats b =
      rowAfter s outcome b := fun b _ => overwritten_eq_rowAfter outcome h b
  rw [saveTable, RowTable.upsertAll_eq seat _ (savedRow_seat s outcome) s.seats (nodup_seats s),
    List.map_congr_left hmap]
  rfl

theorem saveTable_exact (h : s.Shaped) (ht : UniqueSeats t) :
    SavedExactly s outcome t (saveTable s outcome t) := by
  refine ⟨saveTable_eq outcome h t, ?_, ?_⟩
  · intro r c x hsaved
    obtain ⟨hx, hname, hcommit⟩ := hsaved
    exact seatRows_saveTable_unique outcome h ht hx hname hcommit
  · intro r c hnot
    apply seatRows_saveTable_of_not
    intro x hx
    by_contra hboth
    push Not at hboth
    exact hnot x ⟨hx, hboth.1, hboth.2⟩

/-- Saving the same map again changes nothing. -/
theorem saveTable_saveTable (t : List BookingInformation) :
    saveTable s outcome (saveTable s outcome t) = saveTable s outcome t :=
  RowTable.upsertAll_upsertAll _ (savedRow_seat s outcome) s.seats t

/-- `InsertBookingData` ends normally with exactly the saved seats written, and
after a run without failures a second one leaves the database as it is. -/
theorem insertBookingData_exact (s : SeatMap) (h : s.Shaped) (db : Database)
    (tableName : String) (t : List BookingInformation)
    (ht : db.bookingTable tableName = some t) (hunique : UniqueSeats t)
    (hcaught : ∀ k, (outcome k).Caught) :
    (∃ t', insertBookingData s db tableName outcome =
        (db.setBookingTable tableName t', .ok ()) ∧ SavedExactly s outcome t t') ∧
      ∀ db', insertBookingData s db tableName (fun _ => .committed) = (db', .ok ()) →
        insertBookingData s db' tableName (fun _ => .committed) = (db', .ok ()) := by
  have hall : ∀ k : ℤ × ℤ, TransactionOutcome.Caught ((fun _ => .committed) k) :=
    fun _ => Or.inl rfl
  constructor
  · exact ⟨_, insertBookingData_eq h outcome hcaught ht, saveTable_exact outcome h hunique⟩
  · intro db' hfirst
    rw [insertBookingData_eq h _ hall ht] at hfirst
    cases (Prod.mk.inj hfirst).1
    rw [insertBookingData_eq h _ hall (db.bookingTable_setBookingTable_self _ ht _),
      saveTable_saveTable, Database.setBookingTable_setBookingTable]

/-- Two taken seats, over a table that has an older row of the first. -/
def twoTaken : SeatMap :=
  ((SeatMap.vacant 1 2).putCell 0 0 (Cell.taken "Ann" "ann@mail" "20")).putCell 0 1
    (Cell.taken "Bob" "" "15")

def olderDatabase : Database :=
  Database.empty.setBookingTable "BookingAA123" [⟨"Eve", "", "", 0, 0⟩]

def secondFails (seat : ℤ × ℤ) : TransactionOutcome :=
  if seat = (0, 1) then .rolledBack else .committed

theorem shaped_twoTaken : twoTaken.Shaped :=
  ⟨by decide, by decide, by decide, by decide⟩

theorem first_saved_second_rolled_back :
    insertBookingData twoTaken olderDatabase "BookingAA123" secondFails =
      (olderDatabase.setBookingTable "BookingAA123" [⟨"Ann", "ann@mail", "20", 0, 0⟩],
        .ok ()) := by
  have htable : olderDatabase.bookingTable "BookingAA123" = some [⟨"Eve", "", "", 0, 0⟩] := by rfl
  have hcaught : ∀ k, (secondFails k).Caught := by
    intro k
    by_cases hk : k = (0, 1)
    · exact Or.inr (if_pos hk)
    · exact Or.inl (if_neg hk)
  obtain ⟨⟨t', hrun, hexact⟩, _⟩ := insertBookingData_exact secondFails twoTaken shaped_twoTaken
    olderDatabase "BookingAA123" _ htable (by decide) hcaught
  have hrows : t' = [⟨"Ann", "ann@mail", "20", 0, 0⟩] := hexact.table_eq.trans (by decide)
  rw [hrun, hrows]

end AirlineReservation.SavedTable
