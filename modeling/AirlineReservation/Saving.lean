import AirlineReservation.PersistenceManager
import AirlineReservation.SeatCells

/-!
What saving a map and deleting a booking do to the rows of one booking table.
Saving a shaped seat map is an upsert for each named seat whose transaction
commits.
-/

namespace AirlineReservation

open BookingInformation

/-- A transaction whose exception, if any, was caught and rolled back. -/
def TransactionOutcome.Caught (outcome : TransactionOutcome) : Prop :=
  outcome = .committed ∨ outcome = .rolledBack

/-- The booking rows of one seat. -/
def seatRows (t : List BookingInformation) (r c : ℤ) : List BookingInformation :=
  RowTable.rowsAt seat (r, c) t

/-- At most one row for each seat. -/
def UniqueSeats (t : List BookingInformation) : Prop := RowTable.Unique seat t

/-- Every row lies inside the given dimensions. -/
def RowsInside (t : List BookingInformation) (rows cols : ℤ) : Prop :=
  ∀ b ∈ t, (0 ≤ b.row ∧ b.row < rows) ∧ (0 ≤ b.col ∧ b.col < cols)

instance (t : List BookingInformation) : Decidable (UniqueSeats t) :=
  decidable_of_iff _ (RowTable.unique_iff_nodup seat t).symm

instance (t : List BookingInformation) (rows cols : ℤ) : Decidable (RowsInside t rows cols) :=
  inferInstanceAs (Decidable (∀ b ∈ t, _))

theorem RowsInside.inRange {s : SeatMap} {t : List BookingInformation}
    (h : RowsInside t s.rows s.cols) : ∀ b ∈ t, s.InRange b.row b.col :=
  fun b hb => (s.inRange_iff_bounds b.row b.col).mpr (h b hb)

/-- The row that the save loop commits for a seat. -/
def savedRow (s : SeatMap) (outcome : ℤ × ℤ → TransactionOutcome) (seat : ℤ × ℤ) :
    Option BookingInformation :=
  match s.cell? seat.1 seat.2 with
  | some x =>
    if x.name ≠ "" ∧ outcome seat = .committed then some (x.row seat.1 seat.2) else none
  | none => none

/-- The rows after the save loop. -/
def saveTable (s : SeatMap) (outcome : ℤ × ℤ → TransactionOutcome)
    (t : List BookingInformation) : List BookingInformation :=
  RowTable.upsertAll seat (savedRow s outcome) s.seats t

theorem mem_seats (s : SeatMap) (r c : ℤ) : (r, c) ∈ s.seats ↔ s.InRange r c := by
  simp only [SeatMap.seats, List.mem_flatMap, List.mem_map, List.mem_range, Prod.mk.injEq,
    SeatMap.InRange]
  constructor
  · intro hseat
    obtain ⟨i, hi, j, hj, rfl, rfl⟩ := hseat
    omega
  · intro hbounds
    obtain ⟨h0, h1, h2, h3⟩ := hbounds
    exact ⟨r.toNat, by omega, c.toNat, by omega, by omega, by omega⟩

theorem nodup_seats (s : SeatMap) : s.seats.Nodup := by
  rw [SeatMap.seats, List.nodup_flatMap]
  constructor
  · intro i _
    refine List.Nodup.map ?_ List.nodup_range
    intro j j' heq
    exact_mod_cast (Prod.mk.inj heq).2
  · apply List.nodup_range.imp
    intro i i' hne k hk hk'
    obtain ⟨j, _, rfl⟩ := List.mem_map.mp hk
    obtain ⟨j', _, heq⟩ := List.mem_map.mp hk'
    exact hne (by exact_mod_cast (Prod.mk.inj heq).1.symm)

theorem savedRow_seat (s : SeatMap) (outcome : ℤ × ℤ → TransactionOutcome) (k : ℤ × ℤ)
    (b : BookingInformation) (h : savedRow s outcome k = some b) : b.seat = k := by
  unfold savedRow at h
  split at h
  · split at h
    · cases Option.some.inj h
      rfl
    · contradiction
  · contradiction

theorem savedRow_eq_some {s : SeatMap} {outcome : ℤ × ℤ → TransactionOutcome} {r c : ℤ}
    {x : Cell} (hx : s.cell? r c = some x) (hname : x.name ≠ "")
    (hcommit : outcome (r, c) = .committed) : savedRow s outcome (r, c) = some (x.row r c) := by
  simp [savedRow, hx, hname, hcommit]

theorem savedRow_eq_none {s : SeatMap} {outcome : ℤ × ℤ → TransactionOutcome} {r c : ℤ}
    (h : ∀ x, s.cell? r c = some x → x.name = "" ∨ outcome (r, c) ≠ .committed) :
    savedRow s outcome (r, c) = none := by
  unfold savedRow
  split
  · next x hx =>
    rcases h x hx with hname | hcommit
    · simp [hname]
    · simp [hcommit]
  · rfl

theorem exists_of_savedRow {s : SeatMap} {outcome : ℤ × ℤ → TransactionOutcome} {k : ℤ × ℤ}
    {b : BookingInformation} (h : savedRow s outcome k = some b) :
    ∃ x, s.cell? k.1 k.2 = some x ∧ x.name ≠ "" ∧ outcome k = .committed ∧
      b = x.row k.1 k.2 := by
  unfold savedRow at h
  split at h
  · next x hx =>
    split at h
    · next hcond => exact ⟨x, hx, hcond.1, hcond.2, (Option.some.inj h).symm⟩
    · contradiction
  · contradiction

section Table

variable {s : SeatMap} (outcome : ℤ × ℤ → TransactionOutcome) {t : List BookingInformation}

/-- A named seat whose transaction commits ends with its own row only. -/
theorem seatRows_saveTable (h : s.Shaped) {r c : ℤ} {x : Cell} (hx : s.cell? r c = some x)
    (hname : x.name ≠ "") (hcommit : outcome (r, c) = .committed) :
    seatRows (saveTable s outcome t) r c =
      List.replicate (max 1 (seatRows t r c).length) (x.row r c) :=
  RowTable.rowsAt_upsertAll_of_mem seat (savedRow s outcome) (savedRow_seat s outcome)
    ((mem_seats s r c).mpr (h.inRange_of_cell? hx)) (savedRow_eq_some hx hname hcommit) t

theorem seatRows_saveTable_unique (h : s.Shaped) (ht : UniqueSeats t) {r c : ℤ} {x : Cell}
    (hx : s.cell? r c = some x) (hname : x.name ≠ "")
    (hcommit : outcome (r, c) = .committed) :
    seatRows (saveTable s outcome t) r c = [x.row r c] := by
  have hlen : (seatRows t r c).length ≤ 1 := ht (r, c)
  rw [seatRows_saveTable outcome h hx hname hcommit, Nat.max_eq_left hlen]
  rfl

/-- All other seats keep their rows. -/
theorem seatRows_saveTable_of_not {r c : ℤ}
    (h : ∀ x, s.cell? r c = some x → x.name = "" ∨ outcome (r, c) ≠ .committed) :
    seatRows (saveTable s outcome t) r c = seatRows t r c :=
  RowTable.rowsAt_upsertAll_of_not seat (savedRow s outcome) (savedRow_seat s outcome) (r, c)
    s.seats t (Or.inr (savedRow_eq_none h))

theorem UniqueSeats.saveTable (ht : UniqueSeats t) : UniqueSeats (saveTable s outcome t) :=
  RowTable.Unique.upsertAll seat (savedRow s outcome) ht s.seats

theorem mem_saveTable (b : BookingInformation) (hb : b ∈ saveTable s outcome t) :
    b ∈ t ∨ ∃ x, s.cell? b.row b.col = some x ∧ x.name ≠ "" ∧ b = x.row b.row b.col := by
  rcases RowTable.mem_upsertAll seat (savedRow s outcome) s.seats t b hb with hold | ⟨k, _, hk⟩
  · exact Or.inl hold
  · have hseat := savedRow_seat s outcome k b hk
    subst hseat
    obtain ⟨x, hx, hname, _, hrow⟩ := exists_of_savedRow hk
    exact Or.inr ⟨x, hx, hname, hrow⟩

theorem RowsInside.saveTable (h : s.Shaped) (hin : RowsInside t s.rows s.cols) :
    RowsInside (saveTable s outcome t) s.rows s.cols := by
  intro b hb
  rcases mem_saveTable outcome b hb with hold | ⟨x, hx, _, _⟩
  · exact hin b hold
  · exact (s.inRange_iff_bounds b.row b.col).mp (h.inRange_of_cell? hx)

end Table

section Loop

variable {s : SeatMap} {db : Database} {tableName : String} {t : List BookingInformation}

/-- The upsert as the code writes it: look the seat up, then update or insert. -/
theorem upsert_eq_match (t : List BookingInformation) (name email maxLoad : String) (r c : ℤ) :
    RowTable.upsert seat ⟨name, email, maxLoad, r, c⟩ t =
      match RowTable.rowsAt seat (r, c) t with
      | _ :: _ => RowTable.updateAt seat (r, c)
          (fun b => { b with name := name, email := email, maxLoad := maxLoad }) t
      | [] => t ++ [⟨name, email, maxLoad, r, c⟩] := by
  rw [RowTable.upsert, show BookingInformation.seat ⟨name, email, maxLoad, r, c⟩ = (r, c) from rfl]
  cases hrows : RowTable.rowsAt seat (r, c) t with
  | nil => simp
  | cons b rest =>
    simp only [reduceCtorEq, if_false]
    apply List.map_congr_left
    intro b' _
    by_cases hseat : b'.seat = (r, c)
    · obtain ⟨hrow, hcol⟩ := Prod.mk.inj hseat
      simp [hseat, ← hrow, ← hcol]
    · simp [hseat]

theorem storeSeat_eq (h : s.Shaped) {r c : ℤ} {x : Cell} (hx : s.cell? r c = some x)
    (ht : db.bookingTable tableName = some t) :
    storeSeat s tableName r c x.name db =
      .ok (db.setBookingTable tableName (RowTable.upsert seat (x.row r c) t)) := by
  have hopen := db.openTable_of_bookingTable tableName ht
  simp only [storeSeat, Database.selectSeat, Database.updateSeat, Database.insertSeat, hopen,
    h.getEmail hx, h.getMaxLoad hx, Cell.row, upsert_eq_match, bind, Except.bind, pure,
    Except.pure]
  cases RowTable.rowsAt seat (r, c) t <;> rfl

/-- One iteration of the save loop is one step of the upserts. -/
theorem insertBookingSeat_eq (h : s.Shaped) (outcome : ℤ × ℤ → TransactionOutcome)
    {k : ℤ × ℤ} (hk : k ∈ s.seats) (hcaught : (outcome k).Caught)
    (ht : db.bookingTable tableName = some t) :
    insertBookingSeat s tableName (outcome k) k db =
      (db.setBookingTable tableName
        ((savedRow s outcome k).elim t fun b => RowTable.upsert seat b t), .ok ()) := by
  obtain ⟨r, c⟩ := k
  obtain ⟨x, hx⟩ := h.exists_cell r c ((mem_seats s r c).mp hk)
  have hname : element s.passengerMap r c = .ok x.name :=
    SeatMap.element_of_read ((SeatMap.cell?_eq_some_iff s r c x).mp hx).2.1
  have hself := db.setBookingTable_self tableName ht
  by_cases hempty : x.name = ""
  · have hnone : savedRow s outcome (r, c) = none := by simp [savedRow, hx, hempty]
    simp [insertBookingSeat, hname, hempty, hnone, hself]
  · rcases hcaught with hcommit | hrolled
    · simp [insertBookingSeat, hname, hempty, hcommit, transaction, storeSeat_eq h hx ht,
        savedRow_eq_some hx hempty hcommit]
    · have hnone : savedRow s outcome (r, c) = none := by simp [savedRow, hx, hrolled]
      simp [insertBookingSeat, hname, hempty, hrolled, transaction, hnone, hself]

theorem insertBookingLoop_eq (h : s.Shaped) (outcome : ℤ × ℤ → TransactionOutcome)
    (seats : List (ℤ × ℤ)) (hseats : ∀ k ∈ seats, k ∈ s.seats)
    (hcaught : ∀ k, (outcome k).Caught) (ht : db.bookingTable tableName = some t) :
    insertBookingLoop s tableName outcome seats db =
      (db.setBookingTable tableName (RowTable.upsertAll seat (savedRow s outcome) seats t),
        .ok ()) := by
  induction seats generalizing db t with
  | nil => simp [insertBookingLoop, RowTable.upsertAll_nil, db.setBookingTable_self tableName ht]
  | cons k rest ih =>
    have hk := hseats k List.mem_cons_self
    have hrest : ∀ k' ∈ rest, k' ∈ s.seats :=
      fun k' hk' => hseats k' (List.mem_cons_of_mem k hk')
    rw [insertBookingLoop, insertBookingSeat_eq h outcome hk (hcaught k) ht,
      RowTable.upsertAll_cons]
    simp only
    rw [ih hrest (db.bookingTable_setBookingTable_self tableName ht _),
      Database.setBookingTable_setBookingTable]

/-- With every exception caught, saving ends normally and only the rows change. -/
theorem insertBookingData_eq (h : s.Shaped) (outcome : ℤ × ℤ → TransactionOutcome)
    (hcaught : ∀ k, (outcome k).Caught) (ht : db.bookingTable tableName = some t) :
    insertBookingData s db tableName outcome =
      (db.setBookingTable tableName (saveTable s outcome t), .ok ()) :=
  insertBookingLoop_eq h outcome s.seats (fun _ hk => hk) hcaught ht

theorem deleteBookingData_eq (ht : db.bookingTable tableName = some t) (r c : ℤ)
    (raises : Bool) :
    deleteBookingData db tableName r c raises =
      db.setBookingTable tableName (if raises then t else RowTable.deleteAt seat (r, c) t) := by
  have hopen := db.openTable_of_bookingTable tableName ht
  cases raises with
  | true => simp [deleteBookingData, db.setBookingTable_self tableName ht]
  | false =>
    simp only [deleteBookingData, Database.deleteSeat, hopen]
    rfl

theorem deleteBookingData_missing (ht : db.bookingTable tableName = none) (r c : ℤ)
    (raises : Bool) : deleteBookingData db tableName r c raises = db := by
  have hopen := db.openTable_of_missing tableName ht
  cases raises with
  | true => rfl
  | false => simp [deleteBookingData, Database.deleteSeat, hopen, bind, Except.bind]

end Loop

end AirlineReservation
