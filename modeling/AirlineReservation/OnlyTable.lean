import AirlineReservation.Saving

/-!
What a save or a delete leaves alone, whatever fails and whatever the shape of
the map: every table but the one that is named. The rows of that one are old
rows, or rows that a transaction of the save has committed.
-/

namespace AirlineReservation

open BookingInformation

/-- db' is db with at most the contents of one booking table replaced. -/
def OnlyTable (tableName : String) (db db' : Database) : Prop :=
  db' = db ∨ ∃ t', db' = db.setBookingTable tableName t'

namespace OnlyTable

variable {tableName : String} {db db' db'' : Database}

theorem refl : OnlyTable tableName db db := Or.inl rfl

theorem trans (h : OnlyTable tableName db db') (h' : OnlyTable tableName db' db'') :
    OnlyTable tableName db db'' := by
  rcases h with rfl | ⟨t, rfl⟩
  · exact h'
  · rcases h' with rfl | ⟨t', rfl⟩
    · exact Or.inr ⟨t, rfl⟩
    · exact Or.inr ⟨t', db.setBookingTable_setBookingTable tableName t t'⟩

theorem flights (h : OnlyTable tableName db db') : db'.flights = db.flights := by
  rcases h with rfl | ⟨t, rfl⟩
  · rfl
  · exact db.flights_setBookingTable tableName t

theorem bookingTable (h : OnlyTable tableName db db') (tableName' : String)
    (hne : tableKey tableName' ≠ tableKey tableName) :
    db'.bookingTable tableName' = db.bookingTable tableName' := by
  rcases h with rfl | ⟨t, rfl⟩
  · rfl
  · exact db.bookingTable_setBookingTable_ne tableName tableName' t hne

end OnlyTable

section Frame

variable (s : SeatMap) (db : Database) (tableName : String)

/-- A stored seat is an upsert of a row for it, whatever the shape of the map. -/
theorem storeSeat_ok {r c : ℤ} {name : String} {db' : Database}
    (h : storeSeat s tableName r c name db = .ok db') :
    ∃ t email maxLoad, db.bookingTable tableName = some t ∧
      s.getEmail r c = .ok email ∧ s.getMaxLoad r c = .ok maxLoad ∧
      db' = db.setBookingTable tableName
        (RowTable.upsert seat ⟨name, email, maxLoad, r, c⟩ t) := by
  obtain ⟨found, hfound, h⟩ := exists_of_bind_ok h
  obtain ⟨email, hemail, h⟩ := exists_of_bind_ok h
  obtain ⟨maxLoad, hload, h⟩ := exists_of_bind_ok h
  obtain ⟨t, hopen, hrows⟩ := exists_of_bind_ok hfound
  refine ⟨t, email, maxLoad, db.bookingTable_of_openTable tableName hopen, hemail, hload, ?_⟩
  rw [upsert_eq_match, Except.ok.inj hrows]
  cases found with
  | nil =>
    simp only [Database.insertSeat, hopen] at h
    exact (Except.ok.inj h).symm
  | cons first rest =>
    simp only [Database.updateSeat, hopen] at h
    exact (Except.ok.inj h).symm

/-- One iteration of the save loop leaves the database or commits one upsert, of
a row with the name that the map holds. -/
theorem insertBookingSeat_db (outcome : TransactionOutcome) (k : ℤ × ℤ) :
    (insertBookingSeat s tableName outcome k db).1 = db ∨
    ∃ t b, db.bookingTable tableName = some t ∧ outcome = .committed ∧ b.seat = k ∧
      b.name ≠ "" ∧ element s.passengerMap k.1 k.2 = .ok b.name ∧
      s.getEmail k.1 k.2 = .ok b.email ∧ s.getMaxLoad k.1 k.2 = .ok b.maxLoad ∧
      (insertBookingSeat s tableName outcome k db).1 =
        db.setBookingTable tableName (RowTable.upsert seat b t) := by
  unfold insertBookingSeat
  split
  · exact Or.inl rfl
  · next name hname =>
    split
    · next hne =>
      unfold transaction
      split
      · exact Or.inl rfl
      · exact Or.inl rfl
      · exact Or.inl rfl
      · split
        · next db' hstore =>
          obtain ⟨t, email, maxLoad, ht, hemail, hload, hdb⟩ := storeSeat_ok s db tableName hstore
          exact Or.inr ⟨t, ⟨name, email, maxLoad, k.1, k.2⟩, ht, rfl, rfl, hne, hname, hemail,
            hload, hdb⟩
        · exact Or.inl rfl
        · exact Or.inl rfl
    · exact Or.inl rfl

theorem onlyTable_insertBookingSeat (outcome : TransactionOutcome) (k : ℤ × ℤ) :
    OnlyTable tableName db (insertBookingSeat s tableName outcome k db).1 := by
  rcases insertBookingSeat_db s db tableName outcome k with
    hsame | ⟨t, b, _, _, _, _, _, _, _, hset⟩
  · exact Or.inl hsame
  · exact Or.inr ⟨_, hset⟩

theorem onlyTable_insertBookingLoop (outcome : ℤ × ℤ → TransactionOutcome)
    (seats : List (ℤ × ℤ)) :
    OnlyTable tableName db (insertBookingLoop s tableName outcome seats db).1 := by
  induction seats generalizing db with
  | nil => exact .refl
  | cons k rest ih =>
    have hstep := onlyTable_insertBookingSeat s db tableName (outcome k) k
    unfold insertBookingLoop
    split
    · next db' heq =>
      rw [heq] at hstep
      exact hstep.trans (ih db')
    · next db' e heq =>
      rw [heq] at hstep
      exact hstep

theorem onlyTable_insertBookingData (outcome : ℤ × ℤ → TransactionOutcome) :
    OnlyTable tableName db (insertBookingData s db tableName outcome).1 :=
  onlyTable_insertBookingLoop s db tableName outcome s.seats

theorem onlyTable_deleteBookingData (r c : ℤ) (raises : Bool) :
    OnlyTable tableName db (deleteBookingData db tableName r c raises) := by
  cases ht : db.bookingTable tableName with
  | none => exact Or.inl (deleteBookingData_missing ht r c raises)
  | some t => exact Or.inr ⟨_, deleteBookingData_eq ht r c raises⟩

end Frame

/-- A row that the save of a map commits at one of the positions. -/
structure CommittedRow (s : SeatMap) (outcome : ℤ × ℤ → TransactionOutcome)
    (seats : List (ℤ × ℤ)) (b : BookingInformation) : Prop where
  visited : b.seat ∈ seats
  committed : outcome b.seat = .committed
  named : b.name ≠ ""
  name_eq : element s.passengerMap b.row b.col = .ok b.name

section Origin

variable {s : SeatMap} {db : Database} {tableName tableName' : String}
  {t : List BookingInformation} {b : BookingInformation}

/-- Rows of any table after one of them was replaced. -/
theorem row_of_setBookingTable {t' t'' : List BookingInformation}
    (ht' : (db.setBookingTable tableName t').bookingTable tableName' = some t'') (hb : b ∈ t'') :
    (∃ told, db.bookingTable tableName' = some told ∧ b ∈ told) ∨
      tableKey tableName' = tableKey tableName ∧ b ∈ t' := by
  rcases db.bookingTable_setBookingTable_cases tableName tableName' ht' with hold | ⟨hkey, rfl⟩
  · exact Or.inl ⟨t'', hold, hb⟩
  · exact Or.inr ⟨hkey, hb⟩

/-- Whatever fails, every row after the save loop is an old one or was committed. -/
theorem row_of_insertBookingLoop (outcome : ℤ × ℤ → TransactionOutcome) (seats : List (ℤ × ℤ))
    (ht : (insertBookingLoop s tableName outcome seats db).1.bookingTable tableName' = some t)
    (hb : b ∈ t) :
    (∃ told, db.bookingTable tableName' = some told ∧ b ∈ told) ∨
      tableKey tableName' = tableKey tableName ∧ CommittedRow s outcome seats b := by
  induction seats generalizing db with
  | nil => exact Or.inl ⟨t, ht, hb⟩
  | cons k rest ih =>
    have hseat := insertBookingSeat_db s db tableName (outcome k) k
    have hrest : (∃ t₁, (insertBookingSeat s tableName (outcome k) k db).1.bookingTable
        tableName' = some t₁ ∧ b ∈ t₁) ∨
        tableKey tableName' = tableKey tableName ∧ CommittedRow s outcome rest b := by
      unfold insertBookingLoop at ht
      split at ht
      · next db' heq =>
        rw [heq]
        exact ih ht
      · next db' e heq =>
        rw [heq]
        exact Or.inl ⟨t, ht, hb⟩
    rcases hrest with ⟨t₁, ht₁, hb₁⟩ | ⟨hkey, hnew⟩
    · rcases hseat with hsame | ⟨told, row, htold, hcommit, hrow, hnamed, hname, _, _, hset⟩
      · rw [hsame] at ht₁
        exact Or.inl ⟨t₁, ht₁, hb₁⟩
      · rw [hset] at ht₁
        rcases row_of_setBookingTable ht₁ hb₁ with hold | ⟨hkey, hmem⟩
        · exact Or.inl hold
        · rcases RowTable.mem_upsert seat row b told hmem with rfl | hold
          · subst hrow
            exact Or.inr ⟨hkey, List.mem_cons_self, hcommit, hnamed, hname⟩
          · left
            rw [Database.bookingTable_congr _ tableName _ hkey]
            exact ⟨told, htold, hold⟩
    · exact Or.inr ⟨hkey, List.mem_cons_of_mem k hnew.visited, hnew.committed, hnew.named,
        hnew.name_eq⟩

theorem row_of_deleteBookingData (r c : ℤ) (raises : Bool)
    (ht : (deleteBookingData db tableName r c raises).bookingTable tableName' = some t)
    (hb : b ∈ t) : ∃ told, db.bookingTable tableName' = some told ∧ b ∈ told := by
  cases hold : db.bookingTable tableName with
  | none =>
    rw [deleteBookingData_missing hold] at ht
    exact ⟨t, ht, hb⟩
  | some told =>
    rw [deleteBookingData_eq hold] at ht
    rcases row_of_setBookingTable ht hb with h | ⟨hkey, hmem⟩
    · exact h
    · rw [Database.bookingTable_congr _ tableName _ hkey]
      refine ⟨told, hold, ?_⟩
      split at hmem
      · exact hmem
      · exact List.mem_of_mem_filter hmem

end Origin

end AirlineReservation
