import AirlineReservation.Isolation

/-!
The flights of one party. While only these are active only their bookings change,
and what becomes of the party depends on no others. The two facts are what lets
several parties work side by side.
-/

namespace AirlineReservation.OwnFlights

variable {ids : String → Prop} {db₀ db : Database}

/-- Nothing was stored but in the tables that are named after these ids. Ids that differ
in letter case only have one table. -/
structure Untouched (ids : String → Prop) (db₀ db : Database) : Prop where
  flights : db.flights = db₀.flights
  tables : ∀ tableName, (∀ id, ids id → tableKey tableName ≠ tableKey ("Booking" ++ id)) →
    db.bookingTable tableName = db₀.bookingTable tableName

theorem Untouched.refl : Untouched ids db db := ⟨rfl, fun _ _ => rfl⟩

theorem Untouched.trans {db' : Database} (h : Untouched ids db₀ db) (h' : Untouched ids db db') :
    Untouched ids db₀ db' :=
  ⟨h'.flights.trans h.flights, fun tableName hother =>
    (h'.tables tableName hother).trans (h.tables tableName hother)⟩

theorem Untouched.onlyTable {db' : Database} {id : String} (h : Untouched ids db₀ db)
    (hid : ids id) (honly : OnlyTable ("Booking" ++ id) db db') : Untouched ids db₀ db' := by
  refine ⟨honly.flights.trans h.flights, ?_⟩
  intro tableName hother
  exact (honly.bookingTable tableName (hother id hid)).trans (h.tables tableName hother)

/-- Two stored ids that differ in letter case at most are the same. -/
def DistinctFlights (db : Database) : Prop :=
  ∀ rows ∈ db.flights, ∀ row ∈ rows, ∀ row' ∈ rows,
    row.flightId.toList.map Char.toLower = row'.flightId.toList.map Char.toLower →
      row.flightId = row'.flightId

instance (db : Database) : Decidable (DistinctFlights db) :=
  inferInstanceAs (Decidable (∀ rows ∈ db.flights, ∀ row ∈ rows, ∀ row' ∈ rows,
    row.flightId.toList.map Char.toLower = row'.flightId.toList.map Char.toLower →
      row.flightId = row'.flightId))

/-- Where ids are names and distinct, the bookings of every other stored flight are as
they were. -/
theorem Untouched.other_flight (h : Untouched ids db₀ db) (hnamed : db₀.NamedFlights)
    (hdistinct : DistinctFlights db₀) {rows : List FlightRow} (hrows : db₀.flights = some rows)
    (hids : ∀ id, ids id → ∃ row ∈ rows, row.flightId = id) {row : FlightRow} (hrow : row ∈ rows)
    (hother : ¬ ids row.flightId) :
    db.bookingTable ("Booking" ++ row.flightId) =
      db₀.bookingTable ("Booking" ++ row.flightId) := by
  apply h.tables
  intro id hid hkey
  obtain ⟨row', hrow', rfl⟩ := hids id hid
  rw [Isolation.tableKey_booking (hnamed rows hrows row hrow),
    Isolation.tableKey_booking (hnamed rows hrows row' hrow')] at hkey
  have hlower := List.append_cancel_left (Option.some.inj hkey)
  rw [hdistinct rows hrows row hrow row' hrow' hlower] at hother
  exact hother hid

/-- The active flight is one of them. -/
def ActiveIn (ids : String → Prop) (session : Session) : Prop :=
  ∀ flight, session.activeFlight = some flight → ids flight.flightID

/-- What a handler or a part of a frame leaves: the database, and the session if there is one. -/
structure Keeps (ids : String → Prop) (db₀ db : Database) (session : Except Fault Session) :
    Prop where
  untouched : Untouched ids db₀ db
  active : ∀ s, session = .ok s → ActiveIn ids s

theorem Keeps.error (h : Untouched ids db₀ db) (e : Fault) : Keeps ids db₀ db (.error e) :=
  ⟨h, fun _ heq => by contradiction⟩

theorem Keeps.ok {session : Session} (h : Untouched ids db₀ db) (hactive : ActiveIn ids session) :
    Keeps ids db₀ db (.ok session) :=
  ⟨h, fun s heq => by cases heq; exact hactive⟩

section Handlers

variable {flight : Flight} {session : Session} (outcomes : SqlOutcomes) (h : Untouched ids db₀ db)
  (hid : ids flight.flightID)
include h hid

theorem keeps_saveActive (s : SeatMap) :
    Keeps ids db₀ (saveActive outcomes db flight s session).1
      (saveActive outcomes db flight s session).2 := by
  refine ⟨?_, ?_⟩
  · rw [saveActive_fst]
    exact h.onlyTable hid (onlyTable_insertBookingData s db _ outcomes.seat)
  · intro session' hsession flight' hactive
    unfold saveActive at hsession
    simp only at hsession
    split at hsession
    · cases hsession
      cases hactive
      exact hid
    · contradiction

variable (hactive : ActiveIn ids session)
include hactive

theorem keeps_bookPressed (name email maxLoad : String) :
    Keeps ids db₀ (bookPressed outcomes db flight session name email maxLoad).1
      (bookPressed outcomes db flight session name email maxLoad).2 := by
  unfold bookPressed
  split
  · exact .error h _
  · exact .ok h hactive
  · exact keeps_saveActive outcomes h hid _

omit hactive in
theorem keeps_updatePressed (name email maxLoad : String) :
    Keeps ids db₀ (updatePressed outcomes db flight session name email maxLoad).1
      (updatePressed outcomes db flight session name email maxLoad).2 := by
  unfold updatePressed
  simp only
  split
  · exact .error h _
  · exact keeps_saveActive outcomes h hid _

omit hactive in
theorem keeps_deletePressed :
    Keeps ids db₀ (deletePressed outcomes db flight session).1
      (deletePressed outcomes db flight session).2 := by
  unfold deletePressed
  simp only
  split
  · exact .error h _
  · refine .ok (h.onlyTable hid (onlyTable_deleteBookingData db _ _ _ _)) ?_
    intro flight' hflight
    cases hflight
    exact hid

end Handlers

theorem keeps_selectPressed {ids : String → Prop} {db₀ db : Database} (h : Untouched ids db₀ db)
    (outcomes : SqlOutcomes) {flightInformation : FlightInformation} (session : Session)
    (hid : ids flightInformation.flightID) :
    Keeps ids db₀ db (selectPressed outcomes db flightInformation session) := by
  refine ⟨h, ?_⟩
  intro session' hselect flight' hactive
  obtain ⟨flight, rfl, hflight, _⟩ := selectPressed_ok hselect
  cases hactive
  rw [hflight]
  exact hid

/-- The same to the party. -/
structure SameTables (ids : String → Prop) (db db' : Database) : Prop where
  flights : db.flights = db'.flights
  tables : ∀ id, ids id →
    db.bookingTable ("Booking" ++ id) = db'.bookingTable ("Booking" ++ id)

/-- The same result, and databases that are the same to the party. -/
structure SameResult {α : Type*} (ids : String → Prop)
    (result result' : Database × Except Fault α) : Prop where
  stored : SameTables ids result.1 result'.1
  returned : result.2 = result'.2

namespace SameTables

variable {db' db'' : Database}

theorem refl (ids : String → Prop) (db : Database) : SameTables ids db db :=
  ⟨rfl, fun _ _ => rfl⟩

theorem symm (h : SameTables ids db db') : SameTables ids db' db :=
  ⟨h.flights.symm, fun id hid => (h.tables id hid).symm⟩

theorem trans (h : SameTables ids db db') (h' : SameTables ids db' db'') :
    SameTables ids db db'' :=
  ⟨h.flights.trans h'.flights, fun id hid => (h.tables id hid).trans (h'.tables id hid)⟩

theorem setBookingTable (h : SameTables ids db db') (tableName : String)
    (t : List BookingInformation) :
    SameTables ids (db.setBookingTable tableName t) (db'.setBookingTable tableName t) := by
  refine ⟨?_, ?_⟩
  · rw [db.flights_setBookingTable, db'.flights_setBookingTable, h.flights]
  · intro id hid
    by_cases hkey : tableKey ("Booking" ++ id) = tableKey tableName
    · have hset : ∀ x : Database, (x.setBookingTable tableName t).bookingTable tableName =
          (tableKey tableName).map fun _ => t := by
        intro x
        unfold Database.setBookingTable Database.bookingTable
        cases tableKey tableName <;> simp
      rw [Database.bookingTable_congr _ tableName _ hkey,
        Database.bookingTable_congr _ tableName _ hkey, hset, hset]
    · rw [Database.bookingTable_setBookingTable_ne _ _ _ _ hkey,
        Database.bookingTable_setBookingTable_ne _ _ _ _ hkey, h.tables id hid]

theorem openTable (h : SameTables ids db db') {id : String} (hid : ids id) :
    db.openTable ("Booking" ++ id) = db'.openTable ("Booking" ++ id) := by
  unfold Database.openTable
  rw [h.tables id hid]

/-- What another party stores. -/
theorem of_untouched {others : String → Prop} (h : Untouched others db db')
    (hapart : ∀ id other, ids id → others other →
      tableKey ("Booking" ++ id) ≠ tableKey ("Booking" ++ other)) : SameTables ids db db' :=
  ⟨h.flights.symm, fun id hid =>
    (h.tables _ fun other hother => hapart id other hid hother).symm⟩

end SameTables

section Same

variable {db' : Database} (h : SameTables ids db db')
include h

theorem SameResult.const {α : Type*} (result : Except Fault α) :
    SameResult ids (db, result) (db', result) := ⟨h, rfl⟩

/-- The two bodies of a transaction fail alike or store the same. -/
theorem same_transaction (outcome : TransactionOutcome) {body : Database → Except Fault Database}
    (hbody : (∃ e, body db = .error e ∧ body db' = .error e) ∨
      ∃ x x', body db = .ok x ∧ body db' = .ok x' ∧ SameTables ids x x') :
    SameResult ids (transaction outcome body db) (transaction outcome body db') := by
  unfold transaction
  cases outcome with
  | committed =>
    rcases hbody with ⟨e, he, he'⟩ | ⟨x, x', hx, hx', hsame⟩
    · simp only [he, he']
      cases e <;> exact .const h _
    · simp only [hx, hx']
      exact .const hsame _
  | _ => exact .const h _

omit h in
/-- The body for one seat opens the table, reads the map and upserts one row. -/
theorem storeSeat_upsert (s : SeatMap) (tableName : String) (r c : ℤ) (name : String)
    (x : Database) :
    storeSeat s tableName r c name x =
      (do
        let t ← x.openTable tableName
        let email ← s.getEmail r c
        let maxLoad ← s.getMaxLoad r c
        return x.setBookingTable tableName
          (RowTable.upsert BookingInformation.seat ⟨name, email, maxLoad, r, c⟩ t)) := by
  unfold storeSeat Database.selectSeat Database.updateSeat Database.insertSeat
  cases x.openTable tableName with
  | error e => rfl
  | ok t =>
    simp only [bind, Except.bind, pure, Except.pure]
    cases s.getEmail r c with
    | error e => rfl
    | ok email =>
      cases s.getMaxLoad r c with
      | error e => rfl
      | ok maxLoad =>
        simp only [upsert_eq_match]
        cases RowTable.rowsAt BookingInformation.seat (r, c) t <;> rfl

variable {id : String} (hid : ids id) (s : SeatMap)
include hid

theorem same_insertBookingSeat (outcome : TransactionOutcome) (k : ℤ × ℤ) :
    SameResult ids (insertBookingSeat s ("Booking" ++ id) outcome k db)
      (insertBookingSeat s ("Booking" ++ id) outcome k db') := by
  unfold insertBookingSeat
  split
  · exact .const h _
  · split
    · refine same_transaction h outcome ?_
      rw [storeSeat_upsert, storeSeat_upsert, ← h.openTable hid]
      cases db.openTable ("Booking" ++ id) with
      | error e => exact Or.inl ⟨e, rfl, rfl⟩
      | ok t =>
        cases s.getEmail k.1 k.2 with
        | error e => exact Or.inl ⟨e, rfl, rfl⟩
        | ok email =>
          cases s.getMaxLoad k.1 k.2 with
          | error e => exact Or.inl ⟨e, rfl, rfl⟩
          | ok maxLoad => exact Or.inr ⟨_, _, rfl, rfl, h.setBookingTable _ _⟩
    · exact .const h _

theorem same_insertBookingLoop (outcome : ℤ × ℤ → TransactionOutcome) (seats : List (ℤ × ℤ)) :
    SameResult ids (insertBookingLoop s ("Booking" ++ id) outcome seats db)
      (insertBookingLoop s ("Booking" ++ id) outcome seats db') := by
  induction seats generalizing db db' with
  | nil => exact .const h _
  | cons k rest ih =>
    obtain ⟨hstored, hreturned⟩ := same_insertBookingSeat h hid s (outcome k) k
    unfold insertBookingLoop
    cases hfirst : insertBookingSeat s ("Booking" ++ id) (outcome k) k db with
    | mk x result =>
      cases hfirst' : insertBookingSeat s ("Booking" ++ id) (outcome k) k db' with
      | mk x' result' =>
        rw [hfirst, hfirst'] at hstored hreturned
        cases hreturned
        cases result with
        | error e => exact .const hstored _
        | ok => exact ih hstored

theorem same_deleteBookingData (r c : ℤ) (raises : Bool) :
    SameTables ids (deleteBookingData db ("Booking" ++ id) r c raises)
      (deleteBookingData db' ("Booking" ++ id) r c raises) := by
  unfold deleteBookingData
  split
  · exact h
  · unfold Database.deleteSeat
    rw [← h.openTable hid]
    cases db.openTable ("Booking" ++ id) with
    | error e => exact h
    | ok t => exact h.setBookingTable _ _

end Same

section Handlers

variable {db' : Database} {flight : Flight} {session : Session} (outcomes : SqlOutcomes)
  (h : SameTables ids db db') (hid : ids flight.flightID)
include h hid

theorem same_saveActive (s : SeatMap) :
    SameResult ids (saveActive outcomes db flight s session)
      (saveActive outcomes db' flight s session) := by
  obtain ⟨hstored, hreturned⟩ := same_insertBookingLoop h hid s outcomes.seat s.seats
  unfold saveActive insertBookingData generateBookingTableName
  simp only
  cases hsave : insertBookingLoop s ("Booking" ++ flight.flightID) outcomes.seat s.seats db with
  | mk x result =>
    cases hsave' : insertBookingLoop s ("Booking" ++ flight.flightID) outcomes.seat s.seats
        db' with
    | mk x' result' =>
      rw [hsave, hsave'] at hstored hreturned
      cases hreturned
      cases result <;> exact .const hstored _

theorem same_bookPressed (name email maxLoad : String) :
    SameResult ids (bookPressed outcomes db flight session name email maxLoad)
      (bookPressed outcomes db' flight session name email maxLoad) := by
  unfold bookPressed
  split
  · exact .const h _
  · exact .const h _
  · exact same_saveActive outcomes h hid _

theorem same_updatePressed (name email maxLoad : String) :
    SameResult ids (updatePressed outcomes db flight session name email maxLoad)
      (updatePressed outcomes db' flight session name email maxLoad) := by
  unfold updatePressed
  simp only
  split
  · exact .const h _
  · exact same_saveActive outcomes h hid _

theorem same_deletePressed :
    SameResult ids (deletePressed outcomes db flight session)
      (deletePressed outcomes db' flight session) := by
  unfold deletePressed
  simp only
  split
  · exact .const h _
  · exact .const (same_deleteBookingData h hid _ _ outcomes.deleteRaises) _

omit hid in
theorem same_selectPressed {f : FlightInformation} (hf : ids f.flightID) :
    selectPressed outcomes db f session = selectPressed outcomes db' f session := by
  unfold selectPressed
  rw [Isolation.freshLoad_congr f outcomes.retrieval (h.tables f.flightID hf)]

end Handlers

end AirlineReservation.OwnFlights
