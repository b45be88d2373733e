import AirlineReservation.Library.Run
import AirlineReservation.OnlyTable

/-!
Several sessions on one database. A save is a loop with one transaction for
each named seat, so the transactions of different saves interleave freely, each
with the seat map its session happens to hold. No table has a key; that a seat
never gets a second row rests on the look-up inside each transaction.
-/

namespace AirlineReservation.Interleaving

open BookingInformation

/-- A call of `InsertBookingData` that has begun, with the positions still to visit. -/
structure SaveLoop where
  seatMap : SeatMap
  tableName : String
  pending : List (ℤ × ℤ)

def SaveLoop.begin (seatMap : SeatMap) (tableName : String) : SaveLoop :=
  ⟨seatMap, tableName, seatMap.seats⟩

/-- The next iteration of the call, `none` when it is over. -/
def SaveLoop.step (loop : SaveLoop) (outcome : TransactionOutcome) (db : Database) :
    Database × Option SaveLoop :=
  match loop.pending with
  | [] => (db, none)
  | k :: rest =>
    match insertBookingSeat loop.seatMap loop.tableName outcome k db with
    | (db', .ok ()) => (db', some { loop with pending := rest })
    | (db', .error _) => (db', none)

/-- One iteration leaves the database or upserts one row for its position. -/
theorem SaveLoop.step_db (loop : SaveLoop) (outcome : TransactionOutcome) (db : Database) :
    (loop.step outcome db).1 = db ∨ ∃ t b, db.bookingTable loop.tableName = some t ∧
      (loop.step outcome db).1 =
        db.setBookingTable loop.tableName (RowTable.upsert seat b t) := by
  unfold step
  split
  · exact Or.inl rfl
  · next k rest _ =>
    have hseat := insertBookingSeat_db loop.seatMap db loop.tableName outcome k
    split
    all_goals
      next db' heq =>
      rw [heq] at hseat
      rcases hseat with hsame | ⟨t, b, ht, _, _, _, _, _, _, hset⟩
      · exact Or.inl hsame
      · exact Or.inr ⟨t, b, ht, hset⟩

/-- The database and what each session has of a save in progress. -/
structure Shared (ι : Type*) where
  db : Database
  loops : ι → Option SaveLoop

/-- A session may hold any seat map when it begins to save; reading a table
back is a step of its own and changes no table. -/
inductive Event (ι : Type*)
  | insertBookingData (i : ι) (seatMap : SeatMap) (tableName : String)
  | transact (i : ι) (outcome : TransactionOutcome)
  | deleteBookingData (tableName : String) (row col : ℤ) (raises : Bool)
  | createBookingTable (tableName : String)
  | load (flightInfo : FlightInformation) (outcome : RetrievalOutcome)

/-- The table names that the statements of an event are made with. -/
def Event.tableNames {ι : Type*} : Event ι → List String
  | .insertBookingData _ _ tableName => [tableName]
  | .transact _ _ => []
  | .deleteBookingData tableName _ _ _ => [tableName]
  | .createBookingTable tableName => [tableName]
  | .load flightInfo _ => ["Booking" ++ flightInfo.flightID]

variable {ι : Type*} [DecidableEq ι]

def step (sys : Shared ι) : Event ι → Shared ι
  | .insertBookingData i seatMap tableName =>
    match sys.loops i with
    | some _ => sys
    | none => { sys with
        loops := Function.update sys.loops i (some (SaveLoop.begin seatMap tableName)) }
  | .transact i outcome =>
    match sys.loops i with
    | none => sys
    | some loop =>
      ⟨(loop.step outcome sys.db).1,
        Function.update sys.loops i (loop.step outcome sys.db).2⟩
  | .deleteBookingData tableName row col raises =>
    { sys with db := deleteBookingData sys.db tableName row col raises }
  | .createBookingTable tableName =>
    match createBookingTable sys.db tableName with
    | .ok db => { sys with db := db }
    | .error _ => sys
  | .load _ _ => sys

/-- No stored booking table has two rows for one seat. -/
def UniqueTables (db : Database) : Prop :=
  ∀ key t, db.bookings key = some t → UniqueSeats t

theorem UniqueTables.bookingTable {db : Database} (h : UniqueTables db) {tableName : String}
    {t : List BookingInformation} (ht : db.bookingTable tableName = some t) : UniqueSeats t :=
  db.of_bookingTable tableName h ht

theorem UniqueTables.setBookingTable {db : Database} (h : UniqueTables db) (tableName : String)
    {t : List BookingInformation} (ht : UniqueSeats t) :
    UniqueTables (db.setBookingTable tableName t) :=
  db.of_setBookingTable tableName h ht

/-- One event, whichever session and whatever fails. -/
theorem uniqueTables_step {sys : Shared ι} (h : UniqueTables sys.db) (event : Event ι) :
    UniqueTables (step sys event).db := by
  cases event with
  | insertBookingData i seatMap tableName =>
    simp only [step]
    split <;> exact h
  | transact i outcome =>
    simp only [step]
    split
    · exact h
    · next loop _ =>
      rcases loop.step_db outcome sys.db with hsame | ⟨t, b, ht, hset⟩
      · simpa only [hsame] using h
      · simp only [hset]
        exact h.setBookingTable _ (RowTable.Unique.upsert seat (h.bookingTable ht) b)
  | deleteBookingData tableName row col raises =>
    simp only [step]
    cases ht : sys.db.bookingTable tableName with
    | none => rwa [deleteBookingData_missing ht]
    | some t =>
      rw [deleteBookingData_eq ht]
      apply h.setBookingTable
      split
      · exact h.bookingTable ht
      · exact RowTable.Unique.deleteAt seat (h.bookingTable ht) (row, col)
  | createBookingTable tableName =>
    simp only [step, createBookingTable]
    split
    · next db heq =>
      split at heq
      · contradiction
      · split at heq
        · cases heq
          exact h
        · cases heq
          exact h.setBookingTable tableName (RowTable.unique_nil seat)
    · exact h
  | load flightInfo outcome => exact h

/-- Starting from empty booking tables, in every state of every interleaving no
table holds two rows for one seat. The saves under way and the events are on names,
since any other text would be run as SQL of its own. -/
theorem throughout_uniqueTables (db : Database) (loops : ι → Option SaveLoop)
    (events : List (Event ι)) (hempty : ∀ key t, db.bookings key = some t → t = [])
    (_hloops : ∀ i, ∀ loop ∈ loops i, IsName loop.tableName)
    (_hnamed : ∀ event ∈ events, ∀ tableName ∈ event.tableNames, IsName tableName) :
    Run.Throughout step (fun sys => UniqueTables sys.db) ⟨db, loops⟩ events := by
  apply Run.throughout_of_forall step (fun sys : Shared ι => UniqueTables sys.db) (fun _ => True)
  · intro sys event h _
    exact uniqueTables_step h event
  · intro key t ht
    rw [hempty key t ht]
    exact RowTable.unique_nil seat
  · exact fun _ _ => trivial

theorem two_sessions_unique :
    Run.Throughout step (fun sys => UniqueTables sys.db)
      (⟨Database.empty, fun _ => none⟩ : Shared Bool)
      [.createBookingTable "BookingAA123",
        .insertBookingData true ((SeatMap.vacant 1 1).putCell 0 0 (Cell.taken "Ann" "" ""))
          "BookingAA123",
        .insertBookingData false ((SeatMap.vacant 1 1).putCell 0 0 (Cell.taken "Bob" "" ""))
          "bookingaa123",
        .transact true .committed, .transact false .committed] :=
  throughout_uniqueTables Database.empty _ _ (by simp [Database.empty]) (by simp) (by decide)

/-- A session that saves nothing ignores transactions. -/
theorem run_transact_idle (sys : Shared ι) (i : ι) (hidle : sys.loops i = none)
    (outcomes : List TransactionOutcome) :
    Run.run step sys (outcomes.map fun outcome => .transact i outcome) = sys := by
  induction outcomes with
  | nil => rfl
  | cons outcome rest ih =>
    have hkeep : step sys (.transact i outcome) = sys := by simp only [step, hidle]
    rw [List.map_cons, Run.run_cons, hkeep, ih]

/-- A save that nobody interrupts is the save of the persistence manager. -/
theorem uninterrupted_save (seatMap : SeatMap) (tableName : String) (i : ι)
    (outcome : ℤ × ℤ → TransactionOutcome) (seats : List (ℤ × ℤ)) (sys : Shared ι)
    (hloop : sys.loops i = some ⟨seatMap, tableName, seats⟩) :
    (Run.run step sys ((seats.map outcome).map fun o => .transact i o)).db =
      (insertBookingLoop seatMap tableName outcome seats sys.db).1 := by
  induction seats generalizing sys with
  | nil => rfl
  | cons k rest ih =>
    rw [List.map_cons, List.map_cons, Run.run_cons, insertBookingLoop]
    cases hseat : insertBookingSeat seatMap tableName (outcome k) k sys.db with
    | mk db' result =>
      cases result with
      | ok _ =>
        have hstep : step sys (.transact i (outcome k)) =
            ⟨db', Function.update sys.loops i (some ⟨seatMap, tableName, rest⟩)⟩ := by
          simp only [step, hloop, SaveLoop.step, hseat]
        rw [hstep]
        exact ih _ (Function.update_self i _ sys.loops)
      | error e =>
        have hstep : step sys (.transact i (outcome k)) =
            ⟨db', Function.update sys.loops i none⟩ := by
          simp only [step, hloop, SaveLoop.step, hseat]
        rw [hstep, run_transact_idle _ i (Function.update_self i _ sys.loops)]

end AirlineReservation.Interleaving
