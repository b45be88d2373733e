import AirlineReservation.Library.RowTable
import Mathlib.Algebra.Group.Nat.Defs
import Mathlib.Data.Int.Notation
import Mathlib.Logic.Function.Basic

/-!
The database as the program sees it: one optional flights table and the
booking tables. A booking table is a list of rows under the four statements
the program issues; its schema has no key. SQLite resolves table names without
regard to ASCII case, so booking tables are filed under the folded name, while
`flightId TEXT PRIMARY KEY` compares its texts exactly.
-/

namespace AirlineReservation

/-- How a call can fail to return. The first three are C++ exceptions; an index
outside a vector is undefined behaviour, and `strcpy_s` into a buffer that is
too small ends the process. -/
inductive Fault
  | lengthError
  | sqlException
  | jsonException
  | outOfRange
  | bufferTooSmall
  deriving DecidableEq, Repr

/-- A computation that returns has returned in its first part. -/
theorem exists_of_bind_ok {α β : Type*} {x : Except Fault α} {f : α → Except Fault β} {r : β}
    (h : x.bind f = .ok r) : ∃ a, x = .ok a ∧ f a = .ok r := by
  cases x with
  | error e => contradiction
  | ok a => exact ⟨a, rfl, h⟩

structure FlightInformation where
  flightID : String
  origin : String
  destination : String
  bookingTable : String
  departureTime : ℤ
  arrivalTime : ℤ
  rows : ℤ
  cols : ℤ
  deriving DecidableEq, Repr

/-- A booking, which is also a row of a booking table. -/
structure BookingInformation where
  name : String
  email : String
  maxLoad : String
  row : ℤ
  col : ℤ
  deriving DecidableEq, Repr

def BookingInformation.seat (b : BookingInformation) : ℤ × ℤ := (b.row, b.col)

/-- A row of the flights table. The two DATETIME columns hold the bound texts. -/
structure FlightRow where
  flightId : String
  origin : String
  destination : String
  departureTime : String
  arrivalTime : String
  bookingTable : String
  rows : ℤ
  cols : ℤ
  deriving DecidableEq, Repr

/-- The characters of an unquoted SQL name. -/
def isNameChar (c : Char) : Bool :=
  c.isAlphanum || c = '_' || c = '$' || 128 ≤ c.toNat

/-- A text of such characters only. -/
def IsName (text : String) : Prop := text.toList.all isNameChar = true

instance (text : String) : Decidable (IsName text) :=
  inferInstanceAs (Decidable (text.toList.all isNameChar = true))

/-- The stored table that a name in a statement resolves to. The program pastes
the text unquoted, so one with other characters is run as further SQL, which the
model does not follow: it finds no table. Where a result is about what becomes of
the tables it asks for `IsName`. -/
def tableKey (tableName : String) : Option (List Char) :=
  if tableName.toList.all isNameChar then some (tableName.toList.map Char.toLower) else none

structure Database where
  flights : Option (List FlightRow)
  bookings : List Char → Option (List BookingInformation)

namespace Database

def empty : Database := ⟨none, fun _ => none⟩

/-- The ids of the stored flights are names. -/
def NamedFlights (db : Database) : Prop :=
  ∀ rows ∈ db.flights, ∀ row ∈ rows, IsName row.flightId

instance (db : Database) : Decidable db.NamedFlights :=
  inferInstanceAs (Decidable (∀ rows ∈ db.flights, ∀ row ∈ rows, IsName row.flightId))

def bookingTable (db : Database) (tableName : String) : Option (List BookingInformation) :=
  (tableKey tableName).bind db.bookings

def setBookingTable (db : Database) (tableName : String) (t : List BookingInformation) :
    Database :=
  match tableKey tableName with
  | none => db
  | some key => { db with bookings := Function.update db.bookings key (some t) }

/-- Preparing a statement on a table that does not exist raises. -/
def openTable (db : Database) (tableName : String) :
    Except Fault (List BookingInformation) :=
  match db.bookingTable tableName with
  | none => .error .sqlException
  | some t => .ok t

/-- `SELECT row, col FROM t WHERE row = ? AND col = ?` -/
def selectSeat (db : Database) (tableName : String) (row col : ℤ) :
    Except Fault (List BookingInformation) := do
  let t ← db.openTable tableName
  return RowTable.rowsAt BookingInformation.seat (row, col) t

/-- `UPDATE t SET name = ?, email = ?, maxLoad = ? WHERE row = ? AND col = ?` -/
def updateSeat (db : Database) (tableName : String) (name email maxLoad : String)
    (row col : ℤ) : Except Fault Database := do
  let t ← db.openTable tableName
  return db.setBookingTable tableName (RowTable.updateAt BookingInformation.seat (row, col)
    (fun b => { b with name := name, email := email, maxLoad := maxLoad }) t)

/-- `INSERT INTO t(name, email, maxLoad, row, col) VALUES (?, ?, ?, ?, ?)` -/
def insertSeat (db : Database) (tableName : String) (name email maxLoad : String)
    (row col : ℤ) : Except Fault Database := do
  let t ← db.openTable tableName
  return db.setBookingTable tableName (t ++ [⟨name, email, maxLoad, row, col⟩])

/-- `DELETE FROM t WHERE row = ? AND col = ?` -/
def deleteSeat (db : Database) (tableName : String) (row col : ℤ) : Except Fault Database := do
  let t ← db.openTable tableName
  return db.setBookingTable tableName (RowTable.deleteAt BookingInformation.seat (row, col) t)

end Database

/-- What becomes of one `SQLite::Transaction`: every statement succeeds; a
statement or the commit raises and the handler rolls back; `BEGIN`, which
stands before the `try`, raises; or the rollback in the handler raises too. -/
inductive TransactionOutcome
  | committed
  | rolledBack
  | beginRaised
  | rollbackRaised
  deriving DecidableEq, Repr

/-- A transaction around a `try` body. Whenever it does not commit the database
is as before; an exception leaves it only from `BEGIN` or from the handler. -/
def transaction (outcome : TransactionOutcome) (body : Database → Except Fault Database)
    (db : Database) : Database × Except Fault Unit :=
  match outcome with
  | .beginRaised => (db, .error .sqlException)
  | .rolledBack => (db, .ok ())
  | .rollbackRaised => (db, .error .sqlException)
  | .committed =>
    match body db with
    | .ok db' => (db', .ok ())
    | .error .outOfRange => (db, .error .outOfRange)
    | .error _ => (db, .ok ())

namespace Database

variable (db : Database) (tableName : String)

theorem tableKey_of_bookingTable {t : List BookingInformation}
    (h : db.bookingTable tableName = some t) : ∃ key, tableKey tableName = some key := by
  unfold bookingTable at h
  cases hkey : tableKey tableName with
  | none => simp [hkey] at h
  | some key => exact ⟨key, rfl⟩

theorem bookingTable_setBookingTable_self {t : List BookingInformation}
    (h : db.bookingTable tableName = some t) (t' : List BookingInformation) :
    (db.setBookingTable tableName t').bookingTable tableName = some t' := by
  obtain ⟨key, hkey⟩ := db.tableKey_of_bookingTable tableName h
  simp [bookingTable, setBookingTable, hkey]

/-- Replacing one table leaves the tables of every other key. -/
theorem bookingTable_setBookingTable_ne (tableName' : String) (t' : List BookingInformation)
    (h : tableKey tableName' ≠ tableKey tableName) :
    (db.setBookingTable tableName t').bookingTable tableName' = db.bookingTable tableName' := by
  unfold bookingTable setBookingTable
  cases hkey : tableKey tableName with
  | none => rfl
  | some key =>
    cases hkey' : tableKey tableName' with
    | none => rfl
    | some key' =>
      have hne : key' ≠ key := by
        intro heq
        subst heq
        exact h (hkey'.trans hkey.symm)
      simp [hne]

theorem bookingTable_congr (tableName' : String) (h : tableKey tableName' = tableKey tableName) :
    db.bookingTable tableName' = db.bookingTable tableName := by
  simp only [bookingTable, h]

/-- A table of the database afterwards is an old one, or the one that was replaced. -/
theorem bookingTable_setBookingTable_cases (tableName' : String)
    {t t' : List BookingInformation}
    (h : (db.setBookingTable tableName t').bookingTable tableName' = some t) :
    db.bookingTable tableName' = some t ∨ tableKey tableName' = tableKey tableName ∧ t = t' := by
  by_cases hkey : tableKey tableName' = tableKey tableName
  · rw [bookingTable_congr _ tableName _ hkey] at h
    obtain ⟨key, hname⟩ := tableKey_of_bookingTable _ _ h
    simp only [bookingTable, setBookingTable, hname, Option.bind_some, Function.update_self,
      Option.some.injEq] at h
    exact Or.inr ⟨hkey, h.symm⟩
  · rw [db.bookingTable_setBookingTable_ne _ _ _ hkey] at h
    exact Or.inl h

theorem flights_setBookingTable (t : List BookingInformation) :
    (db.setBookingTable tableName t).flights = db.flights := by
  unfold setBookingTable
  split <;> rfl

theorem setBookingTable_setBookingTable (t t' : List BookingInformation) :
    (db.setBookingTable tableName t).setBookingTable tableName t' =
      db.setBookingTable tableName t' := by
  unfold setBookingTable
  cases tableKey tableName <;> simp

theorem setBookingTable_self {t : List BookingInformation}
    (h : db.bookingTable tableName = some t) : db.setBookingTable tableName t = db := by
  obtain ⟨key, hkey⟩ := db.tableKey_of_bookingTable tableName h
  have hold : db.bookings key = some t := by simpa [bookingTable, hkey] using h
  simp [setBookingTable, hkey, ← hold]

/-- What every stored table has, the named one has. -/
theorem of_bookingTable {P : List BookingInformation → Prop}
    (h : ∀ key t, db.bookings key = some t → P t) {t : List BookingInformation}
    (ht : db.bookingTable tableName = some t) : P t := by
  obtain ⟨key, _, hkey⟩ := Option.bind_eq_some_iff.mp ht
  exact h key t hkey

/-- Every stored table still has it once the named one is replaced. -/
theorem of_setBookingTable {P : List BookingInformation → Prop}
    (h : ∀ key t, db.bookings key = some t → P t) {t' : List BookingInformation} (ht' : P t')
    (key : List Char) (t : List BookingInformation)
    (ht : (db.setBookingTable tableName t').bookings key = some t) : P t := by
  unfold setBookingTable at ht
  split at ht
  · exact h key t ht
  · next name _ =>
    simp only at ht
    by_cases hkey : key = name
    · subst hkey
      rw [Function.update_self] at ht
      exact Option.some.inj ht ▸ ht'
    · rw [Function.update_of_ne hkey] at ht
      exact h key t ht

theorem openTable_of_bookingTable {t : List BookingInformation}
    (h : db.bookingTable tableName = some t) : db.openTable tableName = .ok t := by
  simp [openTable, h]

theorem bookingTable_of_openTable {t : List BookingInformation}
    (h : db.openTable tableName = .ok t) : db.bookingTable tableName = some t := by
  unfold openTable at h
  split at h
  · contradiction
  · next t' ht =>
    cases Except.ok.inj h
    exact ht

theorem openTable_of_missing (h : db.bookingTable tableName = none) :
    db.openTable tableName = .error .sqlException := by
  simp [openTable, h]

end Database

end AirlineReservation
