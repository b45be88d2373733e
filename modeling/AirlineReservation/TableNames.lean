import AirlineReservation.FlightsTable
import AirlineReservation.Library.Words

/-!
The statements that the program forms around a table name. The id of a flight is
bound as a parameter where the flight is stored, but stands unquoted in the text
of the statements on its booking table, so that only an id of name characters is
read there as part of the name.
-/

namespace AirlineReservation

/-- A statement with a place for a table name. -/
structure Template where
  before : String
  after : String
  deriving DecidableEq, Repr

namespace Template

def createBookingTable : Template :=
  ⟨"CREATE TABLE IF NOT EXISTS ",
    " (name TEXT,email TEXT,maxLoad TEXT,row INTEGER,col INTEGER);"⟩

def checkQuery : Template := ⟨"SELECT row, col FROM ", " WHERE row = ? AND col = ?;"⟩

def updateQuery : Template :=
  ⟨"UPDATE ", " SET name = ?, email = ?, maxLoad = ? WHERE row = ? AND col = ?;"⟩

def insertQuery : Template :=
  ⟨"INSERT INTO ", "(name, email, maxLoad, row, col) VALUES (?, ?, ?, ?, ?);"⟩

def deleteQuery : Template := ⟨"DELETE FROM ", " WHERE row = ? AND col = ? "⟩

def countQuery : Template := ⟨"SELECT COUNT(*) FROM ", ";"⟩

def bookingsQuery : Template := ⟨"SELECT * FROM ", ";"⟩

/-- The statements of `CreateBookingTable`, `InsertBookingData`, `DeleteBookingData`
and `GetBookingsInfo`, with the count it begins with. -/
def all : List Template :=
  [createBookingTable, checkQuery, updateQuery, insertQuery, deleteQuery, countQuery,
    bookingsQuery]

def sql (statement : Template) (tableName : String) : String :=
  statement.before ++ tableName ++ statement.after

end Template

def isSqlSpace (c : Char) : Bool :=
  c = ' ' || c = '\t' || c = '\n' || c.toNat = 12 || c = '\r'

/-- The names and keywords of a text, and its other characters one by one. Quotes
and comments, which no statement of the program has, are not read as such: a word
ends where they begin. -/
def sqlTokens (text : String) : List (Words.Token Char) :=
  Words.tokens isNameChar isSqlSpace text.toList

/-- A text is read as the statement on one table, with this name. -/
def Template.ReadAs (statement : Template) (text tableName : String) : Prop :=
  sqlTokens text =
    sqlTokens statement.before ++ .word tableName.toList :: sqlTokens statement.after

namespace TableNames

/-- In every statement a blank stands before the name, and what follows it begins
with a character of no name. -/
def setsApart (statement : Template) : Bool :=
  statement.before.toList.getLast? = some ' ' &&
    statement.after.toList.head?.all fun c => !isNameChar c

theorem setsApart_all : Template.all.all setsApart = true := by decide +kernel

theorem toList_booking (flightId : String) :
    ("Booking" ++ flightId).toList = 'B' :: ("ooking".toList ++ flightId.toList) := by
  rw [String.toList_append]
  rfl

/-- The name of a booking table is read as one word exactly when the id has name
characters only. -/
theorem readAs_iff {statement : Template} (h : statement ∈ Template.all) (flightId : String) :
    statement.ReadAs (statement.sql ("Booking" ++ flightId)) ("Booking" ++ flightId) ↔
      ∀ c ∈ flightId.toList, isNameChar c = true := by
  have hapart := List.all_eq_true.mp setsApart_all statement h
  rw [setsApart, Bool.and_eq_true, decide_eq_true_eq] at hapart
  obtain ⟨hlast, hhead⟩ := hapart
  obtain ⟨before, hbefore⟩ := List.getLast?_eq_some_iff.mp hlast
  have hafter : Words.Apart isNameChar statement.after.toList := by
    intro c hc
    rw [Option.mem_def.mp hc] at hhead
    simpa using hhead
  have htext : (statement.sql ("Booking" ++ flightId)).toList =
      before ++ [' '] ++ ('B' :: ("ooking".toList ++ flightId.toList)) ++
        statement.after.toList := by
    rw [Template.sql, String.toList_append, String.toList_append, hbefore, toList_booking]
  have hooking : ∀ c ∈ "ooking".toList, isNameChar c = true :=
    List.all_eq_true.mp (by decide)
  rw [Template.ReadAs, sqlTokens, sqlTokens, sqlTokens, htext, hbefore, toList_booking,
    Words.tokens_hole_iff (by decide) (by decide) hafter]
  constructor
  · intro hall c hc
    exact hall c (List.mem_append_right _ hc)
  · intro hid c hc
    rcases List.mem_append.mp hc with hc | hc
    · exact hooking c hc
    · exact hid c hc

/-- The flights table has the id, whatever it is. -/
def Stores (db : Database) (flightId : String) : Prop :=
  ∃ t, db.flights = some t ∧ ∃ row ∈ t, row.flightId = flightId

theorem stores_insertFlight {db : Database} {t : List FlightRow} (h : db.flights = some t)
    (call : FlightsTable.FlightCall) :
    Stores (insertFlight db call.flightId call.origin call.destination call.departureTime
      call.arrivalTime call.rows call.cols .committed).1 call.flightId := by
  refine ⟨_, FlightsTable.insertFlight_committed h call, call.row, ?_, rfl⟩
  rw [RowTable.replace]
  exact List.mem_append_right _ (List.mem_singleton_self call.row)

/-- `InsertFlight` stores every id. The statements on its booking table are read as
statements on that one table exactly when the id has name characters only. -/
theorem stored_id_read_iff {db : Database} {t : List FlightRow} (h : db.flights = some t)
    (call : FlightsTable.FlightCall) :
    Stores (insertFlight db call.flightId call.origin call.destination call.departureTime
      call.arrivalTime call.rows call.cols .committed).1 call.flightId ∧
    ((∀ statement ∈ Template.all, statement.ReadAs
        (statement.sql ("Booking" ++ call.flightId)) ("Booking" ++ call.flightId)) ↔
      ∀ c ∈ call.flightId.toList, isNameChar c = true) := by
  refine ⟨stores_insertFlight h call, ?_⟩
  constructor
  · intro hread
    have hmem : Template.bookingsQuery ∈ Template.all := by simp [Template.all]
    exact (readAs_iff hmem call.flightId).mp (hread Template.bookingsQuery hmem)
  · intro hid statement hstatement
    exact (readAs_iff hstatement call.flightId).mpr hid

/-- An id as airlines write them. -/
theorem stored_id_read_letters :
    Stores (insertFlight ⟨some [], fun _ => none⟩ "PR1845" "MNL" "CEB" "2024-05-01 08:00:00"
      "2024-05-01 10:30:00" 30 6 .committed).1 "PR1845" ∧
    ((∀ statement ∈ Template.all, statement.ReadAs
        (statement.sql ("Booking" ++ "PR1845")) ("Booking" ++ "PR1845")) ↔
      ∀ c ∈ "PR1845".toList, isNameChar c = true) :=
  stored_id_read_iff rfl
    ⟨"PR1845", "MNL", "CEB", "2024-05-01 08:00:00", "2024-05-01 10:30:00", 30, 6⟩

/-- An id with a hyphen is stored, but its table is not read as one name. -/
theorem stored_id_not_read :
    Stores (insertFlight ⟨some [], fun _ => none⟩ "PR-1845" "MNL" "CEB" "2024-05-01 08:00:00"
      "2024-05-01 10:30:00" 30 6 .committed).1 "PR-1845" ∧
    ¬ ∀ statement ∈ Template.all, statement.ReadAs
        (statement.sql ("Booking" ++ "PR-1845")) ("Booking" ++ "PR-1845") := by
  constructor
  · exact stores_insertFlight rfl
      ⟨"PR-1845", "MNL", "CEB", "2024-05-01 08:00:00", "2024-05-01 10:30:00", 30, 6⟩
  · intro hread
    have hmem : Template.bookingsQuery ∈ Template.all := by simp [Template.all]
    have hid := (readAs_iff hmem "PR-1845").mp (hread Template.bookingsQuery hmem)
    have hhyphen : isNameChar '-' ≠ true := by decide
    exact hhyphen (hid '-' (by decide +kernel))

end TableNames

end AirlineReservation
