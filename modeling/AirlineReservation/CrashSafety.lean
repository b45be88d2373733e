import AirlineReservation.SavedTable
import AirlineReservation.StatementOutcomes

/-!
What is stored when calls fail or the process is killed. A save that stops half
way has stored what a save without an uncaught exception stores when the seats
from there on are rolled back: some of the named seats have their row, the others
what they had, and no seat has anything else. An insertion of a flight is whole or
has not happened.
-/

namespace AirlineReservation.Statements

open Transactions Program

section Stopped

variable {s : SeatMap} {tableName : String}

variable (s tableName) in
/-- One seat of a save: what an outcome without an uncaught exception does, or an error
that leaves the database as it is. -/
theorem insertBookingSeat_caught (outcome : TransactionOutcome) (k : ℤ × ℤ) (db : Database) :
    (∃ caught : TransactionOutcome, caught.Caught ∧
      AirlineReservation.insertBookingSeat s tableName caught k db =
        AirlineReservation.insertBookingSeat s tableName outcome k db) ∨
    ∃ e, AirlineReservation.insertBookingSeat s tableName outcome k db = (db, .error e) := by
  cases outcome with
  | committed => exact Or.inl ⟨.committed, Or.inl rfl, rfl⟩
  | rolledBack => exact Or.inl ⟨.rolledBack, Or.inr rfl, rfl⟩
  | beginRaised =>
    unfold AirlineReservation.insertBookingSeat
    split
    · next e _ => exact Or.inr ⟨e, rfl⟩
    · split
      · exact Or.inr ⟨.sqlException, rfl⟩
      · exact Or.inl ⟨.rolledBack, Or.inr rfl, rfl⟩
  | rollbackRaised =>
    unfold AirlineReservation.insertBookingSeat
    split
    · next e _ => exact Or.inr ⟨e, rfl⟩
    · split
      · exact Or.inr ⟨.sqlException, rfl⟩
      · exact Or.inl ⟨.rolledBack, Or.inr rfl, rfl⟩

/-- A seat whose iteration raises is not stored. -/
theorem insertBookingSeat_error {outcome : TransactionOutcome} {k : ℤ × ℤ} {db db' : Database}
    {e : Fault}
    (h : AirlineReservation.insertBookingSeat s tableName outcome k db = (db', .error e)) :
    db' = db := by
  unfold AirlineReservation.insertBookingSeat at h
  split at h
  · exact (Prod.mk.inj h).1.symm
  · split at h
    · unfold transaction at h
      split at h
      · exact (Prod.mk.inj h).1.symm
      · exact absurd (Prod.mk.inj h).2 (by simp)
      · exact (Prod.mk.inj h).1.symm
      · split at h
        · exact absurd (Prod.mk.inj h).2 (by simp)
        · exact (Prod.mk.inj h).1.symm
        · exact absurd (Prod.mk.inj h).2 (by simp)
    · exact absurd (Prod.mk.inj h).2 (by simp)

variable (s tableName) in
/-- What a save has stored when it stops is what a save stores that does not stop. By
induction on the seats; from the seat that raises on, all are rolled back. -/
theorem stored_of_caught (outcome : ℤ × ℤ → TransactionOutcome) (seats : List (ℤ × ℤ))
    (hnodup : seats.Nodup) (db : Database) :
    ∃ caught : ℤ × ℤ → TransactionOutcome, (∀ k, (caught k).Caught) ∧
      (AirlineReservation.insertBookingLoop s tableName caught seats db).1 =
        (AirlineReservation.insertBookingLoop s tableName outcome seats db).1 := by
  have hrefused : (AirlineReservation.insertBookingLoop s tableName (fun _ => .rolledBack)
      seats db).1 = db := insertBookingLoop_rolledBack s tableName seats db
  induction seats generalizing db with
  | nil => exact ⟨fun _ => .rolledBack, fun _ => Or.inr rfl, rfl⟩
  | cons k rest ih =>
    obtain ⟨hfresh, hrest⟩ := List.nodup_cons.mp hnodup
    cases hseat : AirlineReservation.insertBookingSeat s tableName (outcome k) k db with
    | mk db' result =>
      cases result with
      | error e =>
        cases insertBookingSeat_error hseat
        refine ⟨fun _ => .rolledBack, fun _ => Or.inr rfl, hrefused.trans ?_⟩
        rw [AirlineReservation.insertBookingLoop, hseat]
      | ok _ =>
        obtain ⟨first, hfirst, hsame⟩ : ∃ first : TransactionOutcome, first.Caught ∧
            AirlineReservation.insertBookingSeat s tableName first k db = (db', .ok ()) := by
          rcases insertBookingSeat_caught s tableName (outcome k) k db with
            ⟨first, hfirst, hsame⟩ | ⟨e, he⟩
          · exact ⟨first, hfirst, hsame.trans hseat⟩
          · exact absurd (Prod.mk.inj (hseat.symm.trans he)).2 (by simp)
        obtain ⟨later, hlater, hstored⟩ := ih hrest db'
          (insertBookingLoop_rolledBack s tableName rest db')
        have hkeep : ∀ k' ∈ rest, Function.update later k first k' = later k' := by
          intro k' hk'
          have hne : k' ≠ k := fun heq => hfresh (heq ▸ hk')
          rw [Function.update_of_ne hne]
        refine ⟨Function.update later k first, ?_, ?_⟩
        · intro k'
          by_cases hk' : k' = k
          · rw [hk', Function.update_self]
            exact hfirst
          · rw [Function.update_of_ne hk']
            exact hlater k'
        · rw [AirlineReservation.insertBookingLoop, AirlineReservation.insertBookingLoop,
            Function.update_self, hsame, hseat]
          simp only
          rw [insertBookingLoop_congr s tableName hkeep, hstored]

end Stopped

/-- However the calls of a save end, the table has exactly some of the named seats
written, each with its whole row, and nothing else is changed. -/
theorem save_survives (s : SeatMap) (h : s.Shaped) (db : Database) (tableName : String)
    (t : List BookingInformation) (ht : db.bookingTable tableName = some t)
    (hunique : UniqueSeats t) (script : List (Option Failure)) :
    ∃ saved : ℤ × ℤ → TransactionOutcome, (∀ k, (saved k).Caught) ∧ ∃ t',
      SavedTable.SavedExactly s saved t t' ∧
        Ends (insertBookingData s tableName) ⟨⟨db, none⟩, script⟩
          (fun _ e => e.store = ⟨db.setBookingTable tableName t', none⟩)
          (fun _ e => e.store.stored = db.setBookingTable tableName t') := by
  have hends := refines_insertBookingData (x := db) s tableName ⟨⟨db, none⟩, script⟩ rfl
  have hstored : ∀ outcome, ∃ saved : ℤ × ℤ → TransactionOutcome, (∀ k, (saved k).Caught) ∧
      ∃ t', SavedTable.SavedExactly s saved t t' ∧
        (AirlineReservation.insertBookingData s db tableName outcome).1 =
          db.setBookingTable tableName t' := by
    intro outcome
    obtain ⟨saved, hcaught, hsame⟩ := stored_of_caught s tableName outcome s.seats
      (nodup_seats s) db
    have hrun := insertBookingData_eq h saved hcaught ht
    exact ⟨saved, hcaught, saveTable s saved t, SavedTable.saveTable_exact saved h hunique,
      hsame.symm.trans (congrArg Prod.fst hrun)⟩
  unfold Ends at hends
  cases hrun : insertBookingData s tableName ⟨⟨db, none⟩, script⟩ with
  | ok a e =>
    rw [hrun] at hends
    obtain ⟨hclosed, outcome, houtcome⟩ := hends
    obtain ⟨saved, hcaught, t', hexact, hdb⟩ := hstored outcome
    refine ⟨saved, hcaught, t', hexact, ?_⟩
    have hsame : e.store.stored = db.setBookingTable tableName t' :=
      (congrArg Prod.fst houtcome).symm.trans hdb
    rw [Ends, hrun]
    simp only [← hclosed, ← hsame]
  | error stop e =>
    rw [hrun] at hends
    obtain ⟨outcome, houtcome, _⟩ := hends
    obtain ⟨saved, hcaught, t', hexact, hdb⟩ := hstored outcome
    refine ⟨saved, hcaught, t', hexact, ?_⟩
    rw [Ends, hrun]
    exact houtcome.symm.trans hdb

/-- The process is killed in the second of two seats. -/
theorem killed_save_survives :
    ∃ saved : ℤ × ℤ → TransactionOutcome, (∀ k, (saved k).Caught) ∧ ∃ t',
      SavedTable.SavedExactly SavedTable.twoTaken saved [⟨"Eve", "", "", 0, 0⟩] t' ∧
        Ends (insertBookingData SavedTable.twoTaken "BookingAA123")
          ⟨⟨SavedTable.olderDatabase, none⟩, List.replicate 14 none ++ [some .kill]⟩
          (fun _ e => e.store =
            ⟨SavedTable.olderDatabase.setBookingTable "BookingAA123" t', none⟩)
          (fun _ e => e.store.stored =
            SavedTable.olderDatabase.setBookingTable "BookingAA123" t') :=
  save_survives SavedTable.twoTaken SavedTable.shaped_twoTaken SavedTable.olderDatabase
    "BookingAA123" [⟨"Eve", "", "", 0, 0⟩] rfl (by decide) _

section Insert

variable {x y : Database}

theorem insertFlight_eq (row : FlightRow) (hbooking : row.bookingTable = "booking" ++ row.flightId)
    (outcome : TransactionOutcome) :
    AirlineReservation.insertFlight x row.flightId row.origin row.destination row.departureTime
        row.arrivalTime row.rows row.cols outcome =
      transaction outcome (fun db => replaceFlight db row) x := by
  rw [AirlineReservation.insertFlight, ← hbooking]
  congr 1
  funext db
  unfold replaceFlight
  cases db.flights <;> rfl

/-- The body of an insertion: one statement with eight values. -/
theorem ends_insertFlight (flightId origin destination departureTime arrivalTime
    bookingTable : String) (rows cols : ℤ) {F : Fault → Prop} {engine : Engine Database}
    (h : engine.store = ⟨x, some y⟩) :
    Ends (do
      let query ← Statement.prepare .insertFlight
      let query ← query.bind 1 (.text flightId)
      let query ← query.bind 2 (.text origin)
      let query ← query.bind 3 (.text destination)
      let query ← query.bind 4 (.text departureTime)
      let query ← query.bind 5 (.text arrivalTime)
      let query ← query.bind 6 (.text bookingTable)
      let query ← query.bind 7 (.integer rows)
      let query ← query.bind 8 (.integer cols)
      let _ ← query.exec) engine
      (fun _ e => ∃ y', replaceFlight y ⟨flightId, origin, destination, departureTime,
        arrivalTime, bookingTable, rows, cols⟩ = .ok y' ∧ e.store = ⟨x, some y'⟩)
      (Keeps x F) := by
  have hquiet : ∀ stop e, Quiet ⟨x, some y⟩ stop e → Keeps x F stop e :=
    fun _ _ hquiet => hquiet.keeps
  refine ((ends_prepare _ h).mono (fun _ _ hpre => hpre) hquiet).bind ?_
  intro query engine₁ hpre
  obtain ⟨h₁, rfl, _⟩ := hpre
  refine ends_bind_then h₁ hquiet ?_
  intro engine₂ h₂
  refine ends_bind_then h₂ hquiet ?_
  intro engine₃ h₃
  refine ends_bind_then h₃ hquiet ?_
  intro engine₄ h₄
  refine ends_bind_then h₄ hquiet ?_
  intro engine₅ h₅
  refine ends_bind_then h₅ hquiet ?_
  intro engine₆ h₆
  refine ends_bind_then h₆ hquiet ?_
  intro engine₇ h₇
  refine ends_bind_then h₇ hquiet ?_
  intro engine₈ h₈
  refine ends_bind_then h₈ hquiet ?_
  intro engine₉ h₉
  have hrun : Query.run y .insertFlight [some (.text flightId), some (.text origin),
      some (.text destination), some (.text departureTime), some (.text arrivalTime),
      some (.text bookingTable), some (.integer rows), some (.integer cols)] =
        (replaceFlight y ⟨flightId, origin, destination, departureTime, arrivalTime, bookingTable,
          rows, cols⟩).bind fun db => .ok ([], db) := rfl
  refine ((ends_exec ⟨rfl, rfl⟩ h₉ ?_).mono (fun _ _ hfound => hfound)
    fun _ _ hfailed => hfailed.keeps).bind ?_
  · intro first rest db hrows
    obtain ⟨y', _, hreturn⟩ := exists_of_bind_ok (hrun.symm.trans hrows)
    exact absurd (Prod.mk.inj (Except.ok.inj hreturn)).1 (by simp)
  · intro _ engine₁₀ hfound
    obtain ⟨db, hwritten, hstore⟩ := hfound
    obtain ⟨y', hreplaced, hreturn⟩ := exists_of_bind_ok (hrun.symm.trans hwritten)
    obtain ⟨_, rfl⟩ := Prod.mk.inj (Except.ok.inj hreturn)
    exact Ends.pure ⟨y', hreplaced, hstore⟩

theorem refines_insertFlight (flightId origin destination departureTime arrivalTime : String)
    (rows cols : ℤ) :
    Refines (insertFlight flightId origin destination departureTime arrivalTime rows cols) x
      fun outcome => AirlineReservation.insertFlight x flightId origin destination departureTime
        arrivalTime rows cols outcome := by
  have htransact : Refines
      (insertFlight flightId origin destination departureTime arrivalTime rows cols) x
      fun outcome => transaction outcome (fun db => replaceFlight db ⟨flightId, origin,
        destination, departureTime, arrivalTime, "booking" ++ flightId, rows, cols⟩) x :=
    refines_transact fun _ h => ends_insertFlight flightId origin destination departureTime
      arrivalTime ("booking" ++ flightId) rows cols h
  refine htransact.rename id ?_
  intro outcome
  exact insertFlight_eq ⟨flightId, origin, destination, departureTime, arrivalTime,
    "booking" ++ flightId, rows, cols⟩ rfl outcome

/-- A value beyond the placeholders is refused. -/
theorem ends_bind_outside {α : Type} {stmt : Statement} {aIndex : ℕ} {aValue : Value}
    {f : Statement → Sqlite α} {S : Store Database} {Q : α → Engine Database → Prop}
    {E : Stop Fault → Engine Database → Prop} {engine : Engine Database}
    (hout : stmt.query.parameters < aIndex) (h : engine.store = S)
    (hE : ∀ stop e, Quiet S stop e → E stop e) :
    Ends (stmt.bind aIndex aValue >>= f) engine Q E := by
  have hrefused : Ends (stmt.bind aIndex aValue) engine (fun _ _ => False) (Quiet S) := by
    refine Ends.bind (P := fun _ e => e.store = S)
      (ends_call (fun _ => h) (fun _ => ⟨h, by simp⟩) (fun _ => ⟨h, by simp⟩)) ?_
    intro _ engine₁ h₁
    rw [if_neg (by omega)]
    exact Ends.throw ⟨h₁, by simp⟩
  exact (hrefused.mono (fun _ _ hfalse => hfalse) hE).bind fun _ _ hfalse => hfalse.elim

/-- The seventh value ends the body of the overload. -/
theorem ends_insertFlightInformation (flightInfo : FlightInformation) {F : Fault → Prop}
    {engine : Engine Database} (h : engine.store = ⟨x, some y⟩) :
    Ends (do
      let query ← Statement.prepare .insertFlightInformation
      let query ← query.bind 1 (.text flightInfo.flightID)
      let query ← query.bind 2 (.text flightInfo.origin)
      let query ← query.bind 3 (.text flightInfo.destination)
      let query ← query.bind 4 (.integer flightInfo.departureTime)
      let query ← query.bind 5 (.integer flightInfo.arrivalTime)
      let query ← query.bind 6 (.text ("booking" ++ flightInfo.flightID))
      let query ← query.bind 7 (.integer flightInfo.rows)
      let query ← query.bind 8 (.integer flightInfo.cols)
      let _ ← query.exec) engine (fun _ _ => False) (Keeps x F) := by
  have hquiet : ∀ stop e, Quiet ⟨x, some y⟩ stop e → Keeps x F stop e :=
    fun _ _ hquiet => hquiet.keeps
  refine ((ends_prepare _ h).mono (fun _ _ hpre => hpre) hquiet).bind ?_
  intro query engine₁ hpre
  obtain ⟨h₁, rfl, _⟩ := hpre
  refine ends_bind_then h₁ hquiet ?_
  intro engine₂ h₂
  refine ends_bind_then h₂ hquiet ?_
  intro engine₃ h₃
  refine ends_bind_then h₃ hquiet ?_
  intro engine₄ h₄
  refine ends_bind_then h₄ hquiet ?_
  intro engine₅ h₅
  refine ends_bind_then h₅ hquiet ?_
  intro engine₆ h₆
  refine ends_bind_then h₆ hquiet ?_
  intro engine₇ h₇
  have hout : (Statement.start .insertFlightInformation).query.parameters < 7 := by decide
  exact ends_bind_outside hout h₇ hquiet

theorem refines_insertFlightInformation (flightInfo : FlightInformation) :
    Refines (insertFlightInformation flightInfo) x fun outcome =>
      AirlineReservation.insertFlightInformation x flightInfo outcome := by
  refine refines_transact fun engine h => ?_
  exact (ends_insertFlightInformation flightInfo h).mono (fun _ _ hfalse => hfalse.elim)
    fun _ _ hkeeps => hkeeps

end Insert

/-- However their calls end, the two insertions of a flight do what their transactions do
for some outcome, and the overload has stored nothing. -/
theorem insertions_survive (db : Database)
    (flightId origin destination departureTime arrivalTime : String) (rows cols : ℤ)
    (flightInfo : FlightInformation) :
    Refines (insertFlight flightId origin destination departureTime arrivalTime rows cols) db
      (fun outcome => AirlineReservation.insertFlight db flightId origin destination
        departureTime arrivalTime rows cols outcome) ∧
    Refines (insertFlightInformation flightInfo) db
      (fun outcome => AirlineReservation.insertFlightInformation db flightInfo outcome) ∧
    ∀ script, Ends (insertFlightInformation flightInfo) ⟨⟨db, none⟩, script⟩
      (fun _ e => e.store = ⟨db, none⟩) (fun _ e => e.store.stored = db) := by
  refine ⟨refines_insertFlight flightId origin destination departureTime arrivalTime rows cols,
    refines_insertFlightInformation flightInfo, ?_⟩
  intro script
  have hsame := FlightsTable.insertFlightInformation_unchanged db flightInfo
  refine (refines_insertFlightInformation flightInfo ⟨⟨db, none⟩, script⟩ rfl).mono ?_ ?_
  · intro _ e hreturn
    obtain ⟨hclosed, outcome, houtcome⟩ := hreturn
    have hstored : e.store.stored = db :=
      (congrArg Prod.fst houtcome).symm.trans (hsame outcome)
    rw [← hclosed, ← hstored]
  · intro stop e hstop
    obtain ⟨outcome, hstored, _⟩ := hstop
    exact hstored.symm.trans (hsame outcome)

end AirlineReservation.Statements
