import AirlineReservation.StatementOutcomes

/-!
Retrieval one step at a time. A statement gives its rows in order until they are
used up or a step raises; the columns are found by their names in the current
row. So the loops read an initial part of the table, as the retrieval of rows does
for the outcome that raises at the same step.
-/

namespace AirlineReservation.Statements

open Transactions Program

variable {engine : Engine Database} {S : Store Database} {x : Database}

/-- The rows that a statement is going to give, of a query that only reads. -/
structure Offers (stmt : Statement) (S : Store Database) (rows : List (List Value)) : Prop where
  mbDone : stmt.mbDone = false
  rows : stmt.pending = some rows ∨
    stmt.pending = none ∧ stmt.query.run S.contents stmt.bound = .ok (rows, S.contents)

/-- A statement that stands on a row of its query, with the rows after it to come. -/
structure StandsOn (stmt stmt' : Statement) (S : Store Database) (row : List Value)
    (rest : List (List Value)) : Prop where
  query : stmt'.query = stmt.query
  mbHasRow : stmt'.mbHasRow = true
  row : stmt'.row = row
  offers : Offers stmt' S rest

theorem ends_executeStep_rows {stmt : Statement} {rows : List (List Value)}
    (hrows : Offers stmt S rows) (h : engine.store = S) :
    Ends stmt.executeStep engine
      (fun result e => e.store = S ∧ result.1 = !rows.isEmpty ∧
        ∀ row rest, rows = row :: rest → StandsOn stmt result.2 S row rest)
      (Failed S) := by
  refine (ends_executeStep hrows.mbDone h).mono ?_ fun _ _ hfailed => hfailed
  intro result e hstep
  obtain ⟨found, hgives, hsome, hstands⟩ := hstep
  have hfound : found = rows ∧ e.store = S := by
    rcases hgives with ⟨hpending, hstore⟩ | ⟨hpending, db, hrun, hstore⟩
    · rcases hrows.rows with hrows | ⟨hnone, _⟩
      · exact ⟨Option.some.inj (hpending.symm.trans hrows), hstore⟩
      · rw [hpending] at hnone
        contradiction
    · rcases hrows.rows with hrows | ⟨_, hreads⟩
      · rw [hpending] at hrows
        contradiction
      · obtain ⟨rfl, rfl⟩ := Prod.mk.inj (Except.ok.inj (hrun.symm.trans hreads))
        exact ⟨rfl, by rw [hstore, write_contents]⟩
  obtain ⟨rfl, hstore⟩ := hfound
  refine ⟨hstore, hsome, ?_⟩
  intro row rest heq
  rw [hstands row rest heq]
  exact ⟨rfl, rfl, rfl, hrows.mbDone, Or.inl rfl⟩

theorem StandsOn.getColumnAt {stmt stmt' : Statement} {row : List Value}
    {rest : List (List Value)} (h : StandsOn stmt stmt' S row rest) (aIndex : ℕ) {value : Value}
    (hvalue : row[aIndex]? = some value) : stmt'.getColumnAt aIndex = pure value := by
  rw [Statement.getColumnAt, if_pos h.mbHasRow, h.row]
  simp only [hvalue]

/-- A column that the query has is found by its name in the current row. -/
theorem StandsOn.getColumn {stmt stmt' : Statement} {row : List Value}
    {rest : List (List Value)} (h : StandsOn stmt stmt' S row rest) {apName : String}
    (aIndex : ℕ) {value : Value} (hindex : stmt.getColumnIndex apName = some aIndex)
    (hvalue : row[aIndex]? = some value) : stmt'.getColumn apName = pure value := by
  have hsame : stmt'.getColumnIndex apName = some aIndex := by
    rw [← hindex, Statement.getColumnIndex, Statement.getColumnIndex, h.query]
  rw [Statement.getColumn, if_pos h.mbHasRow, hsame]
  exact h.getColumnAt aIndex hvalue

section Table

variable {ρ α : Type} {table : Table} {values : ρ → List Value} {t : Option (List ρ)}

/-- The table has these rows, or there is no table. -/
def Holds (x : Database) (table : Table) (values : ρ → List Value) (t : Option (List ρ)) : Prop :=
  openTable x table =
    match t with
    | some rows => .ok (rows.map values)
    | none => .error .sqlException

theorem holds_flights (x : Database) : Holds x .flights flightValues x.flights := by
  unfold Holds openTable
  cases x.flights <;> rfl

theorem holds_bookings (x : Database) (tableName : String) :
    Holds x (.bookings tableName) bookingValues (x.bookingTable tableName) := by
  unfold Holds
  simp only [openTable, Database.openTable]
  cases x.bookingTable tableName <;> rfl

theorem Holds.some_of_ok (h : Holds x table values t) {found : List (List Value)}
    (hfound : openTable x table = .ok found) : ∃ rows, t = some rows ∧ found = rows.map values := by
  unfold Holds at h
  rw [hfound] at h
  cases t with
  | none => contradiction
  | some rows => exact ⟨rows, rfl, Except.ok.inj h⟩

/-- The count is that of the atomic version, which raises when the table is missing, when
the statement does not prepare and when its step raises. -/
theorem ends_countEntriesInTable (hholds : Holds x table values t)
    (h : engine.store = ⟨x, none⟩) :
    Ends (countEntriesInTable table) engine
      (fun n e => e.store = ⟨x, none⟩ ∧
        ∃ outcome, (AirlineReservation.countEntriesInTable outcome t).1 = n)
      (fun stop e => e.store = ⟨x, none⟩ ∧ stop = .killed) := by
  refine ends_caught ?_ ?_
  · refine (ends_prepare _ h).bind ?_
    intro query engine₁ hpre
    obtain ⟨h₁, rfl, found, hfound⟩ := hpre
    obtain ⟨rows, rfl, rfl⟩ := hholds.some_of_ok hfound
    have hopen : openTable x table = .ok (rows.map values) := hfound
    have hrun : Query.run x (.count table) [] =
        .ok ([[.integer (rows.map values).length]], x) := by
      simp [Query.run, hopen, bind, Except.bind, pure, Except.pure]
    have hrows : Offers (.start (.count table)) ⟨x, none⟩
        [[.integer (rows.map values).length]] := ⟨rfl, Or.inr ⟨rfl, hrun⟩⟩
    refine ((ends_executeStep_rows hrows h₁).mono (fun _ _ hstep => hstep)
      fun _ _ hfailed => hfailed.quiet).bind ?_
    intro result engine₂ hstep
    obtain ⟨hasRow, query⟩ := result
    obtain ⟨h₂, hsome, hstands⟩ := hstep
    have hon := hstands _ _ rfl
    have htrue : hasRow = true := hsome
    subst htrue
    simp only [if_true]
    rw [hon.getColumnAt 0 rfl]
    refine Ends.pure ⟨h₂, .succeeds, ?_⟩
    simp [AirlineReservation.countEntriesInTable, countRaises, SelectOutcome.succeeds,
      Value.getInt]
  · intro e he
    exact ⟨he, ⟨true, fun _ => false⟩, by
      simp [AirlineReservation.countEntriesInTable, countRaises]⟩

/-- Reading a row gives what the conversion makes of it. -/
def Reads (table : Table) (values : ρ → List Value) (read : Statement → Sqlite α)
    (convert : ρ → α) (row : ρ) : Prop :=
  ∀ (stmt stmt' : Statement) (S : Store Database) (rest : List (List Value)),
    stmt.query = .selectAll table → StandsOn stmt stmt' S (values row) rest →
      read stmt' = pure (convert row)

/-- One round of the loop. -/
theorem fetchFrom_eq (read : Statement → Sqlite α) (query : Statement) (returnVec : List α)
    (engine : Engine Database) :
    fetchFrom read query returnVec engine =
      match query.executeStep engine with
      | .ok (true, query') engine' =>
        match read query' engine' with
        | .ok a engine'' => fetchFrom read query' (returnVec ++ [a]) engine''
        | .error .exception engine'' => .ok returnVec engine''
        | .error stop engine'' => .error stop engine''
      | .ok (false, _) engine' => .ok returnVec engine'
      | .error .exception engine' => .ok returnVec engine'
      | .error stop engine' => .error stop engine' := by
  rw [fetchFrom]
  cases query.executeStep engine with
  | ok result engine' =>
    obtain ⟨more, query'⟩ := result
    cases more <;> rfl
  | error stop engine' => cases stop <;> rfl

/-- A round of the loop whose columns can be read: it goes on, or it ends the loop with the
vector as it is. -/
theorem ends_fetchFrom_round {read : Statement → Sqlite α} {query : Statement}
    {returnVec : List α} {P : Bool × Statement → Engine Database → Prop}
    {Q : List α → Engine Database → Prop} (hstep : Ends query.executeStep engine P (Quiet S))
    (hmore : ∀ query' e, P (true, query') e → ∃ a, read query' = pure a ∧
      Ends (fetchFrom read query' (returnVec ++ [a])) e Q
        (fun stop e => e.store = S ∧ stop = .killed))
    (hdone : ∀ query' e, P (false, query') e → Q returnVec e)
    (hraised : ∀ e, e.store = S → Q returnVec e) :
    Ends (fetchFrom read query returnVec) engine Q
      (fun stop e => e.store = S ∧ stop = .killed) := by
  unfold Ends at hstep ⊢
  rw [fetchFrom_eq]
  cases hrun : query.executeStep engine with
  | error stop engine₁ =>
    rw [hrun] at hstep
    obtain ⟨hstore, hfault⟩ := hstep
    cases stop with
    | exception => exact hraised engine₁ hstore
    | fault f => exact absurd rfl (hfault f)
    | killed => exact ⟨hstore, rfl⟩
  | ok result engine₁ =>
    rw [hrun] at hstep
    obtain ⟨hasRow, query'⟩ := result
    cases hasRow with
    | false => exact hdone query' engine₁ hstep
    | true =>
      obtain ⟨a, hread, hrest⟩ := hmore query' engine₁ hstep
      simp only [hread]
      exact hrest

/-- The loop appends an initial part of the rows. By induction on the rows to come. -/
theorem ends_fetchFrom {read : Statement → Sqlite α} {convert : ρ → α} {rows : List ρ}
    (hread : ∀ row ∈ rows, Reads table values read convert row) {query : Statement}
    (hquery : query.query = .selectAll table)
    (hrows : Offers query ⟨x, none⟩ (rows.map values)) (returnVec : List α)
    (h : engine.store = ⟨x, none⟩) :
    Ends (fetchFrom read query returnVec) engine
      (fun result e => e.store = ⟨x, none⟩ ∧
        ∃ k ≤ rows.length, result = returnVec ++ (rows.take k).map convert)
      (fun stop e => e.store = ⟨x, none⟩ ∧ stop = .killed) := by
  induction rows generalizing query returnVec engine with
  | nil =>
    refine ends_fetchFrom_round ((ends_executeStep_rows hrows h).mono (fun _ _ hstep => hstep)
      fun _ _ hfailed => hfailed.quiet) ?_ ?_ ?_
    · intro query' e hstep
      exact absurd hstep.2.1 (by simp)
    · intro query' e hstep
      exact ⟨hstep.1, 0, Nat.zero_le _, by simp⟩
    · intro e hstore
      exact ⟨hstore, 0, Nat.zero_le _, by simp⟩
  | cons row rest ih =>
    refine ends_fetchFrom_round ((ends_executeStep_rows hrows h).mono (fun _ _ hstep => hstep)
      fun _ _ hfailed => hfailed.quiet) ?_ ?_ ?_
    · intro query' e hstep
      obtain ⟨hstore, _, hstands⟩ := hstep
      have hon := hstands _ _ rfl
      refine ⟨convert row, hread row List.mem_cons_self query query' _ _ hquery hon, ?_⟩
      have hlater := ih (fun row' hrow' => hread row' (List.mem_cons_of_mem row hrow'))
        (hon.query.trans hquery) hon.offers (returnVec ++ [convert row]) hstore
      refine hlater.mono ?_ fun _ _ hstop => hstop
      intro result e' hresult
      obtain ⟨hstore', k, hk, rfl⟩ := hresult
      exact ⟨hstore', k + 1, by simpa using hk, by simp⟩
    · intro query' e hstep
      exact absurd hstep.2.1 (by simp)
    · intro e hstore
      exact ⟨hstore, 0, Nat.zero_le _, by simp⟩

/-- Every initial part is what is read until the step after it raises. -/
theorem fetchRows_take {rows : List ρ} {k : ℕ} (hk : k ≤ rows.length) (n : ℕ) :
    (fetchRows (fun i => decide (i = n + k)) n rows).1 = rows.take k := by
  induction rows generalizing k n with
  | nil => simp [fetchRows]
  | cons row rest ih =>
    cases k with
    | zero => simp [fetchRows]
    | succ k =>
      have hne : ¬ n = n + (k + 1) := by omega
      have hrest := ih (k := k) (by simpa using hk) (n + 1)
      have hindex : n + 1 + k = n + (k + 1) := by omega
      rw [hindex] at hrest
      simp [fetchRows, hrest]

theorem refines_retrieve {read : Statement → Sqlite α} {convert : ρ → α} (message : String)
    (hholds : Holds x table values t)
    (hread : ∀ rows, t = some rows → ∀ row ∈ rows, Reads table values read convert row) :
    Refines (retrieve table read) x fun outcome =>
      (x, (AirlineReservation.retrieve message convert outcome t).result) := by
  intro engine hstore
  unfold retrieve
  have hkilled : ∀ (stop : Stop Fault) (e : Engine Database),
      e.store = ⟨x, none⟩ ∧ stop = .killed → ∃ o : RetrievalOutcome,
        (x, (AirlineReservation.retrieve message convert o t).result).1 = e.store.stored ∧
        (stop ≠ .killed → ∃ f, (x, (AirlineReservation.retrieve message convert o t).result).2 =
          .error f) := by
    intro stop e hstop
    obtain ⟨hstop, rfl⟩ := hstop
    exact ⟨.succeeds, by rw [hstop], fun hne => absurd rfl hne⟩
  refine ((ends_countEntriesInTable hholds hstore).mono (fun _ _ hcount => hcount) hkilled).bind ?_
  intro numEntries engine₁ hcount
  obtain ⟨h₁, count, hnum⟩ := hcount
  have hreported : AirlineReservation.countEntriesInTable count t =
      (numEntries, (AirlineReservation.countEntriesInTable count t).2) := Prod.ext hnum rfl
  cases hreserve : reserve numEntries with
  | error f =>
    exact Ends.throw ⟨⟨count, .succeeds⟩, by rw [h₁], fun _ => ⟨f,
      retrieve_of_reserve_error message convert ⟨count, .succeeds⟩ t hreported hreserve⟩⟩
  | ok _ =>
    have hresult : ∀ select, (AirlineReservation.retrieve message convert ⟨count, select⟩ t).result
        = .ok ((fetch select t).1.map convert) := fun select =>
      retrieve_of_reserve_ok message convert ⟨count, select⟩ t hreported hreserve
    have hprepare : Ends (catching
        (do let query ← Statement.prepare (.selectAll table); return some query) (return none))
        engine₁ (fun query e => e.store = ⟨x, none⟩ ∧ ∀ stmt, query = some stmt →
          stmt = .start (.selectAll table) ∧ ∃ rows, t = some rows)
        (fun stop e => e.store = ⟨x, none⟩ ∧ stop = .killed) := by
      refine ends_caught ?_ fun e he => ⟨he, by simp⟩
      refine (ends_prepare _ h₁).bind ?_
      intro query engine₂ hpre
      obtain ⟨h₂, rfl, found, hfound⟩ := hpre
      obtain ⟨rows, hrows, _⟩ := hholds.some_of_ok hfound
      refine Ends.pure ⟨h₂, ?_⟩
      intro stmt heq
      cases heq
      exact ⟨rfl, rows, hrows⟩
    refine (hprepare.mono (fun _ _ hprepared => hprepared) hkilled).bind ?_
    intro query engine₂ hprepared
    obtain ⟨h₂, hstart⟩ := hprepared
    cases query with
    | none =>
      refine Ends.pure ⟨by rw [h₂], ⟨count, ⟨true, fun _ => false⟩⟩, ?_⟩
      rw [h₂]
      refine Prod.ext rfl ((hresult _).trans ?_)
      cases t <;> rfl
    | some query =>
      obtain ⟨rfl, rows, rfl⟩ := hstart query rfl
      have hopen : openTable x table = .ok (rows.map values) := hholds
      have hoffers : Offers (.start (.selectAll table)) ⟨x, none⟩ (rows.map values) := by
        refine ⟨rfl, Or.inr ⟨rfl, ?_⟩⟩
        change Query.run x (.selectAll table) _ = .ok (rows.map values, x)
        simp [Query.run, hopen, bind, Except.bind, pure, Except.pure]
      refine (ends_fetchFrom (hread rows rfl) rfl hoffers [] h₂).mono ?_ hkilled
      intro result e hfetched
      obtain ⟨hstore', k, hk, rfl⟩ := hfetched
      refine ⟨by rw [hstore'], ⟨count, ⟨false, fun i => decide (i = 0 + k)⟩⟩, ?_⟩
      rw [hstore']
      refine Prod.ext rfl ((hresult _).trans ?_)
      have htake := fetchRows_take hk 0
      simp only [fetch, Bool.false_eq_true, if_false, htake, List.nil_append]

end Table

/-- What a C++ int can hold. -/
def IsInt (i : ℤ) : Prop := -2 ^ 31 ≤ i ∧ i < 2 ^ 31

theorem getInt_of_isInt {i : ℤ} (h : IsInt i) : AirlineReservation.getInt i = i := by
  obtain ⟨hlow, hhigh⟩ := h
  unfold AirlineReservation.getInt
  rw [Int.bmod_def]
  split <;> omega

/-- The whole numbers of a database are those that `bind` has stored. -/
structure Ints (db : Database) : Prop where
  flights : ∀ rows, db.flights = some rows → ∀ row ∈ rows, IsInt row.rows ∧ IsInt row.cols
  bookings : ∀ tableName t, db.bookingTable tableName = some t →
    ∀ b ∈ t, IsInt b.row ∧ IsInt b.col

/-- The column of this number has this name, and a later one has not. -/
theorem getColumnIndex_selectAll {stmt : Statement} {table : Table}
    (hquery : stmt.query = .selectAll table) (apName : String) :
    stmt.getColumnIndex apName = (Statement.start (.selectAll table)).getColumnIndex apName := by
  rw [Statement.getColumnIndex, hquery]
  rfl

theorem reads_readFlight (datetimeToInt : String → ℤ) {row : FlightRow}
    (hrows : IsInt row.rows) (hcols : IsInt row.cols) :
    Reads .flights flightValues (readFlight datetimeToInt)
      (FlightRow.information datetimeToInt) row := by
  intro stmt stmt' S rest hquery hon
  have hindex := getColumnIndex_selectAll hquery
  have hgetRows : (Value.integer row.rows).getInt = row.rows := getInt_of_isInt hrows
  have hgetCols : (Value.integer row.cols).getInt = row.cols := getInt_of_isInt hcols
  unfold readFlight
  rw [hon.getColumn 0 ((hindex "flightId").trans rfl) rfl,
    hon.getColumn 1 ((hindex "origin").trans rfl) rfl,
    hon.getColumn 2 ((hindex "destination").trans rfl) rfl,
    hon.getColumn 5 ((hindex "bookingTable").trans rfl) rfl,
    hon.getColumn 3 ((hindex "departureTime").trans rfl) rfl,
    hon.getColumn 4 ((hindex "arrivalTime").trans rfl) rfl,
    hon.getColumn 6 ((hindex "rows").trans rfl) rfl,
    hon.getColumn 7 ((hindex "cols").trans rfl) rfl]
  change EStateM.pure (FlightInformation.mk _ _ _ _ _ _ (Value.integer row.rows).getInt
    (Value.integer row.cols).getInt) = _
  rw [hgetRows, hgetCols]
  rfl

theorem reads_readBooking {b : BookingInformation} {tableName : String} (hrow : IsInt b.row)
    (hcol : IsInt b.col) : Reads (.bookings tableName) bookingValues readBooking id b := by
  intro stmt stmt' S rest hquery hon
  have hindex := getColumnIndex_selectAll hquery
  have hgetRow : (Value.integer b.row).getInt = b.row := getInt_of_isInt hrow
  have hgetCol : (Value.integer b.col).getInt = b.col := getInt_of_isInt hcol
  unfold readBooking
  rw [hon.getColumn 0 ((hindex "name").trans rfl) rfl,
    hon.getColumn 1 ((hindex "email").trans rfl) rfl,
    hon.getColumn 2 ((hindex "maxLoad").trans rfl) rfl,
    hon.getColumn 3 ((hindex "row").trans rfl) rfl,
    hon.getColumn 4 ((hindex "col").trans rfl) rfl]
  change EStateM.pure (BookingInformation.mk _ _ _ (Value.integer b.row).getInt
    (Value.integer b.col).getInt) = _
  rw [hgetRow, hgetCol]
  rfl

theorem refines_getFlightsInfo (datetimeToInt : String → ℤ) (hints : Ints x) :
    Refines (getFlightsInfo datetimeToInt) x fun outcome =>
      (x, (AirlineReservation.getFlightsInfo datetimeToInt x outcome).result) := by
  refine refines_retrieve _ (holds_flights x) ?_
  intro rows hrows row hrow
  obtain ⟨hrowsInt, hcolsInt⟩ := hints.flights rows hrows row hrow
  exact reads_readFlight datetimeToInt hrowsInt hcolsInt

theorem refines_getBookingsInfo (tableName : String) (hints : Ints x) :
    Refines (getBookingsInfo tableName) x fun outcome =>
      (x, (AirlineReservation.getBookingsInfo x tableName outcome).result) := by
  refine refines_retrieve _ (holds_bookings x tableName) ?_
  intro t ht b hb
  obtain ⟨hrowInt, hcolInt⟩ := hints.bookings tableName t ht b hb
  exact reads_readBooking hrowInt hcolInt

end AirlineReservation.Statements
