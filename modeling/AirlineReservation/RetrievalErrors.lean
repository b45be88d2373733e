import AirlineReservation.Loading

/-!
Errors on the way out of the database. `ReadBefore` says which entries a SELECT
delivers before its first failure, `HandlesErrors` what a caller of the two
retrieval functions may rely on. Both functions have the `try` for the SELECT
itself; the sentinel of a failed count goes to `reserve` before it.
-/

namespace AirlineReservation.RetrievalErrors

variable {ρ α : Type*}

/-- The SELECT fails at some point: the table is missing, preparing it raises, or
one of the steps up to the one that finds no further row. -/
def SelectFails (outcome : SelectOutcome) (table : Option (List ρ)) : Prop :=
  match table with
  | none => True
  | some rows => outcome.prepareRaises = true ∨ ∃ k ≤ rows.length, outcome.stepRaises k = true

/-- `entries` are the rows delivered before the first failure. -/
def ReadBefore (outcome : SelectOutcome) (table : Option (List ρ)) (entries : List ρ) : Prop :=
  match table with
  | none => entries = []
  | some rows =>
    if outcome.prepareRaises then entries = []
    else ∃ n ≤ rows.length, entries = rows.take n ∧
      (∀ k < n, outcome.stepRaises k = false) ∧ (n < rows.length → outcome.stepRaises n = true)

/-- The loop from its k-th step on. -/
theorem fetchRows_spec (stepRaises : ℕ → Bool) (k : ℕ) (rows : List ρ) :
    (∃ n ≤ rows.length, (fetchRows stepRaises k rows).1 = rows.take n ∧
      (∀ j < n, stepRaises (k + j) = false) ∧
      (n < rows.length → stepRaises (k + n) = true)) ∧
    ((fetchRows stepRaises k rows).2 = true ↔
      ∃ j ≤ rows.length, stepRaises (k + j) = true) := by
  induction rows generalizing k with
  | nil => simp [fetchRows]
  | cons row rest ih =>
    by_cases hraise : stepRaises k = true
    · refine ⟨⟨0, Nat.zero_le _, by simp [fetchRows, hraise], by simp, fun _ => hraise⟩, ?_⟩
      simp only [fetchRows, hraise, if_true, true_iff]
      exact ⟨0, Nat.zero_le _, hraise⟩
    · have hpass : stepRaises k = false := by simpa using hraise
      obtain ⟨⟨n, hn, htake, hbefore, hat⟩, hfails⟩ := ih (k + 1)
      have hshift : ∀ j, k + 1 + j = k + (j + 1) := by omega
      constructor
      · refine ⟨n + 1, by simpa using hn, by simp [fetchRows, hpass, htake], ?_, ?_⟩
        · intro j hj
          cases j with
          | zero => exact hpass
          | succ j => exact hshift j ▸ hbefore j (by omega)
        · intro hlt
          exact hshift n ▸ hat (by simpa using hlt)
      · simp only [fetchRows, hpass, Bool.false_eq_true, if_false, hfails]
        constructor
        · intro hfails
          obtain ⟨j, hj, hstep⟩ := hfails
          exact ⟨j + 1, by simpa using hj, hshift j ▸ hstep⟩
        · intro hfails
          obtain ⟨j, hj, hstep⟩ := hfails
          cases j with
          | zero => exact absurd hstep hraise
          | succ j => exact ⟨j, by simpa using hj, hshift j ▸ hstep⟩

theorem fetch_readBefore (outcome : SelectOutcome) (table : Option (List ρ)) :
    ReadBefore outcome table (fetch outcome table).1 := by
  cases table with
  | none => rfl
  | some rows =>
    simp only [ReadBefore, fetch]
    split
    · rfl
    · simpa using (fetchRows_spec outcome.stepRaises 0 rows).1

theorem fetch_failed_iff (outcome : SelectOutcome) (table : Option (List ρ)) :
    (fetch outcome table).2 = true ↔ SelectFails outcome table := by
  cases table with
  | none => simp [fetch, SelectFails]
  | some rows =>
    simp only [SelectFails, fetch]
    split
    · next hprepare => simp [hprepare]
    · next hprepare => simpa [hprepare] using (fetchRows_spec outcome.stepRaises 0 rows).2

/-- No exception escapes: the entries read before a failure are returned, a
failure is reported, and the value of a failed count is not passed to `reserve`. -/
structure HandlesErrors (convert : ρ → α) (outcome : RetrievalOutcome)
    (table : Option (List ρ)) (retrieval : Retrieval α) : Prop where
  returns : ∃ entries, ReadBefore outcome.select table entries ∧
    retrieval.result = .ok (entries.map convert)
  reported : countRaises outcome.count table = true ∨ SelectFails outcome.select table →
    retrieval.reports ≠ []
  notReserved : countRaises outcome.count table = true →
    retrieval.reserved ≠ (countEntriesInTable outcome.count table).1

/-- The count does not raise and the number of rows is one that an int holds. -/
def CountSucceeds (outcome : SelectOutcome) (table : Option (List ρ)) : Prop :=
  countRaises outcome table = false ∧ CountFits (table.getD [])

/-- The sentinel -1 is more than any vector can reserve. -/
theorem reserve_sentinel : reserve (toSizeT (-1)) = .error .lengthError := by decide

theorem reserve_countEntries_iff (outcome : SelectOutcome) (table : Option (List ρ)) :
    reserve (countEntriesInTable outcome table).1 = .ok () ↔ CountSucceeds outcome table := by
  unfold countEntriesInTable CountSucceeds
  cases hcount : countRaises outcome table with
  | true => simp [reserve_sentinel]
  | false => simpa [CountFits] using reserve_count_iff (table.getD []).length

theorem retrieve_handlesErrors_iff (message : String) (convert : ρ → α)
    (outcome : RetrievalOutcome) (table : Option (List ρ)) :
    HandlesErrors convert outcome table (retrieve message convert outcome table) ↔
      CountSucceeds outcome.count table := by
  rw [← reserve_countEntries_iff]
  constructor
  · intro h
    obtain ⟨entries, _, hresult⟩ := h.returns
    rcases reserve_eq_ok_or (countEntriesInTable outcome.count table).1 with hok | herror
    · exact hok
    · simp [retrieve, herror] at hresult
  · intro hreserve
    have hcount := ((reserve_countEntries_iff outcome.count table).mp hreserve).1
    have hreturns : (retrieve message convert outcome table).result =
        .ok ((fetch outcome.select table).1.map convert) := by simp [retrieve, hreserve]
    refine ⟨⟨_, fetch_readBefore outcome.select table, hreturns⟩, ?_, ?_⟩
    · intro hfailure
      rcases hfailure with hraises | hfails
      · rw [hcount] at hraises
        contradiction
      · have hfailed := (fetch_failed_iff outcome.select table).mpr hfails
        simp [retrieve, hreserve, hfailed]
    · intro hraises
      rw [hcount] at hraises
      contradiction

/-- Both retrieval functions, on every database and for every failure. -/
theorem handlesErrors_iff (datetimeToInt : String → ℤ) (db : Database) (tableName : String)
    (outcome : RetrievalOutcome) :
    (HandlesErrors (FlightRow.information datetimeToInt) outcome db.flights
        (getFlightsInfo datetimeToInt db outcome) ↔ CountSucceeds outcome.count db.flights) ∧
    (HandlesErrors id outcome (db.bookingTable tableName)
        (getBookingsInfo db tableName outcome) ↔
      CountSucceeds outcome.count (db.bookingTable tableName)) :=
  ⟨retrieve_handlesErrors_iff _ _ outcome db.flights,
    retrieve_handlesErrors_iff _ _ outcome (db.bookingTable tableName)⟩

/-- Without a flights table the exception of `reserve` escapes from the panel. -/
theorem missing_flights_escape :
    (getFlightsInfo (fun _ => 0) Database.empty .succeeds).result = .error .lengthError ∧
    ¬ HandlesErrors (FlightRow.information fun _ => 0) .succeeds Database.empty.flights
      (getFlightsInfo (fun _ => 0) Database.empty .succeeds) := by
  have hescape : (getFlightsInfo (fun _ => 0) Database.empty .succeeds).result =
      .error .lengthError := by decide
  refine ⟨hescape, ?_⟩
  intro h
  obtain ⟨entries, _, hresult⟩ := h.returns
  rw [hescape] at hresult
  contradiction

end AirlineReservation.RetrievalErrors
