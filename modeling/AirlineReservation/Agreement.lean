import AirlineReservation.SessionRuns

/-!
Agreement between the active seat map and its booking table. The map decides
"taken" by a flag, the save loop by a passenger name that is not empty, and the
database errors of a save are swallowed; agreement survives an action exactly
when the row of the seat it names really is written. Every other seat keeps its
agreement whatever happens to the other transactions of the save.
-/

namespace AirlineReservation.Agreement

open BookingInformation

/-- A row exists exactly for a taken seat; then it is the only one and holds the
same texts. -/
def AgreesAt (x : Cell) (rows : List BookingInformation) (r c : ℤ) : Prop :=
  (rows ≠ [] ↔ x.available = false) ∧ (x.available = false → rows = [x.row r c])

def Agrees (s : SeatMap) (t : List BookingInformation) : Prop :=
  ∀ r c, s.InRange r c → ∃ x, s.cell? r c = some x ∧ AgreesAt x (seatRows t r c) r c

/-- The active seat map, if there is one, agrees with its booking table. -/
def AppAgrees (app : App) : Prop :=
  ∀ session flight, app.session = .ok session → session.activeFlight = some flight →
    ∃ t, app.db.bookingTable ("Booking" ++ flight.flightID) = some t ∧ Agrees flight.seatMap t

theorem agreesAt_free (r c : ℤ) : AgreesAt Cell.free [] r c := by
  simp [AgreesAt, Cell.free]

theorem agreesAt_taken (name email maxLoad : String) (rows : List BookingInformation)
    (r c : ℤ) : AgreesAt (Cell.taken name email maxLoad) rows r c ↔
      rows = [⟨name, email, maxLoad, r, c⟩] := by
  constructor
  · intro h
    exact h.2 rfl
  · intro heq
    subst heq
    simp [AgreesAt, Cell.taken, Cell.row]

theorem Agrees.at {s : SeatMap} {t : List BookingInformation} (h : Agrees s t)
    (hs : s.Shaped) {r c : ℤ} {x : Cell} (hx : s.cell? r c = some x) :
    AgreesAt x (seatRows t r c) r c := by
  obtain ⟨y, hy, hagree⟩ := h r c (hs.inRange_of_cell? hx)
  cases Option.some.inj (hx.symm.trans hy)
  exact hagree

/-- Saving does not change the rows of a seat on which map and rows agree. -/
theorem seatRows_saveTable_of_agrees {s : SeatMap} {t : List BookingInformation} {r c : ℤ}
    {x : Cell} (hs : s.Valid) (hx : s.cell? r c = some x)
    (hagree : AgreesAt x (seatRows t r c) r c) (outcome : ℤ × ℤ → TransactionOutcome) :
    seatRows (saveTable s outcome t) r c = seatRows t r c := by
  by_cases hsaved : x.name ≠ "" ∧ outcome (r, c) = .committed
  · obtain ⟨hname, hcommit⟩ := hsaved
    have htaken : x.available = false := by
      by_contra hfree
      have hclear := hs.cleared r c x hx (by simpa using hfree)
      rw [hclear] at hname
      exact hname rfl
    have hrows := hagree.2 htaken
    rw [seatRows_saveTable outcome hs.shaped hx hname hcommit, hrows]
    rfl
  · apply seatRows_saveTable_of_not
    intro y hy
    cases Option.some.inj (hx.symm.trans hy)
    by_cases hname : x.name = ""
    · exact Or.inl hname
    · exact Or.inr fun hcommit => hsaved ⟨hname, hcommit⟩

section Effects

variable {s : SeatMap} {t : List BookingInformation} {r c : ℤ} {x : Cell}
  (outcome : ℤ × ℤ → TransactionOutcome)

/-- Saving a map that agrees with the rows keeps the agreement. -/
theorem Agrees.save (h : Agrees s t) (hs : s.Valid) : Agrees s (saveTable s outcome t) := by
  intro r c hin
  obtain ⟨x, hx, hagree⟩ := h r c hin
  refine ⟨x, hx, ?_⟩
  rw [seatRows_saveTable_of_agrees hs hx hagree outcome]
  exact hagree

/-- After a seat was overwritten, agreement rests on that seat alone. -/
theorem agrees_put_iff (h : Agrees s t) (hs : s.Shaped) (hx : s.cell? r c = some x)
    (y : Cell) (t' : List BookingInformation)
    (hother : ∀ r' c' z, (r', c') ≠ (r, c) → s.cell? r' c' = some z →
      AgreesAt z (seatRows t r' c') r' c' → AgreesAt z (seatRows t' r' c') r' c') :
    Agrees (s.putCell r c y) t' ↔ AgreesAt y (seatRows t' r c) r c := by
  have hself := SeatMap.cell?_putCell_self s hx y
  constructor
  · intro h'
    exact h'.at (hs.putCell r c y) hself
  · intro hagree r' c' hin
    by_cases hseat : (r', c') = (r, c)
    · obtain ⟨rfl, rfl⟩ := Prod.mk.inj hseat
      exact ⟨y, hself, hagree⟩
    · obtain ⟨z, hz⟩ := hs.exists_cell r' c' hin
      refine ⟨z, by rw [SeatMap.cell?_putCell_ne s y hseat, hz], ?_⟩
      exact hother r' c' z hseat hz (h.at hs hz)

/-- A booking or an update leaves agreement exactly when its own row is right. -/
theorem agrees_put_taken_iff (h : Agrees s t) (hs : s.Valid) (hx : s.cell? r c = some x)
    (name email maxLoad : String) :
    Agrees (s.putCell r c (Cell.taken name email maxLoad))
        (saveTable (s.putCell r c (Cell.taken name email maxLoad)) outcome t) ↔
      seatRows (saveTable (s.putCell r c (Cell.taken name email maxLoad)) outcome t) r c =
        [⟨name, email, maxLoad, r, c⟩] := by
  rw [agrees_put_iff h hs.shaped hx, agreesAt_taken]
  intro r' c' z hseat hz hagree
  have hz' : (s.putCell r c (Cell.taken name email maxLoad)).cell? r' c' = some z := by
    rw [SeatMap.cell?_putCell_ne s _ hseat, hz]
  rw [seatRows_saveTable_of_agrees (hs.putTaken r c name email maxLoad) hz' hagree outcome]
  exact hagree

/-- The rows of the overwritten seat after the save. -/
theorem seatRows_put_taken (hs : s.Shaped) (hx : s.cell? r c = some x)
    (name email maxLoad : String) :
    seatRows (saveTable (s.putCell r c (Cell.taken name email maxLoad)) outcome t) r c =
      if name ≠ "" ∧ outcome (r, c) = .committed then
        List.replicate (max 1 (seatRows t r c).length) ⟨name, email, maxLoad, r, c⟩
      else seatRows t r c := by
  have hself := SeatMap.cell?_putCell_self s hx (Cell.taken name email maxLoad)
  split
  · next hsaved =>
    exact seatRows_saveTable outcome (hs.putCell r c _) hself hsaved.1 hsaved.2
  · next hnot =>
    apply seatRows_saveTable_of_not
    intro y hy
    cases Option.some.inj (hself.symm.trans hy)
    by_cases hname : name = ""
    · exact Or.inl hname
    · exact Or.inr fun hcommit => hnot ⟨hname, hcommit⟩

theorem agrees_booked_iff (h : Agrees s t) (hs : s.Valid) (hx : s.cell? r c = some x)
    (hfree : x.available = true) (name email maxLoad : String) :
    Agrees (s.putCell r c (Cell.taken name email maxLoad))
        (saveTable (s.putCell r c (Cell.taken name email maxLoad)) outcome t) ↔
      name ≠ "" ∧ outcome (r, c) = .committed := by
  have hrows : seatRows t r c = [] := by
    by_contra hne
    have htaken := (h.at hs.shaped hx).1.mp hne
    rw [hfree] at htaken
    contradiction
  rw [agrees_put_taken_iff outcome h hs hx, seatRows_put_taken outcome hs.shaped hx, hrows]
  split
  · next hsaved => simpa using hsaved
  · next hnot => simpa using hnot

theorem agrees_updated_iff (h : Agrees s t) (hs : s.Valid) (hx : s.cell? r c = some x)
    (htaken : x.available = false) (name email maxLoad : String) :
    Agrees (s.putCell r c (Cell.taken name email maxLoad))
        (saveTable (s.putCell r c (Cell.taken name email maxLoad)) outcome t) ↔
      (name ≠ "" ∧ outcome (r, c) = .committed) ∨ x = Cell.taken name email maxLoad := by
  have hrows := (h.at hs.shaped hx).2 htaken
  rw [agrees_put_taken_iff outcome h hs hx, seatRows_put_taken outcome hs.shaped hx, hrows]
  split
  · next hsaved => simpa using Or.inl hsaved
  · next hnot =>
    constructor
    · intro heq
      right
      simp only [Cell.row, List.cons.injEq, BookingInformation.mk.injEq, and_true] at heq
      exact Cell.ext htaken heq.1 heq.2.1 heq.2.2
    · intro hkept
      rcases hkept with hsaved | rfl
      · exact absurd hsaved hnot
      · rfl

theorem agrees_deleted_iff (h : Agrees s t) (hs : s.Valid) (hx : s.cell? r c = some x)
    (htaken : x.available = false) (raises : Bool) :
    Agrees (s.putCell r c Cell.free)
        (if raises then t else RowTable.deleteAt seat (r, c) t) ↔ raises = false := by
  rw [agrees_put_iff h hs.shaped hx]
  · cases raises with
    | true =>
      have hrows := (h.at hs.shaped hx).2 htaken
      simp [hrows, AgreesAt, Cell.free]
    | false =>
      have hnil : seatRows (RowTable.deleteAt seat (r, c) t) r c = [] :=
        RowTable.rowsAt_deleteAt_self seat (r, c) t
      simpa [hnil] using agreesAt_free r c
  · intro r' c' z hseat _ hagree
    split
    · exact hagree
    · have hkeep : seatRows (RowTable.deleteAt seat (r, c) t) r' c' = seatRows t r' c' :=
        RowTable.rowsAt_deleteAt_ne seat (r, c) (r', c') t hseat
      rw [hkeep]
      exact hagree

theorem Agrees.deleteOutside (h : Agrees s t) (hout : ¬ s.InRange r c) (raises : Bool) :
    Agrees s (if raises then t else RowTable.deleteAt seat (r, c) t) := by
  intro r' c' hin
  obtain ⟨x, hx, hagree⟩ := h r' c' hin
  refine ⟨x, hx, ?_⟩
  split
  · exact hagree
  · have hseat : (r', c') ≠ (r, c) := by
      intro heq
      obtain ⟨rfl, rfl⟩ := Prod.mk.inj heq
      exact hout hin
    have hkeep : seatRows (RowTable.deleteAt seat (r, c) t) r' c' = seatRows t r' c' :=
      RowTable.rowsAt_deleteAt_ne seat (r, c) (r', c') t hseat
    rw [hkeep]
    exact hagree

end Effects

/-- The row of the seat that the action names ends as the map has it: it is
written, or there is nothing to write. -/
def RowKept (outcomes : SqlOutcomes) (s : SeatMap) (r c : ℤ) : Action → Prop
  | .book name _ _ => ∀ x, s.cell? r c = some x → x.available = true →
      name ≠ "" ∧ outcomes.seat (r, c) = .committed
  | .update name email maxLoad => ∀ x, s.cell? r c = some x → x.available = false →
      (name ≠ "" ∧ outcomes.seat (r, c) = .committed) ∨ x = Cell.taken name email maxLoad
  | .delete => ∀ x, s.cell? r c = some x → x.available = false →
      outcomes.deleteRaises = false
  | .selectFlight _ => True
  | .clickSeat _ _ => True

/-- One Book, Update or Delete keeps agreement exactly when its row is kept. -/
theorem effect_agrees_iff (outcomes : SqlOutcomes) {s s' : SeatMap}
    {t : List BookingInformation} {r c : ℤ} {action : Action} {request : Request}
    (heffect : Effect s r c action s' request) (hs : s.Valid) (h : Agrees s t) :
    Agrees s' (request.rows outcomes s' (r, c) t) ↔ RowKept outcomes s r c action := by
  have hcell : ∀ {x y : Cell}, s.cell? r c = some x → s.cell? r c = some y → y = x := by
    intro x y hx hy
    exact Option.some.inj (hy.symm.trans hx)
  cases heffect with
  | booked name email maxLoad x hx hfree =>
    have hiff := agrees_booked_iff outcomes.seat h hs hx hfree name email maxLoad
    constructor
    · intro hafter y _ _
      exact hiff.mp hafter
    · intro hkept
      exact hiff.mpr (hkept x hx hfree)
  | refused name email maxLoad hnot =>
    refine ⟨fun _ y hy hfree => ?_, fun _ => h⟩
    rw [hnot y hy] at hfree
    contradiction
  | updated name email maxLoad x hx htaken =>
    have hiff := agrees_updated_iff outcomes.seat h hs hx htaken name email maxLoad
    constructor
    · intro hafter y hy _
      rw [hcell hx hy]
      exact hiff.mp hafter
    · intro hkept
      exact hiff.mpr (hkept x hx htaken)
  | updatedOutside name email maxLoad hout =>
    refine ⟨fun _ y hy _ => ?_, fun _ => h.save outcomes.seat hs⟩
    exact absurd (hs.shaped.inRange_of_cell? hy) hout
  | updateHidden name email maxLoad x hx hfree =>
    refine ⟨fun _ y hy htaken => ?_, fun _ => h⟩
    rw [hcell hx hy, hfree] at htaken
    contradiction
  | deleted x hx htaken =>
    have hiff := agrees_deleted_iff h hs hx htaken outcomes.deleteRaises
    constructor
    · intro hafter y _ _
      exact hiff.mp hafter
    · intro hkept
      exact hiff.mpr (hkept x hx htaken)
  | deletedOutside hout =>
    refine ⟨fun _ y hy _ => ?_, fun _ => h.deleteOutside hout outcomes.deleteRaises⟩
    exact absurd (hs.shaped.inRange_of_cell? hy) hout
  | deleteHidden x hx hfree =>
    refine ⟨fun _ y hy htaken => ?_, fun _ => h⟩
    rw [hcell hx hy, hfree] at htaken
    contradiction

/-- A loaded map agrees with a table of at most one row for each seat. -/
theorem agrees_of_loaded {s : SeatMap} {t : List BookingInformation} (hs : s.Shaped)
    (ht : UniqueSeats t) (hcells : ∀ r c x, s.cell? r c = some x →
      x = SeatMap.loadedCell (seatRows t r c) Cell.free) : Agrees s t := by
  intro r c hin
  obtain ⟨x, hx⟩ := hs.exists_cell r c hin
  refine ⟨x, hx, ?_⟩
  rw [hcells r c x hx]
  have hlen : (seatRows t r c).length ≤ 1 := ht (r, c)
  cases hrows : seatRows t r c with
  | nil => exact agreesAt_free r c
  | cons b rest =>
    have hrest : rest = [] := by
      rw [hrows] at hlen
      exact List.length_eq_zero_iff.mp (by simpa using hlen)
    have hseat : b.seat = (r, c) := by
      have hmem : b ∈ seatRows t r c := hrows ▸ List.mem_cons_self
      exact ((RowTable.mem_rowsAt seat (r, c) t b).mp hmem).2
    obtain ⟨rfl, rfl⟩ := Prod.mk.inj hseat
    rw [hrest]
    exact (agreesAt_taken b.name b.email b.maxLoad _ b.row b.col).mpr rfl

end AirlineReservation.Agreement
