import AirlineReservation.JsonLoading
import AirlineReservation.Library.Run
import AirlineReservation.Loading

/-!
The shape of a seat map over its whole life. All range checks compare with
`m_Rows` and `m_Cols`, so every operation is safe on a map whose grids have just
these dimensions. Two operations replace the dimensions: the load from a flight
resizes the grids, which keeps surviving rows at their old width, and the load
from JSON takes dimensions and grids from the document as they are.
-/

namespace AirlineReservation.SeatMapShape

variable {J : Type}

/-- The public operations on one seat map; a load from a flight is taken from the
point where its rows have been read. -/
inductive Operation (J : Type)
  | bookSeat (row col : ℤ) (passengerName email maxLoad : String)
  | cancelBooking (row col : ℤ)
  | loadFromFlightInformation (flightInfo : FlightInformation)
      (bookingInfos : List BookingInformation)
  | loadFromJSON (file : Option (Except Fault J))

def apply (lib : JsonLibrary J) (s : SeatMap) : Operation J → Except Fault SeatMap
  | .bookSeat row col passengerName email maxLoad =>
    (s.bookSeat row col passengerName email maxLoad).map Prod.snd
  | .cancelBooking row col => s.cancelBooking row col
  | .loadFromFlightInformation flightInfo bookingInfos => s.loadBookings flightInfo bookingInfos
  | .loadFromJSON file =>
    match s.loadFromJSON lib file with
    | (.ok (), s') => .ok s'
    | (.error e, _) => .error e

/-- A run goes on while the operations return. -/
def step (lib : JsonLibrary J) (state : Except Fault SeatMap) (operation : Operation J) :
    Except Fault SeatMap :=
  state.bind fun s => apply lib s operation

/-- Non-negative dimensions with all rows inside; a document that is accepted. -/
def Admissible (lib : JsonLibrary J) : Operation J → Prop
  | .loadFromFlightInformation flightInfo bookingInfos =>
    0 ≤ flightInfo.rows ∧ 0 ≤ flightInfo.cols ∧
      RowsInside bookingInfos flightInfo.rows flightInfo.cols
  | .loadFromJSON file => ∀ s : SeatMap, (s.loadFromJSON lib file).1 = .ok ()
  | _ => True

/-- The map exists, has its shape, and every index that passes the range check is
the index of an element in all four grids. -/
def Intact (state : Except Fault SeatMap) : Prop :=
  ∃ s, state = .ok s ∧ s.Shaped ∧ ∀ row col, s.InRange row col → ∃ x, s.cell? row col = some x

/-- A load finds no surviving row of another width, a document is consistent. -/
def KeepsShape (lib : JsonLibrary J) (state : Except Fault SeatMap) : Operation J → Prop
  | .loadFromFlightInformation flightInfo _ => ∀ s, state = .ok s →
    s.rows = 0 ∨ flightInfo.rows = 0 ∨ s.cols = flightInfo.cols
  | .loadFromJSON (some (.ok data)) => lib.Consistent data
  | _ => True

theorem intact_ok_iff (s : SeatMap) : Intact (.ok s) ↔ s.Shaped := by
  constructor
  · intro hintact
    obtain ⟨_, ⟨⟩, h, _⟩ := hintact
    exact h
  · intro h
    exact ⟨s, rfl, h, fun row col => h.exists_cell row col⟩

theorem assign_ok {α : Type} {grid grid' : List (List α)} {row col : ℤ} {v : α}
    (h : assign grid row col v = .ok grid') : grid' = Grid.put grid row col v := by
  unfold assign Grid.write at h
  split at h
  · next g hg =>
    split at hg
    · cases hg
      exact (Except.ok.inj h).symm
    · contradiction
  · contradiction

/-- Loading one row that hits an element leaves the shape as it was. -/
theorem shaped_loadBooking_iff {s s' : SeatMap} {b : BookingInformation}
    (h : s.loadBooking b = .ok s') : s'.Shaped ↔ s.Shaped := by
  have hput : s' = s.putCell b.row b.col (Cell.ofRow b) := by
    obtain ⟨seatMap, hseat, h⟩ := exists_of_bind_ok h
    obtain ⟨passengerMap, hpassenger, h⟩ := exists_of_bind_ok h
    obtain ⟨emailMap, hemail, h⟩ := exists_of_bind_ok h
    obtain ⟨maxLoadMap, hmaxLoad, h⟩ := exists_of_bind_ok h
    rw [← Except.ok.inj h, assign_ok hseat, assign_ok hpassenger, assign_ok hemail,
      assign_ok hmaxLoad]
    rfl
  subst hput
  constructor
  · intro hshaped
    obtain ⟨h1, h2, h3, h4⟩ := hshaped
    exact ⟨(Grid.shape_put_iff _ _ _ _ _ _).mp h1, (Grid.shape_put_iff _ _ _ _ _ _).mp h2,
      (Grid.shape_put_iff _ _ _ _ _ _).mp h3, (Grid.shape_put_iff _ _ _ _ _ _).mp h4⟩
  · intro hs
    exact hs.putCell b.row b.col (Cell.ofRow b)

theorem shaped_of_foldlM {bookingInfos : List BookingInformation} {s s' : SeatMap}
    (h : bookingInfos.foldlM SeatMap.loadBooking s = .ok s') (hs' : s'.Shaped) : s.Shaped := by
  induction bookingInfos generalizing s with
  | nil =>
    cases h
    exact hs'
  | cons b rest ih =>
    rw [List.foldlM_cons] at h
    obtain ⟨s₁, hb, hrest⟩ := exists_of_bind_ok h
    exact (shaped_loadBooking_iff hb).mp (ih hrest)

/-- The map between the resizing and the load loop. -/
def resized (s : SeatMap) (flightInfo : FlightInformation) : SeatMap :=
  ⟨flightInfo.rows, flightInfo.cols,
    Grid.resize s.seatMap flightInfo.rows (List.replicate flightInfo.cols.toNat true),
    Grid.resize s.passengerMap flightInfo.rows (List.replicate flightInfo.cols.toNat ""),
    Grid.resize s.emailMap flightInfo.rows (List.replicate flightInfo.cols.toNat ""),
    Grid.resize s.maxLoadMap flightInfo.rows (List.replicate flightInfo.cols.toNat "")⟩

theorem shaped_resized_iff {s : SeatMap} (h : s.Shaped) (flightInfo : FlightInformation)
    (hrows : 0 ≤ flightInfo.rows) (hcols : 0 ≤ flightInfo.cols) :
    (resized s flightInfo).Shaped ↔
      s.rows = 0 ∨ flightInfo.rows = 0 ∨ s.cols = flightInfo.cols := by
  constructor
  · intro hs
    exact (h.seat.shape_resize_iff _ _ hrows hcols true).mp hs.seat
  · intro hcase
    exact ⟨(h.seat.shape_resize_iff _ _ hrows hcols true).mpr hcase,
      (h.passenger.shape_resize_iff _ _ hrows hcols "").mpr hcase,
      (h.email.shape_resize_iff _ _ hrows hcols "").mpr hcase,
      (h.maxLoad.shape_resize_iff _ _ hrows hcols "").mpr hcase⟩

/-- A load is the load loop on the resized map. -/
theorem loadBookings_eq (s : SeatMap) (flightInfo : FlightInformation)
    (bookingInfos : List BookingInformation) (hrows : 0 ≤ flightInfo.rows)
    (hcols : 0 ≤ flightInfo.cols) :
    s.loadBookings flightInfo bookingInfos =
      bookingInfos.foldlM SeatMap.loadBooking (resized s flightInfo) := by
  have hdims : ¬ (flightInfo.rows < 0 ∨ flightInfo.cols < 0) := by omega
  simp only [SeatMap.loadBookings, SeatMap.internalInitMaps, if_neg hdims, resized]
  rfl

theorem intact_load_iff {s : SeatMap} (h : s.Shaped) (flightInfo : FlightInformation)
    (bookingInfos : List BookingInformation) (hrows : 0 ≤ flightInfo.rows)
    (hcols : 0 ≤ flightInfo.cols)
    (hin : RowsInside bookingInfos flightInfo.rows flightInfo.cols) :
    Intact (s.loadBookings flightInfo bookingInfos) ↔
      s.rows = 0 ∨ flightInfo.rows = 0 ∨ s.cols = flightInfo.cols := by
  rw [loadBookings_eq s flightInfo bookingInfos hrows hcols,
    ← shaped_resized_iff h flightInfo hrows hcols]
  constructor
  · intro hintact
    obtain ⟨s', hfold, hs', _⟩ := hintact
    exact shaped_of_foldlM hfold hs'
  · intro hresized
    obtain ⟨s', hfold, hs', _⟩ := hresized.foldlM_loadBooking bookingInfos
      (RowsInside.inRange hin)
    rw [hfold]
    exact (intact_ok_iff s').mpr hs'

theorem bookSeat_shaped {s : SeatMap} (h : s.Shaped) (row col : ℤ)
    (passengerName email maxLoad : String) :
    ∃ booked s', s.bookSeat row col passengerName email maxLoad = .ok (booked, s') ∧
      s'.Shaped := by
  by_cases hin : s.InRange row col
  · obtain ⟨x, hx⟩ := h.exists_cell row col hin
    cases havail : x.available with
    | true => exact ⟨_, _, h.bookSeat_of_available hx havail _ _ _, h.putCell row col _⟩
    | false => exact ⟨_, _, h.bookSeat_of_taken hx havail _ _ _, h⟩
  · exact ⟨_, _, SeatMap.bookSeat_of_not_inRange hin _ _ _, h⟩

theorem cancelBooking_shaped {s : SeatMap} (h : s.Shaped) (row col : ℤ) :
    ∃ s', s.cancelBooking row col = .ok s' ∧ s'.Shaped := by
  by_cases hin : s.InRange row col
  · exact ⟨_, h.cancelBooking_of_inRange hin, h.putCell row col Cell.free⟩
  · exact ⟨_, SeatMap.cancelBooking_of_not_inRange hin, h⟩

/-- One operation on an intact map. -/
theorem intact_step_iff (lib : JsonLibrary J) {state : Except Fault SeatMap}
    (operation : Operation J) (hadmissible : Admissible lib operation) (h : Intact state) :
    Intact (step lib state operation) ↔ KeepsShape lib state operation := by
  obtain ⟨s, rfl, hs, _⟩ := h
  cases operation with
  | bookSeat row col passengerName email maxLoad =>
    obtain ⟨booked, s', hbook, hs'⟩ := bookSeat_shaped hs row col passengerName email maxLoad
    refine iff_of_true ?_ trivial
    simp only [step, Except.bind, apply, hbook, Except.map]
    exact (intact_ok_iff s').mpr hs'
  | cancelBooking row col =>
    obtain ⟨s', hcancel, hs'⟩ := cancelBooking_shaped hs row col
    refine iff_of_true ?_ trivial
    simp only [step, Except.bind, apply, hcancel]
    exact (intact_ok_iff s').mpr hs'
  | loadFromFlightInformation flightInfo bookingInfos =>
    obtain ⟨hrows, hcols, hin⟩ := hadmissible
    have hiff := intact_load_iff hs flightInfo bookingInfos hrows hcols hin
    constructor
    · intro hafter _ heq
      cases heq
      exact hiff.mp hafter
    · intro hkeeps
      exact hiff.mpr (hkeeps s rfl)
  | loadFromJSON file =>
    have haccept := hadmissible s
    match file with
    | none => exact iff_of_true ((intact_ok_iff s).mpr hs) trivial
    | some (.error e) => exact absurd haccept (by simp [SeatMap.loadFromJSON])
    | some (.ok data) =>
      have hload : s.loadFromJSON lib (some (.ok data)) =
          (.ok (), (s.loadFromJSON lib (some (.ok data))).2) := Prod.ext haccept rfl
      simp only [step, Except.bind, apply, KeepsShape]
      rw [hload]
      exact (intact_ok_iff _).trans (SeatMap.shaped_loadFromJSON_iff hload)

/-- The grids keep the dimensions throughout a run exactly when every load from a
flight and every document of the run allows it. -/
theorem throughout_intact_iff (lib : JsonLibrary J) (rows cols : ℤ) (hrows : 0 ≤ rows)
    (hcols : 0 ≤ cols) (operations : List (Operation J))
    (hadmissible : ∀ operation ∈ operations, Admissible lib operation) :
    Run.Throughout (step lib) Intact (SeatMap.new rows cols) operations ↔
      Run.EveryStep (step lib) (KeepsShape lib) (SeatMap.new rows cols) operations := by
  apply Run.throughout_iff_everyStep (step lib) (fun _ => True) Intact (Admissible lib)
  · exact fun _ _ _ _ => trivial
  · exact fun state operation _ hadmissible h => intact_step_iff lib operation hadmissible h
  · exact trivial
  · rw [SeatMap.new_eq_vacant rows cols hrows hcols]
    exact (intact_ok_iff _).mpr (SeatMap.shaped_vacant rows cols hrows hcols)
  · exact hadmissible

section Examples

def flightOf (rows cols : ℤ) : FlightInformation := ⟨"AA123", "", "", "", 0, 0, rows, cols⟩

/-- A document of one seat, whatever number of rows it names. -/
def oneSeatDocument (rows : ℤ) : Json :=
  .object [("rows", .number rows), ("cols", .number 1),
    ("seatMap", .array [.array [.boolean true]]),
    ("passengerMap", .array [.array [.string ""]]),
    ("emailMap", .array [.array [.string ""]]),
    ("maxLoadMap", .array [.array [.string ""]])]

theorem consistent_oneSeatDocument : wholeJson.Consistent (oneSeatDocument 1) := by
  refine ⟨1, 1, rfl, rfl, ?_⟩
  simp only [List.forall_mem_cons]
  have hgrid : ∀ value, wholeJson.IsGrid (.array [.array [value]]) 1 1 := by
    intro value
    refine ⟨[.array [value]], rfl, rfl, ?_⟩
    simp only [List.forall_mem_cons]
    exact ⟨⟨[value], rfl, rfl⟩, by simp⟩
  exact ⟨⟨_, rfl, hgrid _⟩, ⟨_, rfl, hgrid _⟩, ⟨_, rfl, hgrid _⟩, ⟨_, rfl, hgrid _⟩, by simp⟩

end Examples

theorem same_width_intact :
    Run.Throughout (step wholeJson) Intact (SeatMap.new 2 1)
      [.bookSeat 1 0 "Ann" "" "", .loadFromFlightInformation (flightOf 1 1) [],
        .loadFromJSON (some (.ok (oneSeatDocument 1)))] := by
  apply (throughout_intact_iff wholeJson 2 1 (by decide) (by decide) _ ?_).mpr
  · simp only [Run.everyStep_cons]
    refine ⟨trivial, ?_, consistent_oneSeatDocument, Run.everyStep_nil _ _ _⟩
    intro _ heq
    cases heq
    exact .inr (.inr rfl)
  · intro operation hmem
    simp only [List.mem_cons, List.not_mem_nil, or_false] at hmem
    rcases hmem with rfl | rfl | rfl
    · exact trivial
    · exact ⟨by decide, by decide, by decide⟩
    · exact fun s => rfl

/-- Loading a wider flight keeps the old row at width one. -/
theorem wider_flight_not_intact :
    Admissible wholeJson (.loadFromFlightInformation (flightOf 1 2) []) ∧
    ¬ Run.Throughout (step wholeJson) Intact (SeatMap.new 1 1)
      [.loadFromFlightInformation (flightOf 1 2) []] := by
  refine ⟨⟨by decide, by decide, by decide⟩, ?_⟩
  intro h
  obtain ⟨s, hs, hshaped, _⟩ := h.final
  cases hs
  exact absurd hshaped.seat (by decide)

end AirlineReservation.SeatMapShape
