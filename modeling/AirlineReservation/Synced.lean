import AirlineReservation.AgreementRuns

/-!
What one session keeps between its seat map and the booking table while all
statements succeed, empty names included: a seat with a name has its own row and
no other, a free seat has none. A save then writes every row as it is already,
apart from the row of the seat whose cell has changed.
-/

namespace AirlineReservation

open BookingInformation

def SyncedAt (x : Cell) (rows : List BookingInformation) (r c : ℤ) : Prop :=
  (x.available = true → rows = []) ∧ (x.name ≠ "" → rows = [x.row r c])

structure Synced (s : SeatMap) (t : List BookingInformation) : Prop where
  valid : s.Valid
  unique : UniqueSeats t
  cells : ∀ r c x, s.cell? r c = some x → SyncedAt x (seatRows t r c) r c

section Save

variable {s : SeatMap} {t : List BookingInformation} {r c : ℤ} {x y : Cell}
  (outcome : ℤ × ℤ → TransactionOutcome)

theorem SyncedAt.settled (h : SyncedAt x (seatRows t r c) r c) (hname : x.name ≠ "") :
    RowTable.Settled seat (x.row r c) t := by
  have hrows : RowTable.rowsAt seat (x.row r c).seat t = [x.row r c] := h.2 hname
  rw [RowTable.Settled, hrows]
  exact ⟨List.cons_ne_nil _ _, fun b hb => List.mem_singleton.mp hb⟩

theorem Synced.settled_of_savedRow (h : Synced s t) {k : ℤ × ℤ} {b : BookingInformation}
    (hb : savedRow s outcome k = some b) : RowTable.Settled seat b t := by
  obtain ⟨x, hx, hname, _, rfl⟩ := exists_of_savedRow hb
  exact (h.cells k.1 k.2 x hx).settled hname

theorem Synced.saveTable_eq (h : Synced s t) : saveTable s outcome t = t :=
  RowTable.upsertAll_of_settled _ _ t fun _ _ _ hb => h.settled_of_savedRow outcome hb

/-- Only the row of the seat that was overwritten is written anew. -/
theorem Synced.saveTable_putCell (h : Synced s t) (hy : s.cell? r c = some y) (x : Cell)
    (hcommit : outcome (r, c) = .committed) :
    saveTable (s.putCell r c x) outcome t =
      if x.name ≠ "" then RowTable.upsert seat (x.row r c) t else t := by
  have hin := h.valid.shaped.inRange_of_cell? hy
  have hself := SeatMap.cell?_putCell_self s hy x
  have hsave : saveTable (s.putCell r c x) outcome t =
      (savedRow (s.putCell r c x) outcome (r, c)).elim t
        fun b => RowTable.upsert seat b t := by
    apply RowTable.upsertAll_of_settled_ne _ (savedRow_seat _ outcome)
      ((mem_seats s r c).mpr hin)
    intro k _ hne b hb
    apply h.settled_of_savedRow outcome
    rw [← hb, savedRow, savedRow, SeatMap.cell?_putCell_ne s x hne]
  rw [hsave]
  by_cases hname : x.name = ""
  · have hnone : savedRow (s.putCell r c x) outcome (r, c) = none := by
      simp [savedRow, hself, hname]
    rw [hnone, if_neg (not_not_intro hname)]
    rfl
  · rw [savedRow_eq_some hself hname hcommit, if_pos hname]
    rfl

end Save

/-- What the map shows of a seat and what the table stores for it. -/
def seatView (state : SeatMap × List BookingInformation) (k : ℤ × ℤ) :
    Option Cell × List BookingInformation :=
  (state.1.cell? k.1 k.2, seatRows state.2 k.1 k.2)

/-- What a Book or Update that goes through leaves at seat k: an empty name takes
the seat and leaves its rows. -/
def storedAfter (name email maxLoad : String) (k : ℤ × ℤ)
    (shown : Option Cell × List BookingInformation) : Option Cell × List BookingInformation :=
  (some (Cell.taken name email maxLoad),
    if name ≠ "" then [⟨name, email, maxLoad, k.1, k.2⟩] else shown.2)

/-- What an action on seat k leaves there. -/
def seatAfter (action : Action) (k : ℤ × ℤ) (shown : Option Cell × List BookingInformation) :
    Option Cell × List BookingInformation :=
  match action, shown.1.map Cell.available with
  | .book name email maxLoad, some true => storedAfter name email maxLoad k shown
  | .update name email maxLoad, some false => storedAfter name email maxLoad k shown
  | .delete, some false => (some Cell.free, [])
  | _, _ => shown

section Action

variable {s s' : SeatMap} {t t' : List BookingInformation} {r c : ℤ} {x : Cell}

theorem Synced.local_taken (h : Synced s t) (hx : s.cell? r c = some x)
    (name email maxLoad : String) :
    Run.LocalAt seatView (r, c) (storedAfter name email maxLoad (r, c)) (s, t)
      (s.putCell r c (Cell.taken name email maxLoad),
        saveTable (s.putCell r c (Cell.taken name email maxLoad)) SqlOutcomes.succeed.seat t) := by
  rw [h.saveTable_putCell _ hx _ rfl]
  constructor
  · have hcell := SeatMap.cell?_putCell_self s hx (Cell.taken name email maxLoad)
    simp only [seatView, storedAfter, hcell]
    by_cases hname : name = ""
    · simp [hname, Cell.taken]
    · have hrows : seatRows (RowTable.upsert seat ⟨name, email, maxLoad, r, c⟩ t) r c =
          [⟨name, email, maxLoad, r, c⟩] :=
        RowTable.Unique.rowsAt_upsert_self seat h.unique ⟨name, email, maxLoad, r, c⟩
      simp [hname, Cell.taken, Cell.row, hrows]
  · intro k hne
    have hcell := SeatMap.cell?_putCell_ne s (Cell.taken name email maxLoad) hne
    have hrows : seatRows (RowTable.upsert seat ((Cell.taken name email maxLoad).row r c) t)
        k.1 k.2 = seatRows t k.1 k.2 := RowTable.rowsAt_upsert_ne seat _ k t hne
    simp only [seatView, hcell]
    split
    · rw [hrows]
    · rfl

theorem local_free (s : SeatMap) (t : List BookingInformation) (hx : s.cell? r c = some x) :
    Run.LocalAt seatView (r, c) (fun _ => (some Cell.free, [])) (s, t)
      (s.putCell r c Cell.free, RowTable.deleteAt seat (r, c) t) := by
  constructor
  · have hrows : seatRows (RowTable.deleteAt seat (r, c) t) r c = [] :=
      RowTable.rowsAt_deleteAt_self seat (r, c) t
    simp only [seatView, SeatMap.cell?_putCell_self s hx, hrows]
  · intro k hne
    have hrows : seatRows (RowTable.deleteAt seat (r, c) t) k.1 k.2 = seatRows t k.1 k.2 :=
      RowTable.rowsAt_deleteAt_ne seat (r, c) k t hne
    simp only [seatView, SeatMap.cell?_putCell_ne s Cell.free hne, hrows]

/-- A step at one seat keeps map and table together if it does so there. -/
theorem Synced.of_local (h : Synced s t)
    {g : Option Cell × List BookingInformation → Option Cell × List BookingInformation}
    (hlocal : Run.LocalAt seatView (r, c) g (s, t) (s', t')) (hvalid : s'.Valid)
    (hunique : UniqueSeats t')
    (hseat : ∀ x rows, g (seatView (s, t) (r, c)) = (some x, rows) → SyncedAt x rows r c) :
    Synced s' t' := by
  refine ⟨hvalid, hunique, ?_⟩
  intro r' c' z hz
  by_cases hsame : (r', c') = (r, c)
  · obtain ⟨rfl, rfl⟩ := Prod.mk.inj hsame
    apply hseat
    rw [← hlocal.1, seatView, hz]
  · obtain ⟨hcell, hrows⟩ := Prod.mk.inj (hlocal.2 (r', c') hsame)
    rw [show seatRows t' r' c' = seatRows t r' c' from hrows]
    exact h.cells r' c' z (hcell.symm.trans hz)

theorem syncedAt_storedAfter (name email maxLoad : String)
    {shown : Option Cell × List BookingInformation} {rows : List BookingInformation}
    (h : storedAfter name email maxLoad (r, c) shown = (some x, rows)) : SyncedAt x rows r c := by
  obtain ⟨hcell, hrows⟩ := Prod.mk.inj h
  cases Option.some.inj hcell
  constructor
  · intro hfree
    contradiction
  · intro hname
    have hnamed : name ≠ "" := hname
    rw [← hrows, if_pos hnamed]
    rfl

/-- An action on a seat of the map changes what is shown and stored for that seat
only, and keeps map and table together. -/
theorem effect_local {action : Action} {request : Request}
    (heffect : Effect s r c action s' request) (h : Synced s t) (hx : s.cell? r c = some x) :
    Run.LocalAt seatView (r, c) (seatAfter action (r, c)) (s, t)
        (s', request.rows .succeed s' (r, c) t) ∧
      Synced s' (request.rows .succeed s' (r, c) t) := by
  have hshown : (seatView (s, t) (r, c)).1.map Cell.available = some x.available := by
    simp [seatView, hx]
  have hcell : ∀ {y : Cell}, s.cell? r c = some y → y = x := by
    intro y hy
    exact Option.some.inj (hy.symm.trans hx)
  have hself := Run.LocalAt.refl seatView (r, c) (s, t)
  cases heffect with
  | booked name email maxLoad y hy hfree =>
    have hlocal := h.local_taken hx name email maxLoad
    refine ⟨hlocal.congr ?_, h.of_local hlocal (h.valid.putTaken r c name email maxLoad)
      (h.unique.saveTable _) fun _ _ => syncedAt_storedAfter name email maxLoad⟩
    simp only [seatAfter, hshown, ← hcell hy, hfree]
  | refused name email maxLoad hnot =>
    refine ⟨hself.congr ?_, h⟩
    simp only [seatAfter, hshown, hnot x hx, id]
  | updated name email maxLoad y hy htaken =>
    have hlocal := h.local_taken hx name email maxLoad
    refine ⟨hlocal.congr ?_, h.of_local hlocal (h.valid.putTaken r c name email maxLoad)
      (h.unique.saveTable _) fun _ _ => syncedAt_storedAfter name email maxLoad⟩
    simp only [seatAfter, hshown, ← hcell hy, htaken]
  | updatedOutside name email maxLoad hout =>
    exact absurd (h.valid.shaped.inRange_of_cell? hx) hout
  | updateHidden name email maxLoad y hy hfree =>
    refine ⟨hself.congr ?_, h⟩
    simp only [seatAfter, hshown, ← hcell hy, hfree, id]
  | deleted y hy htaken =>
    have hlocal := local_free s t hx
    refine ⟨hlocal.congr ?_, h.of_local hlocal (h.valid.putFree r c)
      (RowTable.Unique.deleteAt seat h.unique (r, c)) ?_⟩
    · simp only [seatAfter, hshown, ← hcell hy, htaken]
    · intro z rows hz
      obtain ⟨hfree, hrows⟩ := Prod.mk.inj hz
      cases Option.some.inj hfree
      exact ⟨fun _ => hrows.symm, fun hname => absurd rfl hname⟩
  | deletedOutside hout => exact absurd (h.valid.shaped.inRange_of_cell? hx) hout
  | deleteHidden y hy hfree =>
    refine ⟨hself.congr ?_, h⟩
    simp only [seatAfter, hshown, ← hcell hy, hfree, id]

/-- An action whose selection lies outside the map leaves the map, and at most
removes rows of no seat of it. -/
theorem effect_outside {action : Action} {request : Request}
    (heffect : Effect s r c action s' request) (h : Synced s t) (hout : ¬ s.InRange r c) :
    s' = s ∧ Synced s (request.rows .succeed s (r, c) t) := by
  have hnone := h.valid.shaped.cell?_eq_none r c hout
  have habsent : ∀ {y : Cell}, s.cell? r c ≠ some y := by
    intro y hy
    rw [hnone] at hy
    contradiction
  cases heffect with
  | booked name email maxLoad y hy hfree => exact absurd hy habsent
  | refused name email maxLoad hnot => exact ⟨rfl, h⟩
  | updated name email maxLoad y hy htaken => exact absurd hy habsent
  | updatedOutside name email maxLoad hout =>
    refine ⟨rfl, ?_⟩
    rw [Request.rows, h.saveTable_eq]
    exact h
  | updateHidden name email maxLoad y hy hfree => exact absurd hy habsent
  | deleted y hy htaken => exact absurd hy habsent
  | deletedOutside hout =>
    refine ⟨rfl, h.valid, RowTable.Unique.deleteAt seat h.unique (r, c), ?_⟩
    intro r' c' x hx
    have hne : (r', c') ≠ (r, c) := by
      intro hsame
      obtain ⟨rfl, rfl⟩ := Prod.mk.inj hsame
      exact habsent hx
    have hrows : seatRows (RowTable.deleteAt seat (r, c) t) r' c' = seatRows t r' c' :=
      RowTable.rowsAt_deleteAt_ne seat (r, c) (r', c') t hne
    exact hrows ▸ h.cells r' c' x hx
  | deleteHidden y hy hfree => exact absurd hy habsent

theorem effect_synced {action : Action} {request : Request}
    (heffect : Effect s r c action s' request) (h : Synced s t) :
    Synced s' (request.rows .succeed s' (r, c) t) := by
  by_cases hin : s.InRange r c
  · obtain ⟨x, hx⟩ := h.valid.shaped.exists_cell r c hin
    exact (effect_local heffect h hx).2
  · obtain ⟨rfl, hafter⟩ := effect_outside heffect h hin
    exact hafter

end Action

/-- The selection is set to a seat, by a click or otherwise, or an action follows. -/
inductive Move
  | pointAt (seat : ℤ × ℤ)
  | act (action : Action)
  deriving DecidableEq, Repr

/-- A move with every SQL statement succeeding. -/
def App.move (app : App) : Move → App
  | .pointAt seat =>
    ⟨app.db, app.session.map fun session => { session with selectedRowCol := seat }⟩
  | .act action => app.act action

def Move.SelectsFrom (flights : List FlightInformation) : Move → Prop
  | .pointAt _ => True
  | .act action => Agreement.SelectsFrom flights action

/-- The active map, if there is one, and its table are kept together. -/
def AppSynced (app : App) : Prop :=
  ∀ session flight, app.session = .ok session → session.activeFlight = some flight →
    ∃ t, app.db.bookingTable ("Booking" ++ flight.flightID) = some t ∧ Synced flight.seatMap t

section Runs

open Agreement

variable {flights : List FlightInformation} {app : App}

theorem Synced.of_agrees {s : SeatMap} {t : List BookingInformation} (hs : s.Valid)
    (ht : UniqueSeats t) (h : Agrees s t) : Synced s t := by
  refine ⟨hs, ht, ?_⟩
  intro r c x hx
  obtain ⟨hrow, htaken⟩ := h.at hs.shaped hx
  constructor
  · intro hfree
    by_contra hne
    rw [hrow.mp hne] at hfree
    contradiction
  · intro hname
    apply htaken
    by_contra hfree
    rw [hs.cleared r c x hx (by simpa using hfree)] at hname
    exact hname rfl

theorem appSynced_of_agrees (h : Sound flights app) (hagree : AppAgrees app) :
    AppSynced app := by
  intro session flight hlive hactive
  obtain ⟨t, ht, hagrees⟩ := hagree session flight hlive hactive
  obtain ⟨f, hf, hid⟩ := h.listed session flight hlive hactive
  obtain ⟨t', ht', hunique⟩ := h.tables f hf
  rw [hid] at ht'
  cases Option.some.inj (ht.symm.trans ht')
  exact ⟨t, ht, .of_agrees (h.valid session hlive flight hactive) hunique hagrees⟩

/-- What an action on the active flight leaves. -/
theorem perform_synced {session : Session} {flight : Flight} {t : List BookingInformation}
    {db : Database} {action : Action} (hbooking : action.IsBooking)
    (hactive : session.activeFlight = some flight)
    (ht : db.bookingTable ("Booking" ++ flight.flightID) = some t)
    (h : Synced flight.seatMap t) :
    ∃ s' request, Effect flight.seatMap session.selectedRowCol.1 session.selectedRowCol.2
        action s' request ∧
      Synced s' (request.rows .succeed s' session.selectedRowCol t) ∧
      perform .succeed db session action =
        afterAction db flight session s'
          (request.rows .succeed s' session.selectedRowCol t) := by
  obtain ⟨s', request, heffect, hperform⟩ := perform_caught ht hbooking hactive h.valid
    SqlOutcomes.caught_succeed
  exact ⟨s', request, heffect, effect_synced heffect h, hperform⟩

theorem act_synced (action : Action) (hsound : Sound flights app)
    (hselects : Agreement.SelectsFrom flights action) (h : AppSynced app) :
    AppSynced (app.act action) := by
  have hafter := sound_act action hsound hselects
  cases hsession : app.session with
  | error e => rwa [App.act, App.step_dead hsession]
  | ok session =>
    rw [App.act, App.step_live hsession] at hafter ⊢
    rcases perform_cases .succeed app.db (hsound.valid session hsession) action with
      ⟨f, rfl, hperform⟩ | ⟨session', hkeep, _, hperform⟩ |
        ⟨flight, _, _, hbooking, hactive, _, _⟩
    · obtain ⟨t, ht, hunique⟩ := hsound.tables f (hselects f rfl)
      apply appSynced_of_agrees hafter
      rw [hperform]
      cases hselect : selectPressed .succeed app.db f session with
      | error e =>
        intro _ _ hlive
        contradiction
      | ok session' => exact selected_agrees ht hunique hselect
    · rw [hperform]
      intro session'' flight hlive hactive
      cases Except.ok.inj hlive
      rw [hkeep] at hactive
      exact h session flight hsession hactive
    · obtain ⟨t, ht, hsynced⟩ := h session flight hsession hactive
      obtain ⟨s', request, _, hsynced', hperform⟩ := perform_synced hbooking hactive ht hsynced
      rw [hperform]
      intro session' flight' hlive hactive'
      cases Except.ok.inj hlive
      cases Option.some.inj hactive'
      exact ⟨_, app.db.bookingTable_setBookingTable_self _ ht _, hsynced'⟩

/-- Pointing at a seat changes nothing but the selection. -/
theorem session_of_pointAt {seat : ℤ × ℤ} {session' : Session}
    (h : (app.move (.pointAt seat)).session = .ok session') :
    ∃ session, app.session = .ok session ∧ session'.activeFlight = session.activeFlight := by
  cases hsession : app.session with
  | error e => simp [App.move, hsession, Except.map] at h
  | ok session =>
    simp only [App.move, hsession, Except.map] at h
    cases Except.ok.inj h
    exact ⟨session, rfl, rfl⟩

theorem sound_move (move : Move) (h : Sound flights app)
    (hselects : move.SelectsFrom flights) : Sound flights (app.move move) := by
  cases move with
  | act action => exact sound_act action h hselects
  | pointAt seat =>
    refine ⟨h.tables, ?_, ?_⟩
    · intro session' hlive flight hactive
      obtain ⟨session, hsession, hkeep⟩ := session_of_pointAt hlive
      exact h.valid session hsession flight (hkeep ▸ hactive)
    · intro session' flight hlive hactive
      obtain ⟨session, hsession, hkeep⟩ := session_of_pointAt hlive
      exact h.listed session flight hsession (hkeep ▸ hactive)

theorem move_synced (move : Move) (hsound : Sound flights app)
    (hselects : move.SelectsFrom flights) (h : AppSynced app) : AppSynced (app.move move) := by
  cases move with
  | act action => exact act_synced action hsound hselects h
  | pointAt seat =>
    intro session' flight hlive hactive
    obtain ⟨session, hsession, hkeep⟩ := session_of_pointAt hlive
    exact h session flight hsession (hkeep ▸ hactive)

/-- Map and table are kept together along every run of one session. -/
theorem synced_run (flights : List FlightInformation) (db : Database) (moves : List Move)
    (htables : TablesUnique flights db) (hselects : ∀ move ∈ moves, move.SelectsFrom flights) :
    AppSynced (Run.run App.move ⟨db, .ok Session.start⟩ moves) := by
  have hstart : Sound flights ⟨db, .ok Session.start⟩ ∧ AppSynced ⟨db, .ok Session.start⟩ := by
    refine ⟨⟨htables, App.valid_start db, ?_⟩, ?_⟩
    · intro _ flight hlive hactive
      cases hlive
      contradiction
    · intro _ flight hlive hactive
      cases hlive
      contradiction
  have hstep : ∀ (app : App) (move : Move), (Sound flights app ∧ AppSynced app) →
      move.SelectsFrom flights → Sound flights (app.move move) ∧ AppSynced (app.move move) := by
    intro app move hboth hselects
    exact ⟨sound_move move hboth.1 hselects, move_synced move hboth.1 hselects hboth.2⟩
  exact (Run.throughout_of_forall App.move _ _ hstep _ moves hstart hselects).final.2

end Runs

end AirlineReservation
