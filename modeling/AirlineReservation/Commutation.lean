import AirlineReservation.Synced

/-!
Actions on different seats, and a booking taken back. A Book or Update rewrites
every named seat of the flight, yet in the states that one session reaches only
the seat it names changes. So two actions on different seats can be exchanged up
to the order of the rows, and Book followed by Delete leaves no trace.
-/

namespace AirlineReservation

/-- Point at a seat, then act. -/
def App.actAt (app : App) (seat : ℤ × ℤ) (action : Action) : App :=
  (app.move (.pointAt seat)).move (.act action)

theorem App.actAt_live (db : Database) (session : Session) (seat : ℤ × ℤ) (action : Action) :
    App.actAt ⟨db, .ok session⟩ seat action =
      ⟨(perform .succeed db { session with selectedRowCol := seat } action).1,
        (perform .succeed db { session with selectedRowCol := seat } action).2⟩ := rfl

theorem App.act_live (db : Database) (session : Session) (action : Action) :
    App.move ⟨db, .ok session⟩ (.act action) =
      ⟨(perform .succeed db session action).1, (perform .succeed db session action).2⟩ := rfl

namespace Commutation

/-- The state in which `flight` is active with the map `s`, the seat is selected
and the flight's table has the rows `t`. -/
def after (db : Database) (flight : Flight) (seat : ℤ × ℤ) (s : SeatMap)
    (t : List BookingInformation) : App :=
  ⟨db.setBookingTable ("Booking" ++ flight.flightID) t,
    .ok ⟨some { flight with seatMap := s }, seat⟩⟩

section Steps

variable {db : Database} {session : Session} {flight : Flight} {s s' : SeatMap}
  {t : List BookingInformation} {r c : ℤ} {action : Action} {request : Request}

/-- An action on a seat of the active map is local to that seat. -/
theorem actAt_eq (hbooking : action.IsBooking) (hactive : session.activeFlight = some flight)
    (ht : db.bookingTable ("Booking" ++ flight.flightID) = some t)
    (h : Synced flight.seatMap t) {seat : ℤ × ℤ}
    (hin : flight.seatMap.InRange seat.1 seat.2) :
    ∃ s' t', App.actAt ⟨db, .ok session⟩ seat action = after db flight seat s' t' ∧
      Run.LocalAt seatView seat (seatAfter action seat) (flight.seatMap, t) (s', t') ∧
      Synced s' t' ∧ s'.rows = flight.seatMap.rows ∧ s'.cols = flight.seatMap.cols := by
  obtain ⟨x, hx⟩ := h.valid.shaped.exists_cell seat.1 seat.2 hin
  have hpointed : ({ session with selectedRowCol := seat } : Session).activeFlight =
    some flight := hactive
  obtain ⟨s', request, heffect, _, hperform⟩ := perform_synced hbooking hpointed ht h
  obtain ⟨hlocal, hsynced⟩ := effect_local heffect h hx
  obtain ⟨hrows, hcols⟩ := heffect.dimensions
  refine ⟨s', _, ?_, hlocal, hsynced, hrows, hcols⟩
  rw [App.actAt_live, hperform]
  rfl

/-- Two actions on different seats, one after the other. -/
theorem actAt_actAt_eq {a b : Action} (ha : a.IsBooking) (hb : b.IsBooking)
    (hactive : session.activeFlight = some flight)
    (ht : db.bookingTable ("Booking" ++ flight.flightID) = some t)
    (h : Synced flight.seatMap t) {k k' : ℤ × ℤ} (hk : flight.seatMap.InRange k.1 k.2)
    (hk' : flight.seatMap.InRange k'.1 k'.2) :
    ∃ s₁ t₁ s₂ t₂, (App.actAt ⟨db, .ok session⟩ k a).actAt k' b = after db flight k' s₂ t₂ ∧
      Run.LocalAt seatView k (seatAfter a k) (flight.seatMap, t) (s₁, t₁) ∧
      Run.LocalAt seatView k' (seatAfter b k') (s₁, t₁) (s₂, t₂) ∧
      s₂.Shaped ∧ s₂.rows = flight.seatMap.rows ∧ s₂.cols = flight.seatMap.cols := by
  obtain ⟨s₁, t₁, hfirst, hlocal₁, h₁, hrows₁, hcols₁⟩ := actAt_eq ha hactive ht h hk
  have hk'₁ : s₁.InRange k'.1 k'.2 := by
    rw [SeatMap.InRange, hrows₁, hcols₁]
    exact hk'
  have ht₁ : (db.setBookingTable ("Booking" ++ flight.flightID) t₁).bookingTable
      ("Booking" ++ ({ flight with seatMap := s₁ } : Flight).flightID) = some t₁ :=
    db.bookingTable_setBookingTable_self _ ht t₁
  have hactive₁ : (⟨some { flight with seatMap := s₁ }, k⟩ : Session).activeFlight =
    some { flight with seatMap := s₁ } := rfl
  obtain ⟨s₂, t₂, hsecond, hlocal₂, h₂, hrows₂, hcols₂⟩ := actAt_eq hb hactive₁ ht₁ h₁ hk'₁
  refine ⟨s₁, t₁, s₂, t₂, ?_, hlocal₁, hlocal₂, h₂.valid.shaped, hrows₂.trans hrows₁,
    hcols₂.trans hcols₁⟩
  rw [hfirst, after, hsecond, after, after, Database.setBookingTable_setBookingTable]

/-- States that show the same at every seat have the same map and, up to their
order, the same rows. -/
theorem eq_of_seatView {s₁ s₂ : SeatMap} {t₁ t₂ : List BookingInformation}
    (hs₁ : s₁.Shaped) (hs₂ : s₂.Shaped) (hrows : s₁.rows = s₂.rows) (hcols : s₁.cols = s₂.cols)
    (hview : ∀ k, seatView (s₁, t₁) k = seatView (s₂, t₂) k) : s₁ = s₂ ∧ t₁.Perm t₂ := by
  constructor
  · apply hs₁.ext hs₂ hrows hcols
    intro r c
    exact (Prod.mk.inj (hview (r, c))).1
  · apply RowTable.perm_of_rowsAt_eq BookingInformation.seat
    intro k
    exact (Prod.mk.inj (hview k)).2

end Steps

/-- In every state that one session reaches, two actions on different seats of the
active flight can be exchanged. -/
theorem actions_commute (flights : List FlightInformation) (db : Database) (moves : List Move)
    (htables : Agreement.TablesUnique flights db)
    (hselects : ∀ move ∈ moves, move.SelectsFrom flights) {session : Session} {flight : Flight}
    (hlive : (Run.run App.move ⟨db, .ok Session.start⟩ moves).session = .ok session)
    (hactive : session.activeFlight = some flight) (a b : Action) (ha : a.IsBooking)
    (hb : b.IsBooking) (k k' : ℤ × ℤ) (hk : flight.seatMap.InRange k.1 k.2)
    (hk' : flight.seatMap.InRange k'.1 k'.2) (hne : k ≠ k') :
    ∃ s' t₁ t₂, t₁.Perm t₂ ∧
      ((Run.run App.move ⟨db, .ok Session.start⟩ moves).actAt k a).actAt k' b =
        after (Run.run App.move ⟨db, .ok Session.start⟩ moves).db flight k' s' t₁ ∧
      ((Run.run App.move ⟨db, .ok Session.start⟩ moves).actAt k' b).actAt k a =
        after (Run.run App.move ⟨db, .ok Session.start⟩ moves).db flight k s' t₂ := by
  obtain ⟨t, ht, hsynced⟩ := synced_run flights db moves htables hselects session flight hlive
    hactive
  generalize Run.run App.move ⟨db, .ok Session.start⟩ moves = app at hlive ht ⊢
  obtain ⟨now, _⟩ := app
  cases hlive
  obtain ⟨_, _, s₁, t₁, hab, hfirst, hsecond, hs₁, hrows₁, hcols₁⟩ :=
    actAt_actAt_eq ha hb hactive ht hsynced hk hk'
  obtain ⟨_, _, s₂, t₂, hba, hfirst', hsecond', hs₂, hrows₂, hcols₂⟩ :=
    actAt_actAt_eq hb ha hactive ht hsynced hk' hk
  obtain ⟨rfl, hperm⟩ := eq_of_seatView hs₁ hs₂ (hrows₁.trans hrows₂.symm)
    (hcols₁.trans hcols₂.symm) fun place =>
      Run.LocalAt.commute hne hfirst hsecond hfirst' hsecond' place
  exact ⟨s₁, t₁, t₂, hperm, hab, hba⟩

section TwoSeats

def twoSeatsFlight : Flight :=
  ⟨"AA123", "New York", "Los Angeles", 0, 0, SeatMap.vacant 1 2⟩

theorem twoSeats_tablesUnique : Agreement.TablesUnique [twoSeats] oneSeatDatabase := by
  intro f hf
  cases List.mem_singleton.mp hf
  exact ⟨[], oneSeat_table, RowTable.unique_nil BookingInformation.seat⟩

theorem twoSeats_selected : (Run.run App.move ⟨oneSeatDatabase, .ok Session.start⟩
    [.act (.selectFlight twoSeats)]).session = .ok ⟨some twoSeatsFlight, (0, 0)⟩ := by
  decide

theorem twoSeats_selects : ∀ move ∈ [Move.act (.selectFlight twoSeats)],
    move.SelectsFrom [twoSeats] := by
  intro move hmove
  cases List.mem_singleton.mp hmove
  intro f hselect
  cases hselect
  exact List.mem_singleton_self twoSeats

end TwoSeats

theorem two_bookings_commute :
    ∃ s' t₁ t₂, t₁.Perm t₂ ∧
      ((Run.run App.move ⟨oneSeatDatabase, .ok Session.start⟩
          [.act (.selectFlight twoSeats)]).actAt (0, 0) (.book "Ann" "" "20")).actAt (0, 1)
          (.book "Bob" "" "15") =
        after oneSeatDatabase twoSeatsFlight (0, 1) s' t₁ ∧
      ((Run.run App.move ⟨oneSeatDatabase, .ok Session.start⟩
          [.act (.selectFlight twoSeats)]).actAt (0, 1) (.book "Bob" "" "15")).actAt (0, 0)
          (.book "Ann" "" "20") =
        after oneSeatDatabase twoSeatsFlight (0, 0) s' t₂ :=
  actions_commute [twoSeats] oneSeatDatabase [.act (.selectFlight twoSeats)]
    twoSeats_tablesUnique twoSeats_selects twoSeats_selected rfl (.book "Ann" "" "20")
    (.book "Bob" "" "15") trivial trivial (0, 0) (0, 1) (by decide) (by decide) (by decide)

section Restore

variable {s : SeatMap} {t : List BookingInformation} {r c : ℤ}

/-- A free seat has no row, so the new one, if there is a name, comes last. -/
theorem saveTable_booked (h : Synced s t) (hx : s.cell? r c = some Cell.free)
    (name email maxLoad : String) :
    saveTable (s.putCell r c (Cell.taken name email maxLoad)) SqlOutcomes.succeed.seat t =
      if name ≠ "" then t ++ [⟨name, email, maxLoad, r, c⟩] else t := by
  have hnone : seatRows t r c = [] := (h.cells r c _ hx).1 rfl
  rw [h.saveTable_putCell _ hx _ rfl]
  by_cases hname : name = ""
  · simp [hname, Cell.taken]
  · have happend : RowTable.upsert BookingInformation.seat ⟨name, email, maxLoad, r, c⟩ t =
        t ++ [⟨name, email, maxLoad, r, c⟩] := RowTable.upsert_of_nil _ hnone
    simp [hname, Cell.taken, Cell.row, happend]

theorem deleteAt_booked (h : seatRows t r c = []) (name email maxLoad : String) :
    RowTable.deleteAt BookingInformation.seat (r, c)
      (if name ≠ "" then t ++ [⟨name, email, maxLoad, r, c⟩] else t) = t := by
  have hkept : RowTable.deleteAt BookingInformation.seat (r, c) t = t :=
    RowTable.deleteAt_eq_self _ (r, c) t h
  split
  · have hgone : RowTable.deleteAt BookingInformation.seat (r, c)
        [⟨name, email, maxLoad, r, c⟩] = [] := by
      simp [RowTable.deleteAt, BookingInformation.seat]
    rw [RowTable.deleteAt_append, hkept, hgone, List.append_nil]
  · exact hkept

theorem putCell_self (h : s.Shaped) {x : Cell} (hx : s.cell? r c = some x) :
    s.putCell r c x = s := by
  apply (h.putCell r c x).ext h rfl rfl
  intro r' c'
  by_cases hsame : (r', c') = (r, c)
  · obtain ⟨rfl, rfl⟩ := Prod.mk.inj hsame
    rw [SeatMap.cell?_putCell_self s hx, hx]
  · rw [SeatMap.cell?_putCell_ne s x hsame]

/-- Book on a free seat. -/
theorem perform_book {db : Database} {flight : Flight}
    (ht : db.bookingTable ("Booking" ++ flight.flightID) = some t)
    (h : Synced flight.seatMap t) (hx : flight.seatMap.cell? r c = some Cell.free)
    (name email maxLoad : String) :
    perform .succeed db ⟨some flight, (r, c)⟩ (.book name email maxLoad) =
      afterAction db flight ⟨some flight, (r, c)⟩
        (flight.seatMap.putCell r c (Cell.taken name email maxLoad))
        (if name ≠ "" then t ++ [⟨name, email, maxLoad, r, c⟩] else t) := by
  have hshaped := h.valid.shaped.putCell r c (Cell.taken name email maxLoad)
  simp only [perform]
  rw [bookPressed_available rfl h.valid.shaped hx rfl,
    saveActive_eq ht hshaped SqlOutcomes.caught_succeed, saveTable_booked h hx]

/-- Delete on a taken seat. -/
theorem perform_delete {db : Database} {flight : Flight} {x : Cell}
    (ht : db.bookingTable ("Booking" ++ flight.flightID) = some t)
    (h : flight.seatMap.Shaped) (hx : flight.seatMap.cell? r c = some x)
    (htaken : x.available = false) :
    perform .succeed db ⟨some flight, (r, c)⟩ .delete =
      afterAction db flight ⟨some flight, (r, c)⟩ (flight.seatMap.putCell r c Cell.free)
        (RowTable.deleteAt BookingInformation.seat (r, c) t) := by
  simp only [perform]
  rw [whenNotAvailable_taken rfl h hx htaken,
    deletePressed_inRange rfl h (h.inRange_of_cell? hx), Request.run, deleteBookingData_eq ht]
  rfl

/-- The free cell and the rows without one for the seat are there again. -/
theorem book_delete_eq {db : Database} {session : Session} {flight : Flight}
    (hactive : session.activeFlight = some flight)
    (ht : db.bookingTable ("Booking" ++ flight.flightID) = some t)
    (h : Synced flight.seatMap t) (hx : flight.seatMap.cell? r c = some Cell.free)
    (name email maxLoad : String) :
    (App.actAt ⟨db, .ok session⟩ (r, c) (.book name email maxLoad)).move (.act .delete) =
      ⟨db, .ok { session with selectedRowCol := (r, c) }⟩ := by
  have hs := h.valid.shaped
  have htaken := SeatMap.cell?_putCell_self flight.seatMap hx (Cell.taken name email maxLoad)
  have hshaped := hs.putCell r c (Cell.taken name email maxLoad)
  have hcleared : (flight.seatMap.putCell r c (Cell.taken name email maxLoad)).putCell r c
      Cell.free = flight.seatMap := by
    rw [hs.putCell_putCell, putCell_self hs hx]
  have hremoved := deleteAt_booked ((h.cells r c _ hx).1 rfl) name email maxLoad
  have hbook := perform_book ht h hx name email maxLoad
  have ht' := db.bookingTable_setBookingTable_self _ ht
    (if name ≠ "" then t ++ [⟨name, email, maxLoad, r, c⟩] else t)
  generalize flight.seatMap.putCell r c (Cell.taken name email maxLoad) = s' at *
  generalize (if name ≠ "" then t ++ [⟨name, email, maxLoad, r, c⟩] else t) = t' at *
  have hdelete : perform .succeed (db.setBookingTable ("Booking" ++ flight.flightID) t')
      ⟨some { flight with seatMap := s' }, (r, c)⟩ .delete = _ :=
    perform_delete ht' hshaped htaken rfl
  rw [App.actAt_live, hactive, hbook, afterAction, App.act_live, hdelete, afterAction]
  simp only [hcleared, hremoved, Database.setBookingTable_setBookingTable,
    db.setBookingTable_self _ ht]

end Restore

/-- In every state that one session reaches, booking a free seat and deleting the
booking again restores the session, its seat map and the whole database. -/
theorem book_delete_restores (flights : List FlightInformation) (db : Database)
    (moves : List Move) (htables : Agreement.TablesUnique flights db)
    (hselects : ∀ move ∈ moves, move.SelectsFrom flights) {session : Session} {flight : Flight}
    (hlive : (Run.run App.move ⟨db, .ok Session.start⟩ moves).session = .ok session)
    (hactive : session.activeFlight = some flight) (r c : ℤ)
    (hfree : flight.seatMap.isSeatAvailable r c = .ok true) (name email maxLoad : String) :
    ((Run.run App.move ⟨db, .ok Session.start⟩ moves).actAt (r, c)
        (.book name email maxLoad)).move (.act .delete) =
      (Run.run App.move ⟨db, .ok Session.start⟩ moves).move (.pointAt (r, c)) := by
  obtain ⟨t, ht, hsynced⟩ := synced_run flights db moves htables hselects session flight hlive
    hactive
  generalize Run.run App.move ⟨db, .ok Session.start⟩ moves = app at hlive ht ⊢
  obtain ⟨now, _⟩ := app
  cases hlive
  have hs := hsynced.valid.shaped
  have hin : flight.seatMap.InRange r c := by
    by_contra hout
    rw [SeatMap.isSeatAvailable_of_not_inRange hout] at hfree
    contradiction
  obtain ⟨x, hx⟩ := hs.exists_cell r c hin
  have havailable := Except.ok.inj ((hs.isSeatAvailable hx).symm.trans hfree)
  have hcell := hsynced.valid.cleared r c x hx havailable
  subst hcell
  exact book_delete_eq hactive ht hsynced hx name email maxLoad

theorem nameless_booking_restored :
    ((Run.run App.move ⟨oneSeatDatabase, .ok Session.start⟩
        [.act (.selectFlight twoSeats)]).actAt (0, 1) (.book "" "ann@mail" "20")).move
        (.act .delete) =
      (Run.run App.move ⟨oneSeatDatabase, .ok Session.start⟩
        [.act (.selectFlight twoSeats)]).move (.pointAt (0, 1)) :=
  book_delete_restores [twoSeats] oneSeatDatabase [.act (.selectFlight twoSeats)]
    twoSeats_tablesUnique twoSeats_selects twoSeats_selected rfl 0 1 (by decide) "" "ann@mail" "20"

end Commutation

end AirlineReservation
