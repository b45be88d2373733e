import AirlineReservation.Confirmation

/-!
Confirmed bookings along runs. Once a booking has stored its seat, every copy
that is loaded shows it there, so that BookSeat refuses the seat and a save
writes the same row again; only copies loaded before could overwrite it.
-/

namespace AirlineReservation.Confirmation

open BookingInformation Interleaving

variable {ι : Type*} [DecidableEq ι]

/-- A map that reaches the seat of b shows b there. -/
def ShowsBooking (b : BookingInformation) (s : SeatMap) : Prop :=
  ∀ x, s.cell? b.row b.col = some x → x = Cell.ofRow b

def Party.Shows (b : BookingInformation) : Party → Prop
  | .idle session => ∀ flight, session.activeFlight = some flight → ShowsBooking b flight.seatMap
  | .saving _ loop _ => ShowsBooking b loop.seatMap
  | .ended _ => True

structure IdleInv (flightInformation : FlightInformation) (session : Session) : Prop where
  valid : session.Valid
  id_eq : ∀ flight, session.activeFlight = some flight →
    flight.flightID = flightInformation.flightID

structure SavingInv (flightInformation : FlightInformation) (session : Session)
    (loop : SaveLoop) (b : BookingInformation) : Prop where
  active : ∃ flight, session.activeFlight = some flight ∧ flight.seatMap = loop.seatMap ∧
    flight.flightID = flightInformation.flightID
  table : loop.tableName = "Booking" ++ flightInformation.flightID
  valid : loop.seatMap.Valid
  inside : ∀ k ∈ loop.pending, k ∈ loop.seatMap.seats
  nodup : loop.pending.Nodup
  named : b.name ≠ ""
  booked : loop.seatMap.cell? b.row b.col = some (Cell.ofRow b)

def PartyInv (flightInformation : FlightInformation) : Party → Prop
  | .idle session => IdleInv flightInformation session
  | .saving session loop b => SavingInv flightInformation session loop b
  | .ended _ => True

variable {flightInformation : FlightInformation} {t : List BookingInformation}

theorem ShowsBooking.putCell {b : BookingInformation} {s : SeatMap} (h : ShowsBooking b s)
    {r c : ℤ} {x : Cell} (hx : s.cell? r c = some x) (havail : x.available = true) (y : Cell) :
    ShowsBooking b (s.putCell r c y) := by
  have hne : (b.row, b.col) ≠ (r, c) := by
    intro heq
    obtain ⟨rfl, rfl⟩ := Prod.mk.inj heq
    rw [h x hx] at havail
    contradiction
  intro z hz
  rw [SeatMap.cell?_putCell_ne s y hne] at hz
  exact h z hz

/-- A save of a map that shows b writes b at its seat. -/
theorem ShowsBooking.savedRow_eq {b row : BookingInformation} {s : SeatMap}
    (h : ShowsBooking b s) {outcome : ℤ × ℤ → TransactionOutcome} {k : ℤ × ℤ}
    (hrow : savedRow s outcome k = some row) (hseat : row.seat = b.seat) : row = b := by
  obtain ⟨x, hx, _, _, rfl⟩ := exists_of_savedRow hrow
  obtain ⟨hr, hc⟩ : k.1 = b.row ∧ k.2 = b.col := Prod.mk.inj hseat
  rw [hr, hc] at hx ⊢
  rw [h x hx, Cell.row_ofRow]

/-- A loaded map shows what is settled in the table. -/
theorem shows_of_loaded {s : SeatMap} (h : Loaded flightInformation t s)
    {b : BookingInformation} (hb : RowTable.Settled seat b t) : ShowsBooking b s := by
  intro x hx
  have heq := h.cell_eq b.row b.col x hx
  have hlast : (seatRows t b.row b.col).getLast? = some b := hb.getLast?
  rwa [SeatMap.loadedCell, hlast] at heq

/-- What a move can make of a session and of the table, and what it confirms. -/
inductive Moved (t : List BookingInformation) (party : Party) (move : Move) :
    Party → List BookingInformation → List BookingInformation → Prop
  | load {party' : Party} (hloads : party.loads move = true) (hstores : party.stores move = [])
      (hwrites : party.writes move = none)
      (hsaving : ∀ session loop b, party' ≠ .saving session loop b)
      (hshows : ∀ b, RowTable.Settled seat b t → party'.Shows b) :
      Moved t party move party' [] t
  | keep {party' : Party} (hloads : party.loads move = false) (hstores : party.stores move = [])
      (hwrites : party.writes move = none)
      (hsaving : ∀ session loop b, party' = .saving session loop b →
        party = party' ∨ b.seat ∈ loop.pending)
      (hshows : ∀ b, party.Shows b → party'.Shows b) :
      Moved t party move party' [] t
  | confirm {session : Session} {loop : SaveLoop} {b : BookingInformation}
      (hparty : party = .saving session loop b) (hmove : move = .transact)
      (hpending : loop.pending = []) :
      Moved t party move (.idle session) [b] t
  | save {session : Session} {loop : SaveLoop} {b : BookingInformation} {k : ℤ × ℤ}
      {rest : List (ℤ × ℤ)} (hparty : party = .saving session loop b) (hmove : move = .transact)
      (hpending : loop.pending = k :: rest) :
      Moved t party move (.saving session { loop with pending := rest } b) []
        ((savedRow loop.seatMap (fun _ => .committed) k).elim t fun row =>
          RowTable.upsert seat row t)

section Moves

variable {db : Database}

theorem select_inv {session session' : Session}
    (ht : db.bookingTable ("Booking" ++ flightInformation.flightID) = some t)
    (hselect : selectPressed .succeed db flightInformation session = .ok session') :
    IdleInv flightInformation session' ∧
      ∀ b, RowTable.Settled seat b t → (Party.idle session').Shows b := by
  obtain ⟨flight, rfl, hid, hload⟩ := selectPressed_ok hselect
  obtain ⟨bookingInfos, hread, loaded⟩ := SeatMap.freshLoad_ok hload
  cases getBookingsInfo_eq_table ht hread
  refine ⟨⟨?_, ?_⟩, ?_⟩
  · intro _ hflight
    cases hflight
    exact loaded.valid
  · intro _ hflight
    cases hflight
    exact hid
  · intro b hb _ hflight
    cases hflight
    exact shows_of_loaded loaded hb

/-- The Book button takes an available seat and begins its save, or keeps the session. -/
theorem beginBooking_cases {session : Session} {flight : Flight} {name : String}
    (email maxLoad : String) (h : IdleInv flightInformation session)
    (hactive : session.activeFlight = some flight) (hname : name ≠ "") :
    beginBooking session flight name email maxLoad = .idle session ∨
    ∃ session' loop b, beginBooking session flight name email maxLoad = .saving session' loop b ∧
      SavingInv flightInformation session' loop b ∧ b.seat ∈ loop.pending ∧
      ∀ b', (Party.idle session).Shows b' → ShowsBooking b' loop.seatMap := by
  have hvalid := h.valid flight hactive
  obtain ⟨⟨r, c⟩, hselected⟩ : ∃ seat, session.selectedRowCol = seat := ⟨_, rfl⟩
  by_cases hin : flight.seatMap.InRange r c
  · obtain ⟨x, hx⟩ := hvalid.shaped.exists_cell r c hin
    cases havail : x.available with
    | false =>
      left
      simp only [beginBooking, hselected, hvalid.shaped.bookSeat_of_taken hx havail]
    | true =>
      right
      simp only [beginBooking, hselected, hvalid.shaped.bookSeat_of_available hx havail]
      have hcell := SeatMap.cell?_putCell_self flight.seatMap hx (Cell.taken name email maxLoad)
      have hput := hvalid.putTaken r c name email maxLoad
      have hseat : (r, c) ∈ (flight.seatMap.putCell r c (Cell.taken name email maxLoad)).seats :=
        (mem_seats _ r c).mpr (hput.shaped.inRange_of_cell? hcell)
      refine ⟨_, _, _, rfl, ⟨⟨_, rfl, rfl, h.id_eq flight hactive⟩, ?_, hput, fun _ hk => hk,
        nodup_seats _, hname, hcell⟩, hseat, ?_⟩
      · simp only [SaveLoop.begin, generateBookingTableName, h.id_eq flight hactive]
      · intro b' hshows
        exact (hshows flight hactive).putCell hx havail _
  · left
    simp only [beginBooking, hselected, SeatMap.bookSeat_of_not_inRange hin]

theorem SavingInv.transact {session : Session} {loop : SaveLoop} {b : BookingInformation}
    {k : ℤ × ℤ} {rest : List (ℤ × ℤ)} (h : SavingInv flightInformation session loop b)
    (ht : db.bookingTable ("Booking" ++ flightInformation.flightID) = some t)
    (hpending : loop.pending = k :: rest) :
    loop.step .committed db = (db.setBookingTable ("Booking" ++ flightInformation.flightID)
      ((savedRow loop.seatMap (fun _ => .committed) k).elim t fun row =>
        RowTable.upsert seat row t), some { loop with pending := rest }) ∧
    SavingInv flightInformation session { loop with pending := rest } b := by
  have hk : k ∈ loop.pending := hpending ▸ List.mem_cons_self
  have hnodup := hpending ▸ h.nodup
  have hseat := insertBookingSeat_eq h.valid.shaped (fun _ => .committed) (h.inside k hk)
    (Or.inl rfl) ht
  constructor
  · simp only [SaveLoop.step, hpending, h.table, hseat]
  · exact { h with
      inside := fun k' hk' => h.inside k' (hpending ▸ List.mem_cons_of_mem k hk')
      nodup := (List.nodup_cons.mp hnodup).2 }

/-- The row a save writes at the seat being booked is the booking. -/
theorem SavingInv.savedRow_self {session : Session} {loop : SaveLoop} {b : BookingInformation}
    (h : SavingInv flightInformation session loop b) :
    savedRow loop.seatMap (fun _ => .committed) b.seat = some b :=
  savedRow_eq_some h.booked h.named rfl

theorem SavingInv.finish {session : Session} {loop : SaveLoop} {b : BookingInformation}
    (h : SavingInv flightInformation session loop b) : IdleInv flightInformation session := by
  obtain ⟨flight, hactive, hmap, hid⟩ := h.active
  constructor
  · intro flight' hactive'
    cases Option.some.inj (hactive.symm.trans hactive')
    exact hmap ▸ h.valid
  · intro flight' hactive'
    cases Option.some.inj (hactive.symm.trans hactive')
    exact hid

theorem move_cases {party : Party} (move : Move) (h : PartyInv flightInformation party)
    (ht : db.bookingTable ("Booking" ++ flightInformation.flightID) = some t)
    (hnamed : ∀ name email maxLoad, move = .book name email maxLoad → name ≠ "") :
    ∃ db' party' confirmed t', party.move flightInformation db move = (db', party', confirmed) ∧
      db'.bookingTable ("Booking" ++ flightInformation.flightID) = some t' ∧
      PartyInv flightInformation party' ∧ Moved t party move party' confirmed t' := by
  have hstay : party.loads move = false → party.stores move = [] → party.writes move = none →
      ∃ db' party' confirmed t', (db, party, ([] : List BookingInformation)) =
          (db', party', confirmed) ∧
        db'.bookingTable ("Booking" ++ flightInformation.flightID) = some t' ∧
        PartyInv flightInformation party' ∧ Moved t party move party' confirmed t' :=
    fun hloads hstores hwrites => ⟨db, party, [], t, rfl, ht, h,
      .keep hloads hstores hwrites (fun _ _ _ _ => .inl rfl) fun _ hshows => hshows⟩
  cases party with
  | ended e => exact hstay rfl rfl rfl
  | idle session =>
    cases move with
    | transact => exact hstay rfl rfl rfl
    | selectFlight =>
      simp only [Party.move]
      split
      · next session' hselect =>
        obtain ⟨hinv, hshows⟩ := select_inv ht hselect
        exact ⟨db, .idle session', [], t, rfl, ht, hinv,
          .load rfl rfl rfl (fun _ _ _ heq => by cases heq) hshows⟩
      · next e _ =>
        exact ⟨db, .ended e, [], t, rfl, ht, trivial,
          .load rfl rfl rfl (fun _ _ _ heq => by cases heq) fun _ _ => trivial⟩
    | clickSeat i j =>
      simp only [Party.move]
      split
      · next flight hactive =>
        unfold seatPressed
        split
        · exact ⟨db, _, [], t, rfl, ht, ⟨h.valid, h.id_eq⟩,
            .keep rfl rfl rfl (fun _ _ _ heq => by cases heq) fun _ hshows => hshows⟩
        · exact hstay rfl rfl rfl
      · exact hstay rfl rfl rfl
    | book name email maxLoad =>
      simp only [Party.move]
      split
      · next flight hactive =>
        rcases beginBooking_cases email maxLoad h hactive (hnamed name email maxLoad rfl) with
          hsame | ⟨session', loop, b, hbegin, hinv, hpending, hshows⟩
        · rw [hsame]
          exact hstay rfl rfl rfl
        · rw [hbegin]
          refine ⟨db, _, [], t, rfl, ht, hinv, .keep rfl rfl rfl ?_ hshows⟩
          intro _ _ _ heq
          cases heq
          exact .inr hpending
      · exact hstay rfl rfl rfl
  | saving session loop b =>
    cases move with
    | transact =>
      cases hpending : loop.pending with
      | nil =>
        exact ⟨db, .idle session, [b], t, by simp only [Party.move, hpending], ht, h.finish,
          .confirm rfl rfl hpending⟩
      | cons k rest =>
        obtain ⟨hstep, hinv⟩ := SavingInv.transact h ht hpending
        exact ⟨_, .saving session { loop with pending := rest } b, [], _,
          by simp only [Party.move, hpending, hstep],
          db.bookingTable_setBookingTable_self _ ht _, hinv, .save rfl rfl hpending⟩
    | selectFlight => exact hstay rfl rfl rfl
    | clickSeat i j => exact hstay rfl rfl rfl
    | book name email maxLoad => exact hstay rfl rfl rfl

end Moves

section Moved

variable {party party' : Party} {move : Move} {b : BookingInformation}
  {confirmed t' : List BookingInformation}

theorem Party.Shows.writes_eq (h : party.Shows b) {row : BookingInformation}
    (hrow : party.writes move = some row) (hseat : row.seat = b.seat) : row = b := by
  unfold Party.writes at hrow
  split at hrow
  · next session loop booking =>
    obtain ⟨k, _, hsaved⟩ := Option.bind_eq_some_iff.mp hrow
    exact ShowsBooking.savedRow_eq h hsaved hseat
  · contradiction

theorem Party.loads_of_stores (hb : b ∈ party.stores move) : party.loads move = false := by
  unfold Party.stores at hb
  split at hb
  · rfl
  · contradiction

theorem Moved.settled (h : Moved t party move party' confirmed t')
    (hb : RowTable.Settled seat b t)
    (hrow : ∀ row ∈ party.writes move, row.seat = b.seat → row = b) :
    RowTable.Settled seat b t' := by
  cases h with
  | load _ _ _ _ _ => exact hb
  | keep _ _ _ _ _ => exact hb
  | confirm _ _ _ => exact hb
  | save hparty hmove hpending =>
    next session loop booking k rest =>
    cases hsaved : savedRow loop.seatMap (fun _ => .committed) k with
    | none => exact hb
    | some row =>
      apply hb.upsert
      apply hrow
      simp [Party.writes, hparty, hmove, hpending, hsaved]

/-- The booking that stores its seat is alone there afterwards. -/
theorem Moved.settled_of_stores (h : Moved t party move party' confirmed t')
    (hinv : PartyInv flightInformation party) (hb : b ∈ party.stores move) :
    RowTable.Settled seat b t' := by
  cases h with
  | load _ hstores _ _ _ => simp [hstores] at hb
  | keep _ hstores _ _ _ => simp [hstores] at hb
  | confirm hparty hmove hpending => simp [Party.stores, hparty, hmove, hpending] at hb
  | save hparty hmove hpending =>
    next session loop booking k rest =>
    subst hparty hmove
    have hown : k = booking.seat ∧ b = booking := by
      simpa [Party.stores, hpending] using hb
    obtain ⟨rfl, rfl⟩ := hown
    rw [SavingInv.savedRow_self hinv]
    exact RowTable.settled_upsert_self b t

theorem Moved.settled_of_writes (h : Moved t party move party' confirmed t')
    (hb : b ∈ party.writes move) : RowTable.Settled seat b t' := by
  cases h with
  | load _ _ hwrites _ _ => simp [hwrites] at hb
  | keep _ _ hwrites _ _ => simp [hwrites] at hb
  | confirm hparty hmove hpending => simp [Party.writes, hparty, hmove, hpending] at hb
  | save hparty hmove hpending =>
    subst hparty hmove
    obtain ⟨k, hk, hsaved⟩ := Option.bind_eq_some_iff.mp hb
    rw [hpending] at hk
    cases hk
    rw [hsaved]
    exact RowTable.settled_upsert_self b t

/-- A save that is past the seat of its booking has just stored it, or was past it before. -/
theorem Moved.stores_or_saved {session : Session} {loop : SaveLoop}
    (h : Moved t party move (.saving session loop b) confirmed t')
    (hdone : b.seat ∉ loop.pending) :
    b ∈ party.stores move ∨
      ∃ loop', party = .saving session loop' b ∧ b.seat ∉ loop'.pending := by
  cases h with
  | load _ _ _ hidle _ => exact absurd rfl (hidle session loop b)
  | keep _ _ _ hkeep _ =>
    rcases hkeep session loop b rfl with hsame | hpending
    · exact .inr ⟨loop, hsame, hdone⟩
    · exact absurd hpending hdone
  | save hparty hmove hpending =>
    next loop₀ k rest =>
    by_cases hown : k = b.seat
    · left
      simp [hparty, hmove, Party.stores, hpending, hown]
    · right
      refine ⟨loop₀, hparty, ?_⟩
      rw [hpending, List.mem_cons, not_or]
      exact ⟨Ne.symm hown, hdone⟩

/-- A booking is confirmed at the end of its save. -/
theorem Moved.saved_of_confirmed (h : Moved t party move party' confirmed t')
    (hb : b ∈ confirmed) :
    ∃ session loop, party = .saving session loop b ∧ loop.pending = [] := by
  cases h with
  | confirm hparty _ hpending =>
    cases List.mem_singleton.mp hb
    exact ⟨_, _, hparty, hpending⟩
  | _ => contradiction

/-- A copy goes on showing what is settled, and a new copy shows it. -/
theorem Moved.shows (h : Moved t party move party' confirmed t')
    (hinv : PartyInv flightInformation party) (hb : RowTable.Settled seat b t)
    (hshows : party.loads move = false → party.Shows b) : party'.Shows b := by
  cases h with
  | load _ _ _ _ hload => exact hload b hb
  | keep hloads _ _ _ hkeep => exact hkeep b (hshows hloads)
  | confirm hparty hmove _ =>
    subst hparty hmove
    obtain ⟨flight, hactive, hmap, _⟩ := hinv.active
    intro flight' hactive'
    cases Option.some.inj (hactive.symm.trans hactive')
    rw [hmap]
    exact hshows rfl
  | save hparty hmove _ =>
    subst hparty hmove
    exact hshows rfl

end Moved

/-- What holds in every state of every run. -/
structure WorldInv (flightInformation : FlightInformation) (world : World ι)
    (t : List BookingInformation) : Prop where
  table : world.db.bookingTable ("Booking" ++ flightInformation.flightID) = some t
  parties : ∀ i, PartyInv flightInformation (world.parties i)
  loadedAt : ∀ i, world.loadedAt i ≤ world.stored.length
  saved : ∀ i session loop b, world.parties i = .saving session loop b →
    b.seat ∉ loop.pending → b ∈ world.stored
  confirmed : ∀ b ∈ world.confirmed, b ∈ world.stored

/-- From the transaction that stores b on, b is alone at its seat in the table, and
a copy shows it there or was loaded before. -/
def Retained (b : BookingInformation) (world : World ι) (t : List BookingInformation) : Prop :=
  b ∈ world.stored → RowTable.Settled seat b t ∧
    ∀ i, b ∈ world.storedSince i ∨ (world.parties i).Shows b

section Step

variable {world : World ι} {move : ι × Move}

/-- The world after a move, from what the move makes of its session. -/
theorem step_cases (h : WorldInv flightInformation world t)
    (hnamed : ∀ name email maxLoad, move.2 = .book name email maxLoad → name ≠ "") :
    ∃ party' confirmed t',
      (step flightInformation world move).db.bookingTable
        ("Booking" ++ flightInformation.flightID) = some t' ∧
      (step flightInformation world move).parties =
        Function.update world.parties move.1 party' ∧
      (step flightInformation world move).confirmed = confirmed ++ world.confirmed ∧
      PartyInv flightInformation party' ∧
      Moved t (world.parties move.1) move.2 party' confirmed t' := by
  obtain ⟨db', party', confirmed, t', hmove, ht', hparty, hmoved⟩ :=
    move_cases move.2 (h.parties move.1) h.table hnamed
  exact ⟨party', confirmed, t', by simpa only [step, hmove] using ht', by simp only [step, hmove],
    by simp only [step, hmove], hparty, hmoved⟩

theorem step_stored (flightInformation : FlightInformation) (world : World ι) (move : ι × Move) :
    (step flightInformation world move).stored =
      world.stored ++ (world.parties move.1).stores move.2 := rfl

/-- A session forgets what was stored since its load only when it loads again. -/
theorem WorldInv.storedSince_step (h : WorldInv flightInformation world t) {i : ι}
    (hi : i = move.1 → (world.parties move.1).loads move.2 = false) :
    (step flightInformation world move).storedSince i =
      world.storedSince i ++ (world.parties move.1).stores move.2 := by
  have hsame : (step flightInformation world move).loadedAt i = world.loadedAt i := by
    simp only [Confirmation.step]
    split
    · next hloads =>
      apply Function.update_of_ne
      intro hmover
      rw [hi hmover] at hloads
      contradiction
    · rfl
  rw [World.storedSince, hsame, step_stored]
  exact List.drop_append_of_le_length (h.loadedAt i)

/-- No copy was loaded after more bookings than have stored their seat. -/
theorem WorldInv.loadedAt_step (h : WorldInv flightInformation world t) (i : ι) :
    (step flightInformation world move).loadedAt i ≤
      (step flightInformation world move).stored.length := by
  have hle := h.loadedAt i
  simp only [Confirmation.step, List.length_append]
  split
  · by_cases hi : i = move.1
    · subst hi
      rw [Function.update_self]
      omega
    · rw [Function.update_of_ne hi]
      omega
  · omega

theorem WorldInv.step (h : WorldInv flightInformation world t)
    (hnamed : ∀ name email maxLoad, move.2 = .book name email maxLoad → name ≠ "") :
    ∃ t', WorldInv flightInformation (step flightInformation world move) t' := by
  obtain ⟨party', confirmed, t', ht', hparties, hconfirmed, hparty, hmoved⟩ :=
    step_cases h hnamed
  refine ⟨t', ht', ?_, h.loadedAt_step, ?_, ?_⟩
  · rw [hparties]
    apply (Function.forall_update_iff world.parties fun _ party =>
      PartyInv flightInformation party).mpr
    exact ⟨hparty, fun i _ => h.parties i⟩
  · rw [hparties, step_stored]
    apply (Function.forall_update_iff world.parties fun _ party => ∀ session loop b,
      party = .saving session loop b → b.seat ∉ loop.pending →
        b ∈ world.stored ++ (world.parties move.1).stores move.2).mpr
    constructor
    · rintro session loop b rfl hdone
      rcases hmoved.stores_or_saved hdone with hnew | ⟨loop', hbefore, hdone'⟩
      · exact List.mem_append_right _ hnew
      · exact List.mem_append_left _ (h.saved move.1 session loop' b hbefore hdone')
    · intro i _ session loop b hsaving hdone
      exact List.mem_append_left _ (h.saved i session loop b hsaving hdone)
  · intro b hb
    rw [hconfirmed] at hb
    rw [step_stored]
    apply List.mem_append_left
    rcases List.mem_append.mp hb with hnew | hold
    · obtain ⟨session, loop, hbefore, hpending⟩ := hmoved.saved_of_confirmed hnew
      exact h.saved move.1 session loop b hbefore (by simp [hpending])
    · exact h.confirmed b hold

theorem Retained.step {b : BookingInformation} (hb : Retained b world t)
    (h : WorldInv flightInformation world t)
    (hnamed : ∀ name email maxLoad, move.2 = .book name email maxLoad → name ≠ "")
    (hfresh : NoStaleSave b world move) :
    ∃ t', WorldInv flightInformation (step flightInformation world move) t' ∧
      Retained b (step flightInformation world move) t' := by
  obtain ⟨t', hinv⟩ := h.step hnamed
  obtain ⟨party', confirmed, t'', ht'', hparties, _, _, hmoved⟩ := step_cases h hnamed
  cases Option.some.inj (hinv.table.symm.trans ht'')
  refine ⟨t', hinv, ?_⟩
  intro hstored
  by_cases hnew : b ∈ (world.parties move.1).stores move.2
  · refine ⟨hmoved.settled_of_stores (h.parties move.1) hnew, ?_⟩
    intro i
    left
    rw [h.storedSince_step fun _ => Party.loads_of_stores hnew]
    exact List.mem_append_right _ hnew
  · rw [step_stored, List.mem_append, or_iff_left hnew] at hstored
    obtain ⟨hsettled, hcopies⟩ := hb hstored
    constructor
    · apply hmoved.settled hsettled
      intro row hrow hseat
      rcases hcopies move.1 with hsince | hshows
      · exact hfresh row hrow hseat hsince
      · exact hshows.writes_eq hrow hseat
    · intro i
      rw [hparties]
      by_cases hi : i = move.1
      · subst hi
        rw [Function.update_self]
        cases hloads : (world.parties move.1).loads move.2 with
        | true => exact .inr (hmoved.shows (h.parties move.1) hsettled (by simp [hloads]))
        | false =>
          rw [h.storedSince_step fun _ => hloads]
          rcases hcopies move.1 with hsince | hshows
          · exact .inl (List.mem_append_left _ hsince)
          · exact .inr (hmoved.shows (h.parties move.1) hsettled fun _ => hshows)
      · rw [Function.update_of_ne hi, h.storedSince_step fun hmover => absurd hmover hi]
        exact (hcopies i).imp_left (List.mem_append_left _)

end Step

theorem mem_confirmed_run (flightInformation : FlightInformation) {world : World ι}
    {b : BookingInformation} (hb : b ∈ world.confirmed) (moves : List (ι × Move)) :
    b ∈ (Run.run (step flightInformation) world moves).confirmed := by
  induction moves generalizing world with
  | nil => exact hb
  | cons move moves ih => exact ih (List.mem_append_right _ hb)

omit [DecidableEq ι] in
theorem kept_of_settled {world : World ι}
    (h : ∀ b ∈ world.confirmed, ∃ t,
      world.db.bookingTable ("Booking" ++ flightInformation.flightID) = some t ∧
        RowTable.Settled seat b t) : Kept flightInformation world := by
  refine ⟨h, ?_⟩
  intro b hb b' hb' hseat
  obtain ⟨t, ht, hsettled⟩ := h b hb
  obtain ⟨t', ht', hsettled'⟩ := h b' hb'
  cases Option.some.inj (ht.symm.trans ht')
  exact hsettled.eq_of_key hsettled' hseat

section Runs

variable (db : Database) (moves : List (ι × Move))

omit [DecidableEq ι] in
theorem worldInv_start
    (ht : db.bookingTable ("Booking" ++ flightInformation.flightID) = some t) :
    WorldInv flightInformation (World.start ι db) t := by
  refine ⟨ht, ?_, fun _ => le_rfl, ?_, ?_⟩
  · intro i
    refine ⟨Session.valid_start, ?_⟩
    intro flight hactive
    contradiction
  · intro i session loop b hsaving
    cases hsaving
  · intro b hb
    contradiction

theorem worldInv_run
    (ht : db.bookingTable ("Booking" ++ flightInformation.flightID) = some t)
    (hnamed : ∀ i name email maxLoad, (i, Move.book name email maxLoad) ∈ moves → name ≠ "") :
    Run.Throughout (step flightInformation) (fun world => ∃ t, WorldInv flightInformation world t)
      (World.start ι db) moves := by
  apply Run.throughout_of_forall (step flightInformation)
    (fun world : World ι => ∃ t, WorldInv flightInformation world t)
    (fun move => ∀ name email maxLoad, move.2 = .book name email maxLoad → name ≠ "")
  · intro world move h hmove
    obtain ⟨t, hinv⟩ := h
    exact hinv.step hmove
  · exact ⟨t, worldInv_start db ht⟩
  · intro move hmem name email maxLoad hbook
    apply hnamed move.1 name email maxLoad
    rw [← hbook]
    exact hmem

theorem retained_run {b : BookingInformation}
    (ht : db.bookingTable ("Booking" ++ flightInformation.flightID) = some t)
    (hnamed : ∀ i name email maxLoad, (i, Move.book name email maxLoad) ∈ moves → name ≠ "")
    (hfresh : Run.EveryStep (step flightInformation) (NoStaleSave b) (World.start ι db) moves) :
    Run.Throughout (step flightInformation)
      (fun world => ∃ t, WorldInv flightInformation world t ∧ Retained b world t)
      (World.start ι db) moves := by
  apply Run.throughout_of_everyStep (step flightInformation)
    (fun world : World ι => ∃ t, WorldInv flightInformation world t ∧ Retained b world t)
    (fun world move => NoStaleSave b world move ∧
      ∀ name email maxLoad, move.2 = .book name email maxLoad → name ≠ "")
  · intro world move h hC
    obtain ⟨t, hinv, hb⟩ := h
    exact hb.step hinv hC.2 hC.1
  · exact ⟨t, worldInv_start db ht, fun hb => by contradiction⟩
  · intro pre move hpre
    refine ⟨hfresh pre move hpre, ?_⟩
    intro name email maxLoad hbook
    apply hnamed move.1 name email maxLoad
    rw [← hbook]
    exact hpre.subset (List.mem_append_right _ (List.mem_singleton_self move))

end Runs

end AirlineReservation.Confirmation
