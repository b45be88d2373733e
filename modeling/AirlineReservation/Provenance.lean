import AirlineReservation.EditBuffers
import AirlineReservation.SharedWindows

/-!
Where the bookings come from. However the frames and transactions of any number
of windows interleave, every stored row and every taken seat is, with all its
texts, one that was stored at the start or one that Book took from its buffers.
Update adds nothing: its texts are cut at their first NUL, but never mixed.
-/

namespace AirlineReservation.Provenance

open Frames SharedWindows BookingInformation
open Interleaving (SaveLoop)

section Kind

variable (P : List Char → BookingInformation → Prop)

/-- Every stored row is one of these, under the key of its table. -/
def Stored (db : Database) : Prop := ∀ key t, db.bookings key = some t → ∀ b ∈ t, P key b

/-- The map is valid, and its taken seats are bookings of this kind. -/
structure Shown (tableName : String) (s : SeatMap) : Prop where
  valid : s.Valid
  taken : ∀ key, tableKey tableName = some key → ∀ r c x, s.cell? r c = some x →
    x.available = false → P key (x.row r c)

def ShownIn (session : Session) : Prop :=
  ∀ flight, session.activeFlight = some flight →
    Shown P ("Booking" ++ flight.flightID) flight.seatMap

/-- What a call leaves in the tables, and what it returns. -/
structure Keeps {α : Type*} (Q : α → Prop) (result : Database × Except Fault α) : Prop where
  stored : Stored P result.1
  returned : ∀ a, result.2 = .ok a → Q a

end Kind

variable {P : List Char → BookingInformation → Prop}

theorem Keeps.error {α : Type*} {Q : α → Prop} {db : Database} (h : Stored P db) (e : Fault) :
    Keeps P Q (db, .error e) :=
  ⟨h, fun _ heq => by contradiction⟩

theorem Keeps.ok {α : Type*} {Q : α → Prop} {db : Database} {a : α} (h : Stored P db) (ha : Q a) :
    Keeps P Q (db, .ok a) :=
  ⟨h, fun _ heq => by cases heq; exact ha⟩

theorem Keeps.mono {α : Type*} {Q R : α → Prop} {result : Database × Except Fault α}
    (h : Keeps P Q result) (himp : ∀ a, Q a → R a) : Keeps P R result :=
  ⟨h.stored, fun a ha => himp a (h.returned a ha)⟩

section Mono

variable {Q : List Char → BookingInformation → Prop} (himp : ∀ key b, P key b → Q key b)
include himp

theorem Stored.mono {db : Database} (h : Stored P db) : Stored Q db :=
  fun key t ht b hb => himp key b (h key t ht b hb)

theorem Shown.mono {tableName : String} {s : SeatMap} (h : Shown P tableName s) :
    Shown Q tableName s :=
  ⟨h.valid, fun key hkey r c x hx htaken => himp key _ (h.taken key hkey r c x hx htaken)⟩

theorem ShownIn.mono {session : Session} (h : ShownIn P session) : ShownIn Q session :=
  fun flight hactive => (h flight hactive).mono himp

end Mono

section Maps

variable {tableName : String} {s s' : SeatMap} {r c : ℤ} {name email maxLoad : String}
  (h : Shown P tableName s)
include h

theorem Shown.putTaken
    (hnew : ∀ key, tableKey tableName = some key → P key ⟨name, email, maxLoad, r, c⟩) :
    Shown P tableName (s.putCell r c (Cell.taken name email maxLoad)) := by
  refine ⟨h.valid.putTaken r c _ _ _, ?_⟩
  intro key hkey r' c' x hx htaken
  by_cases hseat : (r', c') = (r, c)
  · obtain ⟨rfl, rfl⟩ := Prod.mk.inj hseat
    rw [SeatMap.cell?_putCell, if_pos ⟨rfl, rfl⟩] at hx
    obtain ⟨_, _, rfl⟩ := Option.map_eq_some_iff.mp hx
    exact hnew key hkey
  · rw [SeatMap.cell?_putCell_ne s _ hseat] at hx
    exact h.taken key hkey r' c' x hx htaken

theorem Shown.cancelBooking (hcancel : s.cancelBooking r c = .ok s') : Shown P tableName s' := by
  by_cases hin : s.InRange r c
  · rw [h.valid.shaped.cancelBooking_of_inRange hin] at hcancel
    cases hcancel
    refine ⟨h.valid.putFree r c, ?_⟩
    intro key hkey r' c' x hx htaken
    by_cases hseat : (r', c') = (r, c)
    · obtain ⟨rfl, rfl⟩ := Prod.mk.inj hseat
      rw [SeatMap.cell?_putCell, if_pos ⟨rfl, rfl⟩] at hx
      obtain ⟨_, _, rfl⟩ := Option.map_eq_some_iff.mp hx
      contradiction
    · rw [SeatMap.cell?_putCell_ne s _ hseat] at hx
      exact h.taken key hkey r' c' x hx htaken
  · rw [SeatMap.cancelBooking_of_not_inRange hin] at hcancel
    cases hcancel
    exact h

theorem Shown.bookSeat (hbook : s.bookSeat r c name email maxLoad = .ok (true, s'))
    (hnew : s.isSeatAvailable r c = .ok true →
      ∀ key, tableKey tableName = some key → P key ⟨name, email, maxLoad, r, c⟩) :
    Shown P tableName s' := by
  by_cases hin : s.InRange r c
  · obtain ⟨x, hx⟩ := h.valid.shaped.exists_cell r c hin
    have havailable := h.valid.shaped.isSeatAvailable hx
    cases hfree : x.available with
    | true =>
      rw [h.valid.shaped.bookSeat_of_available hx hfree] at hbook
      rw [hfree] at havailable
      cases hbook
      exact h.putTaken (hnew havailable)
    | false =>
      rw [h.valid.shaped.bookSeat_of_taken hx hfree] at hbook
      cases hbook
  · rw [SeatMap.bookSeat_of_not_inRange hin] at hbook
    cases hbook

/-- `CancelBooking` and `BookSeat` of the Update button. -/
theorem Shown.update {booked : Bool}
    (hupdate : (s.cancelBooking r c >>= fun s => s.bookSeat r c name email maxLoad) =
      .ok (booked, s'))
    (hnew : s.InRange r c →
      ∀ key, tableKey tableName = some key → P key ⟨name, email, maxLoad, r, c⟩) :
    Shown P tableName s' := by
  by_cases hin : s.InRange r c
  · rw [h.valid.shaped.cancelBooking_bookSeat hin] at hupdate
    cases hupdate
    exact h.putTaken (hnew hin)
  · obtain ⟨cancelled, hcancel, hbook⟩ := exists_of_bind_ok hupdate
    rw [SeatMap.cancelBooking_of_not_inRange hin] at hcancel
    cases hcancel
    rw [SeatMap.bookSeat_of_not_inRange hin] at hbook
    cases hbook
    exact h

end Maps

section Tables

variable {db : Database} (h : Stored P db)
include h

theorem Stored.of_bookingTable {tableName : String} {t : List BookingInformation}
    (ht : db.bookingTable tableName = some t) {key : List Char}
    (hkey : tableKey tableName = some key) : ∀ b ∈ t, P key b := by
  rw [Database.bookingTable, hkey] at ht
  exact h key t ht

theorem Stored.setBookingTable {tableName : String} {t : List BookingInformation}
    (ht : ∀ key, tableKey tableName = some key → ∀ b ∈ t, P key b) :
    Stored P (db.setBookingTable tableName t) := by
  intro key t' ht'
  unfold Database.setBookingTable at ht'
  split at ht'
  · exact h key t' ht'
  · next name hname =>
    simp only at ht'
    by_cases hkey : key = name
    · subst hkey
      rw [Function.update_self] at ht'
      cases ht'
      exact ht key hname
    · rw [Function.update_of_ne hkey] at ht'
      exact h key t' ht'

/-- A load shows rows of the table only. -/
theorem Stored.freshLoad {flightInfo : FlightInformation} {outcome : RetrievalOutcome}
    {s : SeatMap} (hload : SeatMap.freshLoad db flightInfo outcome = .ok s) :
    Shown P ("Booking" ++ flightInfo.flightID) s := by
  obtain ⟨bookingInfos, hread, loaded⟩ := SeatMap.freshLoad_ok hload
  refine ⟨loaded.valid, ?_⟩
  intro key hkey r c x hx htaken
  have hcell := loaded.cell_eq r c x hx
  unfold SeatMap.loadedCell at hcell
  cases hlast : (seatRows bookingInfos r c).getLast? with
  | none =>
    rw [hlast] at hcell
    rw [hcell] at htaken
    contradiction
  | some b =>
    have hrow := (RowTable.mem_rowsAt seat (r, c) bookingInfos b).mp (List.mem_of_getLast? hlast)
    obtain ⟨hb, hseat⟩ := hrow
    obtain ⟨rfl, rfl⟩ := Prod.mk.inj hseat
    rw [hlast] at hcell
    subst hcell
    rcases getBookingsInfo_result hread with rfl | ⟨t, ht, hinitial⟩
    · contradiction
    · exact h.of_bookingTable ht hkey b (hinitial.subset hb)

end Tables

/-- A seat that has a name is taken, and its texts are read together. -/
theorem Shown.of_texts {tableName : String} {s : SeatMap} (h : Shown P tableName s)
    {b : BookingInformation} (hnamed : b.name ≠ "")
    (hname : element s.passengerMap b.row b.col = .ok b.name)
    (hemail : s.getEmail b.row b.col = .ok b.email)
    (hmaxLoad : s.getMaxLoad b.row b.col = .ok b.maxLoad) {key : List Char}
    (hkey : tableKey tableName = some key) : P key b := by
  have hread : Grid.read s.passengerMap b.row b.col = some b.name := by
    unfold element at hname
    split at hname
    · next v hv => rw [hv, Except.ok.inj hname]
    · contradiction
  have hin : s.InRange b.row b.col := by
    rw [s.inRange_iff_bounds]
    exact (h.valid.shaped.passenger.isSome_read_iff _ _).mp (Option.isSome_of_eq_some hread)
  obtain ⟨x, hx⟩ := h.valid.shaped.exists_cell b.row b.col hin
  have hxname : x.name = b.name :=
    Option.some.inj (((SeatMap.cell?_eq_some_iff s _ _ x).mp hx).2.1.symm.trans hread)
  have hxemail : x.email = b.email :=
    Except.ok.inj ((h.valid.shaped.getEmail hx).symm.trans hemail)
  have hxmaxLoad : x.maxLoad = b.maxLoad :=
    Except.ok.inj ((h.valid.shaped.getMaxLoad hx).symm.trans hmaxLoad)
  have htaken : x.available = false := by
    by_contra hfree
    rw [h.valid.cleared _ _ x hx (by simpa using hfree)] at hxname
    exact hnamed hxname.symm
  have hrow := h.taken key hkey b.row b.col x hx htaken
  rwa [Cell.row, hxname, hxemail, hxmaxLoad] at hrow

section Saves

variable {db : Database} (h : Stored P db) {tableName : String}
include h

/-- The row that a transaction commits is a taken seat of the map. -/
theorem Stored.insertBookingSeat {s : SeatMap} (hs : Shown P tableName s)
    (outcome : TransactionOutcome) (k : ℤ × ℤ) :
    Stored P (insertBookingSeat s tableName outcome k db).1 := by
  rcases insertBookingSeat_db s db tableName outcome k with
    hsame | ⟨t, b, ht, _, hseat, hnamed, hname, hemail, hmaxLoad, hset⟩
  · rwa [hsame]
  · rw [hset]
    refine h.setBookingTable ?_
    intro key hkey b' hb'
    rcases RowTable.mem_upsert _ b b' t hb' with rfl | hold
    · subst hseat
      exact hs.of_texts hnamed hname hemail hmaxLoad hkey
    · exact h.of_bookingTable ht hkey b' hold

theorem Stored.insertBookingLoop {s : SeatMap} (hs : Shown P tableName s)
    (outcome : ℤ × ℤ → TransactionOutcome) (seats : List (ℤ × ℤ)) :
    Stored P (insertBookingLoop s tableName outcome seats db).1 := by
  induction seats generalizing db with
  | nil => exact h
  | cons k rest ih =>
    have hseat := h.insertBookingSeat hs (outcome k) k
    unfold AirlineReservation.insertBookingLoop
    split
    · next db' heq =>
      rw [heq] at hseat
      exact ih hseat
    · next db' e heq =>
      rw [heq] at hseat
      exact hseat

theorem Stored.deleteBookingData (row col : ℤ) (raises : Bool) :
    Stored P (deleteBookingData db tableName row col raises) := by
  cases ht : db.bookingTable tableName with
  | none => rwa [deleteBookingData_missing ht]
  | some t =>
    rw [deleteBookingData_eq ht]
    refine h.setBookingTable ?_
    intro key hkey b hb
    split at hb
    · exact h.of_bookingTable ht hkey b hb
    · exact h.of_bookingTable ht hkey b (List.mem_of_mem_filter hb)

end Saves

section Handlers

variable {db : Database} (h : Stored P db) {flight : Flight} {session : Session}
  (outcomes : SqlOutcomes)
include h

theorem keeps_saveActive {s : SeatMap} (hs : Shown P ("Booking" ++ flight.flightID) s) :
    Keeps P (ShownIn P) (saveActive outcomes db flight s session) := by
  have hsave := h.insertBookingLoop hs outcomes.seat s.seats
  unfold saveActive insertBookingData generateBookingTableName
  simp only
  split
  · next db' heq =>
    rw [heq] at hsave
    refine .ok hsave ?_
    intro flight' hactive
    cases hactive
    exact hs
  · next db' e heq =>
    rw [heq] at hsave
    exact .error hsave e

theorem keeps_selectPressed {flightInformation : FlightInformation} :
    Keeps P (ShownIn P) (db, selectPressed outcomes db flightInformation session) := by
  refine ⟨h, ?_⟩
  intro session' hselect flight' hactive
  obtain ⟨flight, rfl, hid, hload⟩ := selectPressed_ok hselect
  cases hactive
  rw [hid]
  exact h.freshLoad hload

variable (hflight : Shown P ("Booking" ++ flight.flightID) flight.seatMap)
include hflight

theorem keeps_bookPressed (hsession : ShownIn P session) {name email maxLoad : String}
    (hnew : flight.seatMap.isSeatAvailable session.selectedRowCol.1 session.selectedRowCol.2 =
      .ok true → ∀ key, tableKey ("Booking" ++ flight.flightID) = some key →
        P key ⟨name, email, maxLoad, session.selectedRowCol.1, session.selectedRowCol.2⟩) :
    Keeps P (ShownIn P) (bookPressed outcomes db flight session name email maxLoad) := by
  unfold bookPressed
  split
  · exact .error h _
  · exact .ok h hsession
  · next seatMap hbook => exact keeps_saveActive h outcomes (hflight.bookSeat hbook hnew)

theorem keeps_updatePressed {name email maxLoad : String}
    (hnew : flight.seatMap.InRange session.selectedRowCol.1 session.selectedRowCol.2 →
      ∀ key, tableKey ("Booking" ++ flight.flightID) = some key →
        P key ⟨name, email, maxLoad, session.selectedRowCol.1, session.selectedRowCol.2⟩) :
    Keeps P (ShownIn P) (updatePressed outcomes db flight session name email maxLoad) := by
  unfold updatePressed
  simp only
  split
  · exact .error h _
  · next booked seatMap hupdate => exact keeps_saveActive h outcomes (hflight.update hupdate hnew)

theorem keeps_deletePressed : Keeps P (ShownIn P) (deletePressed outcomes db flight session) := by
  unfold deletePressed
  simp only
  split
  · exact .error h _
  · next seatMap hcancel =>
    refine .ok (h.deleteBookingData _ _ _) ?_
    intro flight' hactive
    cases hactive
    exact hflight.cancelBooking hcancel

end Handlers

/-- The booking of a seat with the texts of a panel. -/
def bookingOf (buffers : Buffers) (seat : ℤ × ℤ) : BookingInformation :=
  ⟨buffers.name.text, buffers.email.text, buffers.maxLoad.text, seat.1, seat.2⟩

variable (P) in
/-- If Book is pressed on a free seat, what it takes from the buffers is of the kind. -/
def Enters (input : Input) (gui : Gui) : Prop :=
  input = .pressed .book → ∀ flight key, gui.session.activeFlight = some flight →
    tableKey ("Booking" ++ flight.flightID) = some key →
    flight.seatMap.isSeatAvailable gui.session.selectedRowCol.1 gui.session.selectedRowCol.2 =
      .ok true → P key (bookingOf gui.create gui.session.selectedRowCol)

variable (P) in
/-- If Update is pressed on a taken seat, what the buffers hold is of the kind. -/
def Refilled (input : Input) (gui : Gui) : Prop :=
  input = .pressed .update → ∀ flight key, gui.session.activeFlight = some flight →
    tableKey ("Booking" ++ flight.flightID) = some key →
    ∀ x, flight.seatMap.cell? gui.session.selectedRowCol.1 gui.session.selectedRowCol.2 = some x →
      x.available = false → P key (bookingOf gui.manage gui.session.selectedRowCol)

theorem refilled_of_book {input : Input} (hinput : input = .pressed .book) (gui : Gui) :
    Refilled P input gui := by
  intro hupdate
  cases hinput.symm.trans hupdate

theorem keeps_after {gui : Gui} {result : Database × Except Fault Session}
    (h : Keeps P (ShownIn P) result) :
    Keeps P (fun gui' => ShownIn P gui'.session) (gui.after result) := by
  obtain ⟨db, session⟩ := result
  cases session with
  | error e => exact .error h.stored e
  | ok session => exact .ok h.stored (h.returned session rfl)

theorem keeps_andThen {Q R : Gui → Prop} {result : Database × Except Fault Gui}
    {panel : Database → Gui → Database × Except Fault Gui} (h : Keeps P Q result)
    (hpanel : ∀ db gui, Stored P db → Q gui → Keeps P R (panel db gui)) :
    Keeps P R (andThen result panel) := by
  obtain ⟨db, window⟩ := result
  cases window with
  | error e => exact .error h.stored e
  | ok gui => exact hpanel db gui h.stored (h.returned gui rfl)

section Panels

variable {db : Database} (h : Stored P db) {gui : Gui} (hgui : ShownIn P gui.session)
  (frame : Frame)
include h hgui

theorem keeps_createBookings (henters : Enters P frame.input gui)
    (hrefilled : Refilled P frame.input gui) :
    Keeps P (fun gui' => ShownIn P gui'.session ∧ Refilled P frame.input gui')
      (createBookings frame db gui) := by
  unfold createBookings
  split
  · exact .ok h ⟨hgui, hrefilled⟩
  · next flight hactive =>
    simp only
    split
    · next hinput =>
      refine (keeps_after (keeps_bookPressed h frame.outcomes (hgui flight hactive) hgui ?_)).mono
        fun gui' hgui' => ⟨hgui', refilled_of_book hinput gui'⟩
      intro havailable key hkey
      have hrow := henters hinput flight key hactive hkey havailable
      rw [hinput]
      exact hrow
    · exact .ok h ⟨hgui, hrefilled⟩

theorem keeps_manageBookings (hrefilled : Refilled P frame.input gui) :
    Keeps P (fun gui' => ShownIn P gui'.session) (manageBookings frame db gui) := by
  unfold manageBookings
  split
  · exact .ok h hgui
  · next flight hactive =>
    have hflight := hgui flight hactive
    split
    · exact .error h _
    · exact .ok h hgui
    · next hseat =>
      simp only
      split
      · next hinput =>
        refine keeps_after (keeps_updatePressed h frame.outcomes hflight ?_)
        intro hin key hkey
        obtain ⟨x, hx⟩ := hflight.valid.shaped.exists_cell _ _ hin
        have htaken : x.available = false :=
          Except.ok.inj ((hflight.valid.shaped.isSeatAvailable hx).symm.trans hseat)
        have hrow := hrefilled hinput flight key hactive hkey x hx htaken
        rw [hinput]
        exact hrow
      · exact keeps_after (keeps_deletePressed h frame.outcomes hflight)
      · exact .ok h hgui

theorem keeps_selectFlight (datetimeToInt : String → ℤ) :
    Keeps P (fun gui' => ShownIn P gui'.session) (selectFlight datetimeToInt frame db gui) := by
  unfold selectFlight
  split
  · exact .error h _
  · split
    · split
      · exact keeps_after (keeps_selectPressed h frame.outcomes)
      · exact .ok h hgui
    · exact .ok h hgui

theorem keeps_panels (datetimeToInt : String → ℤ) (henters : Enters P frame.input gui)
    (hrefilled : Refilled P frame.input gui) :
    Keeps P (fun gui' => ShownIn P gui'.session) (panels datetimeToInt frame db gui) := by
  have hbookings := keeps_andThen (keeps_createBookings h hgui frame henters hrefilled)
    fun _ _ h' hgui' => keeps_manageBookings h' hgui'.1 frame hgui'.2
  exact keeps_andThen hbookings fun _ _ h' hgui' => keeps_selectFlight h' hgui' frame datetimeToInt

theorem keeps_afterSave (datetimeToInt : String → ℤ) :
    Keeps P (fun gui' => ShownIn P gui'.session) (afterSave datetimeToInt frame db gui) := by
  unfold afterSave
  split
  · next hinput =>
    refine keeps_andThen (keeps_manageBookings h hgui frame (refilled_of_book hinput gui)) ?_
    exact fun _ _ h' hgui' => keeps_selectFlight h' hgui' frame datetimeToInt
  · exact keeps_selectFlight h hgui frame datetimeToInt

end Panels

/-- The texts up to their first NUL. -/
def cut (b : BookingInformation) : BookingInformation :=
  { b with name := cString b.name, email := cString b.email, maxLoad := cString b.maxLoad }

section Grid

variable {input : Input} {gui gui' : Gui} (hgui : ShownIn P gui.session)
  (hdraw : seatMapGUI input gui = .ok gui')
include hdraw

theorem seatMapGUI_unclicked (hclicked : clicked input = none) :
    gui'.session = gui.session ∧ gui'.create = gui.create := by
  unfold seatMapGUI at hdraw
  split at hdraw
  · obtain ⟨hcreate, hsession⟩ := drawRows_session (by decide) hdraw
    rw [hclicked] at hsession
    exact ⟨hsession, hcreate⟩
  · cases hdraw
    exact ⟨rfl, rfl⟩

theorem Enters.drawn (h : Enters P input gui) : Enters P input gui' := by
  intro hinput
  have hclicked : clicked input = none := by rw [hinput]; rfl
  obtain ⟨hsession, hcreate⟩ := seatMapGUI_unclicked hdraw hclicked
  rw [hsession, hcreate]
  exact h hinput

include hgui

theorem ShownIn.drawn : ShownIn P gui'.session := by
  intro flight hactive
  exact hgui flight ((seatMapGUI_activeFlight hdraw).symm.trans hactive)

/-- A taken seat is selected, so the grid has filled the buffers with its texts. -/
theorem ShownIn.refilled (hcut : ∀ key b, P key b → P key (cut b)) : Refilled P input gui' := by
  intro hinput flight key hactive hkey x hx htaken
  have hclicked : clicked input = none := by rw [hinput]; rfl
  have hsession := (seatMapGUI_unclicked hdraw hclicked).1
  rw [hsession] at hactive hx ⊢
  have hflight := hgui flight hactive
  have hhold := (seatMapGUI_holds hflight.valid.shaped hactive rfl hx htaken hclicked hdraw).2
  have hrow : bookingOf gui'.manage gui.session.selectedRowCol =
      cut (x.row gui.session.selectedRowCol.1 gui.session.selectedRowCol.2) := by
    unfold bookingOf
    rw [show gui'.manage.name.text = cString x.name from hhold .name,
      show gui'.manage.email.text = cString x.email from hhold .email,
      show gui'.manage.maxLoad.text = cString x.maxLoad from hhold .maxLoad]
    rfl
  rw [hrow]
  exact hcut key _ (hflight.taken key hkey _ _ x hx htaken)

end Grid

variable (P) in
/-- The window, and the map of a save that it is in the middle of. -/
structure ShownOn (w : Window) : Prop where
  gui : ∀ gui, w.gui = .ok gui → ShownIn P gui.session
  saving : ∀ frame loop, w.saving = some (frame, loop) → Shown P loop.tableName loop.seatMap

theorem shownOn_start : ShownOn P Window.start := by
  refine ⟨?_, fun _ _ h => by contradiction⟩
  intro gui hgui flight hactive
  cases hgui
  contradiction

theorem shownOn_idle {result : Database × Except Fault Gui}
    (h : Keeps P (fun gui => ShownIn P gui.session) result) : ShownOn P ⟨result.2, none⟩ :=
  ⟨h.returned, fun _ _ h => by contradiction⟩

theorem shownOn_beginSave {gui gui' : Gui} {frame : Frame} {flight : Flight} {seatMap : SeatMap}
    {loop : SaveLoop} (hmap : Shown P ("Booking" ++ flight.flightID) seatMap)
    (h : beginSave gui flight seatMap = (gui', loop)) :
    ShownOn P ⟨.ok gui', some (frame, loop)⟩ := by
  cases h
  refine ⟨?_, ?_⟩
  · intro gui' hgui flight' hactive
    cases hgui
    cases hactive
    exact hmap
  · intro frame' loop' hsaving
    cases hsaving
    exact hmap

theorem shownOn_begunSave {frame : Frame} {gui gui' : Gui} {loop : SaveLoop}
    (hgui : ShownIn P gui.session) (henters : Enters P frame.input gui)
    (hrefilled : Refilled P frame.input gui) (h : begunSave frame gui = some (gui', loop)) :
    ShownOn P ⟨.ok gui', some (frame, loop)⟩ := by
  unfold begunSave at h
  split at h
  · contradiction
  · next flight hactive =>
    have hflight := hgui flight hactive
    simp only at h
    split at h
    · next hinput =>
      split at h
      · next seatMap hbook =>
        refine shownOn_beginSave (hflight.bookSeat hbook ?_) (Option.some.inj h)
        exact fun havailable key hkey => henters hinput flight key hactive hkey havailable
      · contradiction
    · next hinput =>
      split at h
      · next booked seatMap hseat hupdate =>
        refine shownOn_beginSave (hflight.update hupdate ?_) (Option.some.inj h)
        intro hin key hkey
        obtain ⟨x, hx⟩ := hflight.valid.shaped.exists_cell _ _ hin
        have htaken : x.available = false :=
          Except.ok.inj ((hflight.valid.shaped.isSeatAvailable hx).symm.trans hseat)
        exact hrefilled hinput flight key hactive hkey x hx htaken
      · contradiction
    · contradiction

section Steps

variable {db : Database} (h : Stored P db) {w : Window} (hw : ShownOn P w)
  (datetimeToInt : String → ℤ)
include h hw

theorem keeps_frame (frame : Frame) (hcut : ∀ key b, P key b → P key (cut b))
    (henters : ∀ gui, w = ⟨.ok gui, none⟩ → Enters P frame.input gui) :
    Stored P (w.frame datetimeToInt frame db).1 ∧
      ShownOn P (w.frame datetimeToInt frame db).2 := by
  obtain ⟨window, saving⟩ := w
  unfold Window.frame
  split
  · next gui hlive hidle =>
    simp only at hlive hidle
    subst hlive hidle
    split
    · exact ⟨h, fun _ h => by contradiction, fun _ _ h => by contradiction⟩
    · next drawn hdraw =>
      have hgui := hw.gui gui rfl
      have hdrawn := hgui.drawn hdraw
      have henters' := (henters gui rfl).drawn hdraw
      have hrefilled := hgui.refilled hdraw hcut
      split
      · next hbegun => exact ⟨h, shownOn_begunSave hdrawn henters' hrefilled hbegun⟩
      · have hpanels := keeps_panels h hdrawn frame datetimeToInt henters' hrefilled
        exact ⟨hpanels.stored, shownOn_idle hpanels⟩
  · exact ⟨h, hw⟩

theorem keeps_transact :
    Stored P (w.transact datetimeToInt db).1 ∧ ShownOn P (w.transact datetimeToInt db).2 := by
  unfold Window.transact
  split
  · next gui frame loop hlive hsaving =>
    have hgui := hw.gui gui hlive
    have hmap := hw.saving frame loop hsaving
    split
    · have hrest := keeps_afterSave h hgui frame datetimeToInt
      exact ⟨hrest.stored, shownOn_idle hrest⟩
    · next k rest _ =>
      have hseat := h.insertBookingSeat hmap (frame.outcomes.seat k) k
      split
      · next db' heq =>
        rw [heq] at hseat
        refine ⟨hseat, ?_, ?_⟩
        · intro gui' hgui'
          cases hgui'
          exact hgui
        · intro frame' loop' hsaving'
          cases hsaving'
          exact hmap
      · next db' e heq =>
        rw [heq] at hseat
        exact ⟨hseat, fun _ h => by contradiction, fun _ _ h => by contradiction⟩
  · exact ⟨h, hw⟩

end Steps

section Runs

variable {ι : Type*} [DecidableEq ι] (datetimeToInt : String → ℤ)

/-- Every stored row and every taken seat of every window is such a booking. -/
structure Everywhere (P : List Char → BookingInformation → Prop) (sys : Shared ι) : Prop where
  stored : Stored P sys.db
  windows : ∀ i, ShownOn P (sys.windows i)

omit [DecidableEq ι] in
theorem Everywhere.mono {Q : List Char → BookingInformation → Prop} {sys : Shared ι}
    (h : Everywhere P sys) (himp : ∀ key b, P key b → Q key b) : Everywhere Q sys := by
  refine ⟨h.stored.mono himp, ?_⟩
  intro i
  exact ⟨fun gui hgui => ((h.windows i).gui gui hgui).mono himp,
    fun frame loop hsaving => ((h.windows i).saving frame loop hsaving).mono himp⟩

/-- In this event a window with nothing to save takes b for the table with this key. -/
def Books (sys : Shared ι) (event : Event ι) (key : List Char) (b : BookingInformation) : Prop :=
  ∃ i frame gui flight, event = .frame i frame ∧ frame.input = .pressed .book ∧
    sys.windows i = ⟨.ok gui, none⟩ ∧ gui.session.activeFlight = some flight ∧
    tableKey ("Booking" ++ flight.flightID) = some key ∧
    flight.seatMap.isSeatAvailable b.row b.col = .ok true ∧
    b = bookingOf gui.create gui.session.selectedRowCol

theorem everywhere_step {sys : Shared ι} (h : Everywhere P sys)
    (hcut : ∀ key b, P key b → P key (cut b)) {event : Event ι}
    (hbooks : ∀ key b, Books sys event key b → P key b) :
    Everywhere P (step datetimeToInt sys event) := by
  have hput : ∀ i (result : Database × Window), Stored P result.1 ∧ ShownOn P result.2 →
      Everywhere P (sys.put i result) := by
    intro i result hresult
    refine ⟨hresult.1, ?_⟩
    apply (Function.forall_update_iff sys.windows fun _ w => ShownOn P w).mpr
    exact ⟨hresult.2, fun j _ => h.windows j⟩
  cases event with
  | frame i frame =>
    refine hput i _ (keeps_frame h.stored (h.windows i) datetimeToInt frame hcut ?_)
    intro gui hidle hinput flight key hactive hkey havailable
    exact hbooks key _ ⟨i, frame, gui, flight, rfl, hinput, hidle, hactive, hkey, havailable, rfl⟩
  | transact i => exact hput i _ (keeps_transact h.stored (h.windows i) datetimeToInt)

/-- The maps of all windows stay valid. -/
theorem everything_valid (db : Database) (events : List (Event ι)) :
    Everywhere (fun _ _ => True)
      (Run.run (step datetimeToInt) ⟨db, fun _ => Window.start⟩ events) := by
  have hstart : Everywhere (fun _ _ => True) (⟨db, fun _ => Window.start⟩ : Shared ι) :=
    ⟨fun _ _ _ _ _ => trivial, fun _ => shownOn_start⟩
  refine (Run.throughout_of_forall (step datetimeToInt) _ (fun _ => True) ?_ _ events hstart
    fun _ _ => trivial).final
  exact fun sys event h _ =>
    everywhere_step datetimeToInt h (fun _ _ htrue => htrue) fun _ _ _ => trivial

/-- How a booking can come into a system that starts on these tables: stored from the start,
taken by Book in some event, or cut off by Update. -/
def Origin (db : Database) (events : List (Event ι)) :
    List Char → BookingInformation → Prop :=
  Run.Origin (step datetimeToInt) (fun key b => ∃ t, db.bookings key = some t ∧ b ∈ t) Books cut
    ⟨db, fun _ => Window.start⟩ events

/-- After every run on flights whose ids are names. -/
theorem everything_originates (db : Database) (events : List (Event ι))
    (_hnamed : db.NamedFlights) :
    Everywhere (Origin datetimeToInt db events)
      (Run.run (step datetimeToInt) ⟨db, fun _ => Window.start⟩ events) := by
  refine Run.originates (step datetimeToInt) _ Books cut Everywhere
    (fun _ _ _ h himp => h.mono himp)
    (fun _ _ _ h hcut hbooks => everywhere_step datetimeToInt h hcut hbooks) ?_ events
  exact ⟨fun key t ht b hb => ⟨t, ht, hb⟩, fun _ => shownOn_start⟩

/-- One window stores Ann's seat again, and another one shows it. -/
theorem updated_originates :
    Everywhere (Origin (fun _ => 0) annDatabase
        [.frame true (quiet (.pressed (.select 0))), .frame true (quiet (.pressed (.seat 0))),
          .frame true (quiet (.pressed .update)), .transact true,
          .frame false (quiet (.pressed (.select 0)))])
      (Run.run (step fun _ => 0) ⟨annDatabase, fun _ : Bool => Window.start⟩
        [.frame true (quiet (.pressed (.select 0))), .frame true (quiet (.pressed (.seat 0))),
          .frame true (quiet (.pressed .update)), .transact true,
          .frame false (quiet (.pressed (.select 0)))]) :=
  everything_originates (fun _ => 0) annDatabase _ (by decide)

theorem cut_bookingOf (buffers : Buffers) (seat : ℤ × ℤ) :
    cut (bookingOf buffers seat) = bookingOf buffers seat := by
  unfold cut bookingOf
  simp only [buffers.name.terminated, buffers.email.terminated, buffers.maxLoad.terminated]

/-- Where no table had a row, Book alone has stored what is there, with nothing cut off. -/
theorem Origin.was_booked {db : Database} {events : List (Event ι)} {key : List Char}
    {b : BookingInformation} (h : Origin datetimeToInt db events key b)
    (hempty : ∀ t, db.bookings key = some t → t = []) :
    ∃ pre event, pre ++ [event] <+: events ∧
      Books (Run.run (step datetimeToInt) ⟨db, fun _ => Window.start⟩ pre) event key b := by
  induction h with
  | old h =>
    obtain ⟨t, ht, hb⟩ := h
    rw [hempty t ht] at hb
    contradiction
  | made hpre hbooks => exact ⟨_, _, hpre, hbooks⟩
  | @altered b _ ih =>
    obtain ⟨pre, event, hpre, hbooks⟩ := ih
    have hwhole : cut b = b := by
      obtain ⟨_, _, gui, _, _, _, _, _, _, _, rfl⟩ := hbooks
      exact cut_bookingOf _ _
    rw [hwhole]
    exact ⟨pre, event, hpre, hbooks⟩

end Runs

end AirlineReservation.Provenance
