import AirlineReservation.Library.Outcome
import AirlineReservation.Loading
import AirlineReservation.SharedWindows

/-!
The bound of the three `strcpy_s` calls. It is checked nowhere between a text
field and the copy, but every text comes from a field: a booking puts the texts of
the fields into the grids, a save puts them into the tables, and a load puts them
back. So no text that is copied is longer than its buffer, in any window and in any
order of frames and transactions.
-/

namespace AirlineReservation.BufferBounds

open Outcome Frames

/-- The text that `strcpy_s` copies leaves room for the NUL. -/
def Short (text : String) : Prop := (cString text).utf8ByteSize ≤ 511

/-- Exceptions other than a copy that is too long. -/
def Copied (e : Fault) : Prop := e ≠ .bufferTooSmall

structure ShortMap (s : SeatMap) : Prop where
  names : Grid.All Short s.passengerMap
  emails : Grid.All Short s.emailMap
  maxLoads : Grid.All Short s.maxLoadMap

structure ShortRow (b : BookingInformation) : Prop where
  name : Short b.name
  email : Short b.email
  maxLoad : Short b.maxLoad

def ShortTables (db : Database) : Prop :=
  ∀ key t, db.bookings key = some t → ∀ b ∈ t, ShortRow b

theorem short_buffer (buffer : CharBuffer) : Short buffer.text := by
  rw [Short, buffer.terminated]
  exact buffer.fits

theorem short_empty : Short "" := short_buffer .empty

theorem post_strcpyS {E : Fault → Prop} {text : String} (h : Short text) :
    Post E (fun _ => True) (strcpyS text) := by
  unfold strcpyS
  split
  · trivial
  · next hlong => exact absurd h hlong

section Grids

variable {α : Type} {P : α → Prop} {grid : List (List α)} (h : Grid.All P grid) (row col : ℤ)
include h

theorem post_element : Post Copied P (element grid row col) := by
  unfold element
  split
  · next v hread => exact h.read hread
  · exact Fault.noConfusion

theorem post_assign {v : α} (hv : P v) :
    Post Copied (Grid.All P) (assign grid row col v) := by
  unfold assign Grid.write
  split
  · next grid' hwrite =>
    split at hwrite
    · cases hwrite
      exact h.put row col hv
    · contradiction
  · exact Fault.noConfusion

end Grids

/-- A grid whose entries do not matter. -/
theorem all_true {α : Type} (grid : List (List α)) : Grid.All (fun _ => True) grid :=
  fun _ _ _ _ => trivial

theorem post_isSeatAvailable (s : SeatMap) (row col : ℤ) :
    Post Copied (fun _ => True) (s.isSeatAvailable row col) := by
  unfold SeatMap.isSeatAvailable
  split
  · exact post_element (all_true s.seatMap) row col
  · trivial

/-- A getter gives a text of its grid, or nothing outside the map. -/
theorem post_textAt (s : SeatMap) {grid : List (List String)} (hgrid : Grid.All Short grid)
    (row col : ℤ) : Post Copied Short (s.textAt grid row col) := by
  unfold SeatMap.textAt
  split
  · exact post_element hgrid row col
  · exact short_empty

section Maps

variable {s : SeatMap} (h : ShortMap s) (row col : ℤ)
include h

/-- The four writes of a booking, a cancellation or a load. -/
theorem post_writes {β : Type} {R : β → Prop} {f : SeatMap → β} (hf : ∀ s', ShortMap s' → R (f s'))
    (available : Bool) {name email maxLoad : String} (hname : Short name) (hemail : Short email)
    (hmaxLoad : Short maxLoad) :
    Post Copied R (do
      let seatMap ← assign s.seatMap row col available
      let passengerMap ← assign s.passengerMap row col name
      let emailMap ← assign s.emailMap row col email
      let maxLoadMap ← assign s.maxLoadMap row col maxLoad
      return f { s with seatMap, passengerMap, emailMap, maxLoadMap }) := by
  refine (post_assign (all_true s.seatMap) row col trivial).bind ?_
  intro seatMap _
  refine (post_assign h.names row col hname).bind ?_
  intro passengerMap hnames
  refine (post_assign h.emails row col hemail).bind ?_
  intro emailMap hemails
  refine (post_assign h.maxLoads row col hmaxLoad).bind ?_
  intro maxLoadMap hmaxLoads
  exact hf _ ⟨hnames, hemails, hmaxLoads⟩

theorem post_bookSeat {name email maxLoad : String} (hname : Short name) (hemail : Short email)
    (hmaxLoad : Short maxLoad) :
    Post Copied (fun result => ShortMap result.2) (s.bookSeat row col name email maxLoad) := by
  refine (post_isSeatAvailable s row col).bind ?_
  intro available _
  split
  · exact post_writes h row col (f := fun s' => (true, s')) (fun _ hs' => hs') false hname hemail
      hmaxLoad
  · exact h

theorem post_cancelBooking : Post Copied ShortMap (s.cancelBooking row col) := by
  unfold SeatMap.cancelBooking
  split
  · exact post_writes h row col (fun _ hs' => hs') true short_empty short_empty short_empty
  · exact h

theorem post_loadBooking {b : BookingInformation} (hb : ShortRow b) :
    Post Copied ShortMap (s.loadBooking b) :=
  post_writes h b.row b.col (fun _ hs' => hs') false hb.name hb.email hb.maxLoad

theorem post_internalInitMaps : Post Copied ShortMap s.internalInitMaps := by
  have hempty : ∀ text ∈ List.replicate s.cols.toNat "", Short text := by
    intro text htext
    rw [List.eq_of_mem_replicate htext]
    exact short_empty
  unfold SeatMap.internalInitMaps
  split
  · exact Fault.noConfusion
  · exact ⟨h.names.resize _ hempty, h.emails.resize _ hempty, h.maxLoads.resize _ hempty⟩

theorem post_loadBookings (flightInfo : FlightInformation)
    {bookingInfos : List BookingInformation} (hrows : ∀ b ∈ bookingInfos, ShortRow b) :
    Post Copied ShortMap (s.loadBookings flightInfo bookingInfos) := by
  have hdims : ShortMap { s with rows := flightInfo.rows, cols := flightInfo.cols } :=
    ⟨h.names, h.emails, h.maxLoads⟩
  refine (post_internalInitMaps hdims).bind ?_
  intro s' hs'
  exact Post.foldlM (fun b hb _ hloaded => post_loadBooking hloaded (hrows b hb)) hs'

end Maps

section Tables

variable {db : Database} (h : ShortTables db) (tableName : String)
include h

theorem post_getBookingsInfo (outcome : RetrievalOutcome) :
    Post Copied (fun bookingInfos => ∀ b ∈ bookingInfos, ShortRow b)
      (getBookingsInfo db tableName outcome).result := by
  cases hread : (getBookingsInfo db tableName outcome).result with
  | error e =>
    rw [retrieve_error hread]
    exact Fault.noConfusion
  | ok bookingInfos =>
    intro b hb
    rcases getBookingsInfo_result hread with rfl | ⟨t, ht, hinitial⟩
    · contradiction
    · exact db.of_bookingTable tableName h ht b (hinitial.subset hb)

theorem post_freshLoad (flightInfo : FlightInformation) (outcome : RetrievalOutcome) :
    Post Copied ShortMap (SeatMap.freshLoad db flightInfo outcome) := by
  have hnone : ShortMap ⟨flightInfo.rows, flightInfo.cols, [], [], [], []⟩ := by
    constructor <;> exact fun _ hrow => absurd hrow List.not_mem_nil
  refine (post_internalInitMaps hnone).bind ?_
  intro s hs
  refine (post_getBookingsInfo h ("Booking" ++ flightInfo.flightID) outcome).bind ?_
  intro bookingInfos hrows
  exact post_loadBookings hs flightInfo hrows

theorem shortTables_setBookingTable {t : List BookingInformation} (ht : ∀ b ∈ t, ShortRow b) :
    ShortTables (db.setBookingTable tableName t) :=
  db.of_setBookingTable tableName h ht

theorem shortTables_deleteBookingData (row col : ℤ) (raises : Bool) :
    ShortTables (deleteBookingData db tableName row col raises) := by
  cases ht : db.bookingTable tableName with
  | none => rwa [deleteBookingData_missing ht]
  | some t =>
    have hrows := db.of_bookingTable tableName h ht
    rw [deleteBookingData_eq ht]
    apply shortTables_setBookingTable h
    split
    · exact hrows
    · exact fun b hb => hrows b (List.mem_of_mem_filter hb)

end Tables

/-- The tables stay short, and so does what is returned. -/
def Keeps {α : Type} (Q : α → Prop) (result : Database × Except Fault α) : Prop :=
  ShortTables result.1 ∧ Post Copied Q result.2

def ShortSession (session : Session) : Prop :=
  ∀ flight, session.activeFlight = some flight → ShortMap flight.seatMap

theorem post_transaction (outcome : TransactionOutcome)
    (body : Database → Except Fault Database) (db : Database) :
    Post Copied (fun _ => True) (transaction outcome body db).2 := by
  cases outcome with
  | committed =>
    unfold transaction
    simp only
    split
    · trivial
    · exact Fault.noConfusion
    · trivial
  | rolledBack => trivial
  | beginRaised => exact Fault.noConfusion
  | rollbackRaised => exact Fault.noConfusion

section Saves

variable {s : SeatMap} (hs : ShortMap s) {db : Database} (h : ShortTables db)
include hs h

/-- What a transaction commits is a row of texts of the map. -/
theorem insertBookingSeat_keeps (tableName : String) (outcome : TransactionOutcome) (k : ℤ × ℤ) :
    Keeps (fun _ => True) (insertBookingSeat s tableName outcome k db) := by
  constructor
  · rcases insertBookingSeat_db s db tableName outcome k with
      hsame | ⟨t, b, ht, _, _, _, hname, hemail, hmaxLoad, hset⟩
    · rwa [hsame]
    · rw [hset]
      apply shortTables_setBookingTable h
      intro b' hb'
      rcases RowTable.mem_upsert _ b b' t hb' with rfl | hold
      · exact ⟨(post_element hs.names k.1 k.2).of_ok hname,
          (post_textAt s hs.emails k.1 k.2).of_ok hemail,
          (post_textAt s hs.maxLoads k.1 k.2).of_ok hmaxLoad⟩
      · exact db.of_bookingTable tableName h ht b' hold
  · unfold insertBookingSeat
    split
    · next e hname => exact (post_element hs.names k.1 k.2).of_error hname
    · split
      · exact post_transaction _ _ _
      · trivial

theorem insertBookingLoop_keeps (tableName : String) (outcome : ℤ × ℤ → TransactionOutcome)
    (seats : List (ℤ × ℤ)) :
    Keeps (fun _ => True) (insertBookingLoop s tableName outcome seats db) := by
  induction seats generalizing db with
  | nil => exact ⟨h, trivial⟩
  | cons k rest ih =>
    have hseat := insertBookingSeat_keeps hs h tableName (outcome k) k
    unfold insertBookingLoop
    split
    · next db' heq =>
      rw [heq] at hseat
      exact ih hseat.1
    · next db' e heq =>
      rw [heq] at hseat
      exact hseat

theorem saveActive_keeps (outcomes : SqlOutcomes) (flight : Flight) (session : Session) :
    Keeps ShortSession (saveActive outcomes db flight s session) := by
  have hsave := insertBookingLoop_keeps hs h
    (generateBookingTableName (some { flight with seatMap := s })) outcomes.seat s.seats
  unfold saveActive insertBookingData
  simp only
  split
  · next db' heq =>
    rw [heq] at hsave
    refine ⟨hsave.1, ?_⟩
    intro flight' hactive
    cases Option.some.inj hactive
    exact hs
  · next db' e heq =>
    rw [heq] at hsave
    exact hsave

end Saves

section Handlers

variable {db : Database} (h : ShortTables db) {flight : Flight} (hflight : ShortMap flight.seatMap)
  {session : Session} (hsession : ShortSession session) (outcomes : SqlOutcomes)
include h hflight

theorem updatePressed_keeps {name email maxLoad : String} (hname : Short name)
    (hemail : Short email) (hmaxLoad : Short maxLoad) :
    Keeps ShortSession (updatePressed outcomes db flight session name email maxLoad) := by
  have hbook : Post Copied (fun result => ShortMap result.2)
      (flight.seatMap.cancelBooking session.selectedRowCol.1 session.selectedRowCol.2 >>=
        fun seatMap => seatMap.bookSeat session.selectedRowCol.1 session.selectedRowCol.2
          name email maxLoad) := by
    refine (post_cancelBooking hflight _ _).bind ?_
    intro seatMap hcancelled
    exact post_bookSeat hcancelled _ _ hname hemail hmaxLoad
  unfold updatePressed
  simp only
  split
  · next e heq => exact ⟨h, hbook.of_error heq⟩
  · next booked seatMap heq => exact saveActive_keeps (hbook.of_ok heq) h outcomes flight session

theorem deletePressed_keeps : Keeps ShortSession (deletePressed outcomes db flight session) := by
  have hcancel := post_cancelBooking hflight session.selectedRowCol.1 session.selectedRowCol.2
  unfold deletePressed
  simp only
  split
  · next e heq => exact ⟨h, hcancel.of_error heq⟩
  · next seatMap heq =>
    refine ⟨shortTables_deleteBookingData h _ _ _ _, ?_⟩
    intro flight' hactive
    cases Option.some.inj hactive
    exact hcancel.of_ok heq

include hsession

theorem bookPressed_keeps {name email maxLoad : String} (hname : Short name)
    (hemail : Short email) (hmaxLoad : Short maxLoad) :
    Keeps ShortSession (bookPressed outcomes db flight session name email maxLoad) := by
  have hbook := post_bookSeat hflight session.selectedRowCol.1 session.selectedRowCol.2 hname
    hemail hmaxLoad
  unfold bookPressed
  split
  · next e heq => exact ⟨h, hbook.of_error heq⟩
  · exact ⟨h, hsession⟩
  · next seatMap heq => exact saveActive_keeps (hbook.of_ok heq) h outcomes flight session

end Handlers

def ShortGui (gui : Gui) : Prop := ShortSession gui.session

/-- The three getters give texts that fit their buffers, for every seat, and raise
nothing but E. -/
structure Gives (E : Fault → Prop) (s : SeatMap) : Prop where
  name : ∀ row col, Post E Short (s.getPassengerName row col)
  email : ∀ row col, Post E Short (s.getEmail row col)
  maxLoad : ∀ row col, Post E Short (s.getMaxLoad row col)

theorem ShortMap.gives {s : SeatMap} (h : ShortMap s) : Gives Copied s where
  name := post_textAt s h.names
  email := post_textAt s h.emails
  maxLoad := post_textAt s h.maxLoads

def SameFlight (gui gui' : Gui) : Prop := gui'.session.activeFlight = gui.session.activeFlight

section Panels

variable {E : Fault → Prop} {flight : Flight} (hgives : Gives E flight.seatMap) (input : Input)
include hgives

/-- The three copies of a taken seat, whichever seat is selected. -/
theorem post_refill (gui : Gui) : Post E (SameFlight gui) (refill flight gui) := by
  let row := gui.session.selectedRowCol.1
  let col := gui.session.selectedRowCol.2
  refine (hgives.name row col).bind ?_
  intro name hname
  refine (post_strcpyS hname).bind ?_
  intro nameBuffer _
  refine (hgives.email row col).bind ?_
  intro email hemail
  refine (post_strcpyS hemail).bind ?_
  intro emailBuffer _
  refine (hgives.maxLoad row col).bind ?_
  intro maxLoad hmaxLoad
  refine (post_strcpyS hmaxLoad).bind ?_
  intro maxLoadBuffer _
  exact Eq.refl gui.session.activeFlight

theorem post_drawSeats (seatLNum : ℕ) (row : List Bool) (label seatRNum : ℕ) (gui : Gui) :
    Post E (SameFlight gui) (drawSeats flight input seatLNum row label seatRNum gui) := by
  induction row generalizing label seatRNum gui with
  | nil => exact Eq.refl gui.session.activeFlight
  | cons seat rest ih =>
    have hseat : Post E (SameFlight gui) (if seat then .ok gui else refill flight gui) := by
      split
      · exact Eq.refl gui.session.activeFlight
      · exact post_refill hgives gui
    refine hseat.bind ?_
    intro gui' hgui'
    refine (ih _ _ _).mono ?_
    intro gui'' hgui''
    refine Eq.trans hgui'' ?_
    split <;> exact hgui'

theorem post_drawRows (rows : List (List Bool)) (label seatLNum : ℕ) (gui : Gui) :
    Post E (SameFlight gui) (drawRows flight input rows label seatLNum gui) := by
  induction rows generalizing label seatLNum gui with
  | nil => exact Eq.refl gui.session.activeFlight
  | cons row rest ih =>
    refine (post_drawSeats hgives input seatLNum row label 0 gui).bind ?_
    intro gui' hgui'
    refine (ih _ _ gui').mono ?_
    intro gui'' hgui''
    exact Eq.trans hgui'' hgui'

end Panels

theorem post_seatMapGUI (input : Input) {gui : Gui} (hgui : ShortGui gui) :
    Post Copied ShortGui (seatMapGUI input gui) := by
  unfold seatMapGUI
  split
  · next flight hactive =>
    refine (post_drawRows (hgui flight hactive).gives input _ 0 0 gui).mono ?_
    intro gui' hsame flight' hactive'
    exact hgui flight' (hsame ▸ hactive')
  · exact hgui

theorem after_keeps (gui : Gui) {result : Database × Except Fault Session}
    (h : Keeps ShortSession result) : Keeps ShortGui (gui.after result) :=
  ⟨h.1, Post.map h.2⟩

section Frame

variable {db : Database} (h : ShortTables db) {gui : Gui} (hgui : ShortGui gui) (frame : Frame)
include h hgui

theorem createBookings_keeps : Keeps ShortGui (createBookings frame db gui) := by
  unfold createBookings
  split
  · exact ⟨h, hgui⟩
  · next flight hactive =>
    simp only
    split
    · exact after_keeps _ (bookPressed_keeps h (hgui flight hactive) hgui frame.outcomes
        (short_buffer _) (short_buffer _) (short_buffer _))
    · exact ⟨h, hgui⟩

theorem manageBookings_keeps : Keeps ShortGui (manageBookings frame db gui) := by
  unfold manageBookings
  split
  · exact ⟨h, hgui⟩
  · next flight hactive =>
    have hflight := hgui flight hactive
    have havailable := post_isSeatAvailable flight.seatMap gui.session.selectedRowCol.1
      gui.session.selectedRowCol.2
    split
    · next e heq => exact ⟨h, havailable.of_error heq⟩
    · exact ⟨h, hgui⟩
    · simp only
      split
      · exact after_keeps _ (updatePressed_keeps h hflight frame.outcomes (short_buffer _)
          (short_buffer _) (short_buffer _))
      · exact after_keeps _ (deletePressed_keeps h hflight frame.outcomes)
      · exact ⟨h, hgui⟩

variable (datetimeToInt : String → ℤ)

theorem selectFlight_keeps : Keeps ShortGui (selectFlight datetimeToInt frame db gui) := by
  unfold selectFlight
  split
  · next e hlist =>
    rw [retrieve_error hlist]
    exact ⟨h, Fault.noConfusion⟩
  · split
    · split
      · next flightInformation _ =>
        refine after_keeps gui ⟨h, ?_⟩
        refine (post_freshLoad h flightInformation frame.outcomes.retrieval).bind ?_
        intro seatMap hload flight' hactive
        cases Option.some.inj hactive
        exact hload
      · exact ⟨h, hgui⟩
    · exact ⟨h, hgui⟩

end Frame

theorem andThen_keeps {result : Database × Except Fault Gui}
    {panel : Database → Gui → Database × Except Fault Gui} (hresult : Keeps ShortGui result)
    (hpanel : ∀ db gui, ShortTables db → ShortGui gui → Keeps ShortGui (panel db gui)) :
    Keeps ShortGui (andThen result panel) := by
  obtain ⟨db, window⟩ := result
  cases window with
  | error e => exact hresult
  | ok gui => exact hpanel db gui hresult.1 hresult.2

section Windows

open SharedWindows
open Interleaving (SaveLoop)

/-- The map of a save in progress is the one the active flight had when it began. -/
structure ShortWindow (w : Window) : Prop where
  gui : Post Copied ShortGui w.gui
  saving : ∀ frame loop, w.saving = some (frame, loop) → ShortMap loop.seatMap

theorem shortWindow_start : ShortWindow Window.start := by
  constructor
  · intro flight hactive
    contradiction
  · intro frame loop hsaving
    contradiction

theorem shortWindow_idle {window : Except Fault Gui} (h : Post Copied ShortGui window) :
    ShortWindow ⟨window, none⟩ :=
  ⟨h, fun _ _ hsaving => absurd hsaving (by simp)⟩

theorem beginSave_short {gui gui' : Gui} {flight : Flight} {seatMap : SeatMap} {loop : SaveLoop}
    (hmap : ShortMap seatMap) (h : beginSave gui flight seatMap = (gui', loop)) :
    ShortGui gui' ∧ ShortMap loop.seatMap := by
  obtain ⟨rfl, rfl⟩ := Prod.mk.inj h
  refine ⟨?_, hmap⟩
  intro flight' hactive
  cases Option.some.inj hactive
  exact hmap

theorem begunSave_short {frame : Frame} {gui gui' : Gui} {loop : SaveLoop} (hgui : ShortGui gui)
    (h : begunSave frame gui = some (gui', loop)) : ShortGui gui' ∧ ShortMap loop.seatMap := by
  unfold begunSave at h
  split at h
  · contradiction
  · next flight hactive =>
    have hflight := hgui flight hactive
    simp only at h
    split at h
    · split at h
      · next seatMap hbook =>
        have hmap := (post_bookSeat hflight _ _ (short_buffer _) (short_buffer _)
          (short_buffer _)).of_ok hbook
        exact beginSave_short hmap (Option.some.inj h)
      · contradiction
    · split at h
      · next seatMap _ hbook =>
        obtain ⟨cancelled, hcancel, hbook⟩ := exists_of_bind_ok hbook
        have hcancelled := (post_cancelBooking hflight _ _).of_ok hcancel
        have hmap := (post_bookSeat hcancelled _ _ (short_buffer _) (short_buffer _)
          (short_buffer _)).of_ok hbook
        exact beginSave_short hmap (Option.some.inj h)
      · contradiction
    · contradiction

section Step

variable (datetimeToInt : String → ℤ) {db : Database} (h : ShortTables db)
include h

theorem panels_keeps {gui : Gui} (hgui : ShortGui gui) (frame : Frame) :
    Keeps ShortGui (panels datetimeToInt frame db gui) := by
  refine andThen_keeps (andThen_keeps (createBookings_keeps h hgui frame) ?_) ?_
  · exact fun _ _ h' hgui' => manageBookings_keeps h' hgui' frame
  · exact fun _ _ h' hgui' => selectFlight_keeps h' hgui' frame datetimeToInt

theorem afterSave_keeps {gui : Gui} (hgui : ShortGui gui) (frame : Frame) :
    Keeps ShortGui (afterSave datetimeToInt frame db gui) := by
  unfold afterSave
  split
  · refine andThen_keeps (manageBookings_keeps h hgui frame) ?_
    exact fun _ _ h' hgui' => selectFlight_keeps h' hgui' frame datetimeToInt
  · exact selectFlight_keeps h hgui frame datetimeToInt

variable {w : Window} (hw : ShortWindow w)
include hw

theorem frame_keeps (frame : Frame) :
    ShortTables (w.frame datetimeToInt frame db).1 ∧
      ShortWindow (w.frame datetimeToInt frame db).2 := by
  unfold Window.frame
  split
  · next gui hlive _ =>
    have hgui : ShortGui gui := hw.gui.of_ok hlive
    have hdraw := post_seatMapGUI frame.input hgui
    split
    · next e heq => exact ⟨h, shortWindow_idle (hdraw.of_error heq)⟩
    · next drawn heq =>
      have hdrawn := hdraw.of_ok heq
      split
      · next begun loop hbegun =>
        obtain ⟨hbegunGui, hmap⟩ := begunSave_short hdrawn hbegun
        refine ⟨h, hbegunGui, ?_⟩
        intro frame' loop' hsaving
        obtain ⟨rfl, rfl⟩ := Prod.mk.inj (Option.some.inj hsaving)
        exact hmap
      · have hpanels := panels_keeps datetimeToInt h hdrawn frame
        exact ⟨hpanels.1, shortWindow_idle hpanels.2⟩
  · exact ⟨h, hw⟩

theorem transact_keeps :
    ShortTables (w.transact datetimeToInt db).1 ∧ ShortWindow (w.transact datetimeToInt db).2 := by
  unfold Window.transact
  split
  · next gui frame loop hlive hsaving =>
    have hgui : ShortGui gui := hw.gui.of_ok hlive
    have hmap := hw.saving frame loop hsaving
    split
    · have hrest := afterSave_keeps datetimeToInt h hgui frame
      exact ⟨hrest.1, shortWindow_idle hrest.2⟩
    · next k rest _ =>
      have hseat := insertBookingSeat_keeps hmap h loop.tableName (frame.outcomes.seat k) k
      split
      · next db' heq =>
        rw [heq] at hseat
        refine ⟨hseat.1, hgui, ?_⟩
        intro frame' loop' hsaving'
        obtain ⟨rfl, rfl⟩ := Prod.mk.inj (Option.some.inj hsaving')
        exact hmap
      · next db' e heq =>
        rw [heq] at hseat
        exact ⟨hseat.1, shortWindow_idle hseat.2⟩
  · exact ⟨h, hw⟩

end Step

variable {ι : Type*}

structure ShortSystem (sys : Shared ι) : Prop where
  tables : ShortTables sys.db
  windows : ∀ i, ShortWindow (sys.windows i)

variable [DecidableEq ι] (datetimeToInt : String → ℤ)

theorem ShortSystem.put {sys : Shared ι} (h : ShortSystem sys) (i : ι)
    {result : Database × Window} (hresult : ShortTables result.1 ∧ ShortWindow result.2) :
    ShortSystem (sys.put i result) := by
  refine ⟨hresult.1, ?_⟩
  apply (Function.forall_update_iff sys.windows fun _ w => ShortWindow w).mpr
  exact ⟨hresult.2, fun j _ => h.windows j⟩

theorem shortSystem_step {sys : Shared ι} (h : ShortSystem sys) (event : Event ι) :
    ShortSystem (step datetimeToInt sys event) := by
  cases event with
  | frame i frame => exact h.put i (frame_keeps datetimeToInt h.tables (h.windows i) frame)
  | transact i => exact h.put i (transact_keeps datetimeToInt h.tables (h.windows i))

/-- No `strcpy_s` has ended a process, and the texts of every seat that can be
selected fit the buffers when the next frame copies them. -/
structure CopiesFit (sys : Shared ι) : Prop where
  copied : ∀ i, (sys.windows i).gui ≠ .error .bufferTooSmall
  fits : ∀ i gui flight, (sys.windows i).gui = .ok gui →
    gui.session.activeFlight = some flight → ∀ row col text,
      flight.seatMap.getPassengerName row col = .ok text ∨
        flight.seatMap.getEmail row col = .ok text ∨
        flight.seatMap.getMaxLoad row col = .ok text →
      (cString text).utf8ByteSize ≤ 511

omit [DecidableEq ι] in
theorem ShortSystem.copiesFit {sys : Shared ι} (h : ShortSystem sys) : CopiesFit sys := by
  constructor
  · intro i hended
    exact (h.windows i).gui.of_error hended rfl
  · intro i gui flight hlive hactive row col text htext
    have hflight := (h.windows i).gui.of_ok hlive flight hactive
    rcases htext with hname | hemail | hmaxLoad
    · exact (post_textAt flight.seatMap hflight.names row col).of_ok hname
    · exact (post_textAt flight.seatMap hflight.emails row col).of_ok hemail
    · exact (post_textAt flight.seatMap hflight.maxLoads row col).of_ok hmaxLoad

/-- From empty booking tables, in every state of every interleaving. Nothing but the
tables is read when the ids of the flights are names. -/
theorem copies_fit (db : Database) (events : List (Event ι)) (_hnamed : db.NamedFlights)
    (hempty : ∀ key t, db.bookings key = some t → t = []) :
    Run.Throughout (step datetimeToInt) CopiesFit ⟨db, fun _ => Window.start⟩ events := by
  have hstart : ShortSystem (⟨db, fun _ => Window.start⟩ : Shared ι) := by
    refine ⟨?_, fun _ => shortWindow_start⟩
    intro key t ht b hb
    rw [hempty key t ht] at hb
    contradiction
  have hshort := Run.throughout_of_forall (step datetimeToInt) ShortSystem (fun _ => True)
    (fun _ event h _ => shortSystem_step datetimeToInt h event) _ events hstart
    fun _ _ => trivial
  exact fun pre hpre => (hshort pre hpre).copiesFit

def eveName : CharBuffer := ⟨"Eve", by decide, by decide⟩

def emptyFlight : Database :=
  { Database.empty.setBookingTable "BookingAA123" [] with
    flights := some [⟨"AA123", "New York", "Los Angeles", "", "", "bookingAA123", 1, 1⟩] }

/-- One window books with the name, and the other reads and copies it. -/
def copiedRun : List (Event Bool) :=
  [.frame true ⟨.pressed (.select 0), .succeeds, .succeed⟩,
    .frame true ⟨.typed .createBookings .name eveName, .succeeds, .succeed⟩,
    .frame true ⟨.pressed .book, .succeeds, .succeed⟩, .transact true, .transact true,
    .frame false ⟨.pressed (.select 0), .succeeds, .succeed⟩,
    .frame false ⟨.idle, .succeeds, .succeed⟩]

theorem name_copied :
    Run.Throughout (step fun _ => 0) CopiesFit ⟨emptyFlight, fun _ => Window.start⟩ copiedRun ∧
    ((Run.run (step fun _ => 0) ⟨emptyFlight, fun _ => Window.start⟩ copiedRun).windows
      false).gui.toOption.map (fun gui => gui.manage.name.text) = some eveName.text := by
  constructor
  · have hnone : ∀ key t, Database.empty.bookings key = some t → t = [] :=
      fun _ _ ht => absurd ht (by simp [Database.empty])
    apply copies_fit (fun _ => 0) emptyFlight copiedRun (by decide)
    exact Database.empty.of_setBookingTable "BookingAA123" (P := fun t => t = []) hnone rfl
  · rfl

end Windows

end AirlineReservation.BufferBounds
