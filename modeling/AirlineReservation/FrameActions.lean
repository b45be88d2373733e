import AirlineReservation.Frames
import AirlineReservation.SessionRuns

/-!
A frame that returns is one action of the session, or none: the panel whose
widget was touched performs the action and the others pass the session on. So
what holds of every action holds of every frame, and the seat map of a window
stays valid whatever is typed and pressed.
-/

namespace AirlineReservation.Frames

def seatAction (session : Session) (input : Input) : Option Action :=
  match session.activeFlight with
  | some flight => (clicked input).bind fun label =>
      (seatAt flight.seatMap.seatMap label).map fun (i, j) => .clickSeat i j
  | none => none

def createAction (input : Input) (buffers : Buffers) : Option Action :=
  match input with
  | .pressed .book =>
    some (.book buffers.name.text buffers.email.text buffers.maxLoad.text)
  | _ => none

def manageAction (input : Input) (buffers : Buffers) : Option Action :=
  match input with
  | .pressed .update =>
    some (.update buffers.name.text buffers.email.text buffers.maxLoad.text)
  | .pressed .delete => some .delete
  | _ => none

def selectAction (input : Input) (flightsInformation : List FlightInformation) : Option Action :=
  match input with
  | .pressed (.select index) => flightsInformation[index]?.map .selectFlight
  | _ => none

/-- The session takes the action, or stays as it is. -/
def Performs (outcomes : SqlOutcomes) (db : Database) (session : Session)
    (action : Option Action) (db' : Database) (session' : Session) : Prop :=
  match action with
  | some action => perform outcomes db session action = (db', .ok session')
  | none => db' = db ∧ session' = session

namespace Performs

variable {outcomes : SqlOutcomes} {db db₁ db₂ : Database} {session session₁ session₂ : Session}
  {action : Option Action}

theorem trans (h : Performs outcomes db session none db₁ session₁)
    (h' : Performs outcomes db₁ session₁ action db₂ session₂) :
    Performs outcomes db session action db₂ session₂ := by
  obtain ⟨rfl, rfl⟩ := h
  exact h'

theorem trans_none (h : Performs outcomes db session action db₁ session₁)
    (h' : Performs outcomes db₁ session₁ none db₂ session₂) :
    Performs outcomes db session action db₂ session₂ := by
  obtain ⟨rfl, rfl⟩ := h'
  exact h

theorem valid (h : Performs outcomes db session action db₁ session₁) (hs : session.Valid) :
    session₁.Valid := by
  cases action with
  | none =>
    obtain ⟨rfl, rfl⟩ := h
    exact hs
  | some action => exact perform_valid hs h

end Performs

theorem seatAction_unclicked (session : Session) {input : Input} (h : clicked input = none) :
    seatAction session input = none := by
  unfold seatAction
  rw [h]
  split <;> rfl

theorem after_ok {gui gui' : Gui} {result : Database × Except Fault Session} {db' : Database}
    (h : gui.after result = (db', .ok gui')) : result = (db', .ok gui'.session) := by
  obtain ⟨db₁, session⟩ := result
  cases session with
  | error e => exact absurd (Prod.mk.inj h).2 (by simp [Except.map])
  | ok session =>
    obtain ⟨hdb, hgui⟩ := Prod.mk.inj h
    cases Except.ok.inj hgui
    exact Prod.ext hdb rfl

section Panels

variable {frame : Frame} {db db' : Database} {gui gui' : Gui}

theorem seatMapGUI_performs (outcomes : SqlOutcomes) (db : Database)
    (h : seatMapGUI frame.input gui = .ok gui') :
    gui'.create = gui.create ∧
      Performs outcomes db gui.session (seatAction gui.session frame.input) db gui'.session := by
  unfold seatMapGUI at h
  unfold seatAction
  cases hactive : gui.session.activeFlight with
  | none =>
    rw [hactive] at h
    cases Except.ok.inj h
    exact ⟨rfl, rfl, rfl⟩
  | some flight =>
    rw [hactive] at h
    obtain ⟨hcreate, hsession⟩ := drawRows_session (by decide) h
    refine ⟨hcreate, ?_⟩
    cases hclick : clicked frame.input with
    | none =>
      rw [hclick] at hsession
      exact ⟨rfl, hsession⟩
    | some label =>
      rw [hclick] at hsession
      simp only [Option.bind_some, Nat.zero_le, if_true, Nat.sub_zero] at hsession ⊢
      cases hseat : seatAt flight.seatMap.seatMap label with
      | none =>
        rw [hseat] at hsession
        exact ⟨rfl, hsession⟩
      | some seat =>
        obtain ⟨i, j⟩ := seat
        rw [hseat] at hsession
        simp only [Option.map_some, Performs, perform, hactive, seatPressed,
          isSome_read_seatAt hseat, if_true]
        rw [hsession]
        simp [Gui.pressedSession, Gui.selectSeat, hactive]

/-- Drawing the grid selects no flight. -/
theorem seatMapGUI_activeFlight {input : Input} (h : seatMapGUI input gui = .ok gui') :
    gui'.session.activeFlight = gui.session.activeFlight := by
  unfold seatMapGUI at h
  split at h
  · rw [(drawRows_session (by decide) h).2]
    unfold Gui.pressedSession
    split <;> rfl
  · rw [Except.ok.inj h]

theorem createBookings_performs (h : createBookings frame db gui = (db', .ok gui')) :
    Performs frame.outcomes db gui.session (createAction frame.input gui.create) db'
      gui'.session ∧ gui'.manage = gui.manage := by
  unfold createBookings at h
  cases hactive : gui.session.activeFlight with
  | none =>
    rw [hactive] at h
    cases h
    unfold createAction
    split
    · exact ⟨by simp [Performs, perform, hactive], rfl⟩
    · exact ⟨⟨rfl, rfl⟩, rfl⟩
  | some flight =>
    rw [hactive] at h
    simp only at h
    unfold createAction
    split
    · next hinput =>
      rw [hinput] at h
      have hresult := after_ok h
      refine ⟨by simpa only [Performs, perform, hactive, inputTexts] using hresult, ?_⟩
      have hwindow := (Prod.mk.inj h).2
      simp only [hresult] at hwindow
      rw [← Except.ok.inj hwindow]
    · next hinput =>
      split at h
      · next hbook => exact absurd hbook hinput
      · cases h
        exact ⟨⟨rfl, rfl⟩, rfl⟩

theorem manageBookings_performs (h : manageBookings frame db gui = (db', .ok gui')) :
    Performs frame.outcomes db gui.session (manageAction frame.input gui.manage) db'
      gui'.session := by
  unfold manageBookings at h
  cases hactive : gui.session.activeFlight with
  | none =>
    rw [hactive] at h
    cases h
    unfold manageAction
    split
    · simp [Performs, perform, hactive]
    · simp [Performs, perform, hactive]
    · exact ⟨rfl, rfl⟩
  | some flight =>
    rw [hactive] at h
    simp only at h
    cases hseat : flight.seatMap.isSeatAvailable gui.session.selectedRowCol.1
        gui.session.selectedRowCol.2 with
    | error e =>
      rw [hseat] at h
      exact absurd (Prod.mk.inj h).2 (by simp)
    | ok available =>
      rw [hseat] at h
      cases available with
      | true =>
        cases h
        unfold manageAction
        split
        · simp [Performs, perform, hactive, whenNotAvailable, hseat]
        · simp [Performs, perform, hactive, whenNotAvailable, hseat]
        · exact ⟨rfl, rfl⟩
      | false =>
        simp only at h
        unfold manageAction
        split
        · next hinput =>
          rw [hinput] at h
          simpa only [Performs, perform, hactive, whenNotAvailable, hseat, inputTexts] using
            after_ok h
        · next hinput =>
          rw [hinput] at h
          simpa only [Performs, perform, hactive, whenNotAvailable, hseat] using after_ok h
        · next hupdate hdelete =>
          split at h
          · next hinput => exact absurd hinput hupdate
          · next hinput => exact absurd hinput hdelete
          · cases h
            exact ⟨rfl, rfl⟩

theorem selectFlight_performs {datetimeToInt : String → ℤ}
    (h : selectFlight datetimeToInt frame db gui = (db', .ok gui')) :
    ∃ flightsInformation, db' = db ∧
      (getFlightsInfo datetimeToInt db frame.listing).result = .ok flightsInformation ∧
      Performs frame.outcomes db gui.session (selectAction frame.input flightsInformation) db'
        gui'.session := by
  unfold selectFlight at h
  cases hlist : (getFlightsInfo datetimeToInt db frame.listing).result with
  | error e =>
    rw [hlist] at h
    exact absurd (Prod.mk.inj h).2 (by simp)
  | ok flightsInformation =>
    rw [hlist] at h
    simp only at h
    refine ⟨flightsInformation, ?_⟩
    unfold selectAction
    split
    · next index hinput =>
      rw [hinput] at h
      simp only at h
      cases hindex : flightsInformation[index]? with
      | none =>
        rw [hindex] at h
        cases h
        exact ⟨rfl, rfl, rfl, rfl⟩
      | some flightInformation =>
        rw [hindex] at h
        exact ⟨(Prod.mk.inj h).1.symm, rfl, after_ok h⟩
    · next hinput =>
      split at h
      · next index hselect => exact absurd hselect (hinput index)
      · cases h
        exact ⟨rfl, rfl, rfl, rfl⟩

/-- Selecting a flight stores nothing. -/
theorem selectFlight_fst (datetimeToInt : String → ℤ) (frame : Frame) (db : Database)
    (gui : Gui) : (selectFlight datetimeToInt frame db gui).1 = db := by
  unfold selectFlight
  split
  · rfl
  · split
    · split <;> rfl
    · rfl

theorem andThen_ok {result : Database × Except Fault Gui}
    {panel : Database → Gui → Database × Except Fault Gui}
    (h : andThen result panel = (db', .ok gui')) :
    ∃ db₁ gui₁, result = (db₁, .ok gui₁) ∧ panel db₁ gui₁ = (db', .ok gui') := by
  obtain ⟨db₁, window⟩ := result
  cases window with
  | error e => exact absurd (Prod.mk.inj h).2 (by simp)
  | ok gui₁ => exact ⟨db₁, gui₁, rfl, h⟩

end Panels

/-- What a frame does to the session, given the buffers after the seat grid. -/
def frameAction (session : Session) (input : Input) (create manage : Buffers)
    (flightsInformation : List FlightInformation) : Option Action :=
  match input with
  | .pressed (.seat _) => seatAction session input
  | .pressed .book => createAction input create
  | .pressed .update => manageAction input manage
  | .pressed .delete => manageAction input manage
  | .pressed (.select _) => selectAction input flightsInformation
  | _ => none

/-- A frame that returns is one action of the session, or none. -/
theorem guiMain_performs {datetimeToInt : String → ℤ} {frame : Frame} {db db' : Database}
    {gui gui' : Gui} (h : guiMain datetimeToInt frame db gui = (db', .ok gui')) :
    ∃ drawn flightsInformation, seatMapGUI frame.input gui = .ok drawn ∧
      (getFlightsInfo datetimeToInt db' frame.listing).result = .ok flightsInformation ∧
      Performs frame.outcomes db gui.session
        (frameAction gui.session frame.input gui.create drawn.manage flightsInformation) db'
        gui'.session := by
  obtain ⟨db₂, managed, hmanaged, hselect⟩ := andThen_ok h
  obtain ⟨db₁, created, hcreated, hmanage⟩ := andThen_ok hmanaged
  obtain ⟨db₀, drawn, hdrawn, hcreate⟩ := andThen_ok hcreated
  obtain ⟨hdb, hdraw⟩ := Prod.mk.inj hdrawn
  subst hdb
  obtain ⟨hbuffers, hseat⟩ := seatMapGUI_performs frame.outcomes db hdraw
  obtain ⟨hbook, hkept⟩ := createBookings_performs hcreate
  have hedit := manageBookings_performs hmanage
  obtain ⟨flightsInformation, rfl, hlist, hpick⟩ := selectFlight_performs hselect
  rw [hbuffers] at hbook
  rw [hkept] at hedit
  refine ⟨drawn, flightsInformation, hdraw, hlist, ?_⟩
  -- at most one of the four panels acts, the others pass the session on
  unfold frameAction
  cases hinput : frame.input with
  | idle =>
    rw [hinput] at hseat hbook hedit hpick
    rw [seatAction_unclicked _ rfl] at hseat
    exact ((hseat.trans hbook).trans hedit).trans hpick
  | typed panel field text =>
    rw [hinput] at hseat hbook hedit hpick
    rw [seatAction_unclicked _ rfl] at hseat
    exact ((hseat.trans hbook).trans hedit).trans hpick
  | pressed button =>
    rw [hinput] at hseat hbook hedit hpick
    cases button with
    | seat label => exact ((hseat.trans_none hbook).trans_none hedit).trans_none hpick
    | book =>
      rw [seatAction_unclicked _ rfl] at hseat
      exact ((hseat.trans hbook).trans_none hedit).trans_none hpick
    | update =>
      rw [seatAction_unclicked _ rfl] at hseat
      exact ((hseat.trans hbook).trans hedit).trans_none hpick
    | delete =>
      rw [seatAction_unclicked _ rfl] at hseat
      exact ((hseat.trans hbook).trans hedit).trans_none hpick
    | select index =>
      rw [seatAction_unclicked _ rfl] at hseat
      exact ((hseat.trans hbook).trans hedit).trans hpick

namespace GuiApp

variable (datetimeToInt : String → ℤ) {app : GuiApp} {gui : Gui}

theorem step_dead {e : Fault} (h : app.gui = .error e) (frame : Frame) :
    app.step datetimeToInt frame = app := by
  simp [step, h]

theorem step_live (h : app.gui = .ok gui) (frame : Frame) :
    app.step datetimeToInt frame =
      ⟨(guiMain datetimeToInt frame app.db gui).1, (guiMain datetimeToInt frame app.db gui).2⟩ := by
  simp [step, h]

def Valid (app : GuiApp) : Prop := ∀ gui, app.gui = .ok gui → gui.session.Valid

theorem valid_start (db : Database) : (start db).Valid := by
  intro _ hlive
  cases hlive
  exact Session.valid_start

theorem valid_step (h : app.Valid) (frame : Frame) : (app.step datetimeToInt frame).Valid := by
  intro gui' hgui'
  cases hgui : app.gui with
  | error e =>
    rw [step_dead datetimeToInt hgui] at hgui'
    exact h gui' hgui'
  | ok gui =>
    rw [step_live datetimeToInt hgui] at hgui'
    obtain ⟨drawn, flightsInformation, _, _, hperforms⟩ :=
      guiMain_performs (Prod.ext rfl hgui' : guiMain datetimeToInt frame app.db gui = (_, .ok gui'))
    exact hperforms.valid (h gui hgui)

/-- Whatever is typed and pressed, the active seat map stays valid. -/
theorem valid_run (h : app.Valid) (frames : List Frame) :
    (Run.run (step datetimeToInt) app frames).Valid :=
  (Run.throughout_of_forall (step datetimeToInt) Valid (fun _ => True)
    (fun _ frame hvalid _ => valid_step datetimeToInt hvalid frame) app frames h
    fun _ _ => trivial).final

end GuiApp

end AirlineReservation.Frames
