import AirlineReservation.FlightButtons
import AirlineReservation.Library.Simulation

/-!
Frames in which the keyboard only types. The widgets of a frame are drawn one after
another on one context, and once a button was pressed or a field was edited nothing
else can be done in it: so a frame is one of those that the panels are modelled by. Of
the Select buttons only the first can be pressed, since they all have one identifier.
-/

namespace AirlineReservation.Widgets

open Frames Buttons

/-- The fields of a panel. -/
def fieldIds : Panel → List Id
  | .createBookings =>
    [getID "Create Bookings" "Passenger Name", getID "Create Bookings" "Email Address",
      getID "Create Bookings" "Max Load"]
  | .manageBookings =>
    [getID "Manage Bookings" "Update Passenger Name",
      getID "Manage Bookings" "Update Email Address",
      getID "Manage Bookings" "Update Passenger Max Load"]

theorem eq_of_mem_fieldIds {panel panel' : Panel} {id : Id} (h : id ∈ fieldIds panel)
    (h' : id ∈ fieldIds panel') : panel = panel' := by
  have hshared : (fieldIds .createBookings).filter (· ∈ fieldIds .manageBookings) = [] := by
    decide +kernel
  have hdisjoint : ∀ id ∈ fieldIds .createBookings, id ∉ fieldIds .manageBookings := by
    simpa [List.filter_eq_nil_iff] using hshared
  cases panel <;> cases panel'
  · rfl
  · exact absurd h' (hdisjoint id h)
  · exact absurd h (hdisjoint id h')
  · rfl

/-- An identifier of no field. -/
def NoField (id : Id) : Prop := ∀ panel, id ∉ fieldIds panel

instance (id : Id) : Decidable (NoField id) :=
  decidable_of_iff (id ∉ fieldIds .createBookings ∧ id ∉ fieldIds .manageBookings)
    ⟨fun h panel => by cases panel; exacts [h.1, h.2], fun h => ⟨h _, h _⟩⟩

/-- What is asked of the mouse, the keyboard and the widgets that are no buttons. The keyboard
activates nothing and types only into a field that is active, and not while the mouse goes
down. A field becomes active by a click. With the mouse up and no widget active the window of
the flight search leaves it at that. -/
structure ByMouse (frame : WidgetFrame) : Prop where
  nav : frame.io.navActivateDownId = none
  amadeusWindow : ∀ g, Spent frame.io g → Spent frame.io (frame.amadeusWindow g)
  focus : ∀ panel g id, (frame.texts panel g).2.activeId = some id →
    g.activeId = some id ∨ frame.io.mouseClicked = true ∧ id ∈ fieldIds panel
  typing : ∀ panel g, (frame.texts panel g).1 ≠ none →
    frame.io.mouseClicked = false ∧ ∃ id ∈ fieldIds panel, g.activeId = some id

/-- The frame on atomic widgets with this input. -/
def WidgetFrame.at (frame : WidgetFrame) (input : Input) : Frame :=
  ⟨input, frame.listing,
    match input with
    | .pressed b => frame.outcomes b
    | _ => .succeed⟩

/-- The window without the context. -/
def Drawn.forget (drawn : Drawn) : Database × Except Fault Gui :=
  (drawn.1, drawn.2.map Prod.fst)

/-- What can be done with the mouse and by typing: of a row of buttons with one identifier
only the first can be pressed. -/
def Possible (input : Input) : Prop := ∀ index, input = .pressed (.select index) → index = 0

theorem possible_pressed {b : Button} (h : ∀ index, b ≠ .select index) : Possible (.pressed b) :=
  fun index heq => absurd (Input.pressed.inj heq) (h index)

/-- The context once the user has done this: nothing else can be done in the frame. -/
def After (frame : WidgetFrame) (input : Input) (g : Context Id) : Prop :=
  match input with
  | .idle => False
  | .typed panel _ _ =>
    frame.io.mouseClicked = false ∧ ∀ id, g.activeId = some id → id ∈ fieldIds panel
  | .pressed _ => Spent frame.io g

def Drawn.After (frame : WidgetFrame) (input : Input) (drawn : Drawn) : Prop :=
  ∀ gui g, drawn.2 = .ok (gui, g) → Widgets.After frame input g

/-- A part of a frame with the inputs `own`: it is the part on atomic widgets for one of them
or for none. After an input from `before` it is the idle one. -/
structure Draws (frame : WidgetFrame) (before own : Input → Prop)
    (part : Database → Gui → Context Id → Drawn)
    (atomic : Input → Database → Gui → Database × Except Fault Gui) : Prop where
  touched : ∀ db gui g, (part db gui g).forget = atomic .idle db gui ∨
    ∃ input, own input ∧ Possible input ∧ (part db gui g).forget = atomic input db gui ∧
      (part db gui g).After frame input
  after : ∀ input, before input → ¬ own input → ∀ db gui g, After frame input g →
    (part db gui g).forget = atomic .idle db gui ∧ (part db gui g).After frame input
  foreign : ∀ input, ¬ own input → atomic input = atomic .idle

section Then

variable {frame : WidgetFrame} {before before' own own' : Input → Prop}
  {part part' : Database → Gui → Context Id → Drawn}
  {atomic atomic' : Input → Database → Gui → Database × Except Fault Gui}

theorem forget_andThen {drawn : Drawn} {next : Database → Gui → Context Id → Drawn}
    {result : Database × Except Fault Gui} {next' : Database → Gui → Database × Except Fault Gui}
    (h : drawn.forget = result)
    (hnext : ∀ db gui g, drawn = (db, .ok (gui, g)) → (next db gui g).forget = next' db gui) :
    (andThen drawn next).forget = Frames.andThen result next' := by
  subst h
  obtain ⟨db, window⟩ := drawn
  cases window with
  | error e => rfl
  | ok window =>
    obtain ⟨gui, g⟩ := window
    exact hnext db gui g rfl

theorem after_andThen {input : Input} {drawn : Drawn}
    {next : Database → Gui → Context Id → Drawn}
    (hnext : ∀ db gui g, drawn = (db, .ok (gui, g)) → (next db gui g).After frame input) :
    (andThen drawn next).After frame input := by
  obtain ⟨db, window⟩ := drawn
  cases window with
  | error e =>
    intro gui g h
    contradiction
  | ok window =>
    obtain ⟨gui, g⟩ := window
    exact hnext db gui g rfl

/-- Parts with different inputs, one after the other. -/
theorem Draws.andThen (h : Draws frame before own part atomic)
    (h' : Draws frame before' own' part' atomic')
    (hdisjoint : ∀ input, own input → ¬ own' input)
    (hbefore : ∀ input, before input ∨ own input → before' input) :
    Draws frame before (fun input => own input ∨ own' input)
      (fun db gui g => andThen (part db gui g) part')
      (fun input db gui => Frames.andThen (atomic input db gui) (atomic' input)) := by
  refine ⟨?_, ?_, ?_⟩
  · intro db gui g
    rcases h.touched db gui g with hidle | ⟨input, hown, hpossible, hatomic, hafter⟩
    · cases hdrawn : part db gui g with
      | mk db₁ window =>
        rw [hdrawn] at hidle
        cases window with
        | error e =>
          refine Or.inl (forget_andThen hidle ?_)
          intro _ _ _ heq
          cases heq
        | ok window =>
          obtain ⟨gui₁, g₁⟩ := window
          rcases h'.touched db₁ gui₁ g₁ with
            hidle' | ⟨input, hown', hpossible, hatomic, hafter⟩
          · refine Or.inl (forget_andThen hidle ?_)
            intro _ _ _ heq
            cases heq
            exact hidle'
          · refine Or.inr ⟨input, Or.inr hown', hpossible, ?_, hafter⟩
            have hnot : ¬ own input := fun hown => hdisjoint input hown hown'
            rw [← h.foreign input hnot] at hidle
            refine forget_andThen hidle ?_
            intro _ _ _ heq
            cases heq
            exact hatomic
    · have hlater : ∀ db₁ gui₁ g₁, part db gui g = (db₁, .ok (gui₁, g₁)) →
          (part' db₁ gui₁ g₁).forget = atomic' .idle db₁ gui₁ ∧
            (part' db₁ gui₁ g₁).After frame input := by
        intro db₁ gui₁ g₁ heq
        exact h'.after input (hbefore input (Or.inr hown)) (hdisjoint input hown) db₁ gui₁ g₁
          (hafter gui₁ g₁ (by rw [heq]))
      refine Or.inr ⟨input, Or.inl hown, hpossible, ?_, ?_⟩
      · refine forget_andThen hatomic ?_
        intro db₁ gui₁ g₁ heq
        rw [h'.foreign input (hdisjoint input hown)]
        exact (hlater db₁ gui₁ g₁ heq).1
      · exact after_andThen fun db₁ gui₁ g₁ heq => (hlater db₁ gui₁ g₁ heq).2
  · intro input hearlier hnot db gui g hstart
    obtain ⟨hidle, hafter⟩ := h.after input hearlier (fun hown => hnot (Or.inl hown)) db gui g
      hstart
    have hlater : ∀ db₁ gui₁ g₁, part db gui g = (db₁, .ok (gui₁, g₁)) →
        (part' db₁ gui₁ g₁).forget = atomic' .idle db₁ gui₁ ∧
          (part' db₁ gui₁ g₁).After frame input := by
      intro db₁ gui₁ g₁ heq
      exact h'.after input (hbefore input (Or.inl hearlier)) (fun hown => hnot (Or.inr hown)) db₁
        gui₁ g₁ (hafter gui₁ g₁ (by rw [heq]))
    refine ⟨forget_andThen hidle ?_, after_andThen ?_⟩
    · exact fun db₁ gui₁ g₁ heq => (hlater db₁ gui₁ g₁ heq).1
    · exact fun db₁ gui₁ g₁ heq => (hlater db₁ gui₁ g₁ heq).2
  · intro input hnot
    rw [h.foreign input fun hown => hnot (Or.inl hown),
      h'.foreign input fun hown => hnot (Or.inr hown)]

theorem Draws.congr (h : Draws frame before own part atomic)
    {part' : Database → Gui → Context Id → Drawn}
    {atomic' : Input → Database → Gui → Database × Except Fault Gui}
    (hown : ∀ input, own input → own' input) (hpart : ∀ db gui g, part' db gui g = part db gui g)
    (hatomic : ∀ input db gui, atomic' input db gui = atomic input db gui) :
    Draws frame before own' part' atomic' := by
  have hparts : part' = part := funext fun db => funext fun gui => funext (hpart db gui)
  have hatomics : atomic' = atomic :=
    funext fun input => funext fun db => funext (hatomic input db)
  rw [hparts, hatomics]
  refine ⟨?_, ?_, fun input hnot => h.foreign input fun h => hnot (hown input h)⟩
  · intro db gui g
    rcases h.touched db gui g with hidle | ⟨input, hinput, hrest⟩
    · exact Or.inl hidle
    · exact Or.inr ⟨input, hown input hinput, hrest⟩
  · intro input hearlier hnot
    exact h.after input hearlier fun h => hnot (hown input h)

/-- A part without buttons. -/
theorem Draws.passive {others : Context Id → Context Id}
    (hothers : ∀ input g, before input → After frame input g → After frame input (others g)) :
    Draws frame before (fun _ => False) (fun db gui g => (db, .ok (gui, others g)))
      (fun _ db gui => (db, .ok gui)) := by
  refine ⟨fun _ _ _ => Or.inl rfl, ?_, fun _ _ => rfl⟩
  intro input hearlier _ db gui g hstart
  refine ⟨rfl, ?_⟩
  intro gui' g' h
  cases h
  exact hothers input g hearlier hstart

/-- In each window a part without widgets, or with an exception, or one that is known. -/
theorem Draws.of_cases
    (h : ∀ db gui,
      (∃ result : Except Fault Unit, (∀ g, part db gui g = (db, result.map fun _ => (gui, g))) ∧
        ∀ input, atomic input db gui = (db, result.map fun _ => gui)) ∨
      ∃ part₁ atomic₁, Draws frame before own part₁ atomic₁ ∧
        (∀ g, part db gui g = part₁ db gui g) ∧
        ∀ input, atomic input db gui = atomic₁ input db gui) :
    Draws frame before own part atomic := by
  refine ⟨?_, ?_, ?_⟩
  · intro db gui g
    rcases h db gui with ⟨result, hpart, hatomic⟩ | ⟨part₁, atomic₁, hdraws, hpart, hatomic⟩
    · rw [hpart, hatomic]
      refine Or.inl ?_
      cases result <;> rfl
    · simp only [hpart, hatomic]
      exact hdraws.touched db gui g
  · intro input hearlier hnot db gui g hstart
    rcases h db gui with ⟨result, hpart, hatomic⟩ | ⟨part₁, atomic₁, hdraws, hpart, hatomic⟩
    · rw [hpart, hatomic]
      cases result with
      | error e => exact ⟨rfl, fun _ _ h => by contradiction⟩
      | ok =>
        refine ⟨rfl, ?_⟩
        intro gui' g' h
        cases h
        exact hstart
    · rw [hpart, hatomic]
      exact hdraws.after input hearlier hnot db gui g hstart
  · intro input hnot
    funext db gui
    rcases h db gui with ⟨result, _, hatomic⟩ | ⟨part₁, atomic₁, hdraws, _, hatomic⟩
    · simp only [hatomic]
    · simp only [hatomic]
      exact congrFun (congrFun (hdraws.foreign input hnot) db) gui

end Then

section Press

variable {frame : WidgetFrame} (hmouse : ByMouse frame) {b : Button} {label : String}
  {g : Context Id}
include hmouse

theorem ByMouse.not_navPressed (id : Id) : ¬ NavPressed frame.io id := by
  intro h
  have hdown := h.1
  rw [hmouse.nav] at hdown
  contradiction

theorem ByMouse.press_spent (h : Spent frame.io g) : frame.press b label g = (false, g) :=
  button_spent (hmouse.not_navPressed _) h

variable (b label g) in
theorem ByMouse.spent_of_press (h : (frame.press b label g).1 = true) :
    Spent frame.io (frame.press b label g).2 :=
  spent_of_pressed (hmouse.not_navPressed _) h

/-- With the mouse up and no widget active nothing is edited. -/
theorem ByMouse.unedited (panel : Panel) (h : Spent frame.io g) :
    (frame.texts panel g).1 = none ∧ Spent frame.io (frame.texts panel g).2 := by
  obtain ⟨hup, hnone⟩ := h
  refine ⟨?_, hup, ?_⟩
  · by_contra hedited
    obtain ⟨_, id, _, hactive⟩ := hmouse.typing panel g hedited
    rw [hnone] at hactive
    contradiction
  · rw [Option.eq_none_iff_forall_ne_some]
    intro id hactive
    rcases hmouse.focus panel g id hactive with hbefore | ⟨hclicked, _⟩
    · rw [hnone] at hbefore
      contradiction
    · rw [not_clicked_of_up hup] at hclicked
      contradiction

theorem ByMouse.after_typed {panel : Panel} (h : (frame.texts panel g).1 ≠ none) (field : Field)
    (text : CharBuffer) : After frame (.typed panel field text) (frame.texts panel g).2 := by
  obtain ⟨hclick, id, hid, hactive⟩ := hmouse.typing panel g h
  refine ⟨hclick, ?_⟩
  intro id' hactive'
  rcases hmouse.focus panel g id' hactive' with hbefore | ⟨hclicked, _⟩
  · cases Option.some.inj (hactive.symm.trans hbefore)
    exact hid
  · rw [hclick] at hclicked
    contradiction

/-- After an edit in one panel nothing is edited in the other. -/
theorem ByMouse.typed_other {panel panel' : Panel} {field : Field} {text : CharBuffer}
    (hne : panel' ≠ panel) (h : After frame (.typed panel' field text) g) :
    (frame.texts panel g).1 = none ∧
      After frame (.typed panel' field text) (frame.texts panel g).2 := by
  obtain ⟨hclick, hfields⟩ := h
  refine ⟨?_, hclick, ?_⟩
  · by_contra hedited
    obtain ⟨_, id, hid, hactive⟩ := hmouse.typing panel g hedited
    exact hne (eq_of_mem_fieldIds (hfields id hactive) hid)
  · intro id hactive
    rcases hmouse.focus panel g id hactive with hbefore | ⟨hclicked, _⟩
    · exact hfields id hbefore
    · rw [hclick] at hclicked
      contradiction

/-- A button that is no field cannot be pressed after an input. -/
theorem ByMouse.press_after (hid : NoField (getID (windowName b) label)) {input : Input}
    (h : After frame input g) :
    (frame.press b label g).1 = false ∧ After frame input (frame.press b label g).2 := by
  cases input with
  | idle => exact absurd h id
  | pressed b' =>
    rw [hmouse.press_spent h]
    exact ⟨rfl, h⟩
  | typed panel field text =>
    have hsame : frame.press b label g = (false, g) :=
      button_inactive (hmouse.not_navPressed _) h.1 fun hactive => hid panel (h.2 _ hactive)
    rw [hsame]
    exact ⟨rfl, h⟩

/-- A button and its handler. -/
theorem ByMouse.draws_button {part : Database → Gui → Context Id → Drawn}
    {handler : Database → Gui → Database × Except Fault Gui}
    {atomic : Input → Database → Gui → Database × Except Fault Gui}
    (hid : NoField (getID (windowName b) label)) (hb : Possible (.pressed b))
    (hpart : ∀ db gui g, part db gui g = if (frame.press b label g).1 then
      withContext (frame.press b label g).2 (handler db gui)
      else (db, .ok (gui, (frame.press b label g).2)))
    (hpressed : atomic (.pressed b) = handler)
    (hidle : ∀ input, input ≠ .pressed b → atomic input = fun db gui => (db, .ok gui)) :
    Draws frame (fun _ => True) (fun input => input = .pressed b) part atomic := by
  have hnone : atomic .idle = fun db gui => (db, .ok gui) := hidle .idle (by simp)
  refine ⟨?_, ?_, ?_⟩
  · intro db gui g
    have hspent := hmouse.spent_of_press b label g
    rw [hpart, hnone]
    cases hpress : (frame.press b label g).1 with
    | false => exact Or.inl rfl
    | true =>
      refine Or.inr ⟨.pressed b, rfl, hb, ?_, ?_⟩
      · rw [hpressed]
        cases hresult : handler db gui with
        | mk db' window => cases window <;> rfl
      · intro gui' g' h
        cases hresult : handler db gui with
        | mk db' window =>
          rw [hresult] at h
          cases window with
          | error e => contradiction
          | ok gui₁ =>
            cases h
            exact hspent hpress
  · intro input _ _ db gui g hstart
    obtain ⟨hpress, hkept⟩ := hmouse.press_after hid hstart
    rw [hpart, hnone, hpress]
    refine ⟨rfl, ?_⟩
    intro gui' g' h
    cases h
    exact hkept
  · intro input hnot
    rw [hidle input hnot, hnone]

end Press

/-- The `strcpy_s` before the button of a taken seat. -/
def beforeSeat (flight : Flight) (seat : Bool) (gui : Gui) : Except Fault Gui :=
  if seat then .ok gui else refill flight gui

/-- One seat of the loop. -/
def seatButton (flight : Flight) (frame : WidgetFrame) (seatLNum : ℕ) (seat : Bool)
    (label seatRNum : ℕ) (db : Database) (gui : Gui) (g : Context Id) : Drawn :=
  match beforeSeat flight seat gui with
  | .error e => (db, .error e)
  | .ok gui =>
    let (pressed, g) := frame.press (.seat label) (seatLabel seat seatLNum seatRNum label) g
    (db, .ok (if pressed then gui.selectSeat seatLNum seatRNum else gui, g))

/-- The same on an input. -/
def seatInput (flight : Flight) (seatLNum : ℕ) (seat : Bool) (label seatRNum : ℕ) (input : Input)
    (db : Database) (gui : Gui) : Database × Except Fault Gui :=
  match beforeSeat flight seat gui with
  | .error e => (db, .error e)
  | .ok gui =>
    (db, .ok (if clicked input = some label then gui.selectSeat seatLNum seatRNum else gui))

theorem drawSeats_cons (flight : Flight) (frame : WidgetFrame) (seatLNum : ℕ) (seat : Bool)
    (rest : List Bool) (label seatRNum : ℕ) (db : Database) (gui : Gui) (g : Context Id) :
    ((db, drawSeats flight frame seatLNum (seat :: rest) label seatRNum g gui) : Drawn) =
      andThen (seatButton flight frame seatLNum seat label seatRNum db gui g)
        fun db gui g =>
          (db, drawSeats flight frame seatLNum rest (label + 1) ((seatRNum + 1) % 2 ^ 16) g
            gui) := by
  simp only [drawSeats, seatButton, beforeSeat, bind, Except.bind]
  cases (if seat then .ok gui else refill flight gui : Except Fault Gui) <;> rfl

theorem frames_drawSeats_cons (flight : Flight) (input : Input) (seatLNum : ℕ) (seat : Bool)
    (rest : List Bool) (label seatRNum : ℕ) (db : Database) (gui : Gui) :
    (db, Frames.drawSeats flight input seatLNum (seat :: rest) label seatRNum gui) =
      Frames.andThen (seatInput flight seatLNum seat label seatRNum input db gui)
        fun db gui => (db, Frames.drawSeats flight input seatLNum rest (label + 1)
          ((seatRNum + 1) % 2 ^ 16) gui) := by
  simp only [Frames.drawSeats, seatInput, beforeSeat, bind, Except.bind]
  cases (if seat then .ok gui else refill flight gui : Except Fault Gui) <;> rfl

section Seats

variable {frame : WidgetFrame} (hmouse : ByMouse frame) (flight : Flight)
include hmouse

/-- Only a press of an earlier seat comes before a seat. -/
def IsPress (input : Input) : Prop := ∃ b, input = .pressed b

theorem draws_seat (seatLNum : ℕ) (seat : Bool) (label seatRNum : ℕ) :
    Draws frame IsPress (fun input => input = .pressed (.seat label))
      (seatButton flight frame seatLNum seat label seatRNum)
      (seatInput flight seatLNum seat label seatRNum) := by
  refine ⟨?_, ?_, ?_⟩
  · intro db gui g
    unfold seatButton seatInput
    cases beforeSeat flight seat gui with
    | error e => exact Or.inl rfl
    | ok gui₁ =>
      have hspent := hmouse.spent_of_press (.seat label)
        (seatLabel seat seatLNum seatRNum label) g
      obtain ⟨⟨pressed, g₁⟩, hpress⟩ : ∃ result, frame.press (.seat label)
        (seatLabel seat seatLNum seatRNum label) g = result := ⟨_, rfl⟩
      rw [hpress] at hspent ⊢
      cases pressed with
      | false => exact Or.inl rfl
      | true =>
        refine Or.inr ⟨.pressed (.seat label), rfl, possible_pressed (by simp), ?_, ?_⟩
        · simp [Drawn.forget, clicked, Except.map]
        · intro gui' g' h
          cases h
          exact hspent rfl
  · intro input hearlier _ db gui g hstart
    obtain ⟨b, rfl⟩ := hearlier
    have hspent : Spent frame.io g := hstart
    unfold seatButton seatInput
    cases beforeSeat flight seat gui with
    | error e => exact ⟨rfl, fun _ _ h => by contradiction⟩
    | ok gui₁ =>
      rw [hmouse.press_spent hspent]
      refine ⟨rfl, ?_⟩
      intro gui' g' h
      cases h
      exact hspent
  · intro input hnot
    have hother : clicked input ≠ some label := by
      intro h
      unfold clicked at h
      split at h
      · next l => exact hnot (congrArg (fun l => Input.pressed (.seat l)) (Option.some.inj h))
      · contradiction
    have hidle : clicked .idle ≠ some label := by simp [clicked]
    funext db gui
    simp only [seatInput, if_neg hother, if_neg hidle]

/-- The seats of a row. -/
theorem draws_seats (seatLNum : ℕ) (row : List Bool) (label seatRNum : ℕ) :
    Draws frame IsPress
      (fun input => ∃ l, input = .pressed (.seat l) ∧ label ≤ l ∧ l < label + row.length)
      (fun db gui g => (db, drawSeats flight frame seatLNum row label seatRNum g gui))
      (fun input db gui =>
        (db, Frames.drawSeats flight input seatLNum row label seatRNum gui)) := by
  induction row generalizing label seatRNum with
  | nil =>
    exact (Draws.passive fun _ _ _ h => h).congr (fun _ => False.elim) (fun _ _ _ => rfl)
      fun _ _ _ => rfl
  | cons seat rest ih =>
    refine ((draws_seat hmouse flight seatLNum seat label seatRNum).andThen
      (ih (label + 1) ((seatRNum + 1) % 2 ^ 16)) ?_ ?_).congr ?_
      (fun _ _ _ => drawSeats_cons flight frame seatLNum seat rest label seatRNum _ _ _)
      fun _ _ _ => frames_drawSeats_cons flight _ seatLNum seat rest label seatRNum _ _
    · intro input hown hlater
      obtain ⟨l, rfl, hlow, _⟩ := hlater
      cases hown
      omega
    · intro input h
      exact h.elim id fun hown => ⟨_, hown⟩
    · intro input h
      simp only [List.length_cons]
      rcases h with rfl | ⟨l, rfl, hlow, hhigh⟩
      · exact ⟨label, rfl, by omega, by omega⟩
      · exact ⟨l, rfl, by omega, by omega⟩

/-- The rows of the grid. -/
theorem draws_rows (rows : List (List Bool)) (label seatLNum : ℕ) :
    Draws frame IsPress (fun input => ∃ l, input = .pressed (.seat l) ∧ label ≤ l)
      (fun db gui g => (db, drawRows flight frame rows label seatLNum g gui))
      (fun input db gui => (db, Frames.drawRows flight input rows label seatLNum gui)) := by
  induction rows generalizing label seatLNum with
  | nil =>
    exact (Draws.passive fun _ _ _ h => h).congr (fun _ => False.elim) (fun _ _ _ => rfl)
      fun _ _ _ => rfl
  | cons row rest ih =>
    refine ((draws_seats hmouse flight seatLNum row label 0).andThen
      (ih (label + row.length) ((seatLNum + 1) % 2 ^ 16)) ?_ ?_).congr ?_ ?_ ?_
    · intro input hown hlater
      obtain ⟨l, rfl, _, hhigh⟩ := hown
      obtain ⟨l', heq, hlow⟩ := hlater
      cases heq
      omega
    · intro input h
      rcases h with h | ⟨l, rfl, _⟩
      · exact h
      · exact ⟨_, rfl⟩
    · intro input h
      rcases h with ⟨l, rfl, hlow, _⟩ | ⟨l, rfl, hlow⟩
      · exact ⟨l, rfl, hlow⟩
      · exact ⟨l, rfl, by omega⟩
    · intro db gui g
      simp only [drawRows, bind, Except.bind]
      cases drawSeats flight frame seatLNum row label 0 g gui <;> rfl
    · intro input db gui
      simp only [Frames.drawRows, bind, Except.bind]
      cases Frames.drawSeats flight input seatLNum row label 0 gui <;> rfl

omit flight in
theorem draws_seatMapGUI :
    Draws frame IsPress (fun input => ∃ l, input = .pressed (.seat l)) (seatMapGUI frame)
      (fun input db gui => (db, Frames.seatMapGUI input gui)) := by
  refine Draws.of_cases ?_
  intro db gui
  unfold seatMapGUI Frames.seatMapGUI
  cases gui.session.activeFlight with
  | none => exact Or.inl ⟨.ok (), fun _ => rfl, fun _ => rfl⟩
  | some flight =>
    refine Or.inr ⟨_, _, (draws_rows hmouse flight flight.seatMap.seatMap 0 0).congr
      ?_ (fun _ _ _ => rfl) fun _ _ _ => rfl, fun _ => rfl, fun _ => rfl⟩
    intro input h
    obtain ⟨l, hinput, _⟩ := h
    exact ⟨l, hinput⟩

end Seats

section Panels

variable {frame : WidgetFrame} (hmouse : ByMouse frame)
include hmouse

/-- The `InputText` calls of a panel on an input. -/
def textsInput (panel : Panel) (input : Input) (db : Database) (gui : Gui) :
    Database × Except Fault Gui :=
  (db, .ok (match panel with
    | .createBookings => { gui with create := Frames.inputTexts panel input gui.create }
    | .manageBookings => { gui with manage := Frames.inputTexts panel input gui.manage }))

omit hmouse in
theorem inputTexts_eq (panel : Panel) (db : Database) (gui : Gui) (g : Context Id) :
    inputTexts panel frame db gui g =
      (db, .ok (edited gui panel (frame.texts panel g).1, (frame.texts panel g).2)) := rfl

theorem draws_inputTexts (panel : Panel) :
    Draws frame (fun _ => True) (fun input => ∃ field text, input = .typed panel field text)
      (inputTexts panel frame) (textsInput panel) := by
  have hidle : ∀ input, (¬ ∃ field text, input = .typed panel field text) →
      textsInput panel input = fun db gui => (db, .ok gui) := by
    intro input hnot
    funext db gui
    have hkeep : ∀ buffers, Frames.inputTexts panel input buffers = buffers := by
      intro buffers
      unfold Frames.inputTexts
      split
      · next panel' field text =>
        rw [if_neg]
        rintro rfl
        exact hnot ⟨field, text, rfl⟩
      · rfl
    cases panel <;> simp only [textsInput, hkeep]
  have hnone : textsInput panel .idle = fun db gui => (db, .ok gui) := hidle .idle (by simp)
  refine ⟨?_, ?_, ?_⟩
  · intro db gui g
    have hafter : (frame.texts panel g).1 ≠ none → ∀ field text,
        After frame (.typed panel field text) (frame.texts panel g).2 := hmouse.after_typed
    rw [hnone, inputTexts_eq]
    cases hedit : (frame.texts panel g).1 with
    | none => exact Or.inl rfl
    | some edit =>
      obtain ⟨field, text⟩ := edit
      refine Or.inr ⟨.typed panel field text, ⟨field, text, rfl⟩, fun _ h => by contradiction,
        ?_, ?_⟩
      · cases panel <;> simp only [textsInput, Frames.inputTexts, if_true] <;> rfl
      · intro gui' g' h
        cases h
        exact hafter (by simp [hedit]) field text
  · intro input _ hnot db gui g hstart
    rw [hnone]
    have hunedited : (frame.texts panel g).1 = none ∧
        After frame input (frame.texts panel g).2 := by
      cases input with
      | idle => exact absurd hstart id
      | pressed b => exact hmouse.unedited panel hstart
      | typed panel' field text =>
        exact hmouse.typed_other (fun heq => hnot ⟨field, text, by rw [heq]⟩) hstart
    rw [inputTexts_eq, hunedited.1]
    refine ⟨rfl, ?_⟩
    intro gui' g' h
    cases h
    exact hunedited.2
  · intro input hnot
    rw [hidle input hnot, hnone]

/-- The Book button on an input. -/
def bookInput (flight : Flight) (frame : WidgetFrame) (input : Input) (db : Database) (gui : Gui) :
    Database × Except Fault Gui :=
  match input with
  | .pressed .book => gui.after (bookPressed (frame.outcomes .book) db flight gui.session
      gui.create.name.text gui.create.email.text gui.create.maxLoad.text)
  | _ => (db, .ok gui)

def updateInput (flight : Flight) (frame : WidgetFrame) (input : Input) (db : Database)
    (gui : Gui) : Database × Except Fault Gui :=
  match input with
  | .pressed .update => gui.after (updatePressed (frame.outcomes .update) db flight gui.session
      gui.manage.name.text gui.manage.email.text gui.manage.maxLoad.text)
  | _ => (db, .ok gui)

def deleteInput (flight : Flight) (frame : WidgetFrame) (input : Input) (db : Database)
    (gui : Gui) : Database × Except Fault Gui :=
  match input with
  | .pressed .delete => gui.after (deletePressed (frame.outcomes .delete) db flight gui.session)
  | _ => (db, .ok gui)

def belowUpdateInput (frame : WidgetFrame) (input : Input) (db : Database) (gui : Gui) :
    Database × Except Fault Gui :=
  match gui.session.activeFlight with
  | none => (db, .ok gui)
  | some flight => deleteInput flight frame input db gui

theorem draws_bookButton (flight : Flight) :
    Draws frame (fun _ => True) (fun input => input = .pressed .book) (bookButton flight frame)
      (bookInput flight frame) :=
  hmouse.draws_button (by decide +kernel : NoField (getID (windowName .book) "Book"))
    (possible_pressed (by simp)) (fun _ _ _ => rfl) rfl (by
      intro input hnot
      funext db gui
      unfold bookInput
      split
      · exact absurd rfl hnot
      · rfl)

theorem draws_createBookings :
    Draws frame (fun _ => True)
      (fun input => (∃ field text, input = .typed .createBookings field text) ∨
        input = .pressed .book)
      (createBookings frame) (fun input => Frames.createBookings (frame.at input)) := by
  refine Draws.of_cases ?_
  intro db gui
  unfold createBookings Frames.createBookings
  cases gui.session.activeFlight with
  | none => exact Or.inl ⟨.ok (), fun _ => rfl, fun _ => rfl⟩
  | some flight =>
    refine Or.inr ⟨_, _, (draws_inputTexts hmouse .createBookings).andThen
      (draws_bookButton hmouse flight) ?_ (fun _ _ => trivial), fun _ => rfl, ?_⟩
    · rintro input ⟨field, text, rfl⟩ hlater
      contradiction
    · intro input
      cases input with
      | pressed b => cases b <;> rfl
      | _ => rfl

theorem draws_updateButton (flight : Flight) :
    Draws frame (fun _ => True) (fun input => input = .pressed .update)
      (updateButton flight frame) (updateInput flight frame) :=
  hmouse.draws_button (by decide +kernel : NoField (getID (windowName .update) "Update"))
    (possible_pressed (by simp)) (fun _ _ _ => rfl) rfl (by
      intro input hnot
      funext db gui
      unfold updateInput
      split
      · exact absurd rfl hnot
      · rfl)

theorem draws_deleteButton (flight : Flight) :
    Draws frame (fun _ => True) (fun input => input = .pressed .delete)
      (deleteButton flight frame) (deleteInput flight frame) :=
  hmouse.draws_button (by decide +kernel : NoField (getID (windowName .delete) "Delete"))
    (possible_pressed (by simp)) (fun _ _ _ => rfl) rfl (by
      intro input hnot
      funext db gui
      unfold deleteInput
      split
      · exact absurd rfl hnot
      · rfl)

theorem draws_belowUpdate :
    Draws frame (fun _ => True) (fun input => input = .pressed .delete)
      (belowUpdate frame) (belowUpdateInput frame) := by
  refine Draws.of_cases ?_
  intro db gui
  unfold belowUpdate belowUpdateInput
  cases gui.session.activeFlight with
  | none => exact Or.inl ⟨.ok (), fun _ => rfl, fun _ => rfl⟩
  | some flight =>
    exact Or.inr ⟨_, _, draws_deleteButton hmouse flight, fun _ => rfl, fun _ => rfl⟩

omit hmouse in
/-- With a taken seat selected the panel is its fields and its two buttons. -/
theorem manageBookings_at {flight : Flight} {gui : Gui}
    (hactive : gui.session.activeFlight = some flight)
    (hseat : flight.seatMap.isSeatAvailable gui.session.selectedRowCol.1
      gui.session.selectedRowCol.2 = .ok false) (input : Input) (db : Database) :
    Frames.manageBookings (frame.at input) db gui =
      Frames.andThen (Frames.andThen (textsInput .manageBookings input db gui)
        (updateInput flight frame input)) (belowUpdateInput frame input) := by
  unfold Frames.manageBookings
  simp only [hactive, hseat, textsInput, Frames.andThen]
  cases input with
  | pressed b =>
    cases b with
    | update =>
      simp only [WidgetFrame.at, Frames.inputTexts, updateInput]
      obtain ⟨db', session⟩ := updatePressed (frame.outcomes .update) db flight gui.session
        gui.manage.name.text gui.manage.email.text gui.manage.maxLoad.text
      cases session with
      | error e => rfl
      | ok session =>
        simp only [Gui.after, Except.map, belowUpdateInput, deleteInput]
        cases session.activeFlight <;> rfl
    | _ => simp only [WidgetFrame.at, Frames.inputTexts, updateInput, belowUpdateInput, hactive,
        deleteInput]
  | _ => simp only [WidgetFrame.at, Frames.inputTexts, updateInput, belowUpdateInput, hactive,
      deleteInput]

theorem draws_manageBookings :
    Draws frame (fun _ => True)
      (fun input => ((∃ field text, input = .typed .manageBookings field text) ∨
        input = .pressed .update) ∨ input = .pressed .delete)
      (manageBookings frame) (fun input => Frames.manageBookings (frame.at input)) := by
  refine Draws.of_cases ?_
  intro db gui
  cases hactive : gui.session.activeFlight with
  | none =>
    refine Or.inl ⟨.ok (), fun g => ?_, fun input => ?_⟩
    · simp only [manageBookings, hactive, Except.map]
    · simp only [Frames.manageBookings, hactive, Except.map]
  | some flight =>
    cases hseat : flight.seatMap.isSeatAvailable gui.session.selectedRowCol.1
        gui.session.selectedRowCol.2 with
    | error e =>
      refine Or.inl ⟨.error e, fun g => ?_, fun input => ?_⟩
      · simp only [manageBookings, hactive, hseat, Except.map]
      · simp only [Frames.manageBookings, hactive, hseat, Except.map]
    | ok available =>
      cases available with
      | true =>
        refine Or.inl ⟨.ok (), fun g => ?_, fun input => ?_⟩
        · simp only [manageBookings, hactive, hseat, Except.map]
        · simp only [Frames.manageBookings, hactive, hseat, Except.map]
      | false =>
        refine Or.inr ⟨_, _, ((draws_inputTexts hmouse .manageBookings).andThen
          (draws_updateButton hmouse flight) ?_ (fun _ _ => trivial)).andThen
          (draws_belowUpdate hmouse) ?_ (fun _ _ => trivial), fun g => ?_,
          fun input => manageBookings_at hactive hseat input db⟩
        · rintro input ⟨field, text, rfl⟩ hlater
          contradiction
        · rintro input (⟨field, text, rfl⟩ | rfl) hlater <;> cases hlater
        · simp only [manageBookings, hactive, hseat]

/-- The Select buttons do not share their identifier with a field. -/
def SelectApart (flightId : String) : Prop := NoField (selectId flightId)

instance (flightId : String) : Decidable (SelectApart flightId) :=
  inferInstanceAs (Decidable (NoField (selectId flightId)))

theorem selectButtons_after (db : Database) {flightId : String} (hid : SelectApart flightId)
    {input : Input} (flightsInformation : List FlightInformation) (index : ℕ) (gui : Gui)
    {g : Context Id} (h : After frame input g) :
    ∃ g', selectButtons frame db flightId flightsInformation index gui g = .ok (gui, g') ∧
      After frame input g' := by
  induction flightsInformation generalizing index g with
  | nil => exact ⟨g, rfl, h⟩
  | cons flightInformation rest ih =>
    obtain ⟨hpressed, hafter⟩ := hmouse.press_after hid h (b := .select index)
    obtain ⟨g', hrest, hlast⟩ := ih (index + 1) hafter
    refine ⟨g', ?_, hlast⟩
    simp only [selectButtons, hpressed]
    exact hrest

omit hmouse in
/-- Without a press of a Select button the list is only read. -/
theorem selectFlight_at (frame : WidgetFrame) (datetimeToInt : String → ℤ) (input : Input)
    (hnot : ¬ ∃ index, input = .pressed (.select index)) (db : Database) (gui : Gui) :
    Frames.selectFlight datetimeToInt (frame.at input) db gui =
      (db, (getFlightsInfo datetimeToInt db frame.listing).result.map fun _ => gui) := by
  unfold Frames.selectFlight
  simp only [WidgetFrame.at]
  cases (getFlightsInfo datetimeToInt db frame.listing).result with
  | error e => rfl
  | ok flightsInformation =>
    cases input with
    | pressed b =>
      cases b with
      | select index => exact absurd ⟨index, rfl⟩ hnot
      | _ => rfl
    | _ => rfl

theorem draws_selectFlight (datetimeToInt : String → ℤ) {flightId : String}
    (hid : SelectApart flightId) :
    Draws frame (fun _ => True) (fun input => ∃ index, input = .pressed (.select index))
      (selectFlight datetimeToInt flightId frame)
      (fun input => Frames.selectFlight datetimeToInt (frame.at input)) := by
  have hidle := selectFlight_at frame datetimeToInt
  refine ⟨?_, ?_, ?_⟩
  · intro db gui g
    rw [hidle .idle (by simp)]
    unfold selectFlight Frames.selectFlight
    simp only [WidgetFrame.at]
    cases (getFlightsInfo datetimeToInt db frame.listing).result with
    | error e => exact Or.inl rfl
    | ok flightsInformation =>
      cases flightsInformation with
      | nil => exact Or.inl rfl
      | cons flightInformation rest =>
        have hspent := hmouse.spent_of_press (.select 0) (btnCodeLabel flightId) g
        simp only [selectButtons]
        cases hpressed : (frame.press (.select 0) (btnCodeLabel flightId) g).1 with
        | false =>
          have hnav := hmouse.not_navPressed (selectId flightId)
          obtain ⟨g', hrest⟩ := selectButtons_passed hnav db rest (0 + 1) gui
            (passed_after hnav 0 g)
          refine Or.inl ?_
          simp only [Bool.false_eq_true, if_false]
          rw [hrest]
          rfl
        | true =>
          -- after the press of the first nothing can be pressed
          have hafter : After frame (.pressed (.select 0))
              (frame.press (.select 0) (btnCodeLabel flightId) g).2 := hspent hpressed
          refine Or.inr ⟨.pressed (.select 0), ⟨0, rfl⟩, ?_, ?_, ?_⟩
          · intro index h
            cases h
            rfl
          · simp only [if_true, List.getElem?_cons_zero, Gui.after]
            cases selectPressed (frame.outcomes (.select 0)) db flightInformation gui.session with
            | error e => rfl
            | ok session =>
              obtain ⟨g', hrest, _⟩ := selectButtons_after hmouse db hid rest (0 + 1)
                { gui with session := session } hafter
              simp only [bind, Except.bind, hrest]
              rfl
          · intro gui' g' h
            simp only [if_true] at h
            obtain ⟨session, _, h⟩ := exists_of_bind_ok h
            obtain ⟨g₁, hrest, hlast⟩ := selectButtons_after hmouse db hid rest (0 + 1)
              { gui with session := session } hafter
            rw [hrest] at h
            cases h
            exact hlast
  · intro input _ hnot db gui g hstart
    rw [hidle .idle (by simp)]
    unfold selectFlight
    cases (getFlightsInfo datetimeToInt db frame.listing).result with
    | error e => exact ⟨rfl, fun _ _ h => by contradiction⟩
    | ok flightsInformation =>
      obtain ⟨g', hdraw, hlast⟩ := selectButtons_after hmouse db hid flightsInformation 0 gui hstart
      simp only [hdraw]
      refine ⟨rfl, ?_⟩
      intro gui' g'' h
      cases h
      exact hlast
  · intro input hnot
    funext db gui
    rw [hidle input hnot, hidle .idle (by simp)]

end Panels

section Guimain

variable {frame : WidgetFrame} (hmouse : ByMouse frame)
include hmouse

/-- A frame is the one on atomic widgets for what the user has done in it. -/
theorem guiMain_mouse (datetimeToInt : String → ℤ) (db : Database) (gui : Gui) (g : Context Id)
    (hid : SelectApart (flightId gui.session)) :
    ∃ input, Possible input ∧ (guiMain datetimeToInt frame db gui g).forget =
      Frames.guiMain datetimeToInt (frame.at input) db gui := by
  have hothers : ∀ input g, IsPress input ∨ (∃ l, input = .pressed (.seat l)) →
      After frame input g → After frame input (frame.amadeusWindow g) := by
    intro input g hpress hafter
    have hpressed : ∃ b, input = .pressed b := hpress.elim id fun ⟨l, h⟩ => ⟨.seat l, h⟩
    obtain ⟨b, rfl⟩ := hpressed
    exact hmouse.amadeusWindow g hafter
  have hgrid := (draws_seatMapGUI hmouse).andThen (Draws.passive hothers) (by simp)
    fun _ h => h
  have hcreate := hgrid.andThen (draws_createBookings hmouse) (by
    intro input hown hlater
    rcases hown with ⟨l, rfl⟩ | hfalse
    · rcases hlater with ⟨field, text, h⟩ | h <;> cases h
    · exact hfalse) fun _ _ => trivial
  have hmanage := hcreate.andThen (draws_manageBookings hmouse) (by
    intro input hown hlater
    rcases hlater with (⟨field, text, rfl⟩ | rfl) | rfl <;> simp at hown) fun _ _ => trivial
  have hselect := hmanage.andThen (draws_selectFlight hmouse datetimeToInt hid) (by
    intro input hown hlater
    obtain ⟨index, rfl⟩ := hlater
    simp at hown) fun _ _ => trivial
  have hframe : ∀ input, Frames.andThen (Frames.andThen (Frames.andThen (Frames.andThen
      (db, Frames.seatMapGUI input gui) fun db gui => (db, .ok gui))
      (Frames.createBookings (frame.at input))) (Frames.manageBookings (frame.at input)))
      (Frames.selectFlight datetimeToInt (frame.at input)) =
        Frames.guiMain datetimeToInt (frame.at input) db gui := by
    intro input
    have hpass : Frames.andThen (db, Frames.seatMapGUI input gui) (fun db gui => (db, .ok gui)) =
        (db, Frames.seatMapGUI input gui) := by
      cases Frames.seatMapGUI input gui <;> rfl
    rw [hpass]
    rfl
  rcases hselect.touched db gui (frame.newFrame g) with hidle | ⟨input, _, hpossible, hinput, _⟩
  · exact ⟨.idle, fun _ h => by contradiction, hidle.trans (hframe .idle)⟩
  · exact ⟨input, hpossible, hinput.trans (hframe input)⟩

end Guimain

abbrev MouseFrame := {frame : WidgetFrame // ByMouse frame}

def WidgetApp.mouseStep (datetimeToInt : String → ℤ) (app : WidgetApp) (frame : MouseFrame) :
    WidgetApp :=
  app.step datetimeToInt frame.1

/-- The window on atomic widgets with the same database, or ended for the same reason; the
first flight is active if one is. -/
structure Follows (db : Database) (app : WidgetApp) (app' : GuiApp) : Prop where
  stored : app'.db = app.db
  window : app'.gui = app.window.map Prod.fst
  keeps : app.Keeps (IsFirst db) db

theorem follows_step (datetimeToInt : String → ℤ) {db : Database}
    (hids : ∀ flightId, IsFirst db flightId → SelectApart flightId) :
    Simulation.Follows (WidgetApp.mouseStep datetimeToInt) (GuiApp.step datetimeToInt)
      (fun frame frame' => ∃ input, Possible input ∧ frame' = frame.1.at input) (Follows db) := by
  intro app app' frame hfollows
  obtain ⟨db', window⟩ := app
  obtain ⟨hdb, hgui, hkeeps⟩ := hfollows
  have hkept := first_flight_step hkeeps datetimeToInt frame.2.nav
  cases window with
  | error e =>
    refine ⟨frame.1.at .idle, ⟨.idle, fun _ h => by contradiction, rfl⟩, ?_⟩
    rw [GuiApp.step_dead datetimeToInt hgui]
    exact ⟨hdb, hgui, hkept⟩
  | ok window =>
    obtain ⟨gui, g⟩ := window
    have hid : SelectApart (flightId gui.session) := by
      unfold flightId
      split
      · next flight hactive => exact hids _ (hkeeps.active gui.session rfl flight hactive)
      · decide +kernel
    obtain ⟨input, hpossible, hframe⟩ := guiMain_mouse frame.2 datetimeToInt db' gui g hid
    refine ⟨frame.1.at input, ⟨input, hpossible, rfl⟩, ?_⟩
    rw [GuiApp.step_live datetimeToInt hgui, hdb, ← hframe]
    exact ⟨rfl, rfl, hkept⟩

theorem byMouse_example (down : Bool) (pointed : Button) :
    ByMouse (exampleFrame (mouseIo down) pointed) := by
  refine ⟨rfl, fun _ hspent => hspent, fun _ _ _ hactive => .inl hactive, ?_⟩
  intro panel g hedited
  exact absurd rfl hedited

def clickMouse (pointed : Button) : List MouseFrame :=
  [⟨exampleFrame (mouseIo true) pointed, byMouse_example true pointed⟩,
    ⟨exampleFrame (mouseIo false) pointed, byMouse_example false pointed⟩]

end AirlineReservation.Widgets
