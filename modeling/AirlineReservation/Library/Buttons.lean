import Mathlib.Data.List.Basic

/-!
Buttons of an immediate-mode interface. A widget is drawn by a call that returns
whether it was pressed, and what it knows from earlier calls is the context: which
widget is active, by its identifier, and who activated it. A button becomes active
when it is clicked and reports the press when the mouse is released over it; with
the keyboard it is pressed at once.

Two buttons with one identifier share that state. The results say what becomes of a
row of them, and that a frame without the keyboard has at most one press.
-/

namespace Buttons

variable {ι : Type*} [DecidableEq ι]

inductive Source
  | mouse
  | nav
  deriving DecidableEq, Repr

structure Context (ι : Type*) where
  activeId : Option ι
  activeIdSource : Source
  navId : Option ι

/-- What holds during a frame. A click is the first frame in which the button is down. -/
structure Io (ι : Type*) where
  mouseClicked : Bool
  mouseDown : Bool
  clicked_down : mouseClicked = true → mouseDown = true
  dragDropActive : Bool
  navActivateId : Option ι
  navActivateDownId : Option ι
  navActivatePressedId : Option ι
  navActivateInputId : Option ι
  navJustMovedToId : Option ι

/-- What the tests on its rectangle give for an item: whether it is within the clipping
rectangle, and whether the mouse or the navigation hovers it. -/
structure Item where
  visible : Bool
  hovered : Bool
  navHovered : Bool
  deriving DecidableEq, Repr

section Behavior

variable (io : Io ι) (item : Item) (id : ι) (g : Context ι)

def setActiveID : Context ι :=
  { g with
    activeId := some id
    activeIdSource :=
      if io.navActivateId = some id ∨ io.navActivateInputId = some id ∨
        io.navJustMovedToId = some id then .nav else .mouse }

def clearActiveID : Context ι := { g with activeId := none }

def setFocusID : Context ι := { g with navId := some id }

/-- The mouse goes down on the button. -/
def clickedOn : Context ι :=
  if item.hovered = true ∧ io.mouseClicked = true ∧ g.activeId ≠ some id then
    setFocusID id (setActiveID io id g)
  else g

/-- The button is activated by the keyboard. -/
def NavPressed : Prop :=
  io.navActivateDownId = some id ∧
    (io.navActivateId = some id ∨ io.navActivatePressedId = some id)

instance : Decidable (NavPressed io id) := inferInstanceAs (Decidable (_ ∧ _))

def navActivated : Context ι :=
  if NavPressed io id then
    setFocusID id { setActiveID io id g with activeIdSource := .nav }
  else g

/-- While the button is active: the release, and what stays active. -/
def whileHeld : Bool × Context ι :=
  if g.activeId = some id then
    match g.activeIdSource with
    | .mouse =>
      if io.mouseDown then (false, g)
      else ((item.hovered || item.navHovered) && !io.dragDropActive, clearActiveID g)
    | .nav => (false, if io.navActivateDownId = some id then g else clearActiveID g)
  else (false, g)

/-- A button with the default flags: pressed on click and release. -/
def buttonBehavior : Bool × Context ι :=
  let (released, g) := whileHeld io item id (navActivated io id (clickedOn io item id g))
  (decide (NavPressed io id) || released, g)

/-- An item is skipped with its window, and clipped unless it is active or navigated to. -/
def button (skipItems : Bool) : Bool × Context ι :=
  if skipItems then (false, g)
  else if item.visible = false ∧ g.activeId ≠ some id ∧ g.navId ≠ some id then (false, g)
  else buttonBehavior io item id g

end Behavior

section Mouse

variable {io : Io ι} {item : Item} {id : ι} {g : Context ι}

theorem buttonBehavior_mouse (hnav : ¬ NavPressed io id) :
    buttonBehavior io item id g = whileHeld io item id (clickedOn io item id g) := by
  simp [buttonBehavior, navActivated, hnav]

omit [DecidableEq ι] in
theorem not_clicked_of_up (hup : io.mouseDown = false) : io.mouseClicked = false := by
  cases hclicked : io.mouseClicked with
  | false => rfl
  | true =>
    rw [io.clicked_down hclicked] at hup
    contradiction

/-- Without a click nothing becomes active. -/
theorem clickedOn_of_not_clicked (hclick : io.mouseClicked = false) :
    clickedOn io item id g = g := by
  simp [clickedOn, hclick]

theorem clickedOn_up (hup : io.mouseDown = false) : clickedOn io item id g = g :=
  clickedOn_of_not_clicked (not_clicked_of_up hup)

/-- A release of the mouse counts for a button with this identifier. -/
structure Releasable (io : Io ι) (id : ι) (g : Context ι) : Prop where
  up : io.mouseDown = false
  active : g.activeId = some id
  source : g.activeIdSource = .mouse

variable {skipItems : Bool}

/-- A press comes from the release of the mouse. -/
theorem releasable_of_pressed (hnav : ¬ NavPressed io id)
    (h : (button io item id g skipItems).1 = true) :
    skipItems = false ∧ Releasable io id g := by
  unfold button at h
  split at h
  · contradiction
  · next hskip =>
    split at h
    · contradiction
    · rw [buttonBehavior_mouse hnav] at h
      unfold whileHeld at h
      split at h
      · next hactive =>
        split at h
        · next hsource =>
          split at h
          · contradiction
          · next hdown =>
            have hup : io.mouseDown = false := by simpa using hdown
            rw [clickedOn_up hup] at hactive hsource
            exact ⟨by simpa using hskip, hup, hactive, hsource⟩
        · contradiction
      · contradiction

variable (item g skipItems) in
/-- With the mouse up a button leaves the context or ends the active widget. -/
theorem button_up_context (hnav : ¬ NavPressed io id) (hup : io.mouseDown = false) :
    (button io item id g skipItems).2 = g ∨
      (button io item id g skipItems).2 = clearActiveID g := by
  unfold button
  split
  · exact Or.inl rfl
  · split
    · exact Or.inl rfl
    · rw [buttonBehavior_mouse hnav, clickedOn_up hup]
      unfold whileHeld
      split
      · split
        · simp [hup]
        · split
          · exact Or.inl rfl
          · exact Or.inr rfl
      · exact Or.inl rfl

/-- A button that is drawn takes the release, whether or not the mouse is over it. -/
theorem button_releasable (hnav : ¬ NavPressed io id) (h : Releasable io id g) :
    button io item id g false =
      ((item.hovered || item.navHovered) && !io.dragDropActive, clearActiveID g) := by
  obtain ⟨hup, hactive, hsource⟩ := h
  have hshown : ¬ (item.visible = false ∧ g.activeId ≠ some id ∧ g.navId ≠ some id) :=
    fun hclipped => hclipped.2.1 hactive
  rw [button, if_neg (by simp), if_neg hshown, buttonBehavior_mouse hnav, clickedOn_up hup,
    whileHeld, if_pos hactive, hsource]
  simp [hup]

omit [DecidableEq ι] in
theorem not_releasable_clear : ¬ Releasable io id (clearActiveID g) :=
  fun h => absurd h.active (by simp [clearActiveID])

/-- Where no release counts, the button reports nothing and none counts afterwards. -/
theorem button_not_releasable (hnav : ¬ NavPressed io id) (h : ¬ Releasable io id g) :
    (button io item id g skipItems).1 = false ∧
      ¬ Releasable io id (button io item id g skipItems).2 := by
  refine ⟨?_, ?_⟩
  · by_contra hpressed
    exact h (releasable_of_pressed hnav (by simpa using hpressed)).2
  · intro hafter
    rcases button_up_context item g skipItems hnav hafter.up with hsame | hclear
    · exact h (hsame ▸ hafter)
    · exact not_releasable_clear (hclear ▸ hafter)

/-- After a button that is drawn no release counts for its identifier any more. -/
theorem not_releasable_after (hnav : ¬ NavPressed io id) :
    ¬ Releasable io id (button io item id g false).2 := by
  by_cases h : Releasable io id g
  · rw [button_releasable hnav h]
    exact not_releasable_clear
  · exact (button_not_releasable hnav h).2

/-- The mouse is up and no widget is active: nothing can be pressed any more. -/
def Spent (io : Io ι) (g : Context ι) : Prop := io.mouseDown = false ∧ g.activeId = none

theorem spent_of_pressed (hnav : ¬ NavPressed io id)
    (h : (button io item id g skipItems).1 = true) :
    Spent io (button io item id g skipItems).2 := by
  obtain ⟨rfl, hreleasable⟩ := releasable_of_pressed hnav h
  rw [button_releasable hnav hreleasable]
  exact ⟨hreleasable.up, rfl⟩

/-- Without a click a button that is not active does nothing. -/
theorem button_inactive (hnav : ¬ NavPressed io id) (hclick : io.mouseClicked = false)
    (hne : g.activeId ≠ some id) : button io item id g skipItems = (false, g) := by
  unfold button
  split
  · rfl
  · split
    · rfl
    · rw [buttonBehavior_mouse hnav, clickedOn_of_not_clicked hclick, whileHeld, if_neg hne]

theorem button_spent (hnav : ¬ NavPressed io id) (h : Spent io g) :
    button io item id g skipItems = (false, g) := by
  obtain ⟨hup, hnone⟩ := h
  exact button_inactive hnav (not_clicked_of_up hup) (by simp [hnone])

end Mouse

section Keyboard

variable {io : Io ι} {item : Item} {id : ι} {g : Context ι}

theorem buttonBehavior_nav (hnav : NavPressed io id) :
    (buttonBehavior io item id g).1 = true ∧
      (buttonBehavior io item id g).2.navId = some id := by
  have hdown : io.navActivateDownId = some id := hnav.1
  simp [buttonBehavior, navActivated, hnav, whileHeld, setFocusID, setActiveID, hdown]

variable (item g) in
/-- A button that the keyboard activates is pressed unless it is clipped, and every later
one with its identifier is drawn. -/
theorem button_nav (hnav : NavPressed io id) :
    button io item id g false = (false, g) ∨
      (button io item id g false).1 = true ∧
        (button io item id g false).2.navId = some id := by
  unfold button
  rw [if_neg (by simp)]
  split
  · exact Or.inl rfl
  · exact Or.inr (buttonBehavior_nav hnav)

variable (item) in
theorem button_nav_shown (hnav : NavPressed io id) (hshown : g.navId = some id) :
    (button io item id g false).1 = true ∧
      (button io item id g false).2.navId = some id := by
  have hnot : ¬ (item.visible = false ∧ g.activeId ≠ some id ∧ g.navId ≠ some id) :=
    fun hclipped => hclipped.2.2 hshown
  rw [button, if_neg (by simp), if_neg hnot]
  exact buttonBehavior_nav hnav

end Keyboard

end Buttons
