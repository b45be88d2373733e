import AirlineReservation.SeatCells
import Mathlib.Data.List.Forall2

/-!
Loading a seat map from a JSON file. The JSON package is a parameter: what it
gives for a key of a document and how it converts a value. An array converts to
a vector element by element. `LoadFromJSON` assigns the six members one after
the other, so an exception leaves those it has reached already.
-/

namespace AirlineReservation

/-- What the program uses of the JSON package, on values of type J. -/
structure JsonLibrary (J : Type) where
  field : J → String → Except Fault J
  elements : J → Except Fault (List J)
  toInt : J → Except Fault ℤ
  toBool : J → Except Fault Bool
  toText : J → Except Fault String

namespace JsonLibrary

variable {J α : Type} (lib : JsonLibrary J)

/-- The conversion to a vector. -/
def toVector (convert : J → Except Fault α) (value : J) : Except Fault (List α) := do
  (← lib.elements value).mapM convert

/-- The conversion to a vector of vectors. -/
def toGrid (convert : J → Except Fault α) (value : J) : Except Fault (List (List α)) :=
  lib.toVector (lib.toVector convert) value

/-- The value is an array of arrays with these numbers of rows and columns. -/
def IsGrid (value : J) (rows cols : ℤ) : Prop :=
  ∃ lines, lib.elements value = .ok lines ∧ (lines.length : ℤ) = rows ∧
    ∀ line ∈ lines, ∃ entries, lib.elements line = .ok entries ∧ (entries.length : ℤ) = cols

/-- The four grids of the document have the dimensions that it names. -/
def Consistent (data : J) : Prop :=
  ∃ rows cols, (lib.field data "rows" >>= lib.toInt) = .ok rows ∧
    (lib.field data "cols" >>= lib.toInt) = .ok cols ∧
    ∀ key ∈ ["seatMap", "passengerMap", "emailMap", "maxLoadMap"],
      ∃ value, lib.field data key = .ok value ∧ lib.IsGrid value rows cols

end JsonLibrary

/-- Documents whose numbers are whole, for examples. -/
inductive Json
  | null
  | boolean (b : Bool)
  | number (i : ℤ)
  | string (text : String)
  | array (values : List Json)
  | object (entries : List (String × Json))

/-- The package on such documents: a missing key gives null, a number or a truth
value converts to an int of 32 bits, every other mismatch is an exception. -/
def wholeJson : JsonLibrary Json where
  field
    | .object entries, key => .ok ((entries.lookup key).getD .null)
    | .null, _ => .ok .null
    | _, _ => .error .jsonException
  elements
    | .array values => .ok values
    | _ => .error .jsonException
  toInt
    | .number i => .ok (i.bmod (2 ^ 32))
    | .boolean b => .ok (if b then 1 else 0)
    | _ => .error .jsonException
  toBool
    | .boolean b => .ok b
    | _ => .error .jsonException
  toText
    | .string text => .ok text
    | _ => .error .jsonException

namespace SeatMap

variable {J : Type}

/-- The member that is assigned next, or the exception of its conversion. -/
def assignMember {α : Type} (value : Except Fault α) (member : SeatMap → α → SeatMap) :
    ExceptT Fault (StateM SeatMap) Unit := do
  let v ← (ExceptT.mk (pure value) : ExceptT Fault (StateM SeatMap) α)
  modify fun s => member s v

def assignMembers (lib : JsonLibrary J) (data : J) : ExceptT Fault (StateM SeatMap) Unit := do
  assignMember (lib.field data "rows" >>= lib.toInt) fun s v => { s with rows := v }
  assignMember (lib.field data "cols" >>= lib.toInt) fun s v => { s with cols := v }
  assignMember (lib.field data "seatMap" >>= lib.toGrid lib.toBool)
    fun s v => { s with seatMap := v }
  assignMember (lib.field data "passengerMap" >>= lib.toGrid lib.toText)
    fun s v => { s with passengerMap := v }
  assignMember (lib.field data "emailMap" >>= lib.toGrid lib.toText)
    fun s v => { s with emailMap := v }
  assignMember (lib.field data "maxLoadMap" >>= lib.toGrid lib.toText)
    fun s v => { s with maxLoadMap := v }

/-- `file` is none when it cannot be opened, else what reading it gives. -/
def loadFromJSON (lib : JsonLibrary J) (s : SeatMap) (file : Option (Except Fault J)) :
    Except Fault Unit × SeatMap :=
  match file with
  | none => (.ok (), s)
  | some (.error e) => (.error e, s)
  | some (.ok data) => (assignMembers lib data).run.run s

end SeatMap

namespace JsonLibrary

variable {J α : Type} {lib : JsonLibrary J} {convert : J → Except Fault α} {value : J}

/-- A vector that was converted element by element. -/
theorem mapM_ok {β : Type} {f : J → Except Fault β} {l : List J} {vs : List β}
    (h : l.mapM f = .ok vs) : List.Forall₂ (fun a v => f a = .ok v) l vs := by
  induction l generalizing vs with
  | nil =>
    cases h
    exact List.Forall₂.nil
  | cons a rest ih =>
    rw [List.mapM_cons] at h
    obtain ⟨v, ha, h⟩ := exists_of_bind_ok h
    obtain ⟨vs', hrest, h⟩ := exists_of_bind_ok h
    cases Except.ok.inj h
    exact List.Forall₂.cons ha (ih hrest)

theorem toVector_ok {β : Type} {f : J → Except Fault β} {vs : List β}
    (h : lib.toVector f value = .ok vs) :
    ∃ l, lib.elements value = .ok l ∧ List.Forall₂ (fun a v => f a = .ok v) l vs := by
  obtain ⟨l, hl, hvs⟩ := exists_of_bind_ok h
  exact ⟨l, hl, mapM_ok hvs⟩

/-- What holds of corresponding elements holds of all of either list. -/
theorem forall_mem_iff {β γ : Type} {R : β → γ → Prop} {P : β → Prop} {Q : γ → Prop}
    {l : List β} {vs : List γ} (h : List.Forall₂ R l vs)
    (hiff : ∀ a v, R a v → (P a ↔ Q v)) : (∀ a ∈ l, P a) ↔ ∀ v ∈ vs, Q v := by
  induction h with
  | nil => simp
  | cons hav _ ih => simp only [List.forall_mem_cons, hiff _ _ hav, ih]

/-- Converting keeps the numbers of rows and columns. -/
theorem shape_toGrid_iff {g : List (List α)} (h : lib.toGrid convert value = .ok g)
    (rows cols : ℤ) : Grid.Shape g rows cols ↔ lib.IsGrid value rows cols := by
  obtain ⟨lines, hlines, hall⟩ := toVector_ok h
  have hlength := hall.length_eq
  have hwidth : (∀ line ∈ lines, ∃ entries, lib.elements line = .ok entries ∧
      (entries.length : ℤ) = cols) ↔ ∀ row ∈ g, (row.length : ℤ) = cols := by
    apply forall_mem_iff hall
    intro line row hrow
    obtain ⟨entries, hentries, hconverted⟩ := toVector_ok hrow
    simp [hentries, hconverted.length_eq]
  constructor
  · intro hshape
    obtain ⟨hrows, hcols⟩ := hshape
    exact ⟨lines, hlines, by rw [hlength, hrows], hwidth.mpr hcols⟩
  · intro hshape
    obtain ⟨lines', hlines', hrows, hcols⟩ := hshape
    cases Except.ok.inj (hlines.symm.trans hlines')
    exact ⟨by rw [← hlength, hrows], hwidth.mp hcols⟩

end JsonLibrary

namespace SeatMap

variable {J : Type} {lib : JsonLibrary J} {data : J} {s s' : SeatMap}

/-- An assignment that returns has converted its value. -/
theorem assignMember_ok {α : Type} {value : Except Fault α} {member : SeatMap → α → SeatMap}
    {next : ExceptT Fault (StateM SeatMap) Unit}
    (h : ((assignMember value member >>= fun _ => next).run.run s) = (.ok (), s')) :
    ∃ v, value = .ok v ∧ next.run.run (member s v) = (.ok (), s') := by
  cases value with
  | error e => exact absurd (Prod.mk.inj h).1 (by simp)
  | ok v => exact ⟨v, rfl, h⟩

theorem assignMember_last_ok {α : Type} {value : Except Fault α}
    {member : SeatMap → α → SeatMap}
    (h : (assignMember value member).run.run s = (.ok (), s')) :
    ∃ v, value = .ok v ∧ s' = member s v := by
  cases value with
  | error e => exact absurd (Prod.mk.inj h).1 (by simp)
  | ok v => exact ⟨v, rfl, (Prod.mk.inj h).2.symm⟩

/-- An accepted document replaces all six members. -/
theorem loadFromJSON_ok (h : loadFromJSON lib s (some (.ok data)) = (.ok (), s')) :
    (lib.field data "rows" >>= lib.toInt) = .ok s'.rows ∧
    (lib.field data "cols" >>= lib.toInt) = .ok s'.cols ∧
    (lib.field data "seatMap" >>= lib.toGrid lib.toBool) = .ok s'.seatMap ∧
    (lib.field data "passengerMap" >>= lib.toGrid lib.toText) = .ok s'.passengerMap ∧
    (lib.field data "emailMap" >>= lib.toGrid lib.toText) = .ok s'.emailMap ∧
    (lib.field data "maxLoadMap" >>= lib.toGrid lib.toText) = .ok s'.maxLoadMap := by
  unfold loadFromJSON assignMembers at h
  obtain ⟨rows, hrows, h⟩ := assignMember_ok h
  obtain ⟨cols, hcols, h⟩ := assignMember_ok h
  obtain ⟨seatMap, hseat, h⟩ := assignMember_ok h
  obtain ⟨passengerMap, hpassenger, h⟩ := assignMember_ok h
  obtain ⟨emailMap, hemail, h⟩ := assignMember_ok h
  obtain ⟨maxLoadMap, hmaxLoad, rfl⟩ := assignMember_last_ok h
  exact ⟨hrows, hcols, hseat, hpassenger, hemail, hmaxLoad⟩

theorem isGrid_of_field {α : Type} {convert : J → Except Fault α} {key : String}
    {g : List (List α)} (h : (lib.field data key >>= lib.toGrid convert) = .ok g)
    (rows cols : ℤ) :
    Grid.Shape g rows cols ↔
      ∃ value, lib.field data key = .ok value ∧ lib.IsGrid value rows cols := by
  cases hvalue : lib.field data key with
  | error e =>
    rw [hvalue] at h
    contradiction
  | ok value =>
    rw [hvalue] at h
    rw [JsonLibrary.shape_toGrid_iff h]
    simp

/-- The loaded map has its shape exactly when the document is consistent. -/
theorem shaped_loadFromJSON_iff
    (h : loadFromJSON lib s (some (.ok data)) = (.ok (), s')) :
    s'.Shaped ↔ lib.Consistent data := by
  obtain ⟨hrows, hcols, hseat, hpassenger, hemail, hmaxLoad⟩ := loadFromJSON_ok h
  constructor
  · intro hs
    refine ⟨s'.rows, s'.cols, hrows, hcols, ?_⟩
    simp only [List.forall_mem_cons]
    exact ⟨(isGrid_of_field hseat _ _).mp hs.seat,
      (isGrid_of_field hpassenger _ _).mp hs.passenger,
      (isGrid_of_field hemail _ _).mp hs.email,
      (isGrid_of_field hmaxLoad _ _).mp hs.maxLoad, by simp⟩
  · intro hconsistent
    obtain ⟨rows, cols, hrows', hcols', hgrids⟩ := hconsistent
    cases Except.ok.inj (hrows.symm.trans hrows')
    cases Except.ok.inj (hcols.symm.trans hcols')
    simp only [List.forall_mem_cons] at hgrids
    obtain ⟨h1, h2, h3, h4, _⟩ := hgrids
    exact ⟨(isGrid_of_field hseat _ _).mpr h1, (isGrid_of_field hpassenger _ _).mpr h2,
      (isGrid_of_field hemail _ _).mpr h3, (isGrid_of_field hmaxLoad _ _).mpr h4⟩

end SeatMap

end AirlineReservation
