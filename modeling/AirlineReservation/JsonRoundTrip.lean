import AirlineReservation.JsonText

/-!
Writing a seat map to a JSON file and reading it back. Writer and reader are two
lists of six members with the same keys; what is written for each is read back
by the conversion of the same type, over both levels of the grids. The writing
half of the JSON package is a parameter like the reading half.
-/

namespace AirlineReservation

/-- What `SaveToJSON` uses of the package: the values it builds and `dump(4)`. -/
structure JsonWriter (J : Type) where
  null : J
  ofInt : ℤ → J
  ofBool : Bool → J
  ofText : String → J
  ofElements : List J → J
  setField : J → String → J → J
  dump : J → String

namespace JsonWriter

variable {J α : Type} (writer : JsonWriter J)

/-- The value built by assigning to the fields one after the other. -/
def object (entries : List (String × J)) : J :=
  entries.foldl (fun data entry => writer.setField data entry.1 entry.2) writer.null

def ofGrid (of : α → J) (grid : List (List α)) : J :=
  writer.ofElements (grid.map fun row => writer.ofElements (row.map of))

/-- The conversions of the package undo each other on ints, truth values, texts
and arrays, and an object has for each of its keys the value assigned to it. -/
structure UndoneBy (lib : JsonLibrary J) : Prop where
  toInt_ofInt : ∀ i, -2 ^ 31 ≤ i → i < 2 ^ 31 → lib.toInt (writer.ofInt i) = .ok i
  toBool_ofBool : ∀ b, lib.toBool (writer.ofBool b) = .ok b
  toText_ofText : ∀ text, lib.toText (writer.ofText text) = .ok text
  elements_ofElements : ∀ values, lib.elements (writer.ofElements values) = .ok values
  field_object : ∀ entries key value, (entries.map Prod.fst).Nodup → (key, value) ∈ entries →
    lib.field (writer.object entries) key = .ok value

end JsonWriter

/-- The member of an object whose keys stand in order. -/
def setEntry (key : String) (value : Json) : List (String × Json) → List (String × Json)
  | [] => [(key, value)]
  | entry :: entries =>
    if key < entry.1 then (key, value) :: entry :: entries
    else if key = entry.1 then (key, value) :: entries
    else entry :: setEntry key value entries

/-- The writing half on documents whose numbers are whole. An assignment to a
field of null makes it an object. -/
def wholeWriter : JsonWriter Json where
  null := .null
  ofInt := .number
  ofBool := .boolean
  ofText := .string
  ofElements := .array
  setField
    | .null, key, value => .object [(key, value)]
    | .object entries, key, value => .object (setEntry key value entries)
    | data, _, _ => data
  dump data := String.ofList (data.dump 0)

namespace SeatMap

variable {J : Type}

/-- The six assignments to `data`, in order. -/
def members (writer : JsonWriter J) (s : SeatMap) : List (String × J) :=
  [("rows", writer.ofInt s.rows),
    ("cols", writer.ofInt s.cols),
    ("seatMap", writer.ofGrid writer.ofBool s.seatMap),
    ("passengerMap", writer.ofGrid writer.ofText s.passengerMap),
    ("emailMap", writer.ofGrid writer.ofText s.emailMap),
    ("maxLoadMap", writer.ofGrid writer.ofText s.maxLoadMap)]

def toData (writer : JsonWriter J) (s : SeatMap) : J := writer.object (s.members writer)

/-- The text that a file which can be opened holds afterwards. -/
def saveToJSON (writer : JsonWriter J) (s : SeatMap) : String :=
  writer.dump (s.toData writer)

end SeatMap

section Conversions

variable {J α : Type} {lib : JsonLibrary J} {writer : JsonWriter J}

theorem mapM_map_ok {convert : J → Except Fault α} {of : α → J}
    (h : ∀ a, convert (of a) = .ok a) (values : List α) :
    (values.map of).mapM convert = .ok values := by
  induction values with
  | nil => rfl
  | cons a rest ih =>
    rw [List.map_cons, List.mapM_cons, h a, ih]
    rfl

theorem JsonWriter.UndoneBy.toVector (h : writer.UndoneBy lib)
    {convert : J → Except Fault α} {of : α → J} (hof : ∀ a, convert (of a) = .ok a)
    (values : List α) :
    lib.toVector convert (writer.ofElements (values.map of)) = .ok values := by
  rw [JsonLibrary.toVector, h.elements_ofElements]
  exact mapM_map_ok hof values

/-- The vector rule applied to the rows, and to the entries of each row. -/
theorem JsonWriter.UndoneBy.toGrid (h : writer.UndoneBy lib)
    {convert : J → Except Fault α} {of : α → J} (hof : ∀ a, convert (of a) = .ok a)
    (grid : List (List α)) : lib.toGrid convert (writer.ofGrid of grid) = .ok grid :=
  h.toVector (fun row => h.toVector hof row) grid

end Conversions

section WholeNumbers

theorem lookup_entry (k : String) (entry : String × Json) (entries : List (String × Json)) :
    (entry :: entries).lookup k = if k = entry.1 then some entry.2 else entries.lookup k := by
  by_cases h : k = entry.1
  · have hbeq : (k == entry.1) = true := by simpa using h
    rw [List.lookup_cons, hbeq, if_pos h]
  · have hbeq : (k == entry.1) = false := by simpa using h
    rw [List.lookup_cons, hbeq, if_neg h]

theorem lookup_setEntry (key : String) (value : Json) (k : String)
    (entries : List (String × Json)) :
    (setEntry key value entries).lookup k = if k = key then some value else entries.lookup k := by
  induction entries with
  | nil => exact lookup_entry k (key, value) []
  | cons entry entries ih =>
    unfold setEntry
    by_cases hlt : key < entry.1
    · rw [if_pos hlt, lookup_entry]
    · by_cases heq : key = entry.1
      · rw [if_neg hlt, if_pos heq, lookup_entry, lookup_entry, heq]
        split <;> rfl
      · rw [if_neg hlt, if_neg heq, lookup_entry, lookup_entry, ih]
        by_cases hk : k = entry.1
        · have hne : k ≠ key := fun h => heq (h.symm.trans hk)
          rw [if_pos hk, if_neg hne, if_pos hk]
        · rw [if_neg hk, if_neg hk]

/-- A document that assignments to fields have built. -/
def IsObject (data : Json) : Prop := data = .null ∨ ∃ entries, data = .object entries

theorem isObject_setField (data : Json) (h : IsObject data) (key : String) (value : Json) :
    IsObject (wholeWriter.setField data key value) ∧
    ∀ k, wholeJson.field (wholeWriter.setField data key value) k =
      if k = key then .ok value else wholeJson.field data k := by
  rcases h with rfl | ⟨entries, rfl⟩
  · refine ⟨Or.inr ⟨_, rfl⟩, ?_⟩
    intro k
    have hlookup := lookup_entry k (key, value) []
    by_cases hk : k = key <;> simp [wholeJson, wholeWriter, hlookup, hk]
  · refine ⟨Or.inr ⟨_, rfl⟩, ?_⟩
    intro k
    by_cases hk : k = key <;> simp [wholeJson, wholeWriter, lookup_setEntry, hk]

theorem isObject_object (entries : List (String × Json)) (hkeys : (entries.map Prod.fst).Nodup) :
    IsObject (wholeWriter.object entries) ∧ ∀ key value, (key, value) ∈ entries →
      wholeJson.field (wholeWriter.object entries) key = .ok value := by
  induction entries using List.reverseRecOn with
  | nil => exact ⟨Or.inl rfl, by simp⟩
  | append_singleton entries entry ih =>
    rw [List.map_append, List.map_singleton, List.nodup_append] at hkeys
    obtain ⟨hnodup, _, hfresh⟩ := hkeys
    obtain ⟨hobject, hfields⟩ := ih hnodup
    have hset := isObject_setField _ hobject entry.1 entry.2
    rw [JsonWriter.object, List.foldl_concat]
    refine ⟨hset.1, ?_⟩
    intro key value hmem
    rw [JsonWriter.object] at hset
    rw [hset.2]
    rcases List.mem_append.mp hmem with hold | hnew
    · have hne : key ≠ entry.1 :=
        hfresh key (List.mem_map_of_mem hold) entry.1 List.mem_cons_self
      rw [if_neg hne]
      exact hfields key value hold
    · cases List.mem_singleton.mp hnew
      rw [if_pos rfl]

/-- On documents with whole numbers the conversions do undo each other. -/
theorem undoneBy_wholeWriter : wholeWriter.UndoneBy wholeJson where
  toInt_ofInt i hlow hhigh := by
    have hbmod : i.bmod (2 ^ 32) = i := by
      rw [Int.bmod_def]
      split <;> omega
    exact congrArg Except.ok hbmod
  toBool_ofBool b := rfl
  toText_ofText text := rfl
  elements_ofElements values := rfl
  field_object entries key value hkeys hmem :=
    (isObject_object entries hkeys).2 key value hmem

end WholeNumbers

namespace SeatMap

variable {J : Type} {lib : JsonLibrary J} {writer : JsonWriter J}

/-- A document whose six members convert to those of `s` is loaded as `s`. -/
theorem loadFromJSON_of_members (s t : SeatMap) (data : J)
    (hrows : (lib.field data "rows" >>= lib.toInt) = .ok s.rows)
    (hcols : (lib.field data "cols" >>= lib.toInt) = .ok s.cols)
    (hseat : (lib.field data "seatMap" >>= lib.toGrid lib.toBool) = .ok s.seatMap)
    (hpassenger :
      (lib.field data "passengerMap" >>= lib.toGrid lib.toText) = .ok s.passengerMap)
    (hemail : (lib.field data "emailMap" >>= lib.toGrid lib.toText) = .ok s.emailMap)
    (hmaxLoad : (lib.field data "maxLoadMap" >>= lib.toGrid lib.toText) = .ok s.maxLoadMap) :
    t.loadFromJSON lib (some (.ok data)) = (.ok (), s) := by
  rw [loadFromJSON, assignMembers, hrows, hcols, hseat, hpassenger, hemail, hmaxLoad]
  rfl

theorem nodup_members (writer : JsonWriter J) (s : SeatMap) :
    ((s.members writer).map Prod.fst).Nodup := by
  have hkeys : (s.members writer).map Prod.fst =
      ["rows", "cols", "seatMap", "passengerMap", "emailMap", "maxLoadMap"] := rfl
  rw [hkeys]
  decide

/-- A member that was written and whose value converts is read. -/
theorem field_toData {α : Type} (hundone : writer.UndoneBy lib) (s : SeatMap) {key : String}
    {value : J} {convert : J → Except Fault α} {v : α}
    (hmember : (key, value) ∈ s.members writer) (hconvert : convert value = .ok v) :
    (lib.field (s.toData writer) key >>= convert) = .ok v := by
  rw [toData, hundone.field_object _ _ _ (nodup_members writer s) hmember]
  exact hconvert

/-- Whatever `t` held, loading what `s` has saved makes it equal to `s`. -/
theorem loadFromJSON_saveToJSON (lib : JsonLibrary J) (writer : JsonWriter J)
    (hundone : writer.UndoneBy lib) (parse : String → Except Fault J) (s t : SeatMap)
    (hrows : -2 ^ 31 ≤ s.rows ∧ s.rows < 2 ^ 31) (hcols : -2 ^ 31 ≤ s.cols ∧ s.cols < 2 ^ 31)
    (hparse : parse (writer.dump (s.toData writer)) = .ok (s.toData writer)) :
    t.loadFromJSON lib (some (parse (s.saveToJSON writer))) = (.ok (), s) := by
  rw [saveToJSON, hparse]
  apply loadFromJSON_of_members
  · exact field_toData hundone s (by simp [members])
      (hundone.toInt_ofInt s.rows hrows.1 hrows.2)
  · exact field_toData hundone s (by simp [members])
      (hundone.toInt_ofInt s.cols hcols.1 hcols.2)
  · exact field_toData hundone s (by simp [members])
      (hundone.toGrid hundone.toBool_ofBool s.seatMap)
  · exact field_toData hundone s (by simp [members])
      (hundone.toGrid hundone.toText_ofText s.passengerMap)
  · exact field_toData hundone s (by simp [members])
      (hundone.toGrid hundone.toText_ofText s.emailMap)
  · exact field_toData hundone s (by simp [members])
      (hundone.toGrid hundone.toText_ofText s.maxLoadMap)

/-- A seat map with one booking is read back into a map of other dimensions. -/
theorem booking_read_back :
    (vacant 3 1).loadFromJSON wholeJson (some (Json.parse (saveToJSON wholeWriter
        ⟨1, 2, [[true, false]], [["", "Ann"]], [["", "ann@mail"]], [["", "20"]]⟩))) =
      (.ok (), ⟨1, 2, [[true, false]], [["", "Ann"]], [["", "ann@mail"]], [["", "20"]]⟩) :=
  loadFromJSON_saveToJSON wholeJson wholeWriter undoneBy_wholeWriter Json.parse _ (vacant 3 1)
    (by decide) (by decide) (Json.parse_dump _)

end SeatMap

end AirlineReservation
