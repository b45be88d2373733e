import AirlineReservation.JsonLoading
import AirlineReservation.Library.Reading

/-!
The text of a JSON document as `dump(4)` writes it, and its parser, on documents
whose numbers are whole. Every document is read back from its text.
-/

namespace AirlineReservation.Json

open Reading

mutual

/-- The text of a value that stands `depth` levels inside the document. -/
def dump (depth : ℕ) : Json → List Char
  | .null => "null".toList
  | .boolean true => "true".toList
  | .boolean false => "false".toList
  | .number i => writeInt i
  | .string text => quote text.toList
  | .array values => '[' :: enclosed ']' depth (dumpValues (depth + 1) values)
  | .object entries => '\x7b' :: enclosed '\x7d' depth (dumpEntries (depth + 1) entries)

def dumpValues (depth : ℕ) : List Json → List (List Char)
  | [] => []
  | value :: values => dump depth value :: dumpValues depth values

def dumpEntries (depth : ℕ) : List (String × Json) → List (List Char)
  | [] => []
  | (key, value) :: entries =>
    (quote key.toList ++ ':' :: ' ' :: dump depth value) :: dumpEntries depth entries

end

section Dump

variable (depth : ℕ)

theorem dump_array (values : List Json) :
    dump depth (.array values) = '[' :: enclosed ']' depth (dumpValues (depth + 1) values) := rfl

theorem dump_object (entries : List (String × Json)) :
    dump depth (.object entries) =
      '\x7b' :: enclosed '\x7d' depth (dumpEntries (depth + 1) entries) := rfl

theorem dumpValues_cons (value : Json) (values : List Json) :
    dumpValues depth (value :: values) = dump depth value :: dumpValues depth values := rfl

theorem dumpEntries_cons (key : String) (value : Json) (entries : List (String × Json)) :
    dumpEntries depth ((key, value) :: entries) =
      (quote key.toList ++ ':' :: ' ' :: dump depth value) :: dumpEntries depth entries := rfl

end Dump

/-- A key, a colon and a value. -/
def readEntry (value : List Char → Option (Json × List Char)) (cs : List Char) :
    Option ((String × Json) × List Char) :=
  match cs with
  | [] => none
  | c :: cs =>
    if c = '"' then
      (readQuoted cs).bind fun key =>
        match skipSpace key.2 with
        | [] => none
        | c :: cs =>
          if c = ':' then
            (value (skipSpace cs)).map fun p => ((String.ofList key.1, p.1), p.2)
          else none
    else none

/-- A value, which the first character of the text tells apart. -/
def readValue : ℕ → List Char → Option (Json × List Char)
  | 0, _ => none
  | _ + 1, [] => none
  | n + 1, c :: cs =>
    if c = 'n' then keyword "null".toList .null (c :: cs)
    else if c = 't' then keyword "true".toList (.boolean true) (c :: cs)
    else if c = 'f' then keyword "false".toList (.boolean false) (c :: cs)
    else if c = '"' then (readQuoted cs).map fun p => (.string (String.ofList p.1), p.2)
    else if c = '[' then (sequence (readValue n) ']' n cs).map fun p => (.array p.1, p.2)
    else if c = '\x7b' then
      (sequence (readEntry (readValue n)) '\x7d' n cs).map fun p => (.object p.1, p.2)
    else (readInt (c :: cs)).map fun p => (.number p.1, p.2)

/-- `file >> data` reads one value and does not look at what follows it. -/
def parse (text : String) : Except Fault Json :=
  match readValue text.toList.length (skipSpace text.toList) with
  | none => .error .jsonException
  | some (data, _) => .ok data

/-- The characters that `readValue` and the end of an array look for. -/
def marks : List Char := [' ', '\t', '\n', '\r', ']', 'n', 't', 'f', '"', '[', '\x7b']

/-- The first character of a number is none of the marks. -/
theorem not_mem_marks {c : Char} (hc : c = '-' ∨ c.isDigit = true) : c ∉ marks := by
  intro hmem
  have hmarks : marks.all (fun mark => mark != '-' && !mark.isDigit) = true := by decide
  have hmark := List.all_eq_true.mp hmarks c hmem
  rw [Bool.and_eq_true, bne_iff_ne, Bool.not_eq_true'] at hmark
  obtain ⟨hsign, hdigit⟩ := hmark
  rcases hc with heq | hc
  · exact hsign heq
  · exact Bool.false_ne_true (hdigit.symm.trans hc)

theorem head_dump (depth : ℕ) (data : Json) :
    ∃ c cs, dump depth data = c :: cs ∧ isSpace c = false ∧ c ≠ ']' := by
  cases data with
  | null => exact ⟨'n', _, rfl, by decide⟩
  | boolean b =>
    cases b with
    | true => exact ⟨'t', _, rfl, by decide⟩
    | false => exact ⟨'f', _, rfl, by decide⟩
  | number i =>
    obtain ⟨c, cs, hi, hc⟩ := head_writeInt i
    have hmarks := not_mem_marks hc
    simp only [marks, List.mem_cons, not_or] at hmarks
    exact ⟨c, cs, hi, by simp [isSpace, hmarks], hmarks.2.2.2.2.1⟩
  | string text => exact ⟨'"', _, rfl, by decide⟩
  | array values => exact ⟨'[', _, rfl, by decide⟩
  | object entries => exact ⟨'\x7b', _, rfl, by decide⟩

theorem reads_number (n : ℕ) (i : ℤ) : Reads (readValue (n + 1)) (writeInt i) (.number i) := by
  intro rest hrest
  obtain ⟨c, cs, hi, hc⟩ := head_writeInt i
  have hread := reads_writeInt i rest hrest
  rw [hi, List.cons_append] at hread ⊢
  have hmarks := not_mem_marks hc
  simp only [marks, List.mem_cons, not_or] at hmarks
  simp only [readValue, hmarks, if_false, hread, Option.map_some]

theorem reads_string (n : ℕ) (text : String) :
    Reads (readValue (n + 1)) (quote text.toList) (.string text) := by
  intro rest _
  have hread := readQuoted_flatMap text.toList rest
  simp [quote, readValue, hread]

theorem reads_array {n depth : ℕ} {texts : List (List Char)} {values : List Json}
    (h : List.Forall₂ (IsItem (readValue n) ']') texts values) (hn : texts.length ≤ n) :
    Reads (readValue (n + 1)) ('[' :: enclosed ']' depth texts) (.array values) := by
  intro rest _
  have hread := sequence_enclosed (by decide) (by decide) h hn depth rest
  simp [readValue, hread]

theorem reads_object {n depth : ℕ} {texts : List (List Char)} {entries : List (String × Json)}
    (h : List.Forall₂ (IsItem (readEntry (readValue n)) '\x7d') texts entries)
    (hn : texts.length ≤ n) :
    Reads (readValue (n + 1)) ('\x7b' :: enclosed '\x7d' depth texts) (.object entries) := by
  intro rest _
  have hread := sequence_enclosed (by decide) (by decide) h hn depth rest
  simp [readValue, hread]

theorem reads_entry {value : List Char → Option (Json × List Char)} {key : String} {data : Json}
    {depth : ℕ} (h : Reads value (dump depth data) data) :
    Reads (readEntry value) (quote key.toList ++ ':' :: ' ' :: dump depth data) (key, data) := by
  intro rest hrest
  obtain ⟨c, cs, hhead, hc, _⟩ := head_dump depth data
  have hkey := readQuoted_flatMap key.toList (':' :: ' ' :: (dump depth data ++ rest))
  have hcolon : ∀ tail, skipSpace (':' :: tail) = ':' :: tail := skipSpace_cons (by decide)
  have hvalue : skipSpace (' ' :: (dump depth data ++ rest)) = dump depth data ++ rest := by
    rw [hhead]
    exact skipSpace_cons hc _
  simp [quote, readEntry, hkey, hcolon, hvalue, h rest hrest]

mutual

/-- Every value is read from its text. -/
theorem reads_dump (depth n : ℕ) (data : Json) (h : (dump depth data).length ≤ n) :
    Reads (readValue n) (dump depth data) data := by
  obtain ⟨c, cs, hhead, _⟩ := head_dump depth data
  obtain ⟨n, rfl⟩ : ∃ m, n = m + 1 := by
    refine ⟨n - 1, ?_⟩
    rw [hhead, List.length_cons] at h
    omega
  cases data with
  | null => exact fun rest _ => reads_keyword "null".toList Json.null rest ‹_›
  | boolean b =>
    cases b with
    | true => exact fun rest _ => reads_keyword "true".toList (Json.boolean true) rest ‹_›
    | false => exact fun rest _ => reads_keyword "false".toList (Json.boolean false) rest ‹_›
  | number i => exact reads_number n i
  | string text => exact reads_string n text
  | array values =>
    rw [dump_array, List.length_cons] at h
    obtain ⟨hcount, hlength⟩ := length_enclosed ']' depth (dumpValues (depth + 1) values)
    rw [dump_array]
    apply reads_array
    · apply isItem_dumpValues
      intro text htext
      have htext' := hlength text htext
      omega
    · omega
  | object entries =>
    rw [dump_object, List.length_cons] at h
    obtain ⟨hcount, hlength⟩ := length_enclosed '\x7d' depth (dumpEntries (depth + 1) entries)
    rw [dump_object]
    apply reads_object
    · apply isItem_dumpEntries
      intro text htext
      have htext' := hlength text htext
      omega
    · omega

theorem isItem_dumpValues (depth n : ℕ) (values : List Json)
    (h : ∀ text ∈ dumpValues depth values, text.length ≤ n) :
    List.Forall₂ (IsItem (readValue n) ']') (dumpValues depth values) values := by
  cases values with
  | nil => exact List.Forall₂.nil
  | cons value values =>
    rw [dumpValues_cons, List.forall_mem_cons] at h
    exact List.Forall₂.cons ⟨reads_dump depth n value h.1, head_dump depth value⟩
      (isItem_dumpValues depth n values h.2)

theorem isItem_dumpEntries (depth n : ℕ) (entries : List (String × Json))
    (h : ∀ text ∈ dumpEntries depth entries, text.length ≤ n) :
    List.Forall₂ (IsItem (readEntry (readValue n)) '\x7d') (dumpEntries depth entries)
      entries := by
  match entries with
  | [] => exact List.Forall₂.nil
  | (key, value) :: entries =>
    rw [dumpEntries_cons, List.forall_mem_cons] at h
    obtain ⟨hfirst, hrest⟩ := h
    have hvalue : (dump depth value).length ≤ n := by
      simp only [List.length_append, List.length_cons] at hfirst
      omega
    exact List.Forall₂.cons ⟨reads_entry (reads_dump depth n value hvalue),
      '"', _, rfl, by decide⟩ (isItem_dumpEntries depth n entries hrest)

end

/-- Parsing undoes `dump(4)`. -/
theorem parse_dump (data : Json) : parse (String.ofList (dump 0 data)) = .ok data := by
  obtain ⟨c, cs, hhead, hc, _⟩ := head_dump 0 data
  have hskip : skipSpace (dump 0 data) = dump 0 data := by
    rw [hhead]
    exact skipSpace_cons hc cs
  have hread := reads_dump 0 (dump 0 data).length data le_rfl [] (by simp [Stops])
  rw [List.append_nil] at hread
  rw [parse, String.toList_ofList, hskip, hread]

example :
    String.ofList (dump 0 (.object [("cols", .number 2), ("maps", .array [.array [], .null])])) =
      "\x7b\n    \"cols\": 2,\n    \"maps\": [\n        [],\n        null\n    ]\n\x7d" := rfl

end AirlineReservation.Json
