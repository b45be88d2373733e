import AirlineReservation.Library.Query
import AirlineReservation.Library.Reading

/-!
The request for available flights. Its URL is put together from the texts as they
are, without encoding them, so that it is read with the parameters that were meant
exactly when origin and destination are plain.
-/

namespace AirlineReservation

open Query

def byteOf (c : Char) : UInt8 := c.toNat.toUInt8

/-- The bytes of an ASCII text. -/
def ascii (text : String) : List UInt8 := text.toList.map byteOf

/-- The `url` of `GetAvailableFlights`. -/
def availableFlightsUrl (origin destination departureDate returnDate : List UInt8) :
    List UInt8 :=
  ascii "https://test.api.amadeus.com/v2/shopping/flight-offers?originLocationCode=" ++
    origin ++ ascii "&destinationLocationCode=" ++ destination ++
    ascii "&departureDate=" ++ departureDate ++
    ascii "&returnDate=" ++ returnDate ++ ascii "&adults=1&nonStop=false"

namespace AvailableFlights

/-- The names and values that the service is meant to read. -/
def meant (origin destination departureDate returnDate : List UInt8) :
    List (List UInt8 × List UInt8) :=
  [(ascii "originLocationCode", origin),
    (ascii "destinationLocationCode", destination),
    (ascii "departureDate", departureDate),
    (ascii "returnDate", returnDate),
    (ascii "adults", ascii "1"),
    (ascii "nonStop", ascii "false")]

/-- A date written YYYY-MM-DD. -/
def IsDate (text : List UInt8) : Prop :=
  ∃ year month day : List UInt8, text = year ++ 45 :: month ++ 45 :: day ∧
    year.length = 4 ∧ month.length = 2 ∧ day.length = 2 ∧
    ∀ b ∈ year ++ month ++ day, 48 ≤ b ∧ b ≤ 57

theorem plain_of_bytes {text : List UInt8} (hamp : 38 ∉ text) (hhash : 35 ∉ text)
    (hpercent : 37 ∉ text) : Plain text := ⟨hamp, hhash, noEscape_of_no_percent hpercent⟩

theorem IsDate.plain {text : List UInt8} (h : IsDate text) : Plain text := by
  obtain ⟨year, month, day, rfl, _, _, _, hdigits⟩ := h
  have hne : ∀ b : UInt8, b < 45 → b ∉ year ++ 45 :: month ++ 45 :: day := by
    intro b hb hmem
    have hcases : b = 45 ∨ b ∈ year ++ month ++ day := by
      simp only [List.mem_append, List.mem_cons] at hmem ⊢
      tauto
    rcases hcases with rfl | hdigit
    · exact absurd hb (by decide)
    · have hlow := (hdigits b hdigit).1
      rw [UInt8.le_iff_toNat_le] at hlow
      rw [UInt8.lt_iff_toNat_lt] at hb
      simp only [UInt8.reduceToNat] at hlow hb
      omega
  exact plain_of_bytes (hne 38 (by decide)) (hne 35 (by decide)) (hne 37 (by decide))

/-- The first literal has the '?', the others have their separators. -/
theorem ascii_literals :
    ascii "https://test.api.amadeus.com/v2/shopping/flight-offers?originLocationCode=" =
      ascii "https://test.api.amadeus.com/v2/shopping/flight-offers" ++
        63 :: (ascii "originLocationCode" ++ [61]) ∧
    ascii "&destinationLocationCode=" = 38 :: (ascii "destinationLocationCode" ++ [61]) ∧
    ascii "&departureDate=" = 38 :: (ascii "departureDate" ++ [61]) ∧
    ascii "&returnDate=" = 38 :: (ascii "returnDate" ++ [61]) ∧
    ascii "&adults=1&nonStop=false" =
      38 :: (ascii "adults" ++ 61 :: (ascii "1" ++ 38 :: (ascii "nonStop" ++
        61 :: ascii "false"))) := by
  decide +kernel

/-- The URL is a base, a '?' and the parameters without encoding. -/
theorem url_eq (origin destination departureDate returnDate : List UInt8) :
    availableFlightsUrl origin destination departureDate returnDate =
      ascii "https://test.api.amadeus.com/v2/shopping/flight-offers" ++
        63 :: write (meant origin destination departureDate returnDate) := by
  obtain ⟨hbase, hdestination, hdeparture, hreturn, hrest⟩ := ascii_literals
  rw [availableFlightsUrl, hbase, hdestination, hdeparture, hreturn, hrest]
  simp only [meant, write, List.append_assoc, List.cons_append, List.nil_append]

def fixedTexts : List (List UInt8) :=
  [ascii "originLocationCode", ascii "destinationLocationCode", ascii "departureDate",
    ascii "returnDate", ascii "adults", ascii "nonStop", ascii "1", ascii "false"]

/-- No name and no fixed value has a byte with a meaning of its own. -/
theorem plain_of_fixed {text : List UInt8} (h : text ∈ fixedTexts) : Plain text ∧ 61 ∉ text := by
  have hall : fixedTexts.all (fun text => [38, 35, 37, 61].all fun b => !text.contains b) =
      true := by decide +kernel
  have htext := List.all_eq_true.mp hall text h
  simp only [List.all_cons, List.all_nil, Bool.and_true, Bool.and_eq_true,
    Bool.not_eq_true', List.contains_eq_mem, decide_eq_false_iff_not] at htext
  obtain ⟨hamp, hhash, hpercent, hequals⟩ := htext
  exact ⟨plain_of_bytes hamp hhash hpercent, hequals⟩

theorem base_plain :
    35 ∉ ascii "https://test.api.amadeus.com/v2/shopping/flight-offers" ∧
      63 ∉ ascii "https://test.api.amadeus.com/v2/shopping/flight-offers" := by
  decide +kernel

/-- The URL is read as it was meant exactly when all values are plain. -/
theorem parameters_url_iff (origin destination departureDate returnDate : List UInt8) :
    parameters (queryPart (availableFlightsUrl origin destination departureDate returnDate)) =
      meant origin destination departureDate returnDate ↔
    ∀ param ∈ meant origin destination departureDate returnDate, Plain param.2 := by
  have hkeys : ∀ param ∈ meant origin destination departureDate returnDate,
      Plain param.1 ∧ 61 ∉ param.1 := by
    intro param hparam
    apply plain_of_fixed
    simp only [meant, List.mem_cons, List.not_mem_nil, or_false] at hparam
    rcases hparam with rfl | rfl | rfl | rfl | rfl | rfl <;> simp [fixedTexts]
  have hne : meant origin destination departureDate returnDate ≠ [] := List.cons_ne_nil _ _
  rw [url_eq, parameters_queryPart base_plain.1 base_plain.2, parameters_write_iff hne hkeys]

section Dates

variable (origin destination : List UInt8) {departureDate returnDate : List UInt8}
  (hdeparture : IsDate departureDate) (hreturn : IsDate returnDate)
include hdeparture hreturn

theorem plain_meant_iff :
    (∀ param ∈ meant origin destination departureDate returnDate, Plain param.2) ↔
      Plain origin ∧ Plain destination := by
  have hone : Plain (ascii "1") := (plain_of_fixed (by simp [fixedTexts])).1
  have hfalse : Plain (ascii "false") := (plain_of_fixed (by simp [fixedTexts])).1
  simp only [meant, List.forall_mem_cons]
  constructor
  · intro h
    exact ⟨h.1, h.2.1⟩
  · intro h
    exact ⟨h.1, h.2, hdeparture.plain, hreturn.plain, hone, hfalse, by simp⟩

/-- For dates the URL is read as it was meant exactly when origin and destination
have no '&', no '#' and no escape. -/
theorem read_url_iff :
    parameters (queryPart (availableFlightsUrl origin destination departureDate returnDate)) =
      meant origin destination departureDate returnDate ↔ Plain origin ∧ Plain destination := by
  rw [parameters_url_iff, plain_meant_iff origin destination hdeparture hreturn]

end Dates

theorem isDate_example : IsDate (ascii "2024-03-22") :=
  ⟨ascii "2024", ascii "03", ascii "22", by decide, by decide, by decide, by decide,
    by decide +kernel⟩

/-- Airport codes are read as they were meant. -/
theorem codes_read :
    parameters (queryPart (availableFlightsUrl (ascii "PAR") (ascii "MAD") (ascii "2024-03-22")
      (ascii "2024-03-22"))) =
      meant (ascii "PAR") (ascii "MAD") (ascii "2024-03-22") (ascii "2024-03-22") :=
  (read_url_iff (ascii "PAR") (ascii "MAD") isDate_example isDate_example).mpr
    ⟨plain_of_bytes (by decide) (by decide) (by decide),
      plain_of_bytes (by decide) (by decide) (by decide)⟩

/-- An origin with '&' adds a parameter of its own. -/
theorem ampersand_not_read :
    parameters (queryPart (availableFlightsUrl (ascii "PAR&adults=9") (ascii "MAD")
      (ascii "2024-03-22") (ascii "2024-03-22"))) ≠
      meant (ascii "PAR&adults=9") (ascii "MAD") (ascii "2024-03-22") (ascii "2024-03-22") := by
  decide +kernel

end AvailableFlights

end AirlineReservation
