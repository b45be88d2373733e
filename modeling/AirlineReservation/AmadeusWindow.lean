import AirlineReservation.AvailableFlights
import AirlineReservation.Library.Calendar
import AirlineReservation.Library.Run

/-!
The window that asks for available flights. Its two calendar popups change one
part of a date at a time and offer the days of the month that is selected, but
leave a day that was selected before. The request is made of the texts of the
dates, of which the one for the departure is written from the arrival date.
-/

namespace AirlineReservation

open Calendar Reading Query AvailableFlights

/-- The entry of a popup that is touched. -/
inductive Selection
  | month (m : ℕ)
  | year (y : ℕ)
  | day (d : ℕ)
  deriving DecidableEq, Repr

/-- A loop over the entries that are offered, which sets the part touched. -/
def selectables (offered : List ℕ) (entry : ℕ → Selection) (set : Date → ℕ → Date)
    (touched : Selection) (date : Date) : Date :=
  offered.foldl (fun date i => if touched = entry i then set date i else date) date

/-- `daysInMonth` in the popups. -/
def popupDays (date : Date) : ℕ :=
  if date.month = 2 then
    if date.year % 4 = 0 ∧ (date.year % 100 ≠ 0 ∨ date.year % 400 = 0) then 29 else 28
  else if date.month = 4 ∨ date.month = 6 ∨ date.month = 9 ∨ date.month = 11 then 30
  else 31

def setMonth (date : Date) (m : ℕ) : Date := { date with month := m }

def setYear (date : Date) (y : ℕ) : Date := { date with year := y }

def setDay (date : Date) (d : ℕ) : Date := { date with day := d }

/-- The body of a popup, with one of its entries touched. -/
def calendarPopup (touched : Selection) (date : Date) : Date :=
  let date := selectables (List.range' 1 12) .month setMonth touched date
  let date := selectables (List.range' 2000 101) .year setYear touched date
  selectables (List.range' 1 (popupDays date)) .day setDay touched date

/-- The bytes in a `char[512]` before the NUL. -/
structure QueryBuffer where
  text : List UInt8
  fits : text.length ≤ 511
  terminated : 0 ∉ text

structure AmadeusWindow where
  originBuffer : QueryBuffer
  destinationBuffer : QueryBuffer
  departureDate : Date
  arrivalDate : Date

def AmadeusWindow.start : AmadeusWindow :=
  ⟨⟨[], by decide, by decide⟩, ⟨[], by decide, by decide⟩, ⟨2024, 3, 12⟩, ⟨2024, 3, 12⟩⟩

/-- What is touched in a frame. -/
inductive AmadeusInput
  | origin (text : QueryBuffer)
  | destination (text : QueryBuffer)
  | departure (touched : Selection)
  | arrival (touched : Selection)
  | searchFlights

/-- `sprintf` with "%04d-%02d-%02d", for fields that are not negative. -/
def sprintfDate (date : Date) : List UInt8 :=
  (padded 4 date.year ++ '-' :: padded 2 date.month ++ '-' :: padded 2 date.day).map byteOf

/-- The URL that Search Flights requests. What is printed for the departure, from the
arrival date as well, is not used. -/
def AmadeusWindow.searchUrl (w : AmadeusWindow) : List UInt8 :=
  let formattedArrivalDate := sprintfDate w.arrivalDate
  let arrivalDateString := formattedArrivalDate
  let departureDateString := formattedArrivalDate
  availableFlightsUrl w.originBuffer.text w.destinationBuffer.text departureDateString
    arrivalDateString

/-- One frame: the window after it and the URL, if one was requested. -/
def AmadeusWindow.frame (w : AmadeusWindow) :
    AmadeusInput → AmadeusWindow × Option (List UInt8)
  | .origin text => ({ w with originBuffer := text }, none)
  | .destination text => ({ w with destinationBuffer := text }, none)
  | .departure touched => ({ w with departureDate := calendarPopup touched w.departureDate }, none)
  | .arrival touched => ({ w with arrivalDate := calendarPopup touched w.arrivalDate }, none)
  | .searchFlights => (w, some w.searchUrl)

def AmadeusWindow.step (w : AmadeusWindow) (input : AmadeusInput) : AmadeusWindow :=
  (w.frame input).1

namespace AmadeusWindow

section Entries

variable (entry : ℕ → Selection) (set : Date → ℕ → Date) (offered : List ℕ) (date : Date)

/-- The loop sets the part that is touched, if it is offered. -/
theorem selectables_eq (hentry : Function.Injective entry)
    (hset : ∀ date i, set (set date i) i = set date i) (i : ℕ) :
    selectables offered entry set (entry i) date = if i ∈ offered then set date i else date := by
  induction offered generalizing date with
  | nil => rfl
  | cons j rest ih =>
    rw [selectables, List.foldl_cons]
    by_cases hij : i = j
    · subst hij
      rw [if_pos rfl, if_pos List.mem_cons_self]
      refine (ih (set date i)).trans ?_
      split
      · exact hset date i
      · rfl
    · rw [if_neg fun heq => hij (hentry heq)]
      refine (ih date).trans ?_
      simp only [List.mem_cons, hij, false_or]

theorem selectables_other {touched : Selection} (h : ∀ i, touched ≠ entry i) :
    selectables offered entry set touched date = date := by
  induction offered generalizing date with
  | nil => rfl
  | cons j rest ih =>
    rw [selectables, List.foldl_cons, if_neg (h j)]
    exact ih date

end Entries

theorem popupDays_eq (date : Date) : popupDays date = daysInMonth date.year date.month := by
  unfold popupDays daysInMonth
  simp only [isLeap_iff]

/-- A part is set when it is offered: the months of a year, the years of a
century, and the days of the month that is selected. -/
theorem calendarPopup_month (m : ℕ) (date : Date) :
    calendarPopup (.month m) date = if 1 ≤ m ∧ m ≤ 12 then setMonth date m else date := by
  have hset := selectables_eq .month setMonth (List.range' 1 12) date
    (fun _ _ => Selection.month.inj) (fun _ _ => rfl) m
  have hoffered : m ∈ List.range' 1 12 ↔ 1 ≤ m ∧ m ≤ 12 := by
    rw [List.mem_range'_1]
    omega
  simp only [calendarPopup]
  rw [hset, if_congr hoffered rfl rfl, selectables_other .year _ _ _ fun _ => Selection.noConfusion,
    selectables_other .day _ _ _ fun _ => Selection.noConfusion]

theorem calendarPopup_year (y : ℕ) (date : Date) :
    calendarPopup (.year y) date = if 2000 ≤ y ∧ y ≤ 2100 then setYear date y else date := by
  have hset := selectables_eq .year setYear (List.range' 2000 101) date
    (fun _ _ => Selection.year.inj) (fun _ _ => rfl) y
  have hoffered : y ∈ List.range' 2000 101 ↔ 2000 ≤ y ∧ y ≤ 2100 := by
    rw [List.mem_range'_1]
    omega
  simp only [calendarPopup]
  rw [selectables_other .month _ _ _ fun _ => Selection.noConfusion, hset,
    if_congr hoffered rfl rfl, selectables_other .day _ _ _ fun _ => Selection.noConfusion]

theorem calendarPopup_day (d : ℕ) (date : Date) :
    calendarPopup (.day d) date =
      if 1 ≤ d ∧ d ≤ daysInMonth date.year date.month then setDay date d else date := by
  have hset := selectables_eq .day setDay (List.range' 1 (popupDays date)) date
    (fun _ _ => Selection.day.inj) (fun _ _ => rfl) d
  have hoffered : d ∈ List.range' 1 (popupDays date) ↔
      1 ≤ d ∧ d ≤ daysInMonth date.year date.month := by
    rw [List.mem_range'_1, popupDays_eq]
    omega
  simp only [calendarPopup]
  rw [selectables_other .month _ _ _ fun _ => Selection.noConfusion,
    selectables_other .year _ _ _ fun _ => Selection.noConfusion, hset,
    if_congr hoffered rfl rfl]

/-- What the popups can select, apart from the length of the month. -/
structure Offered (date : Date) : Prop where
  year_ge : 2000 ≤ date.year
  year_le : date.year ≤ 2100
  month_pos : 1 ≤ date.month
  month_le : date.month ≤ 12
  day_pos : 1 ≤ date.day
  day_le : date.day ≤ 31

/-- The day that is held is also a day of the month that the selection leads to. -/
def Keeps (date : Date) : Selection → Prop
  | .month m => 1 ≤ m ∧ m ≤ 12 → date.day ≤ daysInMonth date.year m
  | .year y => 2000 ≤ y ∧ y ≤ 2100 → date.day ≤ daysInMonth y date.month
  | .day _ => True

theorem Offered.calendarPopup {date : Date} (h : Offered date) (touched : Selection) :
    Offered (calendarPopup touched date) := by
  cases touched with
  | month m =>
    rw [calendarPopup_month]
    split
    · next hm => exact ⟨h.year_ge, h.year_le, hm.1, hm.2, h.day_pos, h.day_le⟩
    · exact h
  | year y =>
    rw [calendarPopup_year]
    split
    · next hy => exact ⟨hy.1, hy.2, h.month_pos, h.month_le, h.day_pos, h.day_le⟩
    · exact h
  | day d =>
    rw [calendarPopup_day]
    split
    · next hd =>
      have hle := Nat.le_trans hd.2 (daysInMonth_le date.year date.month)
      exact ⟨h.year_ge, h.year_le, h.month_pos, h.month_le, hd.1, hle⟩
    · exact h

/-- From an existing date a selection leads to one exactly when it keeps the day. -/
theorem exists_calendarPopup_iff {date : Date} (h : date.Exists) (touched : Selection) :
    (calendarPopup touched date).Exists ↔ Keeps date touched := by
  cases touched with
  | month m =>
    rw [calendarPopup_month]
    by_cases hm : 1 ≤ m ∧ m ≤ 12
    · rw [if_pos hm]
      exact ⟨fun hexists _ => hexists.day_le, fun hkeeps => ⟨hm.1, hm.2, h.day_pos, hkeeps hm⟩⟩
    · rw [if_neg hm]
      exact iff_of_true h fun hoffered => absurd hoffered hm
  | year y =>
    rw [calendarPopup_year]
    by_cases hy : 2000 ≤ y ∧ y ≤ 2100
    · rw [if_pos hy]
      exact ⟨fun hexists _ => hexists.day_le,
        fun hkeeps => ⟨h.month_pos, h.month_le, h.day_pos, hkeeps hy⟩⟩
    · rw [if_neg hy]
      exact iff_of_true h fun hoffered => absurd hoffered hy
  | day d =>
    rw [calendarPopup_day]
    refine iff_of_true ?_ trivial
    split
    · next hd => exact ⟨h.month_pos, h.month_le, hd.1, hd.2⟩
    · exact h

structure DatesExist (w : AmadeusWindow) : Prop where
  departure : w.departureDate.Exists
  arrival : w.arrivalDate.Exists

/-- The selection of a frame, if it is one, keeps the day of its date. -/
def KeepsDay (w : AmadeusWindow) : AmadeusInput → Prop
  | .departure touched => Keeps w.departureDate touched
  | .arrival touched => Keeps w.arrivalDate touched
  | _ => True

theorem datesExist_step_iff {w : AmadeusWindow} (h : DatesExist w) (input : AmadeusInput) :
    DatesExist (w.step input) ↔ KeepsDay w input := by
  cases input with
  | origin text => exact iff_of_true ⟨h.departure, h.arrival⟩ trivial
  | destination text => exact iff_of_true ⟨h.departure, h.arrival⟩ trivial
  | searchFlights => exact iff_of_true h trivial
  | departure touched =>
    have hiff := exists_calendarPopup_iff h.departure touched
    exact ⟨fun hstep => hiff.mp hstep.departure, fun hkeeps => ⟨hiff.mpr hkeeps, h.arrival⟩⟩
  | arrival touched =>
    have hiff := exists_calendarPopup_iff h.arrival touched
    exact ⟨fun hstep => hiff.mp hstep.arrival, fun hkeeps => ⟨h.departure, hiff.mpr hkeeps⟩⟩

theorem exists_start : Date.Exists ⟨2024, 3, 12⟩ :=
  ⟨by decide, by decide, by decide, by decide⟩

/-- The two dates exist throughout a run exactly when every selection of a month or
a year in it keeps the day that is held. -/
theorem dates_exist_iff (inputs : List AmadeusInput) :
    Run.Throughout step DatesExist start inputs ↔ Run.EveryStep step KeepsDay start inputs :=
  Run.throughout_iff_everyStep step (fun _ => True) DatesExist (fun _ => True) KeepsDay
    (fun _ _ _ _ => trivial) (fun _ input _ _ h => datesExist_step_iff h input) start inputs
    trivial ⟨exists_start, exists_start⟩ (fun _ _ => trivial)

/-- The 31st of March, and then February. -/
theorem february_31 :
    ¬ Run.Throughout step DatesExist start [.departure (.day 31), .departure (.month 2)] := by
  intro h
  have hday := h.final.departure.day_le
  exact absurd hday (by decide)

/-- Both dates stay within what the popups offer. -/
theorem offered_throughout (inputs : List AmadeusInput) :
    Run.Throughout step (fun w => Offered w.departureDate ∧ Offered w.arrivalDate) start
      inputs := by
  have hstart : Offered ⟨2024, 3, 12⟩ := by constructor <;> decide
  refine Run.throughout_of_forall step _ (fun _ => True) ?_ start inputs ⟨hstart, hstart⟩
    (fun _ _ => trivial)
  intro w input h _
  cases input with
  | origin text => exact h
  | destination text => exact h
  | searchFlights => exact h
  | departure touched => exact ⟨h.1.calendarPopup touched, h.2⟩
  | arrival touched => exact ⟨h.1, h.2.calendarPopup touched⟩

theorem byteOf_digit {c : Char} (h : c.isDigit = true) :
    48 ≤ (byteOf c).toNat ∧ (byteOf c).toNat ≤ 57 ∧ Char.ofNat (byteOf c).toNat = c := by
  obtain ⟨hlow, hhigh⟩ := Char.isDigit_iff_toNat.mp h
  have hbyte : (byteOf c).toNat = c.toNat := UInt8.toNat_ofNat_of_lt' (by
    change c.toNat ≤ 57 at hhigh
    change c.toNat < 256
    omega)
  rw [hbyte]
  exact ⟨hlow, hhigh, Char.ofNat_toNat c⟩

/-- The digits of a field can be read off its bytes. -/
theorem bytes_padded_inj {width n n' : ℕ}
    (h : (padded width n).map byteOf = (padded width n').map byteOf) : n = n' := by
  have hback : ∀ k, ((padded width k).map byteOf).map (fun b => Char.ofNat b.toNat) =
      padded width k := by
    intro k
    rw [List.map_map]
    have hsame : ∀ c ∈ padded width k, ((fun b => Char.ofNat b.toNat) ∘ byteOf) c = id c :=
      fun c hc => (byteOf_digit (isDigit_padded hc)).2.2
    rw [List.map_congr_left hsame, List.map_id]
  rw [← ofDigitChars_padded width n, ← hback n, h, hback n', ofDigitChars_padded]

section Offered

variable {date date' : Date} (h : Offered date)
include h

theorem Offered.lengths :
    ((padded 4 date.year).map byteOf).length = 4 ∧
      ((padded 2 date.month).map byteOf).length = 2 ∧
      ((padded 2 date.day).map byteOf).length = 2 := by
  have hyear := h.year_le
  have hmonth := h.month_le
  have hday := h.day_le
  simp only [List.length_map]
  exact ⟨length_padded (by omega) (by omega), length_padded (by omega) (by omega),
    length_padded (by omega) (by omega)⟩

theorem isDate_sprintfDate : IsDate (sprintfDate date) := by
  obtain ⟨hyear, hmonth, hday⟩ := h.lengths
  refine ⟨_, _, _, ?_, hyear, hmonth, hday, ?_⟩
  · simp only [sprintfDate, List.map_append, List.map_cons]
    rfl
  · intro b hb
    simp only [← List.map_append, List.mem_map] at hb
    obtain ⟨c, hc, rfl⟩ := hb
    have hdigit : c.isDigit = true := by
      rcases List.mem_append.mp hc with hleft | hday
      · rcases List.mem_append.mp hleft with hyear | hmonth
        · exact isDigit_padded hyear
        · exact isDigit_padded hmonth
      · exact isDigit_padded hday
    obtain ⟨hlow, hhigh, _⟩ := byteOf_digit hdigit
    exact ⟨UInt8.le_iff_toNat_le.mpr hlow, UInt8.le_iff_toNat_le.mpr hhigh⟩

/-- The printed date fits its buffer of eleven characters. -/
theorem length_sprintfDate : (sprintfDate date).length + 1 = 11 := by
  obtain ⟨hyear, hmonth, hday⟩ := h.lengths
  simp only [List.length_map] at hyear hmonth hday
  simp only [sprintfDate, List.length_map, List.length_append, List.length_cons, hyear, hmonth,
    hday]

/-- Different dates are printed differently. -/
theorem sprintfDate_inj (h' : Offered date') (heq : sprintfDate date = sprintfDate date') :
    date = date' := by
  obtain ⟨hyear, hmonth, _⟩ := h.lengths
  obtain ⟨hyear', hmonth', _⟩ := h'.lengths
  simp only [sprintfDate, List.map_append, List.map_cons, List.append_assoc,
    List.cons_append] at heq
  obtain ⟨hyears, hrest⟩ := List.append_inj heq (hyear.trans hyear'.symm)
  obtain ⟨hmonths, hrest⟩ :=
    List.append_inj (List.cons.inj hrest).2 (hmonth.trans hmonth'.symm)
  have hdays := (List.cons.inj hrest).2
  cases date
  cases date'
  rw [Date.mk.injEq]
  exact ⟨bytes_padded_inj hyears, bytes_padded_inj hmonths, bytes_padded_inj hdays⟩

end Offered

theorem availableFlightsUrl_inj {origin destination departureDate departureDate' returnDate :
    List UInt8} (heq : availableFlightsUrl origin destination departureDate returnDate =
      availableFlightsUrl origin destination departureDate' returnDate) :
    departureDate = departureDate' := by
  simp only [availableFlightsUrl, List.append_assoc] at heq
  simpa using heq

/-- The state after a run of frames. -/
abbrev after (inputs : List AmadeusInput) : AmadeusWindow := Run.run step start inputs

/-- What Search Flights requests when its departure and return dates are the renderings
of the dates that are selected. -/
def selectedUrl (w : AmadeusWindow) : List UInt8 :=
  availableFlightsUrl w.originBuffer.text w.destinationBuffer.text (sprintfDate w.departureDate)
    (sprintfDate w.arrivalDate)

/-- The same by the parameters that are read from the request. -/
def ReadAsSelected (w : AmadeusWindow) : Prop :=
  parameters (queryPart w.searchUrl) = meant w.originBuffer.text w.destinationBuffer.text
    (sprintfDate w.departureDate) (sprintfDate w.arrivalDate)

/-- After any run the request has the selected dates exactly when the two dates are
the same, by its text and by what is read from it; the departure date that is
selected plays no part. -/
theorem search_selected_iff (inputs : List AmadeusInput) :
    (((after inputs).frame .searchFlights).2 = some (after inputs).selectedUrl ↔
      (after inputs).departureDate = (after inputs).arrivalDate) ∧
    (Plain (after inputs).originBuffer.text → Plain (after inputs).destinationBuffer.text →
      ((after inputs).ReadAsSelected ↔
        (after inputs).departureDate = (after inputs).arrivalDate)) ∧
    ∀ departureDate, ({ after inputs with departureDate := departureDate } :
      AmadeusWindow).searchUrl = (after inputs).searchUrl := by
  obtain ⟨hdeparture, harrival⟩ := (offered_throughout inputs).final
  refine ⟨?_, ?_, fun _ => rfl⟩
  · constructor
    · intro hframe
      have hurl := Option.some.inj hframe
      exact (sprintfDate_inj harrival hdeparture (availableFlightsUrl_inj hurl)).symm
    · intro hsame
      rw [frame, searchUrl, selectedUrl, hsame]
  · intro horigin hdestination
    -- the request is read as it was written, with the arrival date in both places
    have hplain := (plain_meant_iff (after inputs).originBuffer.text
      (after inputs).destinationBuffer.text (isDate_sprintfDate harrival)
      (isDate_sprintfDate harrival)).mpr ⟨horigin, hdestination⟩
    have hread := (parameters_url_iff _ _ _ _).mpr hplain
    rw [ReadAsSelected, searchUrl, hread]
    constructor
    · intro hmeant
      have hdates : sprintfDate (after inputs).arrivalDate =
          sprintfDate (after inputs).departureDate := by
        simpa [meant] using hmeant
      exact (sprintfDate_inj harrival hdeparture hdates).symm
    · intro hsame
      rw [hsame]

theorem plain_nil : Plain [] := plain_of_bytes (by decide) (by decide) (by decide)

/-- At first both dates are the twelfth of March, and no text is typed. -/
theorem first_request_selected :
    ((after []).frame .searchFlights).2 = some (after []).selectedUrl ∧
      (after []).ReadAsSelected :=
  ⟨(search_selected_iff []).1.mpr rfl,
    ((search_selected_iff []).2.1 plain_nil plain_nil).mpr rfl⟩

/-- The thirteenth of March is selected for the departure, and the request is the
same as without it. -/
theorem departure_not_requested :
    (after [.departure (.day 13)]).departureDate = ⟨2024, 3, 13⟩ ∧
      ((after [.departure (.day 13)]).frame .searchFlights).2 ≠
        some (after [.departure (.day 13)]).selectedUrl ∧
      ((after [.departure (.day 13)]).frame .searchFlights).2 =
        ((after []).frame .searchFlights).2 := by
  refine ⟨by decide, ?_, rfl⟩
  intro hframe
  have hdates := availableFlightsUrl_inj (Option.some.inj hframe)
  exact absurd hdates (by decide)

end AmadeusWindow

end AirlineReservation
