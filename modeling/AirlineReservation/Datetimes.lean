import AirlineReservation.FlightsTable
import AirlineReservation.Library.Calendar
import AirlineReservation.Library.Reading

/-!
The two conversions between the texts of the flights table and ints. `mktime`
reads the fields as standard time, since `tm_isdst` stays 0, while `localtime`
applies the offset that is in force. Between them the number of seconds is cut
down to an int.
-/

namespace AirlineReservation

open Calendar Reading

/-- A rule for local time: the seconds that standard time is ahead of UTC, and
those that are added to it at an instant. No zone is two days away from UTC. -/
structure Zone where
  offset : ℤ
  daylight : ℤ → ℤ
  offset_lt : offset.natAbs < 172800
  daylight_lt : ∀ t, (daylight t).natAbs < 172800

/-- The seconds of the calendar before 1970. -/
def epoch : ℕ := secondNumber ⟨⟨1970, 1, 1⟩, 0, 0, 0⟩

theorem epoch_eq : epoch = 62167219200 := by decide

def literal (c : Char) : List Char → Option (List Char)
  | [] => none
  | c' :: rest => if c' = c then some rest else none

/-- `std::isspace` in the classic locale. -/
def isBlank (c : Char) : Bool := isSpace c || c.toNat = 11 || c.toNat = 12

def skipBlanks (cs : List Char) : List Char := cs.dropWhile isBlank

/-- `operator>>`, which skips white space, and `std::get_time` with "%Y-%m-%d %H:%M:%S".
What follows is not read. A text that ends before the format does is refused, as the
standard has it; libstdc++ takes the fields that are there. -/
def getTime (datetimeString : String) : Option DateTime := do
  let (year, rest) ← readField 4 0 9999 (skipBlanks datetimeString.toList)
  let (month, rest) ← readField 2 1 12 (← literal '-' rest)
  let (day, rest) ← readField 2 1 31 (← literal '-' rest)
  let (hour, rest) ← readField 2 0 23 (skipBlanks rest)
  let (minute, rest) ← readField 2 0 59 (← literal ':' rest)
  let (second, _) ← readField 2 0 60 (← literal ':' rest)
  return ⟨⟨year, month, day⟩, hour, minute, second⟩

/-- `std::mktime` where `tm_isdst` is 0. -/
def mktime (zone : Zone) (timeStruct : DateTime) : ℤ :=
  secondNumber timeStruct - epoch - zone.offset

def localtime (zone : Zone) (t : ℤ) : DateTime :=
  dateTimeOf (t + zone.offset + zone.daylight t + epoch).toNat

/-- The fields of "%Y-%m-%d %H:%M:%S" behind the digits of the year. -/
def fieldsText (year : List Char) (t : DateTime) : String :=
  String.ofList (year ++ '-' :: (padded 2 t.date.month ++ '-' :: (padded 2 t.date.day ++
    ' ' :: (padded 2 t.hour ++ ':' :: (padded 2 t.minute ++ ':' :: padded 2 t.second)))))

/-- `std::put_time`, which writes the year without leading zeros. -/
def putTime (ltm : DateTime) : String := fieldsText (Nat.toDigits 10 ltm.date.year) ltm

def intToDatetime (zone : Zone) (timestamp : ℤ) : String := putTime (localtime zone timestamp)

namespace Datetimes

/-- A time written YYYY-MM-DD HH:MM:SS. -/
def written (t : DateTime) : String := fieldsText (padded 4 t.date.year) t

theorem literal_cons (c : Char) (rest : List Char) : literal c (c :: rest) = some rest :=
  if_pos rfl

theorem isBlank_of_isDigit {c : Char} (h : c.isDigit = true) : isBlank c = false := by
  simp only [Char.isDigit, Bool.and_eq_true, decide_eq_true_eq] at h
  have hlow : 48 ≤ c.toNat := h.1
  have hspace : isSpace c = false := by
    by_contra hspace
    simp only [isSpace, Bool.not_eq_false, Bool.or_eq_true, decide_eq_true_eq] at hspace
    rcases hspace with ((rfl | rfl) | rfl) | rfl <;> contradiction
  rw [isBlank, hspace]
  simp only [Bool.false_or, Bool.or_eq_false_iff, decide_eq_false_iff_not]
  omega

theorem skipBlanks_padded (width n : ℕ) (rest : List Char) :
    skipBlanks (padded width n ++ rest) = padded width n ++ rest :=
  dropWhile_padded (fun _ => isBlank_of_isDigit) width n rest

/-- Reading a written time gives the time back. -/
theorem getTime_written {t : DateTime} (h : t.Exists) (hyear : t.date.year ≤ 9999) :
    getTime (written t) = some t := by
  obtain ⟨⟨year, month, day⟩, hour, minute, second⟩ := t
  obtain ⟨hdate, hhour, hminute, hsecond⟩ := h
  obtain ⟨hmonthpos, hmonth, hdaypos, hday⟩ := hdate
  have hday31 := Nat.le_trans hday (daysInMonth_le year month)
  simp only at *
  simp only [getTime, written, fieldsText, String.toList_ofList]
  have hlast : padded 2 second = padded 2 second ++ [] := by rw [List.append_nil]
  have hblank : ∀ rest, skipBlanks (' ' :: rest) = skipBlanks rest := fun _ => rfl
  rw [skipBlanks_padded, readField_padded (by omega) (by omega) (by omega) (by omega)]
  simp only [Option.bind_eq_bind, Option.bind_some, literal_cons]
  rw [readField_padded (by omega) (by omega) (by omega) (by omega)]
  simp only [Option.bind_some, literal_cons]
  rw [readField_padded (by omega) (by omega) (by omega) (by omega)]
  simp only [Option.bind_some, hblank, skipBlanks_padded]
  rw [readField_padded (by omega) (by omega) (by omega) (by omega)]
  simp only [Option.bind_some, literal_cons]
  rw [readField_padded (by omega) (by omega) (by omega) (by omega)]
  simp only [Option.bind_some, literal_cons]
  rw [hlast, readField_padded (by omega) (by omega) (by omega) (by omega)]
  rfl

/-- A written time is converted to the number that `mktime` gives, cut to an int. -/
theorem datetimeToInt_written (zone : Zone) {t : DateTime} (h : t.Exists)
    (hyear : t.date.year ≤ 9999) :
    datetimeToInt getTime (mktime zone) (written t) = (mktime zone t).bmod (2 ^ 32) := by
  rw [datetimeToInt, getTime_written h hyear]

/-- Local time exists and counts the seconds of the calendar. -/
theorem localtime_spec (zone : Zone) {t : ℤ} (hlow : -2 ^ 31 ≤ t) :
    (localtime zone t).Exists ∧
      (secondNumber (localtime zone t) : ℤ) = t + zone.offset + zone.daylight t + epoch := by
  have hoffset := zone.offset_lt
  have hdaylight := zone.daylight_lt t
  have hepoch := epoch_eq
  obtain ⟨hexists, hnumber⟩ :=
    dateTimeOf_spec (t + zone.offset + zone.daylight t + epoch).toNat
  refine ⟨hexists, ?_⟩
  rw [localtime, hnumber, Int.toNat_of_nonneg (by omega)]

/-- The years that ints can name have four digits. -/
theorem localtime_year (zone : Zone) {t : ℤ} (hlow : -2 ^ 31 ≤ t) (hhigh : t < 2 ^ 31) :
    1000 ≤ (localtime zone t).date.year ∧ (localtime zone t).date.year ≤ 9999 := by
  have hoffset := zone.offset_lt
  have hdaylight := zone.daylight_lt t
  have hepoch := epoch_eq
  obtain ⟨hexists, hnumber⟩ := localtime_spec zone hlow
  have hfirst : yearStart 1000 = 365243 := by decide
  have hlast : yearStart (9999 + 1) = 3652425 := by decide
  have hhour := hexists.hour_lt
  have hminute := hexists.minute_lt
  have hsecond := hexists.second_lt
  unfold secondNumber at hnumber
  apply year_between hexists.date
  · rw [hfirst]
    omega
  · rw [hlast]
    omega

theorem putTime_eq_written {t : DateTime} (h : 1000 ≤ t.date.year) : putTime t = written t := by
  rw [putTime, written, padded_eq_toDigits h]

/-- Only one time is written as a text. -/
theorem written_inj {t t' : DateTime} (h : t.Exists) (h' : t'.Exists)
    (hyear : t.date.year ≤ 9999) (hyear' : t'.date.year ≤ 9999)
    (heq : written t = written t') : t = t' := by
  have hread := getTime_written h hyear
  rw [heq, getTime_written h' hyear'] at hread
  exact (Option.some.inj hread).symm

/-- The instant that a local time names, read as standard time. -/
theorem mktime_localtime (zone : Zone) {utc : ℤ} (hlow : -2 ^ 31 ≤ utc) :
    mktime zone (localtime zone utc) = utc + zone.daylight utc := by
  obtain ⟨_, hnumber⟩ := localtime_spec zone hlow
  rw [mktime, hnumber]
  omega

/-- The cast to int keeps what is in the range of ints, and nothing beyond. -/
theorem cast_eq_iff {i : ℤ} (hlow : -2 ^ 31 ≤ i) : i.bmod (2 ^ 32) = i ↔ i < 2 ^ 31 := by
  rw [Int.bmod_def]
  split <;> omega

theorem cast_range (i : ℤ) : -2 ^ 31 ≤ i.bmod (2 ^ 32) ∧ i.bmod (2 ^ 32) < 2 ^ 31 :=
  ⟨Int.le_bmod (by omega), Int.bmod_lt (by omega)⟩

/-- The local time of an instant is read as standard time, which names another instant,
off by the daylight-saving offset. It is shown as stored exactly when that instant is
still an int and no such offset is in force there. -/
theorem shown_iff (zone : Zone) {t : DateTime} {utc : ℤ} (hlocal : localtime zone utc = t)
    (hlow : 0 ≤ utc) (hhigh : utc < 2 ^ 31) :
    intToDatetime zone (datetimeToInt getTime (mktime zone) (written t)) = written t ↔
      utc + zone.daylight utc < 2 ^ 31 ∧ zone.daylight (utc + zone.daylight utc) = 0 := by
  subst hlocal
  have hdaylight := zone.daylight_lt utc
  obtain ⟨hexists, hnumber⟩ := localtime_spec zone (t := utc) (by omega)
  obtain ⟨_, hyear⟩ := localtime_year zone (t := utc) (by omega) hhigh
  have hmktime : (secondNumber (localtime zone utc) : ℤ) =
      mktime zone (localtime zone utc) + zone.offset + epoch := by
    rw [mktime]
    omega
  have hinstant : mktime zone (localtime zone utc) = utc + zone.daylight utc :=
    mktime_localtime zone (by omega)
  rw [datetimeToInt_written zone hexists hyear, ← hinstant]
  have hkept := cast_eq_iff (i := mktime zone (localtime zone utc)) (by omega)
  have hrange := cast_range (mktime zone (localtime zone utc))
  generalize hcast : (mktime zone (localtime zone utc)).bmod (2 ^ 32) = cast at hkept hrange ⊢
  obtain ⟨hexists', hnumber'⟩ := localtime_spec zone hrange.1
  obtain ⟨hyear₀, hyear'⟩ := localtime_year zone hrange.1 hrange.2
  have hback := zone.daylight_lt cast
  rw [intToDatetime, putTime_eq_written hyear₀]
  constructor
  · intro hshown
    -- the two times have the same number of seconds, so the offsets make up for the cast
    have hsame := written_inj hexists' hexists hyear' hyear hshown
    rw [hsame] at hnumber'
    have hfits : mktime zone (localtime zone utc) < 2 ^ 31 := by
      by_contra hlarge
      rw [Int.bmod_def] at hcast
      split at hcast <;> omega
    refine ⟨hfits, ?_⟩
    rw [← hkept.mpr hfits]
    omega
  · intro h
    obtain ⟨hfits, hzero⟩ := h
    rw [hkept.mpr hfits] at hnumber' hexists' ⊢
    rw [hzero] at hnumber'
    have hsame : secondNumber (localtime zone (mktime zone (localtime zone utc))) =
        secondNumber (localtime zone utc) := by omega
    rw [← dateTimeOf_secondNumber hexists', hsame, dateTimeOf_secondNumber hexists]

/-- Eastern time with the daylight saving of 2024. -/
def easternTime : Zone where
  offset := -18000
  daylight t := if 1710054000 ≤ t ∧ t < 1730613600 then 3600 else 0
  offset_lt := by decide
  daylight_lt t := by split <;> decide

theorem winter_localtime :
    localtime easternTime 1705330800 = ⟨⟨2024, 1, 15⟩, 10, 0, 0⟩ := by decide +kernel

/-- A time in winter is shown as stored. -/
theorem winter_time_shown :
    intToDatetime easternTime (datetimeToInt getTime (mktime easternTime)
      (written ⟨⟨2024, 1, 15⟩, 10, 0, 0⟩)) = written ⟨⟨2024, 1, 15⟩, 10, 0, 0⟩ :=
  (shown_iff easternTime winter_localtime (by decide) (by decide)).mpr ⟨by decide, by decide⟩

/-- A time in summer is shown an hour later. -/
theorem summer_time_shown_later :
    localtime easternTime 1710511200 = ⟨⟨2024, 3, 15⟩, 10, 0, 0⟩ ∧
    written ⟨⟨2024, 3, 15⟩, 10, 0, 0⟩ = "2024-03-15 10:00:00" ∧
    intToDatetime easternTime (datetimeToInt getTime (mktime easternTime)
      "2024-03-15 10:00:00") = "2024-03-15 11:00:00" := by
  refine ⟨by decide +kernel, by decide, by decide +kernel⟩

/-- The conversion keeps the order of two times, gives no error value for them, and
loses nothing of what `mktime` gives. -/
structure OrderKept (zone : Zone) (a b : DateTime) : Prop where
  lt : datetimeToInt getTime (mktime zone) (written a) <
    datetimeToInt getTime (mktime zone) (written b)
  first_ne : datetimeToInt getTime (mktime zone) (written a) ≠ -1
  second_ne : datetimeToInt getTime (mktime zone) (written b) ≠ -1
  first_eq : datetimeToInt getTime (mktime zone) (written a) = mktime zone a
  second_eq : datetimeToInt getTime (mktime zone) (written b) = mktime zone b

/-- From 1971 on no time is before the epoch, in any zone. -/
theorem mktime_nonneg (zone : Zone) (t : DateTime) (hyear : 1971 ≤ t.date.year) :
    0 ≤ mktime zone t := by
  have hoffset := zone.offset_lt
  have hepoch := epoch_eq
  have hstart : yearStart 1971 = 719893 := by decide
  have hmono := yearStart_mono hyear
  have hday := month_le_dayNumber t.date
  unfold mktime secondNumber
  omega

/-- The conversion loses nothing exactly below 2^31. -/
theorem datetimeToInt_eq_mktime_iff (zone : Zone) {t : DateTime} (h : t.Exists)
    (hyear : t.date.year ≤ 9999) (hnonneg : 0 ≤ mktime zone t) :
    datetimeToInt getTime (mktime zone) (written t) = mktime zone t ↔ mktime zone t < 2 ^ 31 := by
  rw [datetimeToInt_written zone h hyear]
  exact cast_eq_iff (by omega)

/-- Two times in order are converted in order, and without loss, exactly when the
later one is before 2038-01-19 03:14:08 UTC. -/
theorem order_kept_iff (zone : Zone) {a b : DateTime} (ha : a.Exists) (hb : b.Exists)
    (hyear : 1971 ≤ a.date.year ∧ a.date.year ≤ 9999)
    (hyear' : 1971 ≤ b.date.year ∧ b.date.year ≤ 9999) (hlt : a.Before b) :
    OrderKept zone a b ↔ (secondNumber b : ℤ) < epoch + zone.offset + 2 ^ 31 := by
  have hrange : (secondNumber b : ℤ) < epoch + zone.offset + 2 ^ 31 ↔ mktime zone b < 2 ^ 31 := by
    unfold mktime
    omega
  rw [hrange]
  have hnonneg := mktime_nonneg zone a hyear.1
  have hnonneg' := mktime_nonneg zone b hyear'.1
  have hless : mktime zone a < mktime zone b := by
    have hseconds := secondNumber_lt ha hb hlt
    unfold mktime
    omega
  constructor
  · intro hkept
    exact (datetimeToInt_eq_mktime_iff zone hb hyear'.2 hnonneg').mp hkept.second_eq
  · intro hfits
    have hfirst := (datetimeToInt_eq_mktime_iff zone ha hyear.2 hnonneg).mpr (by omega)
    have hsecond := (datetimeToInt_eq_mktime_iff zone hb hyear'.2 hnonneg').mpr hfits
    refine ⟨?_, ?_, ?_, hfirst, hsecond⟩
    · rw [hfirst, hsecond]
      exact hless
    · rw [hfirst]
      omega
    · rw [hsecond]
      omega

def utc : Zone where
  offset := 0
  daylight _ := 0
  offset_lt := by decide
  daylight_lt _ := by decide

theorem exists_january (second : ℕ) (h : second < 60) :
    DateTime.Exists ⟨⟨2038, 1, 19⟩, 3, 14, second⟩ :=
  ⟨⟨by simp, by simp, by simp, by simp [daysInMonth]⟩, by simp, by simp, h⟩

/-- The last second of the ints and the one before. -/
theorem last_second_kept :
    OrderKept utc ⟨⟨2038, 1, 19⟩, 3, 14, 6⟩ ⟨⟨2038, 1, 19⟩, 3, 14, 7⟩ :=
  (order_kept_iff utc (exists_january 6 (by decide)) (exists_january 7 (by decide))
    (by decide) (by decide) (Or.inr (by decide))).mpr (by decide)

/-- The second after it is converted to the first of the ints. -/
theorem next_second_not_kept :
    ¬ OrderKept utc ⟨⟨2038, 1, 19⟩, 3, 14, 7⟩ ⟨⟨2038, 1, 19⟩, 3, 14, 8⟩ := by
  intro h
  have hlt := h.lt
  rw [datetimeToInt_written utc (exists_january 7 (by decide)) (by decide),
    datetimeToInt_written utc (exists_january 8 (by decide)) (by decide)] at hlt
  exact absurd hlt (by decide)

end Datetimes

end AirlineReservation
