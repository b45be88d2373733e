import Mathlib.Data.Nat.Init
import Mathlib.Tactic.Common

/-!
The Gregorian calendar. Days are counted from the first day of the year 0, and
seconds from its first second. The day number keeps the order of dates, and every
number is the day number of one date, which is found without a search: the year
from the mean length of a year, the month by walking through the year.
-/

namespace Calendar

def isLeap (year : ℕ) : Bool := year % 4 = 0 && (year % 100 ≠ 0 || year % 400 = 0)

def daysInMonth (year month : ℕ) : ℕ :=
  if month = 2 then if isLeap year then 29 else 28
  else if month = 4 ∨ month = 6 ∨ month = 9 ∨ month = 11 then 30
  else 31

structure Date where
  year : ℕ
  month : ℕ
  day : ℕ
  deriving DecidableEq, Repr

/-- The date is in the calendar. -/
structure Date.Exists (d : Date) : Prop where
  month_pos : 1 ≤ d.month
  month_le : d.month ≤ 12
  day_pos : 1 ≤ d.day
  day_le : d.day ≤ daysInMonth d.year d.month

theorem daysInMonth_le (year month : ℕ) : daysInMonth year month ≤ 31 := by
  unfold daysInMonth
  split
  · split <;> decide
  · split <;> decide

theorem Date.Exists.day_le_31 {d : Date} (h : d.Exists) : d.day ≤ 31 :=
  Nat.le_trans h.day_le (daysInMonth_le d.year d.month)

/-- Year, month and day compared in this order. -/
def Date.Before (d d' : Date) : Prop :=
  d.year < d'.year ∨ d.year = d'.year ∧
    (d.month < d'.month ∨ d.month = d'.month ∧ d.day < d'.day)

/-- The days before a year. -/
def yearStart (year : ℕ) : ℕ :=
  365 * year + (year + 3) / 4 - (year + 99) / 100 + (year + 399) / 400

/-- The days of a year before a month, the months from 1 on. -/
def monthStart (year : ℕ) : ℕ → ℕ
  | 0 => 0
  | 1 => 0
  | month + 2 => monthStart year (month + 1) + daysInMonth year (month + 1)

def dayNumber (d : Date) : ℕ := yearStart d.year + monthStart d.year d.month + (d.day - 1)

theorem isLeap_iff (year : ℕ) :
    isLeap year = true ↔ year % 4 = 0 ∧ (year % 100 ≠ 0 ∨ year % 400 = 0) := by
  simp [isLeap]

theorem monthStart_succ (year month : ℕ) (h : 1 ≤ month) :
    monthStart year (month + 1) = monthStart year month + daysInMonth year month := by
  cases month with
  | zero => contradiction
  | succ month => rfl

theorem monthStart_end (year : ℕ) :
    monthStart year 13 = if isLeap year then 366 else 365 := by
  by_cases hleap : isLeap year = true
  · simp [monthStart, daysInMonth, hleap]
  · simp [monthStart, daysInMonth, hleap]

/-- Of the years up to a year one more is divisible when that year is. -/
theorem add_succ_div (year k : ℕ) :
    (year + (k + 1)) / (k + 1) = (year + k) / (k + 1) + if year % (k + 1) = 0 then 1 else 0 := by
  have hsucc := Nat.succ_div (a := year + k) (b := k + 1)
  simp only [Nat.add_assoc, Nat.dvd_iff_mod_eq_zero, Nat.add_mod_right] at hsucc
  exact hsucc

/-- A year has as many days as its months. -/
theorem yearStart_succ (year : ℕ) :
    yearStart (year + 1) = yearStart year + monthStart year 13 := by
  have h4 : (year + 4) / 4 = (year + 3) / 4 + _ := add_succ_div year 3
  have h100 : (year + 100) / 100 = (year + 99) / 100 + _ := add_succ_div year 99
  have h400 : (year + 400) / 400 = (year + 399) / 400 + _ := add_succ_div year 399
  have hshift4 : year + 1 + 3 = year + 4 := by omega
  have hshift100 : year + 1 + 99 = year + 100 := by omega
  have hshift400 : year + 1 + 399 = year + 400 := by omega
  rw [monthStart_end, yearStart, yearStart, hshift4, hshift100, hshift400, h4, h100, h400]
  by_cases hleap : isLeap year = true
  · rw [if_pos hleap]
    obtain ⟨hfour, hcentury | hcentury⟩ := (isLeap_iff year).mp hleap
    · rw [if_pos hfour, if_neg hcentury, if_neg (by omega)]
      omega
    · rw [if_pos hfour, if_pos (by omega), if_pos hcentury]
      omega
  · rw [if_neg hleap]
    rw [isLeap_iff] at hleap
    by_cases hfour : year % 4 = 0
    · have hcentury : year % 100 = 0 := by
        by_contra hne
        exact hleap ⟨hfour, Or.inl hne⟩
      have hnot : year % 400 ≠ 0 := fun heq => hleap ⟨hfour, Or.inr heq⟩
      rw [if_pos hfour, if_pos hcentury, if_neg hnot]
      omega
    · rw [if_neg hfour, if_neg (by omega), if_neg (by omega)]
      omega

theorem yearStart_mono {year year' : ℕ} (h : year ≤ year') : yearStart year ≤ yearStart year' := by
  induction h with
  | refl => exact Nat.le_refl _
  | @step y _ ih =>
    rw [yearStart_succ y]
    exact Nat.le_add_right_of_le ih

theorem monthStart_mono (year : ℕ) {month month' : ℕ} (hpos : 1 ≤ month) (h : month ≤ month') :
    monthStart year month ≤ monthStart year month' := by
  induction h with
  | refl => exact Nat.le_refl _
  | @step m hle ih =>
    rw [monthStart_succ year m (Nat.le_trans hpos hle)]
    exact Nat.le_add_right_of_le ih

/-- A day is before the end of its month. -/
theorem dayNumber_lt_month {d : Date} (h : d.Exists) :
    dayNumber d < yearStart d.year + monthStart d.year (d.month + 1) := by
  have hstart := monthStart_succ d.year d.month h.month_pos
  have hpos := h.day_pos
  have hle := h.day_le
  unfold dayNumber
  omega

theorem dayNumber_lt_year {d : Date} (h : d.Exists) : dayNumber d < yearStart (d.year + 1) := by
  have hmonth := dayNumber_lt_month h
  have hmono : monthStart d.year (d.month + 1) ≤ monthStart d.year 13 :=
    monthStart_mono d.year (Nat.succ_pos _) (Nat.succ_le_succ h.month_le)
  rw [yearStart_succ]
  omega

theorem month_le_dayNumber (d : Date) :
    yearStart d.year + monthStart d.year d.month ≤ dayNumber d := Nat.le_add_right _ _

/-- An earlier date has a smaller number. -/
theorem dayNumber_lt {d d' : Date} (h : d.Exists) (h' : d'.Exists) (hlt : d.Before d') :
    dayNumber d < dayNumber d' := by
  rcases hlt with hyear | ⟨hyear, hmonth | ⟨hmonth, hday⟩⟩
  · calc
      dayNumber d < yearStart (d.year + 1) := dayNumber_lt_year h
      _ ≤ yearStart d'.year := yearStart_mono hyear
      _ ≤ dayNumber d' := Nat.le_trans (Nat.le_add_right _ _) (month_le_dayNumber d')
  · have hmono : monthStart d.year (d.month + 1) ≤ monthStart d.year d'.month :=
      monthStart_mono d.year (Nat.succ_pos d.month) hmonth
    have hbelow := dayNumber_lt_month h
    have habove := month_le_dayNumber d'
    rw [← hyear] at habove
    omega
  · have hpos := h.day_pos
    have hpos' := h'.day_pos
    unfold dayNumber
    rw [hyear, hmonth]
    omega

/-- The number of a date bounds its year from both sides. -/
theorem year_between {d : Date} (h : d.Exists) {first last : ℕ}
    (hlow : yearStart first ≤ dayNumber d) (hhigh : dayNumber d < yearStart (last + 1)) :
    first ≤ d.year ∧ d.year ≤ last := by
  constructor
  · by_contra hless
    have hmono : yearStart (d.year + 1) ≤ yearStart first := yearStart_mono (by omega)
    have hbelow := dayNumber_lt_year h
    omega
  · by_contra hgreater
    have hmono : yearStart (last + 1) ≤ yearStart d.year := yearStart_mono (by omega)
    have habove := month_le_dayNumber d
    omega

theorem before_trichotomy (d d' : Date) : d.Before d' ∨ d = d' ∨ d'.Before d := by
  cases d
  cases d'
  simp only [Date.Before, Date.mk.injEq]
  omega

/-- Different dates have different numbers. -/
theorem dayNumber_inj {d d' : Date} (h : d.Exists) (h' : d'.Exists)
    (heq : dayNumber d = dayNumber d') : d = d' := by
  rcases before_trichotomy d d' with hlt | hsame | hgt
  · exact absurd heq (Nat.ne_of_lt (dayNumber_lt h h' hlt))
  · exact hsame
  · exact absurd heq.symm (Nat.ne_of_lt (dayNumber_lt h' h hgt))

/-- The year that a day is in. The estimate is at most one year off. -/
def yearOf (n : ℕ) : ℕ :=
  let estimate := 400 * n / 146097
  if n < yearStart estimate then estimate - 1
  else if n < yearStart (estimate + 1) then estimate
  else estimate + 1

/-- The month and the day in it, both counted on from a month and the days that
are left at its beginning; `months` is how many may follow. -/
def monthOf (year : ℕ) : ℕ → ℕ → ℕ → ℕ × ℕ
  | 0, month, rest => (month, rest)
  | months + 1, month, rest =>
    if rest < daysInMonth year month then (month, rest)
    else monthOf year months (month + 1) (rest - daysInMonth year month)

def dateOf (n : ℕ) : Date :=
  let year := yearOf n
  let (month, rest) := monthOf year 11 1 (n - yearStart year)
  ⟨year, month, rest + 1⟩

theorem yearOf_spec (n : ℕ) : yearStart (yearOf n) ≤ n ∧ n < yearStart (yearOf n + 1) := by
  have hlow : yearStart (400 * n / 146097 - 1) ≤ n := by
    unfold yearStart
    omega
  have hhigh : n < yearStart (400 * n / 146097 + 2) := by
    unfold yearStart
    omega
  unfold yearOf
  simp only
  by_cases hless : n < yearStart (400 * n / 146097)
  · rw [if_pos hless]
    have hpos : 400 * n / 146097 ≠ 0 := by
      intro hzero
      rw [hzero] at hless
      exact Nat.not_lt_zero n hless
    rw [Nat.sub_add_cancel (Nat.one_le_iff_ne_zero.mpr hpos)]
    exact ⟨hlow, hless⟩
  · rw [if_neg hless]
    by_cases hsame : n < yearStart (400 * n / 146097 + 1)
    · rw [if_pos hsame]
      exact ⟨Nat.le_of_not_lt hless, hsame⟩
    · rw [if_neg hsame]
      exact ⟨Nat.le_of_not_lt hsame, hhigh⟩

/-- The walk ends in a month of the year, at a day of that month, and keeps the
number of the day in the year. -/
theorem monthOf_spec (year months month rest : ℕ) (hpos : 1 ≤ month)
    (hrest : monthStart year month + rest < monthStart year (month + months + 1)) :
    ∃ month' rest', monthOf year months month rest = (month', rest') ∧
      1 ≤ month' ∧ month' ≤ month + months ∧ rest' < daysInMonth year month' ∧
      monthStart year month' + rest' = monthStart year month + rest := by
  induction months generalizing month rest with
  | zero =>
    rw [Nat.add_zero, monthStart_succ year month hpos] at hrest
    exact ⟨month, rest, rfl, hpos, Nat.le_refl _, by omega, rfl⟩
  | succ months ih =>
    by_cases h : rest < daysInMonth year month
    · exact ⟨month, rest, if_pos h, hpos, Nat.le_add_right _ _, h, rfl⟩
    · have hnext := monthStart_succ year month hpos
      have hshift : month + 1 + months + 1 = month + (months + 1) + 1 := by omega
      obtain ⟨month', rest', heq, hpos', hle, hlt, hsum⟩ :=
        ih (month + 1) (rest - daysInMonth year month) (Nat.succ_pos _) (by
          rw [hshift]
          omega)
      exact ⟨month', rest', (if_neg h).trans heq, hpos', by omega, hlt, by omega⟩

/-- Every number is the day number of a date. -/
theorem dateOf_spec (n : ℕ) : (dateOf n).Exists ∧ dayNumber (dateOf n) = n := by
  obtain ⟨hlow, hhigh⟩ := yearOf_spec n
  rw [yearStart_succ] at hhigh
  have hrest : monthStart (yearOf n) 1 + (n - yearStart (yearOf n)) <
      monthStart (yearOf n) (1 + 11 + 1) := by
    change 0 + (n - yearStart (yearOf n)) < monthStart (yearOf n) 13
    omega
  obtain ⟨month, rest, heq, hpos, hle, hlt, hsum⟩ :=
    monthOf_spec (yearOf n) 11 1 (n - yearStart (yearOf n)) (Nat.le_refl 1) hrest
  have hdate : dateOf n = ⟨yearOf n, month, rest + 1⟩ := by
    simp only [dateOf, heq]
  rw [hdate]
  refine ⟨⟨hpos, hle, Nat.succ_pos rest, hlt⟩, ?_⟩
  change yearStart (yearOf n) + monthStart (yearOf n) month + rest = n
  change _ = 0 + _ at hsum
  omega

theorem dateOf_dayNumber {d : Date} (h : d.Exists) : dateOf (dayNumber d) = d := by
  obtain ⟨hexists, hnumber⟩ := dateOf_spec (dayNumber d)
  exact dayNumber_inj hexists h hnumber

structure DateTime where
  date : Date
  hour : ℕ
  minute : ℕ
  second : ℕ
  deriving DecidableEq, Repr

structure DateTime.Exists (t : DateTime) : Prop where
  date : t.date.Exists
  hour_lt : t.hour < 24
  minute_lt : t.minute < 60
  second_lt : t.second < 60

def DateTime.Before (t t' : DateTime) : Prop :=
  t.date.Before t'.date ∨ t.date = t'.date ∧
    (t.hour < t'.hour ∨ t.hour = t'.hour ∧
      (t.minute < t'.minute ∨ t.minute = t'.minute ∧ t.second < t'.second))

def secondNumber (t : DateTime) : ℕ :=
  86400 * dayNumber t.date + 3600 * t.hour + 60 * t.minute + t.second

def dateTimeOf (n : ℕ) : DateTime :=
  ⟨dateOf (n / 86400), n % 86400 / 3600, n % 3600 / 60, n % 60⟩

/-- An earlier time has a smaller number. -/
theorem secondNumber_lt {t t' : DateTime} (h : t.Exists) (h' : t'.Exists) (hlt : t.Before t') :
    secondNumber t < secondNumber t' := by
  have hhour := h.hour_lt
  have hminute := h.minute_lt
  have hsecond := h.second_lt
  unfold secondNumber
  rcases hlt with hdate | ⟨hdate, hclock⟩
  · have hday := dayNumber_lt h.date h'.date hdate
    omega
  · rw [hdate]
    omega

/-- The hours, minutes and seconds of a number are found by division. -/
theorem dateTimeOf_secondNumber {t : DateTime} (h : t.Exists) :
    dateTimeOf (secondNumber t) = t := by
  obtain ⟨date, hour, minute, second⟩ := t
  obtain ⟨hdate, hhour, hminute, hsecond⟩ := h
  simp only at hdate hhour hminute hsecond
  have hday : secondNumber ⟨date, hour, minute, second⟩ / 86400 = dayNumber date := by
    simp only [secondNumber]
    omega
  have hhours : secondNumber ⟨date, hour, minute, second⟩ % 86400 / 3600 = hour := by
    simp only [secondNumber]
    omega
  have hminutes : secondNumber ⟨date, hour, minute, second⟩ % 3600 / 60 = minute := by
    simp only [secondNumber]
    omega
  have hseconds : secondNumber ⟨date, hour, minute, second⟩ % 60 = second := by
    simp only [secondNumber]
    omega
  rw [dateTimeOf, hday, hhours, hminutes, hseconds, dateOf_dayNumber hdate]

/-- Every number is the number of a second that exists. -/
theorem dateTimeOf_spec (n : ℕ) :
    (dateTimeOf n).Exists ∧ secondNumber (dateTimeOf n) = n := by
  obtain ⟨hexists, hnumber⟩ := dateOf_spec (n / 86400)
  constructor
  · refine ⟨hexists, ?_, ?_, ?_⟩
    · change n % 86400 / 3600 < 24
      omega
    · change n % 3600 / 60 < 60
      omega
    · exact Nat.mod_lt n (by decide)
  · simp only [secondNumber, dateTimeOf, hnumber]
    omega

end Calendar
