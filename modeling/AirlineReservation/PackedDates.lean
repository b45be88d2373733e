import AirlineReservation.Library.Calendar
import Mathlib.Data.Int.Notation
import Mathlib.Tactic.Ring

/-!
The overload of `DatetimeToInt` that packs year, month, day and minutes into one
int. The fields do not overlap, so that the packing would keep the order of dates,
but the year is moved so far to the left that it does not fit an int from the year
22 on.
-/

namespace AirlineReservation

open Calendar

/-- The result of a signed operation, unless it overflows. -/
def int32 (i : ℤ) : Option ℤ := if -2 ^ 31 ≤ i ∧ i < 2 ^ 31 then some i else none

/-- `DatetimeToInt(year, month, day, minutes)`, each operation by itself. -/
def packDatetimeToInt (year month day minutes : ℤ) : Option ℤ := do
  let years ← int32 (year * 100000000)
  let months ← int32 (month * 1000000)
  let yearsMonths ← int32 (years + months)
  let days ← int32 (day * 10000)
  let yearsMonthsDays ← int32 (yearsMonths + days)
  int32 (yearsMonthsDays + minutes)

namespace PackedDates

def pack (d : Date) (minutes : ℕ) : Option ℤ :=
  packDatetimeToInt d.year d.month d.day minutes

/-- The minutes of a day, at a date with four digits for its year. -/
structure Packable (d : Date) (minutes : ℕ) : Prop where
  exists_ : d.Exists
  year_le : d.year ≤ 9999
  minutes_lt : minutes < 1440

/-- An earlier date, or an earlier minute of the same date. -/
def Before (d : Date) (minutes : ℕ) (d' : Date) (minutes' : ℕ) : Prop :=
  d.Before d' ∨ d = d' ∧ minutes < minutes'

/-- Without overflow the packing is computed for both, and increases. -/
def Increases (d : Date) (minutes : ℕ) (d' : Date) (minutes' : ℕ) : Prop :=
  ∃ i j, pack d minutes = some i ∧ pack d' minutes' = some j ∧ i < j

theorem int32_of_lt {i : ℤ} (hnonneg : 0 ≤ i) (hlt : i < 2 ^ 31) : int32 i = some i := by
  rw [int32, if_pos ⟨by omega, hlt⟩]

theorem int32_of_ge {i : ℤ} (h : 2 ^ 31 ≤ i) : int32 i = none := by
  rw [int32, if_neg (by omega)]

section Packable

variable {d : Date} {minutes : ℕ} (h : Packable d minutes)
include h

/-- Up to the year 21 no step overflows. -/
theorem pack_of_le (hyear : d.year ≤ 21) :
    pack d minutes =
      some ((d.year : ℤ) * 100000000 + d.month * 1000000 + d.day * 10000 + minutes) := by
  have hmonth := h.exists_.month_le
  have hday : d.day ≤ 31 := h.exists_.day_le_31
  have hminutes := h.minutes_lt
  -- the largest value is that of the last minute of the year 21
  have hfits : ∀ i : ℤ, 0 ≤ i → i ≤ 2112311439 → int32 i = some i := by
    intro i hnonneg hle
    exact int32_of_lt hnonneg (by omega)
  rw [pack, packDatetimeToInt, hfits _ (by omega) (by omega), Option.bind_eq_bind,
    Option.bind_some, hfits _ (by omega) (by omega), Option.bind_some,
    hfits _ (by omega) (by omega), Option.bind_some, hfits _ (by omega) (by omega),
    Option.bind_some, hfits _ (by omega) (by omega), Option.bind_some,
    hfits _ (by omega) (by omega)]

omit h in
/-- From the year 22 on the first product overflows. -/
theorem pack_of_gt (minutes : ℕ) (hyear : 22 ≤ d.year) : pack d minutes = none := by
  rw [pack, packDatetimeToInt, int32_of_ge (by omega)]
  rfl

theorem pack_isSome_iff : (pack d minutes).isSome = true ↔ d.year ≤ 21 := by
  by_cases hyear : d.year ≤ 21
  · rw [pack_of_le h hyear]
    exact iff_of_true rfl hyear
  · rw [pack_of_gt minutes (by omega)]
    exact iff_of_false (by decide) hyear

end Packable

/-- The fields do not overlap: day and minutes stay below a month, the month below
a year. -/
theorem increases_iff {d d' : Date} {minutes minutes' : ℕ} (h : Packable d minutes)
    (h' : Packable d' minutes') (hlt : Before d minutes d' minutes') :
    Increases d minutes d' minutes' ↔ d'.year ≤ 21 := by
  constructor
  · intro hincreases
    obtain ⟨i, j, _, hpack, _⟩ := hincreases
    rw [← pack_isSome_iff h', hpack]
    rfl
  · intro hyear'
    have hmonth := h.exists_.month_le
    have hday : d.day ≤ 31 := h.exists_.day_le_31
    have hminutes := h.minutes_lt
    have hyear : d.year ≤ 21 := by
      rcases hlt with (hless | hsame) | hsame
      · omega
      · omega
      · rw [hsame.1]
        exact hyear'
    refine ⟨_, _, pack_of_le h hyear, pack_of_le h' hyear', ?_⟩
    rcases hlt with (hyears | ⟨hyears, hmonths | ⟨hmonths, hdays⟩⟩) | ⟨hdate, hless⟩
    · omega
    · omega
    · omega
    · subst hdate
      omega

/-- The packing of a date is computed, and is greater than that of every earlier date,
exactly when its year is at most 21. -/
theorem packing_iff {d : Date} {minutes : ℕ} (h : Packable d minutes) :
    ((pack d minutes).isSome = true ↔ d.year ≤ 21) ∧
    ∀ (d' : Date) (minutes' : ℕ), Packable d' minutes' → Before d' minutes' d minutes →
      (Increases d' minutes' d minutes ↔ d.year ≤ 21) :=
  ⟨pack_isSome_iff h, fun _ _ h' hlt => increases_iff h' h hlt⟩

theorem packable_march (year : ℕ) (h : year ≤ 9999) : Packable ⟨year, 3, 15⟩ 0 :=
  ⟨⟨by simp, by simp, by simp, by simp [daysInMonth]⟩, h, by decide⟩

/-- Two dates of the years that do not overflow. -/
theorem early_date_packed :
    (pack ⟨21, 3, 15⟩ 0).isSome = true ∧ Increases ⟨20, 3, 15⟩ 0 ⟨21, 3, 15⟩ 0 := by
  obtain ⟨hpack, hincreases⟩ := packing_iff (packable_march 21 (by decide))
  have hlt : Before ⟨20, 3, 15⟩ 0 ⟨21, 3, 15⟩ 0 := Or.inl (Or.inl (by decide))
  exact ⟨hpack.mpr (by decide),
    (hincreases _ 0 (packable_march 20 (by decide)) hlt).mpr (by decide)⟩

/-- The date that `TestSQLiteCPP` packs overflows. -/
theorem test_date_overflows : Packable ⟨2024, 3, 15⟩ 0 ∧ pack ⟨2024, 3, 15⟩ 0 = none :=
  ⟨packable_march 2024 (by decide), pack_of_gt 0 (by decide)⟩

end PackedDates

end AirlineReservation
