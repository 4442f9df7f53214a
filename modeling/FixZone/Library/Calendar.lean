import FixZone.Library.IsoDate
import Mathlib.Order.SuccPred.Basic
import Mathlib.Algebra.Order.Ring.Int
import Mathlib.Order.Monotone.Basic

/-!
# Calendar months

The months of the proleptic Gregorian calendar in their order, as integers: the month of a
year is `12 * year + month - 1`. A month is the days from its first day up to the first day
of the next one (`monthOf_eq_iff`), so moving a date by months moves it by the days between
two first days (`addUtcMonths_eq`). What is known of `addUtcMonths` follows: when it keeps
the order of two dates (`addUtcMonths_le_iff`) and when it arrives in the month it is meant to
arrive in (`monthOf_addUtcMonths_iff`).
-/

namespace FixZone.Library

/-- The milliseconds of a day. -/
def dayMillis : ℤ := 86400000

/-! ### Months -/

/-- Whether a year has a 29th of February. -/
def isLeapYear (year : ℤ) : Bool := year % 4 = 0 && (year % 100 ≠ 0 || year % 400 = 0)

/-- The days of a month. -/
def daysInMonth (month : ℤ) : ℤ :=
  if month % 12 = 1 then if isLeapYear (month / 12) then 29 else 28
  else if month % 12 = 3 ∨ month % 12 = 5 ∨ month % 12 = 8 ∨ month % 12 = 10 then 30
  else 31

/-- The first day of a month. -/
def firstDay (month : ℤ) : ℤ := daysFromCivil (month / 12) (month % 12 + 1) 1

/-- The month a day is in. -/
def monthOfDay (day : ℤ) : ℤ := 12 * (civilFromDays day).1 + (civilFromDays day).2.1 - 1

theorem daysInMonth_bounds (month : ℤ) : 28 ≤ daysInMonth month ∧ daysInMonth month ≤ 31 := by
  unfold daysInMonth
  split_ifs <;> omega

/-- The first of March of a year, counted from that of the year 0: the leap day of a year comes
last, and with it the whole of the calendar but for the months of a year. -/
def marchFirst (year : ℤ) : ℤ := 365 * year + year / 4 - year / 100 + year / 400

theorem marchFirst_succ (year : ℤ) :
    marchFirst (year + 1) = marchFirst year + 365 + if isLeapYear (year + 1) then 1 else 0 := by
  have hleap : isLeapYear (year + 1) ↔
      (year + 1) % 4 = 0 ∧ ((year + 1) % 100 ≠ 0 ∨ (year + 1) % 400 = 0) := by
    simp [isLeapYear]
  unfold marchFirst
  split_ifs with h
  · have := hleap.mp h
    omega
  · have := mt hleap.mpr h
    omega

/-- The first day of a month that is `shifted` months after March. -/
theorem firstDay_shifted {shifted : ℤ} (year : ℤ) (hshifted : 0 ≤ shifted ∧ shifted < 12) :
    firstDay (12 * year + shifted + 2) =
      marchFirst year + (153 * shifted + 2) / 5 - 719468 := by
  unfold firstDay marchFirst
  by_cases hlate : shifted < 10
  · have hyear : (12 * year + shifted + 2) / 12 = year := by omega
    have hmonth : (12 * year + shifted + 2) % 12 + 1 = shifted + 3 := by omega
    rw [hyear, hmonth]
    simp only [daysFromCivil]
    split_ifs <;> omega
  · have hyear : (12 * year + shifted + 2) / 12 = year + 1 := by omega
    have hmonth : (12 * year + shifted + 2) % 12 + 1 = shifted - 9 := by omega
    rw [hyear, hmonth]
    simp only [daysFromCivil]
    split_ifs <;> omega

theorem firstDay_succ (month : ℤ) : firstDay (month + 1) = firstDay month + daysInMonth month := by
  obtain ⟨year, shifted, hshifted, rfl⟩ :
      ∃ year shifted, (0 ≤ shifted ∧ shifted < 12) ∧ month = 12 * year + shifted + 2 :=
    ⟨(month - 2) / 12, (month - 2) % 12, by omega, by omega⟩
  rw [firstDay_shifted year hshifted]
  by_cases hlast : shifted = 11
  · subst hlast
    have hnext : (12 * year + 11 + 2 + 1 : ℤ) = 12 * (year + 1) + 0 + 2 := by omega
    have hmonth : (12 * year + 11 + 2 : ℤ) % 12 = 1 := by omega
    have hyear : (12 * year + 11 + 2 : ℤ) / 12 = year + 1 := by omega
    rw [hnext, firstDay_shifted (year + 1) (by omega), marchFirst_succ, daysInMonth, if_pos hmonth,
      hyear]
    split_ifs <;> omega
  · have hnext : 12 * year + shifted + 2 + 1 = 12 * year + (shifted + 1) + 2 := by omega
    rw [hnext, firstDay_shifted year (by omega), daysInMonth]
    obtain ⟨hfirst, hlater⟩ := hshifted
    interval_cases shifted <;> split_ifs <;> omega

/-- The first of March on or before a day, found by the year of its era. -/
theorem marchFirst_bounds {dayOfEra : ℤ} (h : 0 ≤ dayOfEra ∧ dayOfEra < 146097) :
    let year := (dayOfEra - dayOfEra / 1460 + dayOfEra / 36524 - dayOfEra / 146096) / 365
    marchFirst year ≤ dayOfEra ∧ dayOfEra < marchFirst (year + 1) := by
  intro year
  have hyear : 365 * year ≤ dayOfEra - dayOfEra / 1460 + dayOfEra / 36524 - dayOfEra / 146096 := by
    omega
  have hyear' : dayOfEra - dayOfEra / 1460 + dayOfEra / 36524 - dayOfEra / 146096 <
      365 * year + 365 := by omega
  clear_value year
  -- the leap days before the year, and the centuries without one
  have hfour : year / 4 ≤ dayOfEra / 1460 := by omega
  have hcentury : dayOfEra / 36524 - dayOfEra / 146096 ≤ year / 100 := by omega
  have hfour' : dayOfEra / 1460 ≤ (year + 1) / 4 := by omega
  unfold marchFirst
  refine ⟨by omega, ?_⟩
  obtain rfl | hday : dayOfEra = 146096 ∨ dayOfEra < 146096 := by omega
  · obtain rfl : year = 399 := by omega
    decide
  · have hend : dayOfEra / 146096 = 0 := by omega
    obtain ⟨century, hera, hcenturies⟩ : ∃ century, dayOfEra / 36524 = century ∧
      (century = 0 ∨ century = 1 ∨ century = 2 ∨ century = 3) := ⟨_, rfl, by omega⟩
    rw [hera, hend] at hyear hyear' hcentury
    have hyears : 100 * century ≤ year ∧ year ≤ 100 * century + 99 := by omega
    have hturn : (year + 1) / 100 = century ∨ year = 100 * century + 99 := by omega
    rcases hturn with hturn | rfl
    · omega
    · omega

theorem marchFirst_era (era yearOfEra : ℤ) :
    marchFirst (yearOfEra + era * 400) = era * 146097 + marchFirst yearOfEra := by
  unfold marchFirst
  omega

/-- A day is in the month it is said to be in. -/
theorem monthOfDay_spec (day : ℤ) :
    firstDay (monthOfDay day) ≤ day ∧ day < firstDay (monthOfDay day + 1) := by
  have hera : 0 ≤ (day + 719468) % 146097 ∧ (day + 719468) % 146097 < 146097 := by omega
  have hday : day = (day + 719468) / 146097 * 146097 + (day + 719468) % 146097 - 719468 := by omega
  obtain ⟨hyear, hyear', -, -⟩ := dayOfYear_bounds hera
  obtain ⟨hfrom, hto⟩ := marchFirst_bounds hera
  simp only [monthOfDay, civilFromDays]
  generalize (day + 719468) / 146097 = era at *
  generalize (day + 719468) % 146097 = dayOfEra at *
  generalize (dayOfEra - dayOfEra / 1460 + dayOfEra / 36524 - dayOfEra / 146096) / 365 = year at *
  have hmarch : 365 * year + year / 4 - year / 100 = marchFirst year := by
    unfold marchFirst
    omega
  have hlength : marchFirst (year + 1) ≤ marchFirst year + 366 := by
    rw [marchFirst_succ]
    split_ifs <;> omega
  rw [hmarch]
  generalize hdayOfYear : dayOfEra - marchFirst year = dayOfYear
  generalize hmonthOfYear : (5 * dayOfYear + 2) / 153 = shifted
  have hshifted : 0 ≤ shifted ∧ shifted < 12 := by omega
  have hmonth : 12 * (year + era * 400 +
      if (if shifted < 10 then shifted + 3 else shifted - 9) ≤ 2 then 1 else 0) +
        (if shifted < 10 then shifted + 3 else shifted - 9) - 1 =
      12 * (year + era * 400) + shifted + 2 := by
    split_ifs <;> omega
  rw [hmonth, firstDay_shifted _ hshifted, marchFirst_era]
  refine ⟨by omega, ?_⟩
  by_cases hfebruary : shifted = 11
  · have hnext : 12 * (year + era * 400) + shifted + 2 + 1 =
        12 * (year + 1 + era * 400) + 0 + 2 := by
      omega
    rw [hnext, firstDay_shifted _ (by omega), marchFirst_era]
    omega
  · have hnext : 12 * (year + era * 400) + shifted + 2 + 1 =
        12 * (year + era * 400) + (shifted + 1) + 2 := by omega
    rw [hnext, firstDay_shifted _ (by omega), marchFirst_era]
    omega

/-- The day of its month of a day. -/
theorem day_civilFromDays (day : ℤ) :
    (civilFromDays day).2.2 = day - firstDay (monthOfDay day) + 1 := by
  obtain ⟨hmonth, hmonth', -, -⟩ := civilFromDays_bounds day
  have hcivil := daysFromCivil_civilFromDays day
  have hyear : monthOfDay day / 12 = (civilFromDays day).1 := by
    unfold monthOfDay
    omega
  have hmonthOfYear : monthOfDay day % 12 + 1 = (civilFromDays day).2.1 := by
    unfold monthOfDay
    omega
  have hfirst : firstDay (monthOfDay day) =
      daysFromCivil (civilFromDays day).1 (civilFromDays day).2.1 1 := by
    rw [firstDay, hyear, hmonthOfYear]
  have hlinear : ∀ year month day : ℤ,
      daysFromCivil year month day = daysFromCivil year month 1 + day - 1 := by
    intro year month day
    simp only [daysFromCivil]
    omega
  rw [hlinear] at hcivil
  omega

theorem firstDay_lt_iff {month month' : ℤ} : firstDay month < firstDay month' ↔ month < month' := by
  have hmono : StrictMono firstDay := strictMono_int_of_lt_succ fun month => by
    rw [firstDay_succ]
    have := daysInMonth_bounds month
    omega
  exact hmono.lt_iff_lt

/-- **A month is the days from its first one up to the first one of the next.** -/
theorem monthOfDay_eq_iff {day month : ℤ} :
    monthOfDay day = month ↔ firstDay month ≤ day ∧ day < firstDay (month + 1) := by
  constructor
  · rintro rfl
    exact monthOfDay_spec day
  · rintro ⟨hfrom, hto⟩
    obtain ⟨hfrom', hto'⟩ := monthOfDay_spec day
    have hle : monthOfDay day < month + 1 := firstDay_lt_iff.mp (hfrom'.trans_lt hto)
    have hge : month < monthOfDay day + 1 := firstDay_lt_iff.mp (hfrom.trans_lt hto')
    omega

/-! ### Moving a date by months -/

/-- The month an instant is in, in UTC. -/
def utcMonth (millis : ℤ) : ℤ := monthOfDay (millis / dayMillis)

/-- The day of its month of an instant, in UTC. -/
def utcDayOfMonth (millis : ℤ) : ℤ := (civilFromDays (millis / dayMillis)).2.2

/-- The days from the first of the month of an instant to the first of the month that is
`months` later. -/
def daysOfMonths (months millis : ℤ) : ℤ :=
  firstDay (utcMonth millis + months) - firstDay (utcMonth millis)

/-- One month on is as many days on as the month has. -/
theorem daysOfMonths_one (millis : ℤ) : daysOfMonths 1 millis = daysInMonth (utcMonth millis) := by
  rw [daysOfMonths, firstDay_succ, add_sub_cancel_left]

/-- **Moving a date by months moves it by the days between the first days of the two.** -/
theorem addUtcMonths_eq (months millis : ℤ) :
    addUtcMonths months millis = millis + daysOfMonths months millis * dayMillis := by
  have hday := day_civilFromDays (millis / 86400000)
  have hmonth : utcMonth millis = 12 * (civilFromDays (millis / 86400000)).1 +
      (civilFromDays (millis / 86400000)).2.1 - 1 := rfl
  change _ = _ - firstDay (utcMonth millis) + 1 at hday
  unfold addUtcMonths daysOfMonths dayMillis
  generalize civilFromDays (millis / 86400000) = civil at *
  obtain ⟨year, month, day⟩ := civil
  dsimp only at hday hmonth ⊢
  have hfirst : firstDay (utcMonth millis + months) =
      daysFromCivil (year + (month - 1 + months) / 12) ((month - 1 + months) % 12 + 1) 1 := by
    rw [firstDay, hmonth]
    congr 1 <;> omega
  rw [hfirst]
  omega

theorem addUtcMonths_le_iff {months millis later : ℤ} :
    addUtcMonths months millis ≤ addUtcMonths months later ↔
      (daysOfMonths months millis - daysOfMonths months later) * dayMillis ≤ later - millis := by
  rw [addUtcMonths_eq, addUtcMonths_eq, sub_mul]
  omega

/-- A date moved by months is in the month it was moved to exactly when that month has the day
of the date. -/
theorem utcMonth_addUtcMonths_iff {months millis : ℤ} :
    utcMonth (addUtcMonths months millis) = utcMonth millis + months ↔
      utcDayOfMonth millis ≤ daysInMonth (utcMonth millis + months) := by
  have hday : addUtcMonths months millis / dayMillis =
      millis / dayMillis + daysOfMonths months millis := by
    rw [addUtcMonths_eq, dayMillis]
    omega
  have hnext := firstDay_succ (utcMonth millis + months)
  have hdayOfMonth : utcDayOfMonth millis =
      millis / dayMillis - firstDay (utcMonth millis) + 1 := day_civilFromDays _
  obtain ⟨hfrom, -⟩ : firstDay (utcMonth millis) ≤ millis / dayMillis ∧ _ := monthOfDay_spec _
  rw [utcMonth, monthOfDay_eq_iff, hday, daysOfMonths, hnext, hdayOfMonth]
  omega

end FixZone.Library
