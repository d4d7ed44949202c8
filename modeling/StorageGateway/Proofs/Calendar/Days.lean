import Mathlib.Algebra.BigOperators.Intervals
import Mathlib.Algebra.Order.BigOperators.Group.Finset
import Mathlib.Tactic.IntervalCases
import StorageGateway.Calendar

/-!
# Counting days

A calendar counts days year by year and month by month: every fourth year has a day more, but of
the years that end a century only every fourth. An instant is the number of seconds that have
passed since the start of 1970 by this count. The date that is computed for an instant is a date of
the calendar, and it is the one that counts to the instant. Dates follow each other in the order
of their parts.

## Main definitions

* `DateTime.isLeap`, `DateTime.monthDays`, `DateTime.yearDays`: the lengths of months and years.
* `DateTime.instant`: the instant of a date, by counting.
* `DateTime.IsValid`: the dates and times that a calendar and a clock show.
* `DateTime.Before`: the order of dates and times by their parts.

## Main results

* `DateTime.toSeconds_eq_instant`: counting by integer divisions.
* `DateTime.isValid_ofSeconds`, `DateTime.instant_ofSeconds`: the date of an instant.
* `DateTime.instant_lt_iff`, `DateTime.eq_of_instant_eq`: instants identify and order dates.
-/

namespace StorageGateway.DateTime

/-- Whether a year is a leap year. -/
def isLeap (y : Int) : Bool := 4 ∣ y ∧ (100 ∣ y → 400 ∣ y)

/-- The number of days of a month. -/
def monthDays (y : Int) (m : Nat) : Nat :=
  if m = 2 then if isLeap y then 29 else 28
  else if m = 4 ∨ m = 6 ∨ m = 9 ∨ m = 11 then 30
  else 31

/-- The number of days of a year. -/
def yearDays (y : Int) : Nat := if isLeap y then 366 else 365

/-- The first day of a year, counted from 1 January 1970. -/
def newYear (y : Int) : Int :=
  (∑ n ∈ Finset.range (y - 1970).toNat, yearDays (1970 + n)) -
    (∑ n ∈ Finset.range (1970 - y).toNat, yearDays (1969 - n))

/-- The number of days of a year before a month. -/
def daysBefore (y : Int) (m : Nat) : Nat := ∑ k ∈ Finset.Ico 1 m, monthDays y k

/-- The day of a date, counted from 1 January 1970. -/
def dayNumber (d : DateTime) : Int := newYear d.year + daysBefore d.year d.month + (d.day - 1)

/-- The instant of a date and time. -/
def instant (d : DateTime) : Int :=
  86400 * d.dayNumber + (3600 * d.hour + 60 * d.minute + d.second)

/-- The dates and times that a calendar and a clock show. -/
structure IsValid (d : DateTime) : Prop where
  month : 1 ≤ d.month ∧ d.month ≤ 12
  day : 1 ≤ d.day ∧ d.day ≤ monthDays d.year d.month
  hour : d.hour < 24
  minute : d.minute < 60
  second : d.second < 60

/-! ### Counting by integer divisions -/

/-- The leap day of a year, as the step of three quotients. -/
theorem leapDay_eq (y : Int) : (if isLeap y then 1 else 0 : Int) =
    (y / 4 - (y - 1) / 4) - (y / 100 - (y - 1) / 100) + (y / 400 - (y - 1) / 400) := by
  split
  · next h =>
    simp only [isLeap, decide_eq_true_eq] at h
    omega
  · next h =>
    simp only [isLeap, decide_eq_true_eq] at h
    omega

theorem yearDays_eq (y : Int) : (yearDays y : Int) = 365 + if isLeap y then 1 else 0 := by
  rw [yearDays]
  cases isLeap y <;> rfl

theorem yearDays_eq_daysBefore (y : Int) : yearDays y = daysBefore y 13 := by
  rw [daysBefore, yearDays]
  cases h : isLeap y <;> simp [Finset.sum_Ico_succ_top, monthDays, h]

theorem newYear_eq (y : Int) : newYear y =
    365 * (y - 1970) + (y - 1) / 4 - (y - 1) / 100 + (y - 1) / 400 - 477 := by
  have hafter (n : Nat) : ((∑ i ∈ Finset.range n, yearDays (1970 + i) : Nat) : Int) =
      365 * n + (1969 + n) / 4 - (1969 + n) / 100 + (1969 + n) / 400 - 477 := by
    induction n with
    | zero => rfl
    | succ n ih =>
      have hyear := yearDays_eq (1970 + n)
      rw [leapDay_eq] at hyear
      rw [Finset.sum_range_succ, Nat.cast_add, ih]
      omega
  have hbefore (n : Nat) : ((∑ i ∈ Finset.range n, yearDays (1969 - i) : Nat) : Int) =
      365 * n - (1969 - n) / 4 + (1969 - n) / 100 - (1969 - n) / 400 + 477 := by
    induction n with
    | zero => rfl
    | succ n ih =>
      have hyear := yearDays_eq (1969 - n)
      rw [leapDay_eq] at hyear
      rw [Finset.sum_range_succ, Nat.cast_add, ih]
      omega
  rw [newYear, hafter, hbefore]
  omega

/-- From March on, five months in a row have 153 days. -/
theorem daysBefore_eq {m : Nat} (hm : 1 ≤ m ∧ m ≤ 12) (y : Int) : (daysBefore y m : Int) =
    if m ≤ 2 then 31 * ((m : Int) - 1)
    else (153 * ((m : Int) - 3) + 2) / 5 + 59 + if isLeap y then 1 else 0 := by
  rw [daysBefore]
  obtain ⟨hlow, hhigh⟩ := hm
  cases h : isLeap y <;> interval_cases m <;> simp [Finset.sum_Ico_succ_top, monthDays, h]

theorem dayOfCivil_eq {m : Nat} (hm : 1 ≤ m ∧ m ≤ 12) (y : Int) (day : Nat) :
    dayOfCivil y m day - epochDay = newYear y + daysBefore y m + (day - 1) := by
  rw [daysBefore_eq hm, newYear_eq, leapDay_eq, dayOfCivil, epochDay]
  split
  · rw [if_neg (by omega)]
    omega
  · rw [if_pos (by omega)]
    omega

/-- Integer divisions count the days of the calendar. -/
theorem toSeconds_eq_instant {d : DateTime} (h : d.IsValid) : d.toSeconds = d.instant := by
  rw [toSeconds, dayOfCivil_eq h.month, instant, dayNumber]

/-! ### The date of a day -/

/-- The number of days of an era before its year `y`. -/
def yearStart (y : Nat) : Nat := 365 * y + y / 4 - y / 100

/-- The days of an era without the leap days at the ends of its years. -/
def evened (day : Nat) : Nat := day - day / 1460 + day / 36524 - day / 146096

theorem evened_mono {a b : Nat} (h : a ≤ b) : evened a ≤ evened b := by
  induction b, h using Nat.le_induction with
  | base => exact Nat.le_refl _
  | succ b _ ih =>
    refine ih.trans ?_
    rw [evened, evened]
    omega

/-- A year of an era starts where the evened days complete another 365. -/
theorem evened_yearStart : ∀ y < 400, 365 * y ≤ evened (yearStart y) ∧
    (y ≠ 0 → evened (yearStart y - 1) < 365 * y) := by decide +kernel

/-- The evened days tell the year of an era that a day lies in. -/
theorem evened_div {day : Nat} (h : day < 146097) :
    evened day / 365 < 400 ∧ yearStart (evened day / 365) ≤ day ∧
      (evened day / 365 < 399 → day < yearStart (evened day / 365 + 1)) := by
  have hlast : evened day / 365 < 400 := by
    have hmono := evened_mono (show day ≤ 146096 by omega)
    have hend : evened 146096 = 145999 := rfl
    omega
  refine ⟨hlast, ?_, fun hyear => ?_⟩
  · by_contra hlt
    have hne : evened day / 365 ≠ 0 := by
      intro hzero
      rw [hzero] at hlt
      exact hlt (Nat.zero_le _)
    have hbelow := (evened_yearStart _ hlast).2 hne
    have hmono := evened_mono (show day ≤ yearStart (evened day / 365) - 1 by omega)
    omega
  · by_contra hge
    have habove := (evened_yearStart (evened day / 365 + 1) (by omega)).1
    have hmono := evened_mono (show yearStart (evened day / 365 + 1) ≤ day by omega)
    omega

/-- The date of a day: its era, its year in the era and its month, counted from March, are those in
which the day lies. The last month ends with the leap day. -/
theorem civilOfDay_cases (z : Int) : ∃ (era : Int) (y m d : Nat), y < 400 ∧ m < 12 ∧
    z = 146097 * era + yearStart y + (153 * m + 2) / 5 + d ∧
    d < (153 * (m + 1) + 2) / 5 - (153 * m + 2) / 5 ∧
    (m = 11 → d < 28 ∨ d = 28 ∧ isLeap (400 * era + y + 1)) ∧
    civilOfDay z = (400 * era + y + (if m < 10 then 0 else 1),
      if m < 10 then m + 3 else m - 9, d + 1) := by
  have hday : (z % 146097).toNat < 146097 := by omega
  obtain ⟨hyear, hstart, hend⟩ := evened_div hday
  generalize hy : evened (z % 146097).toNat / 365 = y at hyear hstart hend
  obtain ⟨d, hd⟩ : ∃ d, (z % 146097).toNat = yearStart y + d :=
    ⟨_, (Nat.add_sub_cancel' hstart).symm⟩
  have hleap : isLeap (400 * (z / 146097) + y + 1) ↔
      (y + 1) / 4 = y / 4 + 1 ∧ ((y + 1) / 100 = y / 100 + 1 → y = 399) := by
    simp only [isLeap, decide_eq_true_eq]
    omega
  have hlength : d < 365 ∨ d = 365 ∧ isLeap (400 * (z / 146097) + y + 1) := by
    rw [hleap]
    rw [yearStart] at hd
    rcases Nat.lt_or_ge (y + 1) 400 with hlt | hge
    · have hnext := hend (by omega)
      rw [yearStart] at hnext
      omega
    · omega
  refine ⟨z / 146097, y, (5 * d + 2) / 153, d - (153 * ((5 * d + 2) / 153) + 2) / 5, hyear,
    by omega, by omega, by omega, fun hlast => ?_, ?_⟩
  · rw [hlast]
    rcases hlength with hlt | ⟨heq, hleap⟩
    · left
      omega
    · exact .inr ⟨by omega, hleap⟩
  · have hyearOfEra : ((z % 146097).toNat - (z % 146097).toNat / 1460 +
        (z % 146097).toNat / 36524 - (z % 146097).toNat / 146096) / 365 = y := hy
    have hdayOfYear : (z % 146097).toNat - (365 * y + y / 4 - y / 100) = d := by
      rw [hd, yearStart]
      omega
    rw [civilOfDay]
    simp only [hyearOfEra, hdayOfYear]
    congr 1
    split <;> split <;> omega

theorem dayOfCivil_civilOfDay (z : Int) :
    dayOfCivil (civilOfDay z).1 (civilOfDay z).2.1 (civilOfDay z).2.2 = z := by
  obtain ⟨era, y, m, d, hy, hm, hz, hd, -, hdate⟩ := civilOfDay_cases z
  rw [hdate, dayOfCivil, hz, yearStart]
  by_cases hnew : m < 10
  · simp only [hnew, if_true]
    rw [if_neg (by omega), if_pos (by omega)]
    omega
  · simp only [hnew, if_false]
    rw [if_pos (by omega), if_neg (by omega)]
    omega

/-! ### The date of an instant -/

/-- The date of an instant is a date of the calendar. -/
theorem isValid_ofSeconds (t : Int) : (ofSeconds t).IsValid := by
  obtain ⟨era, y, m, d, hy, hm, -, hd, hlast, hdate⟩ := civilOfDay_cases (t / 86400 + epochDay)
  have hdays : d < monthDays (400 * era + y + (if m < 10 then 0 else 1))
      (if m < 10 then m + 3 else m - 9) := by
    interval_cases m <;> simp [monthDays] at hd hlast ⊢ <;> grind
  have hseconds : (t % 86400).toNat < 86400 := by omega
  rw [ofSeconds, hdate]
  refine ⟨?_, ⟨Nat.le_add_left 1 d, hdays⟩, ?_, ?_, ?_⟩
  · dsimp only
    split <;> omega
  · dsimp only
    omega
  · exact Nat.mod_lt _ (by decide)
  · exact Nat.mod_lt _ (by decide)

/-- The date of an instant counts to the instant. -/
theorem instant_ofSeconds (t : Int) : (ofSeconds t).instant = t := by
  rw [← toSeconds_eq_instant (isValid_ofSeconds t), toSeconds, ofSeconds]
  dsimp only
  rw [dayOfCivil_civilOfDay]
  omega

/-! ### The order of dates -/

/-- A date and time is before another one when the first part in which they differ is smaller. -/
def Before (d e : DateTime) : Prop :=
  d.year < e.year ∨ d.year = e.year ∧ (d.month < e.month ∨ d.month = e.month ∧
    (d.day < e.day ∨ d.day = e.day ∧ (d.hour < e.hour ∨ d.hour = e.hour ∧
      (d.minute < e.minute ∨ d.minute = e.minute ∧ d.second < e.second))))

theorem before_trichotomy (d e : DateTime) : d.Before e ∨ d = e ∨ e.Before d := by
  rw [Before, Before, DateTime.mk.injEq]
  omega

theorem newYear_add_le {y y' : Int} (h : y < y') : newYear y + yearDays y ≤ newYear y' := by
  rw [newYear_eq, newYear_eq, yearDays_eq, leapDay_eq]
  omega

theorem daysBefore_add_le (y : Int) {m m' : Nat} (hpos : 1 ≤ m) (h : m < m') :
    daysBefore y m + monthDays y m ≤ daysBefore y m' := by
  rw [daysBefore, daysBefore, ← Finset.sum_Ico_succ_top hpos]
  exact Finset.sum_le_sum_of_subset (Finset.Ico_subset_Ico_right h)

variable {d e : DateTime}

/-- The days of a year lie between its first day and that of the next year. -/
theorem IsValid.dayNumber_lt_newYear (h : d.IsValid) {y : Int} (hy : d.year < y) :
    d.dayNumber < newYear y := by
  have hend := daysBefore_add_le d.year h.month.1
    (show d.month < 13 from Nat.lt_succ_of_le h.month.2)
  have hnext := newYear_add_le hy
  have hlast := h.day.2
  rw [yearDays_eq_daysBefore] at hnext
  rw [dayNumber]
  omega

theorem IsValid.newYear_le (h : d.IsValid) : newYear d.year ≤ d.dayNumber := by
  have hfirst := h.day.1
  rw [dayNumber]
  omega

/-- A year starts with its first instant. -/
theorem IsValid.le_year_iff (h : d.IsValid) (y : Int) :
    y ≤ d.year ↔ 86400 * newYear y ≤ d.instant := by
  have hhour := h.hour
  have hminute := h.minute
  have hsecond := h.second
  rw [instant]
  rcases lt_trichotomy d.year y with hlt | rfl | hgt
  · have hbelow := h.dayNumber_lt_newYear hlt
    omega
  · have hfirst := h.newYear_le
    omega
  · have hstart := newYear_add_le hgt
    have hfirst := h.newYear_le
    omega

/-- A later year or month starts behind the days of an earlier one. -/
theorem dayNumber_lt (hd : d.IsValid) (he : e.IsValid)
    (h : d.year < e.year ∨ d.year = e.year ∧ (d.month < e.month ∨ d.month = e.month ∧
      d.day < e.day)) : d.dayNumber < e.dayNumber := by
  have hlast := hd.day.2
  have hfirst := he.day.1
  rcases h with hyear | ⟨hyear, hmonth | ⟨hmonth, hday⟩⟩
  · exact (hd.dayNumber_lt_newYear hyear).trans_le he.newYear_le
  · have hend := daysBefore_add_le d.year hd.month.1 hmonth
    rw [dayNumber, dayNumber, ← hyear]
    omega
  · rw [dayNumber, dayNumber, ← hyear, ← hmonth]
    omega

theorem Before.instant_lt (hd : d.IsValid) (he : e.IsValid) (h : d.Before e) :
    d.instant < e.instant := by
  have hhour := hd.hour
  have hminute := hd.minute
  have hsecond := hd.second
  rw [Before] at h
  rw [instant, instant]
  by_cases hday : d.year = e.year ∧ d.month = e.month ∧ d.day = e.day
  · obtain ⟨hyear, hmonth, hday⟩ := hday
    have hnumber : d.dayNumber = e.dayNumber := by
      rw [dayNumber, dayNumber, hyear, hmonth, hday]
    rw [hnumber]
    omega
  · have hlt := dayNumber_lt hd he (by omega)
    omega

/-- Instants order dates. -/
theorem instant_lt_iff (hd : d.IsValid) (he : e.IsValid) :
    d.instant < e.instant ↔ d.Before e := by
  refine ⟨fun h => ?_, Before.instant_lt hd he⟩
  rcases before_trichotomy d e with hbefore | rfl | hafter
  · exact hbefore
  · exact absurd h (Int.lt_irrefl _)
  · exact absurd (hafter.instant_lt he hd) (Int.not_lt.mpr h.le)

/-- Instants identify dates. -/
theorem eq_of_instant_eq (hd : d.IsValid) (he : e.IsValid) (h : d.instant = e.instant) :
    d = e := by
  rcases before_trichotomy d e with hbefore | rfl | hafter
  · exact absurd h (hbefore.instant_lt hd he).ne
  · rfl
  · exact absurd h (hafter.instant_lt he hd).ne'

end StorageGateway.DateTime
