import Mathlib.Order.Monotone.Basic
import Mathlib.Tactic.IntervalCases
import PlayerRegistry.Time.Calendar

/-!
# Dates of the calendar

The calendar as it is defined, year by year and month by month, and the dates that days are given
by calculation: the date of a day has as many days before it as it should.
-/

namespace PlayerRegistry.Time

def IsLeap (year : Nat) : Prop := 4 ∣ year ∧ (100 ∣ year → 400 ∣ year)

instance (year : Nat) : Decidable (IsLeap year) := inferInstanceAs (Decidable (_ ∧ _))

def leapDays (year : Nat) : Nat := if IsLeap year then 1 else 0

def monthLength (year : Nat) : Nat → Nat
  | 2 => 28 + leapDays year
  | 4 | 6 | 9 | 11 => 30
  | _ => 31

/-- Days of a year that lie before its months after the first `n`. -/
def daysOfMonths (year : Nat) : Nat → Nat
  | 0 => 0
  | n + 1 => daysOfMonths year n + monthLength year (n + 1)

/-- Days from the beginning of year 0 to the beginning of a year. -/
def daysBeforeYear : Nat → Nat
  | 0 => 0
  | year + 1 => daysBeforeYear year + daysOfMonths year 12

structure IsDay (year month day : Nat) : Prop where
  month_pos : 1 ≤ month
  month_le : month ≤ 12
  day_pos : 1 ≤ day
  day_le : day ≤ monthLength year month

instance (year month day : Nat) : Decidable (IsDay year month day) :=
  decidable_of_iff (1 ≤ month ∧ month ≤ 12 ∧ 1 ≤ day ∧ day ≤ monthLength year month)
    ⟨fun ⟨a, b, c, d⟩ => ⟨a, b, c, d⟩, fun ⟨a, b, c, d⟩ => ⟨a, b, c, d⟩⟩

/-- Days from 1 January 1970 to a day. -/
def dayNumber (year month day : Nat) : Int :=
  daysBeforeYear year + daysOfMonths year (month - 1) + (day - 1 : Nat) - daysBeforeYear 1970

theorem daysOfMonths_year (year : Nat) : daysOfMonths year 12 = 365 + leapDays year := by
  simp [daysOfMonths, monthLength]
  omega

/-- One day in every fourth year, but not in every hundredth, and again in every four-hundredth. -/
theorem leapDays_eq (year : Nat) : (leapDays year : Int) =
    ((year + 4) / 4 - (year + 3) / 4) - ((year + 100) / 100 - (year + 99) / 100)
      + ((year + 400) / 400 - (year + 399) / 400) := by
  rw [leapDays]
  split
  · rename_i leap
    obtain ⟨four, hundred⟩ := leap
    by_cases century : 100 ∣ year
    · have := hundred century
      omega
    · omega
  · rename_i common
    by_cases century : 100 ∣ year
    · have : ¬400 ∣ year := fun all => common ⟨by omega, fun _ => all⟩
      omega
    · have : ¬4 ∣ year := fun four => common ⟨four, fun h => absurd h century⟩
      omega

theorem daysBeforeYear_eq (year : Nat) : (daysBeforeYear year : Int) =
    365 * year + (year + 3) / 4 - (year + 99) / 100 + (year + 399) / 400 := by
  induction year with
  | zero => rfl
  | succ year ih =>
    have next (k : Int) : ((year + 1 : Nat) : Int) + k = year + (1 + k) := by omega
    rw [daysBeforeYear, daysOfMonths_year, Nat.cast_add, ih, Nat.cast_add, leapDays_eq, next, next,
      next]
    omega

theorem daysBeforeYear_mono : Monotone daysBeforeYear :=
  monotone_nat_of_le_succ fun _ => Nat.le_add_right _ _

theorem monthLength_lt (year month : Nat) : monthLength year month < 100 := by
  have : leapDays year ≤ 1 := by
    unfold leapDays
    split <;> decide
  unfold monthLength
  split <;> omega

/-- No day of a year lies before the beginning of the year or of one before it. -/
theorem dayNumber_newYear_le {before year : Nat} (h : before ≤ year) (month day : Nat) :
    dayNumber before 1 1 ≤ dayNumber year month day := by
  have years := daysBeforeYear_mono h
  have start : daysOfMonths before (1 - 1) = 0 := rfl
  unfold dayNumber
  omega

/-- A day of the era lies in a century, in four years of it, in a year of these, and there on a day
of the year. The leap day comes at the end of the four years, but of a century only after the last
one. -/
structure DayParts (d c q r s : Int) : Prop where
  century : 0 ≤ c ∧ c ≤ 3
  four : 0 ≤ q ∧ q ≤ 24
  year : 0 ≤ r ∧ r ≤ 3
  day : 0 ≤ s ∧ s ≤ 365
  leap : s = 365 → r = 3 ∧ (q < 24 ∨ c = 3)
  sum : d = 36524 * c + 1461 * q + 365 * r + s

theorem exists_dayParts {d : Int} (nonneg : 0 ≤ d) (within : d < daysInEra) :
    ∃ c q r s, DayParts d c q r s := by
  unfold daysInEra at within
  -- the last century has a day more than the others, and so has the last of four years
  have century : ∃ c e : Int, (0 ≤ c ∧ c ≤ 3) ∧ (0 ≤ e ∧ e ≤ 36524) ∧ (e = 36524 → c = 3) ∧
      d = 36524 * c + e := by
    by_cases last : d = 146096
    · exact ⟨3, 36524, by omega⟩
    · exact ⟨d / 36524, d % 36524, by omega⟩
  obtain ⟨c, e, hc, he, hlast, rfl⟩ := century
  have years : ∃ r s : Int, (0 ≤ r ∧ r ≤ 3) ∧ (0 ≤ s ∧ s ≤ 365) ∧ (s = 365 → r = 3) ∧
      e % 1461 = 365 * r + s := by
    by_cases last : e % 1461 = 1460
    · exact ⟨3, 365, by omega⟩
    · exact ⟨e % 1461 / 365, e % 1461 % 365, by omega⟩
  obtain ⟨r, s, hr, hs, hleap, split⟩ := years
  exact ⟨c, e / 1461, r, s, hc, by omega, hr, hs, by omega, by omega⟩

namespace DayParts

variable {d c q r s : Int}

theorem centuries (h : DayParts d c q r s) : d / 36524 - d / 146096 = c := by
  obtain ⟨hc, hq, hr, hs, leap, sum⟩ := h
  have rest : 0 ≤ 1461 * q + 365 * r + s ∧ 1461 * q + 365 * r + s ≤ 36524 := by omega
  have last : 1461 * q + 365 * r + s = 36524 → c = 3 := by omega
  rw [Int.add_assoc, Int.add_assoc, ← Int.add_assoc (1461 * q)] at sum
  generalize 1461 * q + 365 * r + s = e at rest last sum
  omega

/-- Where four years are taken for 1460 days, each leap day that has passed counts as one more, and
so does the next one already some weeks before it comes. -/
theorem fours (h : DayParts d c q r s) :
    ∃ b : Int, d / 1460 = 25 * c + q + b ∧ 0 ≤ s - b ∧ s - b ≤ 364 := by
  obtain ⟨hc, hq, hr, hs, leap, sum⟩ := h
  have split : d = 1460 * (25 * c + q) + (24 * c + q + 365 * r + s) := by omega
  by_cases late : 1460 ≤ 24 * c + q + 365 * r + s
  · exact ⟨1, by omega⟩
  · exact ⟨0, by omega⟩

theorem yearOfEra_eq (h : DayParts d c q r s) : yearOfEra d = 100 * c + 4 * q + r := by
  have centuries := h.centuries
  obtain ⟨b, fours, first, last⟩ := h.fours
  have sum := h.sum
  have days : d - d / 1460 + d / 36524 - d / 146096 = 365 * (100 * c + 4 * q + r) + (s - b) := by
    omega
  rw [yearOfEra, days]
  omega

theorem firstDayOf_eq (h : DayParts d c q r s) : firstDayOf (yearOfEra d) = d - s := by
  rw [h.yearOfEra_eq]
  obtain ⟨hc, hq, hr, hs, leap, rfl⟩ := h
  unfold firstDayOf
  omega

end DayParts

/-- A day of the era is a day of its year, and it is the 366th one only if the January year in which
it lies is a leap year. -/
structure EraDay (d y s : Int) : Prop where
  year : 0 ≤ y ∧ y ≤ 399
  day : 0 ≤ s ∧ s ≤ 365
  leap : s = 365 → 4 ∣ y + 1 ∧ (100 ∣ y + 1 → 400 ∣ y + 1)
  sum : d = 365 * y + y / 4 - y / 100 + s

theorem eraDay {d : Int} (nonneg : 0 ≤ d) (within : d < daysInEra) :
    EraDay d (yearOfEra d) (d - firstDayOf (yearOfEra d)) := by
  obtain ⟨c, q, r, s, parts⟩ := exists_dayParts nonneg within
  rw [parts.firstDayOf_eq, parts.yearOfEra_eq]
  obtain ⟨hc, hq, hr, hs, leap, sum⟩ := parts
  refine ⟨by omega, by omega, ?_, by omega⟩
  intro last
  omega

theorem daysOfMonths_march (year : Nat) {m : Nat} (hm : m < 10) :
    (daysOfMonths year (m + 2) : Int) = 59 + leapDays year + firstDayOfMonth m := by
  interval_cases m <;> simp [daysOfMonths, monthLength, firstDayOfMonth] <;> omega

theorem firstDayOfMonth_succ (year : Nat) {m : Nat} (hm : m < 10) :
    firstDayOfMonth (m + 1) = firstDayOfMonth m + monthLength year (m + 3) := by
  interval_cases m <;> simp [monthLength, firstDayOfMonth]

theorem monthOfYear_spec {s : Int} (hs : 0 ≤ s ∧ s ≤ 365) :
    ∃ m : Nat, monthOfYear s = m ∧ m < 12 ∧
      firstDayOfMonth m ≤ s ∧ s < firstDayOfMonth (m + 1) := by
  refine ⟨(monthOfYear s).toNat, ?_⟩
  unfold monthOfYear firstDayOfMonth
  omega

/-- Days from 1 March of year 0 to 1 March of a year. -/
def daysBeforeMarch (year : Int) : Int := 365 * year + year / 4 - year / 100 + year / 400

theorem daysBeforeMarch_eq (year : Nat) :
    daysBeforeMarch year = daysBeforeYear year + leapDays year - 1 := by
  rw [daysBeforeMarch, daysBeforeYear_eq, leapDays_eq]
  omega

theorem daysBeforeMarch_before (year : Nat) :
    daysBeforeMarch (year - 1) = daysBeforeYear year - 366 := by
  rw [daysBeforeMarch, daysBeforeYear_eq]
  omega

theorem epochOffset_eq : epochOffset = daysBeforeYear 1970 - 60 := by
  rw [daysBeforeYear_eq]
  rfl

section
variable {year m : Nat} {s : Int} (first : firstDayOfMonth m ≤ s)
  (last : s < firstDayOfMonth (m + 1))
include first last

/-- The ten months from March on lie in the year in which they begin. -/
theorem isDay_from_march (hm : m < 10) :
    IsDay year (m + 3) (s - firstDayOfMonth m + 1).toNat ∧
      dayNumber year (m + 3) (s - firstDayOfMonth m + 1).toNat =
        daysBeforeMarch year + s - epochOffset := by
  have length := firstDayOfMonth_succ year hm
  refine ⟨⟨by omega, by omega, by omega, by omega⟩, ?_⟩
  rw [dayNumber, daysBeforeMarch_eq, epochOffset_eq, Nat.add_sub_cancel (m + 2) 1,
    daysOfMonths_march year hm]
  omega

/-- January and February belong to the year after the one in which their March began. -/
theorem isDay_until_march (hm : m = 10 ∨ m = 11) (within : s ≤ 365) (leap : s = 365 → IsLeap year) :
    IsDay year (m - 9) (s - firstDayOfMonth m + 1).toNat ∧
      dayNumber year (m - 9) (s - firstDayOfMonth m + 1).toNat =
        daysBeforeMarch (year - 1) + s - epochOffset := by
  have february : s = 365 → leapDays year = 1 := fun h => if_pos (leap h)
  rw [dayNumber, daysBeforeMarch_before, epochOffset_eq]
  rcases hm with rfl | rfl
  · have start : firstDayOfMonth (10 : Nat) = 306 := rfl
    have next : firstDayOfMonth ((10 : Nat) + 1) = 337 := rfl
    have months : daysOfMonths year (10 - 9 - 1) = 0 := rfl
    have length : monthLength year (10 - 9) = 31 := rfl
    refine ⟨⟨by omega, by omega, by omega, by omega⟩, by omega⟩
  · have start : firstDayOfMonth (11 : Nat) = 337 := rfl
    have months : daysOfMonths year (11 - 9 - 1) = 31 := rfl
    have length : monthLength year (11 - 9) = 28 + leapDays year := rfl
    refine ⟨⟨by omega, by omega, by omega, by omega⟩, by omega⟩

end

/-- The date of a day of a year that begins in March. -/
def Date.ofMarch (year s : Int) : Date :=
  let m := monthOfYear s
  { year := year + (if m < 10 then 0 else 1)
    month := (if m < 10 then m + 3 else m - 9).toNat
    day := (s - firstDayOfMonth m + 1).toNat }

theorem ofDays_eq_ofMarch (n : Int) : ∃ year s : Int, (0 ≤ s ∧ s ≤ 365) ∧
    (s = 365 → 4 ∣ year + 1 ∧ (100 ∣ year + 1 → 400 ∣ year + 1)) ∧
    daysBeforeMarch year + s - epochOffset = n ∧ Date.ofDays n = .ofMarch year s := by
  have day : EraDay ((n + epochOffset) % daysInEra) _ _ :=
    eraDay (Int.emod_nonneg _ (by decide)) (Int.emod_lt_of_pos _ (by decide))
  refine ⟨yearOfEra ((n + epochOffset) % daysInEra) + 400 * ((n + epochOffset) / daysInEra), _,
    day.day, fun last => ?_, ?_, rfl⟩
  · have leap := day.leap last
    omega
  · have sum := day.sum
    have years := day.year
    have eras := Int.emod_add_mul_ediv (n + epochOffset) daysInEra
    unfold daysBeforeMarch daysInEra at *
    omega

/-- From year 0 on, every day has the date that has as many days before it. -/
theorem ofDays_isDay {n : Int} (h : dayNumber 0 1 1 ≤ n) : ∃ year month day : Nat,
    Date.ofDays n = ⟨year, month, day⟩ ∧ IsDay year month day ∧ dayNumber year month day = n := by
  have start : dayNumber 0 1 1 = -719528 := by
    rw [dayNumber, daysBeforeYear_eq 1970]
    rfl
  rw [start] at h
  obtain ⟨year, s, within, leap, sum, date⟩ := ofDays_eq_ofMarch n
  obtain ⟨m, month, twelve, first, last⟩ := monthOfYear_spec within
  rw [date, Date.ofMarch, month]
  by_cases spring : m < 10
  · have nonneg : 0 ≤ year := by
      unfold daysBeforeMarch epochOffset at sum
      unfold firstDayOfMonth at last
      omega
    obtain ⟨y, rfl⟩ := Int.eq_ofNat_of_zero_le nonneg
    obtain ⟨isDay, number⟩ := isDay_from_march first last spring
    refine ⟨y, m + 3, (s - firstDayOfMonth m + 1).toNat, ?_, isDay, by rw [number, sum]⟩
    have early : (m : Int) < 10 := by omega
    have name : (m + 3 : Int).toNat = m + 3 := by omega
    rw [if_pos early, if_pos early, Int.add_zero, name]
  · -- January of year 0 belongs to a year that began in March of year -1
    have nonneg : 0 ≤ year + 1 := by
      unfold daysBeforeMarch epochOffset at sum
      omega
    obtain ⟨y, next⟩ := Int.eq_ofNat_of_zero_le nonneg
    obtain rfl : year = y - 1 := by omega
    have ownLeap : s = 365 → IsLeap y := by
      intro lastDay
      have := leap lastDay
      unfold IsLeap
      omega
    obtain ⟨isDay, number⟩ := isDay_until_march first last (by omega) within.2 ownLeap
    refine ⟨y, m - 9, (s - firstDayOfMonth m + 1).toNat, ?_, isDay, by rw [number, sum]⟩
    have late : ¬(m : Int) < 10 := by omega
    have name : (m - 9 : Int).toNat = m - 9 := by omega
    rw [if_neg late, if_neg late, next, name]

end PlayerRegistry.Time
