import PlayerRegistry.Proofs.CalendarDates
import PlayerRegistry.Proofs.SeparatedTexts
import PlayerRegistry.Time.Text

/-!
# Dates of HTTP

A reader of the dates that HTTP headers hold. What is written for an instant of the years 0 to 9999
is read as the last whole second that is not later.
-/

namespace PlayerRegistry

namespace Text

/-- The number that exactly so many digits stand for. -/
def numberOfWidth? (width : Nat) (cs : List Char) : Option Nat :=
  if cs.length = width ∧ cs.all Char.isDigit then some (Nat.ofDigitChars 10 cs 0) else none

variable {width n : Nat}

theorem isDigit_of_mem_padded {c : Char} (h : c ∈ (padded width n).toList) : c.isDigit = true := by
  rw [padded, String.toList_ofList, List.mem_append] at h
  rcases h with zero | digit
  · rw [List.eq_of_mem_replicate zero]
    rfl
  · exact Nat.isDigit_of_mem_toDigits (by decide) (by decide) digit

theorem not_mem_padded {c : Char} (h : c.isDigit = false) : c ∉ (padded width n).toList := by
  intro mem
  rw [isDigit_of_mem_padded mem] at h
  cases h

theorem numberOfWidth?_padded (some' : 0 < width) (fits : n < 10 ^ width) :
    numberOfWidth? width (padded width n).toList = some n := by
  have digits : (padded width n).toList.all Char.isDigit = true :=
    List.all_eq_true.mpr fun _ => isDigit_of_mem_padded
  have long : (Nat.toDigits 10 n).length ≤ width :=
    (Nat.length_toDigits_le_iff (by decide) some').mpr fits
  have length : (padded width n).toList.length = width := by
    rw [padded, String.toList_ofList, List.length_append, List.length_replicate]
    omega
  rw [numberOfWidth?, if_pos ⟨length, digits⟩, padded, String.toList_ofList,
    Nat.ofDigitChars_append, Nat.ofDigitChars_replicate_zero, Nat.mul_zero,
    Nat.ofDigitChars_ten_toDigits]

end Text

namespace Time

open Text (numberOfWidth? numberOfWidth?_padded not_mem_padded)

/-- The days of the week, counted from Thursday, on which the counting of days begins. -/
def readWeekday? : List Char → Option Int
  | ['T', 'h', 'u', ','] => some 0
  | ['F', 'r', 'i', ','] => some 1
  | ['S', 'a', 't', ','] => some 2
  | ['S', 'u', 'n', ','] => some 3
  | ['M', 'o', 'n', ','] => some 4
  | ['T', 'u', 'e', ','] => some 5
  | ['W', 'e', 'd', ','] => some 6
  | _ => none

def readMonth? : List Char → Option Nat
  | ['J', 'a', 'n'] => some 1
  | ['F', 'e', 'b'] => some 2
  | ['M', 'a', 'r'] => some 3
  | ['A', 'p', 'r'] => some 4
  | ['M', 'a', 'y'] => some 5
  | ['J', 'u', 'n'] => some 6
  | ['J', 'u', 'l'] => some 7
  | ['A', 'u', 'g'] => some 8
  | ['S', 'e', 'p'] => some 9
  | ['O', 'c', 't'] => some 10
  | ['N', 'o', 'v'] => some 11
  | ['D', 'e', 'c'] => some 12
  | _ => none

/-- The second of the day. -/
def readClock? (cs : List Char) : Option Nat :=
  match splitAtChar ':' cs with
  | [hour, minute, second] => do
    let hour ← numberOfWidth? 2 hour
    let minute ← numberOfWidth? 2 minute
    let second ← numberOfWidth? 2 second
    if hour < 24 ∧ minute < 60 ∧ second < 60 then some (hour * 3600 + minute * 60 + second)
    else none
  | _ => none

/-- The seconds since the beginning of 1970 that a date of HTTP means, if it is one and has the
right day of the week. -/
def readHttpDate? (cs : List Char) : Option Int :=
  match splitAtChar ' ' cs with
  | [weekday, day, month, year, clock, zone] => do
    let weekday ← readWeekday? weekday
    let day ← numberOfWidth? 2 day
    let month ← readMonth? month
    let year ← numberOfWidth? 4 year
    let second ← readClock? clock
    let days := dayNumber year month day
    if zone = ['G', 'M', 'T'] ∧ IsDay year month day ∧ days % 7 = weekday then
      some (days * 86400 + second)
    else none
  | _ => none

theorem readWeekday?_name (days : Int) :
    readWeekday? ((weekdayNames.getD (weekday days) "").toList ++ [',']) = some (days % 7) := by
  have fits : weekday days < 7 := by
    unfold weekday
    omega
  have shifted : days % 7 = (weekday days + 3) % 7 := by
    unfold weekday
    omega
  rw [shifted]
  generalize weekday days = k at fits
  interval_cases k <;> rfl

theorem readMonth?_name {month : Nat} (h : 1 ≤ month ∧ month ≤ 12) :
    readMonth? (monthNames.getD (month - 1) "").toList = some month := by
  obtain ⟨first, last⟩ := h
  interval_cases month <;> decide

theorem toList_clockText (t : TimeOfDay) : (clockText t).toList = List.intercalate [':']
    [(Text.padded 2 t.hour).toList, (Text.padded 2 t.minute).toList,
      (Text.padded 2 t.second).toList] := by
  simp [clockText]

theorem readClock?_clockText {seconds : Nat} (h : seconds < 86400) :
    readClock? (clockText (.ofSeconds seconds)).toList = some seconds := by
  have colon : ∀ n, ':' ∉ (Text.padded 2 n).toList := fun _ => not_mem_padded rfl
  have valid : seconds / 3600 < 24 ∧ seconds / 60 % 60 < 60 ∧ seconds % 60 < 60 := by omega
  have sum : seconds / 3600 * 3600 + seconds / 60 % 60 * 60 + seconds % 60 = seconds := by omega
  rw [readClock?, toList_clockText, splitAtChar_intercalate (by simp [colon]) (by simp)]
  simp only [TimeOfDay.ofSeconds]
  rw [numberOfWidth?_padded (by decide) (by omega), numberOfWidth?_padded (by decide) (by omega),
    numberOfWidth?_padded (by decide) (by omega)]
  simp [valid, sum]

/-- The words of a date, between which there are spaces. -/
def dateWords (days : Int) (year month day : Nat) (clock : TimeOfDay) : List (List Char) :=
  [(weekdayNames.getD (weekday days) "").toList ++ [','], (Text.padded 2 day).toList,
    (monthNames.getD (month - 1) "").toList, (Text.padded 4 year).toList, (clockText clock).toList,
    ['G', 'M', 'T']]

/-- Only letters, digits, colons and commas are written. -/
def isDateSign (c : Char) : Bool := c.isAlphanum || c == ':' || c == ','

theorem isDateSign_of_name {names : List String}
    (letters : ∀ name ∈ names, name.toList.all isDateSign = true) (i : Nat) :
    ∀ c ∈ (names.getD i "").toList, isDateSign c = true := by
  rw [List.getD_eq_getElem?_getD]
  cases found : names[i]? with
  | none => simp
  | some name => exact List.all_eq_true.mp (letters name (List.mem_of_getElem? found))

theorem isDateSign_of_padded {width n : Nat} :
    ∀ c ∈ (Text.padded width n).toList, isDateSign c = true := by
  intro c hc
  simp [isDateSign, Char.isAlphanum, Text.isDigit_of_mem_padded hc]

theorem isDateSign_of_clock (t : TimeOfDay) :
    ∀ c ∈ (clockText t).toList, isDateSign c = true := by
  intro c hc
  rw [toList_clockText] at hc
  rcases mem_intercalate hc with rfl | ⟨number, hn, hc⟩
  · rfl
  · simp only [List.mem_cons, List.not_mem_nil, or_false] at hn
    rcases hn with rfl | rfl | rfl <;> exact isDateSign_of_padded c hc

theorem isDateSign_of_mem (days : Int) (year month day : Nat) (clock : TimeOfDay) :
    ∀ word ∈ dateWords days year month day clock, ∀ c ∈ word, isDateSign c = true := by
  have weekdays : ∀ name ∈ weekdayNames, name.toList.all isDateSign = true := by decide +kernel
  have months : ∀ name ∈ monthNames, name.toList.all isDateSign = true := by decide +kernel
  simp only [dateWords, List.forall_mem_cons]
  refine ⟨fun c hc => ?_, isDateSign_of_padded, isDateSign_of_name months _,
    isDateSign_of_padded, isDateSign_of_clock clock, ⟨rfl, rfl, rfl, by simp⟩, by simp⟩
  rcases List.mem_append.mp hc with name | comma
  · exact isDateSign_of_name weekdays _ c name
  · rw [List.mem_singleton.mp comma]
    rfl

theorem toList_httpDate {t : Instant} {year month day : Nat}
    (date : Date.ofDays (t.seconds / secondsPerDay) = ⟨year, month, day⟩) (four : year ≤ 9999) :
    (httpDate t).toList = List.intercalate [' ']
      (dateWords (t.seconds / secondsPerDay) year month day (timeOf t.seconds)) := by
  have notBefore : ¬(year : Int) < 0 := by omega
  have notAfter : ¬9999 < (year : Int) := by omega
  simp [httpDate, dateWords, date, yearText, notBefore, notAfter]

/-- The date of a day and a second of it are read as they are. -/
theorem readHttpDate?_dateWords {year month day seconds : Nat} (isDay : IsDay year month day)
    (four : year ≤ 9999) (within : seconds < 86400) :
    readHttpDate? (List.intercalate [' ']
      (dateWords (dayNumber year month day) year month day (.ofSeconds seconds))) =
        some (dayNumber year month day * 86400 + seconds) := by
  have two : day < 10 ^ 2 := isDay.day_le.trans_lt (monthLength_lt year month)
  have free : ∀ word ∈ dateWords (dayNumber year month day) year month day (.ofSeconds seconds),
      ' ' ∉ word := fun word hw space => by
    have sign := isDateSign_of_mem _ _ _ _ _ word hw ' ' space
    revert sign
    decide
  rw [readHttpDate?, splitAtChar_intercalate free (by simp [dateWords]), dateWords]
  dsimp only
  rw [readWeekday?_name, numberOfWidth?_padded (by decide) two,
    readMonth?_name ⟨isDay.month_pos, isDay.month_le⟩,
    numberOfWidth?_padded (by decide) (Nat.lt_succ_of_le four), readClock?_clockText within]
  exact if_pos ⟨rfl, isDay, rfl⟩

/-- The seconds since the beginning of 1970 at which a year begins. -/
def newYear (year : Nat) : Int := dayNumber year 1 1 * 86400

theorem newYear_eq (year : Nat) : newYear year =
    (365 * year + (year + 3) / 4 - (year + 99) / 100 + (year + 399) / 400 - 719528) * 86400 := by
  have start : daysOfMonths year (1 - 1) = 0 := rfl
  rw [newYear, dayNumber, start, daysBeforeYear_eq, daysBeforeYear_eq]
  omega

end Time

/-- The instants of the years 0 to 9999. -/
def Instant.HasFourDigitYear (t : Instant) : Prop :=
  Time.newYear 0 ≤ t.seconds ∧ t.seconds < Time.newYear 10000

namespace Time

theorem exists_date {t : Instant} (four : t.HasFourDigitYear) : ∃ year month day : Nat,
    Date.ofDays (t.seconds / secondsPerDay) = ⟨year, month, day⟩ ∧ IsDay year month day ∧
      dayNumber year month day = t.seconds / secondsPerDay ∧ year ≤ 9999 := by
  obtain ⟨first, last⟩ := four
  unfold newYear at first last
  have later : dayNumber 0 1 1 ≤ t.seconds / secondsPerDay := by
    unfold secondsPerDay
    omega
  obtain ⟨year, month, day, date, isDay, number⟩ := ofDays_isDay later
  refine ⟨year, month, day, date, isDay, number, ?_⟩
  by_contra late
  have early : 10000 ≤ year := Nat.lt_of_not_le late
  have := dayNumber_newYear_le early month day
  unfold secondsPerDay at number
  omega

theorem readHttpDate?_httpDate {t : Instant} (four : t.HasFourDigitYear) :
    readHttpDate? (httpDate t).toList = some t.seconds := by
  obtain ⟨year, month, day, date, isDay, number, four⟩ := exists_date four
  have within : (t.seconds % secondsPerDay).toNat < 86400 := by
    unfold secondsPerDay
    omega
  rw [toList_httpDate date four, ← number, timeOf, readHttpDate?_dateWords isDay four within,
    number]
  refine congrArg some ?_
  unfold secondsPerDay
  omega

theorem not_mem_httpDate {t : Instant} (four : t.HasFourDigitYear) {c : Char}
    (other : isDateSign c = false) (visible : c ≠ ' ') : c ∉ (httpDate t).toList := by
  obtain ⟨year, month, day, date, -, -, four⟩ := exists_date four
  rw [toList_httpDate date four]
  intro mem
  rcases mem_intercalate mem with space | ⟨word, hw, hc⟩
  · exact visible space
  · rw [isDateSign_of_mem _ _ _ _ _ word hw c hc] at other
    cases other

/-- The last nanosecond of a leap day. -/
example : httpDate ⟨951868799999999999⟩ = "Tue, 29 Feb 2000 23:59:59 GMT" := by
  decide +kernel

end Time

end PlayerRegistry
