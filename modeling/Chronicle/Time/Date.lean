import Mathlib.Logic.Function.Iterate

set_option autoImplicit false

namespace Chronicle.Time

-- `time::util::is_leap_year`
def isLeapYear (year : Int) : Bool :=
  year % 4 == 0 && (year % 25 != 0 || year % 16 == 0)

-- `time::util::days_in_year`
def daysInYear (year : Int) : Nat := if isLeapYear year then 366 else 365

inductive Month where
  | january | february | march | april | may | june
  | july | august | september | october | november | december
deriving DecidableEq, Repr

-- `Month::next`
def Month.next : Month → Month
  | .january => .february
  | .february => .march
  | .march => .april
  | .april => .may
  | .may => .june
  | .june => .july
  | .july => .august
  | .august => .september
  | .september => .october
  | .october => .november
  | .november => .december
  | .december => .january

-- `time::util::days_in_year_month`
def daysInYearMonth (year : Int) : Month → Nat
  | .january | .march | .may | .july | .august | .october | .december => 31
  | .april | .june | .september | .november => 30
  | .february => if isLeapYear year then 29 else 28

-- `DAYS_CUMULATIVE_COMMON_LEAP`: the days of the year before the first of `month`.
def daysBeforeMonth (year : Int) (month : Month) : Nat :=
  let leap := if isLeapYear year then 1 else 0
  match month with
  | .january => 0
  | .february => 31
  | .march => 59 + leap
  | .april => 90 + leap
  | .may => 120 + leap
  | .june => 151 + leap
  | .july => 181 + leap
  | .august => 212 + leap
  | .september => 243 + leap
  | .october => 273 + leap
  | .november => 304 + leap
  | .december => 334 + leap

theorem daysBeforeMonth_next (year : Int) (month : Month) (notLast : month ≠ .december) :
    daysBeforeMonth year month.next = daysBeforeMonth year month + daysInYearMonth year month := by
  cases month <;> cases leap : isLeapYear year <;>
    simp_all [daysBeforeMonth, daysInYearMonth, Month.next]

theorem daysBeforeMonth_december (year : Int) :
    daysBeforeMonth year .december + daysInYearMonth year .december = daysInYear year := by
  cases leap : isLeapYear year <;> simp [daysBeforeMonth, daysInYearMonth, daysInYear, leap]

theorem daysBeforeMonth_add_le (year : Int) (month : Month) :
    daysBeforeMonth year month + daysInYearMonth year month ≤ daysInYear year := by
  cases month <;> cases leap : isLeapYear year <;>
    simp [daysBeforeMonth, daysInYearMonth, daysInYear, leap]

theorem one_le_daysInYearMonth (year : Int) (month : Month) : 1 ≤ daysInYearMonth year month := by
  cases month <;> simp only [daysInYearMonth] <;> (try split) <;> omega

theorem one_le_daysInYear (year : Int) : 1 ≤ daysInYear year := by
  unfold daysInYear
  split <;> omega

@[ext]
structure Date where
  year : Int
  ordinal : Nat
  year_range : -9999 ≤ year ∧ year ≤ 9999
  ordinal_range : 1 ≤ ordinal ∧ ordinal ≤ daysInYear year
deriving DecidableEq

namespace Date

-- `Date::from_calendar_date`
def fromCalendarDate (year : Int) (month : Month) (day : Nat) : Option Date :=
  if h : (-9999 ≤ year ∧ year ≤ 9999) ∧ 1 ≤ day ∧ day ≤ daysInYearMonth year month then
    some ⟨year, daysBeforeMonth year month + day, h.1, by
      have := daysBeforeMonth_add_le year month
      omega⟩
  else none

-- `Date::month`, read off the ordinal against the cumulative table.
def month (date : Date) : Month :=
  if date.ordinal > daysBeforeMonth date.year .december then .december
  else if date.ordinal > daysBeforeMonth date.year .november then .november
  else if date.ordinal > daysBeforeMonth date.year .october then .october
  else if date.ordinal > daysBeforeMonth date.year .september then .september
  else if date.ordinal > daysBeforeMonth date.year .august then .august
  else if date.ordinal > daysBeforeMonth date.year .july then .july
  else if date.ordinal > daysBeforeMonth date.year .june then .june
  else if date.ordinal > daysBeforeMonth date.year .may then .may
  else if date.ordinal > daysBeforeMonth date.year .april then .april
  else if date.ordinal > daysBeforeMonth date.year .march then .march
  else if date.ordinal > daysBeforeMonth date.year .february then .february
  else .january

-- `Date::next_day`: `none` past the last day of year 9999.
def nextDay (date : Date) : Option Date :=
  if h : date.ordinal < daysInYear date.year then
    some ⟨date.year, date.ordinal + 1, date.year_range, by omega⟩
  else if h' : date.year < 9999 then
    some ⟨date.year + 1, 1, by have := date.year_range; omega, by
      have := one_le_daysInYear (date.year + 1)
      omega⟩
  else none

-- `date + Duration::days(days)`, `none` where the `time` crate panics on leaving its range.
def addDays (date : Date) : Nat → Option Date
  | 0 => some date
  | days + 1 => date.nextDay.bind fun next => next.addDays days

theorem fromCalendarDate_first (year : Int) (month : Month) (date : Date) :
    fromCalendarDate year month 1 = some date ↔
      (-9999 ≤ year ∧ year ≤ 9999) ∧ date.year = year ∧
        date.ordinal = daysBeforeMonth year month + 1 := by
  unfold fromCalendarDate
  split
  · constructor
    · rintro ⟨⟩
      exact ⟨‹_ ∧ _›.1, rfl, rfl⟩
    · rintro ⟨-, rfl, ordinal⟩
      exact congrArg some (Date.ext rfl ordinal.symm)
  · simp only [reduceCtorEq, false_iff]
    rintro ⟨range, -⟩
    have := one_le_daysInYearMonth year month
    simp_all

theorem fromCalendarDate_first_eq_none (year : Int) (month : Month) :
    fromCalendarDate year month 1 = none ↔ ¬ (-9999 ≤ year ∧ year ≤ 9999) := by
  have := one_le_daysInYearMonth year month
  unfold fromCalendarDate
  split <;> simp_all

theorem month_of_first (date : Date) (month : Month)
    (first : date.ordinal = daysBeforeMonth date.year month + 1) : date.month = month := by
  unfold Date.month
  rw [first]
  cases month <;> cases leap : isLeapYear date.year <;> simp [daysBeforeMonth, leap]

theorem addDays_add (date : Date) (first second : Nat) :
    date.addDays (first + second) =
      (date.addDays first).bind fun later => later.addDays second := by
  induction first generalizing date with
  | zero => simp [addDays]
  | succ first ih =>
    rw [Nat.add_right_comm, addDays, addDays, Option.bind_assoc]
    simp only [ih]

theorem addDays_within_year (date : Date) (days : Nat)
    (within : date.ordinal + days ≤ daysInYear date.year) :
    date.addDays days = some ⟨date.year, date.ordinal + days, date.year_range, by
      have := date.ordinal_range
      omega⟩ := by
  induction days generalizing date with
  | zero => rfl
  | succ days ih =>
    have inside : date.ordinal < daysInYear date.year := by omega
    simp only [addDays, nextDay, inside, dite_true, Option.some_bind]
    rw [ih _ (by simpa [Nat.add_right_comm] using within)]
    exact congrArg some (Date.ext rfl (by simp only; omega))

theorem addDays_past_year (date : Date) (days : Nat)
    (reaches : date.ordinal + days = daysInYear date.year + 1) :
    date.addDays days = fromCalendarDate (date.year + 1) .january 1 := by
  obtain ⟨first, last⟩ := date.ordinal_range
  have split : days = (daysInYear date.year - date.ordinal) + 1 := by omega
  rw [split, addDays_add, addDays_within_year _ _ (by omega)]
  have range := date.year_range
  by_cases later : date.year < 9999
  · have stays : fromCalendarDate (date.year + 1) .january 1 =
        some ⟨date.year + 1, 1, by omega, ⟨Nat.le_refl 1, one_le_daysInYear _⟩⟩ :=
      (fromCalendarDate_first _ _ _).mpr ⟨by omega, rfl, rfl⟩
    simp [stays, addDays, nextDay, later, Nat.add_sub_cancel' last]
  · have leaves := (fromCalendarDate_first_eq_none (date.year + 1) .january).mpr (by omega)
    simp [leaves, addDays, nextDay, later, Nat.add_sub_cancel' last]

end Date

end Chronicle.Time
