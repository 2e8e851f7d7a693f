import Chronicle.Analytics.Core
import Chronicle.Time.Date

set_option autoImplicit false

namespace Chronicle

open Time

inductive AnalyticsInterval where
  | day
  | week
  | month
  | year
deriving DecidableEq, Repr

namespace AnalyticsInterval

-- `to_duration`, in whole days.
def toDuration : AnalyticsInterval → Date → Nat
  | .day, _ => 1
  | .week, _ => 7
  | .month, startDate => daysInYearMonth startDate.year startDate.month
  | .year, startDate => daysInYear startDate.year

-- `end_date`, exclusive; `none` where `start_date + duration` leaves the supported range.
def endDate (interval : AnalyticsInterval) (startDate : Date) : Option Date :=
  startDate.addDays (interval.toDuration startDate)

-- `impl Display for AnalyticsInterval`
def toString : AnalyticsInterval → String
  | .day => "daily"
  | .week => "weekly"
  | .month => "monthly"
  | .year => "yearly"

end AnalyticsInterval

namespace Time.Month

def index : Month → Nat
  | .january => 0
  | .february => 1
  | .march => 2
  | .april => 3
  | .may => 4
  | .june => 5
  | .july => 6
  | .august => 7
  | .september => 8
  | .october => 9
  | .november => 10
  | .december => 11

def ofIndex : Nat → Month
  | 0 => .january
  | index + 1 => (ofIndex index).next

theorem index_lt (month : Month) : month.index < 12 := by
  cases month <;> decide

theorem ofIndex_index (month : Month) : ofIndex month.index = month := by
  cases month <;> rfl

theorem index_ofIndex (index : Nat) : (ofIndex index).index = index % 12 := by
  induction index with
  | zero => rfl
  | succ index ih =>
    have next : ∀ month : Month, month.next.index = (month.index + 1) % 12 := by
      intro month
      cases month <;> rfl
    rw [ofIndex, next, ih, Nat.add_mod, Nat.mod_mod]
    simp

theorem ofIndex_eq_december (index : Nat) : ofIndex index = .december ↔ index % 12 = 11 := by
  rw [← index_ofIndex]
  constructor
  · rintro equal
    rw [equal]
    rfl
  · intro eleven
    rw [← ofIndex_index (ofIndex index), eleven]
    rfl

end Time.Month

def monthsAfter (year : Int) (month : Month) (count : Nat) : Int × Month :=
  (year + ((month.index + count) / 12 : Nat), Month.ofIndex (month.index + count))

theorem monthsAfter_succ (year : Int) (month : Month) (count : Nat) :
    monthsAfter year month (count + 1) =
      (if (monthsAfter year month count).2 = .december then (monthsAfter year month count).1 + 1
        else (monthsAfter year month count).1, (monthsAfter year month count).2.next) := by
  simp only [monthsAfter, Month.ofIndex_eq_december, ← Nat.add_assoc, Month.ofIndex]
  congr 1
  split <;> omega

theorem month_endDate_of_first (year : Int) (month : Month) (start : Date)
    (first : Date.fromCalendarDate year month 1 = some start) :
    AnalyticsInterval.month.endDate start =
      Date.fromCalendarDate (if month = .december then year + 1 else year) month.next 1 := by
  obtain ⟨range, rfl, ordinal⟩ := (Date.fromCalendarDate_first _ _ _).mp first
  simp only [AnalyticsInterval.endDate, AnalyticsInterval.toDuration,
    Date.month_of_first start month ordinal]
  by_cases last : month = .december
  · subst last
    have := daysBeforeMonth_december start.year
    rw [if_pos rfl, Date.addDays_past_year _ _ (by omega)]
    rfl
  · have next := daysBeforeMonth_next start.year month last
    have := daysBeforeMonth_add_le start.year month.next
    have := one_le_daysInYearMonth start.year month.next
    have reaches : start.ordinal + daysInYearMonth start.year month =
        daysBeforeMonth start.year month.next + 1 := by omega
    rw [if_neg last, Date.addDays_within_year _ _ (by omega)]
    rw [eq_comm, Date.fromCalendarDate_first]
    exact ⟨range, rfl, reaches⟩

theorem year_endDate_of_first (year : Int) (start : Date)
    (first : Date.fromCalendarDate year .january 1 = some start) :
    AnalyticsInterval.year.endDate start = Date.fromCalendarDate (year + 1) .january 1 := by
  obtain ⟨-, rfl, ordinal⟩ := (Date.fromCalendarDate_first _ _ _).mp first
  exact Date.addDays_past_year _ _
    (by simp [AnalyticsInterval.toDuration, ordinal, daysBeforeMonth]; omega)

theorem iterate_month_endDate (year : Int) (month : Month) (start : Date)
    (first : Date.fromCalendarDate year month 1 = some start) (count : Nat) :
    (fun date => date.bind AnalyticsInterval.month.endDate)^[count] (some start) =
      Date.fromCalendarDate (monthsAfter year month count).1
        (monthsAfter year month count).2 1 := by
  induction count with
  | zero =>
    simp [monthsAfter, Nat.div_eq_of_lt (Month.index_lt month), Month.ofIndex_index, first]
  | succ count ih =>
    rw [Function.iterate_succ_apply', ih, monthsAfter_succ]
    cases reached : Date.fromCalendarDate (monthsAfter year month count).1
        (monthsAfter year month count).2 1 with
    | some date => exact month_endDate_of_first _ _ _ reached
    | none =>
      have beyond := (Date.fromCalendarDate_first_eq_none _ _).mp reached
      have := ((Date.fromCalendarDate_first _ _ _).mp first).1
      have : year ≤ (monthsAfter year month count).1 := by simp only [monthsAfter]; omega
      refine ((Date.fromCalendarDate_first_eq_none _ _).mpr ?_).symm
      split <;> omega

theorem iterate_year_endDate (year : Int) (start : Date)
    (first : Date.fromCalendarDate year .january 1 = some start) (count : Nat) :
    (fun date => date.bind AnalyticsInterval.year.endDate)^[count] (some start) =
      Date.fromCalendarDate (year + count) .january 1 := by
  induction count with
  | zero => simpa using first.symm
  | succ count ih =>
    rw [Function.iterate_succ_apply', ih]
    cases reached : Date.fromCalendarDate (year + count) .january 1 with
    | some date => simpa [Int.add_assoc] using year_endDate_of_first _ _ reached
    | none =>
      have beyond := (Date.fromCalendarDate_first_eq_none _ _).mp reached
      have := ((Date.fromCalendarDate_first _ _ _).mp first).1
      exact ((Date.fromCalendarDate_first_eq_none _ _).mpr (by omega)).symm

theorem interval_end_dates_tile_calendar (year : Int) (month : Month) (start : Date)
    (first : Date.fromCalendarDate year month 1 = some start) (count : Nat) :
    AnalyticsInterval.month.endDate start =
        Date.fromCalendarDate (if month = .december then year + 1 else year) month.next 1 ∧
      (fun date => date.bind AnalyticsInterval.month.endDate)^[count] (some start) =
        Date.fromCalendarDate (monthsAfter year month count).1 (monthsAfter year month count).2 1 ∧
      (month = .january →
        AnalyticsInterval.year.endDate start = Date.fromCalendarDate (year + 1) .january 1 ∧
          (fun date => date.bind AnalyticsInterval.year.endDate)^[count] (some start) =
            Date.fromCalendarDate (year + count) .january 1) ∧
      ∀ date : Date, AnalyticsInterval.day.endDate date = date.addDays 1 ∧
        AnalyticsInterval.week.endDate date = date.addDays 7 := by
  refine ⟨month_endDate_of_first _ _ _ first, iterate_month_endDate _ _ _ first count,
    fun january => ?_, fun _ => ⟨rfl, rfl⟩⟩
  subst january
  exact ⟨year_endDate_of_first _ _ first, iterate_year_endDate _ _ first count⟩

theorem leap_february_end_dates :
    Date.fromCalendarDate 2024 .february 1 = some ⟨2024, 32, by decide, by decide⟩ ∧
      AnalyticsInterval.month.endDate ⟨2024, 32, by decide, by decide⟩ =
          Date.fromCalendarDate (if Month.february = .december then 2024 + 1 else 2024)
            Month.february.next 1 ∧
        (fun date => date.bind AnalyticsInterval.month.endDate)^[11]
            (some ⟨2024, 32, by decide, by decide⟩) =
          Date.fromCalendarDate (monthsAfter 2024 .february 11).1
            (monthsAfter 2024 .february 11).2 1 ∧
        (Month.february = .january →
          AnalyticsInterval.year.endDate ⟨2024, 32, by decide, by decide⟩ =
              Date.fromCalendarDate (2024 + 1) .january 1 ∧
            (fun date => date.bind AnalyticsInterval.year.endDate)^[11]
                (some ⟨2024, 32, by decide, by decide⟩) =
              Date.fromCalendarDate (2024 + (11 : Nat)) .january 1) ∧
        ∀ date : Date, AnalyticsInterval.day.endDate date = date.addDays 1 ∧
          AnalyticsInterval.week.endDate date = date.addDays 7 :=
  ⟨rfl, interval_end_dates_tile_calendar 2024 .february _ rfl 11⟩

structure PerInterval (M : Type) where
  startDate : Date
  interval : AnalyticsInterval
  inner : M

-- `IntervalAnalytic(Box<dyn DynIntervalAnalytics>)`
structure IntervalAnalytic (M : Type) : Type 1 where
  {State : Type}
  handleDateRange : Date → AnalyticsInterval → State → Except Report M × State
  state : State

namespace IntervalAnalytic

variable {M : Type}

-- `impl DynIntervalAnalytics for T`
def dynHandleDateRange (analytic : IntervalAnalytic M) (startDate : Date)
    (interval : AnalyticsInterval) : Except Report (PerInterval M) × IntervalAnalytic M :=
  ((analytic.handleDateRange startDate interval analytic.state).1.map
      fun inner => { startDate, interval, inner },
    { analytic with state := (analytic.handleDateRange startDate interval analytic.state).2 })

end IntervalAnalytic

-- `MongoDb::update_interval_analytics`
def updateIntervalAnalytics {M : Type} (start : Date) (interval : AnalyticsInterval) :
    List (IntervalAnalytic M) → InfluxDb (PerInterval M) →
      Except Report Unit × List (IntervalAnalytic M) × InfluxDb (PerInterval M)
  | [], influxdb => (.ok (), [], influxdb)
  | analytic :: rest, influxdb =>
    match analytic.dynHandleDateRange start interval with
    | (.error error, analytic) => (.error error, analytic :: rest, influxdb)
    | (.ok measurement, analytic) =>
      match influxdb.insertMeasurement measurement with
      | .error message => (.error (.influxDb message), analytic :: rest, influxdb)
      | .ok influxdb =>
        ((updateIntervalAnalytics start interval rest influxdb).1,
          analytic :: (updateIntervalAnalytics start interval rest influxdb).2.1,
          (updateIntervalAnalytics start interval rest influxdb).2.2)

section Update

variable {M : Type} (start : Date) (interval : AnalyticsInterval)

def measured (analytic : IntervalAnalytic M) : Except Report M :=
  (analytic.handleDateRange start interval analytic.state).1

def handled (analytic : IntervalAnalytic M) : IntervalAnalytic M :=
  { analytic with state := (analytic.handleDateRange start interval analytic.state).2 }

def stamped (analytics : List (IntervalAnalytic M)) : List (PerInterval M) :=
  analytics.filterMap fun analytic =>
    (measured start interval analytic).toOption.map fun inner =>
      { startDate := start, interval, inner }

theorem update_interval_analytics_stops_at_first_failure (analytics : List (IntervalAnalytic M))
    (influxdb : InfluxDb (PerInterval M)) :
    ((∀ analytic ∈ analytics, ∃ inner, measured start interval analytic = .ok inner ∧
        influxdb.refuses { startDate := start, interval, inner } = none) ∧
      updateIntervalAnalytics start interval analytics influxdb =
        (.ok (), analytics.map (handled start interval),
          { influxdb with points := influxdb.points ++ stamped start interval analytics })) ∨
    ∃ before failing after error, analytics = before ++ failing :: after ∧
      (∀ analytic ∈ before, ∃ inner, measured start interval analytic = .ok inner ∧
        influxdb.refuses { startDate := start, interval, inner } = none) ∧
      (measured start interval failing = .error error ∨
        ∃ inner message, measured start interval failing = .ok inner ∧
          influxdb.refuses { startDate := start, interval, inner } = some message ∧
          error = .influxDb message) ∧
      updateIntervalAnalytics start interval analytics influxdb =
        (.error error,
          before.map (handled start interval) ++ handled start interval failing :: after,
          { influxdb with points := influxdb.points ++ stamped start interval before }) := by
  induction analytics generalizing influxdb with
  | nil => exact .inl ⟨by simp, by simp [updateIntervalAnalytics, stamped]⟩
  | cons analytic rest ih =>
    have step : analytic.dynHandleDateRange start interval =
        ((measured start interval analytic).map fun inner =>
            { startDate := start, interval, inner },
          handled start interval analytic) := rfl
    cases result : measured start interval analytic with
    | error error =>
      refine .inr ⟨[], analytic, rest, error, rfl, by simp, .inl result, ?_⟩
      simp [updateIntervalAnalytics, step, result, stamped, Except.map]
    | ok inner =>
      cases refused : influxdb.refuses { startDate := start, interval, inner } with
      | some message =>
        refine .inr ⟨[], analytic, rest, .influxDb message, rfl, by simp,
          .inr ⟨inner, message, result, refused, rfl⟩, ?_⟩
        simp [updateIntervalAnalytics, step, result, stamped, Except.map, refused]
      | none =>
        rcases ih
            { influxdb with points := influxdb.points ++ [{ startDate := start, interval, inner }] }
          with ⟨allOk, updated⟩ | ⟨before, failing, after, error, split, beforeOk, failed, updated⟩
        · refine .inl ⟨?_, ?_⟩
          · simpa [result, refused] using allOk
          · simp [updateIntervalAnalytics, step, updated, stamped, result, Except.map, refused,
              Except.toOption]
        · refine .inr ⟨analytic :: before, failing, after, error, by simp [split], ?_,
            by simpa using failed, ?_⟩
          · simpa [result, refused] using beforeOk
          · simp [updateIntervalAnalytics, step, updated, stamped, result, Except.map, refused,
              Except.toOption]

end Update

end Chronicle
