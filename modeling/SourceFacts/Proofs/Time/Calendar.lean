import SourceFacts.Time.Instant

namespace SourceFacts.Time

/-!
# Days, dates and nanoseconds

Moments are told by the date of their day and by what has passed of it, or by a number of
nanoseconds.
-/

/-!
## Days and dates

The date of a day is valid, and its day is that day again. Years begin in March
here, as they do in the count of days, and 400 of them make an era.
-/

/-! ### Years of an era -/

/-- The first day of a year, counted from the first day of its era. -/
def yearStart (year : Int) : Int := 365 * year + year / 4 - year / 100

/-- The year in which a day of an era is. -/
def yearOfDay (day : Int) : Int := (day - day / 1460 + day / 36524 - day / 146096) / 365

/-- Later days are in no earlier years. -/
theorem yearOfDay_mono
    {earlier later : Int}
    (ordered : earlier ≤ later)
    (begins : 0 ≤ earlier)
    (ends : later < 146097) :
    yearOfDay earlier ≤ yearOfDay later := by
  have leapDays : earlier - earlier / 1460 ≤ later - later / 1460 := by
    omega
  have centuries : earlier / 36524 ≤ later / 36524 := by
    omega
  have lastDay :
      earlier - earlier / 1460 + earlier / 36524 - earlier / 146096 ≤
        later - later / 1460 + later / 36524 - later / 146096 := by
    by_cases isLast : later = 146096
    · subst later
      omega
    · have notLast : later / 146096 = 0 := by
        omega
      omega
  exact Int.ediv_le_ediv (by decide) lastDay

/-- The first day of a year is in that year, and the day before it is not. -/
theorem yearOfDay_yearStart :
    ∀ year : Fin 400,
      yearOfDay (yearStart year.val) = year.val ∧
        (0 < year.val → yearOfDay (yearStart year.val - 1) < year.val) := by
  decide +kernel

/-- A day of an era is one of the days of its year. -/
theorem yearOfDay_spec
    {day : Int}
    (begins : 0 ≤ day)
    (ends : day < 146097) :
    0 ≤ yearOfDay day ∧ yearOfDay day < 400 ∧ yearStart (yearOfDay day) ≤ day ∧
      (day < yearStart (yearOfDay day + 1) ∨ yearOfDay day = 399) := by
  have first : 0 ≤ yearOfDay day :=
    yearOfDay_mono begins (by decide) ends
  have last : yearOfDay day ≤ yearOfDay 146096 :=
    yearOfDay_mono (by omega) begins (by decide)
  have lastYear : yearOfDay 146096 = 399 := by
    decide
  obtain ⟨year, isYear⟩ := Int.eq_ofNat_of_zero_le first
  rw [isYear, lastYear] at last
  rw [isYear]
  refine ⟨by omega, by omega, ?_, ?_⟩
  · by_cases early : day < yearStart year
    · have positive : 0 < year := by
        rcases Nat.eq_zero_or_pos year with rfl | positive
        · simp only [yearStart] at early
          omega
        · exact positive
      have before := (yearOfDay_yearStart ⟨year, by omega⟩).2 positive
      have within : yearStart year - 1 < 146097 := by
        simp only [yearStart]
        omega
      have atMost : yearOfDay day ≤ yearOfDay (yearStart year - 1) :=
        yearOfDay_mono (by omega) begins within
      dsimp only at before
      omega
    · omega
  · by_cases early : day < yearStart (year + 1)
    · exact Or.inl early
    · by_cases isLast : year = 399
      · exact Or.inr (by omega)
      · have next := (yearOfDay_yearStart ⟨year + 1, by omega⟩).1
        have positive : 0 ≤ yearStart (year + 1) := by
          simp only [yearStart]
          omega
        have atLeast := yearOfDay_mono (Int.not_lt.mp early) positive ends
        simp only [Int.natCast_add, Int.cast_ofNat_Int] at next
        omega

/-- A year has 366 days if the year in which it ends is a leap year, and else 365. -/
theorem yearStart_succ (year : Int) :
    yearStart (year + 1) - yearStart year ≤ 366 ∧
      (yearStart (year + 1) - yearStart year = 366 → isLeapYear (year + 1) = true) := by
  simp only [yearStart, isLeapYear]
  constructor
  · omega
  · intro long
    simp
    omega

/-! ### Dates of a year -/

/-- The date of a day of a year. -/
def dateInYear (year dayOfYear : Int) : Date :=
  let month := (5 * dayOfYear + 2) / 153
  let day := dayOfYear - (153 * month + 2) / 5 + 1
  if month < 10 then { year, month := (month + 3).toNat, day := day.toNat }
  else { year := year + 1, month := (month - 9).toNat, day := day.toNat }

/-- The year of a day ends in leap years of the calendar only if it has 366 days. -/
theorem isLeapYear_add_era (year era : Int) :
    isLeapYear (year + era * 400) = isLeapYear year := by
  simp only [isLeapYear]
  rw [Bool.eq_iff_iff]
  simp
  omega

/-- Every day is in a year of an era. -/
theorem ofDays_eq (days : Int) :
    ∃ era year dayOfYear : Int,
      days + 719468 = era * 146097 + yearStart year + dayOfYear ∧
        (0 ≤ year ∧ year < 400) ∧ (0 ≤ dayOfYear ∧ dayOfYear ≤ 365) ∧
        (dayOfYear = 365 → isLeapYear (year + era * 400 + 1) = true) ∧
        Date.ofDays days = dateInYear (year + era * 400) dayOfYear := by
  obtain ⟨era, isEra⟩ : ∃ era, (days + 719468) / 146097 = era := ⟨_, rfl⟩
  obtain ⟨day, isDay⟩ : ∃ day, days + 719468 - era * 146097 = day := ⟨_, rfl⟩
  have isDate :
      Date.ofDays days =
        dateInYear (yearOfDay day + era * 400) (day - yearStart (yearOfDay day)) := by
    subst isDay isEra
    rfl
  have dayBegins : 0 ≤ day := by
    omega
  have dayEnds : day < 146097 := by
    omega
  obtain ⟨first, last, started, ended⟩ := yearOfDay_spec dayBegins dayEnds
  obtain ⟨length, leap⟩ := yearStart_succ (yearOfDay day)
  have fourHundredth : yearOfDay day = 399 → day ≤ yearStart 399 + 365 := by
    intro _
    simp only [yearStart]
    omega
  refine ⟨era, yearOfDay day, day - yearStart (yearOfDay day), by omega, ⟨first, last⟩,
    ⟨by omega, ?_⟩, ?_, isDate⟩
  · rcases ended with ended | isLast
    · omega
    · rw [isLast]
      have := fourHundredth isLast
      omega
  · intro leapDay
    rw [Int.add_right_comm, isLeapYear_add_era]
    rcases ended with ended | isLast
    · exact leap (by omega)
    · rw [isLast]
      rfl

/-- The days up to the date of a day of a year. -/
theorem toDays_dateInYear
    {year dayOfYear : Int}
    (era : Int)
    (inEra : 0 ≤ year ∧ year < 400)
    (inYear : 0 ≤ dayOfYear ∧ dayOfYear ≤ 365) :
    (dateInYear (year + era * 400) dayOfYear).toDays =
      era * 146097 + yearStart year + dayOfYear - 719468 := by
  obtain ⟨month, isMonth⟩ : ∃ month, (5 * dayOfYear + 2) / 153 = month := ⟨_, rfl⟩
  simp only [dateInYear, isMonth, yearStart]
  split
  · have late : ¬ (month + 3).toNat ≤ 2 := by
      omega
    simp only [Date.toDays, late, ↓reduceIte]
    omega
  · have early : (month - 9).toNat ≤ 2 := by
      omega
    simp only [Date.toDays, early, ↓reduceIte]
    omega

/-- There is such a day as the date of a day of a year says. -/
theorem isValid_dateInYear
    {year dayOfYear : Int}
    (inYear : 0 ≤ dayOfYear ∧ dayOfYear ≤ 365)
    (leapDay : dayOfYear = 365 → isLeapYear (year + 1) = true) :
    (dateInYear year dayOfYear).isValid = true := by
  obtain ⟨month, isMonth⟩ : ∃ month, (5 * dayOfYear + 2) / 153 = month := ⟨_, rfl⟩
  have everyMonth :
      month = 0 ∨ month = 1 ∨ month = 2 ∨ month = 3 ∨ month = 4 ∨ month = 5 ∨ month = 6 ∨
        month = 7 ∨ month = 8 ∨ month = 9 ∨ month = 10 ∨ month = 11 := by
    omega
  simp only [dateInYear, isMonth]
  cases isLeap : isLeapYear (year + 1) with
  | true =>
      rcases everyMonth with
        rfl | rfl | rfl | rfl | rfl | rfl | rfl | rfl | rfl | rfl | rfl | rfl
      all_goals
        simp [Date.isValid, daysInMonth, isLeap]
        omega
  | false =>
      have noLeapDay : dayOfYear ≠ 365 := by
        intro isLast
        rw [leapDay isLast] at isLeap
        exact absurd isLeap (by decide)
      rcases everyMonth with
        rfl | rfl | rfl | rfl | rfl | rfl | rfl | rfl | rfl | rfl | rfl | rfl
      all_goals
        simp [Date.isValid, daysInMonth, isLeap]
        omega

/-! ### Dates -/

/-- The days up to the date of a day are that day. -/
theorem Date.toDays_ofDays (days : Int) : (Date.ofDays days).toDays = days := by
  obtain ⟨era, year, dayOfYear, count, inEra, inYear, leapDay, isDate⟩ := ofDays_eq days
  rw [isDate, toDays_dateInYear era inEra inYear]
  omega

/-- There is such a day as the date of a day says. -/
theorem Date.isValid_ofDays (days : Int) : (Date.ofDays days).isValid = true := by
  obtain ⟨era, year, dayOfYear, count, inEra, inYear, leapDay, isDate⟩ := ofDays_eq days
  rw [isDate]
  exact isValid_dateInYear inYear leapDay

/-! ### Bounds of the calendar -/

/-- The days before a year, counted from the year zero. -/
def daysBefore (year : Int) : Int := 365 * year + year / 4 - year / 100 + year / 400

/-- There are more days before later years. -/
theorem daysBefore_mono
    {earlier later : Int}
    (ordered : earlier ≤ later) :
    daysBefore earlier ≤ daysBefore later := by
  have leapYears : earlier / 4 ≤ later / 4 := by
    omega
  have centuries : later / 100 - earlier / 100 ≤ later - earlier := by
    omega
  have eras : earlier / 400 ≤ later / 400 := by
    omega
  simp only [daysBefore]
  omega

/-- The days before a year are those of the eras before it and of its own era. -/
theorem daysBefore_eq (year : Int) :
    daysBefore year = year / 400 * 146097 + yearStart (year - year / 400 * 400) := by
  simp only [daysBefore, yearStart]
  omega

/-- A date is between the beginnings of its year and of the next one. -/
theorem Date.toDays_bounds
    {date : Date}
    (valid : date.isValid = true) :
    daysBefore (date.year - 1) + 306 ≤ date.toDays + 719468 ∧
      date.toDays + 719468 < daysBefore date.year + 306 := by
  obtain ⟨year, month, day⟩ := date
  simp only [Date.isValid, Bool.and_eq_true, decide_eq_true_eq] at valid
  obtain ⟨⟨⟨firstMonth, lastMonth⟩, firstDay⟩, lastDay⟩ := valid
  have atMost : day ≤ 31 := by
    refine Nat.le_trans lastDay ?_
    simp only [daysInMonth]
    split <;> split <;> omega
  have before : daysBefore (year - 1) ≤ daysBefore year :=
    daysBefore_mono (by omega)
  have ended := daysBefore_eq (year - 1)
  have begun := daysBefore_eq year
  simp only [yearStart] at ended begun
  by_cases early : month ≤ 2
  · have notLate : ¬ month > 2 := by
      omega
    have longer : daysBefore (year - 1) + 365 ≤ daysBefore year := by
      simp only [daysBefore]
      omega
    simp only [Date.toDays, early, notLate, ↓reduceIte]
    by_cases january : month = 1
    · subst january
      omega
    · obtain rfl : month = 2 := by
        omega
      have february : day ≤ 29 := by
        refine Nat.le_trans lastDay ?_
        simp only [daysInMonth, ↓reduceIte]
        split <;> omega
      omega
  · have late : month > 2 := by
      omega
    have shorter : daysBefore year ≥ daysBefore (year - 1) + 306 := by
      simp only [daysBefore]
      omega
    simp only [Date.toDays, early, late, ↓reduceIte]
    omega

/-- A date between the first and the last day of the calendar is in a year of the
calendar. -/
theorem Date.year_bounds
    {date : Date}
    (valid : date.isValid = true)
    (begins : Date.toDays { year := firstYear, month := 1, day := 1 } ≤ date.toDays)
    (ends : date.toDays < Date.toDays { year := lastYear + 1, month := 1, day := 1 }) :
    firstYear ≤ date.year ∧ date.year ≤ lastYear := by
  obtain ⟨atLeast, atMost⟩ := Date.toDays_bounds valid
  have firstDay : Date.toDays { year := firstYear, month := 1, day := 1 } =
      daysBefore (firstYear - 1) + 306 - 719468 := by
    decide
  have dayAfter : Date.toDays { year := lastYear + 1, month := 1, day := 1 } =
      daysBefore lastYear + 306 - 719468 := by
    decide
  rw [firstDay] at begins
  rw [dayAfter] at ends
  constructor
  · by_cases early : date.year ≤ firstYear - 1
    · have before := daysBefore_mono early
      omega
    · omega
  · by_cases late : lastYear ≤ date.year - 1
    · have before := daysBefore_mono late
      omega
    · omega

end SourceFacts.Time

namespace SourceFacts.Time.Instant

/-!
## Moments as numbers of nanoseconds

Outside of leap seconds the moments of the calendar are the nanoseconds between its first and
its last one, in their order. A number of seconds is added to a moment by adding their
nanoseconds, as long as the calendar goes on.
-/

/-- The nanoseconds of a second. -/
def nanosecondsPerSecond : Nat := 1000000000

/-- A moment of the calendar that is not in a leap second. -/
structure IsPlain (moment : Instant) : Prop where
  inCalendar : moment.inCalendar = true
  noLeapSecond : moment.nanoseconds < nanosecondsPerSecond

instance (moment : Instant) : Decidable moment.IsPlain :=
  decidable_of_iff
    (moment.inCalendar = true ∧ moment.nanoseconds < nanosecondsPerSecond)
    ⟨fun ⟨inCalendar, noLeapSecond⟩ => ⟨inCalendar, noLeapSecond⟩,
      fun plain => ⟨plain.inCalendar, plain.noLeapSecond⟩⟩

variable {moment other : Instant}

/-- A moment is in the calendar if its second is. -/
theorem inCalendar_iff :
    moment.inCalendar = true ↔ firstSecond ≤ moment.seconds ∧ moment.seconds ≤ lastSecond := by
  rw [inCalendar, Bool.and_eq_true, decide_eq_true_iff, decide_eq_true_iff]

/-! ### Order -/

/-- Outside of leap seconds one moment is before another if it has fewer nanoseconds. -/
theorem before_iff_lt
    (short : moment.nanoseconds < nanosecondsPerSecond)
    (otherShort : other.nanoseconds < nanosecondsPerSecond) :
    moment.before other = true ↔ moment.toNanoseconds < other.toNanoseconds := by
  rw [nanosecondsPerSecond] at short otherShort
  simp only [before, toNanoseconds, Bool.or_eq_true, Bool.and_eq_true, decide_eq_true_eq]
  omega

/-- One moment is before another if it has fewer nanoseconds. -/
theorem before_iff
    (plain : moment.IsPlain)
    (otherPlain : other.IsPlain) :
    moment.before other = true ↔ moment.toNanoseconds < other.toNanoseconds :=
  before_iff_lt plain.noLeapSecond otherPlain.noLeapSecond

/-- Outside of leap seconds moments are the same if they have as many nanoseconds. -/
theorem eq_iff_toNanoseconds_eq
    (short : moment.nanoseconds < nanosecondsPerSecond)
    (otherShort : other.nanoseconds < nanosecondsPerSecond) :
    moment = other ↔ moment.toNanoseconds = other.toNanoseconds := by
  refine ⟨congrArg toNanoseconds, fun same => ?_⟩
  rw [nanosecondsPerSecond] at short otherShort
  rw [toNanoseconds, toNanoseconds] at same
  have sameSeconds : moment.seconds = other.seconds := by omega
  have sameNanoseconds : moment.nanoseconds = other.nanoseconds := by omega
  cases moment
  cases other
  cases sameSeconds
  cases sameNanoseconds
  rfl

/-- Moments with as many nanoseconds are the same. -/
theorem eq_of_toNanoseconds_eq
    (plain : moment.IsPlain)
    (otherPlain : other.IsPlain)
    (same : moment.toNanoseconds = other.toNanoseconds) :
    moment = other :=
  (eq_iff_toNanoseconds_eq plain.noLeapSecond otherPlain.noLeapSecond).mpr same

/-- The moment of a number of nanoseconds has that number of them. -/
@[simp]
theorem toNanoseconds_ofNanoseconds (count : Int) :
    (ofNanoseconds count).toNanoseconds = count := by
  simp only [ofNanoseconds, toNanoseconds]
  omega

/-- The moment of a number of nanoseconds is in no leap second. -/
theorem nanoseconds_ofNanoseconds_lt (count : Int) :
    (ofNanoseconds count).nanoseconds < nanosecondsPerSecond := by
  simp only [ofNanoseconds, nanosecondsPerSecond]
  omega

/-- The last moment is one of the calendar. -/
theorem isPlain_last : last.IsPlain := by decide

/-- No moment is after the last one. -/
theorem toNanoseconds_le_last (plain : moment.IsPlain) :
    moment.toNanoseconds ≤ last.toNanoseconds := by
  have inTime := (inCalendar_iff.mp plain.inCalendar).2
  have short := plain.noLeapSecond
  rw [nanosecondsPerSecond] at short
  simp only [toNanoseconds, last]
  omega

/-! ### Later moments -/

/-- Some seconds after a moment there is another one, unless that is after the last one. -/
theorem addSeconds?_cases
    (plain : moment.IsPlain)
    (count : Nat) :
    (∃ later, moment.addSeconds? count = some later ∧ later.IsPlain ∧
      later.toNanoseconds = moment.toNanoseconds + count * nanosecondsPerSecond) ∨
    (moment.addSeconds? count = none ∧
      last.toNanoseconds < moment.toNanoseconds + count * nanosecondsPerSecond) := by
  obtain ⟨begun, _⟩ := inCalendar_iff.mp plain.inCalendar
  have short := plain.noLeapSecond
  -- Outside of leap seconds the seconds are added alone, and no seconds change nothing.
  have shape :
      moment.addSeconds? count =
        let later : Instant := { moment with seconds := moment.seconds + count }
        if later.inCalendar then some later else none := by
    have noLeap : ¬ 1000000000 ≤ moment.nanoseconds := by
      rw [nanosecondsPerSecond] at short
      omega
    rw [addSeconds?, if_neg noLeap]
    split
    · rename_i isNow
      simp [isNow]
    · rfl
  rw [shape]
  dsimp only
  split
  · rename_i inTime
    refine Or.inl ⟨_, rfl, ⟨inTime, short⟩, ?_⟩
    simp only [toNanoseconds, nanosecondsPerSecond]
    omega
  · rename_i beyond
    refine Or.inr ⟨rfl, ?_⟩
    rw [inCalendar_iff] at beyond
    dsimp only at beyond
    simp only [toNanoseconds, last, nanosecondsPerSecond]
    omega

end SourceFacts.Time.Instant
