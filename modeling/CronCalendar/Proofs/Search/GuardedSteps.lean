import CronCalendar.Proofs.Search.DayCounting
import CronCalendar.Proofs.Search.LeaptDays

/-!
# The search with guards

The search subtracts natural numbers, and asks for dates and times of day that it has put together from
numbers. In a guarded search each subtraction that would go below zero stops it, each date that no year has,
each time that no day has, and each date or second outside the supported years. It does what the search does,
in one step (`Guarded.step_moves`) and in any number (`Guarded.iterate_agrees`), and can only stop for the last
of these reasons, where the search gives up: the values of every field are values of the calendar, and the
number of days of a month that is found by way of the next month is right up to the ends of the supported years
(`Guarded.lastDay_eq`).
-/

namespace CronCalendar
set_option autoImplicit false

namespace Date

/-- The day before the first of the next month is the last of the month. -/
theorem ofDayNumber_before_next {d next : Date} (valid : d.isValid = true) (valid' : next.isValid = true)
    (first : next.day = 1) (follows : next.monthNumber = d.monthNumber + 1) :
    ofDayNumber (next.dayNumber - 1) = ⟨d.year, d.month, daysInMonth d.year d.month⟩ := by
  obtain ⟨h1, h12, -⟩ := isValid_iff.1 valid
  have positive := (daysInMonth_bounds d.year d.month).1
  have valid_last : isValid ⟨d.year, d.month, daysInMonth d.year d.month⟩ = true :=
    isValid_iff.2 ⟨h1, h12, by simp only; omega, Nat.le_refl _⟩
  have length := monthLength_monthNumber valid
  have next_first := firstDay_succ d.monthNumber
  rw [← ofDayNumber_dayNumber valid_last, dayNumber_eq_firstDay valid_last, dayNumber_eq_firstDay valid',
    first, follows]
  congr 1
  simp only [monthNumber] at *
  omega

end Date

namespace Search

/-- What stops a guarded search. -/
inductive Stop where
  /-- A subtraction that goes below zero. -/
  | underflow (a b : Nat)
  /-- A date that no year has. -/
  | noDate (d : Date)
  /-- A time that no day has. -/
  | noTime (hour minute second : Nat)
  | unsupportedDate (d : Date)
  | unsupportedSecond (n : Int)
  deriving DecidableEq

/-- The search stops at an end of the supported years: what it asked for exists, but outside of them. -/
def Stop.LeavesRange : Stop → Prop
  | .unsupportedDate d => d.isValid = true ∧ d.isSupported = false
  | .unsupportedSecond n => n < firstSecond ∨ lastSecond < n
  | _ => False

namespace Guarded

/-- The difference of two numbers. -/
def minus (a b : Nat) : Except Stop Nat := if b ≤ a then pure (a - b) else throw (.underflow a b)

/-- A date, if its year is supported. -/
def supported (d : Date) : Except Stop Date := if d.isSupported then pure d else throw (.unsupportedDate d)

/-- The date with the given parts. -/
def date (year : Int) (month day : Nat) : Except Stop Date :=
  if Date.isValid ⟨year, month, day⟩ then supported ⟨year, month, day⟩ else throw (.noDate ⟨year, month, day⟩)

/-- The given time on a date. -/
def time (d : Date) (hour minute second : Nat) : Except Stop WallTime :=
  if hour < 24 ∧ minute < 60 ∧ second < 60 then
    pure (WallTime.ofDay d.dayNumber (3600 * hour + 60 * minute + second))
  else throw (.noTime hour minute second)

/-- The instant with the given seconds and nanoseconds. -/
def instant (seconds : Int) (nanos : Nat) : Except Stop Instant :=
  match Instant.of? seconds nanos with
  | some t => pure t
  | none => throw (.unsupportedSecond seconds)

/-- The instant a number of minutes later. -/
def later (t : Instant) (minutes : Nat) : Except Stop Instant :=
  instant (t.seconds + 60 * (minutes : Int)) t.nanos

/-- The instant of a wall time, as by `Zone.resolve?`. -/
def resolve (z : Zone) (w : WallTime) : Except Stop Instant :=
  match z.firstShowing? w with
  | some t => pure t
  | none => do
    let probe ← instant (w.count - secondsPerDay) 0
    instant (w.count - z.offsetAt probe.seconds) 0

/-- The instant at which a date starts. -/
def startOfDay (z : Zone) (d : Date) : Except Stop Instant := do
  let midnight ← time d 0 0 0
  resolve z midnight

/-- The first day of the next month. -/
def firstOfNext (year : Int) (month : Nat) : Except Stop Date :=
  if month = 12 then date (year + 1) 1 1 else date year (month + 1) 1

/-- The number of the last day of a month: that of the day before the first of the next month, and 31 where
one of the two is not supported. -/
def lastDay (year : Int) (month : Nat) : Except Stop Nat :=
  let last : Except Stop Date := do
    let next ← firstOfNext year month
    supported (Date.ofDayNumber (next.dayNumber - 1))
  match last with
  | .ok d => pure d.day
  | .error (.unsupportedDate _) => pure 31
  | .error stop => throw stop

/-- The days from a day to the next of the named days of the month. -/
def daysToNamedDay (t : Timetable) (d : Date) : Except Stop Nat :=
  let next := t.days.nextFrom d.day
  if d.day ≤ next then minus next d.day
  else do
    let last ← lastDay d.year d.month
    let rest ← minus last d.day
    pure (rest + next)

/-- The days from a weekday to the next of the named ones. -/
def daysToNamedWeekday (t : Timetable) (weekday : Nat) : Except Stop Nat :=
  let next := t.weekdays.nextFrom weekday
  if weekday ≤ next then minus next weekday
  else do
    let rest ← minus 7 weekday
    pure (rest + next)

/-- The days from a day to the next that may be named. -/
def dayOffset (t : Timetable) (d : Date) (weekday : Nat) : Except Stop Nat :=
  if t.anyWeekday then daysToNamedDay t d
  else if t.anyDay then daysToNamedWeekday t weekday
  else do
    let byDay ← daysToNamedDay t d
    let byWeekday ← daysToNamedWeekday t weekday
    pure (min byDay byWeekday)

/-- The last part of a step: everything down to the hour fits. -/
def minuteStep (t : Timetable) (z : Zone) (c : Candidate) : Except Stop Outcome := do
  let start ← instant (c.instant.seconds - (z.wallAt c.instant).second) 0
  let minute := (z.wallAt start).minute
  let next := t.minutes.nextFrom minute
  if next = minute ∧ c.untouched then
    let moved ← later start 1
    pure (.goOn ⟨moved, false⟩)
  else if next < minute then
    let rest ← minus 60 minute
    let moved ← later start rest
    pure (.goOn ⟨moved, false⟩)
  else
    let rest ← minus next minute
    let found ← later start rest
    pure (.runs found)

/-- The part of a step behind the day: the month and the day fit. -/
def hourStep (t : Timetable) (z : Zone) (c : Candidate) : Except Stop Outcome :=
  let wall := z.wallAt c.instant
  let next := t.hours.nextFrom wall.hour
  if next = wall.hour then minuteStep t z c
  else do
    let d ← supported (Date.ofDayNumber (if next < wall.hour then wall.dayNumber + 1 else wall.dayNumber))
    let w ← time d next 0 0
    let target ← resolve z w
    if staysInJumpedHour t z w target then minuteStep t z ⟨target, false⟩
    else pure (.goOn ⟨target, false⟩)

/-- The part of a step behind the month: the month fits. -/
def dayStep (t : Timetable) (z : Zone) (c : Candidate) : Except Stop Outcome := do
  let wall := z.wallAt c.instant
  let offset ← dayOffset t wall.date wall.weekday
  if offset = 0 then hourStep t z c
  else
    let d ← supported (Date.ofDayNumber (wall.dayNumber + (offset : Int)))
    let start ← startOfDay z d
    pure (.goOn ⟨start, false⟩)

/-- The part of a step behind the limit on the years. -/
def monthStep (t : Timetable) (z : Zone) (c : Candidate) : Except Stop Outcome :=
  let shown := (z.wallAt c.instant).date
  let next := t.months.nextFrom shown.month
  if next = shown.month then dayStep t z c
  else do
    let d ← date (if next < shown.month then shown.year + 1 else shown.year) next 1
    let start ← startOfDay z d
    pure (.goOn ⟨start, false⟩)

/-- One step of a search that started in the year `firstYear`. -/
def step (t : Timetable) (z : Zone) (firstYear : Int) (c : Candidate) : Except Stop Outcome :=
  if yearLimit < (z.wallAt c.instant).date.year - firstYear then pure .giveUp else monthStep t z c

/-- The outcome of at most `n` steps, as of `Search.iterate`. -/
def iterate (t : Timetable) (z : Zone) (firstYear : Int) : Nat → Candidate → Except Stop Outcome
  | 0, c => pure (.goOn c)
  | n + 1, c => do
    match ← step t z firstYear c with
    | .goOn c => iterate t z firstYear n c
    | outcome => pure outcome

end Guarded

/-! ## Agreement -/

/-- A guarded computation comes to a value of which the plain one makes its result, without a failure; or it
stops at an end of the supported years, and the plain one fails. -/
def Guards {α β : Type} (gives : α → β) (fails : β) (g : Except Stop α) (plain : β) : Prop :=
  (∃ a, g = .ok a ∧ plain = gives a ∧ plain ≠ fails) ∨
    ∃ stop, g = .error stop ∧ stop.LeavesRange ∧ plain = fails

/-- A guarded computation finds what the plain one finds; or it leaves the supported years, and the plain one
finds nothing. -/
abbrev Finds {α : Type} (g : Except Stop α) (found : Option α) : Prop := Guards some none g found

/-- A guarded step comes to what the plain one comes to, which does not give up; or it leaves the supported
years, and the plain one gives up. -/
abbrev Moves (g : Except Stop Outcome) (o : Outcome) : Prop := Guards id .giveUp g o

/-- A guarded search comes to what the plain one comes to; or it leaves the supported years, and the plain one
gives up. -/
def Agrees (g : Except Stop Outcome) (o : Outcome) : Prop :=
  g = .ok o ∨ ∃ stop, g = .error stop ∧ stop.LeavesRange ∧ o = .giveUp

variable {t : Timetable} {z : Zone} {firstYear : Int} {c : Candidate}

theorem Guards.bind {α β γ δ : Type} {gives : α → β} {fails plain : β} {g : Except Stop α}
    {gives' : γ → δ} {fails' plain' : δ} {f : α → Except Stop γ} (first : Guards gives fails g plain)
    (left : plain = fails → plain' = fails')
    (next : ∀ a, plain = gives a → Guards gives' fails' (f a) plain') :
    Guards gives' fails' (g >>= f) plain' := by
  rcases first with ⟨a, rfl, given, -⟩ | ⟨stop, rfl, leaves, failed⟩
  · exact next a given
  · exact Or.inr ⟨stop, rfl, leaves, left failed⟩

theorem finds_pure {α : Type} (a : α) : Finds (pure a) (some a) := Or.inl ⟨a, rfl, rfl, nofun⟩

theorem moves_goOn (c : Candidate) : Moves (pure (.goOn c)) (.goOn c) := Or.inl ⟨_, rfl, rfl, nofun⟩

theorem moves_runs (u : Instant) : Moves (pure (.runs u)) (.runs u) := Or.inl ⟨_, rfl, rfl, nofun⟩

theorem Finds.goOn {g : Except Stop Instant} {found : Option Instant} (finds : Finds g found) :
    Moves (do let u ← g; pure (.goOn ⟨u, false⟩)) (goOnAt found) := by
  refine finds.bind (fun left => ?_) fun u found => ?_
  · rw [left]
    rfl
  · rw [found]
    exact moves_goOn _

namespace Guarded

theorem minus_eq {a b : Nat} (le : b ≤ a) : minus a b = pure (a - b) := if_pos le

theorem date_eq {year : Int} {month day : Nat} (valid : Date.isValid ⟨year, month, day⟩ = true) :
    date year month day = supported ⟨year, month, day⟩ := if_pos valid

theorem time_eq {d : Date} {hour : Nat} (lt : hour < 24) :
    time d hour 0 0 = pure (WallTime.atHour d.dayNumber hour) :=
  if_pos ⟨lt, by decide, by decide⟩

theorem supported_finds {d : Date} (valid : d.isValid = true) :
    Finds (supported d) (if d.isSupported then some d else none) := by
  unfold supported
  cases support : d.isSupported with
  | true => exact finds_pure d
  | false => exact Or.inr ⟨_, rfl, ⟨valid, support⟩, rfl⟩

theorem instant_finds {seconds : Int} {nanos : Nat} (lt : nanos < nanosPerSecond) :
    Finds (instant seconds nanos) (Instant.of? seconds nanos) := by
  unfold instant
  cases found : Instant.of? seconds nanos with
  | some u => exact finds_pure u
  | none =>
    refine Or.inr ⟨_, rfl, ?_, rfl⟩
    simp only [Instant.of?, dite_eq_right_iff, reduceCtorEq, imp_false] at found
    simp only [Stop.LeavesRange]
    omega

theorem later_finds (u : Instant) (minutes : Nat) : Finds (later u minutes) (addMinutes? u minutes) :=
  instant_finds u.nanos_lt

theorem resolve_finds (w : WallTime) : Finds (resolve z w) (z.resolve? w) := by
  unfold resolve Zone.resolve?
  cases z.firstShowing? w with
  | some u => exact finds_pure u
  | none =>
    refine (instant_finds zero_lt_nanosPerSecond).bind (fun left => ?_) fun probe found => ?_
    · simp only [Zone.gapInstant?, Instant.ofSeconds?, left]
      rfl
    · simp only [Zone.gapInstant?, Instant.ofSeconds?, found]
      exact instant_finds zero_lt_nanosPerSecond

/-- The start of a date that exists, if its year is supported. -/
theorem startOfDay_finds {d : Date} (valid : d.isValid = true) :
    Finds (do let d ← supported d; startOfDay z d)
      (if d.isSupported then z.startOfDay? d.dayNumber else none) := by
  refine (supported_finds valid).bind (fun left => ?_) fun d' found => ?_
  · cases support : d.isSupported
    · rfl
    · simp [support] at left
  · cases support : d.isSupported
    · simp [support] at found
    · simp only [support, if_true, Option.some.injEq] at found
      subst found
      rw [startOfDay, time_eq (by decide), pure_bind, if_pos rfl]
      exact resolve_finds _

/-! ## Counting to the next named day -/

/-- The first of the next month exists. Behind a supported month, it is unsupported only if that is a
December. -/
theorem exists_firstOfNext {d : Date} (valid : d.isValid = true) :
    ∃ next : Date, firstOfNext d.year d.month = supported next ∧ next.isValid = true ∧ next.day = 1 ∧
      next.monthNumber = d.monthNumber + 1 ∧
      (d.isSupported = true → next.isSupported = true ∨ Date.daysInMonth d.year d.month = 31) := by
  obtain ⟨h1, h12, -⟩ := Date.isValid_iff.1 valid
  unfold firstOfNext
  split
  · rename_i december
    have valid' : Date.isValid ⟨d.year + 1, 1, 1⟩ = true := rfl
    refine ⟨_, date_eq valid', valid', rfl, ?_, fun _ => Or.inr ?_⟩
    · simp only [Date.monthNumber]
      omega
    · rw [december]
      rfl
  · have positive := (Date.daysInMonth_bounds d.year (d.month + 1)).1
    have valid' : Date.isValid ⟨d.year, d.month + 1, 1⟩ = true :=
      Date.isValid_iff.2 ⟨by simp, by simp only; omega, by simp, by simp only; omega⟩
    refine ⟨_, date_eq valid', valid', rfl, ?_, Or.inl⟩
    simp only [Date.monthNumber]
    omega

/-- The date is supported, or else in a month of 31 days. -/
def MonthKnown (d : Date) : Prop := d.isSupported = true ∨ Date.daysInMonth d.year d.month = 31

/-- A month has as many days as are counted by way of the next month, up to the ends of the supported
years. -/
theorem lastDay_eq {d : Date} (valid : d.isValid = true) (known : MonthKnown d) :
    lastDay d.year d.month = pure (Date.daysInMonth d.year d.month) := by
  obtain ⟨next, named, valid', first, follows, support⟩ := exists_firstOfNext valid
  have last := Date.ofDayNumber_before_next valid valid' first follows
  have same : Date.isSupported ⟨d.year, d.month, Date.daysInMonth d.year d.month⟩ = d.isSupported := rfl
  simp only [lastDay, named]
  cases inside : next.isSupported with
  | false =>
    have long : Date.daysInMonth d.year d.month = 31 := by
      rcases known with inside' | long
      · exact (support inside').resolve_left (by simp [inside])
      · exact long
    simp only [supported, inside, long]
    rfl
  | true =>
    simp only [supported, inside, if_true, pure_bind, last, same]
    rcases known with inside' | long
    · rw [inside']
      rfl
    · rw [long]
      cases d.isSupported <;> rfl

/-- Where a clock with an offset below a day shows a date that is not supported, that is the last of a
December or the first of a January. -/
theorem monthKnown_of_shown (offsets : ∀ u, -secondsPerDay < z.offsetAt u ∧ z.offsetAt u < secondsPerDay)
    (u : Instant) : MonthKnown (z.wallAt u).date := by
  have bounds := offsets u.seconds
  have first := u.firstSecond_le
  have last := u.le_lastSecond
  have number : (z.wallAt u).dayNumber = (u.seconds + z.offsetAt u.seconds) / 86400 := rfl
  unfold firstSecond at first
  unfold lastSecond at last
  unfold secondsPerDay at bounds
  by_cases inside : -96465292 ≤ (z.wallAt u).dayNumber ∧ (z.wallAt u).dayNumber < 95026237
  · left
    rw [WallTime.date, Date.isSupported_iff, Date.firstDay_firstYear, Date.firstDay_lastYear]
    exact inside
  · right
    have edges : (z.wallAt u).dayNumber = -96465293 ∨ (z.wallAt u).dayNumber = 95026237 := by omega
    rcases edges with before | behind
    · rw [WallTime.date, before]
      decide
    · rw [WallTime.date, behind]
      decide

theorem daysToNamedDay_eq {d : Date} (valid : d.isValid = true) (known : MonthKnown d) :
    daysToNamedDay t d = pure (Search.daysToNamedDay t d) := by
  obtain ⟨-, -, -, le⟩ := Date.isValid_iff.1 valid
  simp only [daysToNamedDay, Search.daysToNamedDay]
  split
  · rename_i ahead
    exact minus_eq ahead
  · rw [lastDay_eq valid known, pure_bind, minus_eq le, pure_bind]

theorem daysToNamedWeekday_eq {weekday : Nat} (lt : weekday < 7) :
    daysToNamedWeekday t weekday = pure (Search.daysToNamedWeekday t weekday) := by
  simp only [daysToNamedWeekday, Search.daysToNamedWeekday]
  split
  · rename_i ahead
    exact minus_eq ahead
  · rw [minus_eq (Nat.le_of_lt lt), pure_bind]

theorem dayOffset_eq {d : Date} (valid : d.isValid = true) (known : MonthKnown d) {weekday : Nat}
    (lt : weekday < 7) :
    dayOffset t d weekday = pure (Search.dayOffset t d weekday) := by
  rw [dayOffset, Search.dayOffset, daysToNamedDay_eq valid known, daysToNamedWeekday_eq lt]
  split
  · rfl
  split
  · rfl
  · rw [pure_bind, pure_bind]

/-! ## Steps -/

theorem minuteStep_moves : Moves (minuteStep t z c) (Search.minuteStep t z c) := by
  unfold minuteStep Search.minuteStep startOfMinute? Instant.ofSeconds?
  refine (instant_finds zero_lt_nanosPerSecond).bind (fun left => ?_) fun start found => ?_
  · rw [left]
  rw [found]
  simp only
  split
  · exact (later_finds start 1).goOn
  split
  · rw [minus_eq (Nat.le_of_lt (WallTime.minute_lt _)), pure_bind]
    exact (later_finds start _).goOn
  · rename_i ahead
    rw [minus_eq (Nat.not_lt.1 ahead), pure_bind]
    refine (later_finds start _).bind (fun left => ?_) fun u found => ?_
    · rw [left]
    · rw [found]
      exact moves_runs u

variable (proper : t.Proper)
include proper

theorem hourStep_moves : Moves (hourStep t z c) (Search.hourStep t z c) := by
  simp only [hourStep, Search.hourStep]
  have lt := proper.hour_lt _ (Values.nextFrom_mem proper.hours (z.wallAt c.instant).hour)
  generalize t.hours.nextFrom (z.wallAt c.instant).hour = next at lt ⊢
  split
  · exact minuteStep_moves
  generalize (if next < (z.wallAt c.instant).hour then (z.wallAt c.instant).dayNumber + 1
    else (z.wallAt c.instant).dayNumber) = day
  rw [WallTime.isSupported_atHour day lt]
  refine (supported_finds (Date.isValid_ofDayNumber day)).bind (fun left => ?_) fun d found => ?_
  · rw [if_neg (by simpa using left)]
  · obtain ⟨inside, rfl⟩ : (Date.ofDayNumber day).isSupported = true ∧ Date.ofDayNumber day = d := by
      simpa using found
    rw [if_pos inside, time_eq lt, pure_bind, Date.dayNumber_ofDayNumber]
    refine (resolve_finds _).bind (fun left => ?_) fun target found => ?_
    · rw [left]
    rw [found]
    simp only
    split
    · exact minuteStep_moves
    · exact moves_goOn _

variable (offsets : ∀ u, -secondsPerDay < z.offsetAt u ∧ z.offsetAt u < secondsPerDay)
include offsets

theorem dayStep_moves : Moves (dayStep t z c) (Search.dayStep t z c) := by
  have counted : dayOffset t (z.wallAt c.instant).date (z.wallAt c.instant).weekday =
      pure (Search.dayOffset t (z.wallAt c.instant).date (z.wallAt c.instant).weekday) :=
    dayOffset_eq (Date.isValid_ofDayNumber _) (monthKnown_of_shown offsets c.instant) (weekdayOf_lt _)
  simp only [dayStep, Search.dayStep, counted, pure_bind]
  split
  · exact hourStep_moves proper
  generalize (z.wallAt c.instant).dayNumber +
    (Search.dayOffset t (z.wallAt c.instant).date (z.wallAt c.instant).weekday : Int) = day
  have start := @startOfDay_finds z _ (Date.isValid_ofDayNumber day)
  have midnight : 0 < 24 := by decide
  rw [Date.dayNumber_ofDayNumber, ← WallTime.isSupported_atHour day midnight, ← WallTime.ofDay_zero,
    ← startOfSupportedDay?] at start
  rw [← bind_assoc]
  exact start.goOn

theorem monthStep_moves : Moves (monthStep t z c) (Search.monthStep t z c) := by
  simp only [monthStep, Search.monthStep]
  have bounds := proper.month_bounds _ (Values.nextFrom_mem proper.months (z.wallAt c.instant).date.month)
  generalize t.months.nextFrom (z.wallAt c.instant).date.month = next at bounds ⊢
  split
  · exact dayStep_moves proper offsets
  generalize (if next < (z.wallAt c.instant).date.month then (z.wallAt c.instant).date.year + 1
    else (z.wallAt c.instant).date.year) = year
  have positive := (Date.daysInMonth_bounds year next).1
  have valid : Date.isValid ⟨year, next, 1⟩ = true :=
    Date.isValid_iff.2 ⟨bounds.1, bounds.2, by simp, by simp only; omega⟩
  rw [date_eq valid, ← bind_assoc]
  exact (startOfDay_finds valid).goOn

/-- Within the years, a guarded step does what the search does. -/
theorem step_moves (within : (z.wallAt c.instant).date.year ≤ firstYear + yearLimit) :
    Moves (step t z firstYear c) (Search.step t z firstYear c) := by
  rw [step, Search.step, if_neg (by omega), if_neg (by omega)]
  exact monthStep_moves proper offsets

theorem iterate_agrees (n : Nat) (c : Candidate) :
    Agrees (iterate t z firstYear n c) (Search.iterate t z firstYear n c) := by
  induction n generalizing c with
  | zero => exact Or.inl rfl
  | succ n ih =>
    unfold iterate Search.iterate
    by_cases within : (z.wallAt c.instant).date.year ≤ firstYear + yearLimit
    · obtain ⟨o, same, came, -⟩ | ⟨stop, stopped, leaves, gives_up⟩ :=
        step_moves (t := t) proper offsets within
      · obtain rfl : Search.step t z firstYear c = o := came
        rw [same]
        cases Search.step t z firstYear c with
        | goOn c' => exact ih c'
        | runs u => exact Or.inl rfl
        | giveUp => exact Or.inl rfl
      · rw [stopped, gives_up]
        exact Or.inr ⟨stop, rfl, leaves, rfl⟩
    · rw [step, Search.step, if_pos (by omega), if_pos (by omega)]
      exact Or.inl rfl

end Guarded
end Search

namespace Schedule

open Search (Agrees Candidate Guarded.iterate Guarded.step Moves yearLimit)

/-- The values of a field are values of the calendar, and Sunday is not a seven among them. So a search for a
schedule without an empty field, by a clock with offsets below a day, subtracts no larger number from a smaller
one and asks for no date or time that does not exist. From any candidate within the limit on the years, a step
gives up only where the guarded one stops at an end of the supported years; and for any number of steps, the
guarded search comes to the same as the search, or stops at such an end, where the search gives up. -/
theorem guarded_search_agrees {s : Schedule} {z : Zone} (satisfiable : s.isSatisfiable = true)
    (offsets : ∀ u, -secondsPerDay < z.offsetAt u ∧ z.offsetAt u < secondsPerDay) :
    (∀ (kind : Field.Kind) (e : Field.Expr), ∀ n ∈ kind.evaluate e,
      kind.calendarBounds.least ≤ n ∧ n ≤ kind.calendarBounds.greatest ∧ (kind = .dayOfWeek → n ≠ 7)) ∧
    (∀ (firstYear : Int) (c : Candidate), (z.wallAt c.instant).date.year ≤ firstYear + yearLimit →
      Moves (Guarded.step s.timetable z firstYear c) (Search.step s.timetable z firstYear c)) ∧
    ∀ (firstYear : Int) (n : Nat) (c : Candidate),
      Agrees (Guarded.iterate s.timetable z firstYear n c) (Search.iterate s.timetable z firstYear n c) := by
  have proper := timetable_proper satisfiable
  refine ⟨fun kind e n member => ?_, fun _ _ => Search.Guarded.step_moves proper offsets,
    fun _ => Search.Guarded.iterate_agrees proper offsets⟩
  obtain ⟨least, greatest⟩ := Field.Kind.evaluate_within member
  refine ⟨least, greatest, ?_⟩
  rintro rfl rfl
  exact absurd greatest (by decide)

/-- A search from 2024-02-20 counts to the end of that February and finds the next 15th. One from the last
second stops at the 15th behind it. -/
theorem everyFifteenth_guarded :
    everyFifteenth.isSatisfiable = true ∧
      (∀ u, -secondsPerDay < Zone.utc.offsetAt u ∧ Zone.utc.offsetAt u < secondsPerDay) ∧
      ∃ winter last found : Instant, winter.seconds = 1708430400 ∧ last.seconds = lastSecond ∧
        found.seconds = 1710460800 ∧
        Guarded.iterate everyFifteenth.timetable Zone.utc 2024 2 ⟨winter, true⟩ = .ok (.runs found) ∧
        ∃ stop, Guarded.iterate everyFifteenth.timetable Zone.utc 262142 1 ⟨last, true⟩ = .error stop ∧
          stop.LeavesRange := by
  have satisfiable : everyFifteenth.isSatisfiable = true := by decide +kernel
  have below : -secondsPerDay < 0 ∧ 0 < secondsPerDay := by decide
  obtain ⟨-, -, agrees⟩ := guarded_search_agrees (z := Zone.utc) satisfiable fun _ => below
  refine ⟨satisfiable, fun _ => below, ⟨1708430400, 0, by decide, by decide, by decide⟩,
    ⟨lastSecond, 0, by decide, by decide, by decide⟩, ⟨1710460800, 0, by decide, by decide, by decide⟩,
    rfl, rfl, rfl, ?_, ?_⟩
  · have plain : Search.iterate everyFifteenth.timetable Zone.utc 2024 2
        ⟨⟨1708430400, 0, by decide, by decide, by decide⟩, true⟩ =
          .runs ⟨1710460800, 0, by decide, by decide, by decide⟩ := by decide +kernel
    obtain same | ⟨-, -, -, gives_up⟩ := agrees 2024 2 ⟨_, true⟩
    · exact same.trans (congrArg Except.ok plain)
    · exact nomatch plain.symm.trans gives_up
  · have stops : (Guarded.iterate everyFifteenth.timetable Zone.utc 262142 1
        ⟨⟨lastSecond, 0, by decide, by decide, by decide⟩, true⟩).toOption = none := by decide +kernel
    obtain same | ⟨stop, stopped, leaves, -⟩ := agrees 262142 1 ⟨_, true⟩
    · rw [same] at stops
      exact nomatch stops
    · exact ⟨stop, stopped, leaves⟩

end Schedule
end CronCalendar
