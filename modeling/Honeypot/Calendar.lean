import Honeypot.Number.Parts
import Honeypot.Text.Basic

/-!
# Points in time and how they are written

An `Instant` counts microseconds from the beginning of 1970 in universal time. The clock of the
program is a number of seconds; it is turned into an instant by rounding to the nearest
microsecond, a tie going to the even one. Only the years 1 to 9999 have dates, so that a clock or a
span can lead to a `Fault`. Names of days and months are in English.
-/

namespace Honeypot.Calendar

/-- A point in time, in microseconds from the beginning of 1970. -/
structure Instant where
  micros : Int
  deriving Repr, DecidableEq, Inhabited

structure Day where
  year : Int
  month : Nat
  day : Nat
  deriving Repr, DecidableEq

/-- A day of the calendar and a time on it. -/
structure Moment extends Day where
  hour : Nat
  minute : Nat
  second : Nat
  micro : Nat
  /-- Days since Sunday. -/
  weekday : Nat
  deriving Repr, DecidableEq

/-- The integer nearest to a number, a tie going to the even one; 0 if there is none. -/
def nearestInt (x : Float) : Int :=
  match Number.parts x with
  | .finite negative mantissa exponent =>
    let (num, den) := Number.ratio mantissa exponent
    let size : Int := Number.roundDiv num den
    if negative then -size else size
  | _ => 0

/-- A number of seconds as microseconds: the whole seconds are exact and the fraction is rounded
after it was scaled. -/
def microsOfSeconds (seconds : Float) : Int :=
  let whole := Number.truncate seconds
  whole * 1000000 + nearestInt ((seconds - Float.ofInt whole) * 1000000.0)

def Instant.ofSeconds (seconds : Float) : Instant := ⟨microsOfSeconds seconds⟩

/-- The last full second that a clock has shown. -/
def Instant.ofFullSeconds (seconds : Float) : Instant :=
  ⟨(Number.floor? seconds).getD 0 * 1000000⟩

def Instant.later (t : Instant) (micros : Int) : Instant := ⟨t.micros + micros⟩

def Instant.laterMinutes (t : Instant) (minutes : Int) : Instant := t.later (minutes * 60000000)

def Instant.laterDays (t : Instant) (days : Int) : Instant := t.later (days * 86400000000)

/-- The day of the calendar that is `days` days after the first of January 1970. A year is taken
to begin in March, so that a leap day is its last day. -/
def dayOf (days : Int) : Day :=
  let shifted := days + 719468
  let era := Int.fdiv shifted 146097
  let dayOfEra := (shifted - era * 146097).toNat
  let yearOfEra :=
    (dayOfEra - dayOfEra / 1460 + dayOfEra / 36524 - dayOfEra / 146096) / 365
  let dayOfYear := dayOfEra - (365 * yearOfEra + yearOfEra / 4 - yearOfEra / 100)
  let marchMonth := (5 * dayOfYear + 2) / 153
  let month := if marchMonth < 10 then marchMonth + 3 else marchMonth - 9
  let year := (yearOfEra : Int) + era * 400
  ⟨if month ≤ 2 then year + 1 else year, month, dayOfYear - (153 * marchMonth + 2) / 5 + 1⟩

/-- The number of full days from the beginning of 1970. -/
def Instant.days (t : Instant) : Int := Int.fdiv t.micros 86400000000

/-! ## Instants with a date -/

/-- Why there is no date. -/
inductive Fault where
  /-- The seconds of the clock are more than can be counted. -/
  | uncountedSeconds
  /-- The number of the year is more than can be counted. -/
  | uncountedYear
  /-- The year is not one of 1 to 9999, or there is no time at all. -/
  | undatedYear
  /-- A span leads out of the years 1 to 9999. -/
  | undatedSpan
  deriving Repr, DecidableEq

/-- Whether an instant lies in one of the years 1 to 9999. -/
def Instant.isDated (t : Instant) : Bool :=
  -62135596800000000 ≤ t.micros && t.micros < 253402300800000000

/-- Whether the number of the year of an instant can be counted, from 1900 on in 32 bits. -/
def Instant.hasCountedYear (t : Instant) : Bool :=
  let year := (dayOf t.days).year
  year - 1900 < 2147483648 && -2147483648 ≤ year - 1900

/-- The instant that a clock shows, rounded by `toInstant`, if its year can be counted. -/
def counted (toInstant : Float → Instant) (seconds : Float) : Except Fault Instant :=
  if seconds.isNaN then .error .undatedYear
  else if !(-9223372036854775808.0 ≤ seconds && seconds < 9223372036854775808.0) then
    .error .uncountedSeconds
  else if (toInstant seconds).hasCountedYear then .ok (toInstant seconds)
  else .error .uncountedYear

/-- An instant if it has a date. -/
def Instant.dated (t : Instant) : Except Fault Instant :=
  if t.isDated then .ok t else .error .undatedYear

/-- The instant that a clock shows in local time, which is universal time too. Whether clocks were
just put back is looked for a day earlier, so that the first of all days has no local time. -/
def ofLocalClock (seconds : Float) : Except Fault Instant := do
  let t ← counted .ofSeconds seconds
  let _ ← (t.laterDays (-1)).dated
  t.dated

/-- The instant so much later than another, if it has a date. -/
def Instant.reach (t : Instant) (micros : Int) : Except Fault Instant :=
  if (t.later micros).isDated then .ok (t.later micros) else .error .undatedSpan

/-- The instant so many minutes later than another, if it has a date. -/
def Instant.reachMinutes (t : Instant) (minutes : Int) : Except Fault Instant :=
  t.reach (minutes * 60000000)

def Instant.moment (t : Instant) : Moment :=
  let rest := (t.micros - t.days * 86400000000).toNat
  let seconds := rest / 1000000
  { dayOf t.days with
    hour := seconds / 3600
    minute := seconds / 60 % 60
    second := seconds % 60
    micro := rest % 1000000
    weekday := (Int.fmod (t.days + 4) 7).toNat }

/-! ## Readings -/

/-- What a clock shows: the nearest microsecond, and two numbers of full seconds that differ before
1970. -/
structure Reading where
  instant : Instant
  /-- The greatest number of seconds that is no greater. -/
  below : Int
  /-- The number of seconds without what is left of one. -/
  whole : Int
  deriving Repr, DecidableEq, Inhabited

def Reading.ofSeconds (seconds : Float) : Reading :=
  ⟨.ofSeconds seconds, (Number.floor? seconds).getD 0, Number.truncate seconds⟩

def Reading.moment (r : Reading) : Moment := r.instant.moment

/-! ## Written forms -/

/-- Two digits, the first of which may be zero. -/
def twoDigits (n : Nat) : String := Text.fillLeft '0' 2 (Text.ofNat n)

def monthNames : List String :=
  ["Jan", "Feb", "Mar", "Apr", "May", "Jun", "Jul", "Aug", "Sep", "Oct", "Nov", "Dec"]

/-- The short names of the days of a week. -/
def dayNames : List String := ["Sun", "Mon", "Tue", "Wed", "Thu", "Fri", "Sat"]

namespace Moment

def monthName (m : Moment) : String := (monthNames[m.month - 1]?).getD ""

def dayName (m : Moment) : String := (dayNames[m.weekday]?).getD ""

/-- Month and day in digits, as in `10-06`. -/
def monthDayDigits (m : Moment) : String := twoDigits m.month ++ "-" ++ twoDigits m.day

/-- Year, month and day, as in `2021-10-06`; an early year has no zeros before it. -/
def date (m : Moment) : String := Text.ofInt m.year ++ "-" ++ m.monthDayDigits

/-- Hour and minute. -/
def shortClock (m : Moment) : String := twoDigits m.hour ++ ":" ++ twoDigits m.minute

/-- Hour, minute and second. -/
def clock (m : Moment) : String := m.shortClock ++ ":" ++ twoDigits m.second

/-- Date and time of day with a blank between them. -/
def dateClock (m : Moment) : String := m.date ++ " " ++ m.clock

/-- Month and day, as in `Oct 06`. -/
def monthDay (m : Moment) : String := m.monthName ++ " " ++ twoDigits m.day

/-- The stamp of a line of a system log. -/
def logStamp (m : Moment) : String := m.monthDay ++ " " ++ m.clock

/-- Day of the week, month, day and time. -/
def weekStamp (m : Moment) : String := m.dayName ++ " " ++ m.logStamp

/-- Date and time of day with their offset from universal time, the year with four digits and the
fraction of a second with six digits unless it is zero. -/
def full (m : Moment) : String :=
  Text.fillLeft '0' 4 (Text.ofInt m.year) ++ "-" ++ m.monthDayDigits ++ "T" ++ m.clock ++
    (if m.micro = 0 then "" else "." ++ Text.fillLeft '0' 6 (Text.ofNat m.micro)) ++ "+00:00"

end Moment

end Honeypot.Calendar
