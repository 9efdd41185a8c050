import LaunchKit.Failure.System
import LaunchKit.Number.Numeral

/-!
# Calendar

Times are seconds since the beginning of 1970, shown in a zone. Days are counted in the proleptic
Gregorian calendar. A zone is at every time less than a day ahead of universal time or behind it;
how much may change in the course of time, as it does where clocks are put forward in summer. A time
is shown only if its year, in universal time and in the zone, lies between 1 and 9999.

## Main definitions

* `Calendar.Moment`: a date and a time of day.
* `Calendar.ofDays`: the date of a day.
* `Calendar.Zone`, `Calendar.zone`: the zones, and those with a fixed offset.
* `Calendar.moment`: a time in a zone.
-/
namespace LaunchKit.Calendar

/-- A date and a time of day. -/
structure Moment where
  year : Int
  month : Nat
  day : Nat
  hour : Nat
  minute : Nat
  second : Nat
  deriving DecidableEq, Repr

/-- Year, month and day of a day, counted from the beginning of 1970. Years are taken to begin in
March, so that the leap day is the last of its year, and days are counted in eras of 400 years. -/
def ofDays (days : Int) : Int × Nat × Nat :=
  let fromMarch := days + 719468
  let era := fromMarch.fdiv 146097
  let dayOfEra := (fromMarch.fmod 146097).toNat
  let yearOfEra := (dayOfEra - dayOfEra / 1460 + dayOfEra / 36524 - dayOfEra / 146096) / 365
  let dayOfYear := dayOfEra - (365 * yearOfEra + yearOfEra / 4 - yearOfEra / 100)
  let monthFromMarch := (5 * dayOfYear + 2) / 153
  let day := dayOfYear - (153 * monthFromMarch + 2) / 5 + 1
  let month := if monthFromMarch < 10 then monthFromMarch + 3 else monthFromMarch - 9
  let year := era * 400 + yearOfEra
  (if month ≤ 2 then year + 1 else year, month, day)

/-- The moment of a time, without regard to the range of years. -/
def ofSeconds (seconds : Int) : Moment :=
  let (year, month, day) := ofDays (seconds.fdiv 86400)
  let second := (seconds.fmod 86400).toNat
  ⟨year, month, day, second / 3600, second / 60 % 60, second % 60⟩

/-! ## Zones -/

/-- The minutes of a day. -/
def dayMinutes : Int := 1440

/-- The seconds of a day. -/
def daySeconds : Int := 86400

/-- A zone, which is at a time so many seconds ahead of universal time. -/
structure Zone where
  secondsAhead : Int → Int := fun _ => 0
  isWithinDay : ∀ time, -daySeconds < secondsAhead time ∧ secondsAhead time < daySeconds := by
    exact fun _ => by decide

/-- Why there is no such zone. -/
inductive BadZone where
  | beyondDay (days seconds : Int)
  | beyondDayCount (days : Int)
  | beyondDayNumbers
  deriving DecidableEq, Repr

/-- The largest count of days that has a meaning. -/
def dayLimit : Int := 999999999

/-- The count of days that numbers of days do not reach. -/
def dayNumberLimit : Int := 0x80000000

/-- A length of time in days and seconds. -/
def lengthText (days seconds : Int) : Text :=
  let ofSeconds : Text :=
    if seconds = 0 then [] else ", seconds=" ++ Numeral.ofInt seconds
  "datetime.timedelta(days=" ++ Numeral.ofInt days ++ ofSeconds ++ [')']

/-- A zone that does not exist, as a failure. -/
def BadZone.toFailure : BadZone → Failure
  | .beyondDay days seconds =>
    .saying .badValue
      ("offset must be a timedelta strictly between -timedelta(hours=24) and ".toList ++
        "timedelta(hours=24), not ".toList ++ lengthText days seconds ++ ['.'])
  | .beyondDayCount days =>
    .saying .outOfRange
      ("days=" ++ Numeral.ofInt days ++ "; must have magnitude <= ".toList ++
        Numeral.ofInt dayLimit)
  | .beyondDayNumbers => .saying .outOfRange "Python int too large to convert to C int"

/-- The zone that is always so many minutes ahead of universal time. -/
def zone (minutesAhead : Int) : Except BadZone Zone :=
  if h : -dayMinutes < minutesAhead ∧ minutesAhead < dayMinutes then
    .ok ⟨fun _ => 60 * minutesAhead, fun _ => by dsimp only [dayMinutes, daySeconds] at *; omega⟩
  else
    let days := minutesAhead.fdiv dayMinutes
    if days < -dayNumberLimit ∨ dayNumberLimit ≤ days then .error .beyondDayNumbers
    else if days < -dayLimit ∨ dayLimit < days then .error (.beyondDayCount days)
    else .error (.beyondDay days (60 * minutesAhead.fmod dayMinutes))

/-! ## Times in zones -/

/-- Why a time cannot be shown. -/
inductive Unshowable where
  | beyondClock
  | beyondCalendar
  | beyondYears (year : Int)
  | beyondYearsInZone
  deriving DecidableEq, Repr

/-- A time that cannot be shown, as a failure. -/
def Unshowable.toFailure : Unshowable → Failure
  | .beyondClock => .saying .outOfRange "timestamp out of range for platform time_t"
  | .beyondCalendar => .ofSystem 75 "Value too large for defined data type" none
  | .beyondYears year =>
    .saying .badValue ("year " ++ Numeral.ofInt year ++ " is out of range".toList)
  | .beyondYearsInZone => .saying .outOfRange "date value out of range"

/-- Whether a year can be shown. -/
def isShowable (year : Int) : Bool := 1 ≤ year && year ≤ 9999

/-- The year as it is told when it cannot be shown: in 32 bits. -/
def toldYear (year : Int) : Int := year.bmod 0x100000000

/-- A time in a zone. Years are counted from 1900 in 32 bits. -/
def moment (seconds : Int) (zone : Zone) : Except Unshowable Moment :=
  let year := (ofSeconds seconds).year
  let shown := ofSeconds (seconds + zone.secondsAhead seconds)
  if seconds < -0x8000000000000000 ∨ 0x8000000000000000 ≤ seconds then .error .beyondClock
  else if year - 1900 < -0x80000000 ∨ 0x80000000 ≤ year - 1900 then .error .beyondCalendar
  else if !isShowable year then .error (.beyondYears (toldYear year))
  else if !isShowable shown.year then .error .beyondYearsInZone
  else .ok shown

/-- A number in two digits. -/
def twoDigits (n : Nat) : Text := Text.padLeft '0' 2 (Numeral.ofNat n)

/-- The time of day, `HH:MM:SS`. -/
def Moment.clock (m : Moment) : Text :=
  twoDigits m.hour ++ ':' :: twoDigits m.minute ++ ':' :: twoDigits m.second

/-- The day of the year, `MM/DD`. -/
def Moment.date (m : Moment) : Text := twoDigits m.month ++ '/' :: twoDigits m.day

example : ofSeconds 951782399 = ⟨2000, 2, 28, 23, 59, 59⟩ := by decide
example : ofSeconds (-1) = ⟨1969, 12, 31, 23, 59, 59⟩ := by decide

end LaunchKit.Calendar
