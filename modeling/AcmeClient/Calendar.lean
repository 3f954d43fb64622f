import AcmeClient.Number.Decimal

namespace AcmeClient

structure Date where
  year : Int
  month : Nat
  day : Nat
deriving DecidableEq, Repr

structure TimeOfDay where
  hour : Nat
  minute : Nat
  second : Nat
  microsecond : Nat
deriving DecidableEq, Repr

/-- A day and a time, perhaps with a distance in seconds from universal time. -/
structure Moment where
  date : Date
  time : TimeOfDay
  offset : Option Int
deriving DecidableEq, Repr

/-- A span of seconds, whole or not. -/
inductive Seconds where
  | whole (count : Int)
  | exact (count : Binary64)
deriving DecidableEq, Repr

/-- What no calendar day, time of day or offset has. -/
inductive DateFault where
  | year (year : Int)
  | month
  | day
  | hour
  | minute
  | second
  | offset (seconds : Int)
deriving DecidableEq, Repr

inductive TimestampFault where
  | year (year : Int)
  | overflow
  | tooLarge
  | notANumber
deriving DecidableEq, Repr

namespace Calendar

def secondsPerDay : Nat := 86400

def isLeap (year : Int) : Bool :=
  year % 4 == 0 && (year % 100 != 0 || year % 400 == 0)

def daysInMonth (year : Int) (month : Nat) : Nat :=
  if month = 2 then (if isLeap year then 29 else 28)
  else if month = 4 ∨ month = 6 ∨ month = 9 ∨ month = 11 then 30
  else 31

/-- The day so many days after the first of January 1970. Years are counted from March on, in cycles
of four hundred years. -/
def dateOfDays (days : Int) : Date :=
  let shifted := days + 719468
  let cycle := shifted.fdiv 146097
  let dayOfCycle := (shifted.fmod 146097).toNat
  let yearOfCycle := (dayOfCycle - dayOfCycle / 1460 + dayOfCycle / 36524 - dayOfCycle / 146096) / 365
  let dayOfYear := dayOfCycle - (365 * yearOfCycle + yearOfCycle / 4 - yearOfCycle / 100)
  let monthFromMarch := (5 * dayOfYear + 2) / 153
  let month := if monthFromMarch < 10 then monthFromMarch + 3 else monthFromMarch - 9
  { year := yearOfCycle + cycle * 400 + (if month ≤ 2 then 1 else 0)
    month
    day := dayOfYear - (153 * monthFromMarch + 2) / 5 + 1 }

def daysOfDate (d : Date) : Int :=
  let year := if d.month ≤ 2 then d.year - 1 else d.year
  let cycle := year.fdiv 400
  let yearOfCycle := year.fmod 400
  let monthFromMarch := if 2 < d.month then d.month - 3 else d.month + 9
  let dayOfYear : Int := (153 * monthFromMarch + 2) / 5 + d.day - 1
  cycle * 146097 + yearOfCycle * 365 + yearOfCycle / 4 - yearOfCycle / 100 + dayOfYear - 719468

def timeOfSeconds (seconds microsecond : Nat) : TimeOfDay :=
  ⟨seconds / 3600, seconds / 60 % 60, seconds % 60, microsecond⟩

def momentOfSeconds (seconds : Int) (microsecond : Nat) : Moment where
  date := dateOfDays (seconds.fdiv secondsPerDay)
  time := timeOfSeconds (seconds.fmod secondsPerDay).toNat microsecond
  offset := none

def isClockCount (seconds : Int) : Bool :=
  let limit : Int := Nat.pow 2 63
  seconds < limit && -limit ≤ seconds

def isCalendarYear (year : Int) : Bool :=
  let limit : Int := Nat.pow 2 31
  1900 - limit ≤ year && year < 1900 + limit

/-- The seconds and microseconds in a span, a half microsecond going to the even neighbour. What
passes the point is rounded to a product with a million first. -/
def splitSeconds : Seconds → Except TimestampFault (Int × Nat)
  | .whole count => if isClockCount count then .ok (count, 0) else .error .overflow
  | .exact .nan => .error .notANumber
  | .exact (.infinite _) => .error .overflow
  | .exact (.finite negative magnitude) =>
    let x := Binary64.finite negative magnitude
    let whole := Int.tdiv (Binary64.signedUnits negative magnitude) Binary64.one
    let rest := Int.tmod (Binary64.signedUnits negative magnitude) Binary64.one
    let micros := match (Binary64.ofSignedUnits negative rest 1).mul (.ofRatio false 1000000 1) with
      | .finite _ product => roundQuotient (Binary64.units product) Binary64.one
      | _ => 0
    let total : Int := whole * 1000000 + (if x.isNonpositive then -(micros : Int) else micros)
    let seconds := total.fdiv 1000000
    if isClockCount seconds then .ok (seconds, (total.fmod 1000000).toNat) else .error .overflow

/-- The moment of a span of seconds from the start of 1970, by a clock that shows whole seconds. -/
def clockMoment (span : Seconds) : Except TimestampFault Moment :=
  let seconds : Except TimestampFault Int := match span with
    | .whole count => .ok count
    | .exact .nan => .error .notANumber
    | .exact x => match x.floor? with
      | some count => .ok count
      | none => .error .overflow
  match seconds with
  | .error fault => .error fault
  | .ok seconds =>
    if !isClockCount seconds then .error .overflow
    else
      let moment := momentOfSeconds seconds 0
      if isCalendarYear moment.date.year then .ok moment else .error .tooLarge

/-- The moment of a span of seconds from the start of 1970, in a year of at most four digits. -/
def exactMoment (span : Seconds) : Except TimestampFault Moment :=
  match splitSeconds span with
  | .error fault => .error fault
  | .ok (seconds, micros) =>
    let moment := momentOfSeconds seconds micros
    let year := moment.date.year
    if !isCalendarYear year then .error .tooLarge
    else if year < 1 ∨ 9999 < year then .error (.year year)
    else .ok moment

/-- The microseconds from the start of 1970 to a moment, by universal time if its offset is known. -/
def microsecondsOf (m : Moment) : Int :=
  let t := m.time
  let seconds : Int := daysOfDate m.date * secondsPerDay + (3600 * t.hour + 60 * t.minute + t.second : Nat)
  (seconds - m.offset.getD 0) * 1000000 + t.microsecond

def date? (year : Int) (month day : Nat) : Except DateFault Date :=
  if year < 1 ∨ 9999 < year then .error (.year year)
  else if month < 1 ∨ 12 < month then .error .month
  else if day < 1 ∨ daysInMonth year month < day then .error .day
  else .ok ⟨year, month, day⟩

def timeOfDay? (hour minute second microsecond : Nat) : Except DateFault TimeOfDay :=
  if 23 < hour then .error .hour
  else if 59 < minute then .error .minute
  else if 59 < second then .error .second
  else .ok ⟨hour, minute, second, microsecond⟩

/-- An offset of less than a day. -/
def offset? (seconds : Int) : Except DateFault Int :=
  if seconds.natAbs < secondsPerDay then .ok seconds else .error (.offset seconds)

def padded (width n : Nat) : List Char :=
  let text := digits n
  List.replicate (width - text.length) '0' ++ text

/-- An integer, of which the sign counts toward the width. -/
def paddedInt (width : Nat) (i : Int) : List Char :=
  if i < 0 then '-' :: padded (width - 1) i.natAbs else padded width i.natAbs

def spanText (seconds : Int) : String :=
  let days := seconds.fdiv secondsPerDay
  let rest := seconds.fmod secondsPerDay
  let parts := (if days = 0 then [] else [s!"days={days}"])
    ++ (if rest = 0 then [] else [s!"seconds={rest}"])
  "datetime.timedelta(" ++ (if parts.isEmpty then "0" else ", ".intercalate parts) ++ ")"

end Calendar

def DateFault.message : DateFault → String
  | .year value => s!"year {value} is out of range"
  | .month => "month must be in 1..12"
  | .day => "day is out of range for month"
  | .hour => "hour must be in 0..23"
  | .minute => "minute must be in 0..59"
  | .second => "second must be in 0..59"
  | .offset seconds =>
    s!"offset must be a timedelta strictly between -timedelta(hours=24) and timedelta(hours=24), not {Calendar.spanText seconds}."

def TimestampFault.message : TimestampFault → String
  | .year value => s!"year {value} is out of range"
  | .overflow => "timestamp out of range for platform time_t"
  | .tooLarge => "[Errno 75] Value too large for defined data type"
  | .notANumber => "Invalid value NaN (not a number)"

def Date.display (d : Date) : String := s!"datetime.date({d.year}, {d.month}, {d.day})"

/-- A moment as the parts it is made of; seconds that are zero are left out. -/
def Moment.display (m : Moment) : String :=
  let t := m.time
  let seconds :=
    if t.microsecond ≠ 0 then [s!"{t.second}", s!"{t.microsecond}"]
    else if t.second ≠ 0 then [s!"{t.second}"] else []
  let zone := match m.offset with
    | none => []
    | some 0 => ["tzinfo=datetime.timezone.utc"]
    | some offset => [s!"tzinfo=datetime.timezone({Calendar.spanText offset})"]
  let parts := [s!"{m.date.year}", s!"{m.date.month}", s!"{m.date.day}", s!"{t.hour}", s!"{t.minute}"]
    ++ seconds ++ zone
  "datetime.datetime(" ++ ", ".intercalate parts ++ ")"

end AcmeClient
