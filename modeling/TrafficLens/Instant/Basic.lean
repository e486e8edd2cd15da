/-!
# Instants

An `Instant` is a point of Coordinated Universal Time to the nanosecond: the seconds since the
beginning of 1970, and the nanoseconds of the second. A second that was inserted at the end of a
minute (a leap second) is told apart from its neighbours: it has the number of the second before it
and a thousand million nanoseconds or more.

Days are counted with the proleptic Gregorian calendar, whose years may be negative here; the
years of an instant lie between `minYear` and `maxYear`.
-/

namespace TrafficLens

/-- A point in time. -/
structure Instant where
  /-- Seconds since the beginning of 1970. -/
  seconds : Int
  /-- Nanoseconds of the second; a thousand million or more inside a leap second. -/
  nanos : Nat
deriving DecidableEq, Repr, Inhabited

namespace Instant

/-- The nanoseconds of a second. -/
def nanosPerSecond : Nat := 1000000000

/-- The seconds of a day. -/
def secondsPerDay : Int := 86400

/-- The first year. -/
def minYear : Int := -262143

/-- The last year. -/
def maxYear : Int := 262142

instance : Ord Instant where
  compare a b := (compare a.seconds b.seconds).then (compare a.nanos b.nanos)

/-- The earlier of two instants. -/
def earlier (a b : Instant) : Instant := if compare b a == .lt then b else a

/-- The later of two instants. -/
def later (a b : Instant) : Instant := if compare a b == .gt then a else b

/-! ## The calendar -/

/-- A date. -/
structure Date where
  year : Int
  month : Nat
  day : Nat
deriving DecidableEq, Repr

/-- Is there a twenty-ninth of February in the year? -/
def isLeapYear (year : Int) : Bool :=
  year % 4 == 0 && (year % 100 != 0 || year % 400 == 0)

/-- The number of days of a month. -/
def daysInMonth (year : Int) (month : Nat) : Nat :=
  match month with
  | 2 => if isLeapYear year then 29 else 28
  | 4 | 6 | 9 | 11 => 30
  | _ => 31

/-- Is there such a date? -/
def Date.isValid (d : Date) : Bool :=
  decide (minYear ≤ d.year ∧ d.year ≤ maxYear ∧ 1 ≤ d.month ∧ d.month ≤ 12 ∧ 1 ≤ d.day ∧
    d.day ≤ daysInMonth d.year d.month)

/-- The number of days from the beginning of 1970 to a date. Years are counted from March here, so
that the leap day is the last one of its year. -/
def Date.toDays (d : Date) : Int :=
  let y := if d.month ≤ 2 then d.year - 1 else d.year
  let era := y.fdiv 400
  let yearOfEra := y - era * 400
  let m : Int := if 2 < d.month then d.month - 3 else d.month + 9
  let dayOfYear := (153 * m + 2) / 5 + d.day - 1
  let dayOfEra := yearOfEra * 365 + yearOfEra / 4 - yearOfEra / 100 + dayOfYear
  era * 146097 + dayOfEra - 719468

/-- The date of a day that is counted from the beginning of 1970. -/
def Date.ofDays (days : Int) : Date :=
  let z := days + 719468
  let era := z.fdiv 146097
  let dayOfEra := z - era * 146097
  let yearOfEra := (dayOfEra - dayOfEra / 1460 + dayOfEra / 36524 - dayOfEra / 146096) / 365
  let dayOfYear := dayOfEra - (365 * yearOfEra + yearOfEra / 4 - yearOfEra / 100)
  let mp := (5 * dayOfYear + 2) / 153
  let day := dayOfYear - (153 * mp + 2) / 5 + 1
  let month := if mp < 10 then mp + 3 else mp - 9
  let year := yearOfEra + era * 400 + (if month ≤ 2 then 1 else 0)
  ⟨year, month.toNat, day.toNat⟩

/-! ## Arithmetic -/

/-- The nanoseconds since the beginning of 1970, a leap second counted with the second behind it. -/
def stamp (t : Instant) : Int := t.seconds * nanosPerSecond + t.nanos

/-- The instant with a stamp, outside leap seconds. -/
def ofStamp (n : Int) : Instant :=
  ⟨n.fdiv nanosPerSecond, (n.fmod nanosPerSecond).toNat⟩

/-- The instant so many nanoseconds earlier. Less than a second does not leave a leap second. -/
def subNanos (t : Instant) (n : Nat) : Instant :=
  if nanosPerSecond ≤ t.nanos ∧ n < nanosPerSecond then ⟨t.seconds, t.nanos - n⟩
  else ofStamp (t.stamp - n)

/-- Do the nanoseconds since 1970 fit in 64 bits? -/
def fitsStamp (t : Instant) : Bool := decide (-(Nat.pow 2 63 : Int) ≤ t.stamp ∧ t.stamp < Nat.pow 2 63)

/-- How far a stamp is behind the last multiple of a span. The remainder of a stamp from before 1970
is negative, since the division cuts off toward zero, and counts back from the next multiple. -/
def excess (stamp : Int) (span : Nat) : Nat :=
  let r := stamp.tmod span
  if r < 0 then span - r.natAbs else r.natAbs

/-- The instant without what it is behind the last multiple of a span, if its stamp fits in 64
bits. -/
def truncate? (span : Nat) (t : Instant) : Option Instant :=
  if t.fitsStamp then
    let late := excess t.stamp span
    some (if late = 0 then t else t.subNanos late)
  else none

/-- The nanoseconds of an hour. -/
def nanosPerHour : Nat := 3600 * nanosPerSecond

/-- The beginning of the hour that the instant is in. An instant whose stamp does not fit in 64
bits is left alone. -/
def floorHour (t : Instant) : Instant := (t.truncate? nanosPerHour).getD t

/-- The beginning of the year 2000, from which columns count microseconds. -/
def columnEpoch : Int := 946684800

/-- The instant as a column holds it: whole microseconds since 2000, the rest cut off toward that
moment. A leap second becomes the second behind it. -/
def toColumn (t : Instant) : Instant :=
  let micros := (t.stamp - columnEpoch * nanosPerSecond).tdiv 1000
  ofStamp (columnEpoch * nanosPerSecond + micros * 1000)

end Instant

end TrafficLens
