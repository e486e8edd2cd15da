import TrafficLens.Instant.Basic
import TrafficLens.Text.Blank

/-!
# The text of instants

Instants are written in the form `2024-03-01T10:15:00.5Z`, in UTC. The fraction has three, six or
nine digits, the fewest that say everything, and is left out when it is zero; a year outside the
range of four digits has a sign, and a leap second is written as second sixty.

Reading is more liberal. The date and the time may be joined by `T`, `t` or a blank, blanks may
stand around the parts, numbers may be shorter than usual, a year with a sign may be longer, and
digits of a fraction after the ninth are dropped. The offset is `Z`, `z`, `UTC` in any case, or
hours and minutes with a sign.
-/

namespace TrafficLens.Instant

/-- A number with at least so many digits. -/
def padded (width n : Nat) : List Char :=
  let ds := Nat.toDigits 10 n
  List.replicate (width - ds.length) '0' ++ ds

/-- The text of a year. -/
def yearText (y : Int) : List Char :=
  if 0 ≤ y ∧ y ≤ 9999 then padded 4 y.toNat
  else (if y < 0 then '-' else '+') :: padded 4 y.natAbs

/-- The text of a fraction of a second in nanoseconds. -/
def fractionText (n : Nat) : List Char :=
  if n = 0 then []
  else if n % 1000000 = 0 then '.' :: padded 3 (n / 1000000)
  else if n % 1000 = 0 then '.' :: padded 6 (n / 1000)
  else '.' :: padded 9 n

/-- The text of an instant. -/
def toText (t : Instant) : String :=
  let days := t.seconds.fdiv secondsPerDay
  let ofDay := (t.seconds - days * secondsPerDay).toNat
  let date := Date.ofDays days
  let leap := decide (nanosPerSecond ≤ t.nanos)
  let second := ofDay % 60 + (if leap then 1 else 0)
  let fraction := if leap then t.nanos - nanosPerSecond else t.nanos
  String.ofList
    (yearText date.year ++ '-' :: padded 2 date.month ++ '-' :: padded 2 date.day ++
      'T' :: padded 2 (ofDay / 3600) ++ ':' :: padded 2 (ofDay / 60 % 60) ++
      ':' :: padded 2 second ++ fractionText fraction ++ ['Z'])

/-! ## Reading -/

/-- The text behind blanks. -/
def skip (cs : List Char) : List Char := Text.trimStartChars cs

/-- The value of a sequence of digits. -/
def digitsValue (ds : List Char) : Nat := ds.foldl (fun n c => n * 10 + (c.toNat - 48)) 0

/-- Read at most `most` digits, and at least one. -/
def number? (most : Nat) (cs : List Char) : Option (Nat × List Char) :=
  let ds := (cs.take most).takeWhile Char.isDigit
  if ds.isEmpty then none else some (digitsValue ds, cs.drop ds.length)

/-- Read a number of at most two digits that lies in a range, behind blanks. -/
def field? (least most : Nat) (cs : List Char) : Option (Nat × List Char) := do
  let (n, rest) ← number? 2 (skip cs)
  if least ≤ n ∧ n ≤ most then pure (n, rest) else none

/-- Read a year. -/
def year? (cs : List Char) : Option (Int × List Char) :=
  match skip cs with
  | '-' :: r => (number? r.length r).map fun p => (-(p.1 : Int), p.2)
  | '+' :: r => (number? r.length r).map fun p => ((p.1 : Int), p.2)
  | r => (number? 4 r).map fun p => ((p.1 : Int), p.2)

/-- Read one character behind blanks. -/
def mark? (c : Char) (cs : List Char) : Option (List Char) :=
  match skip cs with
  | d :: r => if d = c then some r else none
  | [] => none

/-- Read the fraction of a second, if there is one. -/
def fraction? (cs : List Char) : Option (Nat × List Char) :=
  match cs with
  | '.' :: r => do
    let (n, rest) ← number? 9 r
    let used := r.length - rest.length
    pure (n * Nat.pow 10 (9 - used), rest.dropWhile Char.isDigit)
  | _ => some (0, cs)

/-- The value of a digit. -/
def digit? (c : Char) : Option Nat := if c.isDigit then some (c.toNat - 48) else none

/-- Two digits. -/
def twoDigits? : List Char → Option (Nat × List Char)
  | a :: b :: rest => do
    let a ← digit? a
    let b ← digit? b
    pure (a * 10 + b, rest)
  | _ => none

/-- Read hours and minutes of an offset behind its sign, in seconds. -/
def offsetTime? (cs : List Char) : Option (Nat × List Char) := do
  let (hours, rest) ← twoDigits? cs
  let (minutes, rest) ← twoDigits? (rest.dropWhile fun c => c == ':' || Text.isBlank c)
  if minutes < 60 then pure (hours * 3600 + minutes * 60, rest) else none

/-- Read an offset from UTC, in seconds. -/
def offset? (cs : List Char) : Option (Int × List Char) :=
  if (cs.take 3).map Char.toUpper = ['U', 'T', 'C'] then some (0, cs.drop 3)
  else
    match cs with
    | 'Z' :: r => some (0, r)
    | 'z' :: r => some (0, r)
    | '+' :: r => (offsetTime? r).map fun p => ((p.1 : Int), p.2)
    | '-' :: r => (offsetTime? r).map fun p => (-(p.1 : Int), p.2)
    | '\u2212' :: r => (offsetTime? r).map fun p => (-(p.1 : Int), p.2)
    | _ => none

/-- The instant of a date and a time of day with an offset, if it lies in the range of years. -/
def ofParts? (date : Date) (hour minute second nanos : Nat) (offset : Int) : Option Instant :=
  if date.isValid ∧ offset.natAbs < 86400 then
    let leap := second == 60
    let ofDay := hour * 3600 + minute * 60 + (if leap then 59 else second)
    let seconds := date.toDays * secondsPerDay + ofDay - offset
    let year := (Date.ofDays (seconds.fdiv secondsPerDay)).year
    if minYear ≤ year ∧ year ≤ maxYear then
      some ⟨seconds, if leap then nanos + nanosPerSecond else nanos⟩
    else none
  else none

/-- Read an instant. -/
def parseChars? (cs : List Char) : Option Instant := do
  let (year, rest) ← year? cs
  let (month, rest) ← (mark? '-' rest).bind (field? 1 12)
  let (day, rest) ← (mark? '-' rest).bind (field? 1 31)
  let rest ←
    match rest with
    | c :: r => if c = 'T' ∨ c = 't' ∨ c = ' ' then some r else none
    | [] => none
  let (hour, rest) ← field? 0 23 rest
  let (minute, rest) ← (mark? ':' rest).bind (field? 0 59)
  let (second, rest) ← (mark? ':' rest).bind (field? 0 60)
  let (nanos, rest) ← fraction? rest
  let (offset, rest) ← offset? (skip rest)
  if (skip rest).isEmpty then ofParts? ⟨year, month, day⟩ hour minute second nanos offset else none

/-- Read an instant. -/
def parse? (s : String) : Option Instant := parseChars? s.toList

end TrafficLens.Instant
