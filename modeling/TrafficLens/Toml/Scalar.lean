import TrafficLens.Binary64.Shortest
import TrafficLens.Instant.Text
import TrafficLens.Toml.Text

/-!
# Numbers and times of a TOML document

Integers have 64 bits with a sign and are written in decimal, or with a letter for the base in
hexadecimal, octal or binary. Underscores may stand between digits. Numbers that are no integers have
a fraction or an exponent, or are infinite, or no number at all; the latter two are kept as texts.
Dates, times of the day and both together, with or without an offset, are kept as texts in one form.
-/

namespace TrafficLens.Toml

open Json (Reader)

/-! ## Numbers -/

/-- Digits with single underscores between them: the digits, and the rest. There is at least one
digit. -/
def digits? (isDigit : Char → Bool) (cs : List Char) : Option (List Char × List Char) :=
  match cs with
  | [] => none
  | c :: cs => if isDigit c then some (more c cs) else none
where
  /-- The digits that follow a digit. -/
  more (c : Char) : List Char → List Char × List Char
    | '_' :: d :: rest =>
      if isDigit d then let (ds, rest) := more d rest; (c :: ds, rest) else ([c], '_' :: d :: rest)
    | d :: rest =>
      if isDigit d then let (ds, rest) := more d rest; (c :: ds, rest) else ([c], d :: rest)
    | [] => ([c], [])

/-- An integer that fits in 64 bits with a sign. -/
def integer64? (n : Int) : Option Json :=
  if -(Nat.pow 2 63 : Int) ≤ n ∧ n < Nat.pow 2 63 then some (.int n) else none

/-- Read an integer after the letter of its base. -/
def based? (base : Nat) (cs : List Char) : Option (Json × List Char) := do
  let isDigit := fun (c : Char) => (Json.hexDigit? c).any (· < base)
  let (ds, rest) ← digits? isDigit cs
  let n := ds.foldl (fun n c => n * base + (Json.hexDigit? c).getD 0) 0
  pure (← integer64? n, rest)

/-- A sign, and the rest. -/
def sign : List Char → Bool × List Char
  | '-' :: rest => (true, rest)
  | '+' :: rest => (false, rest)
  | cs => (false, cs)

/-- The digits of a decimal integer without its sign. It does not begin with a zero unless it is
zero. -/
def whole? (cs : List Char) : Option (List Char × List Char) :=
  match cs with
  | '0' :: rest => some (['0'], rest)
  | _ => digits? Char.isDigit cs

/-- Read an exponent, if there is one. -/
def exponent? (cs : List Char) : Option (Option Int × List Char) :=
  match cs with
  | c :: rest =>
    if c = 'e' ∨ c = 'E' then do
      let (negative, rest) := sign rest
      let (ds, rest) ← digits? Char.isDigit rest
      let n : Int := Json.digitsValue ds
      pure (some (if negative then -n else n), rest)
    else some (none, cs)
  | [] => some (none, [])

/-- The number with given digits. One that is too large is refused, or negative infinity. -/
def float? (negative : Bool) (whole fraction : List Char) (exponent : Int) : Option Json :=
  let n := Json.digitsValue (whole ++ fraction)
  let e := exponent - fraction.length
  let size := e + (Binary64.digitCount n : Int)
  if n = 0 ∨ size < -400 then some (.number (.float (Binary64.zero negative)))
  else
    match if 400 < size then none else Binary64.ofDecimal negative n e with
    | some x => some (.number (.float x))
    | none => if negative then some (.string "-inf") else none

/-- Read a number that is neither finite nor an integer, after its sign. -/
def special? (negative : Bool) : Reader Json
  | 'i' :: 'n' :: 'f' :: rest => some (.string (if negative then "-inf" else "inf"), rest)
  | 'n' :: 'a' :: 'n' :: rest => some (.string "NaN", rest)
  | _ => none

/-- Read a decimal number. -/
def decimal? (cs : List Char) : Option (Json × List Char) :=
  let (negative, body) := sign cs
  match special? negative body with
  | some r => some r
  | none => do
    let (whole, rest) ← whole? body
    match rest with
    | '.' :: r => do
      let (fraction, rest) ← digits? Char.isDigit r
      let (exponent, rest) ← exponent? rest
      pure (← float? negative whole fraction (exponent.getD 0), rest)
    | _ =>
      match ← exponent? rest with
      | (some e, rest) => do pure (← float? negative whole [] e, rest)
      | (none, rest) => do
        let n : Int := Json.digitsValue whole
        pure (← integer64? (if negative then -n else n), rest)

/-- Read a number. -/
def number? : Reader Json
  | '0' :: 'x' :: rest => based? 16 rest
  | '0' :: 'o' :: rest => based? 8 rest
  | '0' :: 'b' :: rest => based? 2 rest
  | cs => decimal? cs

/-! ## Times -/

/-- Read so many digits as a number between two bounds. -/
def field? (width least most : Nat) (cs : List Char) : Option (Nat × List Char) :=
  let ds := cs.take width
  let n := Json.digitsValue ds
  if ds.length = width ∧ ds.all Char.isDigit ∧ least ≤ n ∧ n ≤ most then some (n, cs.drop width)
  else none

/-- Read one character. -/
def mark? (c : Char) : List Char → Option (List Char)
  | d :: rest => if c = d then some rest else none
  | [] => none

/-- A number in two digits. -/
def two (n : Nat) : String := String.ofList (Instant.padded 2 n)

/-- Read a date, and write it. -/
def date? (cs : List Char) : Option (String × List Char) := do
  let (year, cs) ← field? 4 0 9999 cs
  let cs ← mark? '-' cs
  let (month, cs) ← field? 2 1 12 cs
  let cs ← mark? '-' cs
  let (day, cs) ← field? 2 1 (Instant.daysInMonth year month) cs
  pure (String.ofList (Instant.padded 4 year) ++ "-" ++ two month ++ "-" ++ two day, cs)

/-- Read the fraction of a second, if there is one, and write it with at most nine digits and no
zeros at the end. -/
def fraction? (cs : List Char) : Option (String × List Char) :=
  match cs with
  | '.' :: rest =>
    let ds := rest.takeWhile Char.isDigit
    if ds.isEmpty then none
    else
      let kept := ((ds.take 9).reverse.dropWhile (· == '0')).reverse
      let text := if kept.isEmpty then "" else String.ofList ('.' :: kept)
      some (text, rest.dropWhile Char.isDigit)
  | _ => some ("", cs)

/-- Read a time of the day, and write it. -/
def time? (cs : List Char) : Option (String × List Char) := do
  let (hour, cs) ← field? 2 0 23 cs
  let cs ← mark? ':' cs
  let (minute, cs) ← field? 2 0 59 cs
  let cs ← mark? ':' cs
  let (second, cs) ← field? 2 0 60 cs
  let (fraction, cs) ← fraction? cs
  pure (two hour ++ ":" ++ two minute ++ ":" ++ two second ++ fraction, cs)

/-- Read an offset, if there is one, and write it. -/
def offset? (cs : List Char) : Option (String × List Char) :=
  match cs with
  | c :: rest =>
    if c = 'Z' ∨ c = 'z' then some ("Z", rest)
    else if c = '+' ∨ c = '-' then do
      let (hour, rest) ← field? 2 0 23 rest
      let rest ← mark? ':' rest
      let (minute, rest) ← field? 2 0 59 rest
      let sign := if c = '-' ∧ hour + minute ≠ 0 then "-" else "+"
      pure (sign ++ two hour ++ ":" ++ two minute, rest)
    else some ("", cs)
  | [] => some ("", [])

/-- Read a date with or without a time, or a time alone. -/
def moment? (cs : List Char) : Option (Json × List Char) :=
  match date? cs with
  | some (date, rest) =>
    let later :=
      match rest with
      | c :: r => if c = 'T' ∨ c = 't' ∨ c = ' ' then time? r else none
      | [] => none
    match later with
    | some (time, rest) =>
      (offset? rest).map fun p => (.string (date ++ "T" ++ time ++ p.1), p.2)
    | none => some (.string date, rest)
  | none => (time? cs).map fun p => (.string p.1, p.2)

end TrafficLens.Toml
