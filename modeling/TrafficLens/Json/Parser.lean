import TrafficLens.Json.Basic

/-!
# Reading JSON

`Json.parse?` reads a text that holds exactly one value, blanks around it allowed, and
`Json.parsePrefix?` reads the value at the start of a text and also answers what follows it.

* At most `maxDepth` arrays and objects may be open at once. The reader recurses on this budget,
  and so the bound on nesting is also the reason why it ends.
* A key that is repeated in an object keeps its last value.
* An escape that names half of a surrogate pair and a control character in a string are errors.
* A number without fraction and exponent is an integer when it fits in 64 bits, with or without a
  sign; minus zero is no integer. All other numbers are binary ones. `readFloat` says how they are
  rounded: the digits that fit in 64 bits make a whole number, which is rounded, and then scaled by
  powers of ten with one more rounding each. A number beyond the greatest one is an error.
-/

namespace TrafficLens.Json

/-- The number of arrays and objects that may be open at once. -/
def maxDepth : Nat := 127

/-- Blanks between tokens. -/
def isBlank (c : Char) : Bool := c == ' ' || c == '\n' || c == '\t' || c == '\r'

/-- The text after leading blanks. -/
def skipBlanks (cs : List Char) : List Char := cs.dropWhile isBlank

/-! ## Numbers -/

/-- The value of a decimal digit. -/
def digit? (c : Char) : Option Nat := if c.isDigit then some (c.toNat - 48) else none

/-- The least natural that does not fit in 64 bits. -/
def wordBound : Nat := Nat.pow 2 64

/-- The part of a sequence of digits that fits in 64 bits: the number it makes, after `acc`, and
how many digits were left out. Once a digit does not fit, all later ones are left out. -/
def takeDigits (acc : Nat) : List Char → Nat × Nat
  | [] => (acc, 0)
  | c :: cs =>
    let next := acc * 10 + (c.toNat - 48)
    if next < wordBound then takeDigits next cs else (acc, cs.length + 1)

/-- The table of powers of ten ends here. -/
def maxPower : Nat := 308

/-- Scale a number by `10 ^ exponent`. Exponents outside the table are worked off in steps of the
greatest power. -/
def scale (x : Binary64) : (fuel : Nat) → (exponent : Int) → Option Binary64
  | 0, _ => none
  | fuel + 1, exponent =>
    if exponent.natAbs ≤ maxPower then
      match Binary64.pow10 exponent.natAbs with
      | none => none
      | some p => if 0 ≤ exponent then x.mul p else x.div p
    else if x.mantissa = 0 then some x
    else if 0 ≤ exponent then none
    else
      match (Binary64.pow10 maxPower).bind x.div with
      | none => none
      | some y => scale y fuel (exponent + maxPower)

/-- The number with the given integer digits, fraction digits and exponent. -/
def readFloat (negative : Bool) (whole fraction : List Char) (exponent : Int) :
    Option Binary64 := do
  let (m, dropped) := takeDigits 0 whole
  let (m, left) := takeDigits m fraction
  let kept := fraction.length - left
  let x ← Binary64.ofNat m
  -- Every step of `scale` removes more than a thousand binary places, of which there are few.
  let y ← scale x 8 ((dropped : Int) - kept + exponent)
  pure (if negative then y.neg else y)

/-- The digits at the start of a text, and the rest. -/
def digits (cs : List Char) : List Char × List Char := (cs.takeWhile Char.isDigit, cs.dropWhile Char.isDigit)

/-- The value of a sequence of digits. -/
def digitsValue (ds : List Char) : Nat := ds.foldl (fun n c => n * 10 + (c.toNat - 48)) 0

/-- The least exponent that is too large to be read. -/
def exponentBound : Nat := Nat.pow 2 31

/-- Read an exponent after its letter: its value and the rest. -/
def exponent? (cs : List Char) : Option (Int × List Char) :=
  let (negative, cs) :=
    match cs with
    | '+' :: r => (false, r)
    | '-' :: r => (true, r)
    | _ => (false, cs)
  match digits cs with
  | ([], _) => none
  | (ds, rest) => some (if negative then -(digitsValue ds : Int) else digitsValue ds, rest)

/-- The number with the given parts, once it is known to have a fraction or an exponent. -/
def floatOf (negative : Bool) (whole fraction : List Char) (exponent : Int) : Option Json :=
  if exponentBound ≤ exponent.natAbs then
    if 0 < exponent ∧ (takeDigits (takeDigits 0 whole).1 fraction).1 ≠ 0 then none
    else some (.number (.float (Binary64.zero negative)))
  else (readFloat negative whole fraction exponent).map fun x => .number (.float x)

/-- The number with the given digits and neither fraction nor exponent. -/
def integerOf (negative : Bool) (whole : List Char) : Option Json :=
  let n := digitsValue whole
  if negative then
    if 0 < n ∧ n ≤ Nat.pow 2 63 then some (.int (-(n : Int)))
    else floatOf true whole [] 0
  else if n < wordBound then some (.nat n)
  else floatOf false whole [] 0

/-- The digits before the point, and the rest. A zero stands alone. -/
def whole? : List Char → Option (List Char × List Char)
  | '0' :: r =>
    match r with
    | c :: _ => if c.isDigit then none else some (['0'], r)
    | [] => some (['0'], r)
  | cs =>
    match digits cs with
    | ([], _) => none
    | parts => some parts

/-- The digits after a point, if there is one, and the rest. -/
def fraction? : List Char → Option (Option (List Char) × List Char)
  | '.' :: r =>
    match digits r with
    | ([], _) => none
    | (ds, r) => some (some ds, r)
  | cs => some (none, cs)

/-- The exponent after its letter, if there is one, and the rest. -/
def power? : List Char → Option (Option Int × List Char)
  | [] => some (none, [])
  | c :: r =>
    if c = 'e' ∨ c = 'E' then (exponent? r).map fun p => (some p.1, p.2) else some (none, c :: r)

/-- Read a number after its sign: its value and the rest. -/
def unsigned? (negative : Bool) (cs : List Char) : Option (Json × List Char) := do
  let (whole, rest) ← whole? cs
  let (fraction, rest) ← fraction? rest
  let (exponent, rest) ← power? rest
  match fraction, exponent with
  | none, none => (integerOf negative whole).map (·, rest)
  | _, _ => (floatOf negative whole (fraction.getD []) (exponent.getD 0)).map (·, rest)

/-- Read a number: its value and the rest. -/
def number? : List Char → Option (Json × List Char)
  | '-' :: r => unsigned? true r
  | cs => unsigned? false cs

/-! ## Strings -/

/-- The value of a hexadecimal digit. -/
def hexDigit? (c : Char) : Option Nat :=
  if c.isDigit then some (c.toNat - 48)
  else if 'a' ≤ c ∧ c ≤ 'f' then some (c.toNat - 87)
  else if 'A' ≤ c ∧ c ≤ 'F' then some (c.toNat - 55)
  else none

/-- Four hexadecimal digits at the start of a text, and the rest. -/
def hex4? : List Char → Option (Nat × List Char)
  | a :: b :: c :: d :: rest => do
    let a ← hexDigit? a
    let b ← hexDigit? b
    let c ← hexDigit? c
    let d ← hexDigit? d
    pure (((a * 16 + b) * 16 + c) * 16 + d, rest)
  | _ => none

/-- Read an escape after its backslash: the character and the rest. -/
def escape? : List Char → Option (Char × List Char)
  | '"' :: r => some ('"', r)
  | '\\' :: r => some ('\\', r)
  | '/' :: r => some ('/', r)
  | 'b' :: r => some (Char.ofNat 8, r)
  | 'f' :: r => some (Char.ofNat 12, r)
  | 'n' :: r => some ('\n', r)
  | 'r' :: r => some ('\r', r)
  | 't' :: r => some ('\t', r)
  | 'u' :: r => do
    let (n, rest) ← hex4? r
    if 0xDC00 ≤ n ∧ n ≤ 0xDFFF then none
    else if 0xD800 ≤ n ∧ n ≤ 0xDBFF then
      match rest with
      | '\\' :: 'u' :: r => do
        let (low, rest) ← hex4? r
        if 0xDC00 ≤ low ∧ low ≤ 0xDFFF then
          some (Char.ofNat (0x10000 + (n - 0xD800) * 1024 + (low - 0xDC00)), rest)
        else none
      | _ => none
    else some (Char.ofNat n, rest)
  | _ => none

/-- Read the characters of a string after the opening quote. The fuel bounds their number. -/
def stringBody? : (fuel : Nat) → List Char → Option (List Char × List Char)
  | 0, _ => none
  | _ + 1, [] => none
  | fuel + 1, c :: cs =>
    if c = '"' then some ([], cs)
    else if c = '\\' then do
      let (d, rest) ← escape? cs
      let (ds, rest) ← stringBody? fuel rest
      pure (d :: ds, rest)
    else if c.toNat < 32 then none
    else do
      let (ds, rest) ← stringBody? fuel cs
      pure (c :: ds, rest)

/-- Read a string after the opening quote. -/
def string1? (cs : List Char) : Option (String × List Char) :=
  (stringBody? (cs.length + 1) cs).map fun p => (String.ofList p.1, p.2)

/-! ## Values -/

/-- A reader of one thing at the start of a text. -/
abbrev Reader (α : Type) : Type := List Char → Option (α × List Char)

/-- Read the items of an array that is not empty, and its closing bracket. -/
def items1? (value : Reader Json) : (fuel : Nat) → Reader (List Json)
  | 0, _ => none
  | fuel + 1, cs => do
    let (x, rest) ← value (skipBlanks cs)
    match skipBlanks rest with
    | ',' :: r => do
      let (xs, rest) ← items1? value fuel r
      pure (x :: xs, rest)
    | ']' :: r => some ([x], r)
    | _ => none

/-- Read the members of an object that is not empty, in source order, and its closing brace. -/
def members1? (value : Reader Json) : (fuel : Nat) → Reader (List (String × Json))
  | 0, _ => none
  | fuel + 1, cs => do
    match skipBlanks cs with
    | '"' :: r => do
      let (key, rest) ← string1? r
      match skipBlanks rest with
      | ':' :: r => do
        let (x, rest) ← value (skipBlanks r)
        match skipBlanks rest with
        | ',' :: r => do
          let (ms, rest) ← members1? value fuel r
          pure ((key, x) :: ms, rest)
        | '\x7d' :: r => some ([(key, x)], r)
        | _ => none
      | _ => none
    | _ => none

/-- Read a value that is neither an array nor an object. -/
def scalar? : Reader Json
  | 'n' :: 'u' :: 'l' :: 'l' :: r => some (.null, r)
  | 't' :: 'r' :: 'u' :: 'e' :: r => some (.bool true, r)
  | 'f' :: 'a' :: 'l' :: 's' :: 'e' :: r => some (.bool false, r)
  | '"' :: r => (string1? r).map fun p => (.string p.1, p.2)
  | cs => number? cs

/-- Read a value in which at most `depth` arrays and objects are open at once. -/
def value? : (depth : Nat) → Reader Json
  | depth, '[' :: r =>
    match depth with
    | 0 => none
    | d + 1 =>
      match skipBlanks r with
      | ']' :: rest => some (.array [], rest)
      | body => (items1? (value? d) (body.length + 1) body).map fun p => (.array p.1, p.2)
  | depth, '\x7b' :: r =>
    match depth with
    | 0 => none
    | d + 1 =>
      match skipBlanks r with
      | '\x7d' :: rest => some (.object [], rest)
      | body =>
        (members1? (value? d) (body.length + 1) body).map fun p => (ofEntries p.1, p.2)
  | _, cs => scalar? cs

/-- Read the value at the start of a text, after blanks: the value and what follows it. -/
def parsePrefix? (s : String) : Option (Json × List Char) := value? maxDepth (skipBlanks s.toList)

/-- Read a text with at most `depth` levels of nesting that holds exactly one value. -/
def parseWithin? (depth : Nat) (s : String) : Option Json :=
  match value? depth (skipBlanks s.toList) with
  | some (v, rest) => if (skipBlanks rest).isEmpty then some v else none
  | none => none

/-- Read a text that holds exactly one value. -/
def parse? (s : String) : Option Json := parseWithin? maxDepth s

end TrafficLens.Json
