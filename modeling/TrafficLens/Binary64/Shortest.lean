import TrafficLens.Binary64.Basic

/-!
# Shortest decimal text of a binary number

`shortest` answers the fewest decimal digits that read back as the same number, and of those the
digits nearest to it. It looks at the decimal grids of one digit, two digits and so on: on each
grid only the two neighbours of the number can be the answer, and seventeen digits always suffice.

`toText` lays these digits out in the way the library writes every number that is no integer:
positional between `1e-5` and `1e16`, with a `.0` when nothing follows the point, and scientific
with a signed exponent outside that range.
-/

namespace TrafficLens.Binary64

/-- The number of decimal digits; zero has none. -/
def digitCount (n : Nat) : Nat := if n = 0 then 0 else (Nat.toDigits 10 n).length

/-- The decimal exponent of a positive quotient: the greatest `p` with `10 ^ p ≤ num / den`. -/
def decimalExponent (num den : Nat) : Int :=
  if den ≤ num then (digitCount (num / den) : Int) - 1
  else -(digitCount ((den + num - 1) / num - 1) : Int)

/-- Does `n * 10 ^ k` read back as the number `m * 2 ^ e`? The interval of such numbers reaches
halfway to each neighbour; its ends belong to it when `m` is even. -/
def readsBack (m : Nat) (e : Int) (n : Nat) (k : Int) : Bool :=
  let narrow := m = Nat.pow 2 52 ∧ minExponent < e
  let lowerNum := if narrow then 4 * m - 1 else 4 * m - 2
  let upperNum := 4 * m + 2
  -- Compare `n * 10 ^ k` with `a / 4 * 2 ^ e` after clearing denominators.
  let left := 4 * n * Nat.pow 10 k.toNat * Nat.pow 2 (-e).toNat
  let right := fun (a : Nat) => a * Nat.pow 2 e.toNat * Nat.pow 10 (-k).toNat
  if m % 2 = 0 then decide (right lowerNum ≤ left ∧ left ≤ right upperNum)
  else decide (right lowerNum < left ∧ left < right upperNum)

/-- The best point of the grid of multiples of `10 ^ k`, if one of the two neighbours of the
number on it reads back: the nearer one, and the even one of two equally near. -/
def onGrid (m : Nat) (e : Int) (k : Int) : Option Nat :=
  let num := m * Nat.pow 2 e.toNat * Nat.pow 10 (-k).toNat
  let den := Nat.pow 2 (-e).toNat * Nat.pow 10 k.toNat
  let lo := num / den
  let hi := lo + 1
  let loOk := decide (lo ≠ 0) && readsBack m e lo k
  let hiOk := readsBack m e hi k
  if loOk && hiOk then
    let r := num % den
    if 2 * r < den then some lo
    else if den < 2 * r then some hi
    else if lo % 2 = 0 then some lo else some hi
  else if loOk then some lo
  else if hiOk then some hi
  else none

/-- Drop trailing zeros, raising the exponent. The fuel bounds the number of digits. -/
def stripZeros : Nat → Nat → Int → Nat × Int
  | 0, n, k => (n, k)
  | fuel + 1, n, k => if n ≠ 0 ∧ n % 10 = 0 then stripZeros fuel (n / 10) (k + 1) else (n, k)

/-- Try the grids with `d` digits, one more digit at a time. -/
def firstGrid (m : Nat) (e : Int) (p : Int) : (fuel : Nat) → (d : Nat) → Nat × Int
  | 0, d =>
    (m * Nat.pow 2 e.toNat * Nat.pow 10 (d - 1 - p).toNat / Nat.pow 2 (-e).toNat, p - d + 1)
  | fuel + 1, d =>
    match onGrid m e (p - d + 1) with
    | some n => stripZeros 20 n (p - d + 1)
    | none => firstGrid m e p fuel (d + 1)

/-- The shortest decimal `n * 10 ^ k` that reads back as the number, without its sign. -/
def shortest (x : Binary64) : Nat × Int :=
  if x.mantissa = 0 then (0, 0) else
  let r := x.ratio
  firstGrid x.mantissa x.exponent (decimalExponent r.1 r.2) 17 1

/-- Lay out the digits `n * 10 ^ k` of a positive number. -/
def layOut (n : Nat) (k : Int) : String :=
  let digits := Nat.toDigits 10 n
  let point : Int := digits.length + k
  if 0 ≤ k ∧ point ≤ 16 then
    String.ofList (digits ++ List.replicate k.toNat '0' ++ ['.', '0'])
  else if 0 < point ∧ point ≤ 16 then
    String.ofList (digits.take point.toNat ++ '.' :: digits.drop point.toNat)
  else if -5 < point ∧ point ≤ 0 then
    String.ofList ('0' :: '.' :: List.replicate (-point).toNat '0' ++ digits)
  else
    let exponent := point - 1
    let tail := digits.drop 1
    let mantissa := digits.take 1 ++ (if tail.isEmpty then [] else '.' :: tail)
    let sign := if exponent < 0 then '-' else '+'
    String.ofList (mantissa ++ 'e' :: sign :: Nat.toDigits 10 exponent.natAbs)

/-- The text of a number: the shortest digits that read back, laid out. -/
def toText (x : Binary64) : String :=
  let body := if x.mantissa = 0 then "0.0" else let s := x.shortest; layOut s.1 s.2
  if x.negative then "-" ++ body else body

end TrafficLens.Binary64
