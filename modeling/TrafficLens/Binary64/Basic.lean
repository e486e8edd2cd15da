/-!
# Finite binary floating-point numbers of 64 bits

A `Binary64` is a sign and a value `mantissa * 2 ^ exponent` in exact integers. Every finite
number has one normal form here: `exponent` lies between `-1074` and `971`, the mantissa is below
`2 ^ 53`, and it is at least `2 ^ 52` unless the exponent is the least one. Infinities and NaN
have no place in this type, so an operation that would leave the range answers `none`.

The one rounding of the library is `ofRatio`: the nearest number to a quotient of two naturals,
with ties to the even mantissa. Products, quotients and powers of ten are rounded through it, and
so no arithmetic of the machine is involved.
-/

namespace TrafficLens

/-- A finite number `± mantissa * 2 ^ exponent` in normal form. -/
structure Binary64 where
  negative : Bool
  mantissa : Nat
  exponent : Int
deriving DecidableEq, Repr, Inhabited

namespace Binary64

/-- The least exponent. -/
def minExponent : Int := -1074

/-- The greatest exponent. -/
def maxExponent : Int := 971

/-- The first mantissa that no longer fits. -/
def mantissaBound : Nat := Nat.pow 2 53

/-- Zero with the given sign. -/
def zero (negative : Bool) : Binary64 := ⟨negative, 0, minExponent⟩

/-- The quotient `num / den` rounded to an integer, ties to even. -/
def roundDiv (num den : Nat) : Nat :=
  let q := num / den
  let r := num % den
  if 2 * r < den then q
  else if den < 2 * r then q + 1
  else if q % 2 = 0 then q else q + 1

/-- The numerator and denominator of `num / den * 2 ^ (-e)`. -/
def scaled (num den : Nat) (e : Int) : Nat × Nat :=
  if 0 ≤ e then (num, den * Nat.pow 2 e.toNat) else (num * Nat.pow 2 (-e).toNat, den)

/-- The nearest number to `num / den`, or `none` beyond the greatest one. -/
def ofRatio (negative : Bool) (num den : Nat) : Option Binary64 :=
  if num = 0 then some (zero negative) else
  let guess : Int := (Nat.log2 num : Int) - (Nat.log2 den : Int) - 53
  let s := scaled num den guess
  let fitted := if s.1 < mantissaBound * s.2 then guess else guess + 1
  let e := max fitted minExponent
  let t := scaled num den e
  let m := roundDiv t.1 t.2
  let (m, e) := if m = mantissaBound then (m / 2, e + 1) else (m, e)
  if maxExponent < e then none else some ⟨negative, m, if m = 0 then minExponent else e⟩

/-- The nearest number to a natural. -/
def ofNat (n : Nat) : Option Binary64 := ofRatio false n 1

/-- The value as a quotient of two naturals, without its sign. -/
def ratio (x : Binary64) : Nat × Nat :=
  if 0 ≤ x.exponent then (x.mantissa * Nat.pow 2 x.exponent.toNat, 1)
  else (x.mantissa, Nat.pow 2 (-x.exponent).toNat)

/-- The rounded product. -/
def mul (x y : Binary64) : Option Binary64 :=
  let a := x.ratio
  let b := y.ratio
  ofRatio (x.negative != y.negative) (a.1 * b.1) (a.2 * b.2)

/-- The rounded quotient; `none` also for a divisor of zero. -/
def div (x y : Binary64) : Option Binary64 :=
  let a := x.ratio
  let b := y.ratio
  if b.1 = 0 then none else ofRatio (x.negative != y.negative) (a.1 * b.2) (a.2 * b.1)

/-- The nearest number to `10 ^ k`. -/
def pow10 (k : Nat) : Option Binary64 := ofNat (Nat.pow 10 k)

/-- The number with its sign changed. -/
def neg (x : Binary64) : Binary64 := { x with negative := !x.negative }

/-- The nearest number to `± digits * 10 ^ exponent`, in one rounding. -/
def ofDecimal (negative : Bool) (digits : Nat) (exponent : Int) : Option Binary64 :=
  if 0 ≤ exponent then ofRatio negative (digits * Nat.pow 10 exponent.toNat) 1
  else ofRatio negative digits (Nat.pow 10 (-exponent).toNat)

/-- The nearest integer, halves away from zero. -/
def roundAway (x : Binary64) : Int :=
  let a := x.ratio
  let n : Nat := (2 * a.1 + a.2) / (2 * a.2)
  if x.negative then -(n : Int) else n

end Binary64

end TrafficLens
