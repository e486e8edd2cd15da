import TrafficLens.Binary64.Shortest
import TrafficLens.Settings.Basic
import TrafficLens.Settings.Layer
import TrafficLens.Toml.Parser

/-!
# Reading settings

Settings are read from a file in TOML and from the environment, whose variables win. A setting need
not be of its own kind: single values are converted, so that the number of a port may be given as a
text, as every variable of the environment is.
-/

namespace TrafficLens

namespace Binary64

/-- The text of a number without an exponent. A point stands only before a fraction. -/
def toPlainText (x : Binary64) : String :=
  let (n, k) := x.shortest
  let digits := Nat.toDigits 10 n
  let whole := digits.length - (-k).toNat
  let body :=
    if 0 ≤ k then digits ++ List.replicate k.toNat '0'
    else if 0 < whole then digits.take whole ++ '.' :: digits.drop whole
    else '0' :: '.' :: (List.replicate ((-k).toNat - digits.length) '0' ++ digits)
  String.ofList (if x.negative then '-' :: body else body)

end Binary64

namespace ScalarReader

/-- A word for a truth value, in any case. -/
def truthWord? (s : String) : Option Bool :=
  match s.toLower with
  | "true" | "on" | "yes" => some true
  | "false" | "off" | "no" => some false
  | _ => none

/-- The number of a sequence of digits that is not empty. -/
def digits? (cs : List Char) : Option Nat :=
  if cs.isEmpty || !cs.all Char.isDigit then none else some (Json.digitsValue cs)

/-- A number without a sign, or with a plus sign. -/
def unsigned? (s : String) : Option Nat :=
  match s.toList with
  | '+' :: cs => digits? cs
  | cs => digits? cs

/-- A number with or without a sign. -/
def signed? (s : String) : Option Int :=
  match s.toList with
  | '-' :: cs => (digits? cs).map fun n => -(n : Int)
  | _ => (unsigned? s).map Int.ofNat

/-- Read a text; numbers and truth values are written out. -/
def convertText : Json → Option String
  | .string s => some s
  | .bool b => some (if b then "true" else "false")
  | .number (.int n) => some (toString n)
  | .number (.float x) => some x.toPlainText
  | _ => none

/-- Read a truth value: a word, a digit for it, or any number, of which only zero is false. -/
def convertTruth : Json → Option Bool
  | .bool b => some b
  | .number (.int n) => some (n != 0)
  | .number (.float x) => some (x.mantissa != 0)
  | .string "1" => some true
  | .string "0" => some false
  | .string s => truthWord? s
  | _ => none

/-- Read an integer between two bounds. Truth values count as zero and one, numbers with a fraction
are rounded and then brought between the bounds, and texts are read as numbers or as words for
truth values. -/
def convertInt (least greatest : Int) (ofText : String → Option Int) : Json → Option Int
  | .number (.int n) => inRange n
  | .number (.float x) => some (max least (min greatest x.roundAway))
  | .bool b => some (if b then 1 else 0)
  | .string s =>
    match truthWord? s with
    | some b => some (if b then 1 else 0)
    | none => (ofText s).bind inRange
  | _ => none
where
  /-- The number, if it lies between the bounds. -/
  inRange (n : Int) : Option Int := if least ≤ n ∧ n ≤ greatest then some n else none

/-- Read a natural that fits in so many bits, by way of one that fits in 64. -/
def convertNatural (bits : Nat) (v : Json) : Option Nat := do
  let n ← convertInt 0 (Nat.pow 2 64 - 1 : Int) (fun s => (unsigned? s).map Int.ofNat) v
  if n < Nat.pow 2 bits then some n.toNat else none

/-- Read an integer with a sign that fits in so many bits, by way of one that fits in 64. -/
def convertInteger (bits : Nat) (v : Json) : Option Int := do
  let n ← convertInt (-(Nat.pow 2 63 : Int)) (Nat.pow 2 63 - 1 : Int) signed? v
  if -(Nat.pow 2 (bits - 1) : Int) ≤ n ∧ n < Nat.pow 2 (bits - 1) then some n else none

/-- Values are converted from one kind to another. -/
def converting : ScalarReader where
  text := convertText
  truth := convertTruth
  natural := convertNatural
  integer := convertInteger

end ScalarReader

namespace Settings

/-- Read settings from a text in TOML and from variables of the environment. -/
def read (toml : String) (environment : List (String × String)) :
    Except Failure Settings :=
  let settings := do
    let file ← Toml.parse? toml
    ofJson? .converting (ofLayers [file.members?.getD [], ofEnvironment environment])
  match settings with
  | some s => .ok s
  | none => .error .settings

end Settings

end TrafficLens
