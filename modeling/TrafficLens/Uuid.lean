import TrafficLens.Json.Parser

/-!
# Universally unique identifiers

A `Uuid` is a number of 128 bits. It is written as thirty-two hexadecimal digits in lower case, in
groups of eight, four, four, four and twelve, with hyphens between the groups. Four forms are read: that one,
the digits alone, the first form in braces and the first form after `urn:uuid:`. Letters of either
case are accepted everywhere.
-/

namespace TrafficLens

/-- An identifier of 128 bits. -/
structure Uuid where
  value : Fin (Nat.pow 2 128)
deriving DecidableEq, Inhabited

namespace Uuid

instance : Ord Uuid := ⟨fun a b => compare a.value.val b.value.val⟩

/-- The identifier with all bits zero. -/
def nil : Uuid := ⟨⟨0, by decide⟩⟩

/-- The identifier with the given number, modulo `2 ^ 128`. -/
def ofNat (n : Nat) : Uuid := ⟨⟨n % Nat.pow 2 128, Nat.mod_lt _ (by decide)⟩⟩

/-- The lowest `count` hexadecimal digits of a number, the highest of them first. -/
def hexDigits : (count : Nat) → Nat → List Char
  | 0, _ => []
  | count + 1, n => hexDigits count (n / 16) ++ [Nat.digitChar (n % 16)]

/-- The hyphenated text, in lower case. -/
def toText (u : Uuid) : String :=
  let ds := hexDigits 32 u.value.val
  let group := fun (start len : Nat) => (ds.drop start).take len
  String.ofList
    (group 0 8 ++ '-' :: group 8 4 ++ '-' :: group 12 4 ++ '-' :: group 16 4 ++ '-' :: group 20 12)

/-- The number of a sequence of hexadecimal digits. -/
def hexValue? (ds : List Char) : Option Nat :=
  ds.foldlM (fun n c => (Json.hexDigit? c).map (n * 16 + ·)) 0

/-- Read thirty-two digits. -/
def ofDigits? (ds : List Char) : Option Uuid :=
  if ds.length = 32 then (hexValue? ds).map ofNat else none

/-- Read the hyphenated form. -/
def ofHyphenated? (cs : List Char) : Option Uuid :=
  let at? := fun (i : Nat) => (cs.drop i).head? == some '-'
  if cs.length = 36 && at? 8 && at? 13 && at? 18 && at? 23 then
    let group := fun (start len : Nat) => (cs.drop start).take len
    ofDigits? (group 0 8 ++ group 9 4 ++ group 14 4 ++ group 19 4 ++ group 24 12)
  else none

/-- Read any of the four forms. -/
def parseChars? (cs : List Char) : Option Uuid :=
  match cs.length with
  | 32 => ofDigits? cs
  | 36 => ofHyphenated? cs
  | 38 =>
    match cs with
    | '\x7b' :: rest =>
      if rest.getLast? = some '\x7d' then ofHyphenated? rest.dropLast else none
    | _ => none
  | 45 =>
    if (cs.take 9).map Char.toLower = "urn:uuid:".toList then ofHyphenated? (cs.drop 9) else none
  | _ => none

/-- Read any of the four forms. -/
def parse? (s : String) : Option Uuid := parseChars? s.toList

end Uuid

end TrafficLens
