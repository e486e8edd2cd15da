import TrafficLens.Pattern.Property

/-!
# Lower case

The lower-case form of a character is mostly the one that it folds to when case does not matter.
The exceptions are small letters that fold to others (a long s folds to an s), Cherokee, whose
letters fold to capitals, and the capital i with a dot, whose small form is two characters.
-/

namespace TrafficLens.Text

/-- Small letters that fold to other letters. -/
def foldingSmall : List (Nat × Nat) :=
  [(0xB5, 0xB5), (0x17F, 0x17F), (0x345, 0x345), (0x3C2, 0x3C2), (0x3D0, 0x3D1), (0x3D5, 0x3D6),
   (0x3F0, 0x3F1), (0x3F5, 0x3F5), (0x13F8, 0x13FD), (0x1C80, 0x1C88), (0x1E9B, 0x1E9B),
   (0x1FBE, 0x1FBE), (0x1FD3, 0x1FD3), (0x1FE3, 0x1FE3), (0xAB70, 0xABBF), (0xFB05, 0xFB05)]

/-- The lower-case form of a character, by code points. -/
def lowerCodes (n : Nat) : List Nat :=
  if n = 0x130 then [0x69, 0x307]
  else if 0x13A0 ≤ n ∧ n ≤ 0x13EF then [n + 0x97D0]
  else if 0x13F0 ≤ n ∧ n ≤ 0x13F5 then [n + 8]
  else if Pattern.inRanges foldingSmall n then [n]
  else [Pattern.foldCase n]

/-- The lower-case form of a character. -/
def lowerChar (c : Char) : List Char :=
  if c.toNat < 128 then [c.toLower] else (lowerCodes c.toNat).map Char.ofNat

/-- The lower-case form of a text. -/
def lowercase (s : String) : String := String.ofList (s.toList.flatMap lowerChar)

end TrafficLens.Text
