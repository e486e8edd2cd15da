/-!
# Blank characters

The characters of the property `White_Space`, which is what is trimmed off texts and what a
pattern calls a space. There are twenty-five of them, in ten runs.
-/

namespace TrafficLens.Text

/-- The runs of characters with the property `White_Space`, by code point. -/
def blankRanges : List (Nat × Nat) :=
  [(0x9, 0xD), (0x20, 0x20), (0x85, 0x85), (0xA0, 0xA0), (0x1680, 0x1680), (0x2000, 0x200A),
   (0x2028, 0x2029), (0x202F, 0x202F), (0x205F, 0x205F), (0x3000, 0x3000)]

/-- Is the character blank? -/
def isBlank (c : Char) : Bool := blankRanges.any fun r => r.1 ≤ c.toNat && c.toNat ≤ r.2

/-- The text without blanks at its start. -/
def trimStartChars (cs : List Char) : List Char := cs.dropWhile isBlank

/-- The text without blanks at either end. -/
def trim (s : String) : String :=
  String.ofList (trimStartChars (trimStartChars s.toList).reverse).reverse

end TrafficLens.Text
