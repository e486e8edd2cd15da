import TrafficLens.Pattern.Property

/-!
# Patterns

A pattern describes a set of texts. It is built from classes of characters (`CharSet`),
assertions about the place between two characters (`Look`) and the usual combinators: one after
another, one or the other, and repetition. Alternatives and repetitions are *ordered*: of two ways
to match, the first alternative is preferred, and a greedy repetition prefers one more round while
a lazy one prefers to stop. `TrafficLens.Pattern.Matcher` gives this order its meaning.

A repetition `rep r least extra greedy` asks for `least` rounds and allows `extra` more, any number
if `extra` is `none`.
-/

namespace TrafficLens.Pattern

/-- A class of characters. -/
inductive CharSet where
  /-- The characters between two code points, both included. -/
  | range (first last : Nat)
  /-- Decimal digits. -/
  | digit
  /-- Characters of words. -/
  | word
  /-- Blank characters. -/
  | space
  /-- No character. -/
  | none
  | union (a b : CharSet)
  | inter (a b : CharSet)
  /-- The characters outside a class. -/
  | compl (a : CharSet)
  /-- The characters that are the same, up to case, as one of the class. -/
  | anyCase (a : CharSet)
deriving DecidableEq

namespace CharSet

/-- The runs of blank characters. -/
def spaceRanges : List (Nat × Nat) :=
  [(0x9, 0xD), (0x20, 0x20), (0x85, 0x85), (0xA0, 0xA0), (0x1680, 0x1680), (0x2000, 0x200A),
   (0x2028, 0x2029), (0x202F, 0x202F), (0x205F, 0x205F), (0x3000, 0x3000)]

/-- Is the character in the class? -/
def mem (c : Char) : CharSet → Bool
  | .range first last => first ≤ c.toNat && c.toNat ≤ last
  | .digit => isDigitChar c
  | .word => isWordChar c
  | .space => inRanges spaceRanges c.toNat
  | .none => false
  | .union a b => mem c a || mem c b
  | .inter a b => mem c a && mem c b
  | .compl a => !mem c a
  | .anyCase a => (caseVariants c).any fun n => mem (Char.ofNat n) a

/-- The class of one character. -/
def single (c : Char) : CharSet := .range c.toNat c.toNat

/-- The characters of `a` that are not in `b`. -/
def diff (a b : CharSet) : CharSet := .inter a (.compl b)

/-- The characters in one of the two classes, but not in both. -/
def symmDiff (a b : CharSet) : CharSet := .union (diff a b) (diff b a)

/-- The union of some runs of ASCII characters. -/
def ofRanges : List (Char × Char) → CharSet
  | [] => .none
  | [(a, b)] => .range a.toNat b.toNat
  | (a, b) :: rest => .union (.range a.toNat b.toNat) (ofRanges rest)

end CharSet

/-- An assertion about the place between two characters. -/
inductive Look where
  | textStart
  | textEnd
  | lineStart
  | lineEnd
  /-- The start of a line, where lines also end with a carriage return. -/
  | lineStartAny
  | lineEndAny
  /-- The characters of words are those of ASCII, or all. -/
  | wordBoundary (ascii : Bool)
  | notWordBoundary (ascii : Bool)
  | wordStart (ascii : Bool)
  | wordEnd (ascii : Bool)
  | wordStartHalf (ascii : Bool)
  | wordEndHalf (ascii : Bool)
deriving DecidableEq

/-- Is there a character of a word? -/
def isWord (ascii : Bool) (c : Option Char) : Bool :=
  c.any fun c => isWordChar c && (!ascii || c.toNat < 128)

/-- Does the assertion hold between the characters `before` and `after`? At the ends of the text
one of them is missing. -/
def Look.holds (before after : Option Char) : Look → Bool
  | .textStart => before.isNone
  | .textEnd => after.isNone
  | .lineStart => before.isNone || before == some '\n'
  | .lineEnd => after.isNone || after == some '\n'
  | .lineStartAny =>
    before.isNone || before == some '\n' || (before == some '\r' && after != some '\n')
  | .lineEndAny =>
    after.isNone || after == some '\r' || (after == some '\n' && before != some '\r')
  | .wordBoundary ascii => isWord ascii before != isWord ascii after
  | .notWordBoundary ascii => isWord ascii before == isWord ascii after
  | .wordStart ascii => !isWord ascii before && isWord ascii after
  | .wordEnd ascii => isWord ascii before && !isWord ascii after
  | .wordStartHalf ascii => !isWord ascii before
  | .wordEndHalf ascii => !isWord ascii after

/-- A pattern. -/
inductive Node where
  /-- Matches the empty text. -/
  | empty
  /-- Matches one character of a class. -/
  | set (s : CharSet)
  /-- Matches the empty text where the assertion holds. -/
  | look (l : Look)
  /-- One after the other. -/
  | seq (a b : Node)
  /-- One or the other, the first one preferred. -/
  | alt (a b : Node)
  /-- `least` rounds and up to `extra` more. -/
  | rep (r : Node) (least : Nat) (extra : Option Nat) (greedy : Bool)
deriving DecidableEq

namespace Node

/-- One pattern after another; the empty pattern is left out. -/
def andThen (a b : Node) : Node :=
  match a with
  | .empty => b
  | _ => .seq a b

/-- The pattern of one character. -/
def char (c : Char) : Node := .set (CharSet.single c)

end Node

end TrafficLens.Pattern
