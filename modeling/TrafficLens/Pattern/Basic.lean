import TrafficLens.Pattern.Parser
import TrafficLens.Pattern.Matcher

/-!
# Using patterns

`isMatch` asks whether a pattern, given by its text, matches somewhere in a text; a text that is no
pattern matches nothing. `escape` writes a text so that, as a pattern, it matches exactly itself.
-/

namespace TrafficLens.Pattern

/-- Does the pattern match somewhere in the text? -/
def Node.matchesIn (node : Node) (text : String) : Bool :=
  (search node none text.toList).isSome

/-- The matches of the pattern in a text, from left to right. -/
def Node.matchesOf (node : Node) (text : String) : List String :=
  (successive node text.toList).map String.ofList

/-- Is the text a pattern? -/
def compiles (pattern : String) : Bool := (parse? pattern).isSome

/-- Does the pattern with this text match somewhere in a text? -/
def isMatch (pattern text : String) : Bool :=
  match parse? pattern with
  | some node => node.matchesIn text
  | none => false

/-- The characters that mean something else than themselves somewhere in a pattern. -/
def metaChars : List Char :=
  ['\\', '.', '+', '*', '?', '(', ')', '|', '[', ']', '\x7b', '\x7d', '^', '$', '#', '&', '-', '~']

/-- The characters of a text, with a backslash before those that mean something else. -/
def escapeChars (cs : List Char) : List Char :=
  cs.flatMap fun c => if metaChars.contains c then ['\\', c] else [c]

/-- The pattern that matches a text and nothing else. -/
def escape (s : String) : String := String.ofList (escapeChars s.toList)

end TrafficLens.Pattern
