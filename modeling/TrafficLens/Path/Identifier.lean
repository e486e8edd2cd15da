import TrafficLens.Uuid
import TrafficLens.Text.Split

/-!
# Segments that look like identifiers

An `IdentifierPolicy` says which segments of a path are taken for the identifier of one thing
among many: numbers, universally unique identifiers, hexadecimal runs with a digit in them, long
texts that mix letters and digits, and addresses of the form `user@domain.tld`. Lengths are those
of the UTF-8 encoding. The policy also names the last segments of paths that are left whole.
-/

namespace TrafficLens

/-- The settings of path inference. -/
structure IdentifierPolicy where
  /-- Hexadecimal runs at least this long are identifiers. -/
  minHexLength : Nat := 16
  /-- Texts of letters and digits at least this long are identifiers. -/
  minMixedLength : Nat := 20
  /-- Paths that end in one of these segments are GraphQL paths. -/
  graphqlSuffixes : List String := ["graphql"]
deriving DecidableEq

namespace IdentifierPolicy

/-- Is the character a hexadecimal digit? -/
def isHexDigit (c : Char) : Bool := (Json.hexDigit? c).isSome

/-- Is the text an address `user@domain` with a user and a dot in the domain? The first `@` is the
one that counts. -/
def isAddress (cs : List Char) : Bool :=
  match Text.cut? '@' cs with
  | some (user, domain) => !user.isEmpty && domain.contains '.'
  | none => false

/-- Does the segment look like an identifier? -/
def isIdentifier (policy : IdentifierPolicy) (segment : String) : Bool :=
  let cs := segment.toList
  let hasDigit := cs.any Char.isDigit
  !cs.isEmpty &&
    (cs.all Char.isDigit ||
      (Uuid.parseChars? cs).isSome ||
      (hasDigit && decide (policy.minHexLength ≤ segment.utf8ByteSize) && cs.all isHexDigit) ||
      (hasDigit && cs.any Char.isAlpha && decide (policy.minMixedLength ≤ segment.utf8ByteSize)) ||
      isAddress cs)

end IdentifierPolicy

end TrafficLens
