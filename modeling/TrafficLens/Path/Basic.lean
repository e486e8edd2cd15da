import TrafficLens.Text.Split

/-!
# Request paths

A path is cut at its slashes into *segments*; empty ones do not count, so `/a//b/` has the segments
`a` and `b`. `Path.normalize` is the spelling with a leading slash and no two slashes in a row; it
leaves a trailing slash and the empty path as they are. A *placeholder* is a segment in braces with
something between them, such as `{param1}`: it is how a template writes a position that takes any
segment.
-/

namespace TrafficLens.Path

/-- The segments of a path, as lists of characters. -/
def segmentChars (cs : List Char) : List (List Char) :=
  (Text.pieces '/' cs).filter fun p => !p.isEmpty

/-- The segments of a path. -/
def segments (path : String) : List String := (segmentChars path.toList).map String.ofList

/-- Is the segment a placeholder? -/
def isPlaceholder (segment : String) : Bool :=
  segment.utf8ByteSize > 2 && segment.toList.head? == some '\x7b' &&
    segment.toList.getLast? == some '\x7d'

/-- The characters without the slashes that follow a slash. -/
def squeeze : (afterSlash : Bool) → List Char → List Char
  | _, [] => []
  | afterSlash, c :: cs =>
    if c = '/' then if afterSlash then squeeze true cs else '/' :: squeeze true cs
    else c :: squeeze false cs

/-- The normal spelling of a path, as characters. -/
def normalizeChars : List Char → List Char
  | [] => []
  | c :: cs => if c = '/' then squeeze false (c :: cs) else '/' :: squeeze false (c :: cs)

/-- The normal spelling: a leading slash, and no two slashes in a row. -/
def normalize (path : String) : String := String.ofList (normalizeChars path.toList)

end TrafficLens.Path
