/-!
# Cutting texts at a separator

`Text.splitOn` cuts a text at every occurrence of one character and keeps the empty pieces, so a
text with `n` separators has `n + 1` pieces. `Text.joinWith` is its inverse. `Text.cut?` cuts at
the first occurrence only, and `Text.cutText?` at that of a text.
-/

namespace TrafficLens.Text

/-- The pieces between separators, empty ones included. -/
def pieces (sep : Char) : List Char → List (List Char)
  | [] => [[]]
  | c :: cs =>
    if c = sep then [] :: pieces sep cs
    else
      match pieces sep cs with
      | [] => [[c]]
      | p :: ps => (c :: p) :: ps

/-- The pieces of a text between separators, empty ones included. -/
def splitOn (sep : Char) (s : String) : List String := (pieces sep s.toList).map String.ofList

/-- The texts, one after another, with a separator between two. -/
def joinWith (sep : String) : List String → String
  | [] => ""
  | [s] => s
  | s :: rest => s ++ sep ++ joinWith sep rest

/-- The parts of a text before and after the first separator. -/
def cut? (sep : Char) : List Char → Option (List Char × List Char)
  | [] => none
  | c :: cs => if c = sep then some ([], cs) else (cut? sep cs).map fun p => (c :: p.1, p.2)

/-- Does the text start with `start`? What follows it, if so. -/
def dropStart? : (start cs : List Char) → Option (List Char)
  | [], cs => some cs
  | _ :: _, [] => none
  | p :: ps, c :: cs => if p = c then dropStart? ps cs else none

/-- The parts of a text before and after the first occurrence of another one. -/
def cutText? (sep : List Char) : List Char → Option (List Char × List Char)
  | [] => (dropStart? sep []).map fun rest => ([], rest)
  | c :: cs =>
    match dropStart? sep (c :: cs) with
    | some rest => some ([], rest)
    | none => (cutText? sep cs).map fun p => (c :: p.1, p.2)

/-- Does the text occur in the other one? -/
def occursIn (needle : List Char) : List Char → Bool
  | [] => needle.isEmpty
  | c :: cs => (dropStart? needle (c :: cs)).isSome || occursIn needle cs

/-- The characters without the given one at the end. -/
def trimEndChar (c : Char) (cs : List Char) : List Char :=
  (cs.reverse.dropWhile (· == c)).reverse

end TrafficLens.Text
