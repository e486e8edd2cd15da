import TrafficLens.Pattern.Syntax

/-!
# Matching

A pattern is matched by following all ways of matching it at once, in order of preference. The
*heads* of a pattern at a place are what it can do there without reading on: it can accept, or it
can take a character of some class and go on as another pattern. `run` keeps the list of patterns
that are still possible, the preferred one first and none twice, and replaces each by what its
heads leave behind the next character. Ways that come after an accepting one are dropped, and the
last place at which the list accepted is the end of the preferred match.

`search` tries the places of a text from left to right, and `successive` lists the matches that do
not overlap: each search starts where the last match ended, and an empty match right at that place
is skipped.

All recursions are on the text or on the pattern, so the time is bounded by the product of their
sizes and no pattern is slow to reject.
-/

namespace TrafficLens.Pattern

/-- What a pattern can do at a place. -/
inductive Head where
  /-- The pattern is done. -/
  | accept
  /-- Read a character of the class and go on. -/
  | take (s : CharSet) (next : Node)
deriving DecidableEq

/-- The list without later copies of its members. -/
def distinct {α : Type} [DecidableEq α] : List α → List α
  | [] => []
  | x :: xs => x :: (distinct xs).filter (· ≠ x)

/-- The heads of a pattern followed by `b`, whose own heads are `rest`. -/
def headsThen (heads : List Head) (b : Node) (rest : List Head) : List Head :=
  heads.flatMap fun h =>
    match h with
    | .accept => rest
    | .take s n => [.take s (n.andThen b)]

/-- Put the way out of a repetition after the rounds if it is greedy, and before them if not. -/
def orStop (greedy : Bool) (rounds : List Head) : List Head :=
  if greedy then rounds ++ [.accept] else .accept :: rounds

/-- The heads of a repetition of at most so many rounds, from those of one round. -/
def repUpToHeads (r : Node) (greedy : Bool) (heads : List Head) : Nat → List Head
  | 0 => [.accept]
  | n + 1 =>
    orStop greedy
      (headsThen heads (.rep r 0 (some n) greedy) (repUpToHeads r greedy heads n))

/-- The heads of a repetition that may stop at once, from those of one round. A round that reads
nothing ends a repetition without bound. -/
def repExtraHeads (r : Node) (greedy : Bool) (heads : List Head) : Option Nat → List Head
  | none => orStop greedy (headsThen heads (.rep r 0 none greedy) [.accept])
  | some n => repUpToHeads r greedy heads n

/-- The heads of a repetition, from those of one round. -/
def repHeads (r : Node) (greedy : Bool) (heads : List Head) (extra : Option Nat) :
    Nat → List Head
  | 0 => repExtraHeads r greedy heads extra
  | n + 1 => headsThen heads (.rep r n extra greedy) (repHeads r greedy heads extra n)

/-- The heads of a pattern between the characters `before` and `after`. -/
def Node.heads (before after : Option Char) : Node → List Head
  | .empty => [.accept]
  | .set s => [.take s .empty]
  | .look l => if l.holds before after then [.accept] else []
  | .seq a b => distinct (headsThen (a.heads before after) b (b.heads before after))
  | .alt a b => distinct (a.heads before after ++ b.heads before after)
  | .rep r least extra greedy =>
    distinct (repHeads r greedy (r.heads before after) extra least)

/-- The heads before the first accepting one. -/
def liveHeads (heads : List Head) : List Head := heads.takeWhile (· ≠ .accept)

/-- What the heads leave behind the character `c`. -/
def afterChar (c : Char) (heads : List Head) : List Node :=
  heads.filterMap fun h =>
    match h with
    | .accept => none
    | .take s n => if s.mem c then some n else none

/-- Follow the patterns from a place: what is left of the text behind the preferred match. -/
def run (states : List Node) (before : Option Char) : List Char → Option (List Char)
  | [] => if (states.flatMap (Node.heads before none)).contains .accept then some [] else none
  | c :: cs =>
    let heads := distinct (states.flatMap (Node.heads before (some c)))
    let here := if heads.contains .accept then some (c :: cs) else none
    match distinct (afterChar c (liveHeads heads)) with
    | [] => here
    | next => (run next (some c) cs).or here

/-- A match in a text: the matched characters, and the text behind them. -/
structure Found where
  text : List Char
  rest : List Char

/-- The leftmost match. -/
def search (node : Node) (before : Option Char) : List Char → Option Found
  | [] => (run [node] before []).map fun rest => ⟨[], rest⟩
  | c :: cs =>
    match run [node] before (c :: cs) with
    | some rest => some ⟨(c :: cs).take (cs.length + 1 - rest.length), rest⟩
    | none => search node (some c) cs

/-- The character before what a search from `text` after `before` left behind. -/
def beforeRest (before : Option Char) (text rest : List Char) : Option Char :=
  (text.take (text.length - rest.length)).getLast?.or before

/-- The matches from a place on. `lastEnd` is what was left behind the last match; the fuel bounds
their number. -/
def matchesFrom (node : Node) : (fuel : Nat) → (lastEnd : Option Nat) → (before : Option Char) →
    List Char → List (List Char)
  | 0, _, _, _ => []
  | fuel + 1, lastEnd, before, text =>
    match search node before text with
    | none => []
    | some m =>
      if m.text.isEmpty && lastEnd == some m.rest.length then
        match text with
        | [] => []
        | c :: cs =>
          match search node (some c) cs with
          | none => []
          | some m =>
            m.text :: matchesFrom node fuel (some m.rest.length) (beforeRest before text m.rest) m.rest
      else
        m.text :: matchesFrom node fuel (some m.rest.length) (beforeRest before text m.rest) m.rest

/-- The matches in a text that do not overlap, from left to right. -/
def successive (node : Node) (text : List Char) : List (List Char) :=
  matchesFrom node (text.length + 2) none none text

end TrafficLens.Pattern
