import TrafficLens.Pattern.Property.Name

/-!
# The notation of patterns

`parse?` reads the text of a pattern. The notation is the common one: `|`, grouping, the
repetitions `*`, `+`, `?` and `{n,m}` with a lazy form, bracketed classes with set operations and
named ASCII classes, escapes for classes, assertions and characters, the classes of the properties
of characters after `\p` and `\P`, and flags that hold until the end of the group they stand in.
Look-around and references to earlier groups are not part of it.

The rules that decide whether a text is a pattern at all:

* a repetition needs something to repeat, and `{` always begins one;
* `]` and `}` stand for themselves outside a class, and `]` also as the first member of one;
* an escaped letter or digit must be one of the known escapes, while every other ASCII character
  may be escaped and then stands for itself;
* a range must not run backwards, nor may the bounds of a repetition;
* a flag may be named once in its group, and the name of a group once in the pattern;
* without the flag for all characters, classes are classes of ASCII, a class that would hold other
  characters is refused, and there are no classes of properties;
* the pattern must not be too large once its bounded repetitions are unfolded (`sizeBound`).

The size of a pattern is measured by `Node.weight`, which only comes near the room that a pattern
takes in an engine. A pattern that is nested more than 250 deep is taken here like any other.
-/

namespace TrafficLens.Pattern

/-- The settings that `(?…)` changes. -/
structure Flags where
  insensitive : Bool := false
  multiLine : Bool := false
  dotAll : Bool := false
  swapGreed : Bool := false
  verbose : Bool := false
  /-- Lines also end with a carriage return. -/
  anyLineEnd : Bool := false
  unicode : Bool := true

/-- What the reader of a pattern carries along: the flags, and the names of the groups so far. -/
structure Reading where
  flags : Flags := {}
  names : List (List Char) := []

/-- The text behind blanks and comments, which count for nothing in verbose patterns. The fuel
bounds the number of characters. -/
def skipVerbose : (fuel : Nat) → List Char → List Char
  | 0, cs => cs
  | _ + 1, [] => []
  | fuel + 1, c :: cs =>
    if c = '#' then skipVerbose fuel (cs.dropWhile (· ≠ '\n'))
    else if CharSet.mem c .space then skipVerbose fuel cs
    else c :: cs

/-- The text behind blanks and comments of a verbose pattern. -/
def Flags.skip (flags : Flags) (cs : List Char) : List Char :=
  if flags.verbose then skipVerbose (cs.length + 1) cs else cs

/-- The first characters of a text while they have a property, at most so many of them, and what
follows. Blanks and comments of a verbose pattern may stand before and between them. -/
def Flags.span (flags : Flags) (p : Char → Bool) : (most : Nat) → List Char → List Char × List Char
  | 0, cs => ([], flags.skip cs)
  | most + 1, cs =>
    match flags.skip cs with
    | [] => ([], [])
    | c :: cs =>
      if p c then
        let (taken, rest) := flags.span p most cs
        (c :: taken, rest)
      else ([], c :: cs)

/-! ## Classes and characters -/

/-- The digits, as the flags have them. -/
def Flags.digits (flags : Flags) : CharSet :=
  if flags.unicode then .digit else CharSet.ofRanges [('0', '9')]

/-- The characters of words, as the flags have them. -/
def Flags.words (flags : Flags) : CharSet :=
  if flags.unicode then .word
  else CharSet.ofRanges [('0', '9'), ('A', 'Z'), ('_', '_'), ('a', 'z')]

/-- The blanks, as the flags have them. -/
def Flags.spaces (flags : Flags) : CharSet :=
  if flags.unicode then .space else .union (.range 9 13) (CharSet.single ' ')

/-- The class of a set of characters, without regard to case if the flags say so. -/
def Flags.fold (flags : Flags) (s : CharSet) : CharSet :=
  let ascii := CharSet.range 0 127
  if !flags.insensitive then s
  else if flags.unicode then .anyCase s
  else .union s (.inter (.anyCase (.inter s ascii)) ascii)

/-- What a dot stands for. -/
def Flags.dot (flags : Flags) : CharSet :=
  if flags.dotAll then .compl .none
  else if flags.anyLineEnd then .compl (.union (CharSet.single '\r') (CharSet.single '\n'))
  else .compl (CharSet.single '\n')

/-- The assertion of a circumflex. -/
def Flags.start (flags : Flags) : Look :=
  if !flags.multiLine then .textStart
  else if flags.anyLineEnd then .lineStartAny else .lineStart

/-- The assertion of a dollar sign. -/
def Flags.stop (flags : Flags) : Look :=
  if !flags.multiLine then .textEnd else if flags.anyLineEnd then .lineEndAny else .lineEnd

/-- Can the flags have the class? A class of ASCII either holds all other characters or none. -/
def Flags.onlyValid (flags : Flags) (s : CharSet) : Option CharSet :=
  if flags.unicode || !s.mem (Char.ofNat 128) then some s else none

/-- Can the flags have the character in a class? -/
def Flags.allowsChar (flags : Flags) (c : Char) : Bool := flags.unicode || c.toNat < 128

/-- What an escape stands for. -/
inductive Escape where
  | char (c : Char)
  | set (s : CharSet)
  | look (l : Look)

/-- The value of a hexadecimal digit. -/
def hexValue? (c : Char) : Option Nat :=
  if c.isDigit then some (c.toNat - 48)
  else if 'a' ≤ c ∧ c ≤ 'f' then some (c.toNat - 87)
  else if 'A' ≤ c ∧ c ≤ 'F' then some (c.toNat - 55)
  else none

/-- The character with the given hexadecimal code point. -/
def charOfHex? (ds : List Char) : Option Char :=
  if ds.isEmpty then none
  else do
    let n ← ds.foldlM (fun n c => (hexValue? c).map fun d => min (n * 16 + d) 0x110000) 0
    if n < 0xD800 ∨ (0xDFFF < n ∧ n < 0x110000) then some (Char.ofNat n) else none

/-- A code point after its letter: so many digits, or any number of them in braces. -/
def codePoint? (flags : Flags) (count : Nat) (cs : List Char) : Option (Escape × List Char) :=
  match flags.skip cs with
  | '\x7b' :: r =>
    match flags.span (· ≠ '\x7d') r.length r with
    | (digits, _ :: rest) => (charOfHex? digits).map fun c => (.char c, rest)
    | (_, []) => none
  | r =>
    let (digits, rest) := flags.span (fun _ => true) count r
    if digits.length < count then none else (charOfHex? digits).map fun c => (.char c, rest)

/-- A code point in two digits, which without all characters must be one of ASCII, or in braces. -/
def byteOrCodePoint? (flags : Flags) (cs : List Char) : Option (Escape × List Char) :=
  match flags.skip cs, codePoint? flags 2 cs with
  | '\x7b' :: _, r => r
  | _, some (.char c, rest) => if flags.allowsChar c then some (.char c, rest) else none
  | _, r => r

/-- The assertion `\b` with a name in braces. -/
def namedBoundary? (ascii : Bool) (name : String) : Option Look :=
  match name with
  | "start" => some (.wordStart ascii)
  | "end" => some (.wordEnd ascii)
  | "start-half" => some (.wordStartHalf ascii)
  | "end-half" => some (.wordEndHalf ascii)
  | _ => none

/-- The assertion `\b`, which may carry a name in braces. Braces without a name are those of a
repetition. -/
def boundary? (flags : Flags) (cs : List Char) : Option (Escape × List Char) :=
  let plain := some (Escape.look (.wordBoundary !flags.unicode), cs)
  match cs with
  | '\x7b' :: r =>
    match flags.span (fun c => c.isAlpha || c == '-') r.length r with
    | ([], _) => plain
    | (name, '\x7d' :: rest) =>
      (namedBoundary? (!flags.unicode) (String.ofList name)).map fun l => (.look l, rest)
    | _ => none
  | _ => plain

/-- The class of a property after `\p`, or `\P` if it is negated: one letter, or a name in
braces. -/
def property? (flags : Flags) (negated : Bool) (cs : List Char) : Option (Escape × List Char) := do
  let (query, rest) ←
    match flags.skip cs with
    | '\x7b' :: r =>
      match flags.span (· ≠ '\x7d') r.length r with
      | (query, _ :: rest) => some (query, rest)
      | (_, []) => none
    | c :: r => if c = '\\' then none else some ([c], r)
    | [] => none
  let (s, outside) ← CharSet.ofQuery? query
  let s := flags.fold s
  if flags.unicode then pure (.set (if negated != outside then .compl s else s), rest) else none

/-- Read an escape after its backslash. -/
def escape? (flags : Flags) : List Char → Option (Escape × List Char)
  | 'd' :: r => some (.set flags.digits, r)
  | 'D' :: r => (flags.onlyValid (.compl flags.digits)).map fun s => (.set s, r)
  | 's' :: r => some (.set flags.spaces, r)
  | 'S' :: r => (flags.onlyValid (.compl flags.spaces)).map fun s => (.set s, r)
  | 'w' :: r => some (.set flags.words, r)
  | 'W' :: r => (flags.onlyValid (.compl flags.words)).map fun s => (.set s, r)
  | 'p' :: r => property? flags false r
  | 'P' :: r => property? flags true r
  | 'b' :: r => boundary? flags r
  | 'B' :: r => some (.look (.notWordBoundary !flags.unicode), r)
  | 'A' :: r => some (.look .textStart, r)
  | 'z' :: r => some (.look .textEnd, r)
  | '<' :: r => some (.look (.wordStart !flags.unicode), r)
  | '>' :: r => some (.look (.wordEnd !flags.unicode), r)
  | 'n' :: r => some (.char '\n', r)
  | 't' :: r => some (.char '\t', r)
  | 'r' :: r => some (.char '\r', r)
  | 'a' :: r => some (.char (Char.ofNat 7), r)
  | 'f' :: r => some (.char (Char.ofNat 12), r)
  | 'v' :: r => some (.char (Char.ofNat 11), r)
  | 'x' :: r => byteOrCodePoint? flags r
  | 'u' :: r => codePoint? flags 4 r
  | 'U' :: r => codePoint? flags 8 r
  | c :: r => if c.toNat < 128 && !c.isAlphanum then some (.char c, r) else none
  | [] => none

/-- The ASCII class of a name. -/
def asciiClass? (name : String) : Option CharSet :=
  match name with
  | "alnum" => some (.ofRanges [('0', '9'), ('A', 'Z'), ('a', 'z')])
  | "alpha" => some (.ofRanges [('A', 'Z'), ('a', 'z')])
  | "ascii" => some (.range 0 127)
  | "blank" => some (.ofRanges [('\t', '\t'), (' ', ' ')])
  | "cntrl" => some (.union (.range 0 31) (.range 127 127))
  | "digit" => some (.ofRanges [('0', '9')])
  | "graph" => some (.ofRanges [('!', '~')])
  | "lower" => some (.ofRanges [('a', 'z')])
  | "print" => some (.ofRanges [(' ', '~')])
  | "punct" => some (.ofRanges [('!', '/'), (':', '@'), ('[', '\x60'), ('\x7b', '~')])
  | "space" => some (.union (.range 9 13) (CharSet.single ' '))
  | "upper" => some (.ofRanges [('A', 'Z')])
  | "word" => some (.ofRanges [('0', '9'), ('A', 'Z'), ('_', '_'), ('a', 'z')])
  | "xdigit" => some (.ofRanges [('0', '9'), ('A', 'F'), ('a', 'f')])
  | _ => none

/-- Read a named ASCII class after `[:`. -/
def named? (flags : Flags) (cs : List Char) : Option (CharSet × List Char) :=
  let (negated, cs) := match cs with | '^' :: r => (true, r) | _ => (false, cs)
  let name := cs.takeWhile (· ≠ ':')
  match cs.drop name.length with
  | ':' :: ']' :: rest =>
    (asciiClass? (String.ofList name)).map fun s =>
      (if negated then .compl (flags.fold s) else s, rest)
  | _ => none

/-- Read one member of a bracketed class. -/
def member? (flags : Flags) : List Char → Option (Escape × List Char)
  | '\\' :: r =>
    match escape? flags r with
    | some (.look _, _) => none
    | some (.char c, rest) => if flags.allowsChar c then some (.char c, rest) else none
    | other => other
  | c :: r => if flags.allowsChar c then some (.char c, r) else none
  | [] => none

/-- The class of a member. -/
def Escape.toSet : Escape → CharSet
  | .char c => CharSet.single c
  | .set s => s
  | .look _ => .none

/-- Read a member of a bracketed class, or a range of them. -/
def memberOrRange? (flags : Flags) (cs : List Char) : Option (CharSet × List Char) := do
  let (first, rest) ← member? flags cs
  let rest := flags.skip rest
  match rest with
  | [] => none
  | '-' :: r =>
    match flags.skip r with
    | [] => none
    | ']' :: _ => pure (first.toSet, rest)
    | '-' :: _ => pure (first.toSet, rest)
    | r => do
      let (last, rest) ← member? flags r
      match first, last with
      | .char a, .char b => if a ≤ b then pure (.range a.toNat b.toNat, rest) else none
      | _, _ => none
  | _ => pure (first.toSet, rest)

/-- The three operations on classes. -/
inductive SetOp where
  | inter | diff | symmDiff

/-- The class that an operation makes of two classes. -/
def SetOp.apply (flags : Flags) (op : SetOp) (a b : CharSet) : CharSet :=
  let a := flags.fold a
  let b := flags.fold b
  match op with
  | .inter => .inter a b
  | .diff => CharSet.diff a b
  | .symmDiff => CharSet.symmDiff a b

/-- Finish an operation whose left side was read before. -/
def finish (flags : Flags) (pending : Option (CharSet × SetOp)) (s : CharSet) : CharSet :=
  match pending with
  | none => s
  | some (a, op) => op.apply flags a s

mutual

/-- Read a bracketed class after its bracket. -/
def bracket? (flags : Flags) : (fuel : Nat) → List Char → Option (CharSet × List Char)
  | 0, _ => none
  | fuel + 1, cs => do
    let cs := flags.skip cs
    let (negated, cs) := match cs with | '^' :: r => (true, flags.skip r) | _ => (false, cs)
    let (dashes, rest) := flags.span (· = '-') fuel cs
    let start := if dashes.isEmpty then CharSet.none else CharSet.single '-'
    let (start, rest) :=
      match rest with
      | ']' :: r => if dashes.isEmpty then (CharSet.single ']', r) else (start, rest)
      | _ => (start, rest)
    let (s, rest) ← members? flags fuel none start rest
    let s := flags.fold s
    pure (← flags.onlyValid (if negated then .compl s else s), rest)

/-- Read the members of a bracketed class up to its closing bracket. -/
def members? (flags : Flags) : (fuel : Nat) → (pending : Option (CharSet × SetOp)) →
    (sofar : CharSet) → List Char → Option (CharSet × List Char)
  | 0, _, _, _ => none
  | fuel + 1, pending, sofar, cs =>
    match flags.skip cs with
    | [] => none
    | ']' :: r => some (finish flags pending sofar, r)
    | '&' :: '&' :: r => members? flags fuel (some (finish flags pending sofar, .inter)) .none r
    | '-' :: '-' :: r => members? flags fuel (some (finish flags pending sofar, .diff)) .none r
    | '~' :: '~' :: r =>
      members? flags fuel (some (finish flags pending sofar, .symmDiff)) .none r
    | '[' :: r =>
      match (match r with | ':' :: r => named? flags r | _ => none) with
      | some (s, rest) => do
        let s ← flags.onlyValid s
        members? flags fuel pending (.union sofar s) rest
      | none => do
        let (s, rest) ← bracket? flags fuel r
        members? flags fuel pending (.union sofar s) rest
    | cs => do
      let (s, rest) ← memberOrRange? flags cs
      members? flags fuel pending (.union sofar s) rest

end

/-! ## Repetitions -/

/-- A decimal number with blanks around it. -/
def decimal? (flags : Flags) (cs : List Char) : Option (Nat × List Char) :=
  let cs := cs.dropWhile (CharSet.mem · .space)
  let (ds, rest) := flags.span Char.isDigit cs.length cs
  if ds.isEmpty then none
  else
    let n := ds.foldl (fun n c => n * 10 + (c.toNat - 48)) 0
    if n < Nat.pow 2 32 then some (n, rest.dropWhile (CharSet.mem · .space)) else none

/-- The bounds of a counted repetition after its brace: the least number of rounds, and how many
more there may be. -/
def bounds? (flags : Flags) (cs : List Char) : Option (Nat × Option Nat × List Char) := do
  let (least, rest) ← decimal? flags (flags.skip cs)
  match rest with
  | '\x7d' :: r => pure (least, some 0, r)
  | ',' :: r =>
    match flags.skip r with
    | '\x7d' :: r => pure (least, none, r)
    | r => do
      let (most, rest) ← decimal? flags r
      match rest with
      | '\x7d' :: r => if least ≤ most then pure (least, some (most - least), r) else none
      | _ => none
  | _ => none

/-- Is the character the start of a repetition? -/
def startsRepetition (c : Char) : Bool := c == '*' || c == '+' || c == '?' || c == '\x7b'

/-- Apply the repetitions that follow a pattern to it. The fuel bounds their number. -/
def repetitions? (flags : Flags) : (fuel : Nat) → Node → List Char → Option (Node × List Char)
  | 0, _, _ => none
  | fuel + 1, node, cs =>
    let again := fun (least : Nat) (extra : Option Nat) (rest : List Char) =>
      match rest with
      | '?' :: r => repetitions? flags fuel (.rep node least extra flags.swapGreed) r
      | r => repetitions? flags fuel (.rep node least extra !flags.swapGreed) r
    match flags.skip cs with
    | '*' :: r => again 0 none r
    | '+' :: r => again 1 none r
    | '?' :: r => again 0 (some 1) r
    | '\x7b' :: r =>
      match bounds? flags r with
      | some (least, extra, rest) => again least extra (flags.skip rest)
      | none => none
    | rest => some (node, rest)

/-! ## Groups -/

/-- What an opening parenthesis begins. -/
inductive Opening where
  /-- Flags for the rest of the enclosing group. -/
  | flags (reading : Reading) (rest : List Char)
  /-- A group. -/
  | group (reading : Reading) (rest : List Char)

/-- Set a flag. -/
def Flags.set (flags : Flags) (value : Bool) : Char → Option Flags
  | 'i' => some { flags with insensitive := value }
  | 'm' => some { flags with multiLine := value }
  | 's' => some { flags with dotAll := value }
  | 'U' => some { flags with swapGreed := value }
  | 'R' => some { flags with anyLineEnd := value }
  | 'u' => some { flags with unicode := value }
  | 'x' => some { flags with verbose := value }
  | _ => none

/-- Read flags up to `:` or `)`. `seen` are those that were named before. -/
def flags? (reading : Reading) (negated dangling : Bool) (seen : List Char) :
    List Char → Option Opening
  | ')' :: r => if seen.isEmpty || dangling then none else some (.flags reading r)
  | ':' :: r => if dangling then none else some (.group reading r)
  | '-' :: r => if negated then none else flags? reading true true seen r
  | c :: r =>
    if seen.contains c then none
    else
      match reading.flags.set (!negated) c with
      | some flags => flags? { reading with flags := flags } negated false (c :: seen) r
      | none => none
  | [] => none

/-- May the character stand in the name of a group? -/
def isNameChar (first : Bool) (c : Char) : Bool :=
  c == '_' || CharSet.mem c .alphabetic ||
    (!first && (CharSet.mem c .number || c == '.' || c == '[' || c == ']'))

/-- Read the name of a group up to `>`. -/
def groupName? (reading : Reading) (cs : List Char) : Option Opening :=
  let name := cs.takeWhile (· ≠ '>')
  match cs.drop name.length with
  | _ :: rest =>
    match name with
    | [] => none
    | c :: r =>
      if isNameChar true c && r.all (isNameChar false) && !reading.names.contains name then
        some (.group { reading with names := name :: reading.names } rest)
      else none
  | [] => none

/-- Read what follows an opening parenthesis. -/
def opening? (reading : Reading) : List Char → Option Opening
  | '?' :: '=' :: _ => none
  | '?' :: '!' :: _ => none
  | '?' :: '<' :: '=' :: _ => none
  | '?' :: '<' :: '!' :: _ => none
  | '?' :: 'P' :: '<' :: r => groupName? reading r
  | '?' :: '<' :: r => groupName? reading r
  | '?' :: r => flags? reading false false [] r
  | r => some (.group reading r)

/-! ## Patterns

The fuel of these functions is given by `parse?` and bounds what is left to read: each step of one of
them takes a character or goes one level down.
-/

/-- Read one thing that is neither a group nor the end of a branch. -/
def atom? (flags : Flags) (fuel : Nat) : List Char → Option (Node × List Char)
  | [] => none
  | '\\' :: r =>
    (escape? flags r).map fun p =>
      match p.1 with
      | .char c => (.set (flags.fold (CharSet.single c)), p.2)
      | .set s => (.set s, p.2)
      | .look l => (.look l, p.2)
  | '.' :: r => (flags.onlyValid flags.dot).map fun s => (.set s, r)
  | '^' :: r => some (.look flags.start, r)
  | '$' :: r => some (.look flags.stop, r)
  | '[' :: r => (bracket? flags fuel r).map fun p => (.set p.1, p.2)
  | c :: r =>
    if startsRepetition c then none else some (.set (flags.fold (CharSet.single c)), r)

mutual

/-- Read alternatives up to the end of the text or of the group. -/
def alternatives? : (fuel : Nat) → Reading → List Char → Option (Node × Reading × List Char)
  | 0, _, _ => none
  | fuel + 1, reading, cs => do
    let (a, reading, rest) ← sequence? fuel reading cs
    match rest with
    | '|' :: r => do
      let (b, reading, rest) ← alternatives? fuel reading r
      pure (.alt a b, reading, rest)
    | _ => pure (a, reading, rest)

/-- Read one branch. -/
def sequence? : (fuel : Nat) → Reading → List Char → Option (Node × Reading × List Char)
  | 0, _, _ => none
  | fuel + 1, reading, cs =>
    match reading.flags.skip cs with
    | [] => some (.empty, reading, [])
    | ')' :: r => some (.empty, reading, ')' :: r)
    | '|' :: r => some (.empty, reading, '|' :: r)
    | '(' :: r =>
      match opening? reading (reading.flags.skip r) with
      | none => none
      | some (.flags inner rest) =>
        if (inner.flags.skip rest).head?.any startsRepetition then none
        else sequence? fuel inner rest
      | some (.group inner rest) => do
        let (node, after, rest) ← alternatives? fuel inner rest
        match rest with
        | ')' :: rest => do
          let (node, rest) ← repetitions? reading.flags fuel node rest
          let (tail, reading, rest) ← sequence? fuel { reading with names := after.names } rest
          pure (node.andThen tail, reading, rest)
        | _ => none
    | cs => do
      let (node, rest) ← atom? reading.flags fuel cs
      let (node, rest) ← repetitions? reading.flags fuel node rest
      let (tail, reading, rest) ← sequence? fuel reading rest
      pure (node.andThen tail, reading, rest)

end

/-! ## Size

An engine makes an automaton over the bytes of UTF-8 from a pattern and refuses the pattern when the
automaton takes too much room. The measure here counts the states that may be expected: two for a run
beyond ASCII, and thirty for the characters of several bytes outside a class such as `[^/]`. It only
comes near the room of an engine, which counts bytes and finds states that can be shared, so that near
the bound the two may differ.
-/

/-- How much room a class takes. -/
def CharSet.weight : CharSet → Nat
  | .word => 1450
  | .digit => 190
  | .space => 20
  | .range _ last => if last < 128 then 1 else 2
  | .none => 1
  | .union a b => weight a + weight b
  | .inter a b => weight a + weight b
  | .compl a => weight a + 30
  | .anyCase a => 2 * weight a

/-- How much room a pattern takes. Rounds that are counted are written out one after the other. -/
def Node.weight : Node → Nat
  | .empty => 1
  | .set s => s.weight
  | .look _ => 1
  | .seq a b => weight a + weight b
  | .alt a b => weight a + weight b + 1
  | .rep r least extra _ =>
    match extra with
    | some extra => (weight r + 1) * (least + extra) + 1
    | none => (weight r + 1) * max least 1 + 1

/-- The room that a pattern may take. -/
def sizeBound : Nat := 327680

/-- Read the text of a pattern. -/
def parse? (s : String) : Option Node :=
  match alternatives? (2 * s.length + 2) {} s.toList with
  | some (node, _, []) => if node.weight ≤ sizeBound then some node else none
  | _ => none

end TrafficLens.Pattern
