import TrafficLens.Toml.Scalar
import TrafficLens.Toml.Table

/-!
# Reading TOML

A document is a sequence of lines: a header, a key with its value, or nothing, each with or without a
comment. `parse?` answers the table that the document describes. Nothing is guessed: a line that is
not of the grammar, a key that is given twice or a table that is opened twice makes the whole text
no document.
-/

namespace TrafficLens.Toml

open Json (Reader)

/-- The number of arrays and tables that may be open inside one value. -/
def maxDepth : Nat := 79

/-! ## Keys -/

/-- May the character stand in a key without quotes? -/
def isKeyChar (c : Char) : Bool := c.isAlphanum || c == '-' || c == '_'

/-- Read one part of a key. -/
def keyPart? (cs : List Char) : Option (String × List Char) :=
  match cs with
  | '"' :: rest => lineText? '"' rest
  | '\'' :: rest => lineText? '\'' rest
  | _ =>
    let name := cs.takeWhile isKeyChar
    if name.isEmpty then none else some (String.ofList name, cs.dropWhile isKeyChar)

/-- Read the parts of a key, with blanks around each. The fuel bounds their number. -/
def keyParts? : (fuel : Nat) → Reader (List String)
  | 0, _ => none
  | fuel + 1, cs => do
    let (part, rest) ← keyPart? (skipBlanks cs)
    match skipBlanks rest with
    | '.' :: rest => do
      let (parts, rest) ← keyParts? fuel rest
      pure (part :: parts, rest)
    | rest => some ([part], rest)

/-- Read a key: the parts before the last one, and the last one. -/
def key? (cs : List Char) : Option ((List String × String) × List Char) := do
  let (parts, rest) ← keyParts? maxDepth cs
  let last ← parts.getLast?
  pure ((parts.dropLast, last), rest)

/-! ## Values -/

/-- The rest after a comment, if there is one, at the end of its line. -/
def skipComment? (cs : List Char) : Option (List Char) :=
  match cs with
  | '#' :: rest => some (rest.dropWhile isPlain)
  | _ => some cs

/-- Skip blanks, line breaks and comments. The fuel bounds their length. -/
def skipSpace : (fuel : Nat) → List Char → List Char
  | 0, cs => cs
  | fuel + 1, cs =>
    match cs with
    | '#' :: rest => skipSpace fuel (rest.dropWhile isPlain)
    | ' ' :: rest => skipSpace fuel rest
    | '\t' :: rest => skipSpace fuel rest
    | _ =>
      match lineBreak? cs with
      | some rest => skipSpace fuel rest
      | none => cs

/-- Skip blanks, line breaks and comments. -/
def skipAll (cs : List Char) : List Char := skipSpace (cs.length + 1) cs

/-- Read the items of an array, and its closing bracket. The fuel bounds their number. -/
def items? (value : Reader Json) : (fuel : Nat) → Reader (List Json)
  | 0, _ => none
  | fuel + 1, cs =>
    match skipAll cs with
    | ']' :: rest => some ([], rest)
    | cs => do
      let (x, rest) ← value cs
      match skipAll rest with
      | ',' :: rest => do
        let (xs, rest) ← items? value fuel rest
        pure (x :: xs, rest)
      | ']' :: rest => some ([x], rest)
      | _ => none

/-- Read a key and its value. -/
def entry? (value : Reader Json) (cs : List Char) :
    Option (((List String × String) × Json) × List Char) := do
  let (key, rest) ← key? cs
  match rest with
  | '=' :: rest => do
    let (v, rest) ← value (skipBlanks rest)
    pure ((key, v), rest)
  | _ => none

/-- Read the entries of a table in braces, of which there is at least one, and its closing brace.
The fuel bounds their number. -/
def entries? (value : Reader Json) : (fuel : Nat) → Drafts → Reader Drafts
  | 0, _, _ => none
  | fuel + 1, table, cs => do
    let (((path, key), v), rest) ← entry? value cs
    let table ← Draft.addValue? path key v table
    match skipBlanks rest with
    | ',' :: rest => entries? value fuel table rest
    | '\x7d' :: rest => some (table, rest)
    | _ => none

/-- Read a value that is neither an array nor a table. -/
def scalar? : Reader Json
  | '"' :: rest => (text? '"' rest).map fun p => (.string p.1, p.2)
  | '\'' :: rest => (text? '\'' rest).map fun p => (.string p.1, p.2)
  | 't' :: 'r' :: 'u' :: 'e' :: rest => some (.bool true, rest)
  | 'f' :: 'a' :: 'l' :: 's' :: 'e' :: rest => some (.bool false, rest)
  | cs => (moment? cs).or (number? cs)

/-- Read a value in which at most `depth` arrays and tables are open at once. -/
def value? : (depth : Nat) → Reader Json
  | depth, '[' :: rest =>
    match depth with
    | 0 => none
    | d + 1 => (items? (value? d) (rest.length + 1) rest).map fun p => (.array p.1, p.2)
  | depth, '\x7b' :: rest =>
    match depth with
    | 0 => none
    | d + 1 =>
      match skipBlanks rest with
      | '\x7d' :: rest => some (.object [], rest)
      | body =>
        (entries? (value? d) (body.length + 1) [] body).map fun p =>
          (.object (Draft.membersToJson p.1), p.2)
  | _, cs => scalar? cs

/-! ## Documents -/

/-- A header. -/
structure Header where
  path : List String
  key : String
  /-- Does the header begin a table of a list? -/
  listed : Bool

/-- A document as far as it was read. -/
structure Document where
  root : Drafts := []
  /-- The last header. -/
  header : Option Header := none
  /-- The table of the last header. -/
  table : Drafts := []

namespace Document

/-- Put the table of the last header in its place. -/
def close? (d : Document) : Option Drafts :=
  match d.header with
  | none => some d.table
  | some h =>
    if h.listed then Draft.closeTables? h.path h.key d.table d.root
    else Draft.closeTable? h.path h.key d.table d.root

/-- Go on to a header. -/
def open? (d : Document) (h : Header) : Option Document := do
  let root ← d.close?
  let table ←
    if h.listed then (Draft.look? (Draft.openTables? h.key) h.path root).map fun _ => []
    else Draft.look? (Draft.openTable? h.key) h.path root
  pure { root, header := some h, table }

end Document

/-- The rest after the end of a line, before which a comment may stand. -/
def endOfLine? (cs : List Char) : Option (List Char) := do
  let rest ← skipComment? (skipBlanks cs)
  if rest.isEmpty then some [] else lineBreak? rest

/-- Read a header after its first bracket. -/
def header? (cs : List Char) : Option (Header × List Char) :=
  match cs with
  | '[' :: rest => do
    let ((path, key), rest) ← key? rest
    match rest with
    | ']' :: ']' :: rest => pure (⟨path, key, true⟩, ← endOfLine? rest)
    | _ => none
  | _ => do
    let ((path, key), rest) ← key? cs
    match rest with
    | ']' :: rest => pure (⟨path, key, false⟩, ← endOfLine? rest)
    | _ => none

/-- Read a line that is not blank. -/
def statement? (d : Document) : List Char → Option (Document × List Char)
  | '[' :: rest => do
    let (h, rest) ← header? rest
    pure (← d.open? h, rest)
  | cs => do
    let (((path, key), v), rest) ← entry? (value? maxDepth) cs
    let rest ← endOfLine? rest
    pure ({ d with table := ← Draft.addValue? path key v d.table }, rest)

/-- Read line after line. The fuel bounds their number. -/
def statements? : (fuel : Nat) → Document → List Char → Option Document
  | 0, _, _ => none
  | fuel + 1, d, cs =>
    match skipAll cs with
    | [] => some d
    | cs => do
      let (d, rest) ← statement? d cs
      statements? fuel d rest

/-- The characters of a text without the mark of its byte order. -/
def withoutMark (s : String) : List Char :=
  match s.toList with
  | c :: cs => if c = Char.ofNat 0xFEFF then cs else c :: cs
  | [] => []

/-- Read a document. -/
def parse? (s : String) : Option Json := do
  let cs := withoutMark s
  let d ← statements? (cs.length + 1) {} cs
  pure (.object (Draft.membersToJson (← d.close?)))

end TrafficLens.Toml
