import TrafficLens.Json.Parser

/-!
# Texts of a TOML document

Texts stand in double quotes, where a backslash begins an escape, or in single quotes, where every
character stands for itself. In three quotes of either kind a text may go over several lines: a line
break at its beginning is left out, all line breaks are single characters, and in double quotes a
backslash at the end of a line leaves out the blanks and line breaks that follow. Control characters
are refused everywhere, except for the tabulator.
-/

namespace TrafficLens.Toml

open Json (Reader)

/-- Is this a blank inside a line? -/
def isBlank (c : Char) : Bool := c == ' ' || c == '\t'

/-- Skip blanks inside a line. -/
def skipBlanks (cs : List Char) : List Char := cs.dropWhile isBlank

/-- May the character stand in a text or a comment? -/
def isPlain (c : Char) : Bool := c == '\t' || (32 ≤ c.toNat && c.toNat != 127)

/-- The rest after a line break. -/
def lineBreak? : List Char → Option (List Char)
  | '\n' :: rest => some rest
  | '\r' :: '\n' :: rest => some rest
  | _ => none

/-- The character with a number, given by its hexadecimal digits. -/
def numbered? (count : Nat) (cs : List Char) : Option (Char × List Char) := do
  let ds ← (cs.take count).mapM Json.hexDigit?
  let n := ds.foldl (fun n d => n * 16 + d) 0
  if ds.length = count ∧ n.isValidChar then some (Char.ofNat n, cs.drop count) else none

/-- Read an escape after its backslash. -/
def escape? : Reader Char
  | 'b' :: rest => some (Char.ofNat 8, rest)
  | 'f' :: rest => some (Char.ofNat 12, rest)
  | 'n' :: rest => some ('\n', rest)
  | 'r' :: rest => some ('\r', rest)
  | 't' :: rest => some ('\t', rest)
  | '"' :: rest => some ('"', rest)
  | '\\' :: rest => some ('\\', rest)
  | 'u' :: rest => numbered? 4 rest
  | 'U' :: rest => numbered? 8 rest
  | _ => none

/-- Read a text of one line after its opening quote. The fuel bounds its length. -/
def line? (quote : Char) : (fuel : Nat) → Reader (List Char)
  | 0, _ => none
  | _ + 1, [] => none
  | fuel + 1, c :: cs =>
    if c = quote then some ([], cs)
    else if c = '\\' ∧ quote = '"' then do
      let (d, rest) ← escape? cs
      let (ds, rest) ← line? quote fuel rest
      pure (d :: ds, rest)
    else if isPlain c then do
      let (ds, rest) ← line? quote fuel cs
      pure (c :: ds, rest)
    else none

/-- The rest after a backslash at the end of a line: the first line that is not blank. -/
def continuation? (cs : List Char) : Option (List Char) :=
  (lineBreak? (skipBlanks cs)).map skipLines
where
  /-- Skip blanks and line breaks. -/
  skipLines : List Char → List Char
    | ' ' :: rest => skipLines rest
    | '\t' :: rest => skipLines rest
    | '\n' :: rest => skipLines rest
    | '\r' :: '\n' :: rest => skipLines rest
    | cs => cs

/-- Read a text of several lines after its opening quotes. Up to two quotes may stand in the text,
also right before the closing ones. The fuel bounds its length. -/
def lines? (quote : Char) : (fuel : Nat) → Reader (List Char)
  | 0, _ => none
  | _ + 1, [] => none
  | fuel + 1, c :: cs =>
    if c = quote then
      let run := (c :: cs).takeWhile (· == quote)
      let rest := (c :: cs).dropWhile (· == quote)
      if 5 < run.length then none
      else if 3 ≤ run.length then some (run.drop 3, rest)
      else do
        let (ds, rest) ← lines? quote fuel rest
        pure (run ++ ds, rest)
    else if c = '\\' ∧ quote = '"' then
      match continuation? cs with
      | some rest => lines? quote fuel rest
      | none => do
        let (d, rest) ← escape? cs
        let (ds, rest) ← lines? quote fuel rest
        pure (d :: ds, rest)
    else
      match lineBreak? (c :: cs) with
      | some rest => do
        let (ds, rest) ← lines? quote fuel rest
        pure ('\n' :: ds, rest)
      | none =>
        if isPlain c then do
          let (ds, rest) ← lines? quote fuel cs
          pure (c :: ds, rest)
        else none

/-- Read a text of one line after its opening quote. -/
def lineText? (quote : Char) (cs : List Char) : Option (String × List Char) :=
  (line? quote (cs.length + 1) cs).map fun p => (String.ofList p.1, p.2)

/-- Read a text after its first quote. -/
def text? (quote : Char) (cs : List Char) : Option (String × List Char) :=
  match cs with
  | a :: b :: rest =>
    if a = quote ∧ b = quote then
      let body := (lineBreak? rest).getD rest
      (lines? quote (body.length + 1) body).map fun p => (String.ofList p.1, p.2)
    else lineText? quote cs
  | _ => lineText? quote cs

end TrafficLens.Toml
