import TrafficLens.Json.Basic

/-!
# Printing JSON

`Json.toText` writes a value without any space. Inside a string the quote, the backslash and the
control characters below the blank are escaped, five of them by a letter and the others by four
hexadecimal digits; all other characters stand for themselves. `Json.toAsciiText` escapes
everything beyond ASCII as well, as UTF-16 units.
-/

namespace TrafficLens.Json

/-- Four hexadecimal digits. -/
def hex4 (n : Nat) : List Char :=
  [n / 4096 % 16, n / 256 % 16, n / 16 % 16, n % 16].map Nat.digitChar

/-- A character as it stands inside a quoted string. -/
def escapeChar (c : Char) : List Char :=
  if c = '"' then ['\\', '"']
  else if c = '\\' then ['\\', '\\']
  else if c.toNat = 8 then ['\\', 'b']
  else if c = '\t' then ['\\', 't']
  else if c = '\n' then ['\\', 'n']
  else if c.toNat = 12 then ['\\', 'f']
  else if c = '\r' then ['\\', 'r']
  else if c.toNat < 32 then '\\' :: 'u' :: hex4 c.toNat
  else [c]

/-- A character as it stands inside a quoted string of ASCII characters. -/
def escapeCharAscii (c : Char) : List Char :=
  if c.toNat < 127 then escapeChar c
  else if c.toNat < 0x10000 then '\\' :: 'u' :: hex4 c.toNat
  else
    let n := c.toNat - 0x10000
    '\\' :: 'u' :: hex4 (0xD800 + n / 1024) ++ '\\' :: 'u' :: hex4 (0xDC00 + n % 1024)

/-- A quoted string. -/
def quote (escape : Char → List Char) (s : String) : List Char :=
  '"' :: s.toList.flatMap escape ++ ['"']

mutual

/-- The characters of a value, before those of `rest`. -/
def write (escape : Char → List Char) : Json → List Char → List Char
  | .null, rest => "null".toList ++ rest
  | .bool true, rest => "true".toList ++ rest
  | .bool false, rest => "false".toList ++ rest
  | .number n, rest => n.toText.toList ++ rest
  | .string s, rest => quote escape s ++ rest
  | .array [], rest => '[' :: ']' :: rest
  | .array (x :: xs), rest => '[' :: write escape x (writeItems escape xs rest)
  | .object [], rest => '\x7b' :: '\x7d' :: rest
  | .object ((k, x) :: ms), rest =>
    '\x7b' :: quote escape k ++ ':' :: write escape x (writeMembers escape ms rest)

/-- The items after the first one, with the closing bracket. -/
def writeItems (escape : Char → List Char) : List Json → List Char → List Char
  | [], rest => ']' :: rest
  | x :: xs, rest => ',' :: write escape x (writeItems escape xs rest)

/-- The members after the first one, with the closing brace. -/
def writeMembers (escape : Char → List Char) : List (String × Json) → List Char → List Char
  | [], rest => '\x7d' :: rest
  | (k, x) :: ms, rest =>
    ',' :: quote escape k ++ ':' :: write escape x (writeMembers escape ms rest)

end

/-- The compact text of a value. -/
def toText (v : Json) : String := String.ofList (write escapeChar v [])

/-- The compact text of a value in ASCII. -/
def toAsciiText (v : Json) : String := String.ofList (write escapeCharAscii v [])

end TrafficLens.Json
