/-!
# UTF-8

Bytes are naturals below 256. `Utf8.next` reads the character at the start of a sequence of bytes,
or says how many bytes belong together that are no character: a first byte with as many
continuation bytes as could still have become a character. `Utf8.decode?` reads a whole sequence
and `Utf8.decodeLossy` puts the replacement character where there is none.
-/

namespace TrafficLens.Utf8

/-- The character that stands in place of bytes that are no character. -/
def replacement : Char := Char.ofNat 0xFFFD

/-- The form of a character, by its first byte: how many bytes follow, the bits of the first byte,
and the range of the second byte. Ranges leave out what is too long, surrogates, and what is beyond
the last character. -/
def form? (b : Nat) : Option (Nat × Nat × Nat × Nat) :=
  if b < 0x80 then some (0, b, 0x80, 0xBF)
  else if b < 0xC2 then none
  else if b < 0xE0 then some (1, b - 0xC0, 0x80, 0xBF)
  else if b < 0xF0 then
    some (2, b - 0xE0, if b = 0xE0 then 0xA0 else 0x80, if b = 0xED then 0x9F else 0xBF)
  else if b < 0xF5 then
    some (3, b - 0xF0, if b = 0xF0 then 0x90 else 0x80, if b = 0xF4 then 0x8F else 0xBF)
  else none

/-- Read continuation bytes: the number that they make with what came before, or `none` if one is
missing, and the bytes that follow. -/
def continue? : (count acc least most : Nat) → List Nat → Option Nat × List Nat
  | 0, acc, _, _, bs => (some acc, bs)
  | _ + 1, _, _, _, [] => (none, [])
  | count + 1, acc, least, most, b :: bs =>
    if least ≤ b ∧ b ≤ most then continue? count (acc * 64 + (b - 0x80)) 0x80 0xBF bs
    else (none, b :: bs)

/-- Read the character that begins with a byte, and the bytes that follow. -/
def next (b : Nat) (bs : List Nat) : Option Char × List Nat :=
  match form? b with
  | none => (none, bs)
  | some (count, acc, least, most) =>
    let (n, rest) := continue? count acc least most bs
    (n.map Char.ofNat, rest)

/-- Read all characters; the fuel bounds their number. -/
def decodeWith (replace : Option Char) : (fuel : Nat) → List Nat → Option (List Char)
  | _, [] => some []
  | 0, _ => none
  | fuel + 1, b :: bs =>
    match next b bs with
    | (some c, rest) => (decodeWith replace fuel rest).map (c :: ·)
    | (none, rest) =>
      match replace with
      | none => none
      | some c => (decodeWith replace fuel rest).map (c :: ·)

/-- Read a sequence of bytes, if it is UTF-8. -/
def decode? (bs : List Nat) : Option String := (decodeWith none bs.length bs).map String.ofList

/-- Read a sequence of bytes; what is no UTF-8 is replaced. -/
def decodeLossy (bs : List Nat) : String :=
  ((decodeWith (some replacement) bs.length bs).map String.ofList).getD ""

/-- The bytes of a text. -/
def encode (s : String) : List Nat := s.toUTF8.toList.map UInt8.toNat

end TrafficLens.Utf8
