import TrafficLens.Pattern.Property.Binary
import TrafficLens.Pattern.Property.Script

/-!
# What stands at the boundaries of characters, words and sentences

The standard divides a text into what readers take for characters, into words and into sentences.
For each of these divisions a character has one of some values. Most values are a category or a
script, with some characters more or less.
-/

namespace TrafficLens.Pattern

namespace CharSet

/-- The carriage return. -/
def carriageReturn : CharSet := runs [(0xD, 0xD)]

/-- The line feed. -/
def lineFeed : CharSet := runs [(0xA, 0xA)]

/-- The joiner of words. -/
def joiner : CharSet := runs [(0x200D, 0x200D)]

/-! ## Characters -/

/-- What goes on with the character before. -/
def graphemeExtension : CharSet := .union graphemeExtend emojiModifier

/-- What goes on with the character behind. -/
def graphemePrepend : CharSet :=
  runs
    [(0x600, 0x605), (0x6DD, 0x6DD), (0x70F, 0x70F), (0x890, 0x891), (0x8E2, 0x8E2),
     (0xD4E, 0xD4E), (0x110BD, 0x110BD), (0x110CD, 0x110CD), (0x111C2, 0x111C3),
     (0x113D1, 0x113D1), (0x1193F, 0x1193F), (0x11941, 0x11941), (0x11A3A, 0x11A3A),
     (0x11A84, 0x11A89), (0x11D46, 0x11D46), (0x11F02, 0x11F02)]

/-- What stands alone. -/
def graphemeControl : CharSet :=
  diff
    (unions
      [lineSeparator, paragraphSeparator, control, format, .inter unassigned defaultIgnorable])
    (unions [carriageReturn, lineFeed, runs [(0x200C, 0x200D)], graphemePrepend, graphemeExtension])

/-- Marks that take room and go on with the character before. -/
def graphemeSpacingMark : CharSet :=
  diff (unions [spacingMark, runs [(0xE33, 0xE33), (0xEB3, 0xEB3)]])
    (unions
      [graphemeExtension,
        runs [(0x102B, 0x102C), (0x1038, 0x1038), (0x1062, 0x1064), (0x1067, 0x106D),
          (0x1083, 0x1083), (0x1087, 0x108C), (0x108F, 0x108F), (0x109A, 0x109C), (0x1A61, 0x1A61),
          (0x1A63, 0x1A64), (0xAA7B, 0xAA7B), (0xAA7D, 0xAA7D), (0x11720, 0x11721)]])

/-- The first consonants of Korean syllables. -/
def hangulLeading : CharSet := runs [(0x1100, 0x115F), (0xA960, 0xA97C)]

/-- The vowels of syllables that are written in parts. -/
def hangulVowel : CharSet :=
  runs [(0x1160, 0x11A7), (0xD7B0, 0xD7C6), (0x16D63, 0x16D63), (0x16D67, 0x16D6A)]

/-- The last consonants of Korean syllables. -/
def hangulTrailing : CharSet := runs [(0x11A8, 0x11FF), (0xD7CB, 0xD7FB)]

/-- The Korean syllables without a last consonant. -/
def hangulOpen : CharSet :=
  runs ((List.range 399).map fun i => (0xAC00 + 28 * i, 0xAC00 + 28 * i))

/-- The Korean syllables with a last consonant. -/
def hangulClosed : CharSet := diff (runs [(0xAC00, 0xD7A3)]) hangulOpen

/-- The values for the division into characters. -/
def graphemeBreaks : List (List String × CharSet) :=
  [(["cn", "control"], graphemeControl),
   (["cr"], carriageReturn),
   (["ex", "extend"], graphemeExtension),
   (["l"], hangulLeading),
   (["lf"], lineFeed),
   (["lv"], hangulOpen),
   (["lvt"], hangulClosed),
   (["pp", "prepend"], graphemePrepend),
   (["ri", "regionalindicator"], regionalIndicator),
   (["sm", "spacingmark"], graphemeSpacingMark),
   (["t"], hangulTrailing),
   (["v"], hangulVowel),
   (["zwj"], joiner)]

/-! ## Words -/

/-- What goes on with the character before, in a word. -/
def wordExtension : CharSet := unions [graphemeExtend, spacingMark, emojiModifier]

/-- Digits and what is written with them, in a word. -/
def wordNumeric : CharSet :=
  .union .digit (runs
    [(0x600, 0x605), (0x66B, 0x66B), (0x6DD, 0x6DD), (0x890, 0x891),
     (0x8E2, 0x8E2), (0x110BD, 0x110BD), (0x110CD, 0x110CD)])

/-- What only formats a word. -/
def wordFormat : CharSet :=
  diff format (unions [runs [(0x200B, 0x200D), (0x70F, 0x70F)], wordExtension, wordNumeric])

/-- What belongs to words of Katakana. -/
def wordKatakana : CharSet :=
  .union katakana (runs
    [(0x3031, 0x3035), (0x309B, 0x309C), (0x30A0, 0x30A0),
     (0x30FC, 0x30FC), (0xFF70, 0xFF70)])

/-- The letters of Hebrew. -/
def wordHebrew : CharSet := .inter hebrew otherLetter

/-- Letters of scripts that do not part their words by blanks. -/
def complexLetter : CharSet :=
  runs
    [(0xE01, 0xE30), (0xE32, 0xE33), (0xE40, 0xE46), (0xE81, 0xE82), (0xE84, 0xE84),
     (0xE86, 0xE8A), (0xE8C, 0xEA3), (0xEA5, 0xEA5), (0xEA7, 0xEB0), (0xEB2, 0xEB3),
     (0xEBD, 0xEBD), (0xEC0, 0xEC4), (0xEC6, 0xEC6), (0xEDC, 0xEDF), (0x1000, 0x102A),
     (0x103F, 0x103F), (0x1050, 0x1055), (0x105A, 0x105D), (0x1061, 0x1061), (0x1065, 0x1066),
     (0x106E, 0x1070), (0x1075, 0x1081), (0x108E, 0x108E), (0x1780, 0x17B3), (0x17D7, 0x17D7),
     (0x17DC, 0x17DC), (0x1950, 0x196D), (0x1970, 0x1974), (0x1980, 0x19AB), (0x19B0, 0x19C9),
     (0x1A20, 0x1A54), (0x1AA7, 0x1AA7), (0xA9E0, 0xA9E4), (0xA9E6, 0xA9EF), (0xA9FA, 0xA9FE),
     (0xAA60, 0xAA76), (0xAA7A, 0xAA7A), (0xAA7E, 0xAAAF), (0xAAB1, 0xAAB1), (0xAAB5, 0xAAB6),
     (0xAAB9, 0xAABD), (0xAAC0, 0xAAC0), (0xAAC2, 0xAAC2), (0xAADB, 0xAADD), (0x11700, 0x1171A),
     (0x11740, 0x11746)]

/-- The other letters. -/
def wordLetter : CharSet :=
  diff
    (.union alphabetic (runs
      [(0x2C2, 0x2C5), (0x2D2, 0x2D7), (0x2DE, 0x2DF), (0x2E5, 0x2EB), (0x2ED, 0x2ED),
       (0x2EF, 0x2FF), (0x55A, 0x55C), (0x55E, 0x55E), (0x58A, 0x58A), (0x5F3, 0x5F3),
       (0x70F, 0x70F), (0xA708, 0xA716), (0xA720, 0xA721), (0xA789, 0xA78A), (0xAB5B, 0xAB5B)]))
    (unions [ideographic, wordKatakana, complexLetter, hiragana, wordExtension, wordHebrew])

/-- What may stand between two letters. -/
def wordMiddleLetter : CharSet :=
  runs
    [(0x3A, 0x3A), (0xB7, 0xB7), (0x387, 0x387), (0x55F, 0x55F), (0x5F4, 0x5F4), (0x2027, 0x2027),
     (0xFE13, 0xFE13), (0xFE55, 0xFE55), (0xFF1A, 0xFF1A)]

/-- What may stand between two digits. -/
def wordMiddleNumber : CharSet :=
  runs
    [(0x2C, 0x2C), (0x3B, 0x3B), (0x37E, 0x37E), (0x589, 0x589), (0x60C, 0x60D), (0x66C, 0x66C),
     (0x7F8, 0x7F8), (0x2044, 0x2044), (0xFE10, 0xFE10), (0xFE14, 0xFE14), (0xFE50, 0xFE50),
     (0xFE54, 0xFE54), (0xFF0C, 0xFF0C), (0xFF1B, 0xFF1B)]

/-- What may stand between two letters or two digits. -/
def wordMiddle : CharSet :=
  runs
    [(0x2E, 0x2E), (0x2018, 0x2019), (0x2024, 0x2024), (0xFE52, 0xFE52), (0xFF07, 0xFF07),
     (0xFF0E, 0xFF0E)]

/-- The values for the division into words. -/
def wordBreaks : List (List String × CharSet) :=
  [(["cr"], carriageReturn),
   (["dq", "doublequote"], .range 0x22 0x22),
   (["ex", "extendnumlet"], .union connectorPunctuation (runs [(0x202F, 0x202F)])),
   (["extend"], wordExtension),
   (["fo", "format"], wordFormat),
   (["hl", "hebrewletter"], wordHebrew),
   (["ka", "katakana"], wordKatakana),
   (["le", "aletter"], wordLetter),
   (["lf"], lineFeed),
   (["mb", "midnumlet"], wordMiddle),
   (["ml", "midletter"], wordMiddleLetter),
   (["mn", "midnum"], wordMiddleNumber),
   (["nl", "newline"], runs [(0xB, 0xC), (0x85, 0x85), (0x2028, 0x2029)]),
   (["nu", "numeric"], wordNumeric),
   (["ri", "regionalindicator"], regionalIndicator),
   (["sq", "singlequote"], .range 0x27 0x27),
   (["wsegspace"], diff spaceSeparator (runs [(0xA0, 0xA0), (0x2007, 0x2007), (0x202F, 0x202F)])),
   (["zwj"], joiner)]

/-! ## Sentences -/

/-- What goes on with the character before, in a sentence. -/
def sentenceExtension : CharSet := unions [graphemeExtend, spacingMark, joiner]

/-- Digits and what is written with them, in a sentence. -/
def sentenceNumeric : CharSet := .union wordNumeric (runs [(0x66C, 0x66C)])

/-- What only formats a sentence. -/
def sentenceFormat : CharSet :=
  diff format (unions [runs [(0x200C, 0x200D)], sentenceExtension, sentenceNumeric])

/-- Blanks within a sentence. -/
def sentenceSpace : CharSet :=
  diff .space (unions [carriageReturn, lineFeed, runs [(0x85, 0x85), (0x2028, 0x2029)]])

/-- Small letters, in a sentence. -/
def sentenceLower : CharSet :=
  diff lowercase (unions [graphemeExtend, runs [(0x10D0, 0x10FA), (0x10FD, 0x10FF)]])

/-- Capitals, in a sentence. -/
def sentenceUpper : CharSet :=
  diff (unions [titlecaseLetter, uppercase]) (runs [(0x1C90, 0x1CBA), (0x1CBD, 0x1CBF)])

/-- The other letters, in a sentence. -/
def sentenceLetter : CharSet :=
  diff (unions [alphabetic, runs [(0xA0, 0xA0), (0x5F3, 0x5F3)]])
    (unions [sentenceLower, sentenceUpper, sentenceExtension, sentenceSpace])

/-- Full stops, which do not always end a sentence. -/
def fullStop : CharSet :=
  runs [(0x2E, 0x2E), (0x2024, 0x2024), (0xFE52, 0xFE52), (0xFF0E, 0xFF0E)]

/-- What ends a sentence. -/
def sentenceEnd : CharSet := diff sentenceTerminal fullStop

/-- Brackets and quotation marks, which may follow the end of a sentence. -/
def sentenceClose : CharSet :=
  diff
    (unions
      [openPunctuation, closePunctuation, initialPunctuation, finalPunctuation,
        runs
          [(0x22, 0x22), (0x27, 0x27), (0x275B, 0x2760), (0x2E00, 0x2E01),
          (0x2E06, 0x2E08), (0x2E0B, 0x2E0B), (0x1F676, 0x1F678)]])
    (unions [runs [(0x5F3, 0x5F3)], fullStop, sentenceEnd])

/-- What shows that a sentence goes on. -/
def sentenceContinuation : CharSet :=
  runs
    [(0x2C, 0x2D), (0x3A, 0x3B), (0x37E, 0x37E), (0x55D, 0x55D), (0x60C, 0x60D), (0x7F8, 0x7F8),
     (0x1802, 0x1802), (0x1808, 0x1808), (0x2013, 0x2014), (0x3001, 0x3001), (0xFE10, 0xFE11),
     (0xFE13, 0xFE14), (0xFE31, 0xFE32), (0xFE50, 0xFE51), (0xFE54, 0xFE55), (0xFE58, 0xFE58),
     (0xFE63, 0xFE63), (0xFF0C, 0xFF0D), (0xFF1A, 0xFF1B), (0xFF64, 0xFF64)]

/-- The values for the division into sentences. -/
def sentenceBreaks : List (List String × CharSet) :=
  [(["at", "aterm"], fullStop),
   (["cl", "close"], sentenceClose),
   (["cr"], carriageReturn),
   (["ex", "extend"], sentenceExtension),
   (["fo", "format"], sentenceFormat),
   (["le", "oletter"], sentenceLetter),
   (["lf"], lineFeed),
   (["lo", "lower"], sentenceLower),
   (["nu", "numeric"], sentenceNumeric),
   (["sc", "scontinue"], sentenceContinuation),
   (["se", "sep"], runs [(0x85, 0x85), (0x2028, 0x2029)]),
   (["sp"], sentenceSpace),
   (["st", "sterm"], sentenceEnd),
   (["up", "upper"], sentenceUpper)]

end CharSet

end TrafficLens.Pattern
