import RoutePattern.Regex.Derived

/-!
# Properties that divide text

Text is divided into what a reader sees as one character, into words and into sentences. Each
division gives every character a value of its own property; the values are sets with a name, and
two sets of one division have no character in common.
-/

namespace RoutePattern.Regex.Property

/-- The characters with the given code points. -/
def ofCodes (codes : List Nat) : CharSet := .ofRanges (codes.map fun code => ⟨code, code⟩)

/-- The character that joins its neighbours without a width of its own. -/
def joiner : CharSet := ofCodes [0x200D]

/-- The flags' letters. -/
def regionalIndicator : CharSet := tabulated "regionalindicator"

/-- The marks that are written before the characters they belong to. -/
def prependedMark : CharSet := tabulated "prependedconcatenationmark"

/-- The syllables of two letters, each the first of the 28 that start with the same two. -/
def openSyllable : CharSet := .ofRuns [⟨0xAC00, 0xD7A3, 28⟩]

/-! ## Characters as a reader sees them -/

/-- What belongs to the visible character before it. -/
def graphemeExtender : CharSet :=
  .diff (.union graphemeExtend (tabulated "emojimodifier")) joiner

/-- What stands alone between visible characters and is not seen. -/
def graphemeControl : CharSet :=
  .diff
    (.union (.categories [.zl, .zp, .cc, .cf])
      (.inter (.category .cn) (tabulated "defaultignorablecodepoint")))
    (.unions [ofCodes [0x0A, 0x0D, 0x200C, 0x200D], prependedMark, graphemeExtend])

/-- What belongs to the visible character after it. -/
def graphemePrepend : CharSet :=
  .union prependedMark
    (.ofRanges [⟨0xD4E, 0xD4E⟩, ⟨0x111C2, 0x111C3⟩, ⟨0x113D1, 0x113D1⟩, ⟨0x1193F, 0x1193F⟩,
      ⟨0x11941, 0x11941⟩, ⟨0x11A3A, 0x11A3A⟩, ⟨0x11A84, 0x11A89⟩, ⟨0x11D46, 0x11D46⟩,
      ⟨0x11F02, 0x11F02⟩])

/-- What belongs to the visible character before it and has a width of its own. -/
def graphemeSpacing : CharSet :=
  .diff (.union (.category .mc) (ofCodes [0xE33, 0xEB3]))
    (.union graphemeExtender
      (.ofRanges [⟨0x102B, 0x102C⟩, ⟨0x1038, 0x1038⟩, ⟨0x1062, 0x1064⟩, ⟨0x1067, 0x106D⟩,
        ⟨0x1083, 0x1083⟩, ⟨0x1087, 0x108C⟩, ⟨0x108F, 0x108F⟩, ⟨0x109A, 0x109C⟩,
        ⟨0x1A61, 0x1A61⟩, ⟨0x1A63, 0x1A64⟩, ⟨0xAA7B, 0xAA7B⟩, ⟨0xAA7D, 0xAA7D⟩,
        ⟨0x11720, 0x11721⟩]))

/-- The characters with the given value in the division into visible characters. -/
def graphemeBreak? (value : String) : Option CharSet :=
  match value with
  | "cr" => some (ofCodes [0x0D])
  | "lf" => some (ofCodes [0x0A])
  | "zwj" => some joiner
  | "cn" | "control" => some graphemeControl
  | "ex" | "extend" => some graphemeExtender
  | "pp" | "prepend" => some graphemePrepend
  | "ri" | "regionalindicator" => some regionalIndicator
  | "sm" | "spacingmark" => some graphemeSpacing
  | "l" => some (.ofRanges [⟨0x1100, 0x115F⟩, ⟨0xA960, 0xA97C⟩])
  | "v" => some (.ofRanges [⟨0x1160, 0x11A7⟩, ⟨0xD7B0, 0xD7C6⟩, ⟨0x16D63, 0x16D63⟩,
      ⟨0x16D67, 0x16D6A⟩])
  | "t" => some (.ofRanges [⟨0x11A8, 0x11FF⟩, ⟨0xD7CB, 0xD7FB⟩])
  | "lv" => some openSyllable
  | "lvt" => some (.diff (.range 0xAC00 0xD7A3) openSyllable)
  | _ => none

/-! ## Words -/

/-- What belongs to the letter before it. -/
def wordExtender : CharSet :=
  .diff (.unions [graphemeExtend, .category .mc, tabulated "emojimodifier"]) joiner

/-- What numbers are made of. -/
def wordNumeric : CharSet :=
  .unions [.category .nd, ofCodes [0x66B], .diff prependedMark (ofCodes [0x70F])]

/-- What formats text and has no part in words. -/
def wordFormat : CharSet :=
  .diff (.category .cf)
    (.unions [ofCodes [0x70F, 0x200B, 0x200C, 0x200D], graphemeExtend, wordNumeric])

/-- The letters of one of the two syllabaries that are written side by side. -/
def katakana : CharSet :=
  .union (script "katakana")
    (.ofRanges [⟨0x3031, 0x3035⟩, ⟨0x309B, 0x309C⟩, ⟨0x30A0, 0x30A0⟩, ⟨0x30FC, 0x30FC⟩,
      ⟨0xFF70, 0xFF70⟩])

/-- The letters that quotation marks may follow as part of the word. -/
def hebrewLetter : CharSet := .inter (script "hebrew") (.category .lo)

/-- The scripts that write words without a space between them. -/
def unspacedScripts : List String :=
  ["thai", "lao", "myanmar", "khmer", "taile", "newtailue", "taitham", "taiviet", "ahom",
    "hiragana"]

/-- The characters that are letters in words though they are not alphabetic. -/
def letterLike : CharSet :=
  .ofRanges [⟨0x2C2, 0x2C5⟩, ⟨0x2D2, 0x2D7⟩, ⟨0x2DE, 0x2DF⟩, ⟨0x2E5, 0x2EB⟩, ⟨0x2ED, 0x2ED⟩,
    ⟨0x2EF, 0x2FF⟩, ⟨0x55A, 0x55C⟩, ⟨0x55E, 0x55E⟩, ⟨0x58A, 0x58A⟩, ⟨0x5F3, 0x5F3⟩,
    ⟨0x70F, 0x70F⟩, ⟨0xA708, 0xA716⟩, ⟨0xA720, 0xA721⟩, ⟨0xA789, 0xA78A⟩, ⟨0xAB5B, 0xAB5B⟩]

/-- The letters of scripts that write a space between words. -/
def wordLetter : CharSet :=
  .diff (.union .alphabetic letterLike)
    (.unions ([tabulated "ideographic", katakana, wordExtender, hebrewLetter] ++
      unspacedScripts.map script))

/-- The characters with the given value in the division into words. -/
def wordBreak? (value : String) : Option CharSet :=
  match value with
  | "cr" => some (ofCodes [0x0D])
  | "lf" => some (ofCodes [0x0A])
  | "nl" | "newline" => some (ofCodes [0x0B, 0x0C, 0x85, 0x2028, 0x2029])
  | "zwj" => some joiner
  | "extend" => some wordExtender
  | "ri" | "regionalindicator" => some regionalIndicator
  | "fo" | "format" => some wordFormat
  | "ka" | "katakana" => some katakana
  | "hl" | "hebrewletter" => some hebrewLetter
  | "le" | "aletter" => some wordLetter
  | "sq" | "singlequote" => some (ofCodes [0x27])
  | "dq" | "doublequote" => some (ofCodes [0x22])
  | "mb" | "midnumlet" => some (ofCodes [0x2E, 0x2018, 0x2019, 0x2024, 0xFE52, 0xFF07, 0xFF0E])
  | "ml" | "midletter" =>
    some (ofCodes [0x3A, 0xB7, 0x387, 0x55F, 0x5F4, 0x2027, 0xFE13, 0xFE55, 0xFF1A])
  | "mn" | "midnum" =>
    some (ofCodes [0x2C, 0x3B, 0x37E, 0x589, 0x60C, 0x60D, 0x66C, 0x7F8, 0x2044, 0xFE10, 0xFE14,
      0xFE50, 0xFE54, 0xFF0C, 0xFF1B])
  | "nu" | "numeric" => some wordNumeric
  | "ex" | "extendnumlet" => some (.union (.category .pc) (ofCodes [0x202F]))
  | "wsegspace" => some (.diff (.category .zs) (ofCodes [0xA0, 0x2007, 0x202F]))
  | _ => none

/-! ## Sentences -/

/-- What belongs to the character before it. -/
def sentenceExtender : CharSet := .unions [graphemeExtend, .category .mc, joiner]

/-- What numbers are made of. -/
def sentenceNumeric : CharSet := .union wordNumeric (ofCodes [0x66C])

/-- The small letters, but for one script whose two cases do not tell sentences apart. -/
def sentenceLower : CharSet :=
  .diff lowercase
    (.union sentenceExtender (.ofRanges [⟨0x10D0, 0x10FA⟩, ⟨0x10FD, 0x10FF⟩]))

/-- The capital letters, but for one script whose two cases do not tell sentences apart. -/
def sentenceUpper : CharSet :=
  .diff (.union uppercase (.category .lt)) (.ofRanges [⟨0x1C90, 0x1CBA⟩, ⟨0x1CBD, 0x1CBF⟩])

/-- The full stops that may also end an abbreviation. -/
def fullStop : CharSet := ofCodes [0x2E, 0x2024, 0xFE52, 0xFF0E]

/-- The marks that end a sentence and nothing else. -/
def sentenceEnd : CharSet := .diff (tabulated "sentenceterminal") fullStop

/-- The brackets and quotation marks that may close a sentence. -/
def sentenceClose : CharSet :=
  .diff
    (.union (.categories [.ps, .pe, .pi, .pf])
      (.ofRanges [⟨0x22, 0x22⟩, ⟨0x27, 0x27⟩, ⟨0x275B, 0x2760⟩, ⟨0x2E00, 0x2E01⟩, ⟨0x2E06, 0x2E08⟩,
        ⟨0x2E0B, 0x2E0B⟩, ⟨0x1F676, 0x1F678⟩]))
    (.union fullStop sentenceEnd)

/-- The marks inside a sentence after which it goes on. -/
def sentenceContinue : CharSet :=
  .ofRanges [⟨0x2C, 0x2D⟩, ⟨0x3A, 0x3B⟩, ⟨0x37E, 0x37E⟩, ⟨0x55D, 0x55D⟩, ⟨0x60C, 0x60D⟩,
    ⟨0x7F8, 0x7F8⟩, ⟨0x1802, 0x1802⟩, ⟨0x1808, 0x1808⟩, ⟨0x2013, 0x2014⟩, ⟨0x3001, 0x3001⟩,
    ⟨0xFE10, 0xFE11⟩, ⟨0xFE13, 0xFE14⟩, ⟨0xFE31, 0xFE32⟩, ⟨0xFE50, 0xFE51⟩, ⟨0xFE54, 0xFE55⟩,
    ⟨0xFE58, 0xFE58⟩, ⟨0xFE63, 0xFE63⟩, ⟨0xFF0C, 0xFF0D⟩, ⟨0xFF1A, 0xFF1B⟩, ⟨0xFF64, 0xFF64⟩]

/-- The characters with the given value in the division into sentences. -/
def sentenceBreak? (value : String) : Option CharSet :=
  match value with
  | "cr" => some (ofCodes [0x0D])
  | "lf" => some (ofCodes [0x0A])
  | "se" | "sep" => some (ofCodes [0x85, 0x2028, 0x2029])
  | "ex" | "extend" => some sentenceExtender
  | "fo" | "format" =>
    some (.diff (.category .cf) (.unions [ofCodes [0x200C], sentenceExtender, sentenceNumeric]))
  | "sp" => some (.diff .whiteSpace (ofCodes [0x0A, 0x0D, 0x85, 0x2028, 0x2029]))
  | "lo" | "lower" => some sentenceLower
  | "up" | "upper" => some sentenceUpper
  | "le" | "oletter" =>
    some (.diff (.union .alphabetic (ofCodes [0x5F3]))
      (.unions [sentenceLower, sentenceUpper, sentenceExtender]))
  | "nu" | "numeric" => some sentenceNumeric
  | "at" | "aterm" => some fullStop
  | "sc" | "scontinue" => some sentenceContinue
  | "st" | "sterm" => some sentenceEnd
  | "cl" | "close" => some sentenceClose
  | _ => none

end RoutePattern.Regex.Property
