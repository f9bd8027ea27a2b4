import EnvAudit.Unicode.Derived
import EnvAudit.Unicode.Script

/-!
# Segmentation

The properties by which the Unicode standard finds the bounds of graphemes, words and sentences:
Grapheme_Cluster_Break, Word_Break and Sentence_Break.  Each value of such a property is a set, and
the values of one property have no character in common.  The characters of no value are those to
which no rule gives a part of their own.  The sets are built as the standard builds them, from the
general categories, the binary properties and the scripts, and a few characters beside these.
-/

namespace EnvAudit.Unicode

/-! ## Ends of lines -/

def carriageReturn : CharSet := .ofHex "D"

def lineFeed : CharSet := .ofHex "A"

def zeroWidthJoiner : CharSet := .ofHex "200D"

/-- Format characters that neither join nor go before a number. -/
def plainFormat : CharSet :=
  .diff format (.unions [prependedConcatenationMark, graphemeExtend, joinControl])

/-! ## Graphemes -/

namespace GraphemeBreak

/-- What stays with the character in front of it. -/
def extend : CharSet := .union graphemeExtend emojiModifier

/-- What stays with the character behind it. -/
def prepend : CharSet :=
  .union prependedConcatenationMark
    (.ofHex "D4E 111C2-111C3 113D1 1193F 11941 11A3A 11A84-11A89 11D46 11F02")

/-- Marks that take space, but for those that Thai and Burmese count as letters. -/
def spacing : CharSet :=
  .union
    (.diff (.diff spacingMark graphemeExtend)
      (.ofHex "102B-102C 1038 1062-1064 1067-106D 1083 1087-108C 108F 109A-109C 1A61 1A63-1A64
        AA7B AA7D 11720-11721"))
    (.ofHex "E33 EB3")

/-- What stands alone: separators, controls, and what is invisible without being a mark. -/
def control : CharSet :=
  .diff
    (.unions [lineSeparator, paragraphSeparator, Unicode.control, plainFormat,
      .inter unassigned defaultIgnorable])
    (.union carriageReturn lineFeed)

/-- Leading consonants of Korean syllables. -/
def leading : CharSet := .ofHex "1100-115F A960-A97C"

/-- Vowels of Korean syllables, and of a script that composes vowels the same way. -/
def vowel : CharSet := .ofHex "1160-11A7 D7B0-D7C6 16D63 16D67-16D6A"

/-- Trailing consonants of Korean syllables. -/
def trailing : CharSet := .ofHex "11A8-11FF D7CB-D7FB"

/-- All composed Korean syllables. -/
def syllable : CharSet := .range 0xAC00 0xD7A3

/-- Composed syllables without a trailing consonant: there are 28 trailing positions, and the
first of them is empty. -/
def openSyllable : CharSet :=
  ⟨(List.range (19 * 21)).map fun i => (0xAC00 + 28 * i, 0xAC00 + 28 * i)⟩

/-- Composed syllables with a trailing consonant. -/
def closedSyllable : CharSet := .diff syllable openSyllable

end GraphemeBreak

/-- The values of Grapheme_Cluster_Break. -/
def graphemeBreak? : String → Option CharSet
  | "cn" | "control" => some GraphemeBreak.control
  | "cr" => some carriageReturn
  | "ex" | "extend" => some GraphemeBreak.extend
  | "l" => some GraphemeBreak.leading
  | "lf" => some lineFeed
  | "lv" => some GraphemeBreak.openSyllable
  | "lvt" => some GraphemeBreak.closedSyllable
  | "pp" | "prepend" => some GraphemeBreak.prepend
  | "ri" | "regionalindicator" => some regionalIndicator
  | "sm" | "spacingmark" => some GraphemeBreak.spacing
  | "t" => some GraphemeBreak.trailing
  | "v" => some GraphemeBreak.vowel
  | "zwj" => some zeroWidthJoiner
  | _ => none

/-! ## Words -/

namespace WordBreak

/-- What stays with the character in front of it. -/
def extend : CharSet := .unions [graphemeExtend, spacingMark, emojiModifier]

def format : CharSet := .diff plainFormat (.ofHex "200B")

def katakana : CharSet :=
  .diff (.union (ownOf "katakana") (.ofHex "3031-3035 309B-309C 30A0 30FC FF70")) extend

def hebrewLetter : CharSet := .inter (ownOf "hebrew") otherLetter

/-- The scripts whose words are not told apart by the letters: they are written without blanks, or
their words are found in a dictionary. -/
def withoutBlanks : CharSet :=
  .unions (["hiragana", "thai", "lao", "myanmar", "khmer", "taile", "newtailue", "taitham",
    "taiviet", "ahom"].map ownOf)

/-- The letters of words, with modifiers and marks that are written inside words. -/
def letter : CharSet :=
  .diff
    (.union alphabetic
      (.ofHex "2C2-2C5 2D2-2D7 2DE-2DF 2E5-2EB 2ED 2EF-2FF 55A-55C 55E 58A 5F3 70F A708-A716
        A720-A721 A789-A78A AB5B"))
    (.unions [ideographic, katakana, withoutBlanks, extend, hebrewLetter])

/-- Digits, the marks that go before numbers, and the Arabic decimal point. -/
def numeric : CharSet :=
  .diff (.unions [decimalNumber, prependedConcatenationMark, .ofHex "66B 19DA"]) (.ofHex "70F")

/-- What joins letters and numbers into one word. -/
def joining : CharSet := .union connectorPunctuation (.ofHex "202F")

/-- What stands inside a word between letters. -/
def midLetter : CharSet := .ofHex "3A B7 387 55F 5F4 2027 FE13 FE55 FF1A"

/-- What stands inside a number between digits. -/
def midNumber : CharSet := .ofHex "2C 3B 37E 589 60C-60D 66C 7F8 2044 FE50 FE54 FF0C FF1B"

/-- What stands inside words and inside numbers. -/
def midBoth : CharSet := .ofHex "2E 2018-2019 2024 FE52 FF07 FF0E"

def newline : CharSet := .ofHex "B-C 85 2028-2029"

/-- Blanks at which a line may break. -/
def space : CharSet := .diff spaceSeparator (.ofHex "A0 2007 202F")

def singleQuote : CharSet := .ofHex "27"

def doubleQuote : CharSet := .ofHex "22"

end WordBreak

/-- The values of Word_Break. -/
def wordBreak? : String → Option CharSet
  | "le" | "aletter" => some WordBreak.letter
  | "cr" => some carriageReturn
  | "dq" | "doublequote" => some WordBreak.doubleQuote
  | "ex" | "extendnumlet" => some WordBreak.joining
  | "extend" => some WordBreak.extend
  | "fo" | "format" => some WordBreak.format
  | "hl" | "hebrewletter" => some WordBreak.hebrewLetter
  | "ka" | "katakana" => some WordBreak.katakana
  | "lf" => some lineFeed
  | "mb" | "midnumlet" => some WordBreak.midBoth
  | "ml" | "midletter" => some WordBreak.midLetter
  | "mn" | "midnum" => some WordBreak.midNumber
  | "nl" | "newline" => some WordBreak.newline
  | "nu" | "numeric" => some WordBreak.numeric
  | "ri" | "regionalindicator" => some regionalIndicator
  | "sq" | "singlequote" => some WordBreak.singleQuote
  | "wsegspace" => some WordBreak.space
  | "zwj" => some zeroWidthJoiner
  | _ => none

/-! ## Sentences -/

namespace SentenceBreak

/-- What stays with the character in front of it. -/
def extend : CharSet := .unions [graphemeExtend, spacingMark, zeroWidthJoiner]

/-- Paragraph ends of one character. -/
def separator : CharSet := .ofHex "85 2028-2029"

def format : CharSet := .union plainFormat (.ofHex "70F")

def space : CharSet := .diff whiteSpace (.unions [separator, carriageReturn, lineFeed])

/-- Small letters; those of Georgian also open sentences, so they do not count. -/
def lower : CharSet := .diff lowercase (.union extend (.ofHex "10D0-10FA 10FD-10FF"))

/-- Capitals and title case; the capitals of Georgian are for whole words, so they do not count. -/
def upper : CharSet :=
  .diff (.union uppercase titlecaseLetter) (.ofHex "1C90-1CBA 1CBD-1CBF")

/-- Letters that say nothing about where a sentence begins. -/
def letter : CharSet :=
  .diff (.union alphabetic (.ofHex "5F3")) (.unions [lower, upper, extend])

def numeric : CharSet := .union WordBreak.numeric (.ofHex "66C")

/-- Full stops that also end abbreviations. -/
def ambiguousEnd : CharSet := .ofHex "2E 2024 FE52 FF0E"

/-- Marks that end a sentence and nothing else. -/
def sureEnd : CharSet := .diff sentenceTerminal ambiguousEnd

/-- Marks after which the sentence goes on. -/
def continuing : CharSet := .ofHex
  "2C-2D 3A-3B 37E 55D 60C-60D 7F8 1802 1808 2013-2014 3001 FE10-FE11 FE13-FE14 FE31-FE32
   FE50-FE51 FE54-FE55 FE58 FE63 FF0C-FF0D FF1A-FF1B FF64"

/-- Brackets and quotation marks, which may follow the end of a sentence. -/
def closing : CharSet :=
  .unions [openPunctuation, closePunctuation, initialPunctuation, finalPunctuation,
    .ofHex "22 27 275B-2760 2E00-2E01 2E06-2E08 2E0B 1F676-1F678"]

end SentenceBreak

/-- The values of Sentence_Break. -/
def sentenceBreak? : String → Option CharSet
  | "at" | "aterm" => some SentenceBreak.ambiguousEnd
  | "cl" | "close" => some SentenceBreak.closing
  | "cr" => some carriageReturn
  | "ex" | "extend" => some SentenceBreak.extend
  | "fo" | "format" => some SentenceBreak.format
  | "le" | "oletter" => some SentenceBreak.letter
  | "lf" => some lineFeed
  | "lo" | "lower" => some SentenceBreak.lower
  | "nu" | "numeric" => some SentenceBreak.numeric
  | "sc" | "scontinue" => some SentenceBreak.continuing
  | "se" | "sep" => some SentenceBreak.separator
  | "sp" => some SentenceBreak.space
  | "st" | "sterm" => some SentenceBreak.sureEnd
  | "up" | "upper" => some SentenceBreak.upper
  | _ => none

end EnvAudit.Unicode
