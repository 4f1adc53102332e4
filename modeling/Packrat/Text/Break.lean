import Packrat.Text.Property
import Packrat.Text.Script

/-! How characters bear on the boundaries between clusters of marks, words and sentences. The
characters of each kind are found by its short or long name, written in lower case without
separators. -/
namespace Packrat.Text

open Category Property

/-- Line feed, carriage return and the joiner that makes one sign of two. -/
def lineFeed : CodeSet := .single '\n'

def carriageReturn : CodeSet := .single '\r'

def zeroWidthJoiner : CodeSet := .single '\u200d'

/-- Signs that group with the digits of a number: those that stand before it, and a second form of
the digit one. -/
def numberSigns : CodeSet :=
  ⟨#[0x600, 0x606, 0x6dd, 0x6de, 0x890, 0x892, 0x8e2, 0x8e3, 0x19da, 0x19db, 0x110bd, 0x110be, 0x110cd,
    0x110ce]⟩

namespace Cluster

def controls : CodeSet :=
  ((CodeSet.unions [anySet [lineSeparator, paragraphSeparator, Category.control, format],
    Table.defaultIgnorableCodePoint.inter unassigned.set]).diff
    (CodeSet.unions [lineFeed, carriageReturn, ⟨#[0x200c, 0x200e]⟩, graphemeExtend])).diff
    Table.prependedConcatenationMark

/-- Characters that form one cluster with what follows. -/
def prepended : CodeSet :=
  Table.prependedConcatenationMark.union
    ⟨#[0xd4e, 0xd4f, 0x111c2, 0x111c4, 0x113d1, 0x113d2, 0x1193f, 0x11940, 0x11941, 0x11942, 0x11a3a,
      0x11a3b, 0x11a84, 0x11a8a, 0x11d46, 0x11d47, 0x11f02, 0x11f03]⟩

/-- Spacing marks that belong to the character before them. -/
def spacingMarks : CodeSet :=
  (spacingMark.set.diff (graphemeExtend.union
    ⟨#[0x102b, 0x102d, 0x1038, 0x1039, 0x1062, 0x1065, 0x1067, 0x106e, 0x1083, 0x1084, 0x1087, 0x108d,
      0x108f, 0x1090, 0x109a, 0x109d, 0x1a61, 0x1a62, 0x1a63, 0x1a65, 0xaa7b, 0xaa7c, 0xaa7d, 0xaa7e,
      0x11720, 0x11722]⟩)).union ⟨#[0xe33, 0xe34, 0xeb3, 0xeb4]⟩

def openSyllables : CodeSet :=
  ⟨((List.range 399).flatMap fun k => [0xac00 + 28 * k, 0xac01 + 28 * k]).toArray⟩

def kinds : List (List String × CodeSet) := [
  (["cn", "control"], controls),
  (["cr"], carriageReturn),
  (["ex", "extend"], graphemeExtend.union Table.emojiModifier),
  (["l"], ⟨#[0x1100, 0x1160, 0xa960, 0xa97d]⟩),
  (["lf"], lineFeed),
  (["lv"], openSyllables),
  (["lvt"], CodeSet.diff ⟨#[0xac00, 0xd7a4]⟩ openSyllables),
  (["pp", "prepend"], prepended),
  (["ri", "regionalindicator"], Table.regionalIndicator),
  (["sm", "spacingmark"], spacingMarks),
  (["t"], ⟨#[0x11a8, 0x1200, 0xd7cb, 0xd7fc]⟩),
  (["v"], ⟨#[0x1160, 0x11a8, 0xd7b0, 0xd7c7, 0x16d63, 0x16d64, 0x16d67, 0x16d6b]⟩),
  (["zwj"], zeroWidthJoiner)]

end Cluster

namespace Word

/-- Marks and other characters that continue what stands before them. -/
def extending : CodeSet :=
  CodeSet.unions [graphemeExtend, spacingMark.set, Table.emojiModifier]

def hebrewLetter : CodeSet := Table.hebrewScript.inter otherLetter.set

def katakana : CodeSet :=
  (Table.katakanaScript.union
    ⟨#[0x3031, 0x3036, 0x309b, 0x309d, 0x30a0, 0x30a1, 0x30fc, 0x30fd, 0xff70, 0xff71]⟩).diff
    graphemeExtend

def unspacedLetters : CodeSet := ⟨#[
  0xe01, 0xe31, 0xe32, 0xe34, 0xe40, 0xe47, 0xe81, 0xe83, 0xe84, 0xe85, 0xe86, 0xe8b, 0xe8c, 0xea4,
  0xea5, 0xea6, 0xea7, 0xeb1, 0xeb2, 0xeb4, 0xebd, 0xebe, 0xec0, 0xec5, 0xec6, 0xec7, 0xedc, 0xee0,
  0x1000, 0x102b, 0x103f, 0x1040, 0x1050, 0x1056, 0x105a, 0x105e, 0x1061, 0x1062, 0x1065, 0x1067,
  0x106e, 0x1071, 0x1075, 0x1082, 0x108e, 0x108f, 0x109e, 0x10a0, 0x1780, 0x17b4, 0x17d7, 0x17d8,
  0x17dc, 0x17dd, 0x1950, 0x196e, 0x1970, 0x1975, 0x1980, 0x19ac, 0x19b0, 0x19ca, 0x19da, 0x19db,
  0x19de, 0x19e0, 0x1a20, 0x1a55, 0x1aa0, 0x1aae, 0xa9e0, 0xa9e5, 0xa9e6, 0xa9f0, 0xa9fa, 0xa9ff,
  0xaa60, 0xaa7b, 0xaa7e, 0xaab0, 0xaab1, 0xaab2, 0xaab5, 0xaab7, 0xaab9, 0xaabe, 0xaac0, 0xaac1,
  0xaac2, 0xaac3, 0xaadb, 0xaae0, 0x11700, 0x1171b, 0x1173a, 0x1173c, 0x1173f, 0x11747]⟩

/-- Signs that words contain although they are not alphabetic. -/
def letterlikeSigns : CodeSet := ⟨#[
  0x2c2, 0x2c6, 0x2d2, 0x2d8, 0x2de, 0x2e0, 0x2e5, 0x2ec, 0x2ed, 0x2ee, 0x2ef, 0x300, 0x55a, 0x55d,
  0x55e, 0x55f, 0x58a, 0x58b, 0x5f3, 0x5f4, 0x70f, 0x710, 0xa708, 0xa717, 0xa720, 0xa722, 0xa789,
  0xa78b, 0xab5b, 0xab5c]⟩

def letter : CodeSet :=
  (alphabetic.union letterlikeSigns).diff
    (CodeSet.unions [Table.ideographic, katakana, unspacedLetters, Table.hiraganaScript, extending,
      hebrewLetter])

def kinds : List (List String × CodeSet) := [
  (["cr"], carriageReturn),
  (["dq", "doublequote"], .single '"'),
  (["extend"], extending),
  (["ex", "extendnumlet"],
    ⟨#[0x5f, 0x60, 0x202f, 0x2030, 0x203f, 0x2041, 0x2054, 0x2055, 0xfe33, 0xfe35, 0xfe4d, 0xfe50, 0xff3f,
      0xff40]⟩),
  (["fo", "format"],
    format.set.diff (CodeSet.unions [⟨#[0x200b, 0x200e]⟩, Cluster.prepended, graphemeExtend])),
  (["hl", "hebrewletter"], hebrewLetter),
  (["ka", "katakana"], katakana),
  (["le", "aletter"], letter),
  (["lf"], lineFeed),
  (["mb", "midnumlet"], midNumLet),
  (["ml", "midletter"], midLetter),
  (["mn", "midnum"],
    ⟨#[0x2c, 0x2d, 0x3b, 0x3c, 0x37e, 0x37f, 0x589, 0x58a, 0x60c, 0x60e, 0x66c, 0x66d, 0x7f8, 0x7f9,
      0x2044, 0x2045, 0xfe50, 0xfe51, 0xfe54, 0xfe55, 0xff0c, 0xff0d, 0xff1b, 0xff1c]⟩),
  (["nl", "newline"], ⟨#[0xb, 0xd, 0x85, 0x86, 0x2028, 0x202a]⟩),
  (["nu", "numeric"], CodeSet.unions [decimalNumber.set, numberSigns, .single '\u066b']),
  (["ri", "regionalindicator"], Table.regionalIndicator),
  (["sq", "singlequote"], .single '\x27'),
  (["wsegspace"], spaceSeparator.set.diff ⟨#[0xa0, 0xa1, 0x2007, 0x2008, 0x202f, 0x2030]⟩),
  (["zwj"], zeroWidthJoiner)]

end Word

namespace Sentence

def extending : CodeSet := CodeSet.unions [graphemeExtend, spacingMark.set, zeroWidthJoiner]

def separator : CodeSet := ⟨#[0x85, 0x86, 0x2028, 0x202a]⟩

/-- Full stops, which may also end an abbreviation or stand in a number. -/
def fullStop : CodeSet := ⟨#[0x2e, 0x2f, 0x2024, 0x2025, 0xfe52, 0xfe53, 0xff0e, 0xff0f]⟩

def lower : CodeSet := lowercase.diff (graphemeExtend.union ⟨#[0x10d0, 0x10fb, 0x10fd, 0x1100]⟩)

def upper : CodeSet :=
  (titlecaseLetter.set.union uppercase).diff ⟨#[0x1c90, 0x1cbb, 0x1cbd, 0x1cc0]⟩

def numeric : CodeSet := CodeSet.unions [decimalNumber.set, numberSigns, ⟨#[0x66b, 0x66d]⟩]

def kinds : List (List String × CodeSet) := [
  (["at", "aterm"], fullStop),
  (["cl", "close"],
    (anySet [openPunctuation, closePunctuation, initialPunctuation, finalPunctuation]).union
      ⟨#[0x22, 0x23, 0x27, 0x28, 0x275b, 0x2761, 0x2e00, 0x2e02, 0x2e06, 0x2e09, 0x2e0b, 0x2e0c, 0x1f676,
        0x1f679]⟩),
  (["cr"], carriageReturn),
  (["ex", "extend"], extending),
  (["fo", "format"],
    format.set.diff (CodeSet.unions [⟨#[0x200c, 0x200e]⟩, graphemeExtend, numeric])),
  (["le", "oletter"],
    (alphabetic.union (.single '\u05f3')).diff (CodeSet.unions [lower, upper, extending])),
  (["lf"], lineFeed),
  (["lo", "lower"], lower),
  (["nu", "numeric"], numeric),
  (["sc", "scontinue"],
    ⟨#[0x2c, 0x2e, 0x3a, 0x3c, 0x37e, 0x37f, 0x55d, 0x55e, 0x60c, 0x60e, 0x7f8, 0x7f9, 0x1802, 0x1803,
      0x1808, 0x1809, 0x2013, 0x2015, 0x3001, 0x3002, 0xfe10, 0xfe12, 0xfe13, 0xfe15, 0xfe31, 0xfe33,
      0xfe50, 0xfe52, 0xfe54, 0xfe56, 0xfe58, 0xfe59, 0xfe63, 0xfe64, 0xff0c, 0xff0e, 0xff1a, 0xff1c,
      0xff64, 0xff65]⟩),
  (["se", "sep"], separator),
  (["sp"], Table.whiteSpace.diff (CodeSet.unions [separator, lineFeed, carriageReturn])),
  (["st", "sterm"], Table.sentenceTerminal.diff fullStop),
  (["up", "upper"], upper)]

end Sentence

def namedSet? (kinds : List (List String × CodeSet)) (name : String) : Option CodeSet :=
  (kinds.find? (·.1.contains name)).map (·.2)

end Packrat.Text
