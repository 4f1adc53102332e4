import Packrat.Text.Category
import Packrat.Text.PropertyTable

/-! Properties of characters, by name. Most have a table of their own; the others are derived from
categories, and from tables of what categories do not tell. -/
namespace Packrat.Text

namespace Property

open Category

def alphabetic : CodeSet :=
  CodeSet.unions [anySet letters, letterNumber.set, Table.otherAlphabetic]

def lowercase : CodeSet := lowercaseLetter.set.union Table.otherLowercase

def uppercase : CodeSet := uppercaseLetter.set.union Table.otherUppercase

def cased : CodeSet := CodeSet.unions [lowercase, uppercase, titlecaseLetter.set]

/-- Marks between the letters of a word, as in contractions and abbreviations. -/
def midLetter : CodeSet := ⟨#[0x3a, 0x3b, 0xb7, 0xb8, 0x387, 0x388, 0x55f, 0x560, 0x5f4, 0x5f5, 0x2027,
  0x2028, 0xfe13, 0xfe14, 0xfe55, 0xfe56, 0xff1a, 0xff1b]⟩

/-- Marks between the letters of a word or the digits of a number. -/
def midNumLet : CodeSet := ⟨#[0x2e, 0x2f, 0x2018, 0x201a, 0x2024, 0x2025, 0xfe52, 0xfe53, 0xff07, 0xff08,
  0xff0e, 0xff0f]⟩

/-- Characters that do not bear on the case of their neighbours. -/
def caseIgnorable : CodeSet :=
  CodeSet.unions [anySet [nonspacingMark, enclosingMark, format, modifierLetter, modifierSymbol],
    midLetter, midNumLet, .single '\x27']

def changesWhenLowercased : CodeSet :=
  (uppercase.union titlecaseLetter.set).diff Table.fixedUppercase

def changesWhenUppercased : CodeSet :=
  (lowercase.union titlecaseLetter.set).diff Table.fixedLowercase

def changesWhenTitlecased : CodeSet := changesWhenUppercased.symmDiff Table.titlecaseDifference

def changesWhenCasefolded : CodeSet := changesWhenLowercased.symmDiff Table.casefoldDifference

def changesWhenCasemapped : CodeSet :=
  CodeSet.unions [changesWhenLowercased, changesWhenUppercased, changesWhenTitlecased]

def math : CodeSet := mathSymbol.set.union Table.otherMath

def graphemeExtend : CodeSet :=
  CodeSet.unions [nonspacingMark.set, enclosingMark.set, Table.otherGraphemeExtend]

/-- What a cluster of marks may be built on. -/
def graphemeBase : CodeSet :=
  (CodeSet.unions [anySet others, lineSeparator.set, paragraphSeparator.set, graphemeExtend]).compl

def idStart : CodeSet :=
  (CodeSet.unions [anySet letters, letterNumber.set, Table.otherIdStart]).diff
    (Table.patternSyntax.union Table.patternWhiteSpace)

def idContinue : CodeSet :=
  (CodeSet.unions [idStart, anySet [nonspacingMark, spacingMark, decimalNumber, connectorPunctuation],
    Table.otherIdContinue]).diff (Table.patternSyntax.union Table.patternWhiteSpace)

def xidStart : CodeSet := idStart.diff Table.closedStartExclusions

def xidContinue : CodeSet := idContinue.diff Table.closedPartExclusions

/-- Characters of which words are made, as word boundaries see them: numerals other than decimal
digits are no part of a word, combining marks are. -/
def wordPart : CodeSet :=
  CodeSet.unions [alphabetic, anySet marks, decimalNumber.set, connectorPunctuation.set,
    Table.joinControl]

end Property

def isWordPart (c : Char) : Bool :=
  Category.anyHas Category.letters c || Category.letterNumber.has c ||
    Table.otherAlphabetic.contains c || Category.anyHas Category.marks c ||
    Category.decimalNumber.has c || Category.connectorPunctuation.has c ||
    Table.joinControl.contains c

def properties : List (List String × CodeSet) := [
  (["alpha", "alphabetic"], Property.alphabetic),
  (["lower", "lowercase"], Property.lowercase),
  (["upper", "uppercase"], Property.uppercase),
  (["cased"], Property.cased),
  (["ci", "caseignorable"], Property.caseIgnorable),
  (["cwl", "changeswhenlowercased"], Property.changesWhenLowercased),
  (["cwu", "changeswhenuppercased"], Property.changesWhenUppercased),
  (["cwt", "changeswhentitlecased"], Property.changesWhenTitlecased),
  (["cwcf", "changeswhencasefolded"], Property.changesWhenCasefolded),
  (["cwcm", "changeswhencasemapped"], Property.changesWhenCasemapped),
  (["wspace", "whitespace", "space"], Table.whiteSpace),
  (["math"], Property.math),
  (["ids", "idstart"], Property.idStart),
  (["idc", "idcontinue"], Property.idContinue),
  (["xids", "xidstart"], Property.xidStart),
  (["xidc", "xidcontinue"], Property.xidContinue),
  (["idcompatmathstart"], Table.idCompatMathStart),
  (["idcompatmathcontinue"], Table.idCompatMathContinue),
  (["grbase", "graphemebase"], Property.graphemeBase),
  (["grext", "graphemeextend"], Property.graphemeExtend),
  (["grlink", "graphemelink"], Table.graphemeLink),
  (["oalpha", "otheralphabetic"], Table.otherAlphabetic),
  (["olower", "otherlowercase"], Table.otherLowercase),
  (["oupper", "otheruppercase"], Table.otherUppercase),
  (["omath", "othermath"], Table.otherMath),
  (["ogrext", "othergraphemeextend"], Table.otherGraphemeExtend),
  (["oids", "otheridstart"], Table.otherIdStart),
  (["oidc", "otheridcontinue"], Table.otherIdContinue),
  (["odi", "otherdefaultignorablecodepoint"], Table.otherDefaultIgnorable),
  (["di", "defaultignorablecodepoint"], Table.defaultIgnorableCodePoint),
  (["ahex", "asciihexdigit"], Table.asciiHexDigit),
  (["hex", "hexdigit"], Table.hexDigit),
  (["dash"], Table.dash),
  (["hyphen"], Table.hyphen),
  (["qmark", "quotationmark"], Table.quotationMark),
  (["term", "terminalpunctuation"], Table.terminalPunctuation),
  (["sterm", "sentenceterminal"], Table.sentenceTerminal),
  (["dia", "diacritic"], Table.diacritic),
  (["ext", "extender"], Table.extender),
  (["sd", "softdotted"], Table.softDotted),
  (["ideo", "ideographic"], Table.ideographic),
  (["uideo", "unifiedideograph"], Table.unifiedIdeograph),
  (["radical"], Table.radical),
  (["idsb", "idsbinaryoperator"], Table.idsBinaryOperator),
  (["idst", "idstrinaryoperator"], Table.idsTrinaryOperator),
  (["idsu", "idsunaryoperator"], Table.idsUnaryOperator),
  (["emoji"], Table.emoji),
  (["epres", "emojipresentation"], Table.emojiPresentation),
  (["emod", "emojimodifier"], Table.emojiModifier),
  (["ebase", "emojimodifierbase"], Table.emojiModifierBase),
  (["ecomp", "emojicomponent"], Table.emojiComponent),
  (["extpict", "extendedpictographic"], Table.extendedPictographic),
  (["ri", "regionalindicator"], Table.regionalIndicator),
  (["bidic", "bidicontrol"], Table.bidiControl),
  (["bidim", "bidimirrored"], Table.bidiMirrored),
  (["joinc", "joincontrol"], Table.joinControl),
  (["vs", "variationselector"], Table.variationSelector),
  (["nchar", "noncharactercodepoint"], Table.noncharacterCodePoint),
  (["dep", "deprecated"], Table.deprecated),
  (["loe", "logicalorderexception"], Table.logicalOrderException),
  (["pcm", "prependedconcatenationmark"], Table.prependedConcatenationMark),
  (["mcm", "modifiercombiningmark"], Table.modifierCombiningMark),
  (["patsyn", "patternsyntax"], Table.patternSyntax),
  (["patws", "patternwhitespace"], Table.patternWhiteSpace)]

def property? (name : String) : Option CodeSet :=
  (properties.find? (·.1.contains name)).map (·.2)

end Packrat.Text
