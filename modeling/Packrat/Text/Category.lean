import Packrat.Text.Category.Letter
import Packrat.Text.Category.Mark
import Packrat.Text.Category.Number
import Packrat.Text.Category.Punctuation
import Packrat.Text.Category.Sign
import Packrat.Text.Category.Format

/-! General categories of characters. Every character has exactly one; those of no table are
unassigned. -/
namespace Packrat.Text

inductive Category where
  | uppercaseLetter | lowercaseLetter | titlecaseLetter | modifierLetter | otherLetter
  | nonspacingMark | spacingMark | enclosingMark
  | decimalNumber | letterNumber | otherNumber
  | connectorPunctuation | dashPunctuation | openPunctuation | closePunctuation
  | initialPunctuation | finalPunctuation | otherPunctuation
  | mathSymbol | currencySymbol | modifierSymbol | otherSymbol
  | spaceSeparator | lineSeparator | paragraphSeparator
  | control | format | privateUse | unassigned
  deriving DecidableEq, Repr

namespace Category

/-- Characters listed under a category; the unassigned ones are listed under none. -/
def table : Category → CodeSet
  | uppercaseLetter => Table.uppercaseLetter
  | lowercaseLetter => Table.lowercaseLetter
  | titlecaseLetter => Table.titlecaseLetter
  | modifierLetter => Table.modifierLetter
  | otherLetter => Table.otherLetter
  | nonspacingMark => Table.nonspacingMark
  | spacingMark => Table.spacingMark
  | enclosingMark => Table.enclosingMark
  | decimalNumber => Table.decimalNumber
  | letterNumber => Table.letterNumber
  | otherNumber => Table.otherNumber
  | connectorPunctuation => Table.connectorPunctuation
  | dashPunctuation => Table.dashPunctuation
  | openPunctuation => Table.openPunctuation
  | closePunctuation => Table.closePunctuation
  | initialPunctuation => Table.initialPunctuation
  | finalPunctuation => Table.finalPunctuation
  | otherPunctuation => Table.otherPunctuation
  | mathSymbol => Table.mathSymbol
  | currencySymbol => Table.currencySymbol
  | modifierSymbol => Table.modifierSymbol
  | otherSymbol => Table.otherSymbol
  | spaceSeparator => Table.spaceSeparator
  | lineSeparator => Table.lineSeparator
  | paragraphSeparator => Table.paragraphSeparator
  | control => Table.control
  | format => Table.format
  | privateUse => Table.privateUse
  | unassigned => .empty

def letters : List Category :=
  [uppercaseLetter, lowercaseLetter, titlecaseLetter, modifierLetter, otherLetter]

def casedLetters : List Category := [uppercaseLetter, lowercaseLetter, titlecaseLetter]

def marks : List Category := [nonspacingMark, spacingMark, enclosingMark]

def numbers : List Category := [decimalNumber, letterNumber, otherNumber]

def punctuation : List Category :=
  [connectorPunctuation, dashPunctuation, openPunctuation, closePunctuation, initialPunctuation,
    finalPunctuation, otherPunctuation]

def symbols : List Category := [mathSymbol, currencySymbol, modifierSymbol, otherSymbol]

def separators : List Category := [spaceSeparator, lineSeparator, paragraphSeparator]

/-- Every category with a table of its own. -/
def assigned : List Category :=
  letters ++ marks ++ numbers ++ punctuation ++ symbols ++ separators ++ [control, format, privateUse]

def others : List Category := [control, format, privateUse, unassigned]

def has (k : Category) (c : Char) : Bool :=
  match k with
  | unassigned => assigned.all fun k => !k.table.contains c
  | k => k.table.contains c

def anyHas (ks : List Category) (c : Char) : Bool := ks.any (·.has c)

/-- The characters of no table. -/
def unassignedSet : CodeSet := (CodeSet.unions (assigned.map table)).compl

def set : Category → CodeSet
  | unassigned => unassignedSet
  | k => k.table

def anySet (ks : List Category) : CodeSet := CodeSet.unions (ks.map set)

/-- Categories and groups of categories under each of their names, in lower case without
separators. -/
def names : List (String × List Category) :=
  [("lu", [uppercaseLetter]), ("uppercaseletter", [uppercaseLetter]),
    ("ll", [lowercaseLetter]), ("lowercaseletter", [lowercaseLetter]),
    ("lt", [titlecaseLetter]), ("titlecaseletter", [titlecaseLetter]),
    ("lm", [modifierLetter]), ("modifierletter", [modifierLetter]),
    ("lo", [otherLetter]), ("otherletter", [otherLetter]),
    ("lc", casedLetters), ("casedletter", casedLetters),
    ("l", letters), ("letter", letters),
    ("mn", [nonspacingMark]), ("nonspacingmark", [nonspacingMark]),
    ("mc", [spacingMark]), ("spacingmark", [spacingMark]),
    ("me", [enclosingMark]), ("enclosingmark", [enclosingMark]),
    ("m", marks), ("mark", marks), ("combiningmark", marks),
    ("nd", [decimalNumber]), ("decimalnumber", [decimalNumber]), ("digit", [decimalNumber]),
    ("nl", [letterNumber]), ("letternumber", [letterNumber]),
    ("no", [otherNumber]), ("othernumber", [otherNumber]),
    ("n", numbers), ("number", numbers),
    ("pc", [connectorPunctuation]), ("connectorpunctuation", [connectorPunctuation]),
    ("pd", [dashPunctuation]), ("dashpunctuation", [dashPunctuation]),
    ("ps", [openPunctuation]), ("openpunctuation", [openPunctuation]),
    ("pe", [closePunctuation]), ("closepunctuation", [closePunctuation]),
    ("pi", [initialPunctuation]), ("initialpunctuation", [initialPunctuation]),
    ("pf", [finalPunctuation]), ("finalpunctuation", [finalPunctuation]),
    ("po", [otherPunctuation]), ("otherpunctuation", [otherPunctuation]),
    ("p", punctuation), ("punctuation", punctuation), ("punct", punctuation),
    ("sm", [mathSymbol]), ("mathsymbol", [mathSymbol]),
    ("sc", [currencySymbol]), ("currencysymbol", [currencySymbol]),
    ("sk", [modifierSymbol]), ("modifiersymbol", [modifierSymbol]),
    ("so", [otherSymbol]), ("othersymbol", [otherSymbol]),
    ("s", symbols), ("symbol", symbols),
    ("zs", [spaceSeparator]), ("spaceseparator", [spaceSeparator]),
    ("zl", [lineSeparator]), ("lineseparator", [lineSeparator]),
    ("zp", [paragraphSeparator]), ("paragraphseparator", [paragraphSeparator]),
    ("z", separators), ("separator", separators),
    ("cc", [control]), ("control", [control]), ("cntrl", [control]),
    ("cf", [format]), ("format", [format]),
    ("co", [privateUse]), ("privateuse", [privateUse]),
    ("cn", [unassigned]), ("unassigned", [unassigned]),
    ("c", others), ("other", others),
    ("assigned", assigned)]

def named? (name : String) : Option (List Category) := names.lookup name

end Category

end Packrat.Text
