import Packrat.Text.Addition
import Packrat.Text.Category
import Packrat.Text.PropertyTable

/-! Kinds of characters that texts and messages ask about: what words are made of, what counts as
blank, and what can be shown as it is. They follow version 17.0 of the Unicode standard, which has
more characters than the sets that patterns use. -/
namespace Packrat.Text

def isAlphabetic (c : Char) : Bool :=
  Category.anyHas Category.letters c || Category.letterNumber.has c ||
    Table.otherAlphabetic.contains c || Table.addedAlphabetic.contains c

def isNumeric (c : Char) : Bool :=
  Category.anyHas Category.numbers c || Table.addedNumeric.contains c

def isAlphanumeric (c : Char) : Bool := isAlphabetic c || isNumeric c

/-- White space of any kind, the no-break space included. -/
def isBlank (c : Char) : Bool := Table.whiteSpace.contains c

def isGraphemeExtend (c : Char) : Bool :=
  Category.nonspacingMark.has c || Category.enclosingMark.has c ||
    Table.otherGraphemeExtend.contains c || Table.addedNonspacingMark.contains c

/-- The voiced and semi-voiced sound marks of half width, which attach to the character before them
and yet take a place of their own. -/
def isHalfwidthSoundMark (c : Char) : Bool := c == '\uff9e' || c == '\uff9f'

/-- Characters that are visible as they are and stand for themselves. Of the separators, only the
space is; fillers are not. -/
def isPrintable (c : Char) : Bool :=
  c == ' ' || Table.addedCharacters.contains c ||
    !(Category.anyHas Category.others c || Category.anyHas Category.separators c ||
      Table.otherDefaultIgnorable.contains c)

end Packrat.Text
