import Packrat.Text.Offset

/-! Places in a YAML text, and the characters found there. -/
namespace Packrat.Yaml

structure Cursor where
  rest : List Char
  /-- The number of bytes before this place. -/
  index : Nat := 0
  line : Nat := 0
  column : Nat := 0
  deriving DecidableEq, Repr

/-- Line breaks; a return followed by a feed is one break. -/
def isBreakChar (c : Char) : Bool :=
  c == '\r' || c == '\n' || c == '\u0085' || c == '\u2028' || c == '\u2029'

def isBlankChar (c : Char) : Bool := c == ' ' || c == '\t'

def isNameChar (c : Char) : Bool := c.isAlphanum || c == '_' || c == '-'

def isAllowed (c : Char) : Bool :=
  c == '\t' || c == '\n' || c == '\r' || (' ' ≤ c && c ≤ '~') || c == '\u0085' ||
    (0xa0 ≤ c.toNat && c.toNat ≤ 0xd7ff) || (0xe000 ≤ c.toNat && c.toNat ≤ 0xfffd) ||
    0x10000 ≤ c.toNat

/-- What a break reads as: most are line feeds. -/
def breakText (c : Char) : Char := if c == '\u2028' || c == '\u2029' then c else '\n'

def isFlowIndicator (c : Char) : Bool :=
  c == ',' || c == '[' || c == ']' || c == '\x7b' || c == '\x7d'

namespace Cursor

def atEnd (c : Cursor) : Bool := c.rest.isEmpty

def peek? (c : Cursor) (offset : Nat) : Option Char := c.rest[offset]?

def sees (c : Cursor) (x : Char) : Bool := c.rest.head? == some x

def seesAny (c : Cursor) (test : Char → Bool) : Bool := c.rest.head?.any test

/-- Whether a blank, a break or the end of the text is `offset` characters away. -/
def endsWord (c : Cursor) (offset : Nat) : Bool :=
  (c.peek? offset).all fun x => isBlankChar x || isBreakChar x

def past (c : Cursor) (n : Nat) : Cursor :=
  { c with
    rest := c.rest.drop n
    index := c.index + Text.byteSize (c.rest.take n)
    column := c.column + n }

def span (c : Cursor) (test : Char → Bool) : List Char × Cursor :=
  let taken := c.rest.takeWhile test
  (taken, c.past taken.length)

def skip (c : Cursor) (test : Char → Bool) : Cursor := (c.span test).2

def lineBreak? (c : Cursor) : Option (Char × Cursor) :=
  match c.rest with
  | '\r' :: '\n' :: rest => some ('\n', ⟨rest, c.index + 2, c.line + 1, 0⟩)
  | x :: rest =>
    if isBreakChar x then some (breakText x, ⟨rest, c.index + x.utf8Size, c.line + 1, 0⟩) else none
  | [] => none

def skipBreak (c : Cursor) : Cursor := (c.lineBreak?.map (·.2)).getD c

/-- Whether a line starts here with a mark between documents. -/
def seesMark (c : Cursor) (x : Char) : Bool :=
  c.column == 0 && [x, x, x].isPrefixOf c.rest && c.endsWord 3

/-- Whether a document starts or ends here. -/
def seesDocument (c : Cursor) : Bool := c.seesMark '-' || c.seesMark '.'

/-- Skips blanks and a comment up to the end of the line; none if anything else stands there. -/
def finishLine? (c : Cursor) : Option Cursor :=
  let c := c.skip isBlankChar
  let c := if c.sees '#' then c.skip (!isBreakChar ·) else c
  if c.rest.head?.all isBreakChar then some c.skipBreak else none

end Cursor

end Packrat.Yaml
