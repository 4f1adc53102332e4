import Packrat.Text.Property

/-! Regular patterns. -/
namespace Packrat

/-- What words are made of. -/
inductive Alphabet where
  /-- Characters of any script. -/
  | full
  /-- Basic letters, digits and the underscore. -/
  | basic
  deriving DecidableEq, Repr

def Alphabet.hasWordPart : Alphabet → Char → Bool
  | full, c => Text.isWordPart c
  | basic, c => c.isAlphanum || c == '_'

/-- Conditions on a place that consume nothing. -/
inductive Anchor where
  | textStart
  | textEnd
  /-- After a line feed; with `returns`, carriage returns end lines as well. -/
  | lineStart (returns : Bool)
  | lineEnd (returns : Bool)
  | wordBoundary (a : Alphabet)
  | notWordBoundary (a : Alphabet)
  | wordStart (a : Alphabet)
  | wordEnd (a : Alphabet)
  | wordStartHalf (a : Alphabet)
  | wordEndHalf (a : Alphabet)
  deriving DecidableEq, Repr

/-- Whether the condition holds between two characters. There is none before the start of the text
and none after its end. -/
def Anchor.holds (a : Anchor) (previous next : Option Char) : Bool :=
  match a with
  | textStart => previous.isNone
  | textEnd => next.isNone
  | lineStart false => previous.all (· == '\n')
  | lineStart true =>
    previous.all (· == '\n') || (previous.any (· == '\r') && !next.any (· == '\n'))
  | lineEnd false => next.all (· == '\n')
  | lineEnd true => next.all (· == '\r') || (next.any (· == '\n') && !previous.any (· == '\r'))
  | wordBoundary a => previous.any a.hasWordPart != next.any a.hasWordPart
  | notWordBoundary a => previous.any a.hasWordPart == next.any a.hasWordPart
  | wordStart a => !previous.any a.hasWordPart && next.any a.hasWordPart
  | wordEnd a => previous.any a.hasWordPart && !next.any a.hasWordPart
  | wordStartHalf a => !previous.any a.hasWordPart
  | wordEndHalf a => !next.any a.hasWordPart

inductive Pattern where
  | empty
  /-- Exactly this text. -/
  | text (cs : List Char)
  /-- One character of a set. -/
  | set (s : Text.CodeSet)
  | anchor (a : Anchor)
  /-- At least `least` and at most `most` copies; a greedy repetition prefers more. -/
  | times (body : Pattern) (least : Nat) (most : Option Nat) (greedy : Bool)
  /-- A numbered group. -/
  | group (number : Nat) (body : Pattern)
  /-- One part after another. -/
  | seq (parts : List Pattern)
  /-- One of the branches; an earlier one is preferred. -/
  | alt (branches : List Pattern)

end Packrat
