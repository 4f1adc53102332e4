import Packrat.GrammarError
import Packrat.Pattern.Thread
import Packrat.Pattern.Reader
import Packrat.Text.Kind
import Packrat.Text.Offset

/-! Token definitions: named patterns that are tried at a place of the input.

A pattern is read inside a group behind a start anchor, and applied to the input from the place on.
What must follow or precede a token is a pattern of its own, applied to the rest of the input or to
the input before the token. -/
namespace Packrat

inductive Token.Kind where
  | pattern | keyword | lookaround
  deriving DecidableEq, Repr

def Token.Kind.label : Token.Kind → String
  | pattern => "pattern"
  | keyword => "keyword"
  | lookaround => "lookaround"

/-- The priority of tokens of a kind that are given none. -/
def Token.Kind.priority : Token.Kind → Int32
  | pattern => 0
  | keyword => 90
  | lookaround => 50

structure Token where
  name : String
  /-- The pattern as registered; for a keyword, the word. -/
  pattern : String
  priority : Int32
  kind : Token.Kind
  lookahead : Option String
  lookbehind : Option String
  matcher : Pattern
  ahead : Option Pattern
  behind : Option Pattern

namespace Token

def isWordChar (c : Char) : Bool := Text.isAlphanumeric c || c == '_'

/-- Whether a text consists of word characters, at least one. -/
def isWord (text : List Char) : Bool := !text.isEmpty && text.all isWordChar

def compile (name : String) (text : String) : Except GrammarError Pattern :=
  match Pattern.read text.toList with
  | .ok p => .ok p
  | .error fault => .error (.invalidPattern name fault.message)

def compileStart (name pattern : String) : Except GrammarError Pattern :=
  compile name ("^(?:" ++ pattern ++ ")")

def compileEnd (name pattern : String) : Except GrammarError Pattern :=
  compile name ("(?:" ++ pattern ++ ")$")

def ofPattern (name pattern : String) (priority : Int32) : Except GrammarError Token := do
  let matcher ← compileStart name pattern
  return ⟨name, pattern, priority, .pattern, none, none, matcher, none, none⟩

/-- Matches the word in any case. If it consists of word characters, a word must end after it. -/
def keywordPattern (word : List Char) : Pattern :=
  let letters := word.map fun c => Pattern.set (.ofChars (Text.caseVariants c))
  let boundary := if isWord word then [Pattern.anchor (.wordBoundary .full)] else []
  .seq (.anchor .textStart :: letters ++ boundary)

def ofKeyword (name word : String) : Except GrammarError Token :=
  let matcher := keywordPattern word.toList
  if matcher.normalize.fits then
    .ok ⟨name, word, Kind.keyword.priority, .keyword, none, none, matcher, none, none⟩
  else .error (.invalidPattern name Pattern.Fault.tooLarge.message)

/-- A token with conditions on what follows and precedes it, of which one is required. -/
def ofLookaround (name pattern : String) (lookahead lookbehind : Option String) :
    Except GrammarError Token := do
  if lookahead.isNone && lookbehind.isNone then .error (.missingLookaround name)
  else
    let matcher ← compileStart name pattern
    let ahead ← lookahead.mapM (compileStart name)
    let behind ← lookbehind.mapM (compileEnd name)
    return ⟨name, pattern, Kind.lookaround.priority, .lookaround, lookahead, lookbehind, matcher,
      ahead, behind⟩

def withPriority (t : Token) (priority : Int32) : Token := { t with priority }

/-- Whether a word keyword would start inside a word. -/
def splitsWord (t : Token) (before : List Char) : Bool :=
  t.kind == .keyword && isWord t.pattern.toList && before.head?.any isWordChar

/-- How many characters the token takes at a place, at least one; none if it does not match. -/
def lengthAt? (t : Token) (cut : Text.Cut) : Option Nat :=
  match t.matcher.find? cut.after with
  | none => none
  | some found =>
    if found.stop = 0 || t.splitsWord cut.before then none
    else if t.ahead.any fun p => !p.isMatch (cut.after.drop found.stop) then none
    else if t.behind.any fun p => !p.isMatch cut.before.reverse then none
    else some found.stop

/-- The byte offset where a match at a byte offset ends. -/
def endAt? (t : Token) (input : String) (offset : Nat) : Option Nat := do
  let cut ← Text.cutAt? input.toList offset
  let length ← t.lengthAt? cut
  return offset + Text.byteSize (cut.after.take length)

end Token

end Packrat
