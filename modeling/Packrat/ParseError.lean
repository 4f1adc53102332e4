import Packrat.Position
import Packrat.Text.Padding

/-! Failures to tokenize or parse, each at a place of the source text. -/
namespace Packrat

namespace ParseError

inductive Kind where
  /-- No token matches at the offset. -/
  | tokenize
  /-- One token was required; none was found if the input ended. -/
  | expectedToken (expected : String) (found : Option String)
  /-- Every alternative of a rule failed. -/
  | noAlternative (rule : String) (expected : List String)
  /-- An action refused the values of an alternative that matched. -/
  | action (rule action : String)
  /-- The start rule matched, but tokens remain. -/
  | trailingInput
  /-- A rule names a symbol that is neither a token nor a rule. -/
  | undefinedSymbol (symbol rule : String)
  | missingStartRule
  /-- Rules nested deeper than the limit. -/
  | recursionLimit (limit : Nat)
  deriving DecidableEq, Repr

end ParseError

/-- A failure together with the source it belongs to. Line and column are those of `offset`. -/
structure ParseError where
  kind : ParseError.Kind
  message : String
  line : Nat
  column : Nat
  /-- Byte offset into the source. -/
  offset : Nat
  /-- Text of the offending token, empty at the end of the source. -/
  token : String
  source : String
  deriving DecidableEq, Repr

namespace ParseError

def ofOffset (kind : Kind) (message source : String) (offset : Nat) (token : String) : ParseError :=
  let p := Position.ofOffset source offset
  ⟨kind, message, p.line, p.column, offset, token, source⟩

def position (e : ParseError) : Position := ⟨e.line, e.column⟩

def display (e : ParseError) : String :=
  "line " ++ toString e.line ++ ", column " ++ toString e.column ++ ": " ++ e.message

def contextLines : Nat := 2

/-- One line of the source with its number; the offending line is marked. -/
def sourceLine (e : ParseError) (line : Nat) : String :=
  (if line = e.line then ">>" else "  ") ++ " " ++ Text.padLeft 4 (toString line) ++ " | " ++
    (Source.line? e.source line).getD "" ++ "\n"

/-- The blanks before the caret: as wide as the line before the column, tabs kept. -/
def caretPadding (e : ParseError) : String :=
  String.ofList ((((Source.line? e.source e.line).getD "").toList.take (e.column - 1)).map
    fun c => if c = '\t' then '\t' else ' ')

def shownLines (e : ParseError) : List Nat :=
  let first := max (e.line - contextLines) 1
  (List.range (e.line + 1 - first)).map (first + ·)

/-- The failure with its lines of source and a caret under the offending column. -/
def detailed (e : ParseError) : String :=
  "error: " ++ e.message ++ "\n --> line " ++ toString e.line ++ ", column " ++
    toString e.column ++ "\n" ++ String.join (e.shownLines.map e.sourceLine) ++
    "        | " ++ e.caretPadding ++ "^\n"

end ParseError

end Packrat
