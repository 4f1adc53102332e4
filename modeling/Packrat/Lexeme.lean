import Packrat.Grammar
import Packrat.Log
import Packrat.ParseError
import Packrat.Text.Quoted

/-! Cutting the input into lexemes.

Blanks between lexemes are passed. At any other place every token is tried, and the one with the
highest priority takes the place; among those of equal priority the longest match, and among
equally long ones the token registered first. What a token took is never read again. -/
namespace Packrat

/-- A token found in the input, with the byte offsets where it starts and stops. -/
structure Lexeme where
  kind : String
  text : String
  start : Nat
  stop : Nat
  deriving DecidableEq, Repr

namespace Lexeme

def display (l : Lexeme) : String :=
  l.kind ++ " " ++ Text.Quoted.text l.text ++ " @" ++ toString l.start ++ ".." ++ toString l.stop

def isSeparator (c : Char) : Bool :=
  c == ' ' || c == '\t' || c == '\n' || c == '\x0c' || c == '\r'

def wins (t : Token) (length : Nat) : Option (Token × Nat) → Bool
  | none => true
  | some (best, bestLength) =>
    best.priority < t.priority || (t.priority == best.priority && bestLength < length)

/-- The token that takes a place, and how many characters it takes. -/
def best? (tokens : List Token) (cut : Text.Cut) : Option (Token × Nat) :=
  tokens.foldl (fun best t =>
    match t.lengthAt? cut with
    | none => best
    | some length => if wins t length best then some (t, length) else best) none

/-- A scan: the lexemes found, and the character and offset where it got stuck, if it did. -/
structure Scan where
  lexemes : List Lexeme
  stuck : Option (Char × Nat)
  deriving DecidableEq, Repr

/-- Moves characters from after a cut to before it. -/
def shift (before taken : List Char) : List Char := taken.reverse ++ before

/-- Scans the characters after a cut, which is at a byte offset. Every step takes at least one
character, so their number suffices as `fuel`. -/
def scanFrom (tokens : List Token) : (fuel : Nat) → (before after : List Char) → (offset : Nat) → Scan
  | _, _, [], _ => ⟨[], none⟩
  | 0, _, c :: _, offset => ⟨[], some (c, offset)⟩
  | fuel + 1, before, c :: rest, offset =>
    if isSeparator c then scanFrom tokens fuel (c :: before) rest (offset + c.utf8Size)
    else
      match best? tokens ⟨before, c :: rest⟩ with
      | none => ⟨[], some (c, offset)⟩
      | some (t, length) =>
        let taken := (c :: rest).take length
        let stop := offset + Text.byteSize taken
        let scan := scanFrom tokens fuel (shift before taken) ((c :: rest).drop length) stop
        { scan with lexemes := ⟨t.name, String.ofList taken, offset, stop⟩ :: scan.lexemes }

def scan (tokens : List Token) (input : String) : Scan :=
  let text := input.toList
  scanFrom tokens text.length [] text 0

def unmatched (input : String) (c : Char) (offset : Nat) : ParseError :=
  .ofOffset .tokenize ("unexpected character " ++ Text.Quoted.char c) input offset c.toString

def Scan.records (s : Scan) (input : String) : List Log.Record :=
  s.lexemes.map (fun l => ⟨.trace, .lexing,
    "token " ++ l.kind ++ " " ++ Text.Quoted.text l.text ++ " at " ++ toString l.start⟩) ++
  match s.stuck with
  | some _ => []
  | none => [⟨.debug, .lexing, "tokenized " ++ toString input.utf8ByteSize ++ " bytes into " ++
      toString s.lexemes.length ++ " tokens"⟩]

def Scan.result (s : Scan) (input : String) : Except ParseError (List Lexeme) :=
  match s.stuck with
  | some (c, offset) => .error (unmatched input c offset)
  | none => .ok s.lexemes

end Lexeme

def Grammar.tokenize (g : Grammar) (input : String) : Except ParseError (List Lexeme) :=
  (Lexeme.scan g.tokens input).result input

end Packrat
