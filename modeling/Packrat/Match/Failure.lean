import Packrat.Lexeme

/-! What a failed parse reports.

Failures on the way are ordinary: the next alternative is tried. They are reported only when the
start rule has failed, and then the one that got furthest counts. -/
namespace Packrat

/-- An action that refused the tokens from `start` up to `stop`. -/
structure Rejection where
  rule : String
  action : String
  message : String
  start : Nat
  stop : Nat
  deriving DecidableEq, Repr

inductive Failure where
  /-- A rule required a token at a position and did not find it. -/
  | expected (pos : Nat) (token rule : String)
  | rejected (r : Rejection)
  deriving DecidableEq, Repr

structure Furthest where
  /-- The last position at which a token was missing. -/
  pos : Option Nat := none
  /-- The tokens required there, each once, in order. -/
  expected : List String := []
  /-- The rule that first required one there. -/
  rule : Option String := none
  /-- The first rejection that ends furthest. -/
  rejection : Option Rejection := none
  deriving DecidableEq, Repr

namespace Furthest

def noteExpected (f : Furthest) (pos : Nat) (token rule : String) : Furthest :=
  let restart : Furthest := { f with pos := some pos, expected := [token], rule := some rule }
  match f.pos with
  | none => restart
  | some furthest =>
    if pos < furthest then f
    else if pos = furthest then
      if f.expected.contains token then f else { f with expected := f.expected ++ [token] }
    else restart

def noteRejection (f : Furthest) (r : Rejection) : Furthest :=
  if f.rejection.all fun current => current.stop < r.stop then { f with rejection := some r } else f

def note (f : Furthest) : Failure → Furthest
  | .expected pos token rule => f.noteExpected pos token rule
  | .rejected r => f.noteRejection r

def ofFailures (failures : List Failure) : Furthest := failures.foldl note {}

end Furthest

namespace Lexeme

/-- Where a token starts; past the last one, where the input ends but for blanks. -/
def offset (lexemes : Array Lexeme) (input : String) (pos : Nat) : Nat :=
  match lexemes[pos]? with
  | some l => l.start
  | none => Text.byteSize (Text.trimEnd input.toList Text.isBlank)

def textAt (lexemes : Array Lexeme) (pos : Nat) : String := (lexemes[pos]?.map (·.text)).getD ""

def describe : Option Lexeme → String
  | some l => l.kind ++ " '" ++ l.text ++ "'"
  | none => "end of input"

def errorAt (lexemes : Array Lexeme) (input : String) (pos : Nat) (kind : ParseError.Kind)
    (message : String) : ParseError :=
  .ofOffset kind message input (offset lexemes input pos) (textAt lexemes pos)

end Lexeme

namespace Furthest

def rejectionError (lexemes : Array Lexeme) (input : String) (r : Rejection) : ParseError :=
  Lexeme.errorAt lexemes input r.start (.action r.rule r.action)
    ("action '" ++ r.action ++ "' of rule '" ++ r.rule ++ "' failed: " ++ r.message)

/-- The error of tokens that were required at a position. -/
def expectedError (f : Furthest) (lexemes : Array Lexeme) (input startRule : String) (pos : Nat) :
    ParseError :=
  let found := lexemes[pos]?
  match f.expected with
  | [token] =>
    Lexeme.errorAt lexemes input pos (.expectedToken token (found.map (·.kind)))
      ("expected token " ++ token ++ ", got " ++ Lexeme.describe found)
  | tokens =>
    let rule := f.rule.getD startRule
    Lexeme.errorAt lexemes input pos (.noAlternative rule tokens)
      ("no alternative matched for rule '" ++ rule ++ "': expected one of " ++
        ", ".intercalate tokens ++ ", got " ++ Lexeme.describe found)

/-- The error of a start rule that failed. A rejection counts if no token was missing further
on. -/
def error (f : Furthest) (lexemes : Array Lexeme) (input startRule : String) : ParseError :=
  match f.rejection, f.pos with
  | some r, none => rejectionError lexemes input r
  | some r, some pos =>
    if pos ≤ r.stop then rejectionError lexemes input r
    else f.expectedError lexemes input startRule pos
  | none, some pos => f.expectedError lexemes input startRule pos
  | none, none =>
    Lexeme.errorAt lexemes input 0 (.noAlternative startRule [])
      ("no alternative matched for rule '" ++ startRule ++ "'")

/-- The error of a start rule that matched the tokens before `stop` only. A failure beyond them
explains why it did not go on. -/
def trailingError (f : Furthest) (lexemes : Array Lexeme) (input startRule : String) (stop : Nat) :
    ParseError :=
  if f.pos.any (stop < ·) || f.rejection.any (fun r => stop < r.stop) then
    f.error lexemes input startRule
  else
    Lexeme.errorAt lexemes input stop .trailingInput
      ("unexpected " ++ Lexeme.describe lexemes[stop]? ++ " after the end of '" ++ startRule ++ "'")

end Furthest

end Packrat
