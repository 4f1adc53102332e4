import Packrat.Yaml.Tag

/-! YAML texts as tokens.

A mapping in block style has no mark of its own: it is known only when the colon after its first key
is found. So the place of every token that may turn out to be a key is kept, and the tokens that
belong before it are put there afterwards. -/
namespace Packrat.Yaml

inductive Token where
  | directive (d : Directive)
  | documentStart | documentEnd
  | blockSequenceStart | blockMappingStart | blockEnd
  | flowSequenceStart | flowSequenceEnd | flowMappingStart | flowMappingEnd
  | blockEntry | flowEntry | key | value
  | aliasOf (name : String)
  | anchor (name : String)
  | tag (t : Tag)
  | scalar (style : ScalarStyle) (text : String)
  deriving DecidableEq, Repr

/-- A token that may turn out to be a key. -/
structure Candidate where
  /-- How many tokens stand before it. -/
  number : Nat
  /-- Whether it can be nothing else. -/
  required : Bool
  index : Nat
  line : Nat
  column : Nat
  deriving DecidableEq, Repr

structure Scan where
  cursor : Cursor
  tokens : Array Token := #[]
  /-- The columns of the open block collections, innermost first. -/
  indents : List Nat := []
  /-- The candidates outside and inside each open flow collection, innermost first. -/
  candidates : List (Option Candidate) := [none]
  /-- Whether a key may start here. -/
  keyAllowed : Bool := true

namespace Scan

def inFlow (s : Scan) : Bool := s.candidates.length > 1

def indent? (s : Scan) : Option Nat := s.indents.head?

def push (s : Scan) (t : Token) : Scan := { s with tokens := s.tokens.push t }

def past (s : Scan) (n : Nat) : Scan := { s with cursor := s.cursor.past n }

def allowKey (s : Scan) (allowed : Bool) : Scan := { s with keyAllowed := allowed }

/-- Skips blanks, comments and breaks up to the next token. A byte order mark may start a line, of
which it takes the first column. Tabs do not count as blanks where a key may start. -/
def toNext : (fuel : Nat) → Scan → Scan
  | 0, s => s
  | fuel + 1, s =>
    let c := s.cursor
    let c := if c.column == 0 && c.sees '\ufeff' then c.past 1 else c
    let c := c.skip fun x => x == ' ' || ((s.inFlow || !s.keyAllowed) && x == '\t')
    let c := if c.sees '#' then c.skip (!isBreakChar ·) else c
    match c.lineBreak? with
    | some (_, c) => toNext fuel { s with cursor := c, keyAllowed := s.keyAllowed || !s.inFlow }
    | none => { s with cursor := c }

/-- Whether a candidate can no longer be a key: keys stand on one line and take at most 1024
bytes. -/
def isStale (c : Cursor) (k : Candidate) : Bool := k.line < c.line || k.index + 1024 < c.index

def dropStale? (s : Scan) : Option Scan :=
  let stale := isStale s.cursor
  if s.candidates.any fun k => k.any fun k => stale k && k.required then none
  else some { s with candidates := s.candidates.map fun k => k.filter (!stale ·) }

def unroll (keep : Nat → Bool) (s : Scan) : Scan :=
  if s.inFlow then s
  else
    let closed := s.indents.takeWhile (!keep ·)
    { s with
      indents := s.indents.drop closed.length
      tokens := s.tokens ++ Array.replicate closed.length .blockEnd }

/-- Opens a block collection at a column, unless one is open there. Its token goes before the token
of the given number. -/
def roll (s : Scan) (column number : Nat) (t : Token) : Scan :=
  if s.inFlow || s.indent?.any (column ≤ ·) then s
  else { s with indents := column :: s.indents, tokens := s.tokens.insertIdxIfInBounds number t }

/-- Gives the innermost candidate up. -/
def drop? (s : Scan) : Option Scan :=
  match s.candidates with
  | some k :: outer => if k.required then none else some { s with candidates := none :: outer }
  | _ => some s

/-- Makes the next token a candidate, if a key may start here. -/
def save? (s : Scan) : Option Scan :=
  if s.keyAllowed then do
    let s ← s.drop?
    let c := s.cursor
    let required := !s.inFlow && s.indent? == some c.column
    return { s with
      candidates := some ⟨s.tokens.size, required, c.index, c.line, c.column⟩ :: s.candidates.tail }
  else some s

/-- Starts or ends a document, or ends the text. -/
def leaveAll? (s : Scan) : Option Scan := do
  let s ← (s.unroll fun _ => false).drop?
  return s.allowKey false

def flowStart? (s : Scan) (t : Token) : Option Scan := do
  let s ← s.save?
  return ({ s with candidates := none :: s.candidates, keyAllowed := true }.past 1).push t

def flowEnd? (s : Scan) (t : Token) : Option Scan := do
  let s ← s.drop?
  let candidates := match s.candidates with
    | _ :: outer :: more => outer :: more
    | candidates => candidates
  return ({ s with candidates, keyAllowed := false }.past 1).push t

def flowEntry? (s : Scan) : Option Scan := do
  let s ← s.drop?
  return ((s.allowKey true).past 1).push .flowEntry

def blockEntry? (s : Scan) : Option Scan := do
  if !s.inFlow && !s.keyAllowed then none
  else
    let s ← (s.roll s.cursor.column s.tokens.size .blockSequenceStart).drop?
    return ((s.allowKey true).past 1).push .blockEntry

def key? (s : Scan) : Option Scan := do
  if !s.inFlow && !s.keyAllowed then none
  else
    let s ← (s.roll s.cursor.column s.tokens.size .blockMappingStart).drop?
    return ((s.allowKey !s.inFlow).past 1).push .key

/-- A colon makes the innermost candidate a key; without a candidate it follows a marked key. -/
def value? (s : Scan) : Option Scan :=
  match s.candidates with
  | some k :: outer =>
    let s := { s with
      tokens := s.tokens.insertIdxIfInBounds k.number .key, candidates := none :: outer }
    let s := s.roll k.column k.number .blockMappingStart
    some (((s.allowKey false).past 1).push .value)
  | _ =>
    if !s.inFlow && !s.keyAllowed then none
    else
      let s := s.roll s.cursor.column s.tokens.size .blockMappingStart
      some (((s.allowKey !s.inFlow).past 1).push .value)

/-- A token that may be a key or part of one. -/
def candidate? (s : Scan) (read? : Cursor → Option (Token × Cursor)) : Option Scan := do
  let s ← s.save?
  let (t, cursor) ← read? s.cursor
  return { s with cursor, keyAllowed := false }.push t

def quoted? (s : Scan) (style : ScalarStyle) (quote : Char) (word : List Char → Quoted.Word) :
    Option Scan :=
  s.candidate? fun c =>
    (Quoted.read? quote word (c.rest.length + 1) [] (c.past 1)).map fun (text, c) =>
      (.scalar style (String.ofList text), c)

def block? (s : Scan) (folds : Bool) : Option Scan := do
  let s ← s.drop?
  let (text, cursor) ← Block.read? folds s.indent? (s.cursor.past 1)
  let style := if folds then ScalarStyle.folded else .literal
  return { s with cursor, keyAllowed := true }.push (.scalar style (String.ofList text))

def plain? (s : Scan) : Option Scan := do
  let s ← s.save?
  let indent := match s.indent? with
    | some n => n + 1
    | none => 0
  let c := s.cursor
  let (text, broken, cursor) ← Unquoted.read? s.inFlow indent (c.rest.length + 1) [] {} c
  return { s with cursor, keyAllowed := broken }.push (.scalar .plain (String.ofList text))

/-- Whether a plain scalar may start with a character. -/
def startsPlain (inFlow : Bool) (x : Char) (next : Option Char) : Bool :=
  let spaced := next.all fun y => isBlankChar y || isBreakChar y
  if x == '-' then !next.any isBlankChar
  else if x == '?' || x == ':' then !inFlow && !spaced
  else !isBlankChar x && !isBreakChar x && !isFlowIndicator x && !"#&*!|>\x27\"%@`".toList.contains x

def token? (s : Scan) (x : Char) : Option Scan :=
  let c := s.cursor
  if c.column == 0 && x == '%' then do
    let s ← s.leaveAll?
    let (d, cursor) ← Directive.read? (c.past 1)
    return { s with cursor }.push (.directive d)
  else if c.seesMark '-' then s.leaveAll?.map fun s => (s.past 3).push .documentStart
  else if c.seesMark '.' then s.leaveAll?.map fun s => (s.past 3).push .documentEnd
  else if x == '[' then s.flowStart? .flowSequenceStart
  else if x == '\x7b' then s.flowStart? .flowMappingStart
  else if x == ']' then s.flowEnd? .flowSequenceEnd
  else if x == '\x7d' then s.flowEnd? .flowMappingEnd
  else if x == ',' then s.flowEntry?
  else if x == '-' && c.endsWord 1 then s.blockEntry?
  else if x == '?' && (s.inFlow || c.endsWord 1) then s.key?
  else if x == ':' && (s.inFlow || c.endsWord 1) then s.value?
  else if x == '*' then
    s.candidate? fun c => (anchorName? (c.past 1)).map fun (name, c) => (.aliasOf name, c)
  else if x == '&' then
    s.candidate? fun c => (anchorName? (c.past 1)).map fun (name, c) => (.anchor name, c)
  else if x == '!' then
    s.candidate? fun c => (Tag.read? s.inFlow c).map fun (t, c) => (.tag t, c)
  else if x == '|' && !s.inFlow then s.block? false
  else if x == '>' && !s.inFlow then s.block? true
  else if x == '\x27' then s.quoted? .single '\x27' Quoted.singleWord
  else if x == '"' then s.quoted? .double '"' fun cs => Quoted.doubleWord (cs.length + 1) cs
  else if startsPlain s.inFlow x (c.peek? 1) then s.plain?
  else none

/-- Scans up to the end of the text. Every token takes a character, so their number suffices as
`fuel`. -/
def run? : (fuel : Nat) → Scan → Option (List Token)
  | 0, _ => none
  | fuel + 1, s => do
    let s := s.toNext (s.cursor.rest.length + 1)
    let s ← s.dropStale?
    let s := s.unroll (· ≤ s.cursor.column)
    match s.cursor.rest with
    | [] => return (← s.leaveAll?).tokens.toList
    | x :: _ => run? fuel (← s.token? x)

end Scan

def Token.ofText? (text : String) : Option (List Token) :=
  let cs := text.toList
  if cs.all isAllowed then Scan.run? (cs.length + 1) { cursor := { rest := cs } } else none

end Packrat.Yaml
