import Packrat.Yaml.Cursor

/-! Scalars as a YAML text writes them: plain, between quotes, or as a block of lines. -/
namespace Packrat.Yaml

inductive ScalarStyle where
  | plain | single | double | literal | folded
  deriving DecidableEq, Repr

structure Gap where
  /-- Blanks before the first break. -/
  blanks : List Char := []
  /-- Breaks, as they read. -/
  breaks : List Char := []
  deriving DecidableEq, Repr

namespace Gap

/-- What a gap reads as: blanks on one line stay, a single break is a blank, and the first of several
breaks is dropped. Breaks other than line feeds are all kept. -/
def folded (g : Gap) : List Char :=
  match g.breaks with
  | [] => g.blanks
  | ['\n'] => [' ']
  | '\n' :: more => more
  | breaks => breaks

/-- Takes a gap. `fresh` tells that no break came before it. After a break, a tab may not stand left
of column `indent`. -/
def read? (indent : Nat) : (fuel : Nat) → (fresh : Bool) → Gap → Cursor → Option (Gap × Cursor)
  | 0, _, g, c => some (g, c)
  | fuel + 1, fresh, g, c =>
    match c.lineBreak? with
    | some (x, c) => read? indent fuel false { g with breaks := g.breaks ++ [x] } c
    | none =>
      match c.rest with
      | x :: _ =>
        if !isBlankChar x then some (g, c)
        else if fresh then read? indent fuel true { g with blanks := g.blanks ++ [x] } (c.past 1)
        else if x == '\t' && c.column < indent then none
        else read? indent fuel false g (c.past 1)
      | [] => some (g, c)

end Gap

namespace Unquoted

def endsAt (flow : Bool) (x : Char) (next : Option Char) : Bool :=
  isBlankChar x || isBreakChar x ||
    (x == ':' && next.all fun y => isBlankChar y || isBreakChar y) ||
    (flow && isFlowIndicator x)

/-- In flow collections a colon inside a word may not touch an indicator. -/
def isAmbiguous (flow : Bool) (x : Char) (next : Option Char) : Bool :=
  flow && x == ':' && next.any fun y => isFlowIndicator y || y == '?'

def wordLength? (flow : Bool) : List Char → Option Nat
  | [] => some 0
  | x :: rest =>
    if isBlankChar x || isBreakChar x then some 0
    else if isAmbiguous flow x rest.head? then none
    else if endsAt flow x rest.head? then some 0
    else (wordLength? flow rest).map (· + 1)

/-- Reads words and the gaps between them, for a scalar whose later lines reach column `indent`.
Yields its text, whether a break follows it, and the place after the gap that follows it. -/
def read? (flow : Bool) (indent : Nat) :
    (fuel : Nat) → (text : List Char) → (gap : Gap) → Cursor → Option (List Char × Bool × Cursor)
  | 0, _, _, _ => none
  | fuel + 1, text, gap, c =>
    if c.seesDocument || c.sees '#' then some (text, !gap.breaks.isEmpty, c)
    else
      match wordLength? flow c.rest with
      | none => none
      | some n =>
        let (text, gap) :=
          if n = 0 then (text, gap) else (text ++ gap.folded ++ c.rest.take n, {})
        let c := c.past n
        if c.seesAny fun x => isBlankChar x || isBreakChar x then
          match Gap.read? indent c.rest.length true {} c with
          | none => none
          | some (gap, c) =>
            if !flow && c.column < indent then some (text, !gap.breaks.isEmpty, c)
            else read? flow indent fuel text gap c
        else some (text, !gap.breaks.isEmpty, c)

end Unquoted

namespace Quoted

def hexValue? (c : Char) : Option Nat :=
  if '0' ≤ c && c ≤ '9' then some (c.toNat - '0'.toNat)
  else if 'a' ≤ c && c ≤ 'f' then some (c.toNat - 'a'.toNat + 10)
  else if 'A' ≤ c && c ≤ 'F' then some (c.toNat - 'A'.toNat + 10)
  else none

def hexNumber? (cs : List Char) : Option Nat :=
  cs.foldl (fun n c => match n, hexValue? c with
    | some n, some d => some (16 * n + d)
    | _, _ => none) (some 0)

def letters : List (Char × Char) :=
  [('0', '\x00'), ('a', '\x07'), ('b', '\x08'), ('t', '\t'), ('\t', '\t'), ('n', '\n'),
    ('v', '\x0b'), ('f', '\x0c'), ('r', '\r'), ('e', '\x1b'), (' ', ' '), ('"', '"'), ('/', '/'),
    ('\\', '\\'), ('N', '\u0085'), ('_', '\u00a0'), ('L', '\u2028'), ('P', '\u2029')]

def codeLengths : List (Char × Nat) := [('x', 2), ('u', 4), ('U', 8)]

def escape? : List Char → Option (Char × Nat)
  | [] => none
  | letter :: rest =>
    match letters.lookup letter, codeLengths.lookup letter with
    | some c, _ => some (c, 1)
    | none, some length =>
      let digits := rest.take length
      match hexNumber? digits with
      | some n =>
        if digits.length = length && n.isValidChar then some (Char.ofNat n, length + 1) else none
      | none => none
    | none, none => none

inductive Word where
  /-- The word ends at the closing quote or at a gap. -/
  | ended (text : List Char) (length : Nat)
  /-- The word ends at a break that is escaped. -/
  | joined (text : List Char) (length : Nat)
  | malformed
  deriving DecidableEq, Repr

def Word.add (c : Char) (n : Nat) : Word → Word
  | ended text length => ended (c :: text) (length + n)
  | joined text length => joined (c :: text) (length + n)
  | malformed => malformed

def singleWord : List Char → Word
  | [] => .ended [] 0
  | '\x27' :: '\x27' :: rest => (singleWord rest).add '\x27' 2
  | x :: rest =>
    if x == '\x27' || isBlankChar x || isBreakChar x then .ended [] 0 else (singleWord rest).add x 1

def doubleWord : (fuel : Nat) → List Char → Word
  | 0, _ => .ended [] 0
  | fuel + 1, cs =>
    match cs with
    | [] => .ended [] 0
    | '\\' :: rest =>
      if rest.head?.any isBreakChar then .joined [] 1
      else
        match escape? rest with
        | some (c, n) => (doubleWord fuel (rest.drop n)).add c (n + 1)
        | none => .malformed
    | x :: rest =>
      if x == '"' || isBlankChar x || isBreakChar x then .ended [] 0
      else (doubleWord fuel rest).add x 1

def read? (quote : Char) (word : List Char → Word) :
    (fuel : Nat) → (text : List Char) → Cursor → Option (List Char × Cursor)
  | 0, _, _ => none
  | fuel + 1, text, c =>
    if c.seesDocument || c.atEnd then none
    else
      match word c.rest with
      | .malformed => none
      | .joined more n =>
        let c := (c.past n).skipBreak
        match Gap.read? 0 c.rest.length false {} c with
        | some (gap, c) => read? quote word fuel (text ++ more ++ gap.breaks) c
        | none => none
      | .ended more n =>
        let c := c.past n
        if c.sees quote then some (text ++ more, c.past 1)
        else
          match Gap.read? 0 c.rest.length true {} c with
          | some (gap, c) => read? quote word fuel (text ++ more ++ gap.folded) c
          | none => none

end Quoted

namespace Block

inductive Chomping where
  | strip | clip | keep
  deriving DecidableEq, Repr

def chomping? (c : Cursor) : Option Chomping × Cursor :=
  if c.sees '+' then (some .keep, c.past 1)
  else if c.sees '-' then (some .strip, c.past 1)
  else (none, c)

/-- An indentation of one digit; zero is refused. -/
def increment? (c : Cursor) : Option (Option Nat × Cursor) :=
  match c.rest with
  | x :: _ =>
    if x == '0' then none
    else if x.isDigit then some (some (x.toNat - '0'.toNat), c.past 1)
    else some (none, c)
  | [] => some (none, c)

/-- The header of a block after its mark, up to the end of the line. -/
def header? (c : Cursor) : Option (Chomping × Option Nat × Cursor) := do
  let (before, c) := chomping? c
  let (increment, c) ← increment? c
  let (after, c) := if before.isNone && increment.isSome then chomping? c else (none, c)
  return ((before.or after).getD .clip, increment, ← c.finishLine?)

/-- Takes indentation and empty lines. Until `indent` is known, all blanks are indentation, and the
widest one counts. -/
def breaks? (indent : Option Nat) : (fuel : Nat) → (widest : Nat) → (breaks : List Char) → Cursor →
    Option (Nat × List Char × Cursor)
  | 0, widest, breaks, c => some (widest, breaks, c)
  | fuel + 1, widest, breaks, c =>
    let room := match indent with
      | some n => n - c.column
      | none => c.rest.length
    let c := c.past ((c.rest.take room).takeWhile (· == ' ')).length
    let widest := max widest c.column
    if c.sees '\t' && indent.all (c.column < ·) then none
    else
      match c.lineBreak? with
      | some (x, c) => breaks? indent fuel widest (breaks ++ [x]) c
      | none => some (widest, breaks, c)

/-- What has been read of a block. -/
structure Lines where
  text : List Char := []
  /-- The break after the last line. -/
  lead : List Char := []
  /-- Breaks of empty lines after it. -/
  trail : List Char := []
  /-- Whether the last line starts with a blank. -/
  indented : Bool := false

/-- Adds a line. In folded blocks a break between lines that start without a blank reads as a
blank, or as nothing if empty lines follow. -/
def Lines.add (folds : Bool) (b : Lines) (line : List Char) : Lines :=
  let indented := line.head?.any isBlankChar
  let joint :=
    if folds && b.lead == ['\n'] && !b.indented && !indented then
      if b.trail.isEmpty then [' '] else []
    else b.lead
  { b with text := b.text ++ joint ++ b.trail ++ line, indented }

def lines? (folds : Bool) (indent : Nat) : (fuel : Nat) → Lines → Cursor → Option (Lines × Cursor)
  | 0, _, _ => none
  | fuel + 1, b, c =>
    if c.column == indent && !c.atEnd then
      let (line, c) := c.span (!isBreakChar ·)
      let b := b.add folds line
      let (lead, c) := match c.lineBreak? with
        | some (x, c) => ([x], c)
        | none => ([], c)
      match breaks? (some indent) c.rest.length 0 [] c with
      | some (_, trail, c) => lines? folds indent fuel { b with lead, trail } c
      | none => none
    else some (b, c)

/-- The text of a block after its end is chomped. -/
def Lines.chomped (b : Lines) : Chomping → List Char
  | .strip => b.text
  | .clip => b.text ++ b.lead
  | .keep => b.text ++ b.lead ++ b.trail

/-- Reads a block after its mark, inside a collection at column `outer`, if there is one. -/
def read? (folds : Bool) (outer : Option Nat) (c : Cursor) : Option (List Char × Cursor) := do
  let (chomping, increment, c) ← header? c
  let known := increment.map fun n => outer.getD 0 + n
  let (widest, trail, c) ← breaks? known c.rest.length 0 [] c
  let least := match outer with
    | some n => n + 1
    | none => 1
  let indent := known.getD (max widest least)
  let (b, c) ← lines? folds indent (c.rest.length + 1) { trail } c
  return (b.chomped chomping, c)

end Block

end Packrat.Yaml
