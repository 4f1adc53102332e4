import Packrat.Pattern.Basic

/-! Patterns in their normal form, in which they are matched and stored: as brief as they can be.

Literal texts are joined, empty parts dropped, and nested sequences and choices made flat. A choice
between single characters or sets is one set, and what all branches start with is taken out. -/
namespace Packrat.Pattern

open Text (CodeSet)

mutual

def same : Pattern → Pattern → Bool
  | empty, empty => true
  | text s, text t => s == t
  | set s, set t => s == t
  | anchor a, anchor b => a == b
  | times p l m g, times q l' m' g' => l == l' && m == m' && g == g' && same p q
  | group n p, group n' q => n == n' && same p q
  | seq ps, seq qs => sameAll ps qs
  | alt ps, alt qs => sameAll ps qs
  | _, _ => false

def sameAll : List Pattern → List Pattern → Bool
  | [], [] => true
  | p :: ps, q :: qs => same p q && sameAll ps qs
  | _, _ => false

end

/-- The fewest and the most bytes that a set member takes; none for the empty set. -/
def setLengths (s : CodeSet) : Option (Nat × Nat) :=
  match s.ranges.head?, s.ranges.getLast? with
  | some (first, _), some (_, last) => some ((Char.ofNat first).utf8Size, (Char.ofNat last).utf8Size)
  | _, _ => none

def textLength (cs : List Char) : Nat := cs.foldl (fun n c => n + c.utf8Size) 0

def least? (a b : Option Nat) : Option Nat := do return min (← a) (← b)

def greatest? (a b : Option Nat) : Option Nat := do return max (← a) (← b)

mutual

/-- The fewest bytes that a match takes; none if there is no match. -/
def minLength : Pattern → Option Nat
  | empty => some 0
  | text cs => some (textLength cs)
  | set s => (setLengths s).map (·.1)
  | anchor _ => some 0
  | times body least _ _ => (minLength body).map (· * least)
  | group _ body => minLength body
  | seq parts => minSum parts
  | alt branches => minBranch branches

def minSum : List Pattern → Option Nat
  | [] => some 0
  | p :: ps => do return (← minLength p) + (← minSum ps)

def minBranch : List Pattern → Option Nat
  | [] => none
  | [p] => minLength p
  | p :: ps => least? (minLength p) (minBranch ps)

end

mutual

/-- The most bytes that a match takes; none if there is no limit or no match. -/
def maxLength : Pattern → Option Nat
  | empty => some 0
  | text cs => some (textLength cs)
  | set s => (setLengths s).map (·.2)
  | anchor _ => some 0
  | times body _ most _ => do return (← maxLength body) * (← most)
  | group _ body => maxLength body
  | seq parts => maxSum parts
  | alt branches => maxBranch branches

def maxSum : List Pattern → Option Nat
  | [] => some 0
  | p :: ps => do return (← maxLength p) + (← maxSum ps)

def maxBranch : List Pattern → Option Nat
  | [] => none
  | [p] => maxLength p
  | p :: ps => greatest? (maxLength p) (maxBranch ps)

end

/-- Whether every match takes at least one byte. -/
def consumes (p : Pattern) : Bool := p.minLength.any (0 < ·)

/-- Whether a pattern takes no bytes, however it matches. -/
def isWeightless (p : Pattern) : Bool := p.maxLength == some 0

mutual

def startsText : Pattern → Bool
  | anchor a => a == .textStart
  | times body least _ _ => least != 0 && startsText body
  | group _ body => startsText body
  | seq parts => someStarts parts
  | alt branches => allStart branches
  | _ => false

def someStarts : List Pattern → Bool
  | [] => false
  | p :: ps => startsText p || (isWeightless p && someStarts ps)

def allStart : List Pattern → Bool
  | [] => true
  | p :: ps => startsText p && allStart ps

end

mutual

def endsText : Pattern → Bool
  | anchor a => a == .textEnd
  | times body least _ _ => least != 0 && endsText body
  | group _ body => endsText body
  | seq parts => someEnds parts
  | alt branches => allEnd branches
  | _ => false

/-- Whether one of the parts ends the text and those after it take no bytes. -/
def someEnds : List Pattern → Bool
  | [] => false
  | p :: ps => someEnds ps || (endsText p && ps.all isWeightless)

def allEnd : List Pattern → Bool
  | [] => true
  | p :: ps => endsText p && allEnd ps

end

/-- One character of a set; a set of a single member is a text. -/
def ofSet (s : CodeSet) : Pattern :=
  match s.ranges with
  | [(first, last)] => if first = last then text [Char.ofNat first] else set s
  | _ => set s

/-- Copies of a pattern. Nothing is gained by repeating what takes no bytes. -/
def repetition (body : Pattern) (least : Nat) (most : Option Nat) (greedy : Bool) : Pattern :=
  let (least, most) :=
    if body.isWeightless then (min least 1, some (most.elim 1 (min · 1))) else (least, most)
  if least = 0 && most == some 0 then empty
  else if least = 1 && most == some 1 then body
  else times body least most greedy

def prepend : Pattern → List Pattern → List Pattern
  | empty, rest => rest
  | text s, text t :: rest => text (s ++ t) :: rest
  | p, rest => p :: rest

def sequence (parts : List Pattern) : Pattern :=
  let flat := parts.flatMap fun
    | seq inner => inner
    | p => [p]
  match flat.foldr prepend [] with
  | [] => empty
  | [p] => p
  | ps => seq ps

def char? : Pattern → Option Char
  | text [c] => some c
  | _ => none

def set? : Pattern → Option CodeSet
  | set s => some s
  | _ => none

def parts? : Pattern → Option (List Pattern)
  | seq parts => some parts
  | _ => none

def commonParts : List Pattern → List Pattern → List Pattern
  | p :: ps, q :: qs => if same p q then p :: commonParts ps qs else []
  | _, _ => []

/-- What all sequences start with. -/
def commonStart : List (List Pattern) → List Pattern
  | [] => []
  | ps :: rest => rest.foldl commonParts ps

/-- Branches of which one is chosen. Taking out what they start with leaves shorter ones, so that as
many steps as there are parts suffice. -/
def choiceWithin : (steps : Nat) → (branches : List Pattern) → Pattern
  | 0, branches => alt branches
  | steps + 1, branches =>
    let flat := branches.flatMap fun
      | alt inner => inner
      | p => [p]
    match flat with
    | [p] => p
    | ps =>
      match ps.mapM char?, ps.mapM set?, ps.mapM parts? with
      | some cs, _, _ => ofSet (.ofChars cs)
      | _, some sets, _ => ofSet (.unions sets)
      | _, _, some sequences =>
        match commonStart sequences with
        | [] => alt ps
        | start =>
          let rest := sequences.map fun parts => sequence (parts.drop start.length)
          sequence (start ++ [choiceWithin steps rest])
      | _, _, _ => alt ps

def choice (branches : List Pattern) : Pattern :=
  choiceWithin (branches.foldl (fun n p => n + (p.parts?.getD []).length) 1) branches

mutual

def normalize : Pattern → Pattern
  | empty => empty
  | text cs => if cs.isEmpty then empty else text cs
  | set s => ofSet s
  | anchor a => anchor a
  | times body least most greedy => repetition (normalize body) least most greedy
  | group n body => group n (normalize body)
  | seq parts => sequence (normalizeAll parts)
  | alt branches => choice (normalizeAll branches)

def normalizeAll : List Pattern → List Pattern
  | [] => []
  | p :: ps => normalize p :: normalizeAll ps

end

end Packrat.Pattern
