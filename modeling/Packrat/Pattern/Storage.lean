import Std.Data.HashMap
import Packrat.Pattern.ByteRange
import Packrat.Pattern.Normal

/-! The storage that the automata of a pattern take. A pattern is refused when one of its two
automata, which read bytes forward and backward, would take more than the limit.

An automaton is a list of states. A state takes 32 bytes, and 8 bytes more for every range of bytes
it tells apart or 4 bytes more for every state it forks to. States are numbered in the order in
which they are built. -/
namespace Packrat.Pattern

open Text (CodeSet)

namespace Storage

structure Tally where
  states : Nat := 0
  /-- Bytes besides those that every state takes. -/
  extra : Nat := 0

def limit : Nat := 10485760

def Tally.add (t : Tally) (states extra : Nat) : Option Tally :=
  let t := { states := t.states + states, extra := t.extra + extra : Tally }
  if 32 * t.states + t.extra ≤ limit then some t else none

/-- A piece of an automaton, built after what was built before it. The result tells whether the
piece ends in a fork, from which every link takes 4 bytes. -/
structure Piece where
  build : Tally → Option (Tally × Bool)

/-- The bytes that a link takes from the end of a piece. -/
def link (isFork : Bool) : Nat := if isFork then 4 else 0

def plain (states : Nat) : Piece := ⟨fun t => do return (← t.add states 0, false)⟩

def follow (p q : Piece) : Piece :=
  ⟨fun t => do
    let (t, fork) ← p.build t
    let (t, fork') ← q.build t
    return (← t.add 0 (link fork), fork')⟩

/-- As many copies of a piece after what was built, of which `fork` tells how it ends. -/
def copies (p : Piece) : (n : Nat) → Tally → (fork : Bool) → Option (Tally × Bool)
  | 0, t, fork => some (t, fork)
  | n + 1, t, fork =>
    match p.build t with
    | none => none
    | some (t, fork') =>
      match t.add 0 (link fork) with
      | none => none
      | some t => copies p n t fork'

/-- Exactly `n` copies. No copy is one empty state. -/
def exactly (p : Piece) (n : Nat) : Piece :=
  if n = 0 then plain 1 else ⟨fun t => copies p n t false⟩

/-- Copies that may be left out, each behind a fork. -/
def optional (p : Piece) : (n : Nat) → Tally → (fork : Bool) → Option (Tally × Bool)
  | 0, t, fork => some (t, fork)
  | n + 1, t, fork =>
    match t.add 1 (8 + link fork) with
    | none => none
    | some t =>
      match p.build t with
      | none => none
      | some (t, fork') => optional p n t fork'

def between (p : Piece) (least most : Nat) : Piece :=
  ⟨fun t => do
    let (t, fork) ← (exactly p least).build t
    let (t, fork) ← optional p (most - least) (← t.add 1 0) fork
    return (← t.add 0 (link fork), false)⟩

def atMostOne (p : Piece) : Piece :=
  ⟨fun t => do
    let (t, fork) ← p.build (← t.add 1 0)
    return (← t.add 1 (8 + link fork), false)⟩

/-- At least `n` copies. Copies that may take no bytes are repeated with more care. -/
def atLeast (p : Piece) (consumes : Bool) : (n : Nat) → Piece
  | 0 =>
    if consumes then
      ⟨fun t => do
        let (t, fork) ← p.build (← t.add 1 0)
        return (← t.add 0 (4 + link fork), true)⟩
    else
      ⟨fun t => do
        let (t, fork) ← p.build t
        return (← t.add 3 (16 + link fork), false)⟩
  | 1 =>
    ⟨fun t => do
      let (t, fork) ← p.build t
      return (← t.add 1 (4 + link fork), true)⟩
  | n + 2 =>
    follow (exactly p (n + 1)) ⟨fun t => do
      let (t, fork) ← p.build t
      return (← t.add 1 (4 + link fork), true)⟩

structure Step where
  range : ByteRange
  target : Nat
  deriving DecidableEq

def mix (hash : UInt64) (n : Nat) : UInt64 := (hash ^^^ n.toUInt64) * 1099511628211

def hashSeed : UInt64 := 14695981039346656037

def slot (size : Nat) (key : List Nat) : Nat := (key.foldl mix hashSeed).toNat % size

/-- A table of states built before, with one place per slot; what comes later takes the place of
what came earlier. -/
abbrev Table (α : Type) := Std.HashMap Nat (α × Nat)

/-- The sequences that start alike, in order: their first range and what follows it. -/
def startGroups : List (List ByteRange) → List (ByteRange × List (List ByteRange))
  | [] => []
  | [] :: rest => startGroups rest
  | (r :: tail) :: rest =>
    match startGroups rest with
    | (r', tails) :: more =>
      if r = r' then (r, tail :: tails) :: more else (r, [tail]) :: (r', tails) :: more
    | [] => [(r, [tail])]

/-- What building a set forward leaves behind. -/
structure Forward where
  tally : Tally
  known : Table (List Step) := {}

/-- The state that makes the given steps: one built before, or a new one. -/
def Forward.state (f : Forward) (steps : List Step) : Option (Nat × Forward) :=
  let place := slot 10000 (steps.flatMap fun s => [s.range.first, s.range.last, s.target])
  let known := f.known[place]?.filter fun (key, _) => key == steps
  match known with
  | some (_, number) => some (number, f)
  | none =>
    (f.tally.add 1 (8 * steps.length)).map fun t =>
      (f.tally.states, ⟨t, f.known.insert place (steps, f.tally.states)⟩)

/-- The state from which the given sequences lead to `target`. Sequences are no longer than
`length`. -/
def Forward.sequences (target : Nat) : (length : Nat) → List (List ByteRange) → Forward →
    Option (Nat × Forward)
  | 0, _, f => some (target, f)
  | length + 1, seqs, f => do
    let (steps, f) ← (startGroups seqs).foldlM (fun (steps, f) (range, tails) => do
      let (number, f) ←
        if tails.all List.isEmpty then some (target, f) else Forward.sequences target length tails f
      return (⟨range, number⟩ :: steps, f)) (([] : List Step), f)
    f.state steps.reverse

/-- The states of a set, built forward so that those that continue alike are shared. -/
def forwardSet (seqs : List (List ByteRange)) : Piece :=
  ⟨fun t => do
    let target := t.states
    let (_, f) ← Forward.sequences target 4 seqs ⟨← t.add 1 0, {}⟩
    return (f.tally, false)⟩

/-- What building a set backward leaves behind. -/
structure Backward where
  tally : Tally
  known : Table (Nat × ByteRange) := {}

/-- A chain of states that reads a sequence backward up to the state `next`. -/
def Backward.chain : List ByteRange → (next : Nat) → Backward → Option Backward
  | [], _, b => some b
  | r :: rest, next, b =>
    let place := slot 1000 [next, r.first, r.last]
    let known := b.known[place]?.filter fun (key, _) => key == (next, r)
    match known with
    | some (_, number) => chain rest number b
    | none =>
      match b.tally.add 1 0 with
      | none => none
      | some t =>
        let number := b.tally.states
        chain rest number ⟨t, b.known.insert place ((next, r), number)⟩

/-- The states of a set, built backward. A fork leads to every sequence. -/
def backwardSet (seqs : List (List ByteRange)) : Piece :=
  ⟨fun t => do
    let next := t.states + 1
    let b ← seqs.foldlM (fun b seq => do
      let b ← Backward.chain seq next b
      return { b with tally := ← b.tally.add 0 4 }) (Backward.mk (← t.add 2 0) {})
    return (b.tally, false)⟩

inductive Direction where
  | forward | backward
  deriving DecidableEq, Repr

def setPiece (d : Direction) (s : CodeSet) : Piece :=
  if s.ranges.all (·.2 ≤ 0x7f) then
    let size := s.ranges.length
    ⟨fun t => do return (← t.add 2 (8 * size), false)⟩
  else
    let seqs := ByteRange.sequences s
    match d with
    | .forward => forwardSet seqs
    | .backward => backwardSet seqs

/-- Texts that pass one state, cut where one of them ends. Texts that end there before any goes on
count as one. -/
def segments : List (List UInt8) → List (List (List UInt8))
  | [] => [[]]
  | [] :: rest => [] :: segments rest
  | bytes :: rest =>
    match segments rest with
    | first :: more => (bytes :: first) :: more
    | [] => [[bytes]]

def byteGroups : List (List UInt8) → List (UInt8 × List (List UInt8))
  | [] => []
  | [] :: rest => byteGroups rest
  | (x :: tail) :: rest =>
    let groups := byteGroups rest
    match groups.lookup x with
    | some tails => (x, tail :: tails) :: groups.filter (·.1 != x)
    | none => (x, [tail]) :: groups

/-- States and bytes besides of the states that texts of at most `length` bytes pass. -/
def textStates : (length : Nat) → List (List UInt8) → Nat × Nat
  | 0, _ => (0, 0)
  | length + 1, texts =>
    let ended := !(texts.takeWhile List.isEmpty).isEmpty
    let parts := segments (texts.dropWhile List.isEmpty)
    let groups := parts.map byteGroups
    let filled := groups.filter (!·.isEmpty)
    let ends := parts.length - 1 + (if ended then 1 else 0)
    let own := filled.foldl (fun n g => n + (if g.length = 1 then 0 else 8 * g.length)) 0
    let inner := (groups.flatten.filter fun (_, tails) => !tails.all List.isEmpty).map fun (_, tails) =>
      textStates length tails
    inner.foldl (fun (a, b) (c, d) => (a + c, b + d))
      (filled.length + 1, own + 4 * (filled.length + ends))

def textBytes (cs : List Char) : List UInt8 := (String.ofList cs).toUTF8.toList

def texts? : List Pattern → Option (List (List UInt8))
  | [] => some []
  | .text cs :: rest => (texts? rest).map (textBytes cs :: ·)
  | _ => none

/-- A choice between texts. What they start with is shared. -/
def textChoice (d : Direction) (texts : List (List UInt8)) : Piece :=
  let texts := match d with
    | .forward => texts
    | .backward => texts.map List.reverse
  let (states, extra) := textStates (texts.foldl (fun n t => max n t.length) 0 + 1) texts
  ⟨fun t => do return (← t.add (states + 1) extra, false)⟩

def moreBranches : List Piece → Tally → Option Tally
  | [], t => some t
  | p :: ps, t =>
    match p.build t with
    | none => none
    | some (t, fork) => (t.add 0 (4 + link fork)).bind (moreBranches ps)

def choice : List Piece → Piece
  | [] => plain 1
  | [p] => p
  | p :: q :: ps =>
    ⟨fun t => do
      let (t, fork) ← p.build t
      let (t, fork') ← q.build t
      let t ← t.add 2 (8 + link fork + link fork')
      return (← moreBranches ps t, false)⟩

def row : List Piece → Piece
  | [] => plain 1
  | [p] => p
  | p :: ps => follow p (row ps)

mutual

/-- The piece of a pattern. Only forward automata remember where groups are. -/
def piece (d : Direction) : Pattern → Piece
  | .empty => plain 1
  | .text cs => plain (textLength cs)
  | .set s => setPiece d s
  | .anchor _ => plain 1
  | .times body least most _ =>
    let p := piece d body
    match most with
    | none => atLeast p body.consumes least
    | some most =>
      if least = 0 && most = 1 then atMostOne p
      else if least = most then exactly p least
      else between p least most
  | .group _ body =>
    match d with
    | .forward => follow (follow (plain 1) (piece d body)) (plain 1)
    | .backward => piece d body
  | .seq parts =>
    match d with
    | .forward => row (pieces d parts)
    | .backward => row (pieces d parts).reverse
  | .alt branches =>
    match texts? branches with
    | some texts => if texts.length ≤ 1 then choice (pieces d branches) else textChoice d texts
    | none => choice (pieces d branches)

def pieces (d : Direction) : List Pattern → List Piece
  | [] => []
  | p :: ps => piece d p :: pieces d ps

end

/-- What stands before a pattern that is not bound to the place where it is tried: a repetition of
any byte. -/
def anywhere : Piece := ⟨fun t => do return (← t.add 3 12, true)⟩

/-- The whole automaton: the pattern, with a state where it has matched. The forward one takes it for a
group of its own. -/
def whole (d : Direction) (p : Pattern) : Piece :=
  match d with
  | .forward =>
    follow (if p.startsText then plain 1 else anywhere) (follow (piece d (.group 0 p)) (plain 1))
  | .backward =>
    follow (if p.endsText then plain 1 else anywhere) (follow (piece d p) (plain 1))

end Storage

/-- Whether both automata of a pattern stay within the limit. -/
def fits (p : Pattern) : Bool :=
  ((Storage.whole .forward p).build {}).isSome && ((Storage.whole .backward p).build {}).isSome

end Packrat.Pattern
