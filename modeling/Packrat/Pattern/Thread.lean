import Packrat.Pattern.Normal

/-! What patterns match.

A text is read once, from left to right. Between two characters a search holds threads: each waits
for a character of some set and knows what is to be done after it. Threads are ordered by
preference, an alternative before those after it and a greedy copy before going on without it, and
a thread that has matched ends all that come after it. The match of the thread that is preferred to
all others is therefore the leftmost-first one.

Every part of a pattern that waits or forks has a mark of its own, copies of a repetition
separately. At one place of the text no mark is passed twice, so that there are never more threads
than marks, and a repetition whose copies consume nothing comes to an end. -/
namespace Packrat.Pattern

open Text (CodeSet)

mutual

/-- How many marks the parts of a pattern have. -/
def width : Pattern → Nat
  | empty => 0
  | text cs => cs.length
  | set _ => 1
  | anchor _ => 0
  | times body least most _ => (width body + 1) * max 1 (most.getD least) + 1
  | group _ body => width body
  | seq parts => widthAll parts
  | alt branches => widthAll branches + 1

def widthAll : List Pattern → Nat
  | [] => 0
  | p :: ps => width p + widthAll ps

end

/-- Something a thread has still to do. The mark is the first one of what is read. -/
inductive Task where
  | read (p : Pattern) (mark : Nat)
  /-- Goes on with any number of further copies. -/
  | again (body : Pattern) (mark : Nat) (greedy : Bool)

/-- A thread that started at the given index and waits for a character. -/
structure Thread where
  start : Nat
  set : CodeSet
  rest : List Task

structure Threads where
  /-- Those that wait, the preferred one last. -/
  waiting : List Thread := []
  /-- The marks that were passed, as the bits of a number. -/
  marks : Nat := 0
  /-- Where the thread started that has matched. -/
  matched : Option Nat := none

namespace Threads

/-- Goes on, unless the mark was passed before or a preferred thread has matched. -/
def pass (t : Threads) (mark : Nat) (go : Threads → Threads) : Threads :=
  if t.matched.isSome || t.marks.testBit mark then t
  else go { t with marks := t.marks ||| 1 <<< mark }

def wait (t : Threads) (mark : Nat) (thread : Thread) : Threads :=
  t.pass mark fun t => { t with waiting := thread :: t.waiting }

/-- A thread that started at the given index has matched. -/
def finish (t : Threads) (start : Nat) : Threads :=
  if t.matched.isSome then t else { t with matched := some start }

/-- Takes the copy before going on without it, or after that. -/
def prefer (greedy : Bool) (copy next : Threads → Threads) (t : Threads) : Threads :=
  if greedy then next (copy t) else copy (next t)

end Threads

/-- Adds the threads that arise where something is read. `rest` is what a thread does after it, and
`next` does the same for a thread that has nothing to wait for. -/
abbrev Walk := (mark : Nat) → (rest : List Task) → (next : Threads → Threads) → Threads → Threads

section Repetition

variable (body : Walk) (p : Pattern) (greedy : Bool)

/-- Any number of further copies. Behind a copy that consumes nothing the mark was passed, so that
there is nothing to go on with. -/
def walkAgain : Walk := fun mark rest next t =>
  t.pass mark (Threads.prefer greedy (body (mark + 1) (.again p mark greedy :: rest) id) next)

def walkOneOrMore : Walk := fun mark rest next t =>
  body (mark + 1) (.again p mark greedy :: rest) (walkAgain body p greedy mark rest next) t

def walkAtLeast : (least : Nat) → Walk
  | 0 =>
    if p.consumes then walkAgain body p greedy
    else fun mark rest next t =>
      t.pass (mark + p.width + 1)
        (Threads.prefer greedy (walkOneOrMore body p greedy mark rest next) next)
  | 1 => walkOneOrMore body p greedy
  | least + 2 => fun mark rest next t =>
    let after := mark + p.width + 1
    body (mark + 1) (.read (.times p (least + 1) none greedy) after :: rest)
      (walkAtLeast (least + 1) after rest next) t

def walkBetween : (least most : Nat) → Walk
  | _, 0 => fun _ _ next t => next t
  | least, most + 1 => fun mark rest next t =>
    let after := mark + p.width + 1
    let copy := body (mark + 1) (.read (.times p (least - 1) (some most) greedy) after :: rest)
      (walkBetween (least - 1) most after rest next)
    if least = 0 then t.pass mark (Threads.prefer greedy copy next) else copy t

end Repetition

/-- A place in a text as a thread sees it: where the thread started, and the characters before and
after the place. -/
structure Spot where
  start : Nat
  previous : Option Char
  next : Option Char

mutual

/-- Adds the threads that arise where a pattern is read. -/
def walk (spot : Spot) : Pattern → Walk
  | empty => fun _ _ next t => next t
  | text [] => fun _ _ next t => next t
  | text (c :: cs) => fun mark rest _ t =>
    t.wait mark ⟨spot.start, .single c, .read (text cs) (mark + 1) :: rest⟩
  | set s => fun mark rest _ t => t.wait mark ⟨spot.start, s, rest⟩
  | anchor a => fun _ _ next t => if a.holds spot.previous spot.next then next t else t
  | times body least none greedy => walkAtLeast (walk spot body) body greedy least
  | times body least (some most) greedy => walkBetween (walk spot body) body greedy least most
  | group _ body => walk spot body
  | seq parts => walkAll spot parts
  | alt branches => fun mark rest next t => t.pass mark (walkAny spot branches (mark + 1) rest next)

def walkAll (spot : Spot) : List Pattern → Walk
  | [] => fun _ _ next t => next t
  | p :: ps => fun mark rest next t =>
    let after := mark + p.width
    walk spot p mark (.read (seq ps) after :: rest) (walkAll spot ps after rest next) t

def walkAny (spot : Spot) : List Pattern → Walk
  | [] => fun _ _ _ t => t
  | p :: ps => fun mark rest next t =>
    walkAny spot ps (mark + p.width) rest next (walk spot p mark rest next t)

end

def resume (spot : Spot) : List Task → Threads → Threads
  | [], t => t.finish spot.start
  | .read p mark :: rest, t => walk spot p mark rest (resume spot rest) t
  | .again p mark greedy :: rest, t =>
    walkAgain (walk spot p) p greedy mark rest (resume spot rest) t

def Threads.advance (t : Threads) (c : Char) (next : Option Char) : Threads :=
  t.waiting.foldr (fun thread after =>
    if thread.set.contains c then resume ⟨thread.start, some c, next⟩ thread.rest after
    else after) {}

/-- A match, by the number of characters before its two ends. -/
structure Found where
  start : Nat
  stop : Nat
  deriving DecidableEq, Repr

/-- Reads the text from an index on. `best` is the match found so far, which a thread that is still
there may improve on. As long as there is none, a search that is not bound to the start of the text
begins at every index. -/
def scan (p : Pattern) (bound : Bool) (index : Nat) (t : Threads) (best : Option Found) :
    List Char → Option Found
  | [] => (t.matched.map (Found.mk · index)).or best
  | c :: rest =>
    let best := (t.matched.map (Found.mk · index)).or best
    let t := t.advance c rest.head?
    if bound || best.isSome then
      if t.waiting.isEmpty && t.matched.isNone then best else scan p bound (index + 1) t best rest
    else
      let t := resume ⟨index + 1, some c, rest.head?⟩ [.read p 0] t
      scan p bound (index + 1) t best rest

def find? (p : Pattern) (text : List Char) : Option Found :=
  scan p p.startsText 0 (resume ⟨0, none, text.head?⟩ [.read p 0] {}) none text

def isMatch (p : Pattern) (text : List Char) : Bool := (p.find? text).isSome

end Packrat.Pattern
