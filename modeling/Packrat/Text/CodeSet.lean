/-! Sets of characters given by the code points at which membership changes. -/
namespace Packrat.Text

/-- A set of characters. Its edges ascend, and a character belongs to it exactly when an odd
number of them lie at or below its code point. -/
structure CodeSet where
  edges : Array Nat
  deriving DecidableEq

namespace CodeSet

/-- The number of edges at or below `code`, when that number lies between `low` and `high`. Each
step halves the distance, so as many steps as there are edges always suffice. -/
def rank (edges : Array Nat) (code : Nat) : (steps low high : Nat) → Nat
  | 0, low, _ => low
  | steps + 1, low, high =>
    if low < high then
      let middle := (low + high) / 2
      if edges.getD middle 0 ≤ code then rank edges code steps (middle + 1) high
      else rank edges code steps low middle
    else low

def containsCode (s : CodeSet) (code : Nat) : Bool :=
  rank s.edges code s.edges.size 0 s.edges.size % 2 == 1

def contains (s : CodeSet) (c : Char) : Bool := s.containsCode c.toNat

def empty : CodeSet := ⟨#[]⟩

def single (c : Char) : CodeSet := ⟨#[c.toNat, c.toNat + 1]⟩

/-- All characters. The code points in the gap are no characters. -/
def all : CodeSet := ⟨#[0, 0xd800, 0xe000, 0x110000]⟩

/-- The edges of what two sets give together. `inA` and `inB` tell whether the place reached lies in
them; an edge is kept where the outcome changes. As many steps as there are edges suffice. -/
def sweep (op : Bool → Bool → Bool) : (steps : Nat) → (inA inB : Bool) → (a b : List Nat) → List Nat
  | 0, _, _, _, _ => []
  | steps + 1, inA, inB, a, b =>
    let next (edge : Nat) (inA' inB' : Bool) (a b : List Nat) : List Nat :=
      let rest := sweep op steps inA' inB' a b
      if op inA inB == op inA' inB' then rest else edge :: rest
    match a, b with
    | [], [] => []
    | x :: a, [] => next x (!inA) inB a []
    | [], y :: b => next y inA (!inB) [] b
    | x :: a, y :: b =>
      if x < y then next x (!inA) inB a (y :: b)
      else if y < x then next y inA (!inB) (x :: a) b
      else next x (!inA) (!inB) a b

/-- The set whose members are found from membership in two sets. What lies in neither of them lies
outside. -/
def combine (op : Bool → Bool → Bool) (a b : CodeSet) : CodeSet :=
  ⟨(sweep op (a.edges.size + b.edges.size) false false a.edges.toList b.edges.toList).toArray⟩

def union (a b : CodeSet) : CodeSet := combine (· || ·) a b

def inter (a b : CodeSet) : CodeSet := combine (· && ·) a b

def diff (a b : CodeSet) : CodeSet := combine (fun x y => x && !y) a b

def symmDiff (a b : CodeSet) : CodeSet := combine (· != ·) a b

def compl (s : CodeSet) : CodeSet := all.diff s

def range (first last : Char) : CodeSet := inter ⟨#[first.toNat, last.toNat + 1]⟩ all

def unions : List CodeSet → CodeSet
  | [] => empty
  | s :: rest => rest.foldl union s

def codeEdges : List Nat → List Nat
  | [] => []
  | code :: rest =>
    match codeEdges rest with
    | [] => [code, code + 1]
    | edge :: more =>
      if code + 1 < edge then code :: (code + 1) :: edge :: more
      else if code < edge then code :: more
      else edge :: more

/-- The set of some code points, in any order. -/
def ofCodes (codes : List Nat) : CodeSet := ⟨(codeEdges (codes.mergeSort (· ≤ ·))).toArray⟩

def ofChars (cs : List Char) : CodeSet := unions (cs.map single)

/-- Pairs of edges as first and last members. -/
def edgeRanges : List Nat → List (Nat × Nat)
  | first :: stop :: rest => (first, stop - 1) :: edgeRanges rest
  | _ => []

def ranges (s : CodeSet) : List (Nat × Nat) := edgeRanges s.edges.toList

end CodeSet

end Packrat.Text
