import Packrat.Text.CodeSet

/-! Sets of characters as sequences of byte ranges: a character belongs to a set exactly when the
bytes of its UTF-8 form fall, one by one, into the ranges of one of the sequences. -/
namespace Packrat.Pattern

open Text (CodeSet)

structure ByteRange where
  first : Nat
  last : Nat
  deriving DecidableEq, Repr

namespace ByteRange

def encode (code : Nat) : List Nat :=
  let tail (shift : Nat) : Nat := 0x80 + code / shift % 0x40
  if code < 0x80 then [code]
  else if code < 0x800 then [0xc0 + code / 0x40, tail 1]
  else if code < 0x10000 then [0xe0 + code / 0x1000, tail 0x40, tail 1]
  else [0xf0 + code / 0x40000, tail 0x1000, tail 0x40, tail 1]

/-- Where a range of code points must be cut so that its parts have bytes that vary independently:
between forms of different length, and else where the later bytes do not run through all values. -/
def cut? (first last : Nat) : Option Nat :=
  let between (limit : Nat) : Option Nat :=
    if first ≤ limit && limit < last then some limit else none
  let blockEnd? (block : Nat) : Option Nat :=
    if first / block = last / block then none
    else if first % block ≠ 0 then some (first / block * block + block - 1)
    else if last % block ≠ block - 1 then some (last / block * block - 1)
    else none
  ((((between 0x7f).or (between 0x7ff)).or (between 0xffff)).or
    (if last ≤ 0x7f then none
      else ((blockEnd? 0x40).or (blockEnd? 0x1000)).or (blockEnd? 0x40000)))

def sequencesWithin : (cuts : Nat) → (first last : Nat) → List (List ByteRange)
  | 0, _, _ => []
  | cuts + 1, first, last =>
    match cut? first last with
    | some limit => sequencesWithin cuts first limit ++ sequencesWithin cuts (limit + 1) last
    | none => [List.zipWith ByteRange.mk (encode first) (encode last)]

/-- The sequences of a set, in ascending order. -/
def sequences (s : CodeSet) : List (List ByteRange) :=
  s.ranges.flatMap fun (first, last) => sequencesWithin 32 first last

end ByteRange

end Packrat.Pattern
