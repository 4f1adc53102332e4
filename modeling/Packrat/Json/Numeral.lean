import Packrat.Decimal.Reader

/-! Numbers as JSON writes them, and what they stand for. -/
namespace Packrat.Json

/-- A written number: digits before and after the point, and an exponent. -/
structure Numeral where
  negative : Bool
  whole : List Char
  fraction : List Char
  exponent : Int
  /-- Whether there is neither a point nor an exponent. -/
  isWhole : Bool
  deriving DecidableEq, Repr

namespace Numeral

/-- Appends digits to a number as long as it fits 64 bits; yields the digits left over too. -/
def fill (n : Nat) : List Char → Nat × List Char
  | [] => (n, [])
  | c :: rest =>
    let longer := 10 * n + Decimal.digitValue c
    if longer < UInt64.size then fill longer rest else (n, c :: rest)

def largestPower : Nat := 308

def powerOfTen (n : Nat) : Float := Float.ofScientific (Nat.pow 10 n) false 0

/-- Moves the point by `exponent` places, in one multiplication or division, or in up to `steps` more
divisions when the exponent is far below zero. None if the result is too large. -/
def scale? : (steps : Nat) → (x : Float) → (exponent : Int) → Option Float
  | 0, x, _ => some x
  | steps + 1, x, exponent =>
    if exponent.natAbs ≤ largestPower then
      if exponent ≥ 0 then (some (x * powerOfTen exponent.natAbs)).filter (!·.isInf)
      else some (x / powerOfTen exponent.natAbs)
    else if x == 0.0 then some x
    else if exponent ≥ 0 then none
    else scale? steps (x / powerOfTen largestPower) (exponent + largestPower)

/-- The double a number stands for. As many digits as fit 64 bits are used, and rounded before the
point is moved. Two divisions by the largest power make any such number zero. -/
def toFloat? (n : Numeral) : Option Float :=
  let (head, uncounted) := fill 0 n.whole
  let (significand, dropped) := fill head n.fraction
  let exponent : Int := n.exponent + uncounted.length - (n.fraction.length - dropped.length : Nat)
  (scale? 3 (UInt64.ofNat significand).toFloat exponent).map fun x => if n.negative then -x else x

/-- The integer a number stands for: it has no point and no exponent, fits 64 bits, and is not a
negative zero. -/
def toInt64? (n : Numeral) : Option Int64 :=
  let magnitude : Int := Decimal.ofDigits n.whole
  if !n.isWhole || (n.negative && magnitude == 0) then none
  else Decimal.toInt64? (if n.negative then -magnitude else magnitude)

def digits? (cs : List Char) : Option (List Char × List Char) :=
  match cs.takeWhile Decimal.isAsciiDigit with
  | [] => none
  | ds => some (ds, cs.dropWhile Decimal.isAsciiDigit)

/-- Digits before the point: no zero stands before another digit. -/
def whole? : List Char → Option (List Char × List Char)
  | '0' :: rest => some (['0'], rest)
  | cs => digits? cs

def fraction? : List Char → Option (List Char × List Char)
  | '.' :: rest => digits? rest
  | cs => some ([], cs)

def exponent? (cs : List Char) : Option (Option Int × List Char) :=
  match cs with
  | [] => some (none, [])
  | c :: rest =>
    if c == 'e' || c == 'E' then
      let (negative, unsigned) := Decimal.takeSign rest
      (digits? unsigned).map fun (ds, rest) =>
        let n : Int := Decimal.ofDigits ds
        (some (if negative then -n else n), rest)
    else some (none, cs)

/-- The number at the start of a text, and what follows it. -/
def read? (cs : List Char) : Option (Numeral × List Char) := do
  let (negative, unsigned) := match cs with
    | '-' :: rest => (true, rest)
    | cs => (false, cs)
  let (whole, rest) ← whole? unsigned
  let (fraction, rest) ← fraction? rest
  let (exponent, rest) ← exponent? rest
  return (⟨negative, whole, fraction, exponent.getD 0, fraction.isEmpty && exponent.isNone⟩, rest)

end Numeral

end Packrat.Json
