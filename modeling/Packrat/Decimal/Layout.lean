import Packrat.Decimal.Shortest

/-! How the digits of a number are laid out. -/
namespace Packrat.Decimal

structure Layout where
  /-- Which of two equally near shortest decimals is written. -/
  tie : Tie
  /-- Whether a number with this place of the point is written without an exponent. -/
  isPositional : Int → Bool
  /-- What stands before a positive exponent. -/
  plus : String := ""
  /-- Whether whole numbers keep a fractional part, as in `1.0`. -/
  keepsFraction : Bool
  infinity : String
  negativeInfinity : String
  notANumber : String

def zeros (n : Nat) : String := String.ofList (List.replicate n '0')

def positional (keepsFraction : Bool) (digits : String) (point : Int) : String :=
  let fraction := if keepsFraction then ".0" else ""
  if point ≤ 0 then "0." ++ zeros (-point).toNat ++ digits
  else if digits.length ≤ point.toNat then
    digits ++ zeros (point.toNat - digits.length) ++ fraction
  else
    let whole := digits.toList.take point.toNat
    let part := digits.toList.drop point.toNat
    String.ofList whole ++ "." ++ String.ofList part

def scientific (plus digits : String) (point : Int) : String :=
  let mantissa :=
    match digits.toList with
    | [] => ""
    | [d] => d.toString
    | d :: rest => d.toString ++ "." ++ String.ofList rest
  mantissa ++ "e" ++ (if point ≥ 1 then plus else "") ++ toString (point - 1)

namespace Layout

def write (layout : Layout) (x : Float) : String :=
  if x.isNaN then layout.notANumber
  else
    let negative := x.toBits.toNat / Nat.pow 2 63 == 1
    if x.isInf then if negative then layout.negativeInfinity else layout.infinity
    else
      let magnitude :=
        match Binary.ofFloat? x with
        | none => if layout.keepsFraction then "0.0" else "0"
        | some b =>
          let s := shortest layout.tie b
          let digits := toString s.digits
          if layout.isPositional s.point then positional layout.keepsFraction digits s.point
          else scientific layout.plus digits s.point
      if negative then "-" ++ magnitude else magnitude

end Layout

/-- Numbers inside messages and displayed values: never an exponent, no fraction on whole
numbers. -/
def plain : Layout where
  tie := .up
  isPositional := fun _ => true
  keepsFraction := false
  infinity := "inf"
  negativeInfinity := "-inf"
  notANumber := "NaN"

/-- Whether data files write the number without an exponent: from five zeros after the point to
sixteen digits before it. -/
def isModerate (point : Int) : Bool := -5 < point && point ≤ 16

end Packrat.Decimal
