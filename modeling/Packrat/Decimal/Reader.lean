/-! Reading decimal numbers: signs, digits with at most one point, and an exponent. -/
namespace Packrat.Decimal

/-- The number `± digits * 10 ^ exponent` of a written decimal. -/
structure Literal where
  negative : Bool
  digits : Nat
  exponent : Int
  deriving DecidableEq, Repr

def digitValue (c : Char) : Nat := c.toNat - '0'.toNat

def isAsciiDigit (c : Char) : Bool := '0' ≤ c && c ≤ '9'

def ofDigits (cs : List Char) : Nat := cs.foldl (fun n c => 10 * n + digitValue c) 0

/-- The nearest double. Exponents far outside the range of doubles are cut short, which does not
change the result. -/
def Literal.toFloat (l : Literal) : Float :=
  let size : Int := (Nat.toDigits 10 l.digits).length
  let magnitude : Float :=
    if l.digits == 0 || l.exponent + size < -400 then 0.0
    else if l.exponent + size > 400 then 1.0 / 0.0
    else
      match l.exponent with
      | .ofNat k => Float.ofScientific (l.digits * Nat.pow 10 k) false 0
      | .negSucc k => Float.ofScientific l.digits true (k + 1)
  if l.negative then -magnitude else magnitude

def takeSign : List Char → Bool × List Char
  | '-' :: rest => (true, rest)
  | '+' :: rest => (false, rest)
  | rest => (false, rest)

def readExponent? : List Char → Option Int
  | [] => some 0
  | c :: rest =>
    if c == 'e' || c == 'E' then
      let (negative, digits) := takeSign rest
      if !digits.isEmpty && digits.all isAsciiDigit then
        let n : Int := ofDigits digits
        some (if negative then -n else n)
      else none
    else none

/-- A decimal with an optional sign, point and exponent, and a digit on at least one side of the
point. -/
def read? (text : List Char) : Option Literal :=
  let (negative, unsigned) := takeSign text
  let whole := unsigned.takeWhile isAsciiDigit
  let rest := unsigned.dropWhile isAsciiDigit
  let (fraction, rest) :=
    match rest with
    | '.' :: tail => (tail.takeWhile isAsciiDigit, tail.dropWhile isAsciiDigit)
    | rest => ([], rest)
  if whole.isEmpty && fraction.isEmpty then none
  else
    match readExponent? rest with
    | none => none
    | some e => some ⟨negative, ofDigits (whole ++ fraction), e - fraction.length⟩

def readInt? (text : List Char) : Option Int :=
  let (negative, digits) := takeSign text
  if !digits.isEmpty && digits.all isAsciiDigit then
    let n : Int := ofDigits digits
    some (if negative then -n else n)
  else none

def toInt64? (n : Int) : Option Int64 :=
  if Int64.minValue.toInt ≤ n && n ≤ Int64.maxValue.toInt then some (Int64.ofInt n) else none

end Packrat.Decimal
