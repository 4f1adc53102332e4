/-! The shortest decimal that reads back as a given binary floating-point number.

A finite double is `mantissa * 2 ^ exponent`, and every real strictly between the midpoints to its
neighbours rounds to it (the midpoints too when the mantissa is even). Among the decimals with the
fewest digits in that interval the one nearest the number is taken. All comparisons are exact. -/
namespace Packrat.Decimal

/-- The decimal `0.d₁d₂… * 10 ^ point`, with `digits` the number `d₁d₂…`. -/
structure Scaled where
  digits : Nat
  point : Int
  deriving DecidableEq, Repr

inductive Tie where
  | up | even
  deriving DecidableEq, Repr

structure Ratio where
  num : Nat
  den : Nat

namespace Ratio

def le (a b : Ratio) : Bool := a.num * b.den ≤ b.num * a.den

def lt (a b : Ratio) : Bool := a.num * b.den < b.num * a.den

def scaled (n base : Nat) (power : Int) : Ratio :=
  match power with
  | .ofNat k => ⟨n * Nat.pow base k, 1⟩
  | .negSucc k => ⟨n, Nat.pow base (k + 1)⟩

end Ratio

structure Binary where
  mantissa : Nat
  exponent : Int
  /-- Whether the gap below is half the gap above, as it is at powers of two. -/
  halvedBelow : Bool

namespace Binary

def value (b : Binary) : Ratio := Ratio.scaled b.mantissa 2 b.exponent

def upper (b : Binary) : Ratio := Ratio.scaled (2 * b.mantissa + 1) 2 (b.exponent - 1)

def lower (b : Binary) : Ratio :=
  if b.halvedBelow then Ratio.scaled (4 * b.mantissa - 1) 2 (b.exponent - 2)
  else Ratio.scaled (2 * b.mantissa - 1) 2 (b.exponent - 1)

/-- Whether a decimal rounds to the number. -/
def admits (b : Binary) (r : Ratio) : Bool :=
  if b.mantissa % 2 == 0 then Ratio.le b.lower r && Ratio.le r b.upper
  else Ratio.lt b.lower r && Ratio.lt r b.upper

end Binary

/-- The decoded magnitude of a double; none for zero, infinities and NaN. -/
def Binary.ofFloat? (x : Float) : Option Binary :=
  let bits := x.toBits.toNat
  let fraction : Nat := bits % Nat.pow 2 52
  let biased : Nat := bits / Nat.pow 2 52 % Nat.pow 2 11
  if biased == 2047 then none
  else if biased == 0 then
    if fraction == 0 then none else some ⟨fraction, -1074, false⟩
  else some ⟨Nat.pow 2 52 + fraction, (biased : Int) - 1075, fraction == 0 && biased != 1⟩

def digitCount (n : Nat) : Nat := (Nat.toDigits 10 n).length

/-- The `point` for which the quotient lies between `10 ^ (point - 1)` and `10 ^ point`. -/
def magnitude (r : Ratio) : Int :=
  if r.den ≤ r.num then digitCount (r.num / r.den)
  else
    let zeros := digitCount (r.den / r.num) - 1
    if r.den ≤ r.num * Nat.pow 10 zeros then 1 - (zeros : Int) else -(zeros : Int)

/-- The neighbour of the number on the grid of decimals of `size` digits, if one rounds to it. -/
def nearest? (tie : Tie) (b : Binary) (point : Int) (size : Nat) : Option Scaled :=
  let step := point - size
  let unit := Ratio.scaled 1 10 step
  let value := b.value
  let below := value.num * unit.den / (value.den * unit.num)
  let on (d : Nat) : Ratio := ⟨d * unit.num, unit.den⟩
  let middle : Ratio := ⟨(2 * below + 1) * unit.num, 2 * unit.den⟩
  let preferAbove :=
    Ratio.lt middle value || (Ratio.le middle value && (tie == .up || below % 2 == 1))
  let (first, second) := if preferAbove then (below + 1, below) else (below, below + 1)
  if b.admits (on first) then some ⟨first, step⟩
  else if b.admits (on second) then some ⟨second, step⟩
  else none

def dropZeros : (steps : Nat) → (digits : Nat) → (exponent : Int) → Nat × Int
  | 0, digits, exponent => (digits, exponent)
  | steps + 1, digits, exponent =>
    if digits != 0 && digits % 10 == 0 then dropZeros steps (digits / 10) (exponent + 1)
    else (digits, exponent)

/-- The first grid from `size` on that holds a decimal which rounds to the number. -/
def search (tie : Tie) (b : Binary) (point : Int) : (tries size : Nat) → Option Scaled
  | 0, _ => none
  | tries + 1, size =>
    match nearest? tie b point size with
    | some s => some s
    | none => search tie b point tries (size + 1)

/-- The shortest decimal of a positive finite double. Seventeen digits always suffice. -/
def shortest (tie : Tie) (b : Binary) : Scaled :=
  match search tie b (magnitude b.value) 17 1 with
  | none => ⟨0, 0⟩
  | some s =>
    let (digits, exponent) := dropZeros 20 s.digits s.point
    ⟨digits, exponent + digitCount digits⟩

end Packrat.Decimal
