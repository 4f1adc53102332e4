import Packrat.Decimal.Reader

/-! What a scalar without quotes means. -/
namespace Packrat.Yaml

inductive Plain where
  | null
  | bool (b : Bool)
  /-- An integer of at most 128 bits. -/
  | int (n : Int)
  | float (x : Float)
  | text

namespace Plain

def isNull (s : String) : Bool := s == "null" || s == "Null" || s == "NULL" || s == "~"

def bool? (s : String) : Option Bool :=
  if s == "true" || s == "True" || s == "TRUE" then some true
  else if s == "false" || s == "False" || s == "FALSE" then some false
  else none

/-- Digits with a leading zero and an optional sign, which are a text. -/
def isPaddedNumber (cs : List Char) : Bool :=
  let digits := match cs with
    | '-' :: rest | '+' :: rest => rest
    | cs => cs
  match digits with
  | '0' :: rest => !rest.isEmpty && rest.all Decimal.isAsciiDigit
  | _ => false

def digitIn (base : Nat) (c : Char) : Option Nat :=
  let value :=
    if '0' ≤ c && c ≤ '9' then some (c.toNat - '0'.toNat)
    else if 'a' ≤ c && c ≤ 'f' then some (c.toNat - 'a'.toNat + 10)
    else if 'A' ≤ c && c ≤ 'F' then some (c.toNat - 'A'.toNat + 10)
    else none
  value.filter (· < base)

def natIn? (base : Nat) (cs : List Char) : Option Nat :=
  match cs with
  | [] => none
  | cs => cs.foldl (fun n c => match n, digitIn base c with
      | some n, some d => some (base * n + d)
      | _, _ => none) (some 0)

/-- An unsigned number, in base sixteen, eight or two after a mark, and else in base ten. -/
def magnitude? (cs : List Char) : Option Nat :=
  match cs with
  | '0' :: 'x' :: rest => natIn? 16 rest
  | '0' :: 'o' :: rest => natIn? 8 rest
  | '0' :: 'b' :: rest => natIn? 2 rest
  | cs => if isPaddedNumber cs then none else natIn? 10 cs

def integer? (cs : List Char) : Option Int :=
  match cs with
  | '-' :: rest => (magnitude? rest).map fun n => -(n : Int)
  | '+' :: rest => (magnitude? rest).map fun n => (n : Int)
  | cs => (magnitude? cs).map fun n => (n : Int)

/-- An integer that fits 128 bits, with a sign if it is negative and without one otherwise. -/
def int? (cs : List Char) : Option Int :=
  (integer? cs).filter fun n => -Int.pow 2 127 ≤ n && n < Int.pow 2 128

/-- A decimal number, an infinity or NaN. Decimals too large for a float are no number. -/
def float? (s : String) : Option Float :=
  if [".inf", ".Inf", ".INF", "+.inf", "+.Inf", "+.INF"].contains s then some (1.0 / 0.0)
  else if ["-.inf", "-.Inf", "-.INF"].contains s then some (-1.0 / 0.0)
  else if [".nan", ".NaN", ".NAN"].contains s then some (0.0 / 0.0)
  else ((Decimal.read? s.toList).map (·.toFloat)).filter (·.isFinite)

/-- What a scalar without quotes stands for. -/
def resolve (s : String) : Plain :=
  if s == "" || isNull s then null
  else
    match bool? s with
    | some b => bool b
    | none =>
      match int? s.toList with
      | some n => int n
      | none =>
        if isPaddedNumber s.toList then text
        else
          match float? s with
          | some x => float x
          | none => text

end Plain

end Packrat.Yaml
