import Packrat.Action

/-! Ready-made actions and functions, for grammars that are put together while a program runs. -/
namespace Packrat

/-- What an action does with the values of an alternative, counted from zero. -/
inductive Recipe where
  | const (v : Value)
  | pick (index : Nat)
  | fail (message : String)
  /-- A list of all values. -/
  | all
  /-- All values as a text. -/
  | text
  | typeName
  | toItems
  /-- Reads the first value as an integer. -/
  | int
  /-- Arithmetic on the first and third value; the second is the operator. -/
  | binary
  /-- Appends a value to the list given first. -/
  | push (index : Nat)
  /-- An integer up to a limit. -/
  | max (index : Nat) (limit : Int64)
  /-- Any value but the reserved one. -/
  | reject (index : Nat) (reserved : String)
  /-- A map of one entry, with the first value as its key. -/
  | pair (index : Nat)
  /-- Counts up a number in the context. -/
  | count (key : String)
  | set (key : String) (index : Nat)
  | get (key : String)
  | call (function : String)
  /-- Notes the values in the context before doing something else. -/
  | trace (label : String) (next : Recipe)

namespace Recipe

def value (vs : List Value) (index : Nat) : Except ActionError Value :=
  match vs[index]? with
  | some v => .ok v
  | none => .error ⟨"no value " ++ toString index⟩

def integer (v : Value) : Except ActionError Int64 :=
  match v with
  | .int n => .ok n
  | v => .error ⟨"expected an integer, got " ++ v.display⟩

def checked (n : Int) : Except ActionError Value :=
  match Decimal.toInt64? n with
  | some n => .ok (.int n)
  | none => .error ⟨"integer overflow"⟩

def arithmetic (a : Int64) (operator : Value) (b : Int64) : Except ActionError Value :=
  match operator with
  | .str "+" => checked (a.toInt + b.toInt)
  | .str "-" => checked (a.toInt - b.toInt)
  | .str "*" => checked (a.toInt * b.toInt)
  | .str "/" =>
    if b = 0 then .error ⟨"division by zero"⟩ else checked (a.toInt.tdiv b.toInt)
  | _ => .error ⟨"unknown operator"⟩

def readInteger (v : Option Value) : Except ActionError Value :=
  let text := (v.bind Value.str?).getD ""
  match (Decimal.readInt? text.toList).bind Decimal.toInt64? with
  | some n => .ok (.int n)
  | none => .error ⟨"not an integer: " ++ text⟩

def run : Recipe → UserAction
  | const v, _, _, c => (.ok v, c)
  | pick i, vs, _, c => (value vs i, c)
  | fail message, _, _, c => (.error ⟨message⟩, c)
  | all, vs, _, c => (.ok (.list vs), c)
  | text, vs, _, c => (.ok (.str (Value.list vs).display), c)
  | typeName, vs, _, c => ((value vs 0).map fun v => .str v.typeName, c)
  | toItems, vs, _, c => ((value vs 0).map fun v => .list v.toItems, c)
  | int, vs, _, c => (readInteger vs.head?, c)
  | binary, vs, _, c =>
    (do
      let left ← value vs 0
      let operator ← value vs 1
      let right ← value vs 2
      arithmetic (← integer left) operator (← integer right), c)
  | push i, vs, _, c =>
    (do
      let list ← value vs 0
      return .list (list.toItems ++ [← value vs i]), c)
  | max i limit, vs, _, c =>
    (do
      let v ← value vs i
      let n ← integer v
      if limit < n then .error ⟨toString n.toInt ++ " is too large"⟩ else return v, c)
  | reject i reserved, vs, _, c =>
    (do
      let v ← value vs i
      if v.display = reserved then .error ⟨reserved ++ " is reserved"⟩ else return v, c)
  | pair i, vs, _, c =>
    (do
      let key ← value vs 0
      return .map [(key.display, ← value vs i)], c)
  | count key, _, _, c =>
    let n := ((c.get? key).bind Value.int?).getD 0 + 1
    (.ok (.int n), c.set key (.int n))
  | set key i, vs, _, c =>
    match value vs i with
    | .ok v => (.ok v, c.set key v)
    | .error e => (.error e, c)
  | get key, _, _, c =>
    match c.get? key with
    | some v => (.ok v, c)
    | none => (.error ⟨"no context value " ++ key⟩, c)
  | call function, vs, fs, c => (fs.call function vs, c)
  | trace label next, vs, fs, c =>
    let noted := ((c.get? "trace").getD .null).toItems ++ [.str (label ++ (Value.list vs).display)]
    next.run vs fs (c.set "trace" (.list noted))

end Recipe

/-- What a registered function does with its arguments. -/
inductive FunctionRecipe where
  /-- The text in capitals, as far as basic letters go. -/
  | upper
  | sum
  | len
  | echo
  | const (v : Value)
  | fail (message : String)

namespace FunctionRecipe

def sumFrom (total : Int64) : List Value → Except ActionError Value
  | [] => .ok (.int total)
  | v :: rest => do
    let n ← Recipe.integer v
    match Decimal.toInt64? (total.toInt + n.toInt) with
    | some total => sumFrom total rest
    | none => .error ⟨"integer overflow"⟩

def run : FunctionRecipe → List Value → Except ActionError Value
  | upper, args =>
    match args.head? with
    | some (.str s) => .ok (.str (s.map Char.toUpper))
    | _ => .error ⟨"expected a string"⟩
  | sum, args => sumFrom 0 args
  | len, args => .ok (.int (Int64.ofNat args.length))
  | echo, args => .ok (.list args)
  | const v, _ => .ok v
  | fail message, _ => .error ⟨message⟩

end FunctionRecipe

end Packrat
