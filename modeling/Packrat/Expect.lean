import Packrat.ParseError
import Packrat.Text.Quoted
import Packrat.Value

/-! Expectations about values and errors, for tests of languages. The first one that does not hold
is reported by a message. -/
namespace Packrat

inductive ValueCheck where
  | equals (v : Value)
  | null
  | int (n : Int64)
  /-- A number up to a tolerance of one thousand-millionth. -/
  | float (x : Float)
  | str (s : String)
  | bool (b : Bool)
  | length (n : Nat)
  /-- Expectations about an item of a list. -/
  | item (index : Nat) (checks : List ValueCheck)
  /-- Expectations about an entry of a map. -/
  | entry (key : String) (checks : List ValueCheck)

namespace ValueCheck

/-- The value with its type, as messages show it. -/
def found (v : Value) : String := "found " ++ v.display ++ " (" ++ v.typeName ++ ")"

def require (holds : Bool) (message : String) : Except String Unit :=
  if holds then .ok () else .error message

def items (path : String) (v : Value) : Except String (List Value) :=
  match v with
  | .list vs => .ok vs
  | v => .error (path ++ ": expected a list, " ++ found v)

mutual

def run (path : String) (v : Value) : ValueCheck → Except String Unit
  | equals expected =>
    require (v == expected) (path ++ ": expected " ++ expected.display ++ ", found " ++ v.display)
  | null => require v.isNull (path ++ ": expected null, " ++ found v)
  | int n =>
    require (v.int? == some n) (path ++ ": expected int " ++ toString n.toInt ++ ", " ++ found v)
  | float x =>
    require (v.float?.any fun y => (y - x).abs < 1e-9)
      (path ++ ": expected float " ++ Decimal.plain.write x ++ ", " ++ found v)
  | str s =>
    require (v.str? == some s) (path ++ ": expected string " ++ Text.Quoted.text s ++ ", " ++ found v)
  | bool b =>
    require (v.bool? == some b)
      (path ++ ": expected " ++ (Value.bool b).display ++ ", found " ++ v.display)
  | length n => do
    let vs ← items path v
    require (vs.length == n) (path ++ ": expected " ++ toString n ++ " items, found " ++
      toString vs.length ++ ": " ++ v.display)
  | item index checks => do
    let vs ← items path v
    match vs[index]? with
    | some inner => runAll (path ++ "[" ++ toString index ++ "]") inner checks
    | none => .error (path ++ ": item index " ++ toString index ++ " out of bounds (list has " ++
        toString vs.length ++ " items)")
  | entry key checks =>
    match v with
    | .map entries =>
      match Entries.get? entries key with
      | some inner => runAll (path ++ "." ++ key) inner checks
      | none => .error (path ++ ": no key " ++ Text.Quoted.text key ++ " in " ++ v.display)
    | v => .error (path ++ ": expected a map, " ++ found v)

def runAll (path : String) (v : Value) : List ValueCheck → Except String Unit
  | [] => .ok ()
  | c :: rest => do
    run path v c
    runAll path v rest

end

end ValueCheck

inductive ErrorCheck where
  | place (line column : Nat)
  | offset (offset : Nat)
  | kind (k : ParseError.Kind)
  | token (text : String)
  | messageContains (text : String)
  | detailedContains (text : String)

namespace ErrorCheck

def occurs (part : List Char) : List Char → Bool
  | [] => part.isEmpty
  | c :: rest => part.isPrefixOf (c :: rest) || occurs part rest

def contains (s part : String) : Bool := occurs part.toList s.toList

def run (e : ParseError) : ErrorCheck → Except String Unit
  | place line column =>
    ValueCheck.require (e.line == line && e.column == column)
      ("Expected error at " ++ toString line ++ ":" ++ toString column ++ ", found " ++
        toString e.line ++ ":" ++ toString e.column ++ " (" ++ e.message ++ ")")
  | offset n =>
    ValueCheck.require (e.offset == n) ("Expected error at offset " ++ toString n ++ ", found " ++
      toString e.offset ++ " (" ++ e.message ++ ")")
  | kind k => ValueCheck.require (e.kind == k) ("Unexpected error kind: " ++ e.display)
  | token text =>
    ValueCheck.require (e.token == text) ("Expected offending token " ++ Text.Quoted.text text ++
      ", found " ++ Text.Quoted.text e.token)
  | messageContains text =>
    ValueCheck.require (contains e.message text) ("Expected error message to contain " ++
      Text.Quoted.text text ++ ", found " ++ Text.Quoted.text e.message)
  | detailedContains text =>
    ValueCheck.require (contains e.detailed text) ("Expected detailed error to contain " ++
      Text.Quoted.text text ++ ", found:\n" ++ e.detailed)

def runAll (e : ParseError) : List ErrorCheck → Except String Unit
  | [] => .ok ()
  | c :: rest => do
    c.run e
    runAll e rest

end ErrorCheck

end Packrat
