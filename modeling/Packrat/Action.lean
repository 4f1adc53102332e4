import Packrat.Text.Quoted
import Packrat.Value

/-! Actions: what turns the values of a matched alternative into the value of its rule.

Actions see the context of the parse, which they may change, and the registered functions, which
they may call. An action that fails makes the alternative fail, not the parse. -/
namespace Packrat

structure ActionError where
  message : String
  deriving DecidableEq, Repr

/-- Named values visible to actions, in the order of their names. -/
structure Context where
  entries : List (String × Value) := []
  deriving Inhabited

namespace Context

def get? (c : Context) (name : String) : Option Value := Entries.get? c.entries name

def set (c : Context) (name : String) (v : Value) : Context := ⟨Entries.insert c.entries name v⟩

def erase (c : Context) (name : String) : Context := ⟨Entries.erase c.entries name⟩

def isEmpty (c : Context) : Bool := c.entries.isEmpty

def toValue (c : Context) : Value := .map c.entries

def beq (a b : Context) : Bool := Value.beqEntries a.entries b.entries

instance : BEq Context := ⟨beq⟩

end Context

structure Functions where
  entries : List (String × (List Value → Except ActionError Value)) := []
  deriving Inhabited

namespace Functions

def get? (f : Functions) (name : String) : Option (List Value → Except ActionError Value) :=
  Entries.get? f.entries name

def register (f : Functions) (name : String) (fn : List Value → Except ActionError Value) : Functions :=
  ⟨Entries.insert f.entries name fn⟩

def names (f : Functions) : List String := Entries.keys f.entries

def display (f : Functions) : String :=
  "\x7b" ++ ", ".intercalate (f.names.map Text.Quoted.text) ++ "\x7d"

def call (f : Functions) (name : String) (args : List Value) : Except ActionError Value :=
  match f.get? name with
  | some fn => fn args
  | none => .error ⟨"unknown function '" ++ name ++ "'"⟩

end Functions

/-- Actions that are always available. -/
inductive Builtin where
  /-- One value passes through, several become a list. -/
  | default
  /-- An empty list. -/
  | empty
  /-- A list of the first value. -/
  | single
  /-- The list given first, with the other values appended. -/
  | append
  /-- Null. -/
  | none
  deriving DecidableEq, Repr

namespace Builtin

def emptyName : String := "$empty"

def singleName : String := "$single"

def appendName : String := "$append"

def noneName : String := "$none"

/-- The action of a reserved name; the empty name is the default action. -/
def named? (name : String) : Option Builtin :=
  if name = "" then some default
  else if name = emptyName then some empty
  else if name = singleName then some single
  else if name = appendName then some append
  else if name = noneName then some none
  else Option.none

def apply : Builtin → List Value → Except ActionError Value
  | default, [v] => .ok v
  | default, vs => .ok (.list vs)
  | empty, _ => .ok (.list [])
  | single, vs => .ok (.list (vs.take 1))
  | append, [] => .error ⟨"$append needs at least one value"⟩
  | append, head :: rest => .ok (.list (head.toItems ++ rest))
  | none, _ => .ok .null

def label : Builtin → String
  | default => "Default"
  | empty => "Empty"
  | single => "Single"
  | append => "Append"
  | none => "None"

end Builtin

/-- An action of the user: the outcome, and the context it leaves. -/
abbrev UserAction := List Value → Functions → Context → Except ActionError Value × Context

inductive Action where
  | builtin (b : Builtin)
  | user (f : UserAction)

namespace Action

def run : Action → List Value → Functions → Context → Except ActionError Value × Context
  | builtin b, vs, _, c => (b.apply vs, c)
  | user f, vs, fs, c => f vs fs c

def label : Action → String
  | builtin b => "Builtin(" ++ b.label ++ ")"
  | user _ => "User(..)"

end Action

end Packrat
