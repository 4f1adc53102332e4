import Packrat.File.Loose
import Packrat.Json.Tree

/-! Grammar files and values written in JSON. -/
namespace Packrat

def Json.maxDepth : Nat := 127

namespace Json.Tree

mutual

/-- A tree as data. Numbers must be in range and strings be texts. -/
def toLoose? : Tree → Option Loose
  | null => some .null
  | bool b => some (.bool b)
  | number n =>
    match n.toInt64? with
    | some n => some (.int n.toInt)
    | none => n.toFloat?.map .float
  | string raw => (Quoted.text? raw).map fun cs => .text (String.ofList cs)
  | list items => (itemsToLoose? items).map .list
  | object fields => (fieldsToLoose? fields).map .object

def itemsToLoose? : List Tree → Option (List Loose)
  | [] => some []
  | t :: rest =>
    match toLoose? t, itemsToLoose? rest with
    | some d, some ds => some (d :: ds)
    | _, _ => none

def fieldsToLoose? : List (List Char × Tree) → Option (List (Loose × Loose))
  | [] => some []
  | (key, t) :: rest =>
    match Quoted.text? key, toLoose? t, fieldsToLoose? rest with
    | some key, some d, some ds => some ((.text (String.ofList key), d) :: ds)
    | _, _, _ => none

end

/-- Data inside `outer` lists and objects. -/
def loose? (outer : Nat) (t : Tree) : Option Loose :=
  if outer + t.depth ≤ maxDepth then t.toLoose? else none

def text? : Tree → Option String
  | string raw => (Quoted.text? raw).map String.ofList
  | _ => none

def int32? : Tree → Option Int32
  | number n => n.toInt64?.bind fun n => Loose.toInt32? n.toInt
  | _ => none

def list? {β : Type} (read? : Tree → Option β) : Tree → Option (List β)
  | list items => items.mapM read?
  | _ => none

def entries? {β : Type} (read? : Tree → Option β) : Tree → Option (List (String × β))
  | object fields => fields.mapM fun (key, t) => do
    return (String.ofList (← Quoted.text? key), ← read? t)
  | _ => none

def nullable? {β : Type} (read? : Tree → Option β) : Tree → Option (Option β)
  | null => some none
  | t => (read? t).map some

def fields? (names : List String) : Tree → Option (List (String × Tree))
  | object fields => (entries? some (object fields)).bind (Fields.ofPairs? names)
  | list items => Fields.ofItems? names items
  | _ => none

/-- A name, or an object that has null under the name. -/
def associativity? : Tree → Option Associativity
  | object [(key, null)] =>
    (Quoted.text? key).bind fun name => Associativity.named? (String.ofList name)
  | t => t.text?.bind Associativity.named?

end Json.Tree

open Json

def RuleEntry.ofJson? (t : Tree) : Option RuleEntry := do
  let fields ← t.fields? ["name", "pattern", "action", "precedence", "assoc"]
  return {
    name := ← Fields.required? fields "name" Tree.text?
    pattern := ← Fields.optional? fields "pattern" (Tree.list? Tree.text?) []
    action := ← Fields.optional? fields "action" Tree.text? ""
    precedence := ← Fields.optional? fields "precedence" (Tree.nullable? Tree.int32?) none
    associativity := ← Fields.optional? fields "assoc" (Tree.nullable? Tree.associativity?) none }

/-- Values and tokens stand inside two objects. -/
def GrammarFile.ofJson? (t : Tree) : Option GrammarFile := do
  let fields ← t.fields? ["name", "tokens", "rules", "context", "start"]
  let token (t : Tree) := (t.loose? 2).bind TokenEntry.ofLoose?
  let value (t : Tree) := (t.loose? 2).bind Value.ofLoose?
  return {
    name := ← Fields.required? fields "name" Tree.text?
    tokens := ← Fields.optional? fields "tokens" (Tree.entries? token) []
    rules := ← Fields.optional? fields "rules" (Tree.list? RuleEntry.ofJson?) []
    context := Entries.ofList (← Fields.optional? fields "context" (Tree.entries? value) [])
    start := ← Fields.optional? fields "start" (Tree.nullable? Tree.text?) none }

def Value.ofJsonText? (text : String) : Option Value := do
  let t ← Tree.ofText? text
  Value.ofLoose? (← t.loose? 0)

end Packrat
