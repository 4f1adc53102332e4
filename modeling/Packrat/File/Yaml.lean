import Packrat.File.Loose
import Packrat.Yaml.Node
import Packrat.Yaml.Plain

/-! Grammar files and values written in YAML. Where a text is asked for, any scalar will do; where
the type is open, a scalar without quotes is what it looks like. -/
namespace Packrat

namespace Yaml

def maxDepth : Nat := 128

def typeTag (name : String) : TagBytes := ("tag:yaml.org,2002:" ++ name).toUTF8.data.toList

def intData? (n : Int) : Option Loose :=
  if Int64.minValue.toInt ≤ n && n < UInt64.size then some (.int n) else none

def plainData? (text : String) : Option Loose :=
  match Plain.resolve text with
  | .null => some .null
  | .bool b => some (.bool b)
  | .int n => intData? n
  | .float x => some (.float x)
  | .text => some (.text text)

/-- Whether a node has a tag of the document's own, which has no meaning here. -/
def isForeign (tag : Option TagBytes) : Bool := (tag.bind Tag.ownName?).isSome

/-- What a scalar stands for. A tag that starts with an exclamation mark and names nothing counts
for little: without quotes, the scalar is still what it looks like. -/
def scalarData? (tag : Option TagBytes) (style : ScalarStyle) (text : String) : Option Loose :=
  if isForeign tag then none
  else if tag = typeTag "bool" then (Plain.bool? text).map .bool
  else if tag = typeTag "int" then (Plain.int? text.toList).bind intData?
  else if tag = typeTag "float" then (Plain.float? text).map .float
  else if tag = typeTag "null" then if Plain.isNull text then some .null else none
  else if style = .plain && tag.all (·.head? == some 0x21) then plainData? text
  else some (.text text)

/-- Reading that may fail and may follow a limited number of aliases. -/
abbrev Reading := StateT Nat Option

namespace Reading

variable {α : Type} (anchors : List (Nat × Node))

def ofOption (x : Option α) : Reading α := fun budget => x.map fun a => (a, budget)

def follow : Node → Reading Node
  | .aliasOf number => fun budget =>
    match budget, anchors.lookup number with
    | budget + 1, some node => some (node, budget)
    | _, _ => none
  | node => pure node

def loose : (depth : Nat) → Node → Reading Loose
  | 0, node => do
    match ← follow anchors node with
    | .scalar _ tag style text => ofOption (scalarData? tag style text)
    | _ => failure
  | depth + 1, node => do
    match ← follow anchors node with
    | .scalar _ tag style text => ofOption (scalarData? tag style text)
    | .sequence _ tag items =>
      if isForeign tag then failure
      else return .list (← items.mapM (loose depth))
    | .mapping _ tag entries =>
      if isForeign tag then failure
      else return .object (← entries.mapM fun (key, value) => do
        return (← loose depth key, ← loose depth value))
    | .aliasOf _ => failure

def text (node : Node) : Reading String := do
  match ← follow anchors node with
  | .scalar _ _ _ text => return text
  | _ => failure

def isBlank : Node → Bool
  | .scalar _ _ .plain "" => true
  | _ => false

/-- A sequence; nothing at all is an empty one. -/
def list (read : Node → Reading α) (node : Node) : Reading (List α) := do
  match ← follow anchors node with
  | .sequence _ _ items => items.mapM read
  | node => if isBlank node then return [] else failure

/-- A mapping with texts as keys; nothing at all is an empty one. -/
def entries (read : Node → Reading α) (node : Node) : Reading (List (String × α)) := do
  match ← follow anchors node with
  | .mapping _ _ pairs => pairs.mapM fun (key, value) => do
    return (← text anchors key, ← read value)
  | node => if isBlank node then return [] else failure

def fields (names : List String) (node : Node) : Reading (List (String × Node)) := do
  ofOption (Fields.ofPairs? names (← entries anchors pure node))

/-- Whether a node stands for nothing: an empty scalar or null, without quotes; none if it is tagged
as null and is not. -/
def isNothing? : Node → Option Bool
  | .scalar _ tag .plain text =>
    match tag with
    | none => some (text.isEmpty || Plain.isNull text)
    | some tag => if tag = typeTag "null" then if Plain.isNull text then some true else none
        else some false
  | _ => some false

def nullable (read : Node → Reading α) (node : Node) : Reading (Option α) := do
  let node ← follow anchors node
  if ← ofOption (isNothing? node) then return none else return some (← read node)

def int32 (node : Node) : Reading Int32 := do
  match ← follow anchors node with
  | .scalar _ tag style text =>
    if style = .plain || (style = .literal && tag = some (typeTag "int")) then
      ofOption ((Plain.integer? text.toList).bind Loose.toInt32?)
    else failure
  | _ => failure

def associativity (node : Node) : Reading Associativity := do
  match ← follow anchors node with
  | .scalar _ tag style text =>
    match tag.bind Tag.ownName? with
    | some name =>
      if style = .plain && (text.isEmpty || Plain.isNull text) then
        ofOption (Associativity.named? name)
      else failure
    | none => ofOption (Associativity.named? text)
  | _ => failure

def optional (fields : List (String × Node)) (name : String) (read : Node → Reading α) (missing : α) :
    Reading α :=
  match fields.lookup name with
  | some node => read node
  | none => pure missing

def required (fields : List (String × Node)) (name : String) (read : Node → Reading α) : Reading α :=
  match fields.lookup name with
  | some node => read node
  | none => failure

def ruleEntry (node : Node) : Reading RuleEntry := do
  let fields ← fields anchors ["name", "pattern", "action", "precedence", "assoc"] node
  return {
    name := ← required fields "name" (text anchors)
    pattern := ← optional fields "pattern" (list anchors (text anchors)) []
    action := ← optional fields "action" (text anchors) ""
    precedence := ← optional fields "precedence" (nullable anchors (int32 anchors)) none
    associativity := ← optional fields "assoc" (nullable anchors (associativity anchors)) none }

def grammarFile (node : Node) : Reading GrammarFile := do
  let fields ← fields anchors ["name", "tokens", "rules", "context", "start"] node
  let token (node : Node) : Reading TokenEntry := do
    ofOption (TokenEntry.ofLoose? (← loose anchors (maxDepth - 2) node))
  let value (node : Node) : Reading Value := do
    ofOption (Value.ofLoose? (← loose anchors (maxDepth - 2) node))
  return {
    name := ← required fields "name" (text anchors)
    tokens := ← optional fields "tokens" (entries anchors token) []
    rules := ← optional fields "rules" (list anchors (ruleEntry anchors)) []
    context := Entries.ofList (← optional fields "context" (entries anchors value) [])
    start := ← optional fields "start" (nullable anchors (text anchors)) none }

end Reading

mutual

/-- The size of a node: scalars and aliases count once, collections twice. -/
def Node.size : Node → Nat
  | .aliasOf _ => 1
  | .scalar _ _ _ _ => 1
  | .sequence _ _ items => Node.itemsSize items + 2
  | .mapping _ _ entries => Node.entriesSize entries + 2

def Node.itemsSize : List Node → Nat
  | [] => 0
  | n :: rest => n.size + Node.itemsSize rest

def Node.entriesSize : List (Node × Node) → Nat
  | [] => 0
  | (key, value) :: rest => key.size + value.size + Node.entriesSize rest

end

/-- Reads a document. It may use aliases a hundred times as often as it is large. -/
def Node.decode? {α : Type} (read : List (Nat × Node) → Node → Reading α) (root : Node) : Option α :=
  (read root.anchored.reverse root (100 * root.size)).map (·.1)

end Yaml

/-- The grammar file a YAML document describes; an empty text describes none. -/
def GrammarFile.ofYaml? (document : Option Yaml.Node) : Option GrammarFile :=
  document.bind (Yaml.Node.decode? Yaml.Reading.grammarFile)

def Value.ofYamlText? (text : String) : Option Value := do
  match ← Yaml.Node.ofText? text with
  | none => return .null
  | some root =>
    Value.ofLoose? (← root.decode? fun anchors => Yaml.Reading.loose anchors Yaml.maxDepth)

end Packrat
