import Packrat.File.Grammar

/-! Data whose type is seen only when it is read: values, and tokens given by a pattern or by
particulars. -/
namespace Packrat

/-- Data read from a file, before it is known what it is meant for. -/
inductive Loose where
  | null
  | bool (b : Bool)
  | int (n : Int)
  | float (x : Float)
  | text (s : String)
  | list (items : List Loose)
  | object (fields : List (Loose × Loose))
  deriving Inhabited

mutual

/-- The value data stand for. Integers too large for an integer become floats; the keys of a map
are texts, and the last one of a key counts. -/
def Value.ofLoose? : Loose → Option Value
  | .null => some .null
  | .bool b => some (.bool b)
  | .int n =>
    match Decimal.toInt64? n with
    | some n => some (.int n)
    | none => some (.float (UInt64.ofNat n.toNat).toFloat)
  | .float x => some (.float x)
  | .text s => some (.str s)
  | .list items => (Value.itemsOfLoose? items).map .list
  | .object fields => (Value.entriesOfLoose? fields).map fun entries => .map (Entries.ofList entries)

def Value.itemsOfLoose? : List Loose → Option (List Value)
  | [] => some []
  | d :: rest =>
    match Value.ofLoose? d, Value.itemsOfLoose? rest with
    | some v, some vs => some (v :: vs)
    | _, _ => none

def Value.entriesOfLoose? : List (Loose × Loose) → Option (List (String × Value))
  | [] => some []
  | (.text key, d) :: rest =>
    match Value.ofLoose? d, Value.entriesOfLoose? rest with
    | some v, some entries => some ((key, v) :: entries)
    | _, _ => none
  | _ :: _ => none

end

namespace Fields

variable {α : Type}

/-- The known ones among named fields. None of them may stand twice. -/
def ofPairs? (names : List String) (pairs : List (String × α)) : Option (List (String × α)) :=
  let known := pairs.filter fun p => names.contains p.1
  if (known.map (·.1)).Nodup then some known else none

def ofItems? (names : List String) (items : List α) : Option (List (String × α)) :=
  if items.length ≤ names.length then some (names.zip items) else none

def optional? {β : Type} (fields : List (String × α)) (name : String) (read? : α → Option β)
    (missing : β) : Option β :=
  match fields.lookup name with
  | some field => read? field
  | none => some missing

def required? {β : Type} (fields : List (String × α)) (name : String) (read? : α → Option β) :
    Option β := (fields.lookup name).bind read?

end Fields

namespace Loose

def text? : Loose → Option String
  | text s => some s
  | _ => none

def bool? : Loose → Option Bool
  | bool b => some b
  | _ => none

def toInt32? (n : Int) : Option Int32 :=
  if Int32.minValue.toInt ≤ n && n ≤ Int32.maxValue.toInt then some (Int32.ofInt n) else none

def int32? : Loose → Option Int32
  | int n => toInt32? n
  | _ => none

def nullable? {β : Type} (read? : Loose → Option β) : Loose → Option (Option β)
  | null => some none
  | d => (read? d).map some

/-- The name of a field: written out, or by its number. -/
def fieldName? (names : List String) : Loose → Option String
  | text s => some s
  | int n => if n < 0 then none else some (names[n.toNat]?.getD "")
  | _ => none

def fields? (names : List String) : Loose → Option (List (String × Loose))
  | object pairs => do
    let named ← pairs.mapM fun (key, d) => (fieldName? names key).map fun name => (name, d)
    Fields.ofPairs? names named
  | list items => Fields.ofItems? names items
  | _ => none

end Loose

def TokenSpec.ofLoose? (d : Loose) : Option TokenSpec := do
  let fields ← d.fields? ["pattern", "priority", "lookahead", "lookbehind", "keyword"]
  return {
    pattern := ← Fields.required? fields "pattern" Loose.text?
    priority := ← Fields.optional? fields "priority" (Loose.nullable? Loose.int32?) none
    lookahead := ← Fields.optional? fields "lookahead" (Loose.nullable? Loose.text?) none
    lookbehind := ← Fields.optional? fields "lookbehind" (Loose.nullable? Loose.text?) none
    keyword := ← Fields.optional? fields "keyword" Loose.bool? false }

/-- A text is a pattern, anything else must hold the particulars of a token. -/
def TokenEntry.ofLoose? : Loose → Option TokenEntry
  | .text s => some (.plain s)
  | d => (TokenSpec.ofLoose? d).map .detailed

end Packrat
