import Packrat.Value

/-! Structured data as files hold it: what values, snapshots and grammar files are written as. The
fields of an object keep their order. -/
namespace Packrat

inductive Data where
  | null
  | bool (b : Bool)
  | int (n : Int)
  | float (x : Float)
  | text (s : String)
  | list (items : List Data)
  | object (fields : List (String × Data))
  deriving Inhabited

mutual

def Value.toData : Value → Data
  | .null => .null
  | .bool b => .bool b
  | .int n => .int n.toInt
  | .float x => .float x
  | .str s => .text s
  | .list items => .list (Value.itemsToData items)
  | .map entries => .object (Value.entriesToData entries)

def Value.itemsToData : List Value → List Data
  | [] => []
  | v :: rest => v.toData :: Value.itemsToData rest

def Value.entriesToData : List (String × Value) → List (String × Data)
  | [] => []
  | (key, v) :: rest => (key, v.toData) :: Value.entriesToData rest

end

end Packrat
