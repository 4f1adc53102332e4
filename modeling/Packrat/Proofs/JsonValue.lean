import Packrat.File.Json
import Packrat.Proofs.Assembly
import Packrat.Proofs.JsonPieces

/-! Values that were written as JSON come back as themselves, with their types, as far as they hold
no floats. -/
namespace Packrat

/-- Values that JSON keeps as they are: no floats, and maps in the order of their keys. -/
inductive Value.Exact : Value → Prop where
  | null : Exact .null
  | bool (b : Bool) : Exact (.bool b)
  | int (n : Int64) : Exact (.int n)
  | str (s : String) : Exact (.str s)
  | list (items : List Value) (exact : ∀ v ∈ items, Exact v) : Exact (.list items)
  | map (entries : List (String × Value)) (sorted : Entries.Sorted entries) (exact : ∀ p ∈ entries, Exact p.2) :
    Exact (.map entries)

mutual

def Value.depth : Value → Nat
  | .list items => itemsDepth items + 1
  | .map entries => entriesDepth entries + 1
  | _ => 0

def Value.itemsDepth : List Value → Nat
  | [] => 0
  | v :: rest => max v.depth (itemsDepth rest)

def Value.entriesDepth : List (String × Value) → Nat
  | [] => 0
  | (_,v) :: rest => max v.depth (entriesDepth rest)

end

namespace Json

mutual

def looseOf : Data → Loose
  | .null => .null
  | .bool b => .bool b
  | .int n => .int n
  | .float x => .float x
  | .text s => .text s
  | .list items => .list (loosesOf items)
  | .object fields => .object (fieldLoosesOf fields)

def loosesOf : List Data → List Loose
  | [] => []
  | d :: rest => looseOf d :: loosesOf rest

def fieldLoosesOf : List (String × Data) → List (Loose × Loose)
  | [] => []
  | (key,d) :: rest => (.text key,looseOf d) :: fieldLoosesOf rest

end

theorem loosesOf_eq (items : List Data) : loosesOf items = items.map looseOf := by
  induction items with
  | nil => rfl
  | cons d rest ih => rw [loosesOf,ih,List.map_cons]

theorem fieldLoosesOf_eq (fields : List (String × Data)) :
    fieldLoosesOf fields = fields.map fun p => (.text p.1,looseOf p.2) := by
  induction fields with
  | nil => rfl
  | cons p rest ih => rw [fieldLoosesOf,ih,List.map_cons]

theorem toInt64?_fits (fits : Int64.minValue.toInt ≤ n ∧ n ≤ Int64.maxValue.toInt) :
    Decimal.toInt64? n = some (Int64.ofInt n) ∧ (Int64.ofInt n).toInt = n := by
  have low : Int64.minValue.toInt = -2 ^ 63 := by decide
  have high : Int64.maxValue.toInt = 2 ^ 63 - 1 := by decide
  refine ⟨?_,Int64.toInt_ofInt_of_le (by omega) (by omega)⟩
  rw [Decimal.toInt64?,if_pos (by simpa using fits)]

theorem text?_written (s : String) :
    (Quoted.text? (s.toList.flatMap escape)).map String.ofList = some s := by
  rw [Quoted.text?_escape,Option.map_some,String.ofList_toList]

namespace Tree

theorem itemsToLoose?_eq (items : List Data) (loose : ∀ d ∈ items, (treeOf d).toLoose? = some (looseOf d)) :
    itemsToLoose? (items.map treeOf) = some (items.map looseOf) := by
  induction items with
  | nil => rfl
  | cons d rest ih =>
    rw [List.map_cons,itemsToLoose?,loose d List.mem_cons_self,
      ih fun d member => loose d (List.mem_cons_of_mem _ member)]
    rfl

theorem fieldsToLoose?_eq (fields : List (String × Data))
    (loose : ∀ p ∈ fields, (treeOf p.2).toLoose? = some (looseOf p.2)) :
    fieldsToLoose? (fields.map fun p => (p.1.toList.flatMap escape,treeOf p.2)) =
      some (fields.map fun p => (.text p.1,looseOf p.2)) := by
  induction fields with
  | nil => rfl
  | cons p rest ih =>
    rw [List.map_cons,fieldsToLoose?,Quoted.text?_escape,loose p List.mem_cons_self,
      ih fun d member => loose d (List.mem_cons_of_mem _ member)]
    simp

theorem toLoose?_treeOf (faithful : d.Exact) : (treeOf d).toLoose? = some (looseOf d) := by
  induction faithful with
  | null => rfl
  | bool b => rfl
  | int n fits =>
    obtain ⟨fit,back⟩ := toInt64?_fits fits
    rw [treeOf,toLoose?,Numeral.toInt64?_ofInt,fit]
    dsimp only
    rw [back,looseOf]
  | text s =>
    rw [treeOf,toLoose?,Quoted.text?_escape]
    simp [looseOf]
  | list items _ ih =>
    rw [treeOf,toLoose?,treesOf_eq,itemsToLoose?_eq items ih,looseOf,loosesOf_eq]
    rfl
  | object fields _ ih =>
    rw [treeOf,toLoose?,fieldTreesOf_eq,fieldsToLoose?_eq fields ih,looseOf,fieldLoosesOf_eq]
    rfl

end Tree

end Json

namespace Value

open Json

theorem itemsToData_eq (items : List Value) : itemsToData items = items.map toData := by
  induction items with
  | nil => rfl
  | cons v rest ih => rw [itemsToData,ih,List.map_cons]

theorem entriesToData_eq (entries : List (String × Value)) :
    entriesToData entries = entries.map fun p => (p.1,p.2.toData) := by
  induction entries with
  | nil => rfl
  | cons p rest ih => rw [entriesToData,ih,List.map_cons]

theorem Exact.toData {v : Value} (faithful : v.Exact) : v.toData.Exact := by
  induction faithful with
  | null => exact .null
  | bool b => exact .bool b
  | int n => exact .int _ ⟨n.minValue_le_toInt,n.toInt_le⟩
  | str s => exact .text s
  | list items _ ih =>
    rw [Value.toData,itemsToData_eq]
    refine .list _ fun d member => ?_
    obtain ⟨v,listed,rfl⟩ := List.mem_map.mp member
    exact ih v listed
  | map entries _ _ ih =>
    rw [Value.toData,entriesToData_eq]
    refine .object _ fun p member => ?_
    obtain ⟨q,listed,rfl⟩ := List.mem_map.mp member
    exact ih q listed

theorem itemsOfLoose?_eq (items : List Value) (same : ∀ v ∈ items, ofLoose? (looseOf v.toData) = some v) :
    itemsOfLoose? (items.map fun v => looseOf v.toData) = some items := by
  induction items with
  | nil => rfl
  | cons v rest ih =>
    rw [List.map_cons,itemsOfLoose?,same v List.mem_cons_self,ih fun v member => same v (List.mem_cons_of_mem _ member)]

theorem entriesOfLoose?_eq (entries : List (String × Value))
    (same : ∀ p ∈ entries, ofLoose? (looseOf p.2.toData) = some p.2) :
    entriesOfLoose? (entries.map fun p => (.text p.1,looseOf p.2.toData)) = some entries := by
  induction entries with
  | nil => rfl
  | cons p rest ih =>
    rw [List.map_cons,entriesOfLoose?,same p List.mem_cons_self,
      ih fun p member => same p (List.mem_cons_of_mem _ member)]

/-- A value comes back with its type. -/
theorem ofLoose?_toData {v : Value} (faithful : v.Exact) : ofLoose? (looseOf v.toData) = some v := by
  induction faithful with
  | null => rfl
  | bool b => rfl
  | int n =>
    obtain ⟨fit,_⟩ := toInt64?_fits ⟨n.minValue_le_toInt,n.toInt_le⟩
    rw [Value.toData,looseOf,ofLoose?,fit,Int64.ofInt_toInt]
  | str s => rfl
  | list items _ ih =>
    rw [Value.toData,itemsToData_eq,looseOf,loosesOf_eq,List.map_map,ofLoose?]
    exact congrArg (Option.map Value.list) (itemsOfLoose?_eq items ih)
  | map entries sorted _ ih =>
    rw [Value.toData,entriesToData_eq,looseOf,fieldLoosesOf_eq,List.map_map,ofLoose?]
    have same := congrArg (Option.map fun entries => Value.map (Entries.ofList entries)) (entriesOfLoose?_eq entries ih)
    rw [Option.map_some,sorted.ofList_eq] at same
    exact same

theorem itemsDepth_eq (items : List Value) (same : ∀ v ∈ items, (treeOf v.toData).depth = v.depth) :
    Tree.itemsDepth (items.map fun v => treeOf v.toData) = itemsDepth items := by
  induction items with
  | nil => rfl
  | cons v rest ih =>
    rw [List.map_cons,Tree.itemsDepth,itemsDepth,same v List.mem_cons_self,
      ih fun v member => same v (List.mem_cons_of_mem _ member)]

theorem entriesDepth_eq (entries : List (String × Value))
    (same : ∀ p ∈ entries, (treeOf p.2.toData).depth = p.2.depth) :
    Tree.fieldsDepth (entries.map fun p => (p.1.toList.flatMap escape,treeOf p.2.toData)) = entriesDepth entries := by
  induction entries with
  | nil => rfl
  | cons p rest ih =>
    rw [List.map_cons,Tree.fieldsDepth,entriesDepth,same p List.mem_cons_self,
      ih fun p member => same p (List.mem_cons_of_mem _ member)]

theorem depth_eq {v : Value} (faithful : v.Exact) : (treeOf v.toData).depth = v.depth := by
  induction faithful with
  | null | bool b | int n | str s => rfl
  | list items _ ih =>
    rw [Value.toData,itemsToData_eq,treeOf,treesOf_eq,List.map_map,Tree.depth,depth]
    exact congrArg (· + 1) (itemsDepth_eq items ih)
  | map entries _ _ ih =>
    rw [Value.toData,entriesToData_eq,treeOf,fieldTreesOf_eq,List.map_map,Tree.depth,depth]
    exact congrArg (· + 1) (entriesDepth_eq entries ih)

end Value

end Packrat
