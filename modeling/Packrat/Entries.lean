/-! Association lists kept in the order of their keys, at most one entry a key. -/
namespace Packrat.Entries

variable {α : Type}

def get? : List (String × α) → String → Option α
  | [], _ => none
  | (k, v) :: rest, key => if k = key then some v else get? rest key

def insert : List (String × α) → String → α → List (String × α)
  | [], key, value => [(key, value)]
  | (k, v) :: rest, key, value =>
    if key < k then (key, value) :: (k, v) :: rest
    else if k = key then (key, value) :: rest
    else (k, v) :: insert rest key value

def erase (entries : List (String × α)) (key : String) : List (String × α) :=
  entries.filter (·.1 != key)

def keys (entries : List (String × α)) : List String := entries.map (·.1)

/-- The entries of a list in which keys may repeat and stand in any order; the last one of a key
counts. -/
def ofList (pairs : List (String × α)) : List (String × α) :=
  pairs.foldl (fun entries p => insert entries p.1 p.2) []

def Sorted (entries : List (String × α)) : Prop :=
  (keys entries).Pairwise (· < ·)

end Packrat.Entries
