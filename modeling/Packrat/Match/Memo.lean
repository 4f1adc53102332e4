import Std.Data.TreeMap
import Packrat.Value

/-! The outcomes of rules at positions, kept for the length of one parse. -/
namespace Packrat

/-- A successful match: its value, and the number of the token just past it. -/
structure Matched where
  value : Value
  stop : Nat
  deriving Inhabited

namespace Memo

def compareKeys : Nat × Nat → Nat × Nat → Ordering :=
  compareLex (compareOn fun k => k.1) (compareOn fun k => k.2)

instance : Std.TransCmp compareKeys :=
  inferInstanceAs (Std.TransCmp
    (compareLex (compareOn fun k : Nat × Nat => k.1) (compareOn fun k : Nat × Nat => k.2)))

instance : Std.LawfulEqCmp compareKeys where
  eq_of_compare := by
    intro a b same
    simp only [compareKeys, compareLex, compareOn] at same
    rw [Ordering.then_eq_eq] at same
    exact Prod.ext (Std.LawfulEqCmp.eq_of_compare same.1) (Std.LawfulEqCmp.eq_of_compare same.2)

end Memo

/-- Outcomes by rule and position, and how often one was found. -/
structure Memo where
  entries : Std.TreeMap (Nat × Nat) (Option Matched) Memo.compareKeys := ∅
  hits : Nat := 0

namespace Memo

/-- The outcome kept for a rule at a position; `some none` is a failure. -/
def get? (m : Memo) (rule pos : Nat) : Option (Option Matched) := m.entries[(rule, pos)]?

def lookup (m : Memo) (rule pos : Nat) : Option (Option Matched) × Memo :=
  match m.get? rule pos with
  | some outcome => (some outcome, { m with hits := m.hits + 1 })
  | none => (none, m)

def record (m : Memo) (rule pos : Nat) (outcome : Option Matched) : Memo :=
  { m with entries := m.entries.insert (rule, pos) outcome }

def size (m : Memo) : Nat := m.entries.size

def isEmpty (m : Memo) : Bool := m.entries.isEmpty

end Memo

end Packrat
