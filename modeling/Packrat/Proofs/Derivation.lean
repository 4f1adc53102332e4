import Packrat.Proofs.Depth
import Packrat.Proofs.Registration

/-! Matches are derivations. Whatever a rule matches, be it matched afresh, found again, or the
unfinished match of a growing rule, is read off a tree of the grammar taken as a context-free one.
The invariant: kept outcomes and seeds are of that kind. -/
namespace Packrat

inductive Derivation where
  | leaf (l : Lexeme)
  | node (rule : Nat) (alternative : Alternative) (children : List Derivation)

namespace Derivation

mutual

def leaves : Derivation → List Lexeme
  | leaf l => [l]
  | node _ _ children => leavesAll children

def leavesAll : List Derivation → List Lexeme
  | [] => []
  | tree :: rest => leaves tree ++ leavesAll rest

end

mutual

def value? (t : Match.Task) : Derivation → Option Value
  | leaf l => some (.str l.text)
  | node _ a children => (values? t children).bind (t.evaluate a.action)

def values? (t : Match.Task) : List Derivation → Option (List Value)
  | [] => some []
  | tree :: rest => (value? t tree).bind fun value => (values? t rest).map (value :: ·)

end

end Derivation

inductive Derives (g : Grammar) : String → Derivation → Prop
  | token : g.resolve symbol = some (.token i) → l.kind = symbol → Derives g symbol (.leaf l)
  | rule : g.resolve symbol = some (.rule i) → a ∈ (g.ruleAt i).alternatives →
      List.Forall₂ (Derives g) a.symbols children → Derives g symbol (.node i a children)

namespace Match

/-- A match of a symbol at a position is the value of a tree over the tokens it takes. -/
structure Yields (t : Task) (symbol : String) (pos : Nat) (m : Matched) : Prop where
  forward : pos ≤ m.stop
  within : m.stop ≤ t.lexemes.size
  derived : ∃ tree, Derives t.grammar symbol tree ∧
    tree.leaves = (t.lexemes.extract pos m.stop).toList ∧ (t.ValueOnly → tree.value? t = some m.value)

structure Spans (t : Task) (symbols : List String) (pos : Nat) (values : List Value) (stop : Nat) : Prop where
  forward : pos ≤ stop
  within : stop ≤ t.lexemes.size
  derived : ∃ trees, List.Forall₂ (Derives t.grammar) symbols trees ∧
    Derivation.leavesAll trees = (t.lexemes.extract pos stop).toList ∧
    (t.ValueOnly → Derivation.values? t trees = some values)

section Trees

variable {t : Task} {pos : Nat}

theorem Spans.nil (within : pos ≤ t.lexemes.size) : Spans t [] pos [] pos :=
  ⟨Nat.le_refl pos,within,[],.nil,by simp [Derivation.leavesAll],fun _ => rfl⟩

theorem Spans.cons (first : Yields t symbol pos m) (rest : Spans t symbols m.stop values stop) :
    Spans t (symbol :: symbols) pos (m.value :: values) stop := by
  obtain ⟨tree,derives,leaves,value⟩ := first.derived
  obtain ⟨trees,derives',leaves',values'⟩ := rest.derived
  refine ⟨Nat.le_trans first.forward rest.forward,rest.within,tree :: trees,.cons derives derives',?_,?_⟩
  · have joined := @Array.extract_append_extract _ t.lexemes pos m.stop stop
    rw [Nat.min_eq_left first.forward,Nat.max_eq_right rest.forward] at joined
    rw [Derivation.leavesAll,leaves,leaves',← joined,Array.toList_append]
  · intro valueOnly
    simp [Derivation.values?,value valueOnly,values' valueOnly]

theorem Yields.token (resolved : t.grammar.resolve symbol = some (.token i))
    (found : t.lexemes[pos]? = some l) (kind : l.kind = symbol) :
    Yields t symbol pos ⟨.str l.text,pos + 1⟩ := by
  obtain ⟨inside,rfl⟩ := Array.getElem?_eq_some_iff.mp found
  refine ⟨Nat.le_succ pos,inside,.leaf t.lexemes[pos],.token resolved kind,?_,fun _ => rfl⟩
  have one := @Array.extract_succ_right _ t.lexemes pos pos (Nat.lt_succ_self pos) inside
  have empty : t.lexemes.extract pos pos = #[] :=
    Array.extract_empty_of_stop_le_start (Nat.le_refl pos)
  simp only [one,empty,Derivation.leaves,Array.toList_push,List.nil_append]

theorem Yields.node (resolved : t.grammar.resolve symbol = some (.rule i))
    (member : a ∈ (t.grammar.ruleAt i).alternatives) (spans : Spans t a.symbols pos values stop)
    (accepted : t.ValueOnly → t.evaluate a.action values = some value) :
    Yields t symbol pos ⟨value,stop⟩ := by
  obtain ⟨trees,derives,leaves,values'⟩ := spans.derived
  refine ⟨spans.forward,spans.within,.node i a trees,.rule resolved member derives,leaves,?_⟩
  intro valueOnly
  simp [Derivation.value?,values' valueOnly,accepted valueOnly]

end Trees

/-- The rule, the position and the outcome of a call that the event ended. -/
def Event.answer? : Event → Option (Nat × Nat × Option Matched)
  | recalled rule pos outcome => some (rule,pos,outcome)
  | reentered rule pos seed => some (rule,pos,seed)
  | settled rule pos outcome _ => some (rule,pos,outcome)
  | _ => none

def Sound (t : Task) (rule pos : Nat) (outcome : Option Matched) : Prop :=
  ∀ m ∈ outcome, Yields t (t.grammar.ruleName rule) pos m

def Told (t : Task) (trace : List Event) : Prop :=
  ∀ e ∈ trace, ∀ rule pos outcome, e.answer? = some (rule,pos,outcome) → Sound t rule pos outcome

theorem Told.silent (told : Told t trace) (silent : e.answer? = none) : Told t (e :: trace) := by
  intro e' member rule pos outcome answered
  rcases List.mem_cons.mp member with rfl | old
  · rw [silent] at answered
    cases answered
  · exact told e' old rule pos outcome answered

theorem Told.answer (told : Told t trace) (answered : e.answer? = some (rule,pos,outcome))
    (sound : Sound t rule pos outcome) : Told t (e :: trace) := by
  intro e' member rule' pos' outcome' answered'
  rcases List.mem_cons.mp member with rfl | old
  · obtain ⟨rfl,rfl,rfl⟩ := answered.symm.trans answered'
    exact sound
  · exact told e' old rule' pos' outcome' answered'

end Match

end Packrat
