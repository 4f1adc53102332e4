import Packrat.Match.Failure
import Packrat.Match.Memo

/-! The state of a parse, and computations on it that may abort the parse.

The trace records everything that happens, latest first. Log records and failures are projections
of it. -/
namespace Packrat

structure Config where
  /-- How deeply rules may nest. -/
  maxDepth : Nat := 200
  /-- Whether an action that is not registered fails. Otherwise the default action stands in. -/
  strictActions : Bool := true
  deriving DecidableEq, Repr

/-- The configuration for grammars that come without actions. -/
def Config.lenient : Config := { strictActions := false }

/-- A rule being matched at a position. -/
structure Frame where
  rule : Nat
  pos : Nat
  /-- The best match so far while the rule's left recursion grows. -/
  seed : Option Matched := none
  /-- Whether anything inside used the unfinished match of an outer frame. -/
  dependent : Bool := false

namespace Match

/-- Something that happened. Rules are given by their numbers. -/
inductive Event where
  /-- The outcome of the rule at the position was known. -/
  | recalled (rule pos : Nat) (outcome : Option Matched)
  /-- The rule was already being matched at the position, and had come to the seed. -/
  | reentered (rule pos : Nat) (seed : Option Matched)
  /-- The alternatives of the rule are about to be tried at the position. -/
  | entered (rule pos : Nat)
  /-- The alternatives of the rule were tried at the position; the outcome is kept or not. -/
  | settled (rule pos : Nat) (outcome : Option Matched) (kept : Bool)
  /-- The parse was given up while the alternatives of the rule were tried at the position. -/
  | abandoned (rule pos : Nat)
  /-- The rule required a token that does not stand at the position. -/
  | mismatched (pos : Nat) (token : String) (rule : Nat)
  /-- An action was run on the values of the tokens from `start` up to `stop`. -/
  | invoked (rule : Nat) (action : String) (start stop : Nat)
  /-- The default action stood in for one that is not registered. -/
  | defaulted (rule : Nat) (action : String)
  /-- An action failed; `raised` tells a failure of its own from one for want of registration. -/
  | rejected (rule : Nat) (action message : String) (start stop : Nat) (raised : Bool)
  /-- The left recursion of the rule at the position was grown. -/
  | grew (rule pos rounds stop : Nat)

def Event.failure? (g : Grammar) : Event → Option Failure
  | mismatched pos token rule => some (.expected pos token (g.ruleName rule))
  | rejected rule action message start stop _ =>
    some (.rejected ⟨g.ruleName rule, action, message, start, stop⟩)
  | _ => none

def Event.record? (g : Grammar) : Event → Option Log.Record
  | recalled rule pos _ =>
    some ⟨.trace, .matching, "memo hit: " ++ g.ruleName rule ++ " at " ++ toString pos⟩
  | defaulted rule action =>
    some ⟨.warn, .matching, "action '" ++ action ++ "' of rule '" ++ g.ruleName rule ++
      "' is not registered, using the default action"⟩
  | rejected rule action message start stop true =>
    some ⟨.trace, .matching, "action '" ++ action ++ "' of rule '" ++ g.ruleName rule ++
      "' rejected tokens " ++ toString start ++ ".." ++ toString stop ++ ": " ++ message⟩
  | grew rule pos rounds stop =>
    some ⟨.trace, .growth, "grew '" ++ g.ruleName rule ++ "' at " ++ toString pos ++ " over " ++
      toString rounds ++ " rounds, ending at " ++ toString stop⟩
  | _ => none

inductive Abort where
  | tooDeep (rule pos : Nat)
  | undefinedSymbol (symbol : String) (rule pos : Nat)
  deriving DecidableEq, Repr

structure State where
  memo : Memo := {}
  /-- Rules being matched, innermost first. -/
  stack : List Frame := []
  context : Context := {}
  /-- Actions the default action already stood in for. -/
  defaulted : List String := []
  trace : List Event := []

namespace State

def note (s : State) (e : Event) : State := { s with trace := e :: s.trace }

/-- The rules being matched and their positions, innermost first. -/
def active (s : State) : List (Nat × Nat) := s.stack.map fun frame => (frame.rule, frame.pos)

def enter (s : State) (rule pos : Nat) : State :=
  { s with stack := { rule, pos } :: s.stack, trace := .entered rule pos :: s.trace }

/-- Ends the innermost match, and keeps its outcome unless it is dependent. -/
def leave (s : State) (rule pos : Nat) (result : Except Abort (Option Matched)) : State :=
  match s.stack, result with
  | [], _ => s
  | _ :: outer, .error _ => { s with stack := outer, trace := .abandoned rule pos :: s.trace }
  | frame :: outer, .ok outcome => { s with
      stack := outer
      memo := if frame.dependent then s.memo else s.memo.record rule pos outcome
      trace := .settled rule pos outcome (!frame.dependent) :: s.trace }

end State

end Match

/-- A computation on the state of a parse. The state is kept when the parse is given up. -/
def Matching (α : Type) : Type := Match.State → Except Match.Abort α × Match.State

namespace Matching

variable {α β : Type}

protected def pure (a : α) : Matching α := fun s => (.ok a, s)

protected def bind (m : Matching α) (f : α → Matching β) : Matching β := fun s =>
  match m s with
  | (.ok a, s) => f a s
  | (.error e, s) => (.error e, s)

instance : Monad Matching where
  pure := Matching.pure
  bind := Matching.bind

theorem pure_run (a : α) (s : Match.State) : (pure a : Matching α) s = (.ok a, s) := rfl

theorem bind_run (m : Matching α) (f : α → Matching β) (s : Match.State) :
    (m >>= f) s =
      match m s with
      | (.ok a, s) => f a s
      | (.error e, s) => (.error e, s) := rfl

def abort (e : Match.Abort) : Matching α := fun s => (.error e, s)

def note (e : Match.Event) : Matching Unit := fun s => (.ok (), s.note e)

end Matching

end Packrat
