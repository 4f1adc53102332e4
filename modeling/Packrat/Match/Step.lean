import Packrat.Match.State

/-! Matching rules against the tokens of an input.

A rule at a position is matched at most once, unless its outcome hung on an unfinished match: the
outcome is kept, and found again later. Matching a rule where it is already being matched yields
the seed of that match so far, or fails, and marks everything in between as dependent on it. A
left-recursive rule first matches one of its other alternatives as its seed, and then grows it
round by round: each recursive alternative continues from the end of the seed, and the longest
continuation becomes the next seed. -/
namespace Packrat.Match

structure Task where
  grammar : Grammar
  lexemes : Array Lexeme
  functions : Functions := {}
  strictActions : Bool := true
  /-- Whether kept outcomes are used. -/
  recalls : Bool := true

variable (t : Task)

def recalled (rule pos : Nat) : Matching (Option (Option Matched)) := fun s =>
  if t.recalls then
    match s.memo.lookup rule pos with
    | (some outcome, memo) =>
      (.ok (some outcome), { s with memo, trace := .recalled rule pos outcome :: s.trace })
    | (none, _) => (.ok none, s)
  else (.ok none, s)

/-- Marks the frames inside the innermost frame of a rule at a position as dependent, and yields
that frame's seed; none if there is no such frame. -/
def markInside (rule pos : Nat) : List Frame → Option (Option Matched × List Frame)
  | [] => none
  | frame :: outer =>
    if frame.rule = rule ∧ frame.pos = pos then some (frame.seed, frame :: outer)
    else (markInside rule pos outer).map fun (seed, outer) =>
      (seed, { frame with dependent := true } :: outer)

/-- The unfinished match of a rule that is already being matched at a position. -/
def reenter (rule pos : Nat) : Matching (Option (Option Matched)) := fun s =>
  match markInside rule pos s.stack with
  | none => (.ok none, s)
  | some (seed, stack) =>
    (.ok (some seed), { s with stack, trace := .reentered rule pos seed :: s.trace })

/-- Matches a rule inside a frame of its own, and keeps the outcome unless it is dependent. -/
def framed (rule pos : Nat) (body : Matching (Option Matched)) : Matching (Option Matched) := fun s =>
  match body (s.enter rule pos) with
  | (result, inner) => (result, inner.leave rule pos result)

def setSeed (seed : Option Matched) : Matching Unit := fun s =>
  match s.stack with
  | [] => (.ok (), s)
  | frame :: outer => (.ok (), { s with stack := { frame with seed } :: outer })

/-- The action an alternative names. The default action stands in for one that is not registered,
unless actions are strict; that is noted once for each name. -/
def chooseAction (rule : Nat) (name : String) : Matching (Option Action) := fun s =>
  match t.grammar.action? name with
  | some action => (.ok (some action), s)
  | none =>
    if t.strictActions then (.ok none, s)
    else if s.defaulted.contains name then (.ok (some (.builtin .default)), s)
    else (.ok (some (.builtin .default)), { s with
      defaulted := name :: s.defaulted
      trace := .defaulted rule name :: s.trace })

def runAction (action : Action) (values : List Value) : Matching (Except ActionError Value) := fun s =>
  match action.run values t.functions s.context with
  | (result, context) => (.ok result, { s with context })

/-- The value of an alternative that matched the tokens from `start` up to `stop`; none if its
action fails. -/
def invoke (rule : Nat) (name : String) (values : List Value) (start stop : Nat) :
    Matching (Option Value) := do
  match ← chooseAction t rule name with
  | none =>
    Matching.note (.rejected rule name "action is not registered" start stop false)
    return none
  | some action =>
    Matching.note (.invoked rule name start stop)
    match ← runAction t action values with
    | .ok value => return some value
    | .error e =>
      Matching.note (.rejected rule name e.message start stop true)
      return none

section Body

-- How the rules an alternative refers to are matched, and the rule it belongs to.
variable (call : Fin t.grammar.rules.length → Nat → Matching (Option Matched))
variable (rule : Fin t.grammar.rules.length)

def matchSymbol (symbol : String) (pos : Nat) : Matching (Option Matched) :=
  match t.grammar.resolve symbol with
  | some (.token _) =>
    match t.lexemes[pos]? with
    | some l =>
      if l.kind = symbol then pure (some ⟨.str l.text, pos + 1⟩)
      else do
        Matching.note (.mismatched pos symbol rule)
        return none
    | none => do
      Matching.note (.mismatched pos symbol rule)
      return none
  | some (.rule i) => call i pos
  | none => Matching.abort (.undefinedSymbol symbol rule pos)

def matchSequence : (symbols : List String) → (pos : Nat) → Matching (Option (List Value × Nat))
  | [], pos => pure (some ([], pos))
  | symbol :: rest, pos => do
    match ← matchSymbol t call rule symbol pos with
    | none => return none
    | some first =>
      match ← matchSequence rest first.stop with
      | none => return none
      | some (values, stop) => return some (first.value :: values, stop)

/-- The first alternative that matches at a position and whose action accepts. -/
def matchAlternatives (pos : Nat) : List Alternative → Matching (Option Matched)
  | [] => pure none
  | a :: rest => do
    match ← matchSequence t call rule a.symbols pos with
    | none => matchAlternatives pos rest
    | some (values, stop) =>
      match ← invoke t rule a.action values pos stop with
      | some value => return some ⟨value, stop⟩
      | none => matchAlternatives pos rest

/-- One round of growth: the longest continuation of the seed by one of the recursive
alternatives, of equally long ones the first. `best` is the longest so far. -/
def growOnce (pos : Nat) (seed : Matched) : (alternatives : List Alternative) →
    (best : Option Matched) → Matching (Option Matched)
  | [], best => pure best
  | a :: rest, best => do
    match ← matchSequence t call rule a.symbols.tail seed.stop with
    | none => growOnce pos seed rest best
    | some (values, stop) =>
      if stop ≤ (best.getD seed).stop then growOnce pos seed rest best
      else
        match ← invoke t rule a.action (seed.value :: values) pos stop with
        | some value => growOnce pos seed rest (some ⟨value, stop⟩)
        | none => growOnce pos seed rest best

/-- Grows the seed as long as a round makes it longer. Each round takes a token more, so `room`,
the number of tokens after the seed, bounds the rounds. -/
def grow (pos : Nat) (alternatives : List Alternative) :
    (room rounds : Nat) → (seed : Matched) → Matching (Nat × Matched)
  | 0, rounds, seed => do
    let _ ← growOnce t call rule pos seed alternatives none
    return (rounds, seed)
  | room + 1, rounds, seed => do
    match ← growOnce t call rule pos seed alternatives none with
    | none => return (rounds, seed)
    | some next =>
      setSeed (some next)
      grow pos alternatives room (rounds + 1) next

/-- Matches a left-recursive rule, whose frame is the innermost one. -/
def growSeed (pos : Nat) : Matching (Option Matched) := do
  let definition := t.grammar.ruleAt rule
  match ← matchAlternatives t call rule pos definition.seeds with
  | none => return none
  | some seed =>
    setSeed (some seed)
    let (rounds, last) ← grow t call rule pos definition.recursive (t.lexemes.size - seed.stop) 0 seed
    Matching.note (.grew rule pos rounds last.stop)
    setSeed none
    return some last

def matchBody (pos : Nat) : Matching (Option Matched) :=
  let definition := t.grammar.ruleAt rule
  if definition.isLeftRecursive then growSeed t call rule pos
  else matchAlternatives t call rule pos definition.alternatives

end Body

/-- Uses what is known of a rule at a position, and otherwise evaluates it. -/
def settle (rule pos : Nat) (evaluate : Matching (Option Matched)) : Matching (Option Matched) := do
  match ← recalled t rule pos with
  | some outcome => return outcome
  | none =>
    match ← reenter rule pos with
    | some seed => return seed
    | none => evaluate

/-- Matches a rule at a position; `levels` more rules may nest inside those being matched. -/
def matchRule : (levels : Nat) → (rule : Fin t.grammar.rules.length) → (pos : Nat) →
    Matching (Option Matched)
  | 0, rule, pos => settle t rule pos (Matching.abort (.tooDeep rule pos))
  | levels + 1, rule, pos =>
    settle t rule pos (framed rule pos (matchBody t (matchRule levels) rule pos))

end Packrat.Match
