import Packrat.Action
import Packrat.Rule
import Packrat.Token

/-! Grammars: tokens, rules and actions, each in order of registration.

Names of tokens and rules are not empty, and no name is given twice. Registration either adds what
it is asked to or leaves the grammar as it was. -/
namespace Packrat

structure Grammar where
  tokens : List Token := []
  rules : List Rule := []
  /-- Actions of the user, in the order of their names. -/
  actions : List (String × UserAction) := []
  /-- The start rule, if it was set. -/
  start : Option String := none

namespace Grammar

inductive Symbol (g : Grammar) where
  | token (index : Fin g.tokens.length)
  | rule (index : Fin g.rules.length)

def tokenIndex? (g : Grammar) (name : String) : Option (Fin g.tokens.length) :=
  g.tokens.findFinIdx? (·.name == name)

def ruleIndex? (g : Grammar) (name : String) : Option (Fin g.rules.length) :=
  g.rules.findFinIdx? (·.name == name)

def resolve (g : Grammar) (name : String) : Option (Symbol g) :=
  match g.tokenIndex? name with
  | some i => some (.token i)
  | none => (g.ruleIndex? name).map .rule

def token? (g : Grammar) (name : String) : Option Token := g.tokens.find? (·.name == name)

def rule? (g : Grammar) (name : String) : Option Rule := g.rules.find? (·.name == name)

def ruleAt (g : Grammar) (i : Fin g.rules.length) : Rule := g.rules.get i

def ruleName (g : Grammar) (number : Nat) : String := (g.rules[number]?.map (·.name)).getD ""

/-- The start rule: the one set, or else the first. -/
def startRule? (g : Grammar) : Option String := g.start.or (g.rules.head?.map (·.name))

def checkTokenName (g : Grammar) (name : String) : Except GrammarError Unit :=
  if name = "" then .error (.emptyName .token)
  else if (g.token? name).isSome then .error (.duplicateToken name)
  else if (g.rule? name).isSome then .error (.nameConflict name .rule)
  else .ok ()

def register (g : Grammar) (t : Token) : Except GrammarError Grammar := do
  g.checkTokenName t.name
  return { g with tokens := g.tokens ++ [t] }

def addToken (g : Grammar) (name pattern : String) (priority : Int32) : Except GrammarError Grammar := do
  g.checkTokenName name
  g.register (← Token.ofPattern name pattern priority)

def addKeyword (g : Grammar) (name word : String) : Except GrammarError Grammar := do
  g.checkTokenName name
  g.register (← Token.ofKeyword name word)

def addLookaround (g : Grammar) (name pattern : String) (lookahead lookbehind : Option String) :
    Except GrammarError Grammar := do
  g.checkTokenName name
  g.register (← Token.ofLookaround name pattern lookahead lookbehind)

/-- Appends the alternative to the rule of the given name, or else adds the rule. -/
def appendAlternative (name : String) (a : Alternative) : List Rule → List Rule
  | [] => [⟨name, [a]⟩]
  | r :: rest =>
    if r.name = name then { r with alternatives := r.alternatives ++ [a] } :: rest
    else r :: appendAlternative name a rest

/-- Adds an alternative to a rule, which need not exist yet. -/
def addAlternative (g : Grammar) (name : String) (a : Alternative) : Except GrammarError Grammar :=
  if name = "" then .error (.emptyName .rule)
  else if (g.token? name).isSome then .error (.nameConflict name .token)
  else .ok { g with rules := appendAlternative name a g.rules }

/-- Makes the rule stand for any number of elements, collected into a list. -/
def zeroOrMore (g : Grammar) (name element : String) : Except GrammarError Grammar := do
  let g ← g.addAlternative name { symbols := [], action := Builtin.emptyName }
  g.addAlternative name { symbols := [name, element], action := Builtin.appendName }

def oneOrMore (g : Grammar) (name element : String) : Except GrammarError Grammar := do
  let g ← g.addAlternative name { symbols := [element], action := Builtin.singleName }
  g.addAlternative name { symbols := [name, element], action := Builtin.appendName }

def setStart (g : Grammar) (name : String) : Except GrammarError Grammar :=
  if (g.rule? name).isSome then .ok { g with start := some name } else .error (.unknownRule name)

def setAction (g : Grammar) (name : String) (f : UserAction) : Grammar :=
  { g with actions := Entries.insert g.actions name f }

/-- The action of a name: the user's before those that are always available. -/
def action? (g : Grammar) (name : String) : Option Action :=
  match Entries.get? g.actions name with
  | some f => some (.user f)
  | none => (Builtin.named? name).map .builtin

def actionNames (g : Grammar) : List String := Entries.keys g.actions

end Grammar

end Packrat
