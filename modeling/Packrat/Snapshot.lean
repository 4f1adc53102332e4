import Packrat.Data
import Packrat.Grammar
import Packrat.Text.Padding
import Packrat.Text.Quoted

/-! An overview of everything registered in a grammar, for tools. -/
namespace Packrat

structure Snapshot where
  start : Option String
  tokens : List Token
  rules : List Rule
  actions : List String

namespace Snapshot

def ofGrammar (g : Grammar) : Snapshot := ⟨g.startRule?, g.tokens, g.rules, g.actionNames⟩

def tokenData (t : Token) : Data :=
  let optional (name : String) (s : Option String) : List (String × Data) :=
    s.toList.map fun s => (name, .text s)
  .object ([("name", .text t.name), ("pattern", .text t.pattern), ("kind", .text t.kind.label),
    ("priority", .int t.priority.toInt)] ++ optional "lookahead" t.lookahead ++
    optional "lookbehind" t.lookbehind)

def alternativeData (a : Alternative) : Data :=
  .object [("symbols", .list (a.symbols.map .text)), ("action", .text a.action),
    ("precedence", .int a.precedence.toInt), ("associativity", .text a.associativity.label)]

def ruleData (r : Rule) : Data :=
  .object [("name", .text r.name), ("left_recursive", .bool r.isLeftRecursive),
    ("alternatives", .list (r.alternatives.map alternativeData))]

def toData (s : Snapshot) : Data :=
  .object [("start", (s.start.map Data.text).getD .null), ("tokens", .list (s.tokens.map tokenData)),
    ("rules", .list (s.rules.map ruleData)), ("actions", .list (s.actions.map .text))]

def tokenLine (t : Token) : String :=
  "  " ++ Text.padRight 12 t.name ++ " " ++ Text.padRight 12 (Text.Quoted.text t.pattern) ++ " " ++
    Text.padRight 10 t.kind.label ++ " " ++ toString t.priority.toInt ++
    (t.lookahead.map fun p => "  (?=" ++ p ++ ")").getD "" ++
    (t.lookbehind.map fun p => "  (?<=" ++ p ++ ")").getD "" ++ "\n"

def alternativeLine (a : Alternative) : String :=
  let symbols := if a.symbols.isEmpty then "(empty)" else " ".intercalate a.symbols
  let action := if a.action = "" then "(default)" else a.action
  "    | " ++ Text.padRight 18 symbols ++ " -> " ++ action ++ "\n"

def ruleLines (r : Rule) : String :=
  "  " ++ r.name ++ (if r.isLeftRecursive then " (left-recursive)" else "") ++ "\n" ++
    String.join (r.alternatives.map alternativeLine)

def display (s : Snapshot) : String :=
  "start: " ++ s.start.getD "-" ++ "\ntokens:\n" ++ String.join (s.tokens.map tokenLine) ++
    "rules:\n" ++ String.join (s.rules.map ruleLines) ++
    (if s.actions.isEmpty then "" else "actions: " ++ ", ".intercalate s.actions ++ "\n")

/-- What a snapshot shows of a token, apart from the matchers made from it. -/
structure TokenFacts where
  name : String
  pattern : String
  priority : Int32
  kind : Token.Kind
  lookahead : Option String
  lookbehind : Option String
  deriving DecidableEq, Repr

def tokenFacts (t : Token) : TokenFacts :=
  ⟨t.name, t.pattern, t.priority, t.kind, t.lookahead, t.lookbehind⟩

def same (a b : Snapshot) : Bool :=
  a.start == b.start && a.tokens.map tokenFacts == b.tokens.map tokenFacts &&
    decide (a.rules = b.rules) && a.actions == b.actions

end Snapshot

end Packrat
