import Packrat.Data
import Packrat.File.Format
import Packrat.Json.Writer
import Packrat.Language
import Packrat.Yaml.Writer

/-! What a grammar file says: the tokens, rules and context of a language, but no actions. -/
namespace Packrat

structure TokenSpec where
  pattern : String
  priority : Option Int32 := none
  lookahead : Option String := none
  lookbehind : Option String := none
  /-- Whether the pattern is a word to be taken as it is. -/
  keyword : Bool := false
  deriving DecidableEq, Repr

inductive TokenEntry where
  | plain (pattern : String)
  | detailed (spec : TokenSpec)
  deriving DecidableEq, Repr

structure RuleEntry where
  name : String
  pattern : List String := []
  action : String := ""
  precedence : Option Int32 := none
  associativity : Option Associativity := none
  deriving DecidableEq, Repr

structure GrammarFile where
  name : String
  tokens : List (String × TokenEntry) := []
  rules : List RuleEntry := []
  context : List (String × Value) := []
  start : Option String := none

/-- Whether a pattern given alone is meant as a keyword: basic letters, digits and underscores, not
starting with a digit. -/
def isBareWord (s : String) : Bool :=
  match s.toList with
  | [] => false
  | c :: rest => (c.isAlpha || c == '_') && rest.all fun c => c.isAlphanum || c == '_'

namespace TokenSpec

def hasLookaround (spec : TokenSpec) : Bool := spec.lookahead.isSome || spec.lookbehind.isSome

def baseToken (spec : TokenSpec) (name : String) : Except GrammarError Token :=
  if spec.keyword && spec.hasLookaround then .error (.keywordLookaround name)
  else if spec.keyword then Token.ofKeyword name spec.pattern
  else if spec.hasLookaround then
    Token.ofLookaround name spec.pattern spec.lookahead spec.lookbehind
  else Token.ofPattern name spec.pattern Token.Kind.pattern.priority

def toToken (spec : TokenSpec) (name : String) : Except GrammarError Token := do
  let t ← spec.baseToken name
  return match spec.priority with
    | some p => t.withPriority p
    | none => t

def toData (spec : TokenSpec) : Data :=
  let optional (name : String) (d : Option Data) : List (String × Data) :=
    d.toList.map fun d => (name, d)
  .object ([("pattern", .text spec.pattern)] ++
    optional "priority" (spec.priority.map fun p => .int p.toInt) ++
    optional "lookahead" (spec.lookahead.map .text) ++
    optional "lookbehind" (spec.lookbehind.map .text) ++
    (if spec.keyword then [("keyword", .bool true)] else []))

end TokenSpec

namespace TokenEntry

def toToken (entry : TokenEntry) (name : String) : Except GrammarError Token :=
  match entry with
  | plain pattern =>
    if isBareWord pattern then Token.ofKeyword name pattern
    else Token.ofPattern name pattern Token.Kind.pattern.priority
  | detailed spec => spec.toToken name

/-- Whether the pattern alone describes the token. -/
def isPlain (t : Token) : Bool :=
  match t.kind with
  | .keyword => t.priority == Token.Kind.keyword.priority && isBareWord t.pattern
  | .pattern => t.priority == Token.Kind.pattern.priority && !isBareWord t.pattern
  | .lookaround => false

/-- The shortest entry that describes a token. -/
def ofToken (t : Token) : TokenEntry :=
  if isPlain t then plain t.pattern
  else
    detailed {
      pattern := t.pattern
      priority := if t.priority = t.kind.priority then none else some t.priority
      lookahead := t.lookahead
      lookbehind := t.lookbehind
      keyword := t.kind == .keyword }

def toData : TokenEntry → Data
  | plain pattern => .text pattern
  | detailed spec => spec.toData

end TokenEntry

namespace RuleEntry

def ofAlternative (rule : String) (a : Alternative) : RuleEntry where
  name := rule
  pattern := a.symbols
  action := a.action
  precedence := if a.precedence = 0 then none else some a.precedence
  associativity := if a.associativity = .none then none else some a.associativity

def toAlternative (r : RuleEntry) : Alternative where
  symbols := r.pattern
  action := r.action
  precedence := r.precedence.getD 0
  associativity := r.associativity.getD .none

def toData (r : RuleEntry) : Data :=
  .object ([("name", .text r.name), ("pattern", .list (r.pattern.map .text)),
    ("action", .text r.action)] ++
    (r.precedence.toList.map fun p => ("precedence", .int p.toInt)) ++
    (r.associativity.toList.map fun a => ("assoc", .text a.label)))

end RuleEntry

namespace GrammarFile

def beq (a b : GrammarFile) : Bool :=
  a.name == b.name && a.tokens == b.tokens && a.rules == b.rules &&
    Value.beqEntries a.context b.context && a.start == b.start

instance : BEq GrammarFile := ⟨beq⟩

/-- Everything a language holds, but for actions and functions. -/
def ofLanguage (l : Language) : GrammarFile where
  name := l.name
  tokens := l.grammar.tokens.map fun t => (t.name, TokenEntry.ofToken t)
  rules := l.grammar.rules.flatMap fun r => r.alternatives.map (RuleEntry.ofAlternative r.name)
  context := l.context.entries
  start := l.grammar.startRule?.filter fun s => l.grammar.rules.head?.map (·.name) != some s

def addTokens : List (String × TokenEntry) → Grammar → Except GrammarError Grammar
  | [], g => .ok g
  | (name, entry) :: rest, g => do
    let t ← entry.toToken name
    addTokens rest (← g.register t)

def addRules : List RuleEntry → Grammar → Except GrammarError Grammar
  | [], g => .ok g
  | r :: rest, g => do addRules rest (← g.addAlternative r.name r.toAlternative)

def toGrammar (f : GrammarFile) : Except GrammarError Grammar := do
  let g ← addTokens f.tokens {}
  let g ← addRules f.rules g
  match f.start with
  | none => return g
  | some start => g.setStart start

def build (f : GrammarFile) (config : Config) : Except FileError Language :=
  match f.toGrammar with
  | .ok g => .ok { name := f.name, grammar := g, context := ⟨Entries.ofList f.context⟩, config }
  | .error e => .error (.grammar e)

def builtRecord (f : GrammarFile) : Log.Record :=
  ⟨.debug, .file, "built '" ++ f.name ++ "': " ++ toString f.tokens.length ++ " tokens, " ++
    toString f.rules.length ++ " alternatives"⟩

def toData (f : GrammarFile) : Data :=
  .object ([("name", .text f.name),
    ("tokens", .object (f.tokens.map fun (name, entry) => (name, entry.toData))),
    ("rules", .list (f.rules.map RuleEntry.toData))] ++
    (if f.context.isEmpty then [] else [("context", .object (Value.entriesToData f.context))]) ++
    (f.start.toList.map fun s => ("start", .text s)))

def write (f : GrammarFile) : Format → String
  | .yaml => Yaml.write f.toData
  | .json => Json.pretty f.toData

end GrammarFile

end Packrat
