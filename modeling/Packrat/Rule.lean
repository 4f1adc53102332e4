/-! Rules and their alternatives. Symbols are names; whether a name is a token or a rule is decided
when matching reaches it, so rules may be given in any order. -/
namespace Packrat

inductive Associativity where
  | left | right | none
  deriving DecidableEq, Repr

def Associativity.label : Associativity → String
  | left => "left"
  | right => "right"
  | none => "none"

def Associativity.named? (name : String) : Option Associativity :=
  [left, right, none].find? (·.label == name)

/-- One sequence of symbols a rule may stand for. Precedence and associativity are kept for tools;
matching does not use them. -/
structure Alternative where
  symbols : List String
  action : String
  precedence : Int32 := 0
  associativity : Associativity := .none
  deriving DecidableEq, Repr

def Alternative.startsWith (a : Alternative) (rule : String) : Bool := a.symbols.head? == some rule

structure Rule where
  name : String
  alternatives : List Alternative
  deriving DecidableEq, Repr

namespace Rule

def isLeftRecursive (r : Rule) : Bool := r.alternatives.any (·.startsWith r.name)

/-- Alternatives that do not start with the rule itself. -/
def seeds (r : Rule) : List Alternative := r.alternatives.filter (!·.startsWith r.name)

/-- Alternatives that start with the rule itself. -/
def recursive (r : Rule) : List Alternative := r.alternatives.filter (·.startsWith r.name)

end Rule

end Packrat
