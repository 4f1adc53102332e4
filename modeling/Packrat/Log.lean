/-! Messages about what the library does, for those who want to follow it. -/
namespace Packrat.Log

inductive Level where
  | trace | debug | info | warn | error
  deriving DecidableEq, Repr

namespace Level

/-- More severe levels have greater ranks. -/
def rank : Level → Nat
  | trace => 0
  | debug => 1
  | info => 2
  | warn => 3
  | error => 4

def label : Level → String
  | trace => "TRACE"
  | debug => "DEBUG"
  | info => "INFO"
  | warn => "WARN"
  | error => "ERROR"

end Level

inductive Origin where
  | lexing | matching | growth | language | file | tool
  deriving DecidableEq, Repr

/-- The path under which a part is shown and selected. -/
def Origin.path : Origin → String
  | lexing => "dslkit::dsl::lexing"
  | matching => "dslkit::dsl::parsing::parser"
  | growth => "dslkit::dsl::parsing::left_recursion"
  | language => "dslkit::dsl::engine"
  | file => "dslkit::dsl::loader"
  | tool => "dslkit"

structure Record where
  level : Level
  origin : Origin
  message : String
  deriving DecidableEq, Repr

end Packrat.Log
