import Packrat.Action
import Packrat.File.Format
import Packrat.ParseError

/-! Any error of the library, for callers that want a single type. -/
namespace Packrat

inductive Error where
  | grammar (e : GrammarError)
  | parse (e : ParseError)
  | file (e : FileError)
  | action (e : ActionError)
  deriving DecidableEq, Repr

namespace Error

def message : Error → String
  | grammar e => e.message
  | parse e => e.display
  | file e => e.message
  | action e => e.message

/-- The failure to parse, which alone has a place in the source. -/
def parse? : Error → Option ParseError
  | parse e => some e
  | _ => none

def detailed? (e : Error) : Option String := e.parse?.map (·.detailed)

end Error

end Packrat
