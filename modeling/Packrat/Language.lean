import Packrat.Match.Parse

/-! A language: a grammar together with the context, functions and configuration its parses run
with. -/
namespace Packrat

structure Language where
  name : String
  grammar : Grammar := {}
  context : Context := {}
  functions : Functions := {}
  config : Config := {}

structure Parsed where
  value : Value
  input : String
  language : String

namespace Language

def parsed (l : Language) (input : String) (o : Outcome) : Except ParseError Parsed :=
  o.result.map fun value => ⟨value, input, l.name⟩

/-- Parses an input; the context keeps what actions did to it. -/
def parse (l : Language) (input : String) : Except ParseError Parsed × Language × List Log.Record :=
  let announced : Log.Record := ⟨.debug, .language,
    "parsing " ++ toString input.utf8ByteSize ++ " bytes with '" ++ l.name ++ "'"⟩
  let o := l.grammar.parseWith input l.context l.functions l.config
  (l.parsed input o, { l with context := o.context }, announced :: o.log)

/-- Parses an input without any effect on the language. -/
def parseIsolated (l : Language) (input : String) : Except ParseError Parsed × List Log.Record :=
  let o := l.grammar.parseWith input l.context l.functions l.config
  (l.parsed input o, o.log)

end Language

end Packrat
