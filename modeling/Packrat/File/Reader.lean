import Packrat.File.Json
import Packrat.File.Yaml

/-! Reading grammar files and values from text. -/
namespace Packrat

/-- What is said of a text that is not in the format. -/
def FileError.malformed : String := "the text is malformed"

/-- What is said of a text that is in the format, but holds something else. -/
def FileError.mismatched : String := "the text holds something else"

def GrammarFile.read (text : String) : Format → Except FileError GrammarFile
  | .json =>
    match Json.Tree.ofText? text with
    | none => .error (.json FileError.malformed)
    | some tree =>
      match GrammarFile.ofJson? tree with
      | some f => .ok f
      | none => .error (.json FileError.mismatched)
  | .yaml =>
    match Yaml.Node.ofText? text with
    | none => .error (.yaml FileError.malformed)
    | some document =>
      match GrammarFile.ofYaml? document with
      | some f => .ok f
      | none => .error (.yaml FileError.mismatched)

def Value.read? (text : String) : Format → Option Value
  | .json => Value.ofJsonText? text
  | .yaml => Value.ofYamlText? text

def Language.read (text : String) (format : Format) (config : Config) :
    Except FileError (Language × List Log.Record) := do
  let f ← GrammarFile.read text format
  return (← f.build config, [f.builtRecord])

end Packrat
