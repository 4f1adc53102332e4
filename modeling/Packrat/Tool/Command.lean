import Packrat.File.Access
import Packrat.Log.Filter
import Packrat.Snapshot
import Packrat.Tool.Arguments

/-! What the command line tool does. -/
namespace Packrat.Tool

def versionLine : String := "dslkit 0.1.0\n"

def helpText : String :=
  "Run declarative grammars against text\n\n" ++
  "Usage: dslkit <COMMAND>\n\n" ++
  "Commands:\n" ++
  "  tokens <GRAMMAR> <INPUT> [-t]                   Tokenize input without parsing\n" ++
  "  parse <GRAMMAR> <INPUT> [-t] [-f <json|yaml>]   Parse input and print the resulting value\n" ++
  "  inspect <GRAMMAR> [-f <text|json|yaml>]         Show the tokens, rules and actions of a grammar\n" ++
  "  convert <GRAMMAR> <OUTPUT>                      Write a grammar to another file\n"

/-- What a run leaves behind: what it logged, and either what it prints or why it failed. -/
structure Run where
  log : List Log.Record
  result : Except String String

def render (d : Data) : Rendering → String
  | .yaml => Yaml.write d
  | _ => Json.pretty d ++ "\n"

section Commands

variable {m : Type → Type} [Monad m] (files : FileAccess m)

/-- Loads a grammar and goes on with it. Grammar files name actions but do not define them, so
actions that are not there are no errors. -/
def withGrammar (path : String) (next : Language → m Run) : m Run := do
  match ← Language.load files path .lenient with
  | (.error e, log) => return ⟨log, .error ("Error loading grammar: " ++ e.message ++ "\n")⟩
  | (.ok language, log) =>
    let run ← next language
    return { run with log := log ++ run.log }

def withInput (input : Input) (next : String → Run) : m Run := do
  match input with
  | .literal text => return next text
  | .file path =>
    match ← files.read path with
    | .ok text => return next text
    | .error reason => return ⟨[], .error ("Error reading file: " ++ reason ++ "\n")⟩

def showTokens (l : Language) (input : String) : Run :=
  let scan := Lexeme.scan l.grammar.tokens input
  ⟨scan.records input,
    match scan.result input with
    | .ok lexemes => .ok (String.join (lexemes.map fun x => x.display ++ "\n"))
    | .error e => .error e.detailed⟩

def showValue (l : Language) (rendering : Rendering) (input : String) : Run :=
  let (result, _, log) := l.parse input
  ⟨log,
    match result with
    | .ok parsed => .ok (render parsed.value.toData rendering)
    | .error e => .error e.detailed⟩

def showGrammar (l : Language) (rendering : Rendering) : Run :=
  let snapshot := Snapshot.ofGrammar l.grammar
  ⟨[], .ok (if rendering = .text then snapshot.display else render snapshot.toData rendering)⟩

def Command.run : Command → m Run
  | tokens grammar input =>
    withGrammar files grammar fun l => withInput files input (showTokens l)
  | parse grammar input rendering =>
    withGrammar files grammar fun l => withInput files input (showValue l rendering)
  | inspect grammar rendering =>
    withGrammar files grammar fun l => return showGrammar l rendering
  | convert grammar output =>
    withGrammar files grammar fun l => do
      match ← l.save files output with
      | .error e => return ⟨[], .error ("Error writing " ++ output ++ ": " ++ e.message ++ "\n")⟩
      | .ok _ => return ⟨[⟨.info, .tool, "wrote " ++ output⟩], .ok ""⟩

structure Report where
  code : Nat
  output : String
  errors : String
  deriving DecidableEq, Repr

def run (filter : Option String) (args : List String) : m Report := do
  let (shown, warnings) := (filter.map Log.Filter.ofSpec).getD ({}, "")
  match Request.ofArguments args with
  | .error e => return ⟨2, "", warnings ++ "error: " ++ e.message ++ "\n"⟩
  | .ok .version => return ⟨0, versionLine, warnings⟩
  | .ok .help => return ⟨0, helpText, warnings⟩
  | .ok (.run c) =>
    let run ← c.run files
    let errors := warnings ++ shown.print run.log
    match run.result with
    | .ok output => return ⟨0, output, errors⟩
    | .error message => return ⟨1, "", errors ++ message⟩

end Commands

end Packrat.Tool
