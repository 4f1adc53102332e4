/-! Command lines, and the requests they stand for. -/
namespace Packrat.Tool

inductive Input where
  | file (path : String)
  | literal (text : String)
  deriving DecidableEq, Repr

inductive Rendering where
  | text | json | yaml
  deriving DecidableEq, Repr

def Rendering.label : Rendering → String
  | text => "text"
  | json => "json"
  | yaml => "yaml"

inductive Command where
  /-- Shows the tokens of an input. -/
  | tokens (grammar : String) (input : Input)
  /-- Shows the value of an input. -/
  | parse (grammar : String) (input : Input) (rendering : Rendering)
  /-- Shows what a grammar holds. -/
  | inspect (grammar : String) (rendering : Rendering)
  /-- Writes a grammar to another file. -/
  | convert (grammar output : String)
  deriving DecidableEq, Repr

inductive Request where
  | run (c : Command)
  | version
  | help
  deriving DecidableEq, Repr

inductive UsageError where
  | missingCommand
  | unknownCommand (name : String)
  | unexpected (argument : String)
  | missingArgument (name : String)
  | missingValue (option : String)
  | invalidValue (option value : String)
  | repeated (option : String)
  deriving DecidableEq, Repr

def UsageError.message : UsageError → String
  | missingCommand => "a command is required"
  | unknownCommand name => "unrecognized command '" ++ name ++ "'"
  | unexpected argument => "unexpected argument '" ++ argument ++ "'"
  | missingArgument name => "missing argument <" ++ name ++ ">"
  | missingValue option => "a value is required for '" ++ option ++ "'"
  | invalidValue option value => "invalid value '" ++ value ++ "' for '" ++ option ++ "'"
  | repeated option => "'" ++ option ++ "' cannot be used multiple times"

/-- What a command takes. -/
structure Usage where
  /-- The names of its arguments, all of them required. -/
  arguments : List String
  /-- Whether the input may be given literally. -/
  takesText : Bool := false
  /-- The renderings to choose from; without any there is no choice. -/
  renderings : List Rendering := []

structure Options where
  arguments : List String := []
  text : Bool := false
  rendering : Option Rendering := none
  deriving DecidableEq, Repr

inductive Shape where
  /-- Two dashes alone: all that follows is taken literally. -/
  | escape
  | long (name : List Char) (value : Option (List Char))
  | short (letters : List Char)
  | plain
  deriving DecidableEq, Repr

def Shape.of (argument : String) : Shape :=
  match argument.toList with
  | ['-', '-'] => escape
  | '-' :: '-' :: rest =>
    let name := rest.takeWhile (· != '=')
    match rest.dropWhile (· != '=') with
    | '=' :: value => long name (some value)
    | _ => long name none
  | '-' :: c :: rest => short (c :: rest)
  | _ => plain

/-- The outcome of reading an argument. -/
inductive Step where
  | next (o : Options)
  /-- The option for renderings still needs its value. -/
  | wantsValue (o : Options)
  | help

def setText (o : Options) : Except UsageError Options :=
  if o.text then .error (.repeated "--text") else .ok { o with text := true }

def setRendering (u : Usage) (o : Options) (value : String) : Except UsageError Options :=
  match u.renderings.find? (·.label == value) with
  | none => .error (.invalidValue "--format" value)
  | some r =>
    if o.rendering.isSome then .error (.repeated "--format") else .ok { o with rendering := some r }

def addArgument (u : Usage) (o : Options) (argument : String) : Except UsageError Options :=
  if o.arguments.length < u.arguments.length then
    .ok { o with arguments := o.arguments ++ [argument] }
  else .error (.unexpected argument)

/-- Reads letters after a single dash. The value of an option may follow its letter directly, or
after an equals sign. -/
def readLetters (u : Usage) (argument : String) : List Char → Options → Except UsageError Step
  | [], o => .ok (.next o)
  | c :: rest, o =>
    if c == 'h' then .ok .help
    else if c == 't' && u.takesText then do readLetters u argument rest (← setText o)
    else if c == 'f' && !u.renderings.isEmpty then
      match rest with
      | [] => .ok (.wantsValue o)
      | '=' :: value => (setRendering u o (String.ofList value)).map .next
      | value => (setRendering u o (String.ofList value)).map .next
    else .error (.unexpected argument)

def readArgument (u : Usage) (argument : String) (o : Options) : Except UsageError Step :=
  match Shape.of argument with
  | .plain | .escape => (addArgument u o argument).map .next
  | .short letters => readLetters u argument letters o
  | .long name value =>
    if name == "help".toList && value.isNone then .ok .help
    else if name == "text".toList && u.takesText && value.isNone then (setText o).map .next
    else if name == "format".toList && !u.renderings.isEmpty then
      match value with
      | none => .ok (.wantsValue o)
      | some value => (setRendering u o (String.ofList value)).map .next
    else .error (.unexpected argument)

/-- Reads the arguments of a command; none if help is asked for. -/
def readOptions (u : Usage) : List String → Options → Except UsageError (Option Options)
  | [], o => .ok (some o)
  | argument :: rest, o =>
    if argument = "--" then (rest.foldlM (addArgument u) o).map some
    else
      match readArgument u argument o with
      | .error e => .error e
      | .ok .help => .ok none
      | .ok (.next o) => readOptions u rest o
      | .ok (.wantsValue o) =>
        match rest with
        | [] => .error (.missingValue "--format")
        | value :: rest =>
          if Shape.of value = .plain then do readOptions u rest (← setRendering u o value)
          else .error (.missingValue "--format")

def Usage.finish (u : Usage) (o : Options) : Except UsageError (List String) :=
  match u.arguments.drop o.arguments.length with
  | [] => .ok o.arguments
  | name :: _ => .error (.missingArgument name)

def readCommand (u : Usage) (args : List String) (build : Options → Option Command) :
    Except UsageError Request := do
  match ← readOptions u args {} with
  | none => return .help
  | some o =>
    let _ ← u.finish o
    match build o with
    | some c => return .run c
    | none => .error .missingCommand

def inputOf (o : Options) (text : String) : Input := if o.text then .literal text else .file text

def tokensUsage : Usage := { arguments := ["grammar", "input"], takesText := true }

def parseUsage : Usage :=
  { arguments := ["grammar", "input"], takesText := true, renderings := [.json, .yaml] }

def inspectUsage : Usage := { arguments := ["grammar"], renderings := [.text, .json, .yaml] }

def convertUsage : Usage := { arguments := ["grammar", "output"] }

def commandNames : List String := ["tokens", "parse", "inspect", "convert"]

def Request.ofArguments : List String → Except UsageError Request
  | [] => .error .missingCommand
  | "tokens" :: args => readCommand tokensUsage args fun o =>
    match o.arguments with
    | [grammar, input] => some (.tokens grammar (inputOf o input))
    | _ => none
  | "parse" :: args => readCommand parseUsage args fun o =>
    match o.arguments with
    | [grammar, input] => some (.parse grammar (inputOf o input) (o.rendering.getD .json))
    | _ => none
  | "inspect" :: args => readCommand inspectUsage args fun o =>
    match o.arguments with
    | [grammar] => some (.inspect grammar (o.rendering.getD .text))
    | _ => none
  | "convert" :: args => readCommand convertUsage args fun o =>
    match o.arguments with
    | [grammar, output] => some (.convert grammar output)
    | _ => none
  | "help" :: args =>
    match args with
    | [] => .ok help
    | [name] => if name = "help" || commandNames.contains name then .ok help else .error (.unknownCommand name)
    | _ :: extra :: _ => .error (.unknownCommand extra)
  | argument :: _ =>
    match Shape.of argument with
    | .long name none =>
      if name == "version".toList then .ok version
      else if name == "help".toList then .ok help
      else .error (.unexpected argument)
    | .short ('V' :: _) => .ok version
    | .short ('h' :: _) => .ok help
    | .plain => .error (.unknownCommand argument)
    | _ => .error (.unexpected argument)

end Packrat.Tool
