import Packrat.GrammarError

/-! Formats of grammar files, and what may go wrong with such files. -/
namespace Packrat

inductive FileError where
  | access (path reason : String)
  | yaml (message : String)
  | json (message : String)
  | grammar (e : GrammarError)
  | unknownFormat (path : String)
  deriving DecidableEq, Repr

def FileError.message : FileError → String
  | access path reason => "cannot access " ++ path ++ ": " ++ reason
  | yaml message => "invalid YAML grammar: " ++ message
  | json message => "invalid JSON grammar: " ++ message
  | grammar e => "invalid grammar: " ++ e.message
  | unknownFormat path =>
    "unknown grammar file format for " ++ path ++ " (expected .yaml, .yml or .json)"

namespace Path

def split (path : List Char) : List (List Char) :=
  match path with
  | [] => [[]]
  | c :: rest =>
    match split rest with
    | [] => [[c]]
    | part :: more => if c == '/' then [] :: part :: more else (c :: part) :: more

/-- The name of the file a path leads to. Slashes and single dots at the end do not count. -/
def fileName? (path : String) : Option String :=
  let parts := split path.toList
  let steps := match parts with
    | [] => []
    | first :: rest => first :: rest.filter (· != ['.'])
  match (steps.filter (!·.isEmpty)).getLast? with
  | none => none
  | some name => if name == ['.', '.'] || name == ['.'] then none else some (String.ofList name)

/-- What follows the last dot of the file name, unless the name starts with it. -/
def extension? (path : String) : Option String :=
  match fileName? path with
  | none => none
  | some name =>
    let reversed := name.toList.reverse
    match reversed.dropWhile (· != '.') with
    | [] | ['.'] => none
    | _ => some (String.ofList (reversed.takeWhile (· != '.')).reverse)

end Path

inductive Format where
  | yaml | json
  deriving DecidableEq, Repr

namespace Format

/-- The format of a file, by its extension in any case. -/
def ofPath (path : String) : Except FileError Format :=
  match (Path.extension? path).map (·.map Char.toLower) with
  | some "yaml" | some "yml" => .ok yaml
  | some "json" => .ok json
  | _ => .error (.unknownFormat path)

def named? (name : String) : Option Format :=
  if name = "yaml" || name = "yml" then some yaml
  else if name = "json" then some json
  else none

end Format

end Packrat
