import Packrat.Log
import Packrat.Pattern.Thread
import Packrat.Pattern.Reader
import Packrat.Text.Offset
import Packrat.Text.Padding

/-! Which messages are shown, and how. -/
namespace Packrat.Log

namespace Level

def all : List Level := [trace, debug, info, warn, error]

def named? (name : String) : Option Level :=
  all.find? fun level => level.label == name.map Char.toUpper

end Level

/-- The least severe level that is shown; none if nothing is. -/
abbrev Threshold := Option Level

namespace Threshold

def admits (t : Threshold) (level : Level) : Bool := t.any fun least => least.rank ≤ level.rank

def named? (name : String) : Option Threshold :=
  if name.map Char.toUpper == "OFF" then some none else (Level.named? name).map some

end Threshold

/-- Thresholds by the beginning of the path of a part, and one for all others; and a pattern that
messages must contain. -/
structure Filter where
  thresholds : List (String × Threshold) := []
  fallback : Threshold := some .warn
  pattern : Option Pattern := none

namespace Filter

def set (f : Filter) (part : String) (t : Threshold) : Filter :=
  if part.isEmpty then { f with fallback := t }
  else { f with thresholds := f.thresholds.filter (·.1 != part) ++ [(part, t)] }

/-- The threshold of a path: that of the longest beginning. -/
def threshold (f : Filter) (path : String) : Threshold :=
  let fitting := f.thresholds.filter fun (part, _) => path.startsWith part
  let best := fitting.foldl (fun best candidate =>
    match best with
    | none => some candidate
    | some b => if b.1.length < candidate.1.length then some candidate else best) none
  (best.map (·.2)).getD f.fallback

def admits (f : Filter) (r : Record) : Bool :=
  (f.threshold r.origin.path).admits r.level && f.pattern.all (·.isMatch r.message.toList)

def split (separator : Char) (text : List Char) : List (List Char) :=
  match text with
  | [] => [[]]
  | c :: rest =>
    match split separator rest with
    | [] => [[c]]
    | part :: more => if c == separator then [] :: part :: more else (c :: part) :: more

def trim (text : List Char) : List Char :=
  Text.trimEnd (text.dropWhile Text.isBlank) Text.isBlank

def ignored (spec : List Char) : String :=
  "warning: invalid logging spec '" ++ String.ofList spec ++ "', ignoring it\n"

/-- Applies one directive: a level, a part, or both; yields the warnings too. A part alone shows
everything. -/
def apply (f : Filter) (directive : List Char) : Filter × String :=
  match split '=' directive with
  | [single] =>
    let name := String.ofList single
    if single.isEmpty then (f, "")
    else
      match Threshold.named? name with
      | some t => ({ f with fallback := t }, "")
      | none => (f.set name (some .trace), "")
  | [part, level] =>
    let level := trim level
    if level.isEmpty then (f.set (String.ofList part) (some .trace), "")
    else
      match Threshold.named? (String.ofList level) with
      | some t => (f.set (String.ofList part) t, "")
      | none => (f, ignored level)
  | _ => (f, ignored directive)

def applyAll (f : Filter) : List (List Char) → Filter × String
  | [] => (f, "")
  | directive :: rest =>
    let (f, warning) := f.apply directive
    let (f, warnings) := applyAll f rest
    (f, warning ++ warnings)

/-- The filter of a specification: directives between commas, and a pattern after a slash. -/
def ofSpec (spec : String) : Filter × String :=
  match split '/' spec.toList with
  | [directives] => applyAll {} (split ',' directives)
  | [directives, pattern] =>
    let (f, warnings) := applyAll {} (split ',' directives)
    match Pattern.read pattern with
    | .ok p => ({ f with pattern := some p }, warnings)
    | .error fault => (f, warnings ++ "warning: invalid regex filter - " ++ fault.message ++ "\n")
  | _ =>
    ({}, "warning: invalid logging spec '" ++ spec ++ "', ignoring it (too many '/'s)\n")

end Filter

def Record.line (r : Record) (width : Nat) : String :=
  " " ++ Text.padRight 5 r.level.label ++ " " ++ Text.padRight width r.origin.path ++ " > " ++
    r.message ++ "\n"

def printFrom (width : Nat) : List Record → String
  | [] => ""
  | r :: rest =>
    let width := max width r.origin.path.length
    r.line width ++ printFrom width rest

def Filter.print (f : Filter) (log : List Record) : String := printFrom 0 (log.filter f.admits)

end Packrat.Log
