import Packrat.Text.Age
import Packrat.Text.Break
import Packrat.Text.ScriptExtension

/-! Sets of characters that patterns call by name. -/
namespace Packrat.Pattern

open Text (CodeSet)

def asciiDigit : CodeSet := ⟨#[0x30, 0x3a]⟩

def asciiSpace : CodeSet := ⟨#[0x9, 0xe, 0x20, 0x21]⟩

def asciiWord : CodeSet := ⟨#[0x30, 0x3a, 0x41, 0x5b, 0x5f, 0x60, 0x61, 0x7b]⟩

/-- Classes of basic characters by name, as they stand between `[:` and `:]`. -/
def asciiClasses : List (String × CodeSet) := [
  ("alnum", ⟨#[0x30, 0x3a, 0x41, 0x5b, 0x61, 0x7b]⟩),
  ("alpha", ⟨#[0x41, 0x5b, 0x61, 0x7b]⟩),
  ("ascii", ⟨#[0x0, 0x80]⟩),
  ("blank", ⟨#[0x9, 0xa, 0x20, 0x21]⟩),
  ("cntrl", ⟨#[0x0, 0x20, 0x7f, 0x80]⟩),
  ("digit", asciiDigit),
  ("graph", ⟨#[0x21, 0x7f]⟩),
  ("lower", ⟨#[0x61, 0x7b]⟩),
  ("print", ⟨#[0x20, 0x7f]⟩),
  ("punct", ⟨#[0x21, 0x30, 0x3a, 0x41, 0x5b, 0x61, 0x7b, 0x7f]⟩),
  ("space", asciiSpace),
  ("upper", ⟨#[0x41, 0x5b]⟩),
  ("word", asciiWord),
  ("xdigit", ⟨#[0x30, 0x3a, 0x41, 0x47, 0x61, 0x67]⟩)]

def foldAscii (s : CodeSet) : CodeSet :=
  s.union (.ofCodes ((List.range 26).flatMap fun k =>
    (if s.containsCode (0x41 + k) then [0x61 + k] else []) ++
      (if s.containsCode (0x61 + k) then [0x41 + k] else [])))

/-- A property name in the form tables use: basic characters only, in lower case, without blanks,
dashes and underscores, and without a leading `is`. One name would lose its meaning that way and
keeps it. -/
def normalizeName (name : List Char) : String :=
  let plain (cs : List Char) : List Char :=
    (cs.filter fun c => c.toNat < 128 && !(c == ' ' || c == '_' || c == '-')).map Char.toLower
  match name with
  | a :: b :: rest =>
    if a.toLower == 'i' && b.toLower == 's' then
      if plain rest == ['c'] then "isc" else String.ofList (plain rest)
    else String.ofList (plain name)
  | name => String.ofList (plain name)

def category? (name : String) : Option CodeSet :=
  if name == "any" then some .all
  else if name == "ascii" then some ⟨#[0x0, 0x80]⟩
  else (Text.Category.named? name).map Text.Category.anySet

/-- The set of a property given by one name. Three names are categories before they are
properties. -/
def propertyByName? (name : String) : Option CodeSet :=
  let property :=
    if name == "cf" || name == "sc" || name == "lc" then none else Text.property? name
  (property.or (category? name)).or ((Text.script? name).map (·.set))

/-- The set of a property given by a name and a value. -/
def propertyByValue? (name value : String) : Option CodeSet :=
  match name with
  | "gc" | "generalcategory" => category? value
  | "sc" | "script" => (Text.script? value).map (·.set)
  | "scx" | "scriptextensions" => (Text.script? value).map (·.extended)
  | "age" => Text.age? value
  | "gcb" | "graphemeclusterbreak" => Text.namedSet? Text.Cluster.kinds value
  | "wb" | "wordbreak" => Text.namedSet? Text.Word.kinds value
  | "sb" | "sentencebreak" => Text.namedSet? Text.Sentence.kinds value
  | _ => none

def splitAt? (mark : List Char) : List Char → Option (List Char × List Char)
  | [] => none
  | c :: rest =>
    if mark.isPrefixOf (c :: rest) then some ([], (c :: rest).drop mark.length)
    else (splitAt? mark rest).map fun (a, b) => (c :: a, b)

/-- The set of a written property, and whether it is meant negatively. -/
def property? (name : List Char) : Option (CodeSet × Bool) :=
  match splitAt? ['!', '='] name with
  | some (n, v) => (propertyByValue? (normalizeName n) (normalizeName v)).map (·, true)
  | none =>
    match (splitAt? [':'] name).or (splitAt? ['='] name) with
    | some (n, v) => (propertyByValue? (normalizeName n) (normalizeName v)).map (·, false)
    | none => (propertyByName? (normalizeName name)).map (·, false)

end Packrat.Pattern
