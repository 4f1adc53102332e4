import Packrat.Data
import Packrat.Yaml.Plain

/-! Data written as YAML: blocks indented by two blanks, with sequences inside mappings not
indented further. A text is written plainly where it reads back as itself, and else in the
lightest quotes that can hold it; texts of several lines are written as blocks. -/
namespace Packrat.Yaml

/-- Numbers in YAML: laid out as in JSON, with names for what is no finite number. -/
def floatLayout : Decimal.Layout where
  tie := .even
  isPositional := Decimal.isModerate
  keepsFraction := true
  infinity := ".inf"
  negativeInfinity := "-.inf"
  notANumber := ".nan"

inductive Style where
  | plain | single | double | literal
  deriving DecidableEq, Repr

def isBreak (c : Char) : Bool :=
  c == '\n' || c == '\r' || c == '\u0085' || c == '\u2028' || c == '\u2029'

def isBlankOrBreak (c : Char) : Bool := c == ' ' || c == '\t' || isBreak c

def isPrintable (c : Char) : Bool :=
  c == '\n' || (' ' ≤ c && c ≤ '~') || ('\u00a0' ≤ c && c.toNat < 0xfeff) ||
    (0xfeff < c.toNat && c.toNat < 0xfffe) || 0x10000 ≤ c.toNat

structure Traits where
  /-- Something that means structure outside quotes. -/
  indicators : Bool := false
  breaks : Bool := false
  special : Bool := false
  /-- A blank after a break. -/
  breakBlank : Bool := false
  /-- A break after a blank. -/
  blankBreak : Bool := false

/-- Whether a character means structure where it stands in a text. -/
def isIndicator (first : Bool) (previous : Option Char) (c : Char) (next : Option Char) : Bool :=
  if first then
    "#,[]\x7b\x7d&*!|>\x27\"%@`".toList.contains c ||
      ((c == '?' || c == ':' || c == '-') && next.all isBlankOrBreak)
  else (c == ':' && next.all isBlankOrBreak) || (c == '#' && previous.any isBlankOrBreak)

def traitsFrom (first : Bool) (previous : Option Char) : List Char → Traits
  | [] => {}
  | c :: rest =>
    let t := traitsFrom false (some c) rest
    { indicators := t.indicators || isIndicator first previous c rest.head?
      breaks := t.breaks || isBreak c
      special := t.special || !isPrintable c
      breakBlank := t.breakBlank || (c == ' ' && previous.any isBreak)
      blankBreak := t.blankBreak || (isBreak c && previous == some ' ') }

def traits (cs : List Char) : Traits :=
  let t := traitsFrom true none cs
  let marker := ['-', '-', '-'].isPrefixOf cs || ['.', '.', '.'].isPrefixOf cs
  { t with indicators := t.indicators || marker }

def edge (cs : List Char) (test : Char → Bool) : Bool := cs.head?.any test || cs.getLast?.any test

/-- The style of a text; keys must stand on one line. -/
def chooseStyle (key : Bool) (s : String) : Style :=
  let cs := s.toList
  let t := traits cs
  let plainAllowed := !t.indicators && !t.breaks && !t.special && !edge cs (· == ' ')
  let singleAllowed := !t.breakBlank && !t.blankBreak && !t.special
  let literalAllowed := !t.blankBreak && !t.special && cs.getLast? != some ' '
  if cs.contains '\n' then if literalAllowed && !key then .literal else .double
  else if key && t.breaks then .double
  else
    let plain := match Plain.resolve s with
      | .text => !Plain.isPaddedNumber cs && plainAllowed
      | _ => false
    if plain then .plain else if singleAllowed then .single else .double

def pad (n : Nat) : String := String.ofList (List.replicate n ' ')

def hexDigits (width n : Nat) : String :=
  let digits := (Nat.toDigits 16 n).map Char.toUpper
  String.ofList (List.replicate (width - digits.length) '0' ++ digits)

def namedEscapes : List (Char × Char) :=
  [('\x00', '0'), ('\x07', 'a'), ('\x08', 'b'), ('\t', 't'), ('\n', 'n'), ('\x0b', 'v'),
    ('\x0c', 'f'), ('\r', 'r'), ('\x1b', 'e'), ('"', '"'), ('\\', '\\'), ('\u0085', 'N'),
    ('\u00a0', '_'), ('\u2028', 'L'), ('\u2029', 'P')]

def escape (c : Char) : String :=
  if isPrintable c && !isBreak c && c != '"' && c != '\\' then c.toString
  else
    match namedEscapes.lookup c with
    | some letter => "\\" ++ letter.toString
    | none =>
      if c.toNat ≤ 0xff then "\\x" ++ hexDigits 2 c.toNat
      else if c.toNat ≤ 0xffff then "\\u" ++ hexDigits 4 c.toNat
      else "\\U" ++ hexDigits 8 c.toNat

def doubleQuoted (s : String) : String := "\"" ++ String.join (s.toList.map escape) ++ "\""

/-- A text between single quotes, which are doubled inside. Lines after a separator are
indented, and so is the closing quote. -/
def singleQuoted (indent : Nat) (s : String) : String :=
  let rec go : (afterBreak : Bool) → List Char → String
    | afterBreak, [] => if afterBreak then pad indent else ""
    | afterBreak, c :: rest =>
      let lead := if afterBreak && !isBreak c then pad indent else ""
      lead ++ (if c == '\x27' then "\x27\x27" else c.toString) ++ go (isBreak c) rest
  "\x27" ++ go false s.toList ++ "\x27"

/-- The header of a block of lines: how far it is indented, if that cannot be seen, and whether
line breaks at its end are dropped or kept. -/
def blockHeader (cs : List Char) : String :=
  let indentation := if cs.head?.any fun c => c == ' ' || isBreak c then "2" else ""
  let chomping := match cs.reverse with
    | [] => "-"
    | last :: before =>
      if !isBreak last then "-" else if before.head?.all isBreak then "+" else ""
  "|" ++ indentation ++ chomping

/-- The lines of a block, each but empty ones indented, with a line break at the end. -/
def blockLines (indent : Nat) (cs : List Char) : String :=
  let rec go : (lineStart : Bool) → List Char → String
    | lineStart, [] => if lineStart then "" else "\n"
    | lineStart, c :: rest =>
      if isBreak c then c.toString ++ go true rest
      else (if lineStart then pad indent else "") ++ c.toString ++ go false rest
  go true cs

def textNode (indent : Nat) (s : String) : String :=
  match chooseStyle false s with
  | .plain => s ++ "\n"
  | .single => singleQuoted indent s ++ "\n"
  | .double => doubleQuoted s ++ "\n"
  | .literal => blockHeader s.toList ++ "\n" ++ blockLines indent s.toList

def keyText (s : String) : String :=
  match chooseStyle true s with
  | .plain => s
  | .single => singleQuoted 0 s
  | _ => doubleQuoted s

def isSimpleKey (s : String) : Bool := s.utf8ByteSize ≤ 128 && !s.toList.any isBreak

def atom : Data → String
  | .null => "null"
  | .bool true => "true"
  | .bool false => "false"
  | .int n => toString n
  | .float x => floatLayout.write x
  | _ => ""

mutual

/-- What stands after a dash at column `indent`, or after the colon of a key on a line of its
own. -/
def afterDash (indent : Nat) : Data → String
  | .text s => " " ++ textNode (indent + 2) s
  | .list ds => if ds.isEmpty then " []\n" else " " ++ items (indent + 2) ds
  | .object fs => if fs.isEmpty then " \x7b\x7d\n" else " " ++ fields (indent + 2) fs
  | .null => " null\n"
  | .bool b => " " ++ atom (.bool b) ++ "\n"
  | .int n => " " ++ atom (.int n) ++ "\n"
  | .float x => " " ++ atom (.float x) ++ "\n"

/-- What stands after a key at column `indent`. -/
def afterKey (indent : Nat) : Data → String
  | .text s => " " ++ textNode (indent + 2) s
  | .list ds => if ds.isEmpty then " []\n" else "\n" ++ pad indent ++ items indent ds
  | .object fs =>
    if fs.isEmpty then " \x7b\x7d\n" else "\n" ++ pad (indent + 2) ++ fields (indent + 2) fs
  | .null => " null\n"
  | .bool b => " " ++ atom (.bool b) ++ "\n"
  | .int n => " " ++ atom (.int n) ++ "\n"
  | .float x => " " ++ atom (.float x) ++ "\n"

/-- The items of a sequence at column `indent`, the first where the line already is. -/
def items (indent : Nat) : List Data → String
  | [] => ""
  | d :: rest =>
    "-" ++ afterDash indent d ++ (if rest.isEmpty then "" else pad indent) ++ items indent rest

/-- The fields of a mapping at column `indent`, the first where the line already is. -/
def fields (indent : Nat) : List (String × Data) → String
  | [] => ""
  | (key, d) :: rest =>
    (if isSimpleKey key then keyText key ++ ":" ++ afterKey indent d
      else "? " ++ textNode (indent + 2) key ++ pad indent ++ ":" ++ afterDash indent d) ++
    (if rest.isEmpty then "" else pad indent) ++ fields indent rest

end

def write : Data → String
  | .text s => textNode 2 s
  | .list ds => if ds.isEmpty then "[]\n" else items 0 ds
  | .object fs => if fs.isEmpty then "\x7b\x7d\n" else fields 0 fs
  | d => atom d ++ "\n"

end Packrat.Yaml
