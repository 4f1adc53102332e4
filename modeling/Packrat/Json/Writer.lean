import Packrat.Data

/-! Data written as JSON, on one line or indented by two blanks a level. -/
namespace Packrat.Json

/-- Numbers in JSON: an exponent where the number is very large or small, and a fraction on whole
numbers, so that they read back as floats. JSON has no infinities. -/
def floatLayout : Decimal.Layout where
  tie := .even
  isPositional := Decimal.isModerate
  plus := "+"
  keepsFraction := true
  infinity := "null"
  negativeInfinity := "null"
  notANumber := "null"

def fourDigits (n : Nat) : List Char :=
  [0x1000, 0x100, 0x10, 1].map fun unit => Nat.digitChar (n / unit % 16)

/-- A character inside a string. Only quotes, backslashes and controls are escaped. -/
def escape (c : Char) : List Char :=
  if c == '"' then ['\\', '"']
  else if c == '\\' then ['\\', '\\']
  else if c == '\x08' then ['\\', 'b']
  else if c == '\x0c' then ['\\', 'f']
  else if c == '\n' then ['\\', 'n']
  else if c == '\r' then ['\\', 'r']
  else if c == '\t' then ['\\', 't']
  else if c < ' ' then '\\' :: 'u' :: fourDigits c.toNat
  else [c]

def string (s : String) : String := "\"" ++ String.ofList (s.toList.flatMap escape) ++ "\""

mutual

def compact : Data → String
  | .null => "null"
  | .bool true => "true"
  | .bool false => "false"
  | .int n => toString n
  | .float x => floatLayout.write x
  | .text s => string s
  | .list items => "[" ++ ",".intercalate (compactItems items) ++ "]"
  | .object fields => "\x7b" ++ ",".intercalate (compactFields fields) ++ "\x7d"

def compactItems : List Data → List String
  | [] => []
  | d :: rest => compact d :: compactItems rest

def compactFields : List (String × Data) → List String
  | [] => []
  | (key, d) :: rest => (string key ++ ":" ++ compact d) :: compactFields rest

end

def newline (level : Nat) : String := "\n" ++ String.ofList (List.replicate (2 * level) ' ')

def block (left right : String) (level : Nat) (parts : List String) : String :=
  match parts with
  | [] => left ++ right
  | parts =>
    left ++ newline (level + 1) ++ ("," ++ newline (level + 1)).intercalate parts ++ newline level ++
      right

mutual

def indented (level : Nat) : Data → String
  | .list items => block "[" "]" level (indentedItems level items)
  | .object fields => block "\x7b" "\x7d" level (indentedFields level fields)
  | .null => "null"
  | .bool true => "true"
  | .bool false => "false"
  | .int n => toString n
  | .float x => floatLayout.write x
  | .text s => string s

def indentedItems (level : Nat) : List Data → List String
  | [] => []
  | d :: rest => indented (level + 1) d :: indentedItems level rest

def indentedFields (level : Nat) : List (String × Data) → List String
  | [] => []
  | (key, d) :: rest => (string key ++ ": " ++ indented (level + 1) d) :: indentedFields level rest

end

def pretty (d : Data) : String := indented 0 d

end Packrat.Json
