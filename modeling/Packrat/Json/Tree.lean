import Packrat.Json.Numeral
import Packrat.Json.Quoted

/-! JSON texts as trees. A text is cut into pieces first, which leaves the blanks out; the pieces
then form a tree. Numbers and strings stay as written. -/
namespace Packrat.Json

inductive Piece where
  | leftBracket | rightBracket | leftBrace | rightBrace | comma | colon
  | null
  | bool (b : Bool)
  | number (n : Numeral)
  | string (raw : List Char)
  deriving DecidableEq, Repr

inductive Tree where
  | null
  | bool (b : Bool)
  | number (n : Numeral)
  | string (raw : List Char)
  | list (items : List Tree)
  | object (fields : List (List Char × Tree))
  deriving Inhabited

namespace Piece

def isBlank (c : Char) : Bool := c == ' ' || c == '\n' || c == '\t' || c == '\r'

def read? : List Char → Option (Piece × List Char)
  | '[' :: rest => some (leftBracket, rest)
  | ']' :: rest => some (rightBracket, rest)
  | '\x7b' :: rest => some (leftBrace, rest)
  | '\x7d' :: rest => some (rightBrace, rest)
  | ',' :: rest => some (comma, rest)
  | ':' :: rest => some (colon, rest)
  | '"' :: rest => (Quoted.split? rest).map fun (raw, rest) => (string raw, rest)
  | 'n' :: 'u' :: 'l' :: 'l' :: rest => some (null, rest)
  | 't' :: 'r' :: 'u' :: 'e' :: rest => some (bool true, rest)
  | 'f' :: 'a' :: 'l' :: 's' :: 'e' :: rest => some (bool false, rest)
  | cs => (Numeral.read? cs).map fun (n, rest) => (number n, rest)

/-- The pieces of a text. Each takes a character at least, so their number suffices as `fuel`. -/
def readAll? : (fuel : Nat) → List Char → Option (List Piece)
  | _, [] => some []
  | 0, _ :: _ => none
  | fuel + 1, c :: rest =>
    if isBlank c then readAll? fuel rest
    else
      match read? (c :: rest) with
      | none => none
      | some (piece, rest) => (readAll? fuel rest).map (piece :: ·)

end Piece

namespace Tree

mutual

/-- The tree at the start of a list of pieces, and what follows it. Every call takes a piece, so
their number suffices as `fuel`. -/
def read? : (fuel : Nat) → List Piece → Option (Tree × List Piece)
  | 0, _ => none
  | fuel + 1, pieces =>
    match pieces with
    | .null :: rest => some (null, rest)
    | .bool b :: rest => some (bool b, rest)
    | .number n :: rest => some (number n, rest)
    | .string raw :: rest => some (string raw, rest)
    | .leftBracket :: .rightBracket :: rest => some (list [], rest)
    | .leftBracket :: rest => (readItems? fuel rest).map fun (items, rest) => (list items, rest)
    | .leftBrace :: .rightBrace :: rest => some (object [], rest)
    | .leftBrace :: rest => (readFields? fuel rest).map fun (fields, rest) => (object fields, rest)
    | _ => none

/-- Items up to the closing bracket, at least one. -/
def readItems? : (fuel : Nat) → List Piece → Option (List Tree × List Piece)
  | 0, _ => none
  | fuel + 1, pieces =>
    match read? fuel pieces with
    | some (item, .rightBracket :: rest) => some ([item], rest)
    | some (item, .comma :: rest) => (readItems? fuel rest).map fun (items, rest) => (item :: items, rest)
    | _ => none

/-- Fields up to the closing brace, at least one. -/
def readFields? : (fuel : Nat) → List Piece → Option (List (List Char × Tree) × List Piece)
  | 0, _ => none
  | fuel + 1, pieces =>
    match pieces with
    | .string key :: .colon :: rest =>
      match read? fuel rest with
      | some (value, .rightBrace :: rest) => some ([(key, value)], rest)
      | some (value, .comma :: rest) =>
        (readFields? fuel rest).map fun (fields, rest) => ((key, value) :: fields, rest)
      | _ => none
    | _ => none

end

def ofText? (text : String) : Option Tree := do
  let cs := text.toList
  let pieces ← Piece.readAll? cs.length cs
  match read? (2 * pieces.length + 1) pieces with
  | some (tree, []) => return tree
  | _ => none

mutual

def depth : Tree → Nat
  | list items => itemsDepth items + 1
  | object fields => fieldsDepth fields + 1
  | _ => 0

def itemsDepth : List Tree → Nat
  | [] => 0
  | t :: rest => max t.depth (itemsDepth rest)

def fieldsDepth : List (List Char × Tree) → Nat
  | [] => 0
  | (_, t) :: rest => max t.depth (fieldsDepth rest)

end

end Tree

end Packrat.Json
