/-! Lines and columns of a source text. Both count from one, and columns count characters. -/
namespace Packrat

structure Position where
  line : Nat
  column : Nat
  deriving DecidableEq, Repr

namespace Position

def start : Position := ⟨1, 1⟩

instance : Inhabited Position := ⟨start⟩

def after (p : Position) (c : Char) : Position :=
  if c = '\n' then ⟨p.line + 1, 1⟩ else ⟨p.line, p.column + 1⟩

/-- The position `bytes` further on in the text that starts at `p`. Characters are passed whole:
each one that begins before the offset counts. -/
def advance (p : Position) : (text : List Char) → (bytes : Nat) → Position
  | _, 0 => p
  | [], _ + 1 => p
  | c :: rest, bytes + 1 => advance (p.after c) rest (bytes + 1 - c.utf8Size)

/-- The position of a byte offset; offsets past the end give the end. -/
def ofOffset (source : String) (offset : Nat) : Position := start.advance source.toList offset

def display (p : Position) : String := toString p.line ++ ":" ++ toString p.column

end Position

namespace Source

/-- The pieces between line feeds; there is always one more than there are line feeds. -/
def pieces : List Char → List (List Char)
  | [] => [[]]
  | c :: rest =>
    if c = '\n' then [] :: pieces rest
    else
      match pieces rest with
      | [] => [[c]]
      | piece :: more => (c :: piece) :: more

def dropReturn (line : List Char) : List Char :=
  match line.getLast? with
  | some '\r' => line.dropLast
  | _ => line

/-- The text of a line, counted from one, without its line end. -/
def line? (source : String) (line : Nat) : Option String :=
  match line with
  | 0 => none
  | n + 1 => (pieces source.toList)[n]?.map fun piece => String.ofList (dropReturn piece)

end Source

end Packrat
