/-! Byte offsets into a text. Offsets count the bytes of the UTF-8 form; texts are handled as lists
of characters, so an offset may fall inside a character and then names no place in the text. -/
namespace Packrat.Text

def byteSize : List Char → Nat
  | [] => 0
  | c :: rest => c.utf8Size + byteSize rest

/-- A text cut in two: the characters before the cut, nearest first, and those after it. -/
structure Cut where
  before : List Char
  after : List Char

/-- Moves the cut `bytes` further on; none if that is past the end or inside a character. -/
def Cut.forward? (before : List Char) : (after : List Char) → (bytes : Nat) → Option Cut
  | after, 0 => some ⟨before, after⟩
  | [], _ + 1 => none
  | c :: rest, bytes + 1 =>
    if c.utf8Size ≤ bytes + 1 then Cut.forward? (c :: before) rest (bytes + 1 - c.utf8Size) else none

def cutAt? (text : List Char) (offset : Nat) : Option Cut := Cut.forward? [] text offset

def trimEnd (text : List Char) (isBlank : Char → Bool) : List Char :=
  (text.reverse.dropWhile isBlank).reverse

end Packrat.Text
