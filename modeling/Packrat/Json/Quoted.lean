/-! Strings as JSON writes them. A string is kept as written until its text is asked for: not every
string is a text, since an escape may stand for half of a character. -/
namespace Packrat.Json.Quoted

def hexValue? (c : Char) : Option Nat :=
  if '0' ≤ c && c ≤ '9' then some (c.toNat - '0'.toNat)
  else if 'a' ≤ c && c ≤ 'f' then some (c.toNat - 'a'.toNat + 10)
  else if 'A' ≤ c && c ≤ 'F' then some (c.toNat - 'A'.toNat + 10)
  else none

def code? (a b c d : Char) : Option Nat := do
  return 4096 * (← hexValue? a) + 256 * (← hexValue? b) + 16 * (← hexValue? c) + (← hexValue? d)

def letters : List (Char × Char) :=
  [('"', '"'), ('\\', '\\'), ('/', '/'), ('b', '\x08'), ('f', '\x0c'), ('n', '\n'), ('r', '\r'),
    ('t', '\t')]

/-- Splits a text after its opening quote into what stands before the closing quote, as written, and
what follows it. Controls must be escaped, and escapes be well-formed. -/
def split? : List Char → Option (List Char × List Char)
  | [] => none
  | '"' :: rest => some ([], rest)
  | '\\' :: 'u' :: a :: b :: c :: d :: rest =>
    match code? a b c d, split? rest with
    | some _, some (raw, rest) => some ('\\' :: 'u' :: a :: b :: c :: d :: raw, rest)
    | _, _ => none
  | '\\' :: letter :: rest =>
    match letters.lookup letter, split? rest with
    | some _, some (raw, rest) => some ('\\' :: letter :: raw, rest)
    | _, _ => none
  | c :: rest =>
    if c < ' ' || c == '\\' then none else (split? rest).map fun (raw, rest) => (c :: raw, rest)

def isHighHalf (n : Nat) : Bool := 0xd800 ≤ n && n < 0xdc00

def isLowHalf (n : Nat) : Bool := 0xdc00 ≤ n && n < 0xe000

/-- The character of two halves. -/
def joined (high low : Nat) : Char := Char.ofNat (0x10000 + 1024 * (high - 0xd800) + (low - 0xdc00))

/-- The text of a string; none if half a character stands alone. -/
def text? : List Char → Option (List Char)
  | [] => some []
  | '\\' :: 'u' :: a :: b :: c :: d :: '\\' :: 'u' :: e :: f :: g :: h :: rest =>
    match code? a b c d, code? e f g h with
    | some n, some m =>
      if isHighHalf n then
        if isLowHalf m then (text? rest).map (joined n m :: ·) else none
      else if isLowHalf n then none
      else (text? ('\\' :: 'u' :: e :: f :: g :: h :: rest)).map (Char.ofNat n :: ·)
    | _, _ => none
  | '\\' :: 'u' :: a :: b :: c :: d :: rest =>
    match code? a b c d with
    | some n => if isHighHalf n || isLowHalf n then none else (text? rest).map (Char.ofNat n :: ·)
    | none => none
  | '\\' :: letter :: rest =>
    match letters.lookup letter with
    | some c => (text? rest).map (c :: ·)
    | none => none
  | c :: rest => (text? rest).map (c :: ·)

end Packrat.Json.Quoted
