import Packrat.Yaml.Cursor
import Packrat.Yaml.Scalar

/-! Names of anchors, tags and directives in a YAML text. -/
namespace Packrat.Yaml

def anchorName? (c : Cursor) : Option (String × Cursor) :=
  let (name, c) := c.span isNameChar
  let ended := c.endsWord 0 || c.seesAny fun x => "?:,]\x7d%@`".toList.contains x
  if name.isEmpty || !ended then none else some (String.ofList name, c)

/-- The bytes of a tag or of a part of it. Escapes can spell bytes that are no text. -/
abbrev TagBytes := List UInt8

structure Tag where
  handle : String
  suffix : TagBytes
  deriving DecidableEq, Repr

namespace Tag

def isUriChar (verbatim : Bool) (x : Char) : Bool :=
  isNameChar x || ";/?:@&=+$.%!~*\x27()".toList.contains x || (verbatim && ",[]".toList.contains x)

def escapedByte? : List Char → Option (UInt8 × List Char)
  | '%' :: a :: b :: rest => do
    return (UInt8.ofNat (16 * (← Quoted.hexValue? a) + (← Quoted.hexValue? b)), rest)
  | _ => none

/-- How many bytes must follow a first byte, by its leading bits. -/
def following? (first : UInt8) : Option Nat :=
  if first < 0x80 then some 0
  else if first < 0xc0 then none
  else if first < 0xe0 then some 1
  else if first < 0xf0 then some 2
  else if first < 0xf8 then some 3
  else none

/-- Escaped bytes that follow a first one. -/
def followers? : (count : Nat) → List Char → Option (TagBytes × List Char)
  | 0, text => some ([], text)
  | count + 1, text => do
    let (byte, rest) ← escapedByte? text
    if byte < 0x80 || 0xc0 ≤ byte then none
    else
      let (bytes, rest) ← followers? count rest
      return (byte :: bytes, rest)

/-- The bytes of a tag. Escapes come in groups whose bytes have the leading bits of one encoded
character; whether they encode one is not asked. -/
def bytes? : (fuel : Nat) → List Char → Option TagBytes
  | _, [] => some []
  | 0, _ => none
  | fuel + 1, x :: rest =>
    if x = '%' then do
      let (first, rest) ← escapedByte? (x :: rest)
      let (others, rest) ← followers? (← following? first) rest
      return first :: others ++ (← bytes? fuel rest)
    else do return UInt8.ofNat x.toNat :: (← bytes? fuel rest)

/-- What stands before a zero byte; the rest does not count. -/
def beforeZero (bytes : TagBytes) : TagBytes := bytes.takeWhile (· != 0)

def uri? (verbatim : Bool) (c : Cursor) : Option (TagBytes × Cursor) :=
  let (raw, c) := c.span (isUriChar verbatim)
  (bytes? raw.length raw).map fun bytes => (bytes, c)

def someUri? (verbatim : Bool) (c : Cursor) : Option (TagBytes × Cursor) :=
  (uri? verbatim c).bind fun (bytes, c) => if bytes.isEmpty then none else some (beforeZero bytes, c)

/-- The handle at the start of a tag: names between exclamation marks, of which the second may be
missing. -/
def handle? (c : Cursor) : Option (String × Cursor) :=
  if c.sees '!' then
    let (name, c) := (c.past 1).span isNameChar
    let (closing, c) := if c.sees '!' then (['!'], c.past 1) else ([], c)
    some (String.ofList ('!' :: name ++ closing), c)
  else none

/-- Whether a handle is more than one exclamation mark and ends in one. -/
def isClosed (handle : String) : Bool :=
  handle.length > 1 && handle.toList.getLast? == some '!'

def read? (flow : Bool) (c : Cursor) : Option (Tag × Cursor) := do
  let (tag, c) ←
    if c.peek? 1 == some '<' then do
      let (suffix, c) ← someUri? true (c.past 2)
      if c.sees '>' then some (Tag.mk "" suffix, c.past 1) else none
    else do
      let (handle, c) ← handle? c
      if isClosed handle then
        (someUri? false c).map fun (suffix, c) => (Tag.mk handle suffix, c)
      else
        let (bytes, c) ← uri? false c
        let suffix := handle.toUTF8.data.toList.tail ++ beforeZero bytes
        some (if suffix.isEmpty then ⟨"", "!".toUTF8.data.toList⟩ else ⟨"!", suffix⟩, c)
  if c.endsWord 0 || (flow && c.sees ',') then return (tag, c) else none

/-- The name of a tag of the document's own, which starts with an exclamation mark; none if it is
no text. -/
def ownName? : TagBytes → Option String
  | 0x21 :: name => String.fromUTF8? ⟨name.toArray⟩
  | _ => none

end Tag

inductive Directive where
  | version (major minor : Nat)
  /-- Tags with the handle begin with the given text. -/
  | tag (handle : String) (beginning : TagBytes)
  deriving DecidableEq, Repr

namespace Directive

def number? (c : Cursor) : Option (Nat × Cursor) :=
  let (digits, c) := c.span Char.isDigit
  if digits.isEmpty || digits.length > 9 then none
  else some (digits.foldl (fun n d => 10 * n + (d.toNat - '0'.toNat)) 0, c)

def version? (c : Cursor) : Option (Directive × Cursor) := do
  let (major, c) ← number? (c.skip isBlankChar)
  if c.sees '.' then
    let (minor, c) ← number? (c.past 1)
    return (version major minor, c)
  else none

def tag? (c : Cursor) : Option (Directive × Cursor) := do
  let (handle, c) ← Tag.handle? (c.skip isBlankChar)
  if (handle == "!" || Tag.isClosed handle) && c.seesAny isBlankChar then
    let (beginning, c) ← Tag.someUri? true (c.skip isBlankChar)
    if c.endsWord 0 then return (tag handle beginning, c) else none
  else none

/-- Reads a directive after its percent sign, up to the end of the line. -/
def read? (c : Cursor) : Option (Directive × Cursor) := do
  let (name, c) := c.span isNameChar
  let (directive, c) ←
    if !c.endsWord 0 then none
    else if name == "YAML".toList then version? c
    else if name == "TAG".toList then tag? c
    else none
  return (directive, ← c.finishLine?)

end Directive

end Packrat.Yaml
