import Packrat.Pattern.Class
import Packrat.Pattern.Storage
import Packrat.Text.CaseFold
import Packrat.Text.Kind

/-! Patterns as they are written.

Items are read one after another; a repetition applies to the item before it, and flags set inside
a group hold from there to the end of the group, across its branches. -/
namespace Packrat.Pattern

open Text (CodeSet)

inductive Fault where
  | unclosedGroup | unopenedGroup | emptyFlags | unknownFlag | repeatedFlag | danglingNegation
  | unfinishedFlags | lookaround | groupName | duplicateGroupName
  | nothingToRepeat | unclosedCount | missingCount | countTooLarge | reversedCount
  | unfinishedEscape | unknownEscape | backreference | hexDigit | hexValue
  | wordBoundaryKind | unknownProperty | unclosedSet | rangeEnds | reversedRange | setEscape
  | byteSet | tooNested | tooLarge
  deriving DecidableEq, Repr

def Fault.message : Fault → String
  | unclosedGroup => "a group is not closed"
  | unopenedGroup => "a closing parenthesis has no group to close"
  | emptyFlags => "a group of flags is empty"
  | unknownFlag => "unknown flag"
  | repeatedFlag => "a flag is given twice"
  | danglingNegation => "a negation is followed by no flag"
  | unfinishedFlags => "the flags are not finished"
  | lookaround => "conditions on the surrounding text are not supported"
  | groupName => "invalid group name"
  | duplicateGroupName => "two groups have the same name"
  | nothingToRepeat => "a repetition has nothing to repeat"
  | unclosedCount => "a counted repetition is not closed"
  | missingCount => "a counted repetition has no count"
  | countTooLarge => "a count is too large"
  | reversedCount => "a repetition has its counts in reverse order"
  | unfinishedEscape => "an escape is not finished"
  | unknownEscape => "unknown escape"
  | backreference => "references to groups are not supported"
  | hexDigit => "invalid hexadecimal digit"
  | hexValue => "an escape denotes no character"
  | wordBoundaryKind => "unknown kind of word boundary"
  | unknownProperty => "unknown character property"
  | unclosedSet => "a set of characters is not closed"
  | rangeEnds => "the ends of a range are no single characters"
  | reversedRange => "a range has its ends in reverse order"
  | setEscape => "an escape has no meaning inside a set"
  | byteSet => "a set without full character support reaches beyond basic characters"
  | tooNested => "the pattern is nested too deeply"
  | tooLarge => "the pattern is too large"

abbrev Reading := Except Fault

/-- How the pattern is read at some place. -/
structure Flags where
  ignoreCase : Bool := false
  multiLine : Bool := false
  dotAll : Bool := false
  swapGreed : Bool := false
  returns : Bool := false
  verbose : Bool := false
  fullCharacters : Bool := true

namespace Flags

def skipBlanks : (inComment : Bool) → List Char → List Char
  | _, [] => []
  | true, c :: rest => skipBlanks (c != '\n') rest
  | false, c :: rest =>
    if Text.isBlank c then skipBlanks false rest
    else if c == '#' then skipBlanks true rest
    else c :: rest

/-- Passes what a verbose pattern leaves out of account. -/
def skip (f : Flags) (cs : List Char) : List Char := if f.verbose then skipBlanks false cs else cs

def alphabet (f : Flags) : Alphabet := if f.fullCharacters then .full else .basic

/-- The set as it is meant: with all case variants when case is ignored. -/
def fold (f : Flags) (s : CodeSet) : CodeSet :=
  if !f.ignoreCase then s else if f.fullCharacters then s.foldCase else foldAscii s

/-- The set, or what lies outside it. Without full character support a set may hold basic characters
only, and so cannot be negated. -/
def foldNegate (f : Flags) (negated : Bool) (s : CodeSet) : Reading CodeSet :=
  if !negated then .ok (f.fold s)
  else if f.fullCharacters then .ok (f.fold s).compl
  else .error .byteSet

def literal (f : Flags) (c : Char) : CodeSet :=
  if !f.ignoreCase then .single c
  else if f.fullCharacters then .ofChars (Text.caseVariants c)
  else foldAscii (.single c)

def dot (f : Flags) : Reading CodeSet :=
  let outside : CodeSet :=
    if f.dotAll then .empty else if f.returns then .ofChars ['\r', '\n'] else .single '\n'
  if f.fullCharacters then .ok outside.compl else .error .byteSet

end Flags

/-- What one escape or character stands for. -/
inductive Primitive where
  | literal (c : Char)
  | set (s : CodeSet)
  | anchor (a : Anchor)

def hexValue? (c : Char) : Option Nat :=
  if '0' ≤ c && c ≤ '9' then some (c.toNat - '0'.toNat)
  else if 'a' ≤ c && c ≤ 'f' then some (c.toNat - 'a'.toNat + 10)
  else if 'A' ≤ c && c ≤ 'F' then some (c.toNat - 'A'.toNat + 10)
  else none

def scalar? (code : Nat) : Option Char :=
  if code < 0xd800 || (0xe000 ≤ code && code < 0x110000) then some (Char.ofNat code) else none

def charOfCode (code : Nat) : Reading Char :=
  match scalar? code with
  | some c => .ok c
  | none => .error .hexValue

def readHexDigits (f : Flags) : (count : Nat) → (value : Nat) → List Char → Reading (Char × List Char)
  | 0, value, cs => do return (← charOfCode value, cs)
  | _ + 1, _, [] => .error .unfinishedEscape
  | count + 1, value, c :: rest =>
    match hexValue? c with
    | none => .error .hexDigit
    | some d => readHexDigits f count (16 * value + d) (f.skip rest)

def readHexBrace (f : Flags) : (fuel : Nat) → (digits : List Nat) → List Char → Reading (Char × List Char)
  | 0, _, _ => .error .unfinishedEscape
  | _ + 1, _, [] => .error .unfinishedEscape
  | fuel + 1, digits, c :: rest =>
    if c == '\x7d' then
      if digits.isEmpty then .error .hexValue
      else do return (← charOfCode (digits.foldl (fun n d => 16 * n + d) 0), f.skip rest)
    else
      match hexValue? c with
      | none => .error .hexDigit
      | some d => readHexBrace f fuel (digits ++ [d]) (f.skip rest)

def readName (f : Flags) : (fuel : Nat) → (name : List Char) → List Char → Reading (List Char × List Char)
  | 0, _, _ => .error .unfinishedEscape
  | _ + 1, _, [] => .error .unfinishedEscape
  | fuel + 1, name, c :: rest =>
    if c == '\x7d' then .ok (name.reverse, rest) else readName f fuel (c :: name) (f.skip rest)

def readProperty (f : Flags) (negated : Bool) (cs : List Char) : Reading (Primitive × List Char) := do
  let (name, rest) ← match f.skip cs with
    | [] => .error .unfinishedEscape
    | '\x7b' :: rest => readName f (rest.length + 1) [] (f.skip rest)
    | '\\' :: _ => .error .unknownProperty
    | c :: rest => .ok ([c], f.skip rest)
  if !f.fullCharacters then .error .byteSet
  else
    match property? name with
    | none => .error .unknownProperty
    | some (s, unlike) => return (.set (← f.foldNegate (negated != unlike) s), rest)

def isMeta (c : Char) : Bool := "\\.+*?()|[]\x7b\x7d^$#&-~".toList.contains c

def isEscapable (c : Char) : Bool :=
  isMeta c || (c.toNat < 128 && !c.isAlphanum && c != '<' && c != '>')

def classOf (f : Flags) (full ascii : CodeSet) (negated : Bool) : Reading CodeSet :=
  if !negated then .ok (if f.fullCharacters then full else ascii)
  else if f.fullCharacters then .ok full.compl
  else .error .byteSet

def readLetters (f : Flags) : (fuel : Nat) → (name : List Char) → List Char → String × List Char
  | 0, name, cs => (String.ofList name.reverse, cs)
  | _ + 1, name, [] => (String.ofList name.reverse, [])
  | fuel + 1, name, c :: rest =>
    if c.isAlpha || c == '-' then readLetters f fuel (c :: name) (f.skip rest)
    else (String.ofList name.reverse, c :: rest)

/-- The kind of a word boundary, in braces after its escape. Braces that cannot hold a name are
left for a counted repetition. -/
def readBoundary (f : Flags) (cs : List Char) : Reading (Primitive × List Char) :=
  match cs with
  | '\x7b' :: rest =>
    match f.skip rest with
    | [] => .error .wordBoundaryKind
    | inner =>
      match readLetters f (inner.length + 1) [] inner with
      | ("", _) => .ok (.anchor (.wordBoundary f.alphabet), cs)
      | ("start", '\x7d' :: rest) => .ok (.anchor (.wordStart f.alphabet), rest)
      | ("end", '\x7d' :: rest) => .ok (.anchor (.wordEnd f.alphabet), rest)
      | ("start-half", '\x7d' :: rest) => .ok (.anchor (.wordStartHalf f.alphabet), rest)
      | ("end-half", '\x7d' :: rest) => .ok (.anchor (.wordEndHalf f.alphabet), rest)
      | _ => .error .wordBoundaryKind
  | cs => .ok (.anchor (.wordBoundary f.alphabet), cs)

/-- An escape by hexadecimal digits, after its letter. Without full character support, two digits
stand for a byte, which must be a basic character. -/
def readHex (f : Flags) (digits : Nat) (cs : List Char) : Reading (Primitive × List Char) := do
  match f.skip cs with
  | [] => .error .unfinishedEscape
  | '\x7b' :: rest =>
    let (c, rest) ← readHexBrace f (rest.length + 1) [] (f.skip rest)
    return (.literal c, rest)
  | cs =>
    let (c, rest) ← readHexDigits f digits 0 cs
    if digits = 2 && !f.fullCharacters && c.toNat ≥ 128 then .error .byteSet
    else return (.literal c, rest)

def readEscape (f : Flags) : List Char → Reading (Primitive × List Char)
  | [] => .error .unfinishedEscape
  | c :: rest =>
    if '0' ≤ c && c ≤ '9' then .error .backreference
    else if isEscapable c then .ok (.literal c, rest)
    else
      match c with
      | 'x' => readHex f 2 rest
      | 'u' => readHex f 4 rest
      | 'U' => readHex f 8 rest
      | 'p' => readProperty f false rest
      | 'P' => readProperty f true rest
      | 'd' => do return (.set (← classOf f Text.Category.decimalNumber.set asciiDigit false), rest)
      | 'D' => do return (.set (← classOf f Text.Category.decimalNumber.set asciiDigit true), rest)
      | 's' => do return (.set (← classOf f Text.Table.whiteSpace asciiSpace false), rest)
      | 'S' => do return (.set (← classOf f Text.Table.whiteSpace asciiSpace true), rest)
      | 'w' => do return (.set (← classOf f Text.Property.wordPart asciiWord false), rest)
      | 'W' => do return (.set (← classOf f Text.Property.wordPart asciiWord true), rest)
      | 'a' => .ok (.literal '\x07', rest)
      | 'f' => .ok (.literal '\x0c', rest)
      | 't' => .ok (.literal '\t', rest)
      | 'n' => .ok (.literal '\n', rest)
      | 'r' => .ok (.literal '\r', rest)
      | 'v' => .ok (.literal '\x0b', rest)
      | 'A' => .ok (.anchor .textStart, rest)
      | 'z' => .ok (.anchor .textEnd, rest)
      | 'b' => readBoundary f rest
      | 'B' => .ok (.anchor (.notWordBoundary f.alphabet), rest)
      | '<' => .ok (.anchor (.wordStart f.alphabet), rest)
      | '>' => .ok (.anchor (.wordEnd f.alphabet), rest)
      | _ => .error .unknownEscape

inductive SetOp where
  | inter | diff | symmDiff

/-- A set that was read, and how deeply it is nested. -/
structure Nested where
  set : CodeSet
  height : Nat

/-- The items of a bracketed class that no operator divides. -/
structure SetItems where
  set : CodeSet := .empty
  /-- How many items there are. -/
  count : Nat := 0
  /-- How deeply the deepest item is nested. -/
  height : Nat := 0

def SetItems.add (items : SetItems) (s : CodeSet) (height : Nat) : SetItems :=
  ⟨items.set.union s, items.count + 1, max items.height height⟩

/-- The items as one; more than one item is a level of its own. -/
def SetItems.join (items : SetItems) : Nested :=
  ⟨items.set, if items.count ≤ 1 then items.height else items.height + 1⟩

def joinSets (f : Flags) (pending : Option (SetOp × Nested)) (right : Nested) : Nested :=
  match pending with
  | none => right
  | some (op, left) =>
    let height := 1 + max left.height right.height
    match op with
    | .inter => ⟨(f.fold left.set).inter (f.fold right.set), height⟩
    | .diff => ⟨(f.fold left.set).diff (f.fold right.set), height⟩
    | .symmDiff => ⟨(f.fold left.set).symmDiff (f.fold right.set), height⟩

def asciiClass? (cs : List Char) : Option ((CodeSet × Bool) × List Char) :=
  match cs with
  | ':' :: rest =>
    let (negated, rest) := match rest with
      | '^' :: rest => (true, rest)
      | rest => (false, rest)
    let name := rest.takeWhile (· != ':')
    match rest.dropWhile (· != ':') with
    | ':' :: ']' :: rest =>
      (asciiClasses.lookup (String.ofList name)).map fun s => ((s, negated), rest)
    | _ => none
  | _ => none

def readSetItem (f : Flags) : List Char → Reading (Primitive × List Char)
  | [] => .error .unclosedSet
  | '\\' :: rest => readEscape f rest
  | c :: rest => .ok (.literal c, rest)

def singleSet (f : Flags) (c : Char) : Reading CodeSet :=
  if !f.fullCharacters && c.toNat ≥ 128 then .error .byteSet else .ok (.single c)

/-- The character after a dash that tells whether the dash makes a range. A verbose pattern passes
blanks and the mark of one comment here, but not the text of the comment. -/
def afterDash? (f : Flags) (cs : List Char) : Option Char :=
  if f.verbose then
    match cs.dropWhile Text.isBlank with
    | '#' :: comment => (comment.dropWhile Text.isBlank).head?
    | cs => cs.head?
  else cs.head?

/-- A character, an escape or a range of a bracketed class. A dash makes no range before a closing
bracket or another dash. -/
def readRange (f : Flags) (cs : List Char) : Reading (CodeSet × List Char) := do
  let (first, rest) ← readSetItem f cs
  let alone : Reading (CodeSet × List Char) :=
    match first with
    | .literal c => do return (← singleSet f c, f.skip rest)
    | .set s => .ok (s, f.skip rest)
    | .anchor _ => .error .setEscape
  match f.skip rest with
  | [] => .error .unclosedSet
  | '-' :: more =>
    match afterDash? f more with
    | some ']' | some '-' => alone
    | _ =>
      let (second, rest) ← readSetItem f (f.skip more)
      match first, second with
      | .literal a, .literal b =>
        if !f.fullCharacters && (a.toNat ≥ 128 || b.toNat ≥ 128) then .error .byteSet
        else if a ≤ b then .ok (.range a b, rest)
        else .error .reversedRange
      | _, _ => .error .rangeEnds
  | _ => alone

/-- Dashes right after the opening bracket, which stand for themselves. -/
def readDashes (f : Flags) : (fuel : Nat) → SetItems → List Char → Reading (SetItems × List Char)
  | 0, items, cs => .ok (items, cs)
  | _ + 1, _, [] => .error .unclosedSet
  | fuel + 1, items, c :: rest =>
    if c == '-' then readDashes f fuel (items.add (.single '-') 0) (f.skip rest)
    else .ok (items, c :: rest)

/-- What stands between the opening bracket of a set and its first proper item: a negation, and
dashes or a closing bracket that stand for themselves. -/
def readSetStart (f : Flags) (cs : List Char) : Reading (Bool × SetItems × List Char) := do
  let (negated, cs) := match f.skip cs with
    | '^' :: rest => (true, f.skip rest)
    | cs => (false, cs)
  let (items, cs) ← readDashes f (cs.length + 1) {} cs
  match cs with
  | [] => .error .unclosedSet
  | ']' :: rest =>
    if items.count ≠ 0 then .ok (negated, items, cs)
    else if (f.skip rest).isEmpty then .error .unclosedSet
    else .ok (negated, items.add (.single ']') 0, f.skip rest)
  | cs => .ok (negated, items, cs)

/-- A bracketed set, after what stands at its start. `pending` is what stands before the last
operator, `items` what was read since. -/
def readSetItems (f : Flags) : (fuel : Nat) → (negated : Bool) → (pending : Option (SetOp × Nested)) →
    (items : SetItems) → List Char → Reading (Nested × List Char)
  | 0, _, _, _, _ => .error .unclosedSet
  | fuel + 1, negated, pending, items, cs =>
    match f.skip cs with
    | [] => .error .unclosedSet
    | '[' :: rest =>
      match asciiClass? rest with
      | some ((s, unlike), rest) => do
        readSetItems f fuel negated pending (items.add (← f.foldNegate unlike s) 0) rest
      | none => do
        let (inner, start, rest) ← readSetStart f rest
        let (s, rest) ← readSetItems f fuel inner none start rest
        readSetItems f fuel negated pending (items.add s.set s.height) rest
    | ']' :: rest => do
      let whole := joinSets f pending items.join
      return (⟨← f.foldNegate negated whole.set, whole.height + 1⟩, rest)
    | '&' :: '&' :: rest =>
      readSetItems f fuel negated (some (.inter, joinSets f pending items.join)) {} rest
    | '-' :: '-' :: rest =>
      readSetItems f fuel negated (some (.diff, joinSets f pending items.join)) {} rest
    | '~' :: '~' :: rest =>
      readSetItems f fuel negated (some (.symmDiff, joinSets f pending items.join)) {} rest
    | cs => do
      let (s, rest) ← readRange f cs
      readSetItems f fuel negated pending (items.add s 0) rest

def readSet (f : Flags) (cs : List Char) : Reading (Nested × List Char) := do
  let (negated, start, rest) ← readSetStart f cs
  readSetItems f (rest.length + 1) negated none start rest

/-- The flags between `(?` and `:` or `)`, as characters. -/
def setFlag (on : Bool) (f : Flags) : Char → Reading Flags
  | 'i' => .ok { f with ignoreCase := on }
  | 'm' => .ok { f with multiLine := on }
  | 's' => .ok { f with dotAll := on }
  | 'U' => .ok { f with swapGreed := on }
  | 'R' => .ok { f with returns := on }
  | 'x' => .ok { f with verbose := on }
  | 'u' => .ok { f with fullCharacters := on }
  | _ => .error .unknownFlag

/-- Flags up to `:` or `)`, which is returned. `given` holds the letters read so far. -/
def readFlags (on : Bool) (dangling : Bool) (given : List Char) (f : Flags) :
    List Char → Reading (Flags × Bool × Char × List Char)
  | [] => .error .unfinishedFlags
  | c :: rest =>
    if c == ':' || c == ')' then
      if dangling then .error .danglingNegation else .ok (f, given.isEmpty, c, rest)
    else if c == '-' then
      if on then readFlags false true ('-' :: given) f rest else .error .repeatedFlag
    else do
      let f' ← setFlag on f c
      if given.contains c then .error .repeatedFlag
      else readFlags on false (c :: given) f' rest

def readGroupName : (name : List Char) → List Char → Reading (String × List Char)
  | _, [] => .error .groupName
  | name, c :: rest =>
    if c == '>' then
      if name.isEmpty then .error .groupName else .ok (String.ofList name.reverse, rest)
    else if c == '_' || Text.isAlphabetic c ||
        (!name.isEmpty && (c == '.' || c == '[' || c == ']' || Text.isAlphanumeric c)) then
      readGroupName (c :: name) rest
    else .error .groupName

/-- An item of a sequence. Flags are items too, but cannot be repeated. -/
structure Item where
  pattern : Pattern
  /-- How deeply the item is nested. -/
  height : Nat := 0
  repeatable : Bool := true

def Item.ofSet (s : CodeSet) (height : Nat) : Item := ⟨.ofSet s, height, true⟩

def Item.ofAnchor (a : Anchor) : Item := ⟨.anchor a, 0, true⟩

def Item.ofFlags : Item := ⟨.empty, 0, false⟩

def readDigits (f : Flags) : (fuel : Nat) → (digits : List Char) → List Char → List Char × List Char
  | 0, digits, cs => (digits.reverse, cs)
  | _ + 1, digits, [] => (digits.reverse, [])
  | fuel + 1, digits, c :: rest =>
    if c.isDigit then readDigits f fuel (c :: digits) (f.skip rest) else (digits.reverse, c :: rest)

def readCount (f : Flags) (cs : List Char) : Reading (Nat × List Char) :=
  let cs := cs.dropWhile Text.isBlank
  let (digits, rest) := readDigits f (cs.length + 1) [] cs
  let rest := f.skip (rest.dropWhile Text.isBlank)
  if digits.isEmpty then .error .missingCount
  else
    let n := digits.foldl (fun n c => 10 * n + (c.toNat - '0'.toNat)) 0
    if n < UInt32.size then .ok (n, rest) else .error .countTooLarge

def readCounts (f : Flags) (cs : List Char) : Reading ((Nat × Option Nat) × List Char) := do
  match f.skip cs with
  | [] => .error .unclosedCount
  | cs =>
    let (least, rest) ← readCount f cs
    let (counts, rest) ← match rest with
      | ',' :: rest =>
        match f.skip rest with
        | [] => .error .unclosedCount
        | '\x7d' :: more => .ok ((least, none), '\x7d' :: more)
        | more => do
          let (most, rest) ← readCount f more
          .ok ((least, some most), rest)
      | rest => .ok ((least, some least), rest)
    match rest with
    | '\x7d' :: rest =>
      if counts.2.all (least ≤ ·) then .ok (counts, f.skip rest) else .error .reversedCount
    | _ => .error .unclosedCount

/-- Repeats the last item. A question mark after the repetition makes it prefer fewer copies. -/
def repeatLast (f : Flags) (items : List Item) (least : Nat) (most : Option Nat) (cs : List Char) :
    Reading (List Item × List Char) :=
  let (lazy, rest) := match cs with
    | '?' :: rest => (true, rest)
    | cs => (false, cs)
  match items with
  | [] => .error .nothingToRepeat
  | item :: before =>
    if item.repeatable then
      let greedy := lazy == f.swapGreed
      .ok (⟨item.pattern.repetition least most greedy, item.height + 1, true⟩ :: before, rest)
    else .error .nothingToRepeat

def topHeight (items : List Item) : Nat := items.foldl (fun h i => max h i.height) 0

/-- The items of a sequence, last first, as one. -/
def joinItems (items : List Item) : Item :=
  match items.reverse with
  | [] => ⟨.empty, 0, true⟩
  | [item] => item
  | item :: rest =>
    ⟨.sequence ((item :: rest).map (·.pattern)), 1 + topHeight items, true⟩

def joinBranches (branches : List Item) : Item :=
  match branches.reverse with
  | [] => ⟨.empty, 0, true⟩
  | [item] => item
  | item :: rest =>
    ⟨.choice ((item :: rest).map (·.pattern)), 1 + topHeight branches, true⟩

def primitiveItem (f : Flags) : Primitive → Item
  | .literal c => .ofSet (f.literal c) 0
  | .set s => .ofSet s 0
  | .anchor a => .ofAnchor a

/-- The names of the numbered groups opened so far, latest first. -/
abbrev Groups := List (Option String)

/-- Puts what was read into a group with a number, or into one without. -/
def Item.enclosed (item : Item) (number : Option Nat) : Item :=
  ⟨number.elim item.pattern (.group · item.pattern), item.height + 1, true⟩

inductive Opening where
  /-- Flags that hold from here on. -/
  | flags (f : Flags)
  /-- A group without a number, read with the given flags. -/
  | plain (f : Flags)
  /-- A numbered group, which may have a name. -/
  | numbered (name : Option String)

def readOpening (f : Flags) (groups : Groups) (cs : List Char) : Reading (Opening × List Char) := do
  let named (rest : List Char) : Reading (Opening × List Char) := do
    let (name, rest) ← readGroupName [] rest
    if groups.contains (some name) then .error .duplicateGroupName
    else .ok (.numbered (some name), rest)
  match f.skip cs with
  | '?' :: '=' :: _ | '?' :: '!' :: _ | '?' :: '<' :: '=' :: _ | '?' :: '<' :: '!' :: _ =>
    .error .lookaround
  | '?' :: 'P' :: '<' :: rest => named rest
  | '?' :: '<' :: rest => named rest
  | '?' :: rest =>
    let (f', bare, close, rest) ← readFlags true false [] f rest
    if close == ')' then
      if bare then .error .emptyFlags else .ok (.flags f', rest)
    else .ok (.plain f', rest)
  | rest => .ok (.numbered none, rest)

/-- Branches up to the end of the text or of the group. Every step reads at least one character,
so one more than there are characters suffices as `fuel`. -/
def readBranches : (fuel : Nat) → Flags → Groups → (branches items : List Item) →
    List Char → Reading (Item × Groups × List Char)
  | 0, _, _, _, _, _ => .error .tooNested
  | fuel + 1, f, groups, branches, items, cs =>
    match f.skip cs with
    | [] => .ok (joinBranches (joinItems items :: branches), groups, [])
    | ')' :: rest => .ok (joinBranches (joinItems items :: branches), groups, ')' :: rest)
    | '|' :: rest => readBranches fuel f groups (joinItems items :: branches) [] rest
    | '(' :: rest => do
      let enclose (f' : Flags) (opened : Groups) (number : Option Nat) (rest : List Char) := do
        let (item, groups, rest) ← readBranches fuel f' opened [] [] rest
        match rest with
        | ')' :: rest =>
          readBranches fuel f groups branches (item.enclosed number :: items) rest
        | _ => .error .unclosedGroup
      match ← readOpening f groups rest with
      | (.flags f', rest) => readBranches fuel f' groups branches (.ofFlags :: items) rest
      | (.plain f', rest) => enclose f' groups none rest
      | (.numbered name, rest) => enclose f (name :: groups) (some (groups.length + 1)) rest
    | '[' :: rest => do
      let (s, rest) ← readSet f rest
      readBranches fuel f groups branches (.ofSet s.set s.height :: items) rest
    | '?' :: rest => do
      let (items, rest) ← repeatLast f items 0 (some 1) rest
      readBranches fuel f groups branches items rest
    | '*' :: rest => do
      let (items, rest) ← repeatLast f items 0 none rest
      readBranches fuel f groups branches items rest
    | '+' :: rest => do
      let (items, rest) ← repeatLast f items 1 none rest
      readBranches fuel f groups branches items rest
    | '\x7b' :: rest => do
      if items.head?.all (!·.repeatable) then .error .nothingToRepeat
      else
        let (counts, rest) ← readCounts f rest
        let (items, rest) ← repeatLast f items counts.1 counts.2 rest
        readBranches fuel f groups branches items rest
    | '.' :: rest => do
      readBranches fuel f groups branches (.ofSet (← f.dot) 0 :: items) rest
    | '^' :: rest =>
      let a := if f.multiLine then Anchor.lineStart f.returns else .textStart
      readBranches fuel f groups branches (.ofAnchor a :: items) rest
    | '$' :: rest =>
      let a := if f.multiLine then Anchor.lineEnd f.returns else .textEnd
      readBranches fuel f groups branches (.ofAnchor a :: items) rest
    | '\\' :: rest => do
      let (p, rest) ← readEscape f rest
      readBranches fuel f groups branches (primitiveItem f p :: items) rest
    | c :: rest => readBranches fuel f groups branches (.ofSet (f.literal c) 0 :: items) rest

def heightLimit : Nat := 250

def read (text : List Char) : Reading Pattern := do
  let (item, _, rest) ← readBranches (text.length + 1) {} [] [] [] text
  if !rest.isEmpty then .error .unopenedGroup
  else if item.height > heightLimit then .error .tooNested
  else if !item.pattern.fits then .error .tooLarge
  else return item.pattern

end Packrat.Pattern
