import Packrat.Yaml.Token

/-! YAML documents as trees of nodes.

Anchors are numbered: a name gets as its number the count of names known before it. A name that is
given again gets a new number, which a later name may share; the last node of a number counts. -/
namespace Packrat.Yaml

inductive Node where
  /-- The node with the number of an anchor. -/
  | aliasOf (number : Nat)
  | scalar (anchor : Option Nat) (tag : Option TagBytes) (style : ScalarStyle) (text : String)
  | sequence (anchor : Option Nat) (tag : Option TagBytes) (items : List Node)
  | mapping (anchor : Option Nat) (tag : Option TagBytes) (entries : List (Node × Node))
  deriving Inhabited

namespace Node

def blank : Node := scalar none none .plain ""

/-- What is left of the tokens, and the numbers of the names known so far. -/
structure Source where
  tokens : List Token
  anchors : List (String × Nat) := []

namespace Source

def peek? (s : Source) : Option Token := s.tokens.head?

def sees (s : Source) (ts : List Token) : Bool := s.peek?.any ts.contains

def next (s : Source) : Source := { s with tokens := s.tokens.tail }

def define (s : Source) (name : String) : Nat × Source :=
  let number := s.anchors.length
  (number, { s with anchors := (name, number) :: s.anchors.filter (·.1 != name) })

end Source

abbrev Handles := List (String × TagBytes)

def defaultHandles : Handles :=
  [("!", "!".toUTF8.data.toList), ("!!", "tag:yaml.org,2002:".toUTF8.data.toList)]

/-- A tag written out; none if its handle is not known. -/
def fullTag? (handles : Handles) (t : Tag) : Option TagBytes :=
  if t.handle.isEmpty then some t.suffix else (handles.lookup t.handle).map (· ++ t.suffix)

structure Properties where
  anchor : Option Nat := none
  tag : Option TagBytes := none

def Properties.isEmpty (p : Properties) : Bool := p.anchor.isNone && p.tag.isNone

/-- An anchor and a tag, each at most once, in any order. -/
def properties? (handles : Handles) (s : Source) : Option (Properties × Source) :=
  match s.tokens with
  | .anchor name :: .tag t :: rest =>
    let (number, s) := { s with tokens := rest }.define name
    (fullTag? handles t).map fun tag => (⟨some number, some tag⟩, s)
  | .tag t :: .anchor name :: rest =>
    let (number, s) := { s with tokens := rest }.define name
    (fullTag? handles t).map fun tag => (⟨some number, some tag⟩, s)
  | .anchor name :: rest =>
    let (number, s) := { s with tokens := rest }.define name
    some (⟨some number, none⟩, s)
  | .tag t :: rest => (fullTag? handles t).map fun tag => (⟨none, some tag⟩, { s with tokens := rest })
  | _ => some ({}, s)

mutual

/-- Reads a node. Block collections are allowed if `block`, and sequences that are not indented
further than their key if `flush`. -/
def read? (handles : Handles) : (fuel : Nat) → (block flush : Bool) → Source → Option (Node × Source)
  | 0, _, _, _ => none
  | fuel + 1, block, flush, s =>
    match s.peek? with
    | some (.aliasOf name) => (s.anchors.lookup name).map fun number => (aliasOf number, s.next)
    | _ =>
      match properties? handles s with
      | none => none
      | some (p, s) =>
        match s.peek? with
        | some (.scalar style text) => some (scalar p.anchor p.tag style text, s.next)
        | some .blockEntry =>
          if flush then
            (readFlushItems? handles fuel s).map fun (items, s) => (sequence p.anchor p.tag items, s)
          else if p.isEmpty then none
          else some (scalar p.anchor p.tag .plain "", s)
        | some .flowSequenceStart =>
          (readFlowItems? handles fuel true s.next).map fun (items, s) =>
            (sequence p.anchor p.tag items, s)
        | some .flowMappingStart =>
          (readFlowEntries? handles fuel true s.next).map fun (entries, s) =>
            (mapping p.anchor p.tag entries, s)
        | some .blockSequenceStart =>
          if block then
            (readBlockItems? handles fuel s.next).map fun (items, s) =>
              (sequence p.anchor p.tag items, s)
          else if p.isEmpty then none
          else some (scalar p.anchor p.tag .plain "", s)
        | some .blockMappingStart =>
          if block then
            (readBlockEntries? handles fuel s.next).map fun (entries, s) =>
              (mapping p.anchor p.tag entries, s)
          else if p.isEmpty then none
          else some (scalar p.anchor p.tag .plain "", s)
        | _ => if p.isEmpty then none else some (scalar p.anchor p.tag .plain "", s)

/-- Reads a node of block style, unless one of the given tokens comes next. -/
def readUnless? (handles : Handles) : (fuel : Nat) → (stop : List Token) → (flush : Bool) → Source →
    Option (Node × Source)
  | 0, _, _, _ => none
  | fuel + 1, stop, flush, s => if s.sees stop then some (blank, s) else read? handles fuel true flush s

def readBlockItems? (handles : Handles) : (fuel : Nat) → Source → Option (List Node × Source)
  | 0, _ => none
  | fuel + 1, s =>
    match s.peek? with
    | some .blockEntry => do
      let (item, s) ← readUnless? handles fuel [.blockEntry, .blockEnd] false s.next
      let (items, s) ← readBlockItems? handles fuel s
      return (item :: items, s)
    | some .blockEnd => some ([], s.next)
    | _ => none

/-- The items of a sequence at the column of its key. -/
def readFlushItems? (handles : Handles) : (fuel : Nat) → Source → Option (List Node × Source)
  | 0, _ => none
  | fuel + 1, s =>
    match s.peek? with
    | some .blockEntry => do
      let (item, s) ← readUnless? handles fuel [.blockEntry, .key, .value, .blockEnd] false s.next
      let (items, s) ← readFlushItems? handles fuel s
      return (item :: items, s)
    | _ => some ([], s)

def readBlockEntries? (handles : Handles) : (fuel : Nat) → Source →
    Option (List (Node × Node) × Source)
  | 0, _ => none
  | fuel + 1, s =>
    match s.peek? with
    | some .key => do
      let stop : List Token := [.key, .value, .blockEnd]
      let (key, s) ← readUnless? handles fuel stop true s.next
      let (value, s) ←
        match s.peek? with
        | some .value => readUnless? handles fuel stop true s.next
        | _ => some (blank, s)
      let (entries, s) ← readBlockEntries? handles fuel s
      return ((key, value) :: entries, s)
    | some .blockEnd => some ([], s.next)
    | _ => none

/-- The value of a pair in a flow collection, up to one of the given tokens. -/
def readFlowValue? (handles : Handles) : (fuel : Nat) → (stop : List Token) → Source →
    Option (Node × Source)
  | 0, _, _ => none
  | fuel + 1, stop, s =>
    match s.peek? with
    | some .value =>
      if s.next.sees stop then some (blank, s.next) else read? handles fuel false false s.next
    | _ => some (blank, s)

/-- The items of a flow sequence. A marked key makes an item a mapping of one entry; if nothing
follows the mark, the token after it is lost. -/
def readFlowItems? (handles : Handles) : (fuel : Nat) → (first : Bool) → Source →
    Option (List Node × Source)
  | 0, _, _ => none
  | fuel + 1, first, s =>
    if s.sees [.flowSequenceEnd] then some ([], s.next)
    else if !first && !s.sees [.flowEntry] then none
    else
      let s := if first then s else s.next
      match s.peek? with
      | some .flowSequenceEnd => some ([], s.next)
      | some .key => do
        let s := s.next
        let (key, s) ←
          if s.sees [.value, .flowEntry, .flowSequenceEnd] then some (blank, s.next)
          else read? handles fuel false false s
        let (value, s) ← readFlowValue? handles fuel [.flowEntry, .flowSequenceEnd] s
        let (items, s) ← readFlowItems? handles fuel false s
        return (mapping none none [(key, value)] :: items, s)
      | _ => do
        let (item, s) ← read? handles fuel false false s
        let (items, s) ← readFlowItems? handles fuel false s
        return (item :: items, s)

def readFlowEntries? (handles : Handles) : (fuel : Nat) → (first : Bool) → Source →
    Option (List (Node × Node) × Source)
  | 0, _, _ => none
  | fuel + 1, first, s =>
    if s.sees [.flowMappingEnd] then some ([], s.next)
    else if !first && !s.sees [.flowEntry] then none
    else
      let s := if first then s else s.next
      match s.peek? with
      | some .flowMappingEnd => some ([], s.next)
      | some .key => do
        let s := s.next
        let (key, s) ←
          if s.sees [.value, .flowEntry, .flowMappingEnd] then some (blank, s)
          else read? handles fuel false false s
        let (value, s) ← readFlowValue? handles fuel [.flowEntry, .flowMappingEnd] s
        let (entries, s) ← readFlowEntries? handles fuel false s
        return ((key, value) :: entries, s)
      | _ => do
        let (key, s) ← read? handles fuel false false s
        let (entries, s) ← readFlowEntries? handles fuel false s
        return ((key, blank) :: entries, s)

end

/-- The directives before a document: at most one version, which must be known, and no handle
twice. -/
def directives? : (versioned : Bool) → Handles → List Token → Option (Handles × List Token)
  | versioned, handles, .directive (.version major minor) :: rest =>
    if versioned || major != 1 || (minor != 1 && minor != 2) then none
    else directives? true handles rest
  | versioned, handles, .directive (.tag handle beginning) :: rest =>
    if handles.any (·.1 == handle) then none
    else directives? versioned (handles ++ [(handle, beginning)]) rest
  | _, handles, tokens => some (handles, tokens)

/-- Every node takes a token at least, in up to three calls. -/
def readFuel (tokens : List Token) : Nat := 4 * tokens.length + 4

def readContent? (handles : Handles) (tokens : List Token) : Option (Node × Source) :=
  match tokens with
  | [] | .directive _ :: _ | .documentStart :: _ | .documentEnd :: _ => some (blank, { tokens })
  | tokens => read? handles (readFuel tokens) true false { tokens }

/-- The only document of a list of tokens; none inside if there is no document at all. -/
def ofTokens? (tokens : List Token) : Option (Option Node) :=
  match tokens with
  | [] => some none
  | .directive _ :: _ | .documentStart :: _ => do
    let (handles, tokens) ← directives? false [] tokens
    match tokens with
    | .documentStart :: tokens =>
      let (node, s) ← readContent? (handles ++ defaultHandles) tokens
      if s.tokens.all (· == .documentEnd) then return some node else none
    | _ => none
  | tokens => do
    let (node, s) ← read? defaultHandles (readFuel tokens) true false { tokens }
    if s.tokens.all (· == .documentEnd) then return some node else none

/-- The only document of a text; none inside if the text is empty but for comments. -/
def ofText? (text : String) : Option (Option Node) := (Token.ofText? text).bind ofTokens?

mutual

/-- The anchored nodes inside a node, in order. -/
def anchored : Node → List (Nat × Node)
  | aliasOf _ => []
  | scalar anchor tag style text =>
    anchor.toList.map fun number => (number, scalar anchor tag style text)
  | sequence anchor tag items =>
    anchor.toList.map (fun number => (number, sequence anchor tag items)) ++ anchoredItems items
  | mapping anchor tag entries =>
    anchor.toList.map (fun number => (number, mapping anchor tag entries)) ++ anchoredEntries entries

def anchoredItems : List Node → List (Nat × Node)
  | [] => []
  | n :: rest => n.anchored ++ anchoredItems rest

def anchoredEntries : List (Node × Node) → List (Nat × Node)
  | [] => []
  | (key, value) :: rest => key.anchored ++ value.anchored ++ anchoredEntries rest

end

end Node

end Packrat.Yaml
