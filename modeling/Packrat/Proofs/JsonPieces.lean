import Mathlib.Data.List.Forall2
import Packrat.Proofs.JsonText

/-! Data that were written as JSON are read as the tree of the same shape: their text is cut into
the pieces of the tree, and the pieces form the tree again. -/
namespace Packrat

/-- Data that JSON keeps as they are: no floats, and integers of 64 bits. -/
inductive Data.Exact : Data → Prop where
  | null : Exact .null
  | bool (b : Bool) : Exact (.bool b)
  | int (n : Int) (fits : Int64.minValue.toInt ≤ n ∧ n ≤ Int64.maxValue.toInt) : Exact (.int n)
  | text (s : String) : Exact (.text s)
  | list (items : List Data) (exact : ∀ d ∈ items, Exact d) : Exact (.list items)
  | object (fields : List (String × Data)) (exact : ∀ p ∈ fields, Exact p.2) : Exact (.object fields)

namespace Json

mutual

def treeOf : Data → Tree
  | .null | .float _ => .null
  | .bool b => .bool b
  | .int n => .number (.ofInt n)
  | .text s => .string (s.toList.flatMap escape)
  | .list items => .list (treesOf items)
  | .object fields => .object (fieldTreesOf fields)

def treesOf : List Data → List Tree
  | [] => []
  | d :: rest => treeOf d :: treesOf rest

def fieldTreesOf : List (String × Data) → List (List Char × Tree)
  | [] => []
  | (key,d) :: rest => (key.toList.flatMap escape,treeOf d) :: fieldTreesOf rest

end

theorem treesOf_eq (items : List Data) : treesOf items = items.map treeOf := by
  induction items with
  | nil => rfl
  | cons d rest ih => rw [treesOf,ih,List.map_cons]

theorem fieldTreesOf_eq (fields : List (String × Data)) :
    fieldTreesOf fields = fields.map fun p => (p.1.toList.flatMap escape,treeOf p.2) := by
  induction fields with
  | nil => rfl
  | cons p rest ih => rw [fieldTreesOf,ih,List.map_cons]

theorem indentedItems_eq (level : Nat) (items : List Data) :
    indentedItems level items = items.map (indented (level + 1)) := by
  induction items with
  | nil => rfl
  | cons d rest ih => rw [indentedItems,ih,List.map_cons]

theorem indentedFields_eq (level : Nat) (fields : List (String × Data)) :
    indentedFields level fields = fields.map fun p => string p.1 ++ ": " ++ indented (level + 1) p.2 := by
  induction fields with
  | nil => rfl
  | cons p rest ih => rw [indentedFields,ih,List.map_cons]

namespace Tree

def between (close : Piece) : List (List Piece) → List Piece
  | [] => [close]
  | [first] => first ++ [close]
  | first :: second :: rest => first ++ .comma :: between close (second :: rest)

mutual

def pieces : Tree → List Piece
  | null => [.null]
  | bool b => [.bool b]
  | number n => [.number n]
  | string raw => [.string raw]
  | list items => .leftBracket :: between .rightBracket (itemPieces items)
  | object fields => .leftBrace :: between .rightBrace (fieldPieces fields)

def itemPieces : List Tree → List (List Piece)
  | [] => []
  | t :: rest => t.pieces :: itemPieces rest

def fieldPieces : List (List Char × Tree) → List (List Piece)
  | [] => []
  | (key,t) :: rest => (.string key :: .colon :: t.pieces) :: fieldPieces rest

end

theorem itemPieces_eq (items : List Tree) : itemPieces items = items.map pieces := by
  induction items with
  | nil => rfl
  | cons t rest ih => rw [itemPieces,ih,List.map_cons]

theorem fieldPieces_eq (fields : List (List Char × Tree)) :
    fieldPieces fields = fields.map fun p => .string p.1 :: .colon :: p.2.pieces := by
  induction fields with
  | nil => rfl
  | cons p rest ih => rw [fieldPieces,ih,List.map_cons]

theorem pieces_open (t : Tree) (more rest : List Piece) : t.pieces ++ more ≠ .rightBracket :: rest := by
  cases t <;> simp [pieces]

theorem length_pieces_pos (t : Tree) : 0 < t.pieces.length := by
  cases t <;> simp [pieces]

theorem length_between_pos (close : Piece) (pss : List (List Piece)) : 0 < (between close pss).length := by
  match pss with
  | [] => simp [between]
  | [_] => simp [between]
  | _ :: _ :: _ =>
    rw [between,List.length_append,List.length_cons]
    omega

/-- With this much fuel, the pieces of a tree form it, whatever follows them; so do those of items up to
the closing bracket, and those of fields up to the closing brace. -/
structure Forms (fuel : Nat) : Prop where
  tree : ∀ t rest, 2 * t.pieces.length ≤ fuel → read? fuel (t.pieces ++ rest) = some (t,rest)
  items : ∀ items rest, items ≠ [] → 2 * (between .rightBracket (itemPieces items)).length ≤ fuel + 1 →
    readItems? fuel (between .rightBracket (itemPieces items) ++ rest) = some (items,rest)
  fields : ∀ fields rest, fields ≠ [] → 2 * (between .rightBrace (fieldPieces fields)).length ≤ fuel + 1 →
    readFields? fuel (between .rightBrace (fieldPieces fields) ++ rest) = some (fields,rest)

theorem Forms.zero : Forms 0 where
  tree t rest enough := by
    have positive := t.length_pieces_pos
    omega
  items items rest _ enough := by
    have positive := length_between_pos .rightBracket (itemPieces items)
    omega
  fields fields rest _ enough := by
    have positive := length_between_pos .rightBrace (fieldPieces fields)
    omega

section Succ

variable {fuel : Nat} (forms : Forms fuel)

include forms

theorem Forms.tree_succ (t : Tree) (rest : List Piece) (enough : 2 * t.pieces.length ≤ fuel + 1) :
    read? (fuel + 1) (t.pieces ++ rest) = some (t,rest) := by
  cases t with
  | null | bool b | number n | string raw => rfl
  | list items =>
    match items with
    | [] => rfl
    | t :: more =>
      have formed := forms.items (t :: more) rest (by simp) (by simp [pieces] at enough; omega)
      -- What follows the bracket does not close it at once.
      have opened : ∀ others, between .rightBracket (itemPieces (t :: more)) ++ rest =
          .rightBracket :: others → False := by
        intro others
        cases more <;> simpa [itemPieces,between] using pieces_open t _ others
      rw [pieces,List.cons_append,read?.eq_7 _ _ opened,formed]
      rfl
  | object fields =>
    match fields with
    | [] => rfl
    | (key,t) :: more =>
      have formed := forms.fields ((key,t) :: more) rest (by simp) (by simp [pieces] at enough; omega)
      have opened : ∀ others, between .rightBrace (fieldPieces ((key,t) :: more)) ++ rest =
          .rightBrace :: others → False := by
        intro others
        cases more <;> simp [fieldPieces,between]
      rw [pieces,List.cons_append,read?.eq_9 _ _ opened,formed]
      rfl

theorem Forms.items_succ (items : List Tree) (rest : List Piece) (nonempty : items ≠ [])
    (enough : 2 * (between .rightBracket (itemPieces items)).length ≤ fuel + 2) :
    readItems? (fuel + 1) (between .rightBracket (itemPieces items) ++ rest) = some (items,rest) := by
  match items with
  | [] => exact absurd rfl nonempty
  | [t] =>
    have first := forms.tree t (.rightBracket :: rest) (by simp [itemPieces,between] at enough; omega)
    simp [itemPieces,between,readItems?,first]
  | t :: u :: more =>
    have first := forms.tree t (.comma :: (between .rightBracket (itemPieces (u :: more)) ++ rest))
      (by simp [itemPieces,between] at enough; omega)
    have others := forms.items (u :: more) rest (by simp) (by simp [itemPieces,between] at enough ⊢; omega)
    simp only [itemPieces,between,List.append_assoc,List.cons_append,readItems?] at first others ⊢
    rw [first]
    dsimp only
    rw [others]
    rfl

theorem Forms.fields_succ (fields : List (List Char × Tree)) (rest : List Piece) (nonempty : fields ≠ [])
    (enough : 2 * (between .rightBrace (fieldPieces fields)).length ≤ fuel + 2) :
    readFields? (fuel + 1) (between .rightBrace (fieldPieces fields) ++ rest) = some (fields,rest) := by
  match fields with
  | [] => exact absurd rfl nonempty
  | [(key,t)] =>
    have first := forms.tree t (.rightBrace :: rest) (by simp [fieldPieces,between] at enough; omega)
    simp [fieldPieces,between,readFields?,first]
  | (key,t) :: (key',u) :: more =>
    have first := forms.tree t (.comma :: (between .rightBrace (fieldPieces ((key',u) :: more)) ++ rest))
      (by simp [fieldPieces,between] at enough; omega)
    have others := forms.fields ((key',u) :: more) rest (by simp) (by simp [fieldPieces,between] at enough ⊢; omega)
    simp only [fieldPieces,between,List.append_assoc,List.cons_append,readFields?] at first others ⊢
    rw [first]
    dsimp only
    rw [others]
    rfl

end Succ

theorem forms (fuel : Nat) : Forms fuel := by
  induction fuel with
  | zero => exact .zero
  | succ fuel ih => exact ⟨ih.tree_succ,ih.items_succ,ih.fields_succ⟩

end Tree

inductive Cuts : List Char → List Piece → Prop where
  | done : Cuts [] []
  | blank (blank : Piece.isBlank c = true) (cuts : Cuts cs ps) : Cuts (c :: cs) ps
  | piece (solid : Piece.isBlank c = false) (read : Piece.read? (c :: cs) = some (p,rest))
      (shorter : rest.length ≤ cs.length) (cuts : Cuts rest ps) : Cuts (c :: cs) (p :: ps)

theorem Cuts.readAll? (cuts : Cuts cs ps) (enough : cs.length ≤ fuel) : Piece.readAll? fuel cs = some ps := by
  induction cuts generalizing fuel with
  | done => cases fuel <;> rfl
  | blank blank _ ih =>
    cases fuel with
    | zero => cases enough
    | succ fuel =>
      rw [Piece.readAll?,if_pos blank]
      exact ih (Nat.le_of_succ_le_succ enough)
  | piece solid read shorter _ ih =>
    cases fuel with
    | zero => cases enough
    | succ fuel =>
      rw [Piece.readAll?,if_neg (by simp [solid]),read]
      dsimp only
      rw [ih (Nat.le_trans shorter (Nat.le_of_succ_le_succ enough))]
      rfl

def Marks (text : List Char) (ps : List Piece) : Prop := ∀ rest qs, Cuts rest qs → Cuts (text ++ rest) (ps ++ qs)

/-- A text that is cut into the pieces where a value may end behind it. -/
def Spells (text : List Char) (ps : List Piece) : Prop :=
  ∀ rest qs, Ends rest → Cuts rest qs → Cuts (text ++ rest) (ps ++ qs)

namespace Marks

variable {text text' : List Char} {ps ps' : List Piece}

theorem spells (marks : Marks text ps) : Spells text ps := fun rest qs _ => marks rest qs

theorem append (marks : Marks text ps) (marks' : Marks text' ps') : Marks (text ++ text') (ps ++ ps') := by
  intro rest qs cuts
  rw [List.append_assoc,List.append_assoc]
  exact marks _ _ (marks' rest qs cuts)

theorem before (marks : Marks text ps) (spells : Spells text' ps') : Spells (text ++ text') (ps ++ ps') := by
  intro rest qs ends cuts
  rw [List.append_assoc,List.append_assoc]
  exact marks _ _ (spells rest qs ends cuts)

theorem single {c : Char} {p : Piece} (cs : List Char) (solid : Piece.isBlank c = false)
    (read : ∀ rest, Piece.read? (c :: (cs ++ rest)) = some (p,rest)) : Marks (c :: cs) [p] := fun rest _ cuts =>
  .piece solid (read rest) (by simp) cuts

theorem blanks (text : List Char) (blank : ∀ c ∈ text, Piece.isBlank c = true) : Marks text [] := by
  intro rest qs cuts
  induction text with
  | nil => exact cuts
  | cons c cs ih =>
    exact .blank (blank c List.mem_cons_self) (ih fun d member => blank d (List.mem_cons_of_mem _ member))

theorem newline (level : Nat) : Marks (newline level).toList [] := by
  refine .blanks _ fun c member => ?_
  simp only [Json.newline,String.toList_append,String.toList_ofList] at member
  rcases List.mem_append.mp member with first | indent
  · obtain rfl : c = '\n' := by simpa using first
    rfl
  · obtain rfl := List.eq_of_mem_replicate indent
    rfl

theorem string (s : String) : Marks (string s).toList [.string (s.toList.flatMap escape)] := by
  have written : (Json.string s).toList = '"' :: (s.toList.flatMap escape ++ ['"']) := by
    simp [Json.string]
  rw [written]
  refine .single _ rfl fun rest => ?_
  rw [List.append_assoc,List.singleton_append,Piece.read?,Quoted.split?_escape]
  rfl

end Marks

/-- A value before something that separates it from the next. -/
theorem Spells.before (spells : Spells text ps) (marks : Marks text' ps') (ends : ∀ rest, Ends (text' ++ rest)) :
    Marks (text ++ text') (ps ++ ps') := by
  intro rest qs cuts
  rw [List.append_assoc,List.append_assoc]
  exact spells _ _ (ends rest) (marks rest qs cuts)

theorem read?_number {c : Char} {cs : List Char} (first : c = '-' ∨ Decimal.isAsciiDigit c = true) :
    Piece.read? (c :: cs) = (Numeral.read? (c :: cs)).map fun (n,rest) => (.number n,rest) := by
  apply Piece.read?.eq_11
  all_goals
    intro rest same
    obtain ⟨rfl,_⟩ := List.cons.inj same
    exact absurd first (by decide)

theorem spells_int (n : Int) : Spells (toString n).toList [.number (.ofInt n)] := by
  intro rest qs ends cuts
  have read := Numeral.read?_ofInt n ends
  have first : ∀ c ∈ (toString n).toList, c = '-' ∨ Decimal.isAsciiDigit c = true := by
    intro c member
    rw [toList_toString] at member
    rcases List.mem_append.mp member with sign | digit
    · split at sign
      · exact .inl (List.mem_singleton.mp sign)
      · cases sign
    · exact .inr (isAsciiDigit_of_mem digit)
  cases written : (toString n).toList with
  | nil =>
    rw [toList_toString] at written
    exact absurd (List.append_eq_nil_iff.mp written).2 Nat.toDigits_ne_nil
  | cons c cs =>
    have start := first c (by rw [written]; exact List.mem_cons_self)
    have solid : Piece.isBlank c = false := by
      cases blank : Piece.isBlank c with
      | false => rfl
      | true =>
        have among : ((c = ' ' ∨ c = '\n') ∨ c = '\t') ∨ c = '\r' := by simpa [Piece.isBlank] using blank
        rcases among with ((rfl | rfl) | rfl) | rfl <;> exact absurd start (by decide)
    rw [written,List.cons_append] at read
    have piece : Piece.read? (c :: (cs ++ rest)) = some (.number (.ofInt n),rest) := by
      rw [read?_number start,read]
      rfl
    exact .piece solid piece (by simp) cuts

/-- Parts that are separated by commas, and closed. -/
theorem between_marks {sep tail : String} {close : Piece} (separates : Marks sep.toList [.comma])
    (apart : ∀ rest, Ends (sep.toList ++ rest)) (closes : Marks tail.toList [close])
    (ends : ∀ rest, Ends (tail.toList ++ rest)) (parts : List String) (pss : List (List Piece)) (nonempty : parts ≠ [])
    (spell : List.Forall₂ (fun part ps => Spells part.toList ps) parts pss) :
    Marks ((sep.intercalate parts).toList ++ tail.toList) (Tree.between close pss) := by
  induction spell with
  | nil => exact absurd rfl nonempty
  | @cons part ps parts pss first more ih =>
    cases more with
    | nil =>
      rw [String.intercalate_singleton]
      exact first.before closes ends
    | cons second more =>
      rw [String.intercalate_cons_cons,String.toList_append,String.toList_append,List.append_assoc,List.append_assoc]
      refine first.before (separates.append (ih (by simp))) fun rest => ?_
      rw [List.append_assoc]
      exact apart _

theorem block_marks {left right : String} {opening close : Piece} (opens : Marks left.toList [opening])
    (closes : Marks right.toList [close]) (level : Nat) (parts : List String) (pss : List (List Piece))
    (spell : List.Forall₂ (fun part ps => Spells part.toList ps) parts pss) :
    Marks (block left right level parts).toList (opening :: Tree.between close pss) := by
  have broken (level : Nat) (rest : List Char) : Ends ((newline level).toList ++ rest) := by
    intro c first
    obtain rfl : '\n' = c := by simpa [newline] using first
    simp
  cases spell with
  | nil =>
    rw [block,String.toList_append]
    exact opens.append closes
  | @cons part ps parts pss first more =>
    have comma : Marks ",".toList [.comma] := .single [] rfl fun _ => rfl
    have separates : Marks ("," ++ newline (level + 1)).toList [.comma] := by
      rw [String.toList_append]
      exact comma.append (.newline _)
    have closes' : Marks (newline level ++ right).toList [close] := by
      rw [String.toList_append]
      exact (Marks.newline level).append closes
    have apart (rest : List Char) : Ends (("," ++ newline (level + 1)).toList ++ rest) := by
      intro c first
      obtain rfl : ',' = c := by simpa using first
      simp
    have ends (rest : List Char) : Ends ((newline level ++ right).toList ++ rest) := by
      rw [String.toList_append,List.append_assoc]
      exact broken level _
    have inner := between_marks separates apart closes' ends (part :: parts) (ps :: pss) (by simp) (.cons first more)
    have whole : (block left right level (part :: parts)).toList = left.toList ++ ((newline (level + 1)).toList ++
        ((("," ++ newline (level + 1)).intercalate (part :: parts)).toList ++ (newline level ++ right).toList)) := by
      simp [block]
    rw [whole]
    exact opens.append ((Marks.newline (level + 1)).append inner)

/-- Data are written as the pieces of their tree. -/
theorem indented_spells (faithful : d.Exact) (level : Nat) : Spells (indented level d).toList (treeOf d).pieces := by
  induction faithful generalizing level with
  | null =>
    have word : Marks "null".toList [.null] := .single "ull".toList rfl fun _ => rfl
    exact word.spells
  | bool b =>
    have no : Marks "false".toList [.bool false] := .single "alse".toList rfl fun _ => rfl
    have yes : Marks "true".toList [.bool true] := .single "rue".toList rfl fun _ => rfl
    cases b with
    | false => exact no.spells
    | true => exact yes.spells
  | int n => exact spells_int n
  | text s => exact (Marks.string s).spells
  | list items _ ih =>
    have spell : List.Forall₂ (fun part ps => Spells part.toList ps) (items.map (indented (level + 1)))
        (items.map fun d => (treeOf d).pieces) := by
      rw [List.forall₂_map_left_iff,List.forall₂_map_right_iff,List.forall₂_same]
      exact fun d member => ih d member (level + 1)
    have opens : Marks "[".toList [.leftBracket] := .single [] rfl fun _ => rfl
    have closes : Marks "]".toList [.rightBracket] := .single [] rfl fun _ => rfl
    have marks := block_marks opens closes level _ _ spell
    rw [indented,indentedItems_eq,treeOf,Tree.pieces,treesOf_eq,Tree.itemPieces_eq,List.map_map]
    exact marks.spells
  | object fields _ ih =>
    have spell : List.Forall₂ (fun part ps => Spells part.toList ps)
        (fields.map fun p => string p.1 ++ ": " ++ indented (level + 1) p.2)
        (fields.map fun p => .string (p.1.toList.flatMap escape) :: .colon :: (treeOf p.2).pieces) := by
      rw [List.forall₂_map_left_iff,List.forall₂_map_right_iff,List.forall₂_same]
      intro p member
      have colon : Marks [':'] [.colon] := .single [] rfl fun _ => rfl
      have blank : Marks [' '] [] := .blanks _ (List.forall_mem_singleton.mpr rfl)
      have key := (Marks.string p.1).append (colon.append blank)
      rw [String.toList_append,String.toList_append]
      exact key.before (ih p member (level + 1))
    have opens : Marks "\x7b".toList [.leftBrace] := .single [] rfl fun _ => rfl
    have closes : Marks "\x7d".toList [.rightBrace] := .single [] rfl fun _ => rfl
    have marks := block_marks opens closes level _ _ spell
    rw [indented,indentedFields_eq,treeOf,Tree.pieces,fieldTreesOf_eq,Tree.fieldPieces_eq,List.map_map]
    exact marks.spells

/-- Data that were written are read as the tree of their shape. -/
theorem Tree.ofText?_pretty (faithful : d.Exact) : Tree.ofText? (pretty d) = some (treeOf d) := by
  have cuts := indented_spells faithful 0 [] [] (by simp [Ends]) .done
  rw [List.append_nil,List.append_nil] at cuts
  have formed := (Tree.forms (2 * (treeOf d).pieces.length + 1)).tree (treeOf d) [] (by omega)
  rw [List.append_nil] at formed
  simp [ofText?,pretty,cuts.readAll? (Nat.le_refl _),formed]

end Json

end Packrat
