import Packrat.Proofs.Depth
import Packrat.Proofs.Location
import Packrat.Proofs.Segmentation

/-! Errors point at the source. Whatever goes wrong in a parse, the error is at a place between two
characters of its input, where its token stands, and its detailed form shows the line of that place
with as much in front of the caret as stands in front of the place. -/
namespace Packrat

namespace Source

/-- A place between two characters where a token stands. It is not between a carriage return and
the end of its line, where the line as shown has ended already. -/
structure Place (text before after : List Char) (token : String) : Prop where
  text : text = before ++ after
  token : token.toList <+: after
  visible : after.takeWhile (· ≠ '\n') ≠ [] ∨ before.getLast? ≠ some '\r'

theorem Place.start (text : List Char) : Place text [] text "" where
  text := rfl
  token := List.nil_prefix
  visible := .inr (by simp)

/-- The end of the text but for blanks. -/
theorem Place.trimEnd (text : List Char) : ∃ after, Place text (Text.trimEnd text Text.isBlank) after "" := by
  have parts := List.takeWhile_append_dropWhile (p := Text.isBlank) (l := text.reverse)
  refine ⟨(text.reverse.takeWhile Text.isBlank).reverse,?_,List.nil_prefix,.inr ?_⟩
  · rw [Text.trimEnd,← List.reverse_append,parts,List.reverse_reverse]
  · intro last
    rw [Text.trimEnd,List.getLast?_reverse] at last
    have solid := List.head?_dropWhile_not Text.isBlank text.reverse
    rw [last] at solid
    have blank : Text.isBlank '\r' = true := by decide
    cases blank.symm.trans solid

/-- The place where a token begins. -/
theorem Place.ofBetween {text : List Char} {token : String} {start stop : Nat}
    (stands : Text.Between text start stop token.toList)
    (head : ∃ c rest, token.toList = c :: rest ∧ Lexeme.isSeparator c = false) :
    ∃ before after, Place text before after token ∧ Text.byteSize before = start := by
  obtain ⟨before,after,eq,size,_⟩ := stands
  obtain ⟨c,rest,eq',solid⟩ := head
  have other : c ≠ '\n' := by
    rintro rfl
    cases solid
  refine ⟨before,token.toList ++ after,⟨?_,List.prefix_append _ _,.inl ?_⟩,size⟩
  · rw [eq,List.append_assoc]
  · rw [eq',List.cons_append,List.takeWhile_cons_of_pos (by simpa using other)]
    exact List.cons_ne_nil _ _

/-- The line of a place: what is before the place on it, and what is behind. -/
theorem Place.line {source token : String} {before after : List Char} (place : Place source.toList before after token) :
    ∃ earlier head tail, before = earlier ++ head ∧ Lines earlier ∧ '\n' ∉ head ∧
      line? source (earlier.count '\n' + 1) = some (String.ofList (head ++ tail)) ∧
      (after.takeWhile (· ≠ '\n') = tail ∨ after.takeWhile (· ≠ '\n') = tail ++ ['\r']) := by
  obtain ⟨earlier,head,rfl,whole,plain⟩ := exists_lines before
  -- A carriage return before the place is on the same line, and does not end it.
  have apart : after.takeWhile (· ≠ '\n') ≠ [] ∨ head.getLast? ≠ some '\r' := by
    refine place.visible.imp_right fun other same => other ?_
    rw [List.getLast?_append,same]
    rfl
  obtain ⟨tail,dropped,rest⟩ := dropReturn_append head (after.takeWhile (· ≠ '\n')) apart
  have piece := pieces_getElem?_count whole (head ++ after)
  have on : ∀ c ∈ head, decide (c ≠ '\n') = true := fun c member => by
    simpa using fun feed : c = '\n' => plain (feed ▸ member)
  rw [← List.append_assoc,← place.text,List.takeWhile_append_of_pos on] at piece
  refine ⟨earlier,head,tail,rfl,whole,plain,?_,rest⟩
  rw [line?,piece,Option.map_some,dropped]

end Source

/-- An error of an input is at the place after whole lines and the `head` of a line, with `after`
behind it, of which `tail` ends the line. -/
structure ParseError.Points (e : ParseError) (input : String) (earlier head after tail : List Char) : Prop where
  source : e.source = input
  text : input.toList = earlier ++ head ++ after
  offset : Text.byteSize (earlier ++ head) = e.offset
  within : e.offset ≤ Text.byteSize input.toList
  token : e.token.toList <+: after
  position : e.position = Position.ofOffset input e.offset
  lines : Source.Lines earlier
  plain : '\n' ∉ head
  line : e.line = earlier.count '\n' + 1
  column : e.column = head.length + 1
  /-- The line as it is shown, which may lack a carriage return at its end. -/
  shown : Source.line? input e.line = some (String.ofList (head ++ tail))
  tail : after.takeWhile (· ≠ '\n') = tail ∨ after.takeWhile (· ≠ '\n') = tail ++ ['\r']
  /-- The lines shown, and the caret after as many blanks as there are characters in `head`. -/
  detailed : ∃ rows : List (Nat × String),
    rows.map Prod.fst = List.range' (max 1 (e.line - 2)) (e.line + 1 - max 1 (e.line - 2)) ∧
    (∀ row ∈ rows, Source.line? input row.1 = some row.2) ∧
    e.detailed = "error: " ++ e.message ++ "\n --> line " ++ toString e.line ++ ", column " ++ toString e.column ++
      "\n" ++ String.join (rows.map fun row => (if row.1 = e.line then ">>" else "  ") ++ " " ++
        Text.padLeft 4 (toString row.1) ++ " | " ++ row.2 ++ "\n") ++
      "        | " ++ String.ofList (head.map fun c => if c = '\t' then '\t' else ' ') ++ "^\n"

namespace ParseError

theorem shownLines_eq (e : ParseError) :
    e.shownLines = List.range' (max 1 (e.line - 2)) (e.line + 1 - max 1 (e.line - 2)) := by
  unfold shownLines
  rw [contextLines,Nat.max_comm,List.range'_eq_map_range]

/-- The lines shown are lines of the source. -/
theorem line?_of_shown {e : ParseError} (last : e.line ≤ e.source.toList.count '\n' + 1)
    (member : n ∈ e.shownLines) : Source.line? e.source n = some ((Source.line? e.source n).getD "") := by
  rw [shownLines_eq,List.mem_range'_1] at member
  obtain ⟨text,found⟩ := Source.exists_line? e.source n (by omega) (by omega)
  rw [found]
  rfl

/-- An error made at a place points at it. -/
theorem ofOffset_points {input token : String} {before after : List Char}
    (place : Source.Place input.toList before after token) (kind : Kind) (message : String) : ∃ earlier head tail,
      (ofOffset kind message input (Text.byteSize before) token).Points input earlier head after tail := by
  obtain ⟨earlier,head,tail,rfl,whole,plain,found,rest⟩ := place.line
  have located := Source.ofOffset_eq place.text whole plain
  generalize made : ofOffset kind message input (Text.byteSize (earlier ++ head)) token = e
  have source : e.source = input := by rw [← made]; rfl
  have line : e.line = earlier.count '\n' + 1 := by rw [← made,ofOffset,located]
  have column : e.column = head.length + 1 := by rw [← made,ofOffset,located]
  have shown : Source.line? input e.line = some (String.ofList (head ++ tail)) := by rw [line,found]
  have last : e.line ≤ e.source.toList.count '\n' + 1 := by
    rw [line,source,place.text,List.append_assoc,List.count_append]
    omega
  have padding : e.caretPadding = String.ofList (head.map fun c => if c = '\t' then '\t' else ' ') := by
    rw [caretPadding,source,shown,Option.getD_some,String.toList_ofList,column,Nat.add_sub_cancel,List.take_left]
  refine ⟨earlier,head,tail,source,place.text,?_,?_,?_,?_,whole,plain,line,column,shown,rest,
    e.shownLines.map fun n => (n,(Source.line? e.source n).getD ""),?_,?_,?_⟩
  · rw [← made]
    rfl
  · rw [← made,place.text,Text.byteSize_append (earlier ++ head)]
    exact Nat.le_add_right _ _
  · rw [← made]
    exact place.token
  · rw [← made]
    rfl
  · rw [List.map_map,← shownLines_eq]
    exact List.map_id _
  · intro row member
    obtain ⟨n,listed,rfl⟩ := List.mem_map.mp member
    rw [← source]
    exact line?_of_shown last listed
  · rw [List.map_map,← padding]
    rfl

end ParseError

namespace Lexeme

/-- The error of an input at one of its tokens, or at the end. -/
theorem errorAt_points {input : String} {lexemes : List Lexeme} {tokens : List Token}
    (proper : ∀ l ∈ lexemes, Proper tokens input l)
    (pos : Nat) (kind : ParseError.Kind) (message : String) : ∃ earlier head after tail,
      (errorAt lexemes.toArray input pos kind message).Points input earlier head after tail := by
  unfold errorAt offset textAt
  rw [List.getElem?_toArray]
  cases found : lexemes[pos]? with
  | none =>
    obtain ⟨after,place⟩ := Source.Place.trimEnd input.toList
    obtain ⟨earlier,head,tail,points⟩ := ParseError.ofOffset_points place kind message
    exact ⟨earlier,head,after,tail,points⟩
  | some l =>
    have known := proper l (List.mem_of_getElem? found)
    obtain ⟨before,after,place,size⟩ := Source.Place.ofBetween known.text known.head
    obtain ⟨earlier,head,tail,points⟩ := ParseError.ofOffset_points place kind message
    rw [size] at points
    exact ⟨earlier,head,after,tail,points⟩

theorem unmatched_points {input : String} {offset : Nat} (solid : Solid input c offset) :
    ∃ earlier head after tail, (unmatched input c offset).Points input earlier head after tail := by
  obtain ⟨stands,other⟩ := solid
  have stands' : Text.Between input.toList offset (offset + c.utf8Size) c.toString.toList := by simpa using stands
  obtain ⟨before,after,place,rfl⟩ := Source.Place.ofBetween stands' ⟨c,[],by simp,other⟩
  obtain ⟨earlier,head,tail,points⟩ := ParseError.ofOffset_points place .tokenize
    ("unexpected character " ++ Text.Quoted.char c)
  exact ⟨earlier,head,after,tail,points⟩

theorem Segments.proper {start stop : Nat} (segments : Segments tokens input start lexemes stop) :
    ∀ l ∈ lexemes, Proper tokens input l := by
  induction lexemes generalizing start with
  | nil => simp
  | cons first rest ih =>
    obtain ⟨_,proper,more⟩ := segments
    exact List.forall_mem_cons.mpr ⟨proper,ih more⟩

end Lexeme

section Errors

variable (lexemes : Array Lexeme) (input : String)

theorem Furthest.error_eq (f : Furthest) (start : String) :
    ∃ pos kind message, f.error lexemes input start = Lexeme.errorAt lexemes input pos kind message := by
  have expected (pos : Nat) : ∃ pos' kind message,
      f.expectedError lexemes input start pos = Lexeme.errorAt lexemes input pos' kind message := by
    unfold expectedError
    dsimp only
    split <;> exact ⟨_,_,_,rfl⟩
  unfold error
  split
  · exact ⟨_,_,_,rfl⟩
  · split
    · exact ⟨_,_,_,rfl⟩
    · exact expected _
  · exact expected _
  · exact ⟨_,_,_,rfl⟩

theorem Furthest.trailingError_eq (f : Furthest) (start : String) (stop : Nat) :
    ∃ pos kind message, f.trailingError lexemes input start stop = Lexeme.errorAt lexemes input pos kind message := by
  unfold trailingError
  split
  · exact f.error_eq lexemes input start
  · exact ⟨_,_,_,rfl⟩

theorem Match.Abort.error_eq (g : Grammar) (limit : Nat) (a : Match.Abort) :
    ∃ pos kind message, a.error g lexemes input limit = Lexeme.errorAt lexemes input pos kind message := by
  cases a <;> exact ⟨_,_,_,rfl⟩

/-- An error of matching is that of a missing start rule or of a parse that was given up, or else the start rule
failed or did not match all of the input. -/
theorem Match.parseLexemes_error_of {t : Match.Task} {P : ParseError → Prop}
    (missing : ∀ message, P (.ofOffset .missingStartRule message input 0 ""))
    (aborted : ∀ a : Match.Abort, P (a.error t.grammar t.lexemes input limit))
    (failed : ∀ (f : Furthest) start, P (f.error t.lexemes input start))
    (trailing : ∀ (f : Furthest) start stop, P (f.trailingError t.lexemes input start stop))
    (result : (parseLexemes t input context limit).result = .error e) : P e := by
  cases named : t.grammar.startRule? with
  | none =>
    simp only [parseLexemes,named,Except.error.injEq] at result
    exact result ▸ missing _
  | some start =>
    cases resolved : t.grammar.resolve start with
    | none =>
      simp only [parseLexemes,named,resolved,Except.error.injEq] at result
      exact result ▸ missing _
    | some symbol =>
      cases symbol with
      | token _ =>
        simp only [parseLexemes,named,resolved,Except.error.injEq] at result
        exact result ▸ missing _
      | rule i =>
        cases ran : matchRule t limit i 0 { context } with
        | mk outcome u =>
          rw [parseLexemes_result t named resolved ran input] at result
          cases outcome with
          | error a =>
            obtain rfl := Except.error.inj result
            exact aborted a
          | ok outcome =>
            cases outcome with
            | none =>
              obtain rfl := Except.error.inj result
              exact failed _ start
            | some m =>
              simp only [answer] at result
              split at result
              · cases result
              · obtain rfl := Except.error.inj result
                exact trailing _ start m.stop

/-- An error of matching is that of a missing start rule, or else at a token or the end. -/
theorem Match.parseLexemes_error_cases {t : Match.Task}
    (failed : (parseLexemes t input context limit).result = .error e) :
    (∃ kind message, e = .ofOffset kind message input 0 "") ∨
      ∃ pos kind message, e = Lexeme.errorAt t.lexemes input pos kind message := by
  let P (e : ParseError) := (∃ kind message, e = .ofOffset kind message input 0 "") ∨
    ∃ pos kind message, e = Lexeme.errorAt t.lexemes input pos kind message
  have missing (message : String) : P (.ofOffset .missingStartRule message input 0 "") := .inl ⟨_,_,rfl⟩
  exact parseLexemes_error_of input missing (fun a => .inr (a.error_eq t.lexemes input t.grammar limit))
    (fun f start => .inr (f.error_eq t.lexemes input start))
    (fun f start stop => .inr (f.trailingError_eq t.lexemes input start stop)) failed

end Errors

namespace Grammar

/-- Whatever a parse fails with, the error points at a place of the input. -/
theorem parseWith_error_points (g : Grammar) (input : String) (context : Context) (functions : Functions)
    (config : Config) (e : ParseError) (failed : (g.parseWith input context functions config).result = .error e) :
    ∃ earlier head after tail, e.Points input earlier head after tail := by
  rcases tokenize_cases g input with ⟨lexemes,tokenized,whole⟩ | ⟨lexemes,c,offset,untokenized,_,stuck⟩
  · rw [parseWith_of_ok context functions config tokenized] at failed
    rcases Match.parseLexemes_error_cases input failed with ⟨kind,message,rfl⟩ | ⟨pos,kind,message,rfl⟩
    · obtain ⟨earlier,head,tail,points⟩ := ParseError.ofOffset_points (.start input.toList) kind message
      exact ⟨earlier,head,input.toList,tail,points⟩
    · exact Lexeme.errorAt_points whole.proper pos kind message
  · rw [parseWith_of_error context functions config untokenized] at failed
    obtain rfl := Except.error.inj failed
    exact Lexeme.unmatched_points stuck.solid

theorem parseWith_error_points_bracketed :
    (bracketed.parseWith "(\r\n\té" {} {} {}).result = .error (Lexeme.unmatched "(\r\n\té" 'é' 4) ∧
    ∃ earlier head after tail, (Lexeme.unmatched "(\r\n\té" 'é' 4).Points "(\r\n\té" earlier head after tail := by
  have scanned : Lexeme.scan bracketed.tokens "(\r\n\té" = ⟨[⟨"OPEN","(",0,1⟩],some ('é',4)⟩ := by decide +kernel
  have untokenized : bracketed.tokenize "(\r\n\té" = .error (Lexeme.unmatched "(\r\n\té" 'é' 4) := by
    rw [tokenize,scanned]
    rfl
  have failed : (bracketed.parseWith "(\r\n\té" {} {} {}).result = .error (Lexeme.unmatched "(\r\n\té" 'é' 4) := by
    rw [parseWith_of_error {} {} {} untokenized]
  exact ⟨failed,parseWith_error_points bracketed _ {} {} {} _ failed⟩

end Grammar

end Packrat
