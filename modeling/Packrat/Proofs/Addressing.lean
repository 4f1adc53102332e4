import Packrat.Proofs.Location

/-! Line and column as an address. Between two characters they tell the offset: the lines before, their
line feeds, and the characters before it on its own line take as many bytes. Inside a character they are
those of the next one. -/
namespace Packrat

namespace Position

def Precedes (p q : Position) : Prop := p.line < q.line ∨ p.line = q.line ∧ p.column < q.column

theorem Precedes.trans (first : Precedes p q) (second : Precedes q r) : Precedes p r := by
  unfold Precedes at *
  omega

theorem Precedes.irrefl (p : Position) : ¬p.Precedes p := by
  unfold Precedes
  omega

theorem precedes_after (p : Position) (c : Char) : p.Precedes (p.after c) := by
  unfold after
  split
  · exact .inl (Nat.lt_succ_self _)
  · exact .inr ⟨rfl,Nat.lt_succ_self _⟩

/-- Passing characters leads on. -/
theorem precedes_past (p : Position) {text : List Char} (nonempty : text ≠ []) : p.Precedes (p.past text) := by
  induction text generalizing p with
  | nil => exact absurd rfl nonempty
  | cons c text ih =>
    rw [past_cons]
    cases text with
    | nil => exact precedes_after p c
    | cons d text => exact (precedes_after p c).trans (ih _ (List.cons_ne_nil d text))

/-- A character is passed whole as soon as one of its bytes is. -/
theorem advance_within (p : Position) (c : Char) (rest : List Char) (positive : 0 < bytes) (within : bytes ≤ c.utf8Size) :
    p.advance (c :: rest) bytes = p.after c := by
  obtain ⟨bytes,rfl⟩ := Nat.exists_eq_succ_of_ne_zero (Nat.ne_of_gt positive)
  rw [Nat.succ_eq_add_one,advance,Nat.sub_eq_zero_of_le within]
  cases rest <;> rfl

end Position

namespace Text

/-- An offset before the end of a text is at or inside one of its characters. -/
theorem exists_character {text : List Char} (inside : offset < byteSize text) : ∃ before c after,
    text = before ++ c :: after ∧ byteSize before ≤ offset ∧ offset < byteSize before + c.utf8Size := by
  induction text generalizing offset with
  | nil => exact absurd inside (Nat.not_lt_zero _)
  | cons c text ih =>
    rw [byteSize_cons] at inside
    by_cases first : offset < c.utf8Size
    · exact ⟨[],c,text,rfl,Nat.zero_le _,by simpa using first⟩
    · have later : offset - c.utf8Size < byteSize text := by omega
      obtain ⟨before,d,after,rfl,begun,upTo⟩ := ih later
      refine ⟨c :: before,d,after,rfl,?_,?_⟩ <;> rw [byteSize_cons] <;> omega

/-- Each of the lines takes a byte more for its line feed. -/
theorem byteSize_lines (lines : List (List Char)) :
    byteSize (lines.flatMap (· ++ ['\n'])) = byteSize lines.flatten + lines.length := by
  induction lines with
  | nil => rfl
  | cons line lines ih =>
    have feed : byteSize ['\n'] = 1 := by decide
    rw [List.flatMap_cons,byteSize_append,byteSize_append,feed,ih,List.flatten_cons,byteSize_append,List.length_cons]
    omega

end Text

namespace Source

/-- The lines of a text are what stands between its line feeds. -/
theorem pieces_eq_splitOn (text : List Char) : pieces text = text.splitOn '\n' := by
  rw [List.splitOn]
  induction text with
  | nil => rfl
  | cons c text ih =>
    rw [List.splitOnP_cons_eq_if_modifyHead,← ih]
    by_cases feed : c = '\n'
    · simp [feed,pieces_feed]
    · obtain ⟨piece,more,eq,grown⟩ := pieces_cons feed text
      simp [feed,grown,eq]

/-- The line that a cut goes through. -/
theorem splitOn_getElem?_cut {earlier head after text : List Char} (cut : text = earlier ++ (head ++ after))
    (whole : Lines earlier) (plain : '\n' ∉ head) :
    (text.splitOn '\n')[earlier.count '\n']? = some (head ++ after.takeWhile (· ≠ '\n')) := by
  have on : ∀ c ∈ head, decide (c ≠ '\n') = true := fun c member => by
    simpa using fun feed : c = '\n' => plain (feed ▸ member)
  rw [← pieces_eq_splitOn,cut,pieces_getElem?_count whole,List.takeWhile_append_of_pos on]

/-- The lines before it, with their line feeds. -/
theorem byteSize_above_cut {earlier rest text : List Char} (cut : text = earlier ++ rest)
    (whole : Lines earlier) :
    Text.byteSize ((text.splitOn '\n').take (earlier.count '\n')).flatten + earlier.count '\n' =
      Text.byteSize earlier := by
  obtain ⟨above,eq,joined⟩ := pieces_append whole rest
  have count := length_of_pieces_append eq
  rw [← pieces_eq_splitOn,cut,eq,← count,List.take_left,← Text.byteSize_lines,joined]

/-- The line without a carriage return that ends it. -/
theorem dropReturn_spec (line : List Char) :
    line = dropReturn line ++ ['\r'] ∨ line = dropReturn line ∧ line.getLast? ≠ some '\r' := by
  unfold dropReturn
  split
  · rename_i last
    obtain ⟨front,rfl⟩ := List.getLast?_eq_some_iff.mp last
    exact .inl (by rw [List.dropLast_concat])
  · rename_i other
    exact .inr ⟨rfl,other⟩

/-- An offset between two characters, at the start of the text or at its end. -/
def Boundary (source : String) (offset : Nat) : Prop :=
  ∃ before after, source.toList = before ++ after ∧ Text.byteSize before = offset

theorem ofOffset_past {source : String} {before after : List Char} (text : source.toList = before ++ after) :
    Position.ofOffset source (Text.byteSize before) = Position.start.past before := by
  rw [Position.ofOffset,text,Position.advance_append]

theorem precedes_of_lt {source : String} (first : Boundary source o) (second : Boundary source o') (lt : o < o') :
    (Position.ofOffset source o).Precedes (Position.ofOffset source o') := by
  obtain ⟨before,after,text,rfl⟩ := first
  obtain ⟨before',after',text',rfl⟩ := second
  rw [ofOffset_past text,ofOffset_past text']
  rcases List.append_eq_append_iff.mp (text.symm.trans text') with ⟨between,rfl,_⟩ | ⟨between,rfl,_⟩
  · rw [Position.past_append]
    refine Position.precedes_past _ fun empty => ?_
    simp [empty] at lt
  · rw [Text.byteSize_append] at lt
    omega

theorem lt_iff_precedes {source : String} (first : Boundary source o) (second : Boundary source o') :
    o < o' ↔ (Position.ofOffset source o).Precedes (Position.ofOffset source o') := by
  refine ⟨precedes_of_lt first second,fun precedes => ?_⟩
  rcases Nat.lt_trichotomy o o' with lt | rfl | gt
  · exact lt
  · exact absurd precedes (Position.Precedes.irrefl _)
  · exact absurd (precedes.trans (precedes_of_lt second first gt)) (Position.Precedes.irrefl _)

/-- Two places have different lines or columns. -/
theorem eq_of_ofOffset_eq {source : String} (first : Boundary source o) (second : Boundary source o')
    (same : Position.ofOffset source o = Position.ofOffset source o') : o = o' := by
  rcases Nat.lt_trichotomy o o' with lt | eq | gt
  · exact absurd (same ▸ precedes_of_lt first second lt) (Position.Precedes.irrefl _)
  · exact eq
  · exact absurd (same ▸ precedes_of_lt second first gt) (Position.Precedes.irrefl _)

end Source

namespace Position

open Source

/-- An offset inside a character, but not at its start, has the line and column of what follows the character:
it is rounded up. Only at its start are they the character's own. Past the end of the text they are those of
the end. A line feed is on the line that it ends. -/
theorem ofOffset_rounds_up (source : String) (offset : Nat) :
    (Text.byteSize source.toList ≤ offset ∧
      ofOffset source offset = ofOffset source (Text.byteSize source.toList)) ∨
    ∃ before c after, source.toList = before ++ c :: after ∧
      Text.byteSize before ≤ offset ∧ offset < Text.byteSize before + c.utf8Size ∧
      (ofOffset source offset = ofOffset source (Text.byteSize before) ↔ offset = Text.byteSize before) ∧
      (Text.byteSize before < offset →
        ofOffset source offset = ofOffset source (Text.byteSize (before ++ [c]))) ∧
      (c = '\n' → (ofOffset source offset).line = before.count '\n' + 1) := by
  by_cases inside : offset < Text.byteSize source.toList
  · obtain ⟨before,c,after,text,begun,upTo⟩ := Text.exists_character inside
    have first := ofOffset_past text
    have next : ofOffset source (Text.byteSize (before ++ [c])) = (start.past before).after c := by
      rw [ofOffset_past (text.trans (List.append_cons before c after)),past_append]
      rfl
    have rounded (behind : Text.byteSize before < offset) :
        ofOffset source offset = ofOffset source (Text.byteSize (before ++ [c])) := by
      obtain ⟨bytes,rfl⟩ := Nat.exists_eq_add_of_lt behind
      rw [next,ofOffset,text,Nat.add_assoc,advance_past]
      exact advance_within _ c after (Nat.succ_pos _) (by omega)
    refine .inr ⟨before,c,after,text,begun,upTo,⟨fun same => ?_,fun start => by rw [start]⟩,rounded,?_⟩
    · rcases Nat.eq_or_lt_of_le begun with here | behind
      · exact here.symm
      · rw [rounded behind,next,first] at same
        exact absurd (same ▸ precedes_after (start.past before) c) (Precedes.irrefl _)
    · -- A line feed is a single byte.
      rintro rfl
      have size : '\n'.utf8Size = 1 := by decide
      obtain rfl : offset = Text.byteSize before := by omega
      rw [first,past_line]
      exact Nat.add_comm _ _
  · refine .inl ⟨Nat.le_of_not_lt inside,?_⟩
    obtain ⟨more,rfl⟩ := Nat.exists_eq_add_of_le (Nat.le_of_not_lt inside)
    have past (bytes : Nat) : ofOffset source (Text.byteSize source.toList + bytes) = start.past source.toList := by
      have counted := advance_past start source.toList [] bytes
      rwa [List.append_nil,advance_nil] at counted
    rw [past,← past 0,Nat.add_zero]

/-- The second byte of a character does not have the line and column of the character. -/
theorem ofOffset_inside_character :
    "é".toList = [] ++ 'é' :: [] ∧ Text.byteSize [] ≤ 1 ∧ 1 < Text.byteSize [] + 'é'.utf8Size ∧
    ofOffset "é" 1 = ⟨1,2⟩ ∧ ofOffset "é" (Text.byteSize []) = ⟨1,1⟩ := by decide

/-- Line and column are an exact address. Later offsets have later lines and columns, so none has those of
another. The line is the number of line feeds before an offset and one more, and there is such a line; the lines
before it, their line feeds, and the characters before the column take as many bytes as the offset says. -/
theorem ofOffset_address (source : String) :
    (∀ o o', Boundary source o → Boundary source o' →
      (o < o' ↔ (ofOffset source o).Precedes (ofOffset source o')) ∧
      (ofOffset source o = ofOffset source o' → o = o')) ∧
    ∀ before after, source.toList = before ++ after →
      let lines := source.toList.splitOn '\n'
      let p := ofOffset source (Text.byteSize before)
      p.line = 1 + before.count '\n' ∧ 1 ≤ p.column ∧
      ∃ line shown, lines[p.line - 1]? = some line ∧ p.column - 1 ≤ line.length ∧
        Text.byteSize (lines.take (p.line - 1)).flatten + (p.line - 1) + Text.byteSize (line.take (p.column - 1)) =
          Text.byteSize before ∧
        line? source p.line = some (String.ofList shown) ∧
        (line = shown ++ ['\r'] ∨ line = shown ∧ line.getLast? ≠ some '\r') := by
  refine ⟨fun o o' first second => ⟨lt_iff_precedes first second,eq_of_ofOffset_eq first second⟩,?_⟩
  intro before after text lines
  obtain ⟨earlier,head,rfl,whole,plain⟩ := exists_lines before
  rw [ofOffset_eq text whole plain]
  rw [List.append_assoc] at text
  have line := splitOn_getElem?_cut text whole plain
  have above := byteSize_above_cut text whole
  have shown : line? source (earlier.count '\n' + 1) =
      some (String.ofList (dropReturn (head ++ after.takeWhile (· ≠ '\n')))) := by
    rw [line?,pieces_eq_splitOn,line,Option.map_some]
  refine ⟨?_,Nat.le_add_left _ _,_,_,line,?_,?_,shown,dropReturn_spec _⟩
  · rw [List.count_append,List.count_eq_zero_of_not_mem plain,Nat.add_zero,Nat.add_comm 1]
  · rw [List.length_append]
    exact Nat.le_add_right _ _
  · dsimp only
    rw [Nat.add_sub_cancel,Nat.add_sub_cancel,List.take_left,above,Text.byteSize_append]

theorem ofOffset_address_returning :
    Source.Boundary "a\r\né\n" 3 ∧ Source.Boundary "a\r\né\n" 5 ∧
    "a\r\né\n".toList = "a\r\né".toList ++ ['\n'] ∧ ofOffset "a\r\né\n" 5 = ⟨2,2⟩ ∧ line? "a\r\né\n" 1 = some "a" ∧
    (3 < 5 ↔ (ofOffset "a\r\né\n" 3).Precedes (ofOffset "a\r\né\n" 5)) ∧
    ∃ line shown, ("a\r\né\n".toList.splitOn '\n')[1]? = some line ∧
      line? "a\r\né\n" 2 = some (String.ofList shown) ∧
      (line = shown ++ ['\r'] ∨ line = shown ∧ line.getLast? ≠ some '\r') := by
  have text : "a\r\né\n".toList = "a\r\né".toList ++ ['\n'] := by decide
  have first : Source.Boundary "a\r\né\n" 3 := ⟨"a\r\n".toList,"é\n".toList,by decide,by decide⟩
  have second : Source.Boundary "a\r\né\n" 5 := ⟨"a\r\né".toList,['\n'],text,by decide⟩
  obtain ⟨order,places⟩ := ofOffset_address "a\r\né\n"
  obtain ⟨_,_,line,shown,found,_,_,cut,ended⟩ := places _ _ text
  exact ⟨first,second,text,by decide,by decide,(order 3 5 first second).1,line,shown,found,cut,ended⟩

end Position

end Packrat
