import Packrat.ParseError
import Packrat.Proofs.Offset

/-! Lines and columns of byte offsets, beside the lines that the text is cut into at line feeds. An
offset at which the text can be cut in two is on the line that the cut goes through, as many
characters in as stand on that line before the cut. -/
namespace Packrat

namespace Position

def past (p : Position) (text : List Char) : Position := text.foldl after p

@[simp] theorem past_cons (p : Position) (c : Char) (text : List Char) :
    p.past (c :: text) = (p.after c).past text := rfl

theorem past_append (p : Position) (a b : List Char) : p.past (a ++ b) = (p.past a).past b := List.foldl_append

@[simp] theorem advance_nil (p : Position) (bytes : Nat) : p.advance [] bytes = p := by cases bytes <;> rfl

/-- Bytes are counted on from a text that was passed whole. -/
theorem advance_past (p : Position) (before rest : List Char) (bytes : Nat) :
    p.advance (before ++ rest) (Text.byteSize before + bytes) = (p.past before).advance rest bytes := by
  induction before generalizing p with
  | nil => rw [Text.byteSize_nil,Nat.zero_add]; rfl
  | cons c before ih =>
    have pos := c.utf8Size_pos
    obtain ⟨n,eq⟩ := Nat.exists_eq_succ_of_ne_zero (by omega : c.utf8Size + (Text.byteSize before + bytes) ≠ 0)
    rw [Text.byteSize_cons,Nat.add_assoc,eq,List.cons_append,advance,past_cons,← Nat.succ_eq_add_one,← eq,
      Nat.add_sub_cancel_left]
    exact ih _

/-- An offset at which the text can be cut is the position past what stands before the cut. -/
theorem advance_append (p : Position) (before rest : List Char) :
    p.advance (before ++ rest) (Text.byteSize before) = p.past before := by
  rw [← Nat.add_zero (Text.byteSize before),advance_past]
  cases rest <;> rfl

theorem past_line (p : Position) (text : List Char) : (p.past text).line = p.line + text.count '\n' := by
  induction text generalizing p with
  | nil => rfl
  | cons c text ih =>
    rw [past_cons,ih]
    by_cases feed : c = '\n'
    · simp [after,feed,Nat.add_assoc,Nat.add_comm 1]
    · simp [after,feed]

theorem past_of_plain (p : Position) {text : List Char} (plain : '\n' ∉ text) :
    p.past text = ⟨p.line,p.column + text.length⟩ := by
  induction text generalizing p with
  | nil => rfl
  | cons c text ih =>
    rw [List.mem_cons,not_or] at plain
    have same : p.after c = ⟨p.line,p.column + 1⟩ := if_neg fun feed => plain.1 feed.symm
    rw [past_cons,ih _ plain.2,same,List.length_cons,Nat.add_comm text.length,← Nat.add_assoc]

end Position

namespace Source

/-- A text that stops where a line begins: it is empty or ends in a line feed. -/
def Lines (text : List Char) : Prop := ∀ c ∈ text.getLast?, c = '\n'

theorem Lines.past_column (whole : Lines text) : (Position.start.past text).column = 1 := by
  rcases List.eq_nil_or_concat text with rfl | ⟨front,last,rfl⟩
  · rfl
  · obtain rfl : last = '\n' := whole last (by simp)
    rw [List.concat_eq_append,Position.past_append]
    rfl

/-- A text is made of whole lines and the beginning of one more. -/
theorem exists_lines (text : List Char) : ∃ earlier head, text = earlier ++ head ∧ Lines earlier ∧ '\n' ∉ head := by
  induction text with
  | nil => exact ⟨[],[],rfl,by simp [Lines],by simp⟩
  | cons c text ih =>
    obtain ⟨earlier,head,rfl,whole,plain⟩ := ih
    cases earlier with
    | cons d earlier => exact ⟨c :: d :: earlier,head,rfl,by simpa [Lines] using whole,plain⟩
    | nil =>
      by_cases feed : c = '\n'
      · exact ⟨[c],head,rfl,by simpa [Lines] using feed,plain⟩
      · exact ⟨[],c :: head,rfl,by simp [Lines],by simpa [plain] using Ne.symm feed⟩

theorem ofOffset_eq {source : String} {earlier head rest : List Char} (text : source.toList = earlier ++ head ++ rest)
    (whole : Lines earlier) (plain : '\n' ∉ head) :
    Position.ofOffset source (Text.byteSize (earlier ++ head)) = ⟨earlier.count '\n' + 1,head.length + 1⟩ := by
  unfold Position.ofOffset
  rw [text,Position.advance_append,Position.past_append,Position.past_of_plain _ plain,Position.past_line,
    whole.past_column,Nat.add_comm,Nat.add_comm 1]
  rfl

@[simp] theorem pieces_nil : pieces [] = [[]] := rfl

theorem pieces_feed (text : List Char) : pieces ('\n' :: text) = [] :: pieces text := rfl

theorem pieces_ne_nil (text : List Char) : pieces text ≠ [] := by
  cases text with
  | nil => simp
  | cons c text =>
    rw [pieces]
    split
    · simp
    · split <;> simp

theorem pieces_cons {c : Char} (other : c ≠ '\n') (text : List Char) :
    ∃ piece more, pieces text = piece :: more ∧ pieces (c :: text) = (c :: piece) :: more := by
  obtain ⟨piece,more,eq⟩ := List.exists_cons_of_ne_nil (pieces_ne_nil text)
  exact ⟨piece,more,eq,by rw [pieces,if_neg other,eq]⟩

/-- There is one piece more than there are line feeds. -/
theorem length_pieces (text : List Char) : (pieces text).length = text.count '\n' + 1 := by
  induction text with
  | nil => rfl
  | cons c text ih =>
    by_cases feed : c = '\n'
    · subst feed
      rw [pieces_feed,List.length_cons,ih,List.count_cons_self]
    · obtain ⟨piece,more,eq,eq'⟩ := pieces_cons feed text
      rw [eq',List.length_cons,← List.length_cons,← eq,ih,List.count_cons_of_ne feed]

theorem pieces_getElem?_zero (text : List Char) : (pieces text)[0]? = some (text.takeWhile (· ≠ '\n')) := by
  induction text with
  | nil => rfl
  | cons c text ih =>
    by_cases feed : c = '\n'
    · subst feed
      rfl
    · obtain ⟨piece,more,eq,eq'⟩ := pieces_cons feed text
      rw [eq] at ih
      obtain rfl := Option.some.inj ih
      rw [eq',List.takeWhile_cons_of_pos (by simpa using feed)]
      rfl

theorem Lines.tail (whole : Lines (c :: text)) : Lines text := fun d last => whole d (by
  cases text with
  | nil => cases last
  | cons e text => simpa using last)

/-- Whole lines are pieces of their own, and the pieces of the rest follow. -/
theorem pieces_append {earlier : List Char} (whole : Lines earlier) (rest : List Char) :
    ∃ lines, pieces (earlier ++ rest) = lines ++ pieces rest ∧ lines.flatMap (· ++ ['\n']) = earlier := by
  induction earlier with
  | nil => exact ⟨[],rfl,rfl⟩
  | cons c earlier ih =>
    obtain ⟨lines,eq,joined⟩ := ih whole.tail
    by_cases feed : c = '\n'
    · subst feed
      exact ⟨[] :: lines,by rw [List.cons_append,pieces_feed,eq]; rfl,by rw [List.flatMap_cons,joined]; rfl⟩
    · -- The line feed that ends these lines is still to come.
      cases lines with
      | nil =>
        obtain rfl : [] = earlier := joined
        exact absurd (whole c rfl) feed
      | cons line lines =>
        obtain ⟨piece,more,eq',grown⟩ := pieces_cons feed (earlier ++ rest)
        obtain ⟨rfl,rfl⟩ := List.cons_eq_cons.mp (eq'.symm.trans eq)
        refine ⟨(c :: piece) :: lines,by rw [List.cons_append,grown]; rfl,?_⟩
        rw [List.flatMap_cons] at joined ⊢
        rw [← joined]
        rfl

/-- There are as many whole lines as line feeds. -/
theorem length_of_pieces_append {earlier rest : List Char} (eq : pieces (earlier ++ rest) = lines ++ pieces rest) :
    lines.length = earlier.count '\n' := by
  have total := congrArg List.length eq
  rw [List.length_append,length_pieces,length_pieces,List.count_append] at total
  omega

/-- The piece that follows whole lines. -/
theorem pieces_getElem?_count {earlier : List Char} (whole : Lines earlier) (rest : List Char) :
    (pieces (earlier ++ rest))[earlier.count '\n']? = some (rest.takeWhile (· ≠ '\n')) := by
  obtain ⟨lines,eq,_⟩ := pieces_append whole rest
  rw [← length_of_pieces_append eq,eq,List.getElem?_append_right (Nat.le_refl _),Nat.sub_self,pieces_getElem?_zero]

/-- Every line up to that of a cut is there. -/
theorem exists_line? (source : String) (line : Nat) (first : 1 ≤ line) (last : line ≤ source.toList.count '\n' + 1) :
    ∃ text, line? source line = some text := by
  obtain ⟨n,rfl⟩ := Nat.exists_eq_succ_of_ne_zero (Nat.ne_of_gt first)
  have within : n < (pieces source.toList).length := by
    rw [length_pieces]
    omega
  exact ⟨_,by rw [line?,List.getElem?_eq_getElem within]; rfl⟩

/-- A carriage return is dropped from the end of a line only. -/
theorem dropReturn_append (head rest : List Char) (apart : rest ≠ [] ∨ head.getLast? ≠ some '\r') :
    ∃ tail, dropReturn (head ++ rest) = head ++ tail ∧ (rest = tail ∨ rest = tail ++ ['\r']) := by
  unfold dropReturn
  split
  · rename_i last
    rcases List.eq_nil_or_concat rest with rfl | ⟨front,last,rfl⟩
    · rw [List.append_nil] at last
      exact absurd last (apart.resolve_left fun nonempty => nonempty rfl)
    · rw [List.concat_eq_append,← List.append_assoc,List.getLast?_concat] at last
      obtain rfl := Option.some.inj last
      refine ⟨front,?_,.inr (List.concat_eq_append ..)⟩
      rw [List.concat_eq_append,← List.append_assoc,List.dropLast_concat]
  · exact ⟨rest,rfl,.inl rfl⟩

end Source

end Packrat
