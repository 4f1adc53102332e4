import Packrat.Proofs.Pointing

/-! Where the input ends. Past the last lexeme an error is at the end of the input but for blanks. That is where
the lexeme stops, unless the lexeme itself ends in blanks: what separates lexemes is blank, but not all that is
blank separates them. -/
namespace Packrat

namespace Text

variable {text gap : List Char} {p : Char → Bool}

theorem trimEnd_append (blank : ∀ c ∈ gap, p c = true) : trimEnd (text ++ gap) p = trimEnd text p := by
  unfold trimEnd
  rw [List.reverse_append,List.dropWhile_append_of_pos fun c member => blank c (List.mem_reverse.mp member)]

theorem trimEnd_eq (solid : ∀ c ∈ text.getLast?, p c = false) : trimEnd text p = text := by
  have kept : text.reverse.dropWhile p = text.reverse := by
    rw [← List.head?_reverse] at solid
    cases last : text.reverse with
    | nil => rfl
    | cons c rest =>
      rw [last] at solid
      exact List.dropWhile_cons_of_neg (by simp [solid c rfl])
  rw [trimEnd,kept,List.reverse_reverse]

theorem byteSize_trimEnd_le (text : List Char) (p : Char → Bool) : byteSize (trimEnd text p) ≤ byteSize text := by
  have parts := congrArg byteSize (List.takeWhile_append_dropWhile (p := p) (l := text.reverse))
  rw [byteSize_append,byteSize_reverse] at parts
  rw [trimEnd,byteSize_reverse]
  omega

/-- Trimming takes away a blank at the end. -/
theorem byteSize_trimEnd_lt (last : text.getLast? = some c) (blank : p c = true) :
    byteSize (trimEnd text p) < byteSize text := by
  obtain ⟨init,rfl⟩ := List.getLast?_eq_some_iff.mp last
  have le := byteSize_trimEnd_le init p
  have pos := c.utf8Size_pos
  rw [trimEnd_append (by simpa using blank),byteSize_append,byteSize_cons]
  omega

end Text

namespace Lexeme

variable {tokens : List Token} {input : String} {start stop : Nat} {lexemes : List Lexeme} {l : Lexeme}

theorem isBlank_of_isSeparator (separator : isSeparator c = true) : Text.isBlank c = true := by
  have one : c = ' ' ∨ c = '\t' ∨ c = '\n' ∨ c = '\x0c' ∨ c = '\r' := by simpa [isSeparator,or_assoc] using separator
  rcases one with rfl | rfl | rfl | rfl | rfl <;> decide +kernel

/-- Lexemes stand one after another. -/
theorem Segments.ordered (segments : Segments tokens input start lexemes stop) :
    (∀ l ∈ lexemes, start ≤ l.start) ∧ lexemes.Pairwise fun l l' => l.stop ≤ l'.start := by
  induction lexemes generalizing start with
  | nil => exact ⟨by simp,.nil⟩
  | cons l rest ih =>
    obtain ⟨blank,proper,more⟩ := segments
    obtain ⟨behind,ordered⟩ := ih more
    have first := blank.le
    have lt := proper.lt
    refine ⟨fun l' member => ?_,.cons behind ordered⟩
    rcases List.mem_cons.mp member with rfl | member
    · exact first
    · have := behind l' member
      omega

/-- Nothing but separators stands behind the last lexeme. -/
theorem Segments.last (segments : Segments tokens input start lexemes stop) (last : lexemes.getLast? = some l) :
    Blank input l.stop stop := by
  induction lexemes generalizing start with
  | nil => cases last
  | cons first rest ih =>
    obtain ⟨_,_,more⟩ := segments
    cases rest with
    | nil =>
      obtain rfl := Option.some.inj last
      exact more
    | cons second rest => exact ih more (by simpa using last)

section Whole

variable (whole : Segments tokens input 0 lexemes (Text.byteSize input.toList)) (last : lexemes.getLast? = some l)

include whole last

/-- The input is what stands up to the end of the last lexeme, and blanks. -/
theorem exists_trimmed : ∃ before, Text.byteSize (before ++ l.text.toList) = l.stop ∧
    Text.trimEnd input.toList Text.isBlank = Text.trimEnd (before ++ l.text.toList) Text.isBlank := by
  obtain ⟨gap,behind,separators⟩ := whole.last last
  have proper := whole.proper l (List.mem_of_getLast? last)
  obtain ⟨before,after,eq,size,stop⟩ := proper.text.append behind
  have empty : after = [] := by
    apply Text.byteSize_eq_zero
    have total := congrArg Text.byteSize eq
    rw [Text.byteSize_append,Text.byteSize_append] at total
    omega
  refine ⟨before,?_,?_⟩
  · rw [Text.byteSize_append,size,proper.text.stop_eq]
  · rw [eq,empty,List.append_nil,← List.append_assoc]
    exact Text.trimEnd_append fun c member => isBlank_of_isSeparator (separators c member)

theorem offset_end (past : lexemes.length ≤ pos) (solid : ∀ c ∈ l.text.toList.getLast?, Text.isBlank c = false) :
    offset lexemes.toArray input pos = l.stop := by
  obtain ⟨before,size,trimmed⟩ := exists_trimmed whole last
  obtain ⟨c,rest,text,_⟩ := (whole.proper l (List.mem_of_getLast? last)).head
  rw [offset,List.getElem?_toArray,List.getElem?_eq_none past]
  dsimp only
  rw [trimmed,Text.trimEnd_eq,size]
  rwa [text,List.getLast?_append_cons,← text]

/-- Past a lexeme that ends in a blank an error is inside the lexeme, or before it. -/
theorem offset_end_lt (past : lexemes.length ≤ pos) (ends : l.text.toList.getLast? = some c)
    (blank : Text.isBlank c = true) : offset lexemes.toArray input pos < l.stop := by
  obtain ⟨before,size,trimmed⟩ := exists_trimmed whole last
  rw [offset,List.getElem?_toArray,List.getElem?_eq_none past]
  dsimp only
  rw [trimmed,← size]
  exact Text.byteSize_trimEnd_lt (by rw [List.getLast?_append,ends]; rfl) blank

theorem stop_le_last (member : l' ∈ lexemes) : l'.stop ≤ l.stop := by
  obtain ⟨init,rfl⟩ := List.getLast?_eq_some_iff.mp last
  have lt := (whole.proper l (by simp)).lt
  rcases List.mem_append.mp member with before | same
  · have := (List.pairwise_append.mp whole.ordered.2).2.2 l' before l (by simp)
    omega
  · obtain rfl := List.mem_singleton.mp same
    exact Nat.le_refl _

theorem offset_mono (solid : ∀ c ∈ l.text.toList.getLast?, Text.isBlank c = false) (order : i ≤ j) :
    offset lexemes.toArray input i ≤ offset lexemes.toArray input j := by
  by_cases past : lexemes.length ≤ j
  · rw [offset_end whole last past solid]
    by_cases past' : lexemes.length ≤ i
    · exact Nat.le_of_eq (offset_end whole last past' solid)
    · have known := List.getElem?_eq_getElem (Nat.lt_of_not_le past')
      have member := List.mem_of_getElem? known
      have := (whole.proper _ member).lt
      have := stop_le_last whole last member
      simp only [offset,List.getElem?_toArray,known]
      omega
  · have within : j < lexemes.length := Nat.lt_of_not_le past
    simp only [offset,List.getElem?_toArray,List.getElem?_eq_getElem within,
      List.getElem?_eq_getElem (Nat.lt_of_le_of_lt order within)]
    rcases Nat.lt_or_eq_of_le order with less | rfl
    · have := List.pairwise_iff_getElem.mp whole.ordered.2 i j (by omega) within less
      have := (whole.proper _ (List.getElem_mem (Nat.lt_trans less within))).lt
      omega
    · exact Nat.le_refl _

end Whole

/-- An error is at a lexeme, or past the last one. It tells of the end of the input there only. -/
def Located (lexemes : Array Lexeme) (input : String) (e : ParseError) : Prop :=
  ∃ pos, e.offset = offset lexemes input pos ∧ e.token = textAt lexemes pos ∧
    ∀ token, e.kind = .expectedToken token none → lexemes.size ≤ pos

section Located

variable (lexemes : Array Lexeme) (input : String)

theorem located_errorAt (pos : Nat) (message : String) {kind : ParseError.Kind}
    (other : ∀ token, kind ≠ .expectedToken token none) :
    Located lexemes input (errorAt lexemes input pos kind message) :=
  ⟨pos,rfl,rfl,fun token same => absurd same (other token)⟩

theorem located_error (f : Furthest) (start : String) : Located lexemes input (f.error lexemes input start) := by
  have expected (pos : Nat) : Located lexemes input (f.expectedError lexemes input start pos) := by
    unfold Furthest.expectedError
    dsimp only
    split
    · refine ⟨pos,rfl,rfl,fun token same => ?_⟩
      obtain ⟨-,nothing⟩ := ParseError.Kind.expectedToken.inj same
      exact Array.getElem?_eq_none_iff.mp (Option.map_eq_none_iff.mp nothing)
    · exact located_errorAt lexemes input pos _ nofun
  unfold Furthest.error
  split
  · exact located_errorAt lexemes input _ _ nofun
  · split
    · exact located_errorAt lexemes input _ _ nofun
    · exact expected _
  · exact expected _
  · exact located_errorAt lexemes input _ _ nofun

theorem located_trailingError (f : Furthest) (start : String) (stop : Nat) :
    Located lexemes input (f.trailingError lexemes input start stop) := by
  unfold Furthest.trailingError
  split
  · exact located_error lexemes input f start
  · exact located_errorAt lexemes input stop _ nofun

theorem located_abort (g : Grammar) (limit : Nat) (a : Match.Abort) :
    Located lexemes input (a.error g lexemes input limit) := by
  cases a <;> exact located_errorAt lexemes input _ _ nofun

theorem parseLexemes_located {t : Match.Task} (failed : (Match.parseLexemes t input context limit).result = .error e) :
    e.kind = .missingStartRule ∨ Located t.lexemes input e := by
  let P (e : ParseError) := e.kind = .missingStartRule ∨ Located t.lexemes input e
  have missing (message : String) : P (.ofOffset .missingStartRule message input 0 "") := .inl rfl
  exact Match.parseLexemes_error_of input missing (fun a => .inr (located_abort t.lexemes input t.grammar limit a))
    (fun f start => .inr (located_error t.lexemes input f start))
    (fun f start stop => .inr (located_trailingError t.lexemes input f start stop)) failed

end Located

end Lexeme

namespace Grammar

open Lexeme

variable {g : Grammar} {input : String} {lexemes : List Lexeme}

/-- An error that tells of the end of the input, or is of no lexeme, is past the last lexeme. -/
theorem parseWith_error_offset (tokenized : g.tokenize input = .ok lexemes)
    (failed : (g.parseWith input context functions config).result = .error e)
    (ended : (∃ token, e.kind = .expectedToken token none) ∨ e.token = "" ∧ e.kind ≠ .missingStartRule) :
    ∃ pos, lexemes.length ≤ pos ∧ e.offset = offset lexemes.toArray input pos := by
  rw [parseWith_of_ok context functions config tokenized] at failed
  rcases parseLexemes_located input failed with missing | ⟨pos,place,shown,required⟩
  · rcases ended with ⟨token,kind⟩ | ⟨_,kind⟩
    · cases missing.symm.trans kind
    · exact absurd missing kind
  refine ⟨pos,?_,place⟩
  rcases ended with ⟨token,kind⟩ | ⟨nothing,-⟩
  · simpa using required token kind
  · refine Nat.le_of_not_lt fun within => ?_
    -- No lexeme is empty.
    obtain ⟨c,rest,text,-⟩ := (((tokenize_eq_ok_iff g input lexemes).mp tokenized).proper _ (List.getElem_mem within)).head
    rw [textAt,List.getElem?_toArray,List.getElem?_eq_getElem within,Option.map_some,Option.getD_some] at shown
    rw [← shown,nothing] at text
    cases text

/-- The end of an input is not before the end of its last lexeme exactly if that does not end in a blank. Then it
is where the lexeme stops, later lexemes have later offsets, and no error that tells of the end of the input, or
is of no lexeme, is inside or before one. -/
theorem offset_past_last (g : Grammar) (input : String) (lexemes : List Lexeme) (l : Lexeme)
    (tokenized : g.tokenize input = .ok lexemes) (last : lexemes.getLast? = some l) :
    (l.stop ≤ offset lexemes.toArray input lexemes.length ↔ ∀ c ∈ l.text.toList.getLast?, Text.isBlank c = false) ∧
    ((∀ c ∈ l.text.toList.getLast?, Text.isBlank c = false) →
      offset lexemes.toArray input lexemes.length = l.stop ∧
      (∀ i j, i ≤ j → offset lexemes.toArray input i ≤ offset lexemes.toArray input j) ∧
      ∀ context functions config e, (g.parseWith input context functions config).result = .error e →
        (∃ token, e.kind = .expectedToken token none) ∨ e.token = "" ∧ e.kind ≠ .missingStartRule →
        ∀ l' ∈ lexemes, l'.stop ≤ e.offset) := by
  have whole := (tokenize_eq_ok_iff g input lexemes).mp tokenized
  refine ⟨⟨fun upTo c ends => ?_,fun solid => ?_⟩,fun solid => ⟨?_,fun i j => ?_,?_⟩⟩
  · refine Bool.eq_false_iff.mpr fun blank => ?_
    have := offset_end_lt whole last (Nat.le_refl _) ends blank
    omega
  · exact Nat.le_of_eq (offset_end whole last (Nat.le_refl _) solid).symm
  · exact offset_end whole last (Nat.le_refl _) solid
  · exact offset_mono whole last solid
  · intro context functions config e failed ended l' member
    obtain ⟨pos,past,place⟩ := parseWith_error_offset tokenized failed ended
    rw [place,offset_end whole last past solid]
    exact stop_le_last whole last member

def spaced : Grammar where
  tokens := [⟨"A","a",0,.pattern,none,none,.seq [.anchor .textStart,.text ['a']],none,none⟩,
    ⟨"GAP","\u00a0",0,.pattern,none,none,.seq [.anchor .textStart,.text ['\u00a0']],none,none⟩,
    ⟨"B","b",0,.pattern,none,none,.seq [.anchor .textStart,.text ['b']],none,none⟩]
  rules := [⟨"start",[⟨["A","GAP","GAP","B","A"],"",0,.none⟩]⟩]

theorem offset_past_last_spaced :
    let lexemes := [⟨"A","a",0,1⟩,⟨"GAP","\u00a0",1,3⟩,⟨"GAP","\u00a0",3,5⟩,⟨"B","b",5,6⟩]
    let e : ParseError := ⟨.expectedToken "A" none,"expected token A, got end of input",1,5,6,"","a\u00a0\u00a0b "⟩
    spaced.tokenize "a\u00a0\u00a0b " = .ok lexemes ∧ lexemes.getLast? = some ⟨"B","b",5,6⟩ ∧
    (∀ c ∈ "b".toList.getLast?, Text.isBlank c = false) ∧
    (spaced.parseWith "a\u00a0\u00a0b " {} {} {}).result = .error e ∧
    (∃ token, e.kind = .expectedToken token none) ∧ ∀ l' ∈ lexemes, l'.stop ≤ e.offset := by
  intro lexemes e
  have scanned : scan spaced.tokens "a\u00a0\u00a0b " = ⟨lexemes,none⟩ := by decide +kernel
  have tokenized : spaced.tokenize "a\u00a0\u00a0b " = .ok lexemes := by
    rw [tokenize,scanned]
    rfl
  have solid : ∀ c ∈ "b".toList.getLast?, Text.isBlank c = false := by
    intro c last
    obtain rfl : 'b' = c := Option.some.inj last
    decide +kernel
  have failed : (spaced.parseWith "a\u00a0\u00a0b " {} {} {}).result = .error e := by
    rw [parseWith_of_ok {} {} {} tokenized]
    rfl
  have past := ((offset_past_last spaced _ lexemes ⟨"B","b",5,6⟩ tokenized rfl).2 solid).2.2
  exact ⟨tokenized,rfl,solid,failed,⟨_,rfl⟩,past {} {} {} e failed (.inl ⟨_,rfl⟩)⟩

/-- A no-break space is no separator, and yet the input ends before it. -/
theorem offset_before_last :
    spaced.tokenize "a\u00a0\u00a0" = .ok [⟨"A","a",0,1⟩,⟨"GAP","\u00a0",1,3⟩,⟨"GAP","\u00a0",3,5⟩] ∧
    offset #[⟨"A","a",0,1⟩,⟨"GAP","\u00a0",1,3⟩,⟨"GAP","\u00a0",3,5⟩] "a\u00a0\u00a0" 3 = 1 ∧
    (spaced.parseWith "a\u00a0\u00a0" {} {} {}).result = .error ⟨.expectedToken "B" none,
      "expected token B, got end of input",1,2,1,"","a\u00a0\u00a0"⟩ := by
  have scanned : scan spaced.tokens "a\u00a0\u00a0" =
      ⟨[⟨"A","a",0,1⟩,⟨"GAP","\u00a0",1,3⟩,⟨"GAP","\u00a0",3,5⟩],none⟩ := by decide +kernel
  have tokenized : spaced.tokenize "a\u00a0\u00a0" =
      .ok [⟨"A","a",0,1⟩,⟨"GAP","\u00a0",1,3⟩,⟨"GAP","\u00a0",3,5⟩] := by
    rw [tokenize,scanned]
    rfl
  refine ⟨tokenized,by decide +kernel,?_⟩
  rw [parseWith_of_ok {} {} {} tokenized]
  rfl

end Grammar

end Packrat
