import Packrat.Proofs.Anchoring

/-! Where keywords match. A keyword that is a word is tried where no word character is before it, and must end
at a boundary of words; characters count as parts of words on its two sides by two notions, which differ in
marks, joiners, most connectors and all numbers but digits. -/
namespace Packrat

namespace Pattern

variable {start index mark : Nat} {previous : Option Char}

/-- A search that is bound to the start of the text ends where its thread has matched. -/
theorem scan_matched (p : Pattern) (index start : Nat) (text : List Char) :
    scan p true index { matched := some start } none text = some ⟨start,index⟩ := by
  cases text <;> rfl

theorem scan_over (p : Pattern) (index : Nat) {t : Threads} (empty : t.waiting = []) (unmatched : t.matched = none)
    (text : List Char) : scan p true index t none text = none := by
  cases text with
  | nil => rw [scan,unmatched,Option.map_none,Option.or_none]
  | cons c rest =>
    have advanced : t.advance c rest.head? = {} := by rw [Threads.advance,empty,List.foldr_nil]
    simp [scan,advanced,unmatched]

/-- A thread that waits for a set reads a character of it. -/
theorem scan_set (p : Pattern) (s : Text.CodeSet) (rest : List Pattern) (known : s.contains c = true) (text : List Char) :
    scan p true index (resume ⟨start,previous,some c⟩ [.read (.seq (.set s :: rest)) mark] {}) none (c :: text) =
      scan p true (index + 1) (resume ⟨start,some c,text.head?⟩ [.read (.seq rest) (mark + 1)] {}) none text := by
  have waits : resume ⟨start,previous,some c⟩ [.read (.seq (.set s :: rest)) mark] {} =
      { waiting := [⟨start,s,[.read (.seq rest) (mark + 1)]⟩], marks := 0 ||| 1 <<< mark } := by
    simp [resume,walk,walkAll,Threads.wait,Threads.pass,width]
  have advanced : (resume ⟨start,previous,some c⟩ [.read (.seq (.set s :: rest)) mark] {}).advance c text.head? =
      resume ⟨start,some c,text.head?⟩ [.read (.seq rest) (mark + 1)] {} := by
    rw [waits,Threads.advance,List.foldr_cons,List.foldr_nil,if_pos known]
  rw [scan]
  dsimp only
  rw [advanced,waits]
  split
  · split
    · rename_i ended
      obtain ⟨empty,unmatched⟩ := Bool.and_eq_true_iff.mp ended
      exact (scan_over p _ (List.isEmpty_iff.mp empty) (Option.isNone_iff_eq_none.mp unmatched) text).symm
    · rfl
  · simp_all

/-- A single thread that waits for one letter after the other reads on to what stands behind them. -/
theorem scan_letters (p : Pattern) (reads : Char → Text.CodeSet) (tail : List Pattern) (letters after : List Char)
    (known : ∀ c ∈ letters, (reads c).contains c = true) (index start : Nat) (previous : Option Char) (mark : Nat) :
    ∃ mark', scan p true index
      (resume ⟨start,previous,(letters ++ after).head?⟩ [.read (.seq ((letters.map fun c => .set (reads c)) ++ tail)) mark] {})
      none (letters ++ after) =
    scan p true (index + letters.length)
      (resume ⟨start,letters.getLast?.or previous,after.head?⟩ [.read (.seq tail) mark'] {}) none after := by
  induction letters generalizing index previous mark with
  | nil => exact ⟨mark,by simp⟩
  | cons c letters ih =>
    obtain ⟨mark',more⟩ := ih (fun d member => known d (List.mem_cons_of_mem c member)) (index + 1) (some c) (mark + 1)
    refine ⟨mark',?_⟩
    have last : letters.getLast?.or (some c) = (c :: letters).getLast?.or previous := by
      rw [List.getLast?_cons]
      cases letters.getLast? <;> rfl
    rw [List.cons_append,List.head?_cons,List.map_cons,List.cons_append,scan_set p _ _ (known c List.mem_cons_self),more,
      last,List.length_cons,Nat.add_right_comm,Nat.add_assoc]

/-- After its letters a word is found if a word ends there. -/
theorem find?_keyword (wordy : Token.isWord word = true) (last : word.getLast? = some c) (after : List Char) :
    (Token.keywordPattern word).find? (word ++ after) =
      if Text.isWordPart c = after.head?.any Text.isWordPart then none else some ⟨0,word.length⟩ := by
  obtain ⟨mark,found⟩ := scan_letters (Token.keywordPattern word) (fun c => .ofChars (Text.caseVariants c))
    [.anchor (.wordBoundary .full)] word after
    (fun c _ => (Text.CodeSet.contains_ofChars _ c).mpr List.mem_cons_self) 0 0 none 0
  have bound : (Token.keywordPattern word).startsText = true := by simp [Token.keywordPattern,startsText,someStarts]
  have begun : resume ⟨0,none,(word ++ after).head?⟩ [.read (Token.keywordPattern word) 0] {} =
      resume ⟨0,none,(word ++ after).head?⟩ [.read (.seq ((word.map fun c =>
        .set (.ofChars (Text.caseVariants c))) ++ [.anchor (.wordBoundary .full)])) 0] {} := by
    simp [Token.keywordPattern,wordy,resume,walk,walkAll,Anchor.holds,width]
  have full : Alphabet.full.hasWordPart = Text.isWordPart := rfl
  rw [find?,bound,begun,found,Nat.zero_add,last]
  by_cases same : Text.isWordPart c = after.head?.any Text.isWordPart
  · have nothing : resume ⟨0,(some c).or none,after.head?⟩ [.read (.seq [.anchor (.wordBoundary .full)]) mark] {} = {} := by
      simp [resume,walk,walkAll,Anchor.holds,full,same]
    rw [nothing,if_pos same]
    exact scan_over _ _ rfl rfl after
  · have matched : resume ⟨0,(some c).or none,after.head?⟩ [.read (.seq [.anchor (.wordBoundary .full)]) mark] {} =
        { matched := some 0 } := by
      simp [resume,walk,walkAll,Anchor.holds,full,same,Threads.finish]
    rw [matched,if_neg same]
    exact scan_matched _ _ _ after

end Pattern

namespace Token

variable {name word input : String} {t : Token} {c : Char}

/-- A keyword that is a word, where the input goes on with it: it is refused inside a word, and must end at a
boundary of words. -/
theorem lengthAt?_keyword (made : Token.ofKeyword name word = .ok t) (wordy : isWord word.toList = true)
    (last : word.toList.getLast? = some c) (before after : List Char) :
    t.lengthAt? ⟨before,word.toList ++ after⟩ =
      if before.head?.any isWordChar || Text.isWordPart c == after.head?.any Text.isWordPart then none
      else some word.toList.length := by
  obtain ⟨-,rfl⟩ := ofKeyword_eq_ok.mp made
  have nonempty : word.toList.length ≠ 0 := by
    intro empty
    rw [List.length_eq_zero_iff.mp empty] at last
    cases last
  unfold lengthAt?
  dsimp only
  rw [Pattern.find?_keyword wordy last]
  by_cases same : Text.isWordPart c = after.head?.any Text.isWordPart
  · simp [same]
  · cases inside : before.head?.any isWordChar <;> simp [same,nonempty,splitsWord,wordy,inside]

/-- A keyword that is a word matches whole words: wherever the input goes on with it, it matches unless a word
character is before it, or else what stands behind it is part of a word just as its last character is. If that
is part of a word, and what stands behind it counts alike as a part of words and as a word character, then the
keyword matches where it is a word of the input. -/
theorem endAt?_keyword (made : Token.ofKeyword name word = .ok t) (wordy : isWord word.toList = true)
    (last : word.toList.getLast? = some c) (place : input.toList = before ++ word.toList ++ after) :
    t.endAt? input (Text.byteSize before) =
      (if before.getLast?.any isWordChar || Text.isWordPart c == after.head?.any Text.isWordPart then none
      else some (Text.byteSize before + Text.byteSize word.toList)) ∧
    (Text.isWordPart c = true → after.head?.any Text.isWordPart = after.head?.any isWordChar →
      t.endAt? input (Text.byteSize before) =
        if before.getLast?.any isWordChar || after.head?.any isWordChar then none
        else some (Text.byteSize before + Text.byteSize word.toList)) := by
  have found : t.endAt? input (Text.byteSize before) =
      if before.getLast?.any isWordChar || Text.isWordPart c == after.head?.any Text.isWordPart then none
      else some (Text.byteSize before + Text.byteSize word.toList) := by
    rw [List.append_assoc,← List.reverse_reverse before] at place
    rw [← Text.byteSize_reverse before,endAt?_cut t place,lengthAt?_keyword made wordy last,List.head?_reverse]
    split <;> simp
  refine ⟨found,fun part alike => ?_⟩
  rw [found,part,alike,Bool.true_beq]

theorem endAt?_keyword_between : ∃ t, Token.ofKeyword "IF" "if" = .ok t ∧ isWord "if".toList = true ∧
    "if".toList.getLast? = some 'f' ∧ "x if(".toList = "x ".toList ++ "if".toList ++ "(".toList ∧
    Text.isWordPart 'f' = true ∧ ("(".toList.head?.any Text.isWordPart = "(".toList.head?.any isWordChar) ∧
    t.endAt? "x if(" 2 = some 4 := by
  obtain ⟨t,made⟩ : ∃ t, Token.ofKeyword "IF" "if" = .ok t := ⟨_,ofKeyword_eq_ok.mpr ⟨by decide +kernel,rfl⟩⟩
  have wordy : isWord "if".toList = true := by decide +kernel
  have part : Text.isWordPart 'f' = true := by decide +kernel
  have alike : "(".toList.head?.any Text.isWordPart = "(".toList.head?.any isWordChar := by decide +kernel
  have place : "x if(".toList = "x ".toList ++ "if".toList ++ "(".toList := by decide
  have outside : ("x ".toList.getLast?.any isWordChar || "(".toList.head?.any isWordChar) = false := by decide +kernel
  have found := (endAt?_keyword made wordy rfl place).2 part alike
  rw [outside] at found
  exact ⟨t,made,wordy,rfl,place,part,alike,found⟩

/-- A number that is no digit is a word character and yet no part of a word. -/
theorem endAt?_keyword_superscript : ∃ t, Token.ofKeyword "K" "²" = .ok t ∧ isWord "²".toList = true ∧
    t.endAt? "²" 0 = none := by
  obtain ⟨t,made,runs⟩ : ∃ t, Token.ofKeyword "K" "²" = .ok t ∧
      decide (isWord "²".toList = true ∧ t.endAt? "²" 0 = none) = true := exists_of_any (by decide +kernel)
  exact ⟨t,made,of_decide_eq_true runs⟩

end Token

end Packrat
