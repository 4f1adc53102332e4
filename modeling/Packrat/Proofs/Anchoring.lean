import Packrat.Proofs.Closing
import Packrat.Proofs.Rebuild
import Packrat.Proofs.Search
import Packrat.Proofs.Segmentation

/-! Tokens are matched where they are tried. A pattern is put into a group behind a start anchor; if it closes
no group but its own, the anchor is before all of it, and a match starts where the text starts. -/
namespace Packrat

namespace Pattern

section Sequence

variable {text : List Char}

theorem Matches.text_append (found : Matches text (.text (s ++ t)) i k) :
    ∃ j, Matches text (.text s) i j ∧ Matches text (.text t) j k := by
  induction s generalizing i with
  | nil => exact ⟨i,.textNil,found⟩
  | cons c s ih =>
    cases found with
    | textCons here more =>
      obtain ⟨j,first,second⟩ := ih more
      exact ⟨j,.textCons here first,second⟩

theorem Matches.parts_append (found : Matches text (.seq (ps ++ qs)) i k) :
    ∃ j, Matches text (.seq ps) i j ∧ Matches text (.seq qs) j k := by
  induction ps generalizing i with
  | nil => exact ⟨i,.seqNil,found⟩
  | cons p ps ih =>
    cases found with
    | seqCons taken more =>
      obtain ⟨j,first,second⟩ := ih more
      exact ⟨j,.seqCons taken first,second⟩

theorem Matches.of_prepend (found : Matches text (.seq (prepend p rest)) i k) : Matches text (.seq (p :: rest)) i k := by
  unfold prepend at found
  split at found
  · exact .seqCons .empty found
  · cases found with
    | seqCons taken more =>
      obtain ⟨j,first,second⟩ := taken.text_append
      exact .seqCons first (.seqCons second more)
  · exact found

theorem Matches.of_foldr (found : Matches text (.seq (ps.foldr prepend [])) i k) : Matches text (.seq ps) i k := by
  induction ps generalizing i with
  | nil => exact found
  | cons p ps ih =>
    cases Matches.of_prepend found with
    | seqCons taken more => exact .seqCons taken (ih more)

theorem Matches.of_flatMap {f : Pattern → List Pattern}
    (part : ∀ {p i k}, Matches text (.seq (f p)) i k → Matches text p i k)
    (found : Matches text (.seq (ps.flatMap f)) i k) : Matches text (.seq ps) i k := by
  induction ps generalizing i with
  | nil => exact found
  | cons p ps ih =>
    rw [List.flatMap_cons] at found
    obtain ⟨j,first,more⟩ := found.parts_append
    exact .seqCons (part first) (ih more)

/-- What parts put together match, they match one after another. -/
theorem Matches.of_sequence (found : Matches text (sequence parts) i k) : Matches text (.seq parts) i k := by
  unfold sequence at found
  dsimp only at found
  generalize flat : parts.flatMap _ = ps at found
  have joined : Matches text (.seq (ps.foldr prepend [])) i k := by
    split at found
    · rename_i empty
      rw [empty]
      cases found
      exact .seqNil
    · rename_i one
      rw [one]
      exact .seqCons found .seqNil
    · exact found
  rw [← flat] at joined
  refine .of_flatMap (fun {p i k} found => ?_) joined.of_foldr
  split at found
  · exact found
  · cases found with
    | seqCons taken nothing =>
      cases nothing
      exact taken

end Sequence

variable {written : List Char} {p q : Pattern}

/-- A text denotes a pattern by itself: nothing is left of it, so it closes no group but its own. -/
def Denotes (written : List Char) (p : Pattern) : Prop :=
  ∃ item groups, readBranches (written.length + 1) {} [] [] [] written = .ok (item,groups,[]) ∧ item.pattern = p

theorem denotes_of_read (parsed : read written = .ok p) : Denotes written p := by
  obtain ⟨⟨item,groups,rest⟩,inner,left⟩ := bind_eq_ok.mp parsed
  dsimp only at left
  split at left
  · cases left
  rename_i ended
  split at left
  · cases left
  split at left
  · cases left
  obtain rfl : rest = [] := by simpa using ended
  exact ⟨item,groups,inner,Except.ok.inj left⟩

theorem readBranches_start (fuel : Nat) (inner : List Char) :
    readBranches (fuel + 2) {} [] [] [] ('^' :: '(' :: '?' :: ':' :: inner) = (do
      let (item,groups,rest) ← readBranches fuel {} [] [] [] inner
      match rest with
      | ')' :: rest => readBranches fuel {} groups [] [item.enclosed none,.ofAnchor .textStart] rest
      | _ => .error .unclosedGroup) := rfl

/-- In a group behind a start anchor, a text denotes what it denotes by itself, behind the anchor. -/
theorem read_start (alone : Denotes written p)
    (parsed : read ('^' :: '(' :: '?' :: ':' :: (written ++ [')'])) = .ok q) : q = sequence [.anchor .textStart,p] := by
  obtain ⟨item,groups,inner,rfl⟩ := alone
  have enough : written.length + 1 ≤ written.length + 4 := by omega
  obtain ⟨⟨_,_,rest⟩,again,rfl,rfl,closed⟩ := readBranches_closed enough [] [] [] (.append written) _ inner
  obtain ⟨whole,groups',outer,rfl⟩ := denotes_of_read parsed
  have size : ('^' :: '(' :: '?' :: ':' :: (written ++ [')'])).length + 1 = written.length + 4 + 2 := by simp
  rw [size,readBranches_start,again] at outer
  cases closed with
  | ended => cases outer
  | closing =>
    obtain ⟨rfl,-⟩ := Prod.mk.inj (Except.ok.inj outer)
    rfl

theorem Matches.le {p : Pattern} (found : Matches input p i j) : i ≤ j := by
  induction found with
  | empty | textNil | anchor | done | seqNil => exact Nat.le_refl _
  | textCons _ _ ih => omega
  | set => omega
  | copy _ _ _ first more => exact Nat.le_trans first more
  | group _ ih => exact ih
  | seqCons _ _ first more => exact Nat.le_trans first more
  | alt _ _ ih => exact ih

/-- What stands behind a start anchor is matched from the start of the text on. -/
theorem find?_start (alone : Denotes written p)
    (parsed : read ('^' :: '(' :: '?' :: ':' :: (written ++ [')'])) = .ok q) (found : q.find? input = some f) :
    f = ⟨0,f.stop⟩ ∧ Matches input p 0 f.stop := by
  have within := find?_stop_le found
  rw [read_start alone parsed] at found
  have matched := find?_matches found
  have order := matched.le
  obtain _ | _ | _ | _ | _ | _ | _ | _ | _ | ⟨first,more⟩ := matched.of_sequence
  obtain _ | _ | _ | _ | here := first
  obtain _ | _ | _ | _ | _ | _ | _ | _ | _ | ⟨taken,nothing⟩ := more
  cases nothing
  have first : f.start = 0 := by
    have empty : input.take f.start = [] := by simpa [Anchor.holds,previous?] using here
    rcases List.take_eq_nil_iff.mp empty with start | rfl
    · exact start
    · exact Nat.le_zero.mp (Nat.le_trans order within)
  rw [first] at taken
  exact ⟨by rw [← first],taken⟩

end Pattern

namespace Token

variable {t : Token} {input : String}

theorem compileStart_find? {name pattern : String} {m : Pattern} (compiled : compileStart name pattern = .ok m)
    (alone : Pattern.Denotes pattern.toList p) (found : m.find? text = some f) :
    f = ⟨0,f.stop⟩ ∧ p.Matches text 0 f.stop := by
  unfold compileStart compile at compiled
  split at compiled
  · rename_i q read
    obtain rfl := Except.ok.inj compiled
    rw [String.toList_append,String.toList_append] at read
    exact Pattern.find?_start alone read found
  · cases compiled

/-- The patterns of a token and of what must follow it are read behind a start anchor. -/
theorem Made.compiled (made : t.Made) (regular : t.kind ≠ .keyword) : ∃ name,
    compileStart name t.pattern = .ok t.matcher ∧
    ∀ condition ∈ t.lookahead, ∃ ahead, t.ahead = some ahead ∧ compileStart name condition = .ok ahead := by
  induction made with
  | ofPattern made =>
    obtain ⟨matcher,start,rfl⟩ := ofPattern_eq_ok.mp made
    exact ⟨_,start,by simp⟩
  | ofKeyword made =>
    obtain ⟨_,rfl⟩ := ofKeyword_eq_ok.mp made
    exact absurd rfl regular
  | @ofLookaround t name pattern lookahead lookbehind made =>
    unfold Token.ofLookaround at made
    split at made
    · cases made
    obtain ⟨matcher,start,made⟩ := bind_eq_ok.mp made
    obtain ⟨ahead,follows,made⟩ := bind_eq_ok.mp made
    obtain ⟨behind,_,made⟩ := bind_eq_ok.mp made
    obtain rfl := Except.ok.inj made
    refine ⟨name,start,?_⟩
    rintro condition rfl
    obtain ⟨q,compiled,eq⟩ := bind_eq_ok.mp follows
    exact ⟨q,(Except.ok.inj eq).symm,compiled⟩
  | withPriority _ _ ih => exact ih regular

theorem lengthAt?_eq_some (found : t.lengthAt? cut = some length) :
    ∃ start, t.matcher.find? cut.after = some ⟨start,length⟩ ∧
      ∀ ahead ∈ t.ahead, ahead.isMatch (cut.after.drop length) = true := by
  unfold lengthAt? at found
  split at found
  · cases found
  rename_i f matched
  split at found
  · cases found
  split at found
  · cases found
  rename_i followed
  split at found
  · cases found
  obtain rfl := Option.some.inj found
  refine ⟨f.start,matched,fun ahead given => ?_⟩
  rw [Option.mem_def] at given
  simpa [given] using followed

/-- A token that closes no group but its own is matched where it is tried: what it takes stands right there, and
is a match of its pattern. What must follow it, if that closes no group but its own, follows at once. -/
theorem endAt?_anchored (made : t.Made) (regular : t.kind ≠ .keyword) (alone : Pattern.Denotes t.pattern.toList p)
    (found : t.endAt? input offset = some stop) : ∃ before taken after,
      input.toList = before ++ taken ++ after ∧ Text.byteSize before = offset ∧ stop = offset + Text.byteSize taken ∧
      t.matcher.find? (taken ++ after) = some ⟨0,taken.length⟩ ∧ p.Matches (taken ++ after) 0 taken.length ∧
      ∀ condition ∈ t.lookahead, ∀ q, Pattern.Denotes condition.toList q →
        ∃ ahead length, t.ahead = some ahead ∧ ahead.find? after = some ⟨0,length⟩ ∧ q.Matches after 0 length := by
  obtain ⟨name,start,follows⟩ := made.compiled regular
  obtain ⟨cut,place,there⟩ := Option.bind_eq_some_iff.mp found
  obtain ⟨length,takes,eq⟩ := Option.bind_eq_some_iff.mp there
  obtain rfl := Option.some.inj eq
  obtain ⟨text,size⟩ := Text.cutAt?_eq_some place
  obtain ⟨start',matched,followed⟩ := lengthAt?_eq_some takes
  obtain ⟨here,taken⟩ := compileStart_find? start alone matched
  refine ⟨cut.before.reverse,cut.after.take length,cut.after.drop length,?_,?_,rfl,?_⟩
  · rw [List.append_assoc,List.take_append_drop,text]
  · rw [Text.byteSize_reverse,size]
  rw [List.take_append_drop,List.length_take,Nat.min_eq_left (lengthAt?_bounds takes).2]
  rw [here] at matched
  refine ⟨matched,taken,fun condition given q alone' => ?_⟩
  obtain ⟨ahead,there,compiled⟩ := follows condition given
  obtain ⟨f,matched'⟩ := Option.isSome_iff_exists.mp (followed ahead there)
  obtain ⟨here',taken'⟩ := compileStart_find? compiled alone' matched'
  rw [here'] at matched'
  exact ⟨ahead,f.stop,there,matched',taken'⟩

theorem endAt?_anchored_lookahead : ∃ (t : Token) (p : Pattern), t.Made ∧ t.kind ≠ .keyword ∧
    Pattern.Denotes t.pattern.toList p ∧ t.lookahead = some "b|c" ∧ t.endAt? "xaac" 1 = some 3 ∧
    ∃ before taken after,
      "xaac".toList = before ++ taken ++ after ∧ Text.byteSize before = 1 ∧ 3 = 1 + Text.byteSize taken ∧
      t.matcher.find? (taken ++ after) = some ⟨0,taken.length⟩ ∧ p.Matches (taken ++ after) 0 taken.length ∧
      ∀ condition ∈ t.lookahead, ∀ q, Pattern.Denotes condition.toList q →
        ∃ ahead length, t.ahead = some ahead ∧ ahead.find? after = some ⟨0,length⟩ ∧ q.Matches after 0 length := by
  obtain ⟨t,made,runs⟩ : ∃ t, Token.ofLookaround "T" "a+" (some "b|c") none = .ok t ∧
      (t.endAt? "xaac" 1 == some 3) = true := exists_of_any (by decide +kernel)
  obtain ⟨_,shown,kind,_,lookahead,_⟩ := ofLookaround_fields made
  have regular : t.kind ≠ .keyword := by simp [kind]
  have alone : Pattern.Denotes t.pattern.toList (.times (.text ['a']) 1 none true) := by
    rw [shown]
    exact ⟨_,_,rfl,rfl⟩
  have found := beq_iff_eq.mp runs
  exact ⟨t,_,.ofLookaround made,regular,alone,lookahead,found,
    endAt?_anchored (.ofLookaround made) regular alone found⟩

/-- A pattern that closes the group it is put into gets past the anchor. -/
theorem endAt?_unanchored : ∃ t, Token.ofPattern "T" "a)|(b" 0 = .ok t ∧ t.endAt? "xb" 0 = some 2 ∧
    t.matcher.find? "xb".toList = some ⟨1,2⟩ := by
  obtain ⟨t,made,runs⟩ : ∃ t, Token.ofPattern "T" "a)|(b" 0 = .ok t ∧
      decide (t.endAt? "xb" 0 = some 2 ∧ t.matcher.find? "xb".toList = some ⟨1,2⟩) = true :=
    exists_of_any (by decide +kernel)
  exact ⟨t,made,of_decide_eq_true runs⟩

end Token

end Packrat
