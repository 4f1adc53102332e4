import Packrat.Proofs.Closing.Escape

/-! Bracketed sets end where they ended when a closing parenthesis is put behind the text. -/
namespace Packrat.Pattern

variable {f : Flags} {cs cs' : List Char}

theorem readSetItem_closed (closed : Closed cs cs') : Extends (readSetItem f cs) (readSetItem f cs') := by
  cases closed with
  | ended | closing => exact .error
  | @cons cs cs' c closed =>
    by_cases escape : c = '\\'
    · subst escape
      exact readEscape_closed closed
    · rw [readSetItem.eq_3 _ _ _ escape,readSetItem.eq_3 _ _ _ escape]
      exact .ok ⟨rfl,closed⟩

/-- The character after a dash is the same if there is one. -/
theorem afterDash?_closed (closed : Closed cs cs') (there : (afterDash? f cs).isSome = true) :
    afterDash? f cs' = afterDash? f cs := by
  have head {cs cs' : List Char} (closed : Closed cs cs') (there : cs.head?.isSome = true) : cs'.head? = cs.head? := by
    cases closed with
    | ended | closing => cases there
    | cons => rfl
  unfold afterDash? at there ⊢
  by_cases verbose : f.verbose = true
  · rw [if_pos verbose] at there ⊢
    rw [if_pos verbose]
    have dropped := closed.dropWhile Text.isBlank
    generalize cs.dropWhile Text.isBlank = rest, cs'.dropWhile Text.isBlank = rest' at dropped there
    cases dropped with
    | ended | closing => cases there
    | @cons rest rest' c dropped =>
      by_cases comment : c = '#'
      · subst comment
        exact head (dropped.dropWhile _) there
      · simp [comment]
  · rw [if_neg verbose] at there ⊢
    rw [if_neg verbose]
    exact head closed there

theorem skipBlanks_eq_nil (inComment : Bool) (blank : cs.dropWhile Text.isBlank = []) :
    Flags.skipBlanks inComment cs = [] := by
  induction cs generalizing inComment with
  | nil => cases inComment <;> rfl
  | cons c cs ih =>
    rw [List.dropWhile_cons] at blank
    split at blank
    · rename_i space
      cases inComment with
      | true => exact ih _ blank
      | false => rw [Flags.skipBlanks,if_pos space,ih false blank]
    · cases blank

theorem skipBlanks_dropWhile (cs : List Char) :
    Flags.skipBlanks false cs = Flags.skipBlanks false (cs.dropWhile Text.isBlank) := by
  induction cs with
  | nil => rfl
  | cons c cs ih =>
    rw [List.dropWhile_cons]
    split
    · rename_i blank
      rw [Flags.skipBlanks,if_pos blank,ih]
    · rfl

/-- There is always a character after a dash that is not the last one. -/
theorem skip_of_afterDash?_none (nothing : (afterDash? f cs).isSome = false) : f.skip cs = [] := by
  unfold afterDash? at nothing
  unfold Flags.skip
  by_cases verbose : f.verbose = true
  · rw [if_pos verbose] at nothing ⊢
    rw [skipBlanks_dropWhile]
    generalize cs.dropWhile Text.isBlank = rest at nothing
    cases rest with
    | nil => rfl
    | cons c rest =>
      by_cases comment : c = '#'
      · subst comment
        have ended : rest.dropWhile Text.isBlank = [] := by simpa using nothing
        exact skipBlanks_eq_nil true ended
      · simp [comment] at nothing
  · rw [if_neg verbose] at nothing ⊢
    simpa using nothing

theorem readRange_closed (closed : Closed cs cs') : Extends (readRange f cs) (readRange f cs') := by
  unfold readRange
  refine .bind (readSetItem_closed closed) fun first rest rest' closed => ?_
  dsimp -zeta only
  extract_lets alone alone'
  have single : Extends alone alone' := by
    unfold alone alone'
    cases first with
    | literal c => exact .value fun s => .ok ⟨rfl,closed.skip f⟩
    | set s => exact .ok ⟨rfl,closed.skip f⟩
    | anchor a => exact .error
  have skipped := closed.skip f
  clear_value alone alone'
  generalize f.skip rest = start, f.skip rest' = start' at skipped
  cases skipped with
  | ended | closing => exact .error
  | @cons more more' c closed' =>
    by_cases dash : c = '-'
    · subst dash
      cases after : (afterDash? f more).isSome with
      | true =>
        have again := afterDash?_closed closed' after
        simp only [again]
        split
        · exact single
        · exact single
        · refine .bind (readSetItem_closed (closed'.skip f)) fun second rest rest' closed => ?_
          cases first with
          | literal a =>
            cases second with
            | literal b =>
              refine .guard ?_
              split
              · exact .ok ⟨rfl,closed⟩
              · exact .error
            | set s | anchor a => exact .error
          | set s | anchor a => exact .error
      | false =>
        -- Nothing is left to end the range.
        have nothing : afterDash? f more = none := by simpa using after
        simp only [nothing,skip_of_afterDash?_none after]
        exact .error
    · split
      · exact .error
      · simp_all
      · split
        · contradiction
        · simp_all
        · exact single

theorem readDashes_closed (enough : cs.length < fuel) (enough' : cs'.length < fuel') (items : SetItems)
    (closed : Closed cs cs') : Extends (readDashes f fuel items cs) (readDashes f fuel' items cs') := by
  induction fuel generalizing fuel' items cs cs' with
  | zero => omega
  | succ fuel ih =>
    obtain ⟨fuel',rfl⟩ := Nat.exists_eq_succ_of_ne_zero (by omega : fuel' ≠ 0)
    cases closed with
    | ended | closing => exact .error
    | @cons cs cs' c closed =>
      have short := f.skip_length_le cs
      have short' := f.skip_length_le cs'
      simp only [readDashes,List.length_cons] at enough enough' ⊢
      split
      · exact ih (by omega) (by omega) _ (closed.skip f)
      · exact .ok ⟨rfl,.cons closed⟩

/-- A set is negated by a caret, and by nothing that is put behind it. -/
theorem caret_closed {negated negated' : Bool} {rest rest' : List Char}
    (started : (match cs with
      | '^' :: rest => (true,f.skip rest)
      | cs => (false,cs)) = (negated,rest))
    (started' : (match cs' with
      | '^' :: rest => (true,f.skip rest)
      | cs => (false,cs)) = (negated',rest')) (closed : Closed cs cs') : negated = negated' ∧ Closed rest rest' := by
  cases closed with
  | ended =>
    cases started
    cases started'
    exact ⟨rfl,.ended⟩
  | closing =>
    cases started
    cases started'
    exact ⟨rfl,.closing⟩
  | @cons cs cs' c closed =>
    by_cases caret : c = '^'
    · subst caret
      cases started
      cases started'
      exact ⟨rfl,closed.skip f⟩
    · obtain ⟨rfl,rfl⟩ : false = negated ∧ c :: cs = rest := by simpa [caret] using started
      obtain ⟨rfl,rfl⟩ : false = negated' ∧ c :: cs' = rest' := by simpa [caret] using started'
      exact ⟨rfl,.cons closed⟩

theorem readSetStart_closed (closed : Closed cs cs') : Extends (readSetStart f cs) (readSetStart f cs') := by
  unfold readSetStart
  split
  rename_i negated rest started
  split
  rename_i negated' rest' started'
  obtain ⟨rfl,closed⟩ := caret_closed started started' (closed.skip f)
  refine .bind (readDashes_closed (Nat.lt_succ_self _) (Nat.lt_succ_self _) {} closed) fun items rest rest' closed => ?_
  cases closed with
  | ended | closing => exact .error
  | @cons rest rest' c closed =>
    by_cases bracket : c = ']'
    · subst bracket
      have skipped := closed.skip f
      simp only
      split
      · exact .ok ⟨rfl,rfl,.cons closed⟩
      · generalize f.skip rest = more, f.skip rest' = more' at skipped
        cases skipped with
        | ended | closing => exact .error
        | cons skipped => exact .ok ⟨rfl,rfl,.cons skipped⟩
    · have same : Extends (.ok (negated,items,c :: rest)) (.ok (negated,items,c :: rest')) :=
        .ok ⟨rfl,rfl,.cons closed⟩
      simpa [bracket] using same

/-- The name of a class ends where it ended, or nowhere. -/
theorem className_closed (closed : Closed cs cs') :
    (∃ rest rest', cs.dropWhile (· != ':') = ':' :: ']' :: rest ∧ cs'.dropWhile (· != ':') = ':' :: ']' :: rest' ∧
      cs.takeWhile (· != ':') = cs'.takeWhile (· != ':') ∧ Closed rest rest') ∨
    (∀ rest, cs.dropWhile (· != ':') ≠ ':' :: ']' :: rest) ∧
      ∀ rest, cs'.dropWhile (· != ':') ≠ ':' :: ']' :: rest := by
  have named := closed.takeWhile (p := (· != ':'))
  have dropped := closed.dropWhile (· != ':')
  by_cases ends : ∃ rest, cs.dropWhile (· != ':') = ':' :: ']' :: rest
  · obtain ⟨rest,ends⟩ := ends
    rw [ends] at named dropped
    obtain ⟨_,ends',dropped⟩ := dropped.of_cons
    obtain ⟨rest',rfl,left⟩ := dropped.of_cons
    exact .inl ⟨rest,rest',ends,ends',named nofun,left⟩
  · refine .inr ⟨fun rest here => ends ⟨rest,here⟩,fun rest' here => ?_⟩
    rw [here] at dropped
    obtain ⟨_,colon,dropped⟩ := dropped.to_cons (by decide)
    obtain ⟨rest,rfl,-⟩ := dropped.to_cons (by decide)
    exact ends ⟨rest,colon⟩

/-- The class of a name is found again, and no other name becomes one of a class. -/
theorem lookup_className_closed (negated : Bool) (closed : Closed cs cs') :
    let read (cs : List Char) := match cs.dropWhile (· != ':') with
      | ':' :: ']' :: rest => (asciiClasses.lookup (String.ofList (cs.takeWhile (· != ':')))).map fun s =>
        ((s,negated),rest)
      | _ => none
    (read cs = none ∧ read cs' = none) ∨
      ∃ named rest rest', read cs = some (named,rest) ∧ read cs' = some (named,rest') ∧ Closed rest rest' := by
  obtain ⟨rest,rest',ends,ends',same,closed⟩ | ⟨unnamed,unnamed'⟩ := className_closed closed
  · simp only [ends,ends',same]
    cases asciiClasses.lookup (String.ofList (cs'.takeWhile (· != ':'))) with
    | none => exact .inl ⟨rfl,rfl⟩
    | some s => exact .inr ⟨_,rest,rest',rfl,rfl,closed⟩
  · simp

/-- A named class is read again, and nothing becomes one. -/
theorem asciiClass?_closed (closed : Closed cs cs') : (asciiClass? cs = none ∧ asciiClass? cs' = none) ∨
    ∃ named rest rest', asciiClass? cs = some (named,rest) ∧ asciiClass? cs' = some (named,rest') ∧
      Closed rest rest' := by
  cases closed with
  | ended | closing => exact .inl ⟨rfl,rfl⟩
  | @cons cs cs' c closed =>
    by_cases colon : c = ':'
    · subst colon
      by_cases caret : ∃ inner, cs = '^' :: inner
      · obtain ⟨inner,rfl⟩ := caret
        obtain ⟨inner',rfl,within⟩ := closed.of_cons
        rw [asciiClass?.eq_1,asciiClass?.eq_1]
        exact lookup_className_closed true within
      · have plain (rest : List Char) (here : cs = '^' :: rest) : False := caret ⟨rest,here⟩
        have plain' (rest : List Char) (here : cs' = '^' :: rest) : False := by
          obtain ⟨inner,here,-⟩ := (here ▸ closed).to_cons (by decide)
          exact caret ⟨inner,here⟩
        rw [asciiClass?.eq_2 _ plain,asciiClass?.eq_2 _ plain']
        exact lookup_className_closed false closed
    · simp [asciiClass?,colon]

theorem readSetItems_closed (enough : fuel ≤ fuel') (negated : Bool) (pending : Option (SetOp × Nested))
    (items : SetItems) (closed : Closed cs cs') :
    Extends (readSetItems f fuel negated pending items cs) (readSetItems f fuel' negated pending items cs') := by
  induction fuel generalizing fuel' negated pending items cs cs' with
  | zero => exact .error
  | succ fuel ih =>
    obtain ⟨fuel',rfl⟩ := Nat.exists_eq_succ_of_ne_zero (by omega : fuel' ≠ 0)
    have enough := Nat.le_of_succ_le_succ enough
    unfold readSetItems
    have skipped := closed.skip f
    generalize f.skip cs = start, f.skip cs' = start' at skipped
    split
    case h_1 => exact .error
    case h_2 rest =>
      obtain ⟨rest',rfl,closed⟩ := skipped.of_cons
      simp only
      obtain ⟨plain,plain'⟩ | ⟨named,left,left',here,here',closed⟩ := asciiClass?_closed closed
      · rw [plain,plain']
        exact .bindBoth (readSetStart_closed closed) fun inner start _ _ closed =>
          .bind (ih enough inner none start closed) fun s _ _ closed => ih enough negated pending _ closed
      · rw [here,here']
        exact .value fun s => ih enough negated pending _ closed
    case h_3 =>
      obtain ⟨rest',rfl,closed⟩ := skipped.of_cons
      exact .value fun s => .ok ⟨rfl,closed⟩
    case h_7 nil bracket close inter diff symmDiff =>
      have range : Extends
          (readRange f start >>= fun read => readSetItems f fuel negated pending (items.add read.1 0) read.2)
          (readRange f start' >>= fun read => readSetItems f fuel' negated pending (items.add read.1 0) read.2) :=
        .bind (readRange_closed skipped) fun s _ _ closed => ih enough negated pending _ closed
      split
      case h_7 => exact range
      case h_1 =>
        cases skipped
        exact absurd rfl nil
      case h_3 =>
        obtain ⟨_,rfl,-⟩ := skipped.to_cons (by decide)
        exact absurd rfl (close _)
      case h_2 =>
        obtain ⟨_,rfl,-⟩ := skipped.to_cons (by decide)
        exact absurd rfl (bracket _)
      all_goals
        obtain ⟨_,rfl,left⟩ := skipped.to_cons (by decide)
        obtain ⟨_,rfl,-⟩ := left.to_cons (by decide)
        simp_all
    all_goals
      obtain ⟨_,rfl,left⟩ := skipped.of_cons
      obtain ⟨_,rfl,behind⟩ := left.of_cons
      exact ih enough negated _ _ behind

theorem readSet_closed (closed : Closed cs cs') : Extends (readSet f cs) (readSet f cs') :=
  .bindBoth (readSetStart_closed closed) fun negated start _ _ closed =>
    readSetItems_closed (Nat.succ_le_succ closed.length_le) negated none start closed

end Packrat.Pattern
