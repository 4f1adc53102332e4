import Packrat.Proofs.Closing.Reading

/-! Escapes end where they ended when a closing parenthesis is put behind the text. -/
namespace Packrat.Pattern

variable {f : Flags} {cs cs' : List Char}

theorem readHexDigits_closed (count value : Nat) (closed : Closed cs cs') :
    Extends (readHexDigits f count value cs) (readHexDigits f count value cs') := by
  induction count generalizing value cs cs' with
  | zero => exact .value fun c => .ok ⟨rfl,closed⟩
  | succ count ih =>
    cases closed with
    | ended | closing => exact .error
    | @cons cs cs' c closed =>
      simp only [readHexDigits]
      split
      · exact .error
      · exact ih _ (closed.skip f)

theorem readHexBrace_closed (enough : fuel ≤ fuel') (digits : List Nat) (closed : Closed cs cs') :
    Extends (readHexBrace f fuel digits cs) (readHexBrace f fuel' digits cs') := by
  induction fuel generalizing fuel' digits cs cs' with
  | zero => exact .error
  | succ fuel ih =>
    obtain ⟨fuel',rfl⟩ := Nat.exists_eq_succ_of_ne_zero (by omega : fuel' ≠ 0)
    cases closed with
    | ended | closing => exact .error
    | @cons cs cs' c closed =>
      simp only [readHexBrace]
      split
      · exact .guard (.value fun c => .ok ⟨rfl,closed.skip f⟩)
      · split
        · exact .error
        · exact ih (Nat.le_of_succ_le_succ enough) _ (closed.skip f)

theorem readName_closed (enough : fuel ≤ fuel') (name : List Char) (closed : Closed cs cs') :
    Extends (readName f fuel name cs) (readName f fuel' name cs') := by
  induction fuel generalizing fuel' name cs cs' with
  | zero => exact .error
  | succ fuel ih =>
    obtain ⟨fuel',rfl⟩ := Nat.exists_eq_succ_of_ne_zero (by omega : fuel' ≠ 0)
    cases closed with
    | ended | closing => exact .error
    | @cons cs cs' c closed =>
      simp only [readName]
      split
      · exact .ok ⟨rfl,closed⟩
      · exact ih (Nat.le_of_succ_le_succ enough) _ (closed.skip f)

theorem readProperty_closed (negated : Bool) (closed : Closed cs cs') :
    Extends (readProperty f negated cs) (readProperty f negated cs') := by
  unfold readProperty
  extract_lets finish
  have after (name : List Char) {rest rest' : List Char} (closed : Closed rest rest') :
      Extends (finish (name,rest)) (finish (name,rest')) := by
    refine .guard ?_
    split
    · exact .error
    · exact .value fun s => .ok ⟨rfl,closed⟩
  have skipped := closed.skip f
  generalize f.skip cs = start, f.skip cs' = start' at skipped
  cases skipped with
  | ended | closing => exact .error
  | @cons cs cs' c closed =>
    have skipped := closed.skip f
    split
    · exact .error
    · rename_i same
      obtain ⟨rfl,rfl⟩ := List.cons_eq_cons.mp same
      exact .bind (readName_closed (by have := closed.length_le; omega) [] skipped) fun name _ _ => after name
    · exact .error
    · rename_i same
      obtain ⟨rfl,rfl⟩ := List.cons_eq_cons.mp same
      split
      · rename_i h
        cases h
      · simp_all
      · simp_all
      · rename_i same
        obtain ⟨rfl,rfl⟩ := List.cons_eq_cons.mp same
        exact .bind (.ok ⟨rfl,skipped⟩) fun name _ _ => after name

theorem readBoundary_closed (closed : Closed cs cs') : Extends (readBoundary f cs) (readBoundary f cs') := by
  cases closed with
  | ended => exact .ok ⟨rfl,.ended⟩
  | closing => exact .ok ⟨rfl,.closing⟩
  | @cons cs cs' c closed =>
    by_cases brace : c = '\x7b'
    · subst brace
      simp only [readBoundary]
      have skipped := closed.skip f
      generalize f.skip cs = start, f.skip cs' = start' at skipped
      cases skipped with
      | ended | closing => exact .error
      | @cons rest rest' d closed' =>
        have letters := readKind_closed (readLetters f) (fun _ _ => rfl) (fun _ _ _ _ => rfl) (by decide)
          (Nat.lt_succ_self _) (Nat.lt_succ_self _) [] (.cons (c := d) closed')
        dsimp only
        generalize readLetters f _ [] (d :: rest) = read, readLetters f _ [] (d :: rest') = read' at letters
        obtain ⟨name,left⟩ := read
        obtain ⟨name',left'⟩ := read'
        obtain ⟨named,closed'⟩ := letters
        dsimp only at named closed'
        subst named
        -- A name ends the escape if a brace is behind it.
        split
        case h_6 => exact .error
        all_goals
          rename_i same
          obtain ⟨rfl,rfl⟩ := Prod.mk.inj same
        · exact .ok ⟨rfl,.cons closed⟩
        all_goals
          cases closed' with
          | cons closed' => exact .ok ⟨rfl,closed'⟩
    · have other {cs : List Char} : ∀ rest, c :: cs = '\x7b' :: rest → False := fun _ same =>
        brace (List.cons_eq_cons.mp same).1
      rw [readBoundary.eq_2 _ _ other,readBoundary.eq_2 _ _ other]
      exact .ok ⟨rfl,.cons closed⟩

theorem readHex_closed (digits : Nat) (closed : Closed cs cs') : Extends (readHex f digits cs) (readHex f digits cs') := by
  unfold readHex
  have skipped := closed.skip f
  generalize f.skip cs = start, f.skip cs' = start' at skipped
  cases skipped with
  | ended | closing => exact .error
  | @cons cs cs' c closed =>
    have skipped := closed.skip f
    split
    · exact .error
    · rename_i same
      obtain ⟨rfl,rfl⟩ := List.cons_eq_cons.mp same
      exact .bind (readHexBrace_closed (by have := closed.length_le; omega) [] skipped) fun c _ _ closed => .ok ⟨rfl,closed⟩
    · split
      · rename_i h
        cases h
      · simp_all
      · refine .bind (readHexDigits_closed digits 0 (.cons closed)) fun c rest rest' closed => ?_
        dsimp only
        split
        · exact .error
        · exact .ok ⟨rfl,closed⟩

/-- An escape is read without what follows it. -/
theorem readEscape_closed (closed : Closed cs cs') : Extends (readEscape f cs) (readEscape f cs') := by
  cases closed with
  | ended | closing => exact .error
  | @cons cs cs' c closed =>
    simp only [readEscape]
    refine .guard ?_
    split
    · exact .ok ⟨rfl,closed⟩
    · split
      all_goals first
        | exact .ok ⟨rfl,closed⟩
        | exact .value fun s => .ok ⟨rfl,closed⟩
        | exact .error
        | exact readHex_closed _ closed
        | exact readProperty_closed _ closed
        | exact readBoundary_closed closed

end Packrat.Pattern
