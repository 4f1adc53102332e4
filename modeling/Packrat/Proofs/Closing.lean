import Packrat.Proofs.Closing.Set

/-! Reading goes on unchanged when a closing parenthesis is put behind a text: what was read from the text
is read again, and the parenthesis is left, unless a comment takes it. -/
namespace Packrat.Pattern

section Groups

variable {f : Flags} {cs cs' : List Char}

theorem readFlags_closed (on dangling : Bool) (given : List Char) (closed : Closed cs cs') :
    Extends (readFlags on dangling given f cs) (readFlags on dangling given f cs') := by
  induction closed generalizing on dangling given f with
  | ended | closing => exact .error
  | @cons cs cs' c closed ih =>
    unfold readFlags
    split
    · exact .guard (.ok ⟨rfl,rfl,rfl,closed⟩)
    split
    · split
      · exact ih _ _ _
      · exact .error
    · exact .value fun f' => .guard (ih _ _ _)

theorem readGroupName_closed (name : List Char) (closed : Closed cs cs') :
    Extends (readGroupName name cs) (readGroupName name cs') := by
  induction closed generalizing name with
  | ended | closing => exact .error
  | @cons cs cs' c closed ih =>
    unfold readGroupName
    split
    · exact .guard (.ok ⟨rfl,closed⟩)
    split
    · exact ih _
    · exact .error

theorem readOpening_closed (groups : Groups) (closed : Closed cs cs') :
    Extends (readOpening f groups cs) (readOpening f groups cs') := by
  unfold readOpening
  extract_lets named
  have readsName {rest rest' : List Char} (closed : Closed rest rest') : Extends (named rest) (named rest') :=
    .bind (readGroupName_closed [] closed) fun name _ _ closed => .guard (.ok ⟨rfl,closed⟩)
  have skipped := closed.skip f
  generalize f.skip cs = start, f.skip cs' = start' at skipped
  cases skipped with
  | ended => exact .ok ⟨rfl,.ended⟩
  | closing => exact .ok ⟨rfl,.closing⟩
  | @cons start start' c opened =>
    by_cases question : c = '?'
    case neg =>
      have numbered : Extends (.ok (Opening.numbered none,c :: start)) (.ok (Opening.numbered none,c :: start')) :=
        .ok ⟨rfl,.cons opened⟩
      simpa [question] using numbered
    subst question
    cases opened with
    | ended | closing => exact .error
    | @cons start start' c opened =>
      by_cases condition : c = '=' ∨ c = '!'
      · obtain rfl | rfl := condition <;> exact .error
      by_cases angle : c = '<'
      · subst angle
        cases opened with
        | ended | closing => exact .error
        | @cons start start' c opened =>
          by_cases condition : c = '=' ∨ c = '!'
          · obtain rfl | rfl := condition <;> exact .error
          · obtain ⟨equal,bang⟩ := not_or.mp condition
            simpa [equal,bang] using readsName (.cons opened)
      by_cases capital : ∃ rest, c = 'P' ∧ start = '<' :: rest
      · obtain ⟨rest,rfl,rfl⟩ := capital
        obtain ⟨rest',rfl,behind⟩ := opened.of_cons
        exact readsName behind
      · have capital' (rest' : List Char) (here : c = 'P') (there : start' = '<' :: rest') : False := by
          obtain ⟨rest,there,-⟩ := (there ▸ opened).to_cons (by decide)
          exact capital ⟨rest,here,there⟩
        have flags := readFlags_closed (f := f) true false [] (.cons (c := c) opened)
        split
        case h_7 =>
          rename_i same
          obtain ⟨-,rfl⟩ := List.cons_eq_cons.mp same
          split
          case h_7 =>
            rename_i same
            obtain ⟨-,rfl⟩ := List.cons_eq_cons.mp same
            refine flags.chain fun (f₁,bare,close,left) (f₂,bare',close',left') alike => ?_
            obtain ⟨same,same',same'',closed⟩ :
              f₁ = f₂ ∧ bare = bare' ∧ close = close' ∧ Closed left left' := alike
            subst same same' same''
            dsimp only
            split
            · exact .guard (.ok ⟨rfl,closed⟩)
            · exact .ok ⟨rfl,closed⟩
          all_goals simp_all
        all_goals simp_all

end Groups

section Repetitions

variable {f : Flags} {cs cs' : List Char}

theorem readCount_closed (closed : Closed cs cs') : Extends (readCount f cs) (readCount f cs') := by
  have dropped := closed.dropWhile Text.isBlank
  have read := readKind_closed (readDigits f) (fun _ _ => rfl) (fun _ _ _ _ => rfl) (by decide)
    (Nat.lt_succ_self _) (Nat.lt_succ_self _) [] dropped
  unfold readCount
  dsimp only
  rw [read.1]
  refine .guard ?_
  split
  · exact .ok ⟨rfl,(read.2.dropWhile _).skip f⟩
  · exact .error

theorem readCounts_closed (closed : Closed cs cs') : Extends (readCounts f cs) (readCounts f cs') := by
  unfold readCounts
  have skipped := closed.skip f
  generalize f.skip cs = start, f.skip cs' = start' at skipped
  cases skipped with
  | ended | closing => exact .error
  | @cons start start' c opened =>
    refine .bind (readCount_closed (.cons opened)) fun least rest rest' closed => ?_
    dsimp -zeta only
    extract_lets finish finish'
    have finishes (counts : Nat × Option Nat) {rest rest' : List Char} (closed : Closed rest rest') :
        Extends (finish (counts,rest)) (finish' (counts,rest')) := by
      unfold finish finish'
      cases closed with
      | ended | closing => exact .error
      | @cons rest rest' c closed =>
        split
        · rename_i same
          obtain ⟨rfl,rfl⟩ := List.cons_eq_cons.mp same
          dsimp only
          split
          · exact .ok ⟨rfl,closed.skip f⟩
          · exact .error
        · exact .error
    clear_value finish finish'
    cases closed with
    | ended => exact finishes _ .ended
    | closing => exact finishes _ .closing
    | @cons rest rest' c closed =>
      by_cases comma : c = ','
      case neg =>
        split
        · simp_all
        · split
          · simp_all
          · exact finishes _ (.cons closed)
      subst comma
      have skipped := closed.skip f
      simp only
      generalize f.skip rest = start, f.skip rest' = start' at skipped
      cases skipped with
      | ended | closing => exact .error
      | @cons start start' c closed =>
        by_cases brace : c = '\x7d'
        · subst brace
          exact finishes _ (.cons closed)
        · have counted : Extends
            (readCount f (c :: start) >>= fun read => finish ((least,some read.1),read.2))
            (readCount f (c :: start') >>= fun read => finish' ((least,some read.1),read.2)) :=
            .bind (readCount_closed (.cons closed)) fun most _ _ => finishes (least,some most)
          split
          · contradiction
          · simp_all
          · split
            · contradiction
            · simp_all
            · exact counted

theorem repeatLast_closed (items : List Item) (least : Nat) (most : Option Nat) (closed : Closed cs cs') :
    Extends (repeatLast f items least most cs) (repeatLast f items least most cs') := by
  cases items with
  | nil =>
    intro x read
    unfold repeatLast at read
    split at read
    cases read
  | cons item before =>
    have again (lazy : Bool) {rest rest' : List Char} (closed : Closed rest rest') : Extends
        (if item.repeatable then
          .ok (⟨item.pattern.repetition least most (lazy == f.swapGreed),item.height + 1,true⟩ :: before,rest)
        else .error .nothingToRepeat)
        (if item.repeatable then
          .ok (⟨item.pattern.repetition least most (lazy == f.swapGreed),item.height + 1,true⟩ :: before,rest')
        else .error .nothingToRepeat) := by
      split
      · exact .ok ⟨rfl,closed⟩
      · exact .error
    cases closed with
    | ended => exact again false .ended
    | closing => exact again false .closing
    | @cons rest rest' c closed =>
      by_cases question : c = '?'
      · subst question
        exact again true closed
      · simpa [repeatLast,question] using again false (.cons (c := c) closed)

end Repetitions

/-- A group is closed again by the parenthesis that closed it. -/
theorem enclosed_closed {α β γ : Type} [Leaves γ] {first second : Reading (α × β × List Char)}
    {next next' : α → β → List Char → Reading γ} (inner : Extends first second)
    (follows : ∀ x y rest rest', Closed rest rest' → Extends (next x y rest) (next' x y rest')) :
    Extends
      (first >>= fun read => match read.2.2 with
        | ')' :: rest => next read.1 read.2.1 rest
        | _ => .error .unclosedGroup)
      (second >>= fun read => match read.2.2 with
        | ')' :: rest => next' read.1 read.2.1 rest
        | _ => .error .unclosedGroup) := by
  refine .bindBoth inner fun x y rest rest' closed => ?_
  cases closed with
  | ended | closing => exact .error
  | @cons rest rest' c closed =>
    by_cases close : c = ')'
    · subst close
      exact follows x y rest rest' closed
    · simpa [close] using Extends.error

/-- Branches are read again, up to the same place. -/
theorem readBranches_closed {f : Flags} (enough : fuel ≤ fuel') (groups : Groups) (branches items : List Item)
    (closed : Closed cs cs') : Extends (readBranches fuel f groups branches items cs)
      (readBranches fuel' f groups branches items cs') := by
  induction fuel generalizing fuel' f groups branches items cs cs' with
  | zero => exact .error
  | succ fuel ih =>
    obtain ⟨fuel',rfl⟩ := Nat.exists_eq_succ_of_ne_zero (by omega : fuel' ≠ 0)
    have enough := Nat.le_of_succ_le_succ enough
    have repeats (least : Nat) (most : Option Nat) {rest rest' : List Char} (closed : Closed rest rest') : Extends
        (repeatLast f items least most rest >>= fun read => readBranches fuel f groups branches read.1 read.2)
        (repeatLast f items least most rest' >>= fun read => readBranches fuel' f groups branches read.1 read.2) :=
      .bind (repeatLast_closed items least most closed) fun items _ _ closed => ih enough groups branches items closed
    unfold readBranches
    have skipped := closed.skip f
    generalize f.skip cs = start, f.skip cs' = start' at skipped
    split
    case h_1 =>
      cases skipped with
      | ended => exact .ok ⟨rfl,rfl,.ended⟩
      | closing => exact .ok ⟨rfl,rfl,.closing⟩
    case h_14 =>
      obtain ⟨_,rfl,left⟩ := skipped.of_cons
      split
      case h_14 =>
        rename_i same
        obtain ⟨rfl,rfl⟩ := List.cons_eq_cons.mp same
        exact ih enough groups branches _ left
      all_goals simp_all
    all_goals
      obtain ⟨_,rfl,left⟩ := skipped.of_cons
    case h_2 => exact .ok ⟨rfl,rfl,.cons left⟩
    case h_3 => exact ih enough _ _ _ left
    case h_4 =>
      have later (number : Option Nat) (item : Item) (groups : Groups) (rest rest' : List Char)
          (closed : Closed rest rest') := ih (f := f) enough groups branches (item.enclosed number :: items) closed
      refine .bind (readOpening_closed groups left) fun opening rest rest' closed => ?_
      cases opening with
      | flags f' => exact ih enough groups branches _ closed
      | plain f' => exact enclosed_closed (ih (f := f') enough groups [] [] closed) (later none)
      | numbered name => exact enclosed_closed (ih (f := f) enough (name :: groups) [] [] closed) (later _)
    case h_5 => exact .bind (readSet_closed left) fun s _ _ closed => ih enough groups branches _ closed
    case h_6 => exact repeats _ _ left
    case h_7 => exact repeats _ _ left
    case h_8 => exact repeats _ _ left
    case h_9 =>
      exact .guard (.bind (readCounts_closed left) fun counts _ _ closed => repeats _ _ closed)
    case h_10 => exact .value fun s => ih enough _ _ _ left
    case h_11 => exact ih enough _ _ _ left
    case h_12 => exact ih enough _ _ _ left
    case h_13 => exact .bind (readEscape_closed left) fun p _ _ closed => ih enough groups branches _ closed

end Packrat.Pattern
