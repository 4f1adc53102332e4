import Packrat.Pattern.Reader

/-! A text with a closing parenthesis put behind it, and what it means to read the same from both. -/
namespace Packrat.Pattern

/-- The second text is the first one, or has a closing parenthesis behind it. -/
inductive Closed : List Char → List Char → Prop
  | ended : Closed [] []
  | closing : Closed [] [')']
  | cons : Closed cs cs' → Closed (c :: cs) (c :: cs')

namespace Closed

variable {cs cs' : List Char}

theorem append : ∀ cs : List Char, Closed cs (cs ++ [')'])
  | [] => .closing
  | _ :: cs => .cons (append cs)

theorem of_cons (closed : Closed (c :: cs) left) : ∃ cs', left = c :: cs' ∧ Closed cs cs' := by
  cases closed with
  | cons closed => exact ⟨_,rfl,closed⟩

theorem to_cons (other : c ≠ ')') (closed : Closed left (c :: cs')) : ∃ cs, left = c :: cs ∧ Closed cs cs' := by
  cases closed with
  | closing => exact absurd rfl other
  | cons closed => exact ⟨_,rfl,closed⟩

theorem length_le (closed : Closed cs cs') : cs.length ≤ cs'.length := by
  induction closed with
  | ended => exact Nat.le_refl _
  | closing => exact Nat.zero_le _
  | cons _ ih => simpa using ih

theorem dropWhile (p : Char → Bool) (closed : Closed cs cs') : Closed (cs.dropWhile p) (cs'.dropWhile p) := by
  induction closed with
  | ended => exact .ended
  | closing =>
    rw [List.dropWhile_cons]
    split
    · exact .ended
    · exact .closing
  | @cons cs cs' c closed ih =>
    rw [List.dropWhile_cons,List.dropWhile_cons]
    split
    · exact ih
    · exact .cons closed

theorem takeWhile {p : Char → Bool} (closed : Closed cs cs') (left : cs.dropWhile p ≠ []) :
    cs.takeWhile p = cs'.takeWhile p := by
  induction closed with
  | ended => rfl
  | closing => exact absurd rfl left
  | @cons cs cs' c closed ih =>
    rw [List.dropWhile_cons] at left
    rw [List.takeWhile_cons,List.takeWhile_cons]
    split
    · rename_i passes
      rw [if_pos passes] at left
      rw [ih left]
    · rfl

theorem skipBlanks (inComment : Bool) (closed : Closed cs cs') :
    Closed (Flags.skipBlanks inComment cs) (Flags.skipBlanks inComment cs') := by
  induction closed generalizing inComment with
  | ended => cases inComment <;> exact .ended
  | closing =>
    cases inComment with
    | true => exact .ended
    | false => exact .closing
  | @cons cs cs' c closed ih =>
    cases inComment with
    | true => exact ih _
    | false =>
      simp only [Flags.skipBlanks]
      split
      · exact ih _
      split
      · exact ih _
      · exact .cons closed

theorem skip (f : Flags) (closed : Closed cs cs') : Closed (f.skip cs) (f.skip cs') := by
  unfold Flags.skip
  split
  · exact closed.skipBlanks false
  · exact closed

end Closed

theorem Flags.skip_length_le (f : Flags) (cs : List Char) : (f.skip cs).length ≤ cs.length := by
  unfold Flags.skip
  split
  · generalize false = inComment
    induction cs generalizing inComment with
    | nil => cases inComment <;> exact Nat.le_refl _
    | cons c cs ih =>
      cases inComment with
      | true => exact Nat.le_succ_of_le (ih _)
      | false =>
        simp only [skipBlanks]
        split
        · exact Nat.le_succ_of_le (ih _)
        split
        · exact Nat.le_succ_of_le (ih _)
        · exact Nat.le_refl _
  · exact Nat.le_refl _

class Leaves (α : Type) where
  /-- The same was read, and the same text is left, up to a closing parenthesis behind it. -/
  Alike : α → α → Prop

instance : Leaves (List Char) := ⟨Closed⟩

instance {α β : Type} [Leaves β] : Leaves (α × β) := ⟨fun x y => x.1 = y.1 ∧ Leaves.Alike x.2 y.2⟩

/-- What the first reading gives, the second one gives as well, up to a closing parenthesis behind the text
that is left. -/
def Extends {α : Type} [Leaves α] (first second : Reading α) : Prop :=
  ∀ x, first = .ok x → ∃ y, second = .ok y ∧ Leaves.Alike x y

namespace Extends

variable {α β γ δ : Type} [Leaves γ] [Leaves δ] {first second : Reading γ}

theorem error {e : Fault} : Extends (.error e) second := fun _ read => nomatch read

theorem ok {x y : γ} (alike : Leaves.Alike x y) : Extends (.ok x) (.ok y) := by
  intro z read
  cases read
  exact ⟨y,rfl,alike⟩

/-- A reading goes on alike after a first one. -/
theorem chain {next next' : γ → Reading δ} (begins : Extends first second)
    (follows : ∀ x y, Leaves.Alike x y → Extends (next x) (next' y)) : Extends (first >>= next) (second >>= next') := by
  intro z read
  cases first with
  | error e => cases read
  | ok x =>
    obtain ⟨y,again,alike⟩ := begins x rfl
    rw [again]
    exact follows x y alike z read

theorem bind {first second : Reading (α × List Char)} {next next' : α × List Char → Reading γ}
    (begins : Extends first second)
    (follows : ∀ x rest rest', Closed rest rest' → Extends (next (x,rest)) (next' (x,rest'))) :
    Extends (first >>= next) (second >>= next') := by
  refine begins.chain fun (x,rest) (x',rest') alike => ?_
  obtain ⟨same,closed⟩ : x = x' ∧ Closed rest rest' := alike
  subst same
  exact follows x rest rest' closed

/-- A reading goes on alike after one that gives two things. -/
theorem bindBoth {first second : Reading (α × β × List Char)} {next next' : α × β × List Char → Reading γ}
    (begins : Extends first second)
    (follows : ∀ x y rest rest', Closed rest rest' → Extends (next (x,y,rest)) (next' (x,y,rest'))) :
    Extends (first >>= next) (second >>= next') := by
  refine begins.chain fun (x,y,rest) (x',y',rest') alike => ?_
  obtain ⟨same,same',closed⟩ : x = x' ∧ y = y' ∧ Closed rest rest' := alike
  subst same same'
  exact follows x y rest rest' closed

theorem value {r : Reading α} {next next' : α → Reading γ} (follows : ∀ x, Extends (next x) (next' x)) :
    Extends (r >>= next) (r >>= next') := by
  cases r with
  | error e => exact error
  | ok x => exact follows x

theorem guard {p : Prop} [Decidable p] {e : Fault} (otherwise : Extends first second) :
    Extends (if p then .error e else first) (if p then .error e else second) := by
  split
  · exact error
  · exact otherwise

end Extends

/-- Characters of a kind are read up to the closing parenthesis at most. -/
theorem readKind_closed {f : Flags} {cs cs' : List Char} {p : Char → Bool} {told : List Char → β}
    (read : Nat → List Char → List Char → β × List Char)
    (ended : ∀ fuel taken, read (fuel + 1) taken [] = (told taken,[]))
    (next : ∀ fuel taken c rest, read (fuel + 1) taken (c :: rest) =
      if p c then read fuel (c :: taken) (f.skip rest) else (told taken,c :: rest))
    (other : p ')' = false) (enough : cs.length < fuel) (enough' : cs'.length < fuel') (taken : List Char)
    (closed : Closed cs cs') : (read fuel taken cs).1 = (read fuel' taken cs').1 ∧
      Closed (read fuel taken cs).2 (read fuel' taken cs').2 := by
  induction fuel generalizing fuel' taken cs cs' with
  | zero => omega
  | succ fuel ih =>
    obtain ⟨fuel',rfl⟩ := Nat.exists_eq_succ_of_ne_zero (by omega : fuel' ≠ 0)
    cases closed with
    | ended =>
      rw [ended,ended]
      exact ⟨rfl,.ended⟩
    | closing =>
      rw [ended,next,if_neg (Bool.eq_false_iff.mp other)]
      exact ⟨rfl,.closing⟩
    | @cons cs cs' c closed =>
      have short := f.skip_length_le cs
      have short' := f.skip_length_le cs'
      rw [List.length_cons] at enough enough'
      rw [next,next]
      split
      · exact ih (by omega) (by omega) _ (closed.skip f)
      · exact ⟨rfl,.cons closed⟩

end Packrat.Pattern
