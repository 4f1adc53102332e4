import Packrat.Data
import Packrat.Json.Tree
import Packrat.Json.Writer

/-! What JSON texts are cut into: a string that was written stands for its text, an integer for
itself, and blanks between them do not matter. -/
namespace Packrat.Json

section Strings

/-- A control is written by four digits that are its number. -/
theorem fourDigits_control : ∀ n < 32, fourDigits n = ['0','0',Nat.digitChar (n / 16 % 16),Nat.digitChar (n % 16)] ∧
    Quoted.code? '0' '0' (Nat.digitChar (n / 16 % 16)) (Nat.digitChar (n % 16)) = some n ∧
    Quoted.isHighHalf n = false ∧ Quoted.isLowHalf n = false := by
  decide

inductive Escaped (c : Char) : List Char → Prop where
  | letter (letter : Char) (known : Quoted.letters.lookup letter = some c) (other : letter ≠ 'u') :
    Escaped c ['\\',letter]
  | digits (a b d e : Char) (code : Quoted.code? a b d e = some c.toNat)
      (high : Quoted.isHighHalf c.toNat = false) (low : Quoted.isLowHalf c.toNat = false) :
    Escaped c ['\\','u',a,b,d,e]
  | itself (quote : c ≠ '"') (backslash : c ≠ '\\') (printed : ¬c < ' ') : Escaped c [c]

theorem escape_escaped (c : Char) : Escaped c (escape c) := by
  unfold escape
  split
  · rename_i same; obtain rfl := eq_of_beq same; exact .letter '"' rfl (by decide)
  split
  · rename_i same; obtain rfl := eq_of_beq same; exact .letter '\\' rfl (by decide)
  split
  · rename_i same; obtain rfl := eq_of_beq same; exact .letter 'b' rfl (by decide)
  split
  · rename_i same; obtain rfl := eq_of_beq same; exact .letter 'f' rfl (by decide)
  split
  · rename_i same; obtain rfl := eq_of_beq same; exact .letter 'n' rfl (by decide)
  split
  · rename_i same; obtain rfl := eq_of_beq same; exact .letter 'r' rfl (by decide)
  split
  · rename_i same; obtain rfl := eq_of_beq same; exact .letter 't' rfl (by decide)
  split
  · rename_i control
    obtain ⟨digits,code,high,low⟩ := fourDigits_control c.toNat control
    rw [digits]
    exact .digits _ _ _ _ code high low
  · rename_i quote backslash _ _ _ _ _ control
    exact .itself (by simpa using quote) (by simpa using backslash) control

namespace Quoted

variable {c : Char} {written : List Char}

theorem split?_escaped (escaped : Escaped c written) (rest : List Char) :
    split? (written ++ rest) = (split? rest).map fun (raw,after) => (written ++ raw,after) := by
  cases escaped with
  | letter letter known other =>
    have unlike : ∀ a b d e more, letter = 'u' → rest = a :: b :: d :: e :: more → False :=
      fun _ _ _ _ _ same => absurd same other
    rw [List.cons_append,List.singleton_append,split?.eq_4 letter rest unlike,known]
    cases split? rest <;> rfl
  | digits a b d e code high low =>
    simp only [List.cons_append,List.nil_append,split?,code]
    cases split? rest <;> rfl
  | itself quote backslash printed =>
    rw [List.singleton_append,split?.eq_5 c rest quote (fun _ _ _ _ _ same => absurd same backslash)
      fun _ _ same => absurd same backslash]
    simp [printed,backslash]

/-- A string that was written ends where it is closed. -/
theorem split?_escape (cs rest : List Char) :
    split? (cs.flatMap escape ++ '"' :: rest) = some (cs.flatMap escape,rest) := by
  induction cs with
  | nil => rfl
  | cons c cs ih =>
    rw [List.flatMap_cons,List.append_assoc,split?_escaped (escape_escaped c),ih]
    rfl

theorem text?_of_code?_none (lost : code? a b d e = none) (rest : List Char) :
    text? ('\\' :: 'u' :: a :: b :: d :: e :: rest) = none := by
  by_cases followed : ∃ f g h i more, rest = '\\' :: 'u' :: f :: g :: h :: i :: more
  · obtain ⟨f,g,h,i,more,rfl⟩ := followed
    rw [text?.eq_2,lost]
  · rw [text?.eq_3 a b d e rest fun f g h i more same => followed ⟨f,g,h,i,more,same⟩,lost]

theorem text?_escaped (escaped : Escaped c written) (rest : List Char) :
    text? (written ++ rest) = (text? rest).map (c :: ·) := by
  cases escaped with
  | letter letter known other =>
    rw [List.cons_append,List.singleton_append,text?.eq_4 letter rest
      (fun _ _ _ _ _ _ _ _ _ same => absurd same other) (fun _ _ _ _ _ same => absurd same other),known]
  | digits a b d e code high low =>
    have itself : Char.ofNat c.toNat = c := Char.ofNat_toNat c
    simp only [List.cons_append,List.nil_append]
    -- The number may be followed by another, which might have been its other half.
    by_cases followed : ∃ f g h i more, rest = '\\' :: 'u' :: f :: g :: h :: i :: more
    · obtain ⟨f,g,h,i,more,rfl⟩ := followed
      cases second : code? f g h i with
      | some m => simp [text?.eq_2,code,second,high,low,itself]
      | none =>
        simp [text?.eq_2,code,second,text?_of_code?_none second more]
    · rw [text?.eq_3 a b d e rest fun f g h i more same => followed ⟨f,g,h,i,more,same⟩,code]
      simp [high,low,itself]
  | itself quote backslash printed =>
    rw [List.singleton_append,text?.eq_5 c rest (fun _ _ _ _ _ _ _ _ _ same => absurd same backslash)
      (fun _ _ _ _ _ same => absurd same backslash) fun _ _ same => absurd same backslash]

/-- A string that was written stands for its text. -/
theorem text?_escape (cs : List Char) : text? (cs.flatMap escape) = some cs := by
  induction cs with
  | nil => rfl
  | cons c cs ih =>
    rw [List.flatMap_cons,text?_escaped (escape_escaped c),ih]
    rfl

end Quoted

end Strings

section Integers

theorem isAsciiDigit_of_mem (member : c ∈ Nat.toDigits 10 n) : Decimal.isAsciiDigit c = true := by
  have digit := Nat.isDigit_of_mem_toDigits (by decide) (Nat.le_refl 10) member
  simpa [Decimal.isAsciiDigit,Char.isDigit,Char.le_def] using digit

theorem ofDigits_toDigits (n : Nat) : Decimal.ofDigits (Nat.toDigits 10 n) = n :=
  Nat.ofDigitChars_ten_toDigits

/-- A number other than zero is not written with a zero before it. -/
theorem toDigits_head (n : Nat) (positive : 0 < n) : ∃ c cs, Nat.toDigits 10 n = c :: cs ∧ c ≠ '0' := by
  induction n using Nat.strongRecOn with
  | _ n ih =>
    by_cases small : n < 10
    · refine ⟨n.digitChar,[],Nat.toDigits_of_lt_base small,?_⟩
      have nonzero : ∀ n < 10, 0 < n → n.digitChar ≠ '0' := by decide
      exact nonzero n small positive
    · obtain ⟨c,cs,digits,other⟩ := ih (n / 10) (by omega) (by omega)
      refine ⟨c,cs ++ [(n % 10).digitChar],?_,other⟩
      rw [Nat.toDigits_of_base_le (by decide) (by omega),digits]
      rfl

/-- What may stand behind a value: the end, or the start of what separates it from the next. -/
def Ends (rest : List Char) : Prop := ∀ c ∈ rest.head?, c ∈ [',',']','\x7d','\n']

theorem Ends.cases (ends : Ends (c :: rest)) : c = ',' ∨ c = ']' ∨ c = '\x7d' ∨ c = '\n' := by
  simpa using ends c rfl

theorem Ends.not_digit (ends : Ends rest) : rest.takeWhile Decimal.isAsciiDigit = [] ∧
    rest.dropWhile Decimal.isAsciiDigit = rest := by
  cases rest with
  | nil => exact ⟨rfl,rfl⟩
  | cons c rest => rcases ends.cases with rfl | rfl | rfl | rfl <;> exact ⟨rfl,rfl⟩

def Numeral.ofInt (n : Int) : Numeral := ⟨decide (n < 0),Nat.toDigits 10 n.natAbs,[],0,true⟩

theorem toList_toString (n : Int) :
    (toString n).toList = (if n < 0 then ['-'] else []) ++ Nat.toDigits 10 n.natAbs := by
  cases n with
  | ofNat n => exact Nat.toList_repr
  | negSucc n =>
    have written : (toString (Int.negSucc n)).toList = '-' :: (Nat.repr (n + 1)).toList := by
      simp [toString,Int.repr]
    rw [written,Nat.toList_repr,if_pos (Int.negSucc_lt_zero n)]
    rfl

namespace Numeral

theorem digits?_toDigits (n : Nat) (ends : Ends rest) :
    digits? (Nat.toDigits 10 n ++ rest) = some (Nat.toDigits 10 n,rest) := by
  obtain ⟨stopped,kept⟩ := ends.not_digit
  have all : ∀ c ∈ Nat.toDigits 10 n, Decimal.isAsciiDigit c = true := fun _ member => isAsciiDigit_of_mem member
  rw [digits?,List.takeWhile_append_of_pos all,List.dropWhile_append_of_pos all,stopped,kept,List.append_nil]
  cases digits : Nat.toDigits 10 n with
  | nil => exact absurd digits Nat.toDigits_ne_nil
  | cons c cs => rfl

theorem whole?_toDigits (n : Nat) (ends : Ends rest) :
    whole? (Nat.toDigits 10 n ++ rest) = some (Nat.toDigits 10 n,rest) := by
  by_cases zero : n = 0
  · subst zero
    rfl
  · obtain ⟨c,cs,digits,other⟩ := toDigits_head n (by omega)
    have longer := digits?_toDigits n ends
    rw [digits,List.cons_append] at longer ⊢
    rw [whole?.eq_2 _ fun more same => other (List.cons.inj same).1]
    exact longer

theorem fraction?_ends (ends : Ends rest) : fraction? rest = some ([],rest) := by
  refine fraction?.eq_2 rest fun more same => ?_
  subst same
  exact absurd ends.cases (by decide)

theorem exponent?_ends (ends : Ends rest) : exponent? rest = some (none,rest) := by
  cases rest with
  | nil => rfl
  | cons c rest => rcases ends.cases with rfl | rfl | rfl | rfl <;> rfl

/-- An integer that was written reads as itself. -/
theorem read?_ofInt (n : Int) (ends : Ends rest) : read? ((toString n).toList ++ rest) = some (ofInt n,rest) := by
  have whole := whole?_toDigits n.natAbs ends
  rw [toList_toString]
  by_cases negative : n < 0
  · rw [if_pos negative,List.append_assoc,List.singleton_append]
    simp [read?,whole,fraction?_ends ends,exponent?_ends ends,ofInt,negative]
  · have unsigned : ∀ more, Nat.toDigits 10 n.natAbs ++ rest = '-' :: more → False := by
      intro more same
      cases digits : Nat.toDigits 10 n.natAbs with
      | nil => exact Nat.toDigits_ne_nil digits
      | cons c cs =>
        have digit : Decimal.isAsciiDigit c = true := isAsciiDigit_of_mem (by rw [digits]; exact List.mem_cons_self)
        rw [digits] at same
        obtain ⟨rfl,_⟩ := List.cons.inj same
        cases digit
    rw [if_neg negative,List.nil_append,read?.eq_2 _ unsigned]
    simp [whole,fraction?_ends ends,exponent?_ends ends,ofInt,negative]

theorem toInt64?_ofInt (n : Int) : (ofInt n).toInt64? = Decimal.toInt64? n := by
  have magnitude : (Decimal.ofDigits (ofInt n).whole : Int) = n.natAbs := by
    rw [ofInt,ofDigits_toDigits]
  unfold toInt64?
  dsimp only
  rw [magnitude]
  by_cases negative : n < 0
  · have signed : (ofInt n).negative = true := decide_eq_true negative
    have nonzero : ((n.natAbs : Int) == 0) = false := beq_false_of_ne (by omega)
    have itself : -(n.natAbs : Int) = n := by omega
    rw [signed,nonzero]
    exact congrArg Decimal.toInt64? itself
  · have unsigned : (ofInt n).negative = false := decide_eq_false negative
    have itself : (n.natAbs : Int) = n := by omega
    rw [unsigned]
    exact congrArg Decimal.toInt64? itself

end Numeral

end Integers

end Packrat.Json
