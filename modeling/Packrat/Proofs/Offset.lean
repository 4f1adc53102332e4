import Packrat.Text.Offset

/-! Byte offsets and pieces of a text. An offset at which a text can be cut in two tells the cut, and
the offsets where a piece starts and stops tell the piece. -/
namespace Packrat.Text

@[simp] theorem byteSize_nil : byteSize [] = 0 := rfl

@[simp] theorem byteSize_cons (c : Char) (text : List Char) :
    byteSize (c :: text) = c.utf8Size + byteSize text := rfl

@[simp] theorem byteSize_append (a b : List Char) : byteSize (a ++ b) = byteSize a + byteSize b := by
  induction a with
  | nil => simp
  | cons c a ih => simp [ih,Nat.add_assoc]

@[simp] theorem byteSize_reverse (text : List Char) : byteSize text.reverse = byteSize text := by
  induction text with
  | nil => rfl
  | cons c text ih => simp [ih,Nat.add_comm]

theorem byteSize_pos {text : List Char} (nonempty : text ≠ []) : 0 < byteSize text := by
  obtain ⟨c,rest,rfl⟩ := List.exists_cons_of_ne_nil nonempty
  have := c.utf8Size_pos
  rw [byteSize_cons]
  omega

theorem byteSize_eq_zero {text : List Char} (zero : byteSize text = 0) : text = [] := by
  cases text with
  | nil => rfl
  | cons c rest =>
    have := byteSize_pos (List.cons_ne_nil c rest)
    omega

/-- Taking more of a text takes more bytes. -/
theorem byteSize_take_lt {text : List Char} (less : m < n) (within : n ≤ text.length) :
    byteSize (text.take m) < byteSize (text.take n) := by
  obtain ⟨more,rfl⟩ := Nat.exists_eq_add_of_lt less
  have rest : (text.drop m).take (more + 1) ≠ [] := by
    intro empty
    have short := congrArg List.length empty
    rw [List.length_take,List.length_drop,List.length_nil] at short
    omega
  have := byteSize_pos rest
  rw [Nat.add_assoc,List.take_add,byteSize_append]
  omega

/-- The byte size of what stands before a cut tells the cut. -/
theorem append_inj_of_byteSize {a b a' b' : List Char} (same : a ++ b = a' ++ b')
    (size : byteSize a = byteSize a') : a = a' ∧ b = b' := by
  rcases List.append_eq_append_iff.mp same with ⟨more,rfl,rfl⟩ | ⟨more,rfl,rfl⟩
  all_goals
    rw [byteSize_append] at size
    have zero : byteSize more = 0 := by omega
    obtain rfl := byteSize_eq_zero zero
    simp

theorem forward?_append (before passed after : List Char) :
    Cut.forward? before (passed ++ after) (byteSize passed) = some ⟨passed.reverse ++ before,after⟩ := by
  induction passed generalizing before with
  | nil => cases after <;> rfl
  | cons c passed ih =>
    have pos := c.utf8Size_pos
    obtain ⟨bytes,eq⟩ := Nat.exists_eq_succ_of_ne_zero (by omega : c.utf8Size + byteSize passed ≠ 0)
    rw [byteSize_cons,eq,List.cons_append,Cut.forward?,if_pos (by omega),← Nat.succ_eq_add_one,← eq,
      Nat.add_sub_cancel_left,ih]
    simp

theorem cutAt?_append (before after : List Char) :
    cutAt? (before ++ after) (byteSize before) = some ⟨before.reverse,after⟩ := by
  simp [cutAt?,forward?_append]

theorem forward?_eq_some {before after : List Char} {bytes : Nat} (found : Cut.forward? before after bytes = some cut) :
    ∃ passed, after = passed ++ cut.after ∧ cut.before = passed.reverse ++ before ∧ byteSize passed = bytes := by
  induction after generalizing before bytes with
  | nil =>
    cases bytes with
    | zero =>
      cases found
      exact ⟨[],rfl,rfl,rfl⟩
    | succ bytes => cases found
  | cons c rest ih =>
    cases bytes with
    | zero =>
      cases found
      exact ⟨[],rfl,rfl,rfl⟩
    | succ bytes =>
      rw [Cut.forward?] at found
      split at found
      · obtain ⟨passed,rfl,eq,size⟩ := ih found
        exact ⟨c :: passed,rfl,by simp [eq],by rw [byteSize_cons]; omega⟩
      · cases found

theorem cutAt?_eq_some {text : List Char} {offset : Nat} (found : cutAt? text offset = some cut) :
    text = cut.before.reverse ++ cut.after ∧ byteSize cut.before = offset := by
  obtain ⟨passed,eq,before,size⟩ := forward?_eq_some found
  rw [List.append_nil] at before
  rw [before,List.reverse_reverse,byteSize_reverse]
  exact ⟨eq,size⟩

/-- A piece of a text and the byte offsets where it starts and stops. -/
def Between (text : List Char) (start stop : Nat) (piece : List Char) : Prop :=
  ∃ before after, text = before ++ piece ++ after ∧ byteSize before = start ∧ stop = start + byteSize piece

namespace Between

variable {text piece piece' : List Char} {start middle stop : Nat}

theorem stop_eq (stands : Between text start stop piece) : stop = start + byteSize piece := by
  obtain ⟨_,_,_,_,eq⟩ := stands
  exact eq

theorem stop_le (stands : Between text start stop piece) : stop ≤ byteSize text := by
  obtain ⟨before,after,rfl,rfl,rfl⟩ := stands
  simp only [byteSize_append]
  omega

theorem whole (text : List Char) : Between text 0 (byteSize text) text :=
  ⟨[],[],by simp,rfl,(Nat.zero_add _).symm⟩

/-- Only one piece stands between two offsets. -/
theorem unique (stands : Between text start stop piece) (stands' : Between text start stop piece') :
    piece = piece' := by
  obtain ⟨before,after,eq,size,rfl⟩ := stands
  obtain ⟨before',after',eq',size',stop⟩ := stands'
  rw [eq,List.append_assoc,List.append_assoc] at eq'
  obtain ⟨_,rest⟩ := append_inj_of_byteSize eq' (size.trans size'.symm)
  exact (append_inj_of_byteSize rest (by omega)).1

/-- Pieces that follow one another are one piece. -/
theorem append (first : Between text start middle piece) (second : Between text middle stop piece') :
    Between text start stop (piece ++ piece') := by
  obtain ⟨before,after,eq,size,rfl⟩ := first
  obtain ⟨before',after',eq',size',rfl⟩ := second
  obtain ⟨rfl,rfl⟩ := append_inj_of_byteSize (eq.symm.trans (eq'.trans (List.append_assoc _ _ _)))
    (by rw [byteSize_append]; omega)
  exact ⟨before,after',by rw [eq]; simp,size,by rw [byteSize_append]; omega⟩

/-- What starts inside a piece is part of it. -/
theorem mem (stands : Between text start stop piece) (inside : Between text offset stop' (c :: rest))
    (begun : start ≤ offset) (upTo : offset < stop) : c ∈ piece := by
  obtain ⟨before,after,eq,size,rfl⟩ := stands
  obtain ⟨before',after',eq',size',_⟩ := inside
  have same := eq.symm.trans eq'
  rw [List.append_assoc,List.append_assoc] at same
  rcases List.append_eq_append_iff.mp same with ⟨skipped,rfl,same'⟩ | ⟨more,rfl,same'⟩
  · rw [byteSize_append] at size'
    rcases List.append_eq_append_iff.mp same' with ⟨more,rfl,_⟩ | ⟨more,rfl,same''⟩
    · rw [byteSize_append] at size'
      omega
    · cases more with
      | nil =>
        rw [List.append_nil] at upTo
        omega
      | cons d more =>
        obtain ⟨rfl,_⟩ := List.cons_eq_cons.mp same''
        simp
  · rw [byteSize_append] at size
    have zero : byteSize more = 0 := by omega
    obtain rfl := byteSize_eq_zero zero
    cases piece with
    | nil =>
      rw [byteSize_nil] at upTo
      omega
    | cons d piece =>
      obtain ⟨rfl,_⟩ := List.cons_eq_cons.mp same'
      simp

end Between

end Packrat.Text
