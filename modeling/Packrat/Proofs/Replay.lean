import Packrat.Match.Failure

/-! What came up once may come up again: the furthest failures stay what they are. Main statement: failures
that come up again, wherever they do, change neither the furthest ones nor the error that is made of them. -/
namespace Packrat.Furthest

def Covers (f : Furthest) : Failure → Prop
  | .expected pos token _ => ∃ furthest, f.pos = some furthest ∧
      (pos < furthest ∨ pos = furthest ∧ token ∈ f.expected)
  | .rejected r => ∃ current, f.rejection = some current ∧ r.stop ≤ current.stop

variable {failure : Failure}

theorem note_of_covers {f : Furthest} (covers : Covers f failure) : f.note failure = f := by
  cases failure with
  | expected pos token rule =>
    obtain ⟨furthest,reached,before | ⟨rfl,member⟩⟩ := covers
    · simp [note,noteExpected,reached,before]
    · simp [note,noteExpected,reached,member]
  | rejected r =>
    obtain ⟨current,first,le⟩ := covers
    simp [note,noteRejection,first,Nat.not_lt.mpr le]

theorem covers_note_self (f : Furthest) (failure : Failure) : (f.note failure).Covers failure := by
  cases failure with
  | expected pos token rule =>
    cases reached : f.pos with
    | none => simp [note,noteExpected,reached,Covers]
    | some furthest =>
      rcases Nat.lt_trichotomy pos furthest with before | rfl | after
      · simp [note,noteExpected,reached,before,Covers]
      · by_cases member : token ∈ f.expected <;> simp [note,noteExpected,reached,member,Covers]
      · simp [note,noteExpected,reached,Nat.lt_asymm after,Nat.ne_of_gt after,Covers]
  | rejected r =>
    cases current : f.rejection with
    | none => simp [note,noteRejection,current,Covers]
    | some current' =>
      by_cases further : current'.stop < r.stop
      · simp [note,noteRejection,current,further,Covers]
      · simp [note,noteRejection,current,further,Covers,Nat.not_lt.mp further]

/-- The last position only moves on, and what was required there stays until it does. -/
theorem Covers.note {f : Furthest} (covers : f.Covers failure) (later : Failure) :
    (f.note later).Covers failure := by
  cases failure with
  | expected pos token rule =>
    obtain ⟨furthest,reached,before⟩ := covers
    cases later with
    | rejected r =>
      have same : (f.note (.rejected r)).pos = f.pos ∧ (f.note (.rejected r)).expected = f.expected := by
        simp only [Furthest.note,noteRejection]
        split <;> exact ⟨rfl,rfl⟩
      exact ⟨furthest,same.1.trans reached,by rw [same.2]; exact before⟩
    | expected pos' token' rule' =>
      rcases Nat.lt_trichotomy pos' furthest with earlier | rfl | after
      · have same : f.note (.expected pos' token' rule') = f := note_of_covers ⟨furthest,reached,.inl earlier⟩
        rw [same]
        exact ⟨furthest,reached,before⟩
      · refine ⟨pos',?_,?_⟩
        · simp only [Furthest.note,noteExpected,reached]
          split <;> (try split) <;> (try split) <;> simp_all
        · refine before.imp_right fun ⟨same,member⟩ => ⟨same,?_⟩
          by_cases known : token' ∈ f.expected
          · simpa [Furthest.note,noteExpected,reached,known] using member
          · simp [Furthest.note,noteExpected,reached,known,member]
      · refine ⟨pos',?_,.inl (by omega)⟩
        simp [Furthest.note,noteExpected,reached,Nat.lt_asymm after,Nat.ne_of_gt after]
  | rejected r =>
    obtain ⟨current,first,le⟩ := covers
    cases later with
    | expected pos' token' rule' =>
      refine ⟨current,?_,le⟩
      simp only [Furthest.note,noteExpected]
      split <;> (try split) <;> (try split) <;> (try split) <;> exact first
    | rejected r' =>
      by_cases further : current.stop < r'.stop
      · exact ⟨r',by simp [Furthest.note,noteRejection,first,further],by omega⟩
      · exact ⟨current,by simp [Furthest.note,noteRejection,first,further],le⟩

theorem foldl_note_of_covers {f : Furthest} {again : List Failure} (covers : ∀ failure ∈ again, Covers f failure) :
    again.foldl note f = f := by
  induction again with
  | nil => rfl
  | cons first again ih =>
    rw [List.foldl_cons,note_of_covers (covers first List.mem_cons_self)]
    exact ih fun failure member => covers failure (List.mem_cons_of_mem _ member)

theorem covers_foldl {failures : List Failure} (f : Furthest)
    (known : failure ∈ failures ∨ f.Covers failure) : (failures.foldl note f).Covers failure := by
  induction failures generalizing f with
  | nil => exact known.resolve_left List.not_mem_nil
  | cons first rest ih =>
    refine ih (f.note first) ?_
    rcases known with member | covers
    · rcases List.mem_cons.mp member with rfl | member
      · exact .inr (covers_note_self f failure)
      · exact .inl member
    · exact .inr (covers.note first)

/-- Failures that all came up before change nothing. -/
theorem ofFailures_again {failures again : List Failure} (known : again ⊆ failures) :
    ofFailures (failures ++ again) = ofFailures failures := by
  rw [ofFailures,List.foldl_append]
  exact foldl_note_of_covers fun failure member => covers_foldl {} (.inl (known member))

/-- Failures with equal furthest ones go on alike. -/
theorem ofFailures_append_congr {failures failures' : List Failure}
    (same : ofFailures failures = ofFailures failures') (more : List Failure) :
    ofFailures (failures ++ more) = ofFailures (failures' ++ more) := by
  rw [ofFailures,ofFailures,List.foldl_append,List.foldl_append]
  exact congrArg (List.foldl note · more) same

/-- The second sequence is the first one with some failures coming up again, each at any point after its first
time. -/
inductive Repeats : List Failure → List Failure → Prop
  | nil : Repeats [] []
  | new (failure : Failure) : Repeats failures longer → Repeats (failures ++ [failure]) (longer ++ [failure])
  | again {failure : Failure} : failure ∈ failures → Repeats failures longer → Repeats failures (longer ++ [failure])

theorem note_of_mem {failures : List Failure} (known : failure ∈ failures) :
    (ofFailures failures).note failure = ofFailures failures :=
  note_of_covers (covers_foldl {} (.inl known))

theorem Repeats.ofFailures_eq (repeats : Repeats failures longer) : ofFailures longer = ofFailures failures := by
  induction repeats with
  | nil => rfl
  | new failure _ ih => exact ofFailures_append_congr ih [failure]
  | again known _ ih =>
    rw [ofFailures,List.foldl_append,← ofFailures,ih]
    exact note_of_mem known

/-- A failure that came up before says nothing new. So whatever comes up again, in whatever order and however
much later, the furthest failures are the same, also when others follow, and so are the errors. -/
theorem repeats_unnoticed (failures : List Failure) :
    (∀ failure ∈ failures, (ofFailures failures).note failure = ofFailures failures) ∧
    (∀ again more, again ⊆ failures → ofFailures (failures ++ again ++ more) = ofFailures (failures ++ more)) ∧
    ∀ longer, Repeats failures longer → ofFailures longer = ofFailures failures ∧
      ∀ lexemes input start,
        (ofFailures longer).error lexemes input start = (ofFailures failures).error lexemes input start ∧
        ∀ stop, (ofFailures longer).trailingError lexemes input start stop =
          (ofFailures failures).trailingError lexemes input start stop := by
  refine ⟨fun failure known => note_of_mem known,?_,fun longer repeats => ?_⟩
  · intro again more known
    exact ofFailures_append_congr (ofFailures_again known) more
  · have same := repeats.ofFailures_eq
    rw [same]
    exact ⟨rfl,fun lexemes input start => ⟨rfl,fun stop => rfl⟩⟩

theorem repeats_unnoticed_overtaken :
    let a : Failure := .expected 0 "A" "a"
    let r : Failure := .rejected ⟨"a","act","refused",0,1⟩
    let b : Failure := .expected 2 "B" "b"
    a ∈ [a,r,b] ∧ [r,a] ⊆ [a,r,b] ∧ Repeats [a,r,b] [a,r,a,b,r,a] ∧
    (ofFailures [a,r,b]).note a = ofFailures [a,r,b] ∧
    ofFailures ([a,r,b] ++ [r,a] ++ [b]) = ofFailures ([a,r,b] ++ [b]) ∧
    ofFailures [a,r,a,b,r,a] = ofFailures [a,r,b] ∧
    (ofFailures [a,r,a,b,r,a]).trailingError #[] "" "a" 0 = (ofFailures [a,r,b]).trailingError #[] "" "a" 0 := by
  intro a r b
  have known : a ∈ [a,r,b] := List.mem_cons_self
  have again : [r,a] ⊆ [a,r,b] := by simp
  have refused : Repeats [a,r] [a,r,a] := .again (by simp) (.new r (.new a .nil))
  have later : Repeats [a,r,b] [a,r,a,b,r] := .again (by simp) (.new b refused)
  have repeats : Repeats [a,r,b] [a,r,a,b,r,a] := .again known later
  obtain ⟨noted,followed,longer⟩ := repeats_unnoticed [a,r,b]
  have same := longer _ repeats
  exact ⟨known,again,repeats,noted a known,followed [r,a] [b] again,same.1,(same.2 #[] "" "a").2 0⟩

end Packrat.Furthest
