import Packrat.Proofs.Growth

/-! Two runs side by side. A relation between states that the primitive computations keep is kept
by matching the alternatives of a rule, whatever the rules they refer to are matched with. So a
statement about two runs needs its own argument only where a rule is looked up, entered and left. -/
namespace Packrat.Match

def fault : Except Abort α → Option Abort
  | .ok _ => none
  | .error e => some e

/-- From related states the second computation comes to the same result as the first and to a
related state, unless the first one escapes. The second is a family, whose members count from some
point on; a computation with a growing limit on its depth is one. -/
structure Simulates (R : State → State → Prop) (E : Option Abort → State → Prop)
    (m : Matching α) (m' : Nat → Matching α) : Prop where
  grows : Growing m
  step : ∀ s s', R s s' → E (fault (m s).1) (m s).2 ∨
    ∃ u' least, R (m s).2 u' ∧ ∀ n, least ≤ n → m' n s' = ((m s).1,u')

def Lasting (E : Option Abort → State → Prop) : Prop :=
  ∀ {s u : State} (a : Option Abort), E none s → Grows s u → E a u

section Rules

variable {R : State → State → Prop} {E : Option Abort → State → Prop}

namespace Simulates

protected theorem pure (a : α) : Simulates R E (pure a) fun _ => pure a where
  grows s := .refl s
  step _ s' related := .inr ⟨s',0,related,fun _ _ => rfl⟩

protected theorem abort (e : Abort) : Simulates R E (Matching.abort (α := α) e) fun _ => Matching.abort e where
  grows s := .refl s
  step _ s' related := .inr ⟨s',0,related,fun _ _ => rfl⟩

protected theorem bind {m : Matching α} {m' : Nat → Matching α} {f : α → Matching β}
    {f' : Nat → α → Matching β} (lasting : Lasting E) (first : Simulates R E m m')
    (rest : ∀ a, Simulates R E (f a) fun n => f' n a) :
    Simulates R E (m >>= f) fun n => m' n >>= f' n where
  grows s := by
    have grown := first.grows s
    rw [Matching.bind_run]
    cases ran : m s with
    | mk result u =>
      rw [ran] at grown
      cases result with
      | ok a => exact grown.trans ((rest a).grows u)
      | error e => exact grown
  step s s' related := by
    have reached := first.step s s' related
    simp only [Matching.bind_run]
    cases ran : m s with
    | mk result u =>
      rw [ran] at reached
      cases result with
      | error e =>
        rcases reached with escaped | ⟨u',least,related',same⟩
        · exact .inl escaped
        · exact .inr ⟨u',least,related',fun n above => by rw [same n above]⟩
      | ok a =>
        rcases reached with escaped | ⟨u',least,related',same⟩
        · exact .inl (lasting _ escaped ((rest a).grows u))
        rcases (rest a).step u u' related' with escaped | ⟨v',least',related'',same'⟩
        · exact .inl escaped
        refine .inr ⟨v',max least least',related'',fun n above => ?_⟩
        rw [same n (by omega)]
        exact same' n (by omega)

/-- A computation that never escapes and does the same in related states. -/
theorem of_same {m : Matching α} (grows : Growing m)
    (same : ∀ s s', R s s' → (m s').1 = (m s).1 ∧ R (m s).2 (m s').2) :
    Simulates R E m fun _ => m where
  grows := grows
  step s s' related := by
    obtain ⟨result,related'⟩ := same s s' related
    exact .inr ⟨(m s').2,0,related',fun _ _ => Prod.ext result rfl⟩

/-- Members of the family may be left out at its start. -/
theorem shift {m' : Nat → Matching α} (later : Simulates R E m fun n => m' (n + 1)) :
    Simulates R E m m' where
  grows := later.grows
  step s s' related := by
    rcases later.step s s' related with escaped | ⟨u',least,related',same⟩
    · exact .inl escaped
    refine .inr ⟨u',least + 1,related',fun n above => ?_⟩
    obtain ⟨n,rfl⟩ := Nat.exists_eq_succ_of_ne_zero (by omega : n ≠ 0)
    exact same n (by omega)

/-- A match inside a frame of its own. Leaving the frame, what both runs did inside is known. -/
protected theorem framed {inside : Matching (Option Matched)} {inside' : Nat → Matching (Option Matched)}
    (rule pos : Nat) (body : Simulates R E inside inside')
    (enter : ∀ {s s'}, R s s' → R (s.enter rule pos) (s'.enter rule pos))
    (escape : ∀ {s s' u} (result : Except Abort (Option Matched)), R s s' →
      Grows (s.enter rule pos) u → E (fault result) u → E (fault result) (u.leave rule pos result))
    (leave : ∀ {s s' u u' result n}, R s s' → Grows (s.enter rule pos) u →
      inside (s.enter rule pos) = (result,u) → ¬E (fault result) u → R u u' →
      inside' n (s'.enter rule pos) = (result,u') →
      R (u.leave rule pos result) (u'.leave rule pos result)) :
    Simulates R E (framed rule pos inside) fun n => framed rule pos (inside' n) where
  grows := framed_grows body.grows rule pos
  step s s' related := by
    have grown := body.grows (s.enter rule pos)
    have reached := body.step _ _ (enter related)
    simp only [framed]
    cases ran : inside (s.enter rule pos) with
    | mk result u =>
      rw [ran] at grown reached
      by_cases escaped : E (fault result) u
      · exact .inl (escape result related grown escaped)
      obtain ⟨u',least,related',same⟩ := reached.resolve_left escaped
      refine .inr ⟨_,least,leave related grown ran escaped related' (same least (Nat.le_refl least)),fun n above => ?_⟩
      rw [same n above]

/-- The second run goes along with what the first one does: it may be settled in another way,
but with the same outcome. -/
def Along (R : State → State → Prop) (E : Option Abort → State → Prop)
    (m' : Nat → Matching (Option Matched)) (outcome : Option Matched) (u s' : State) : Prop :=
  E none u ∨ ∃ u' least, R u u' ∧ ∀ n, least ≤ n → m' n s' = (.ok outcome,u')

/-- A rule at a position is settled in one of three ways; what is left to see is what the second
run does if the first one recalls an outcome or re-enters a match, and that the second run
evaluates the rule if the first one does. -/
protected theorem settle {t t' : Task} {evaluate : Matching (Option Matched)}
    {evaluate' : Nat → Matching (Option Matched)} (rule pos : Nat)
    (evaluation : Simulates R E evaluate evaluate')
    (known : ∀ {s s' outcome}, R s s' → t.recalls = true → s.memo.get? rule pos = some outcome →
      Along R E (fun n => settle t' rule pos (evaluate' n)) outcome { s with
        memo := { s.memo with hits := s.memo.hits + 1 }
        trace := .recalled rule pos outcome :: s.trace } s')
    (opened : ∀ {s s' seed stack}, R s s' → Missed t s rule pos →
      markInside rule pos s.stack = some (seed,stack) →
      Along R E (fun n => settle t' rule pos (evaluate' n)) seed
        { s with stack, trace := .reentered rule pos seed :: s.trace } s')
    (fresh : ∀ {s s'}, R s s' → Missed t s rule pos → markInside rule pos s.stack = none →
      E (fault (evaluate s).1) (evaluate s).2 ∨
        Missed t' s' rule pos ∧ markInside rule pos s'.stack = none) :
    Simulates R E (settle t rule pos evaluate) fun n => settle t' rule pos (evaluate' n) where
  grows := settle_grows evaluation.grows
  step s s' related := by
    rcases settle_cases t s rule pos with ⟨recalls,outcome,memo⟩ | ⟨missed,seed,stack,found⟩ | ⟨missed,closed⟩
    · rw [settle_known recalls memo]
      exact known related recalls memo
    · rw [settle_open missed found]
      exact opened related missed found
    · rw [settle_fresh missed closed]
      rcases fresh related missed closed with escaped | ⟨missed',closed'⟩
      · exact .inl escaped
      rcases evaluation.step s s' related with escaped | ⟨u',least,related',same⟩
      · exact .inl escaped
      · refine .inr ⟨u',least,related',fun n above => ?_⟩
        rw [settle_fresh missed' closed']
        exact same n above

end Simulates

end Rules

def attempt (t : Task) : (levels : Nat) → (rule : Fin t.grammar.rules.length) → (pos : Nat) →
    Matching (Option Matched)
  | 0,rule,pos => Matching.abort (.tooDeep rule pos)
  | levels + 1,rule,pos => framed rule pos (matchBody t (matchRule t levels) rule pos)

theorem matchRule_eq (t : Task) (levels : Nat) (rule : Fin t.grammar.rules.length) (pos : Nat) :
    matchRule t levels rule pos = settle t rule pos (attempt t levels rule pos) := by
  cases levels <;> rfl

def Event.Inner : Event → Prop
  | mismatched .. | invoked .. | rejected .. | grew .. => True
  | _ => False

theorem note_grows (e : Event) : Growing (Matching.note e) :=
  fun _ => .of_stack_eq (List.suffix_cons _ _) rfl

theorem setSeed_grows (seed : Option Matched) : Growing (setSeed seed) := by
  intro s
  unfold setSeed
  split
  · exact .refl s
  · rename_i frame outer stack
    refine ⟨List.suffix_refl _,?_,fun _ => by simp [stack]⟩
    rw [stack]
    exact .cons ⟨rfl,rfl,id⟩ (List.forall₂_same.mpr fun f _ => .refl f)

theorem setSeed_done (seed : Option Matched) (s : State) : (setSeed seed s).1 = .ok () := by
  unfold setSeed
  split <;> rfl

theorem setSeed_state (seed : Option Matched) (s : State) :
    (setSeed seed s).2 = { s with stack := (setSeed seed s).2.stack } := by
  unfold setSeed
  split <;> rfl

theorem setSeed_active (seed : Option Matched) (s : State) : (setSeed seed s).2.active = s.active :=
  (setSeed_grows seed s).active_eq

theorem setSeed_memo (seed : Option Matched) (s : State) : (setSeed seed s).2.memo = s.memo := by
  rw [setSeed_state]

structure Respects (t : Task) (R : State → State → Prop) (E : Option Abort → State → Prop) : Prop where
  lasting : Lasting E
  note : ∀ {s s'} (e : Event), e.Inner → R s s' → R (s.note e) (s'.note e)
  seed : ∀ {s s'} (seed : Option Matched), R s s' → R (setSeed seed s).2 (setSeed seed s').2
  invoke : ∀ rule name values start stop, Simulates R E (invoke t rule name values start stop)
    fun _ => invoke t rule name values start stop

section Body

variable {t : Task} {R : State → State → Prop} {E : Option Abort → State → Prop}
variable (respects : Respects t R E) (recalls : Bool)
variable {call : Fin t.grammar.rules.length → Nat → Matching (Option Matched)}
variable {call' : Nat → Fin t.grammar.rules.length → Nat → Matching (Option Matched)}
variable (calls : ∀ rule pos, Simulates R E (call rule pos) fun n => call' n rule pos)
variable (rule : Fin t.grammar.rules.length)

include respects

theorem note_simulates {e : Event} (inner : e.Inner) :
    Simulates R E (Matching.note e) fun _ => Matching.note e :=
  .of_same (note_grows e) fun _ _ related => ⟨rfl,respects.note e inner related⟩

theorem setSeed_simulates (seed : Option Matched) :
    Simulates R E (setSeed seed) fun _ => setSeed seed := by
  refine .of_same (setSeed_grows seed) fun s s' related => ⟨?_,respects.seed seed related⟩
  unfold setSeed
  cases s.stack <;> cases s'.stack <;> rfl

include calls

theorem matchSymbol_simulates (symbol : String) (pos : Nat) :
    Simulates R E (matchSymbol t call rule symbol pos)
      fun n => matchSymbol { t with recalls } (call' n) rule symbol pos := by
  have mismatch : Simulates R E (do
      Matching.note (.mismatched pos symbol rule)
      return (none : Option Matched)) fun _ => do
      Matching.note (.mismatched pos symbol rule)
      return none :=
    .bind respects.lasting (note_simulates respects trivial) fun _ => .pure none
  unfold matchSymbol
  dsimp only
  split
  · split
    · split
      · exact .pure _
      · exact mismatch
    · exact mismatch
  · exact calls _ _
  · exact .abort _

theorem matchSequence_simulates (symbols : List String) (pos : Nat) :
    Simulates R E (matchSequence t call rule symbols pos)
      fun n => matchSequence { t with recalls } (call' n) rule symbols pos := by
  induction symbols generalizing pos with
  | nil => exact .pure _
  | cons symbol rest ih =>
    refine .bind respects.lasting
      (matchSymbol_simulates respects recalls calls rule symbol pos) fun first => ?_
    cases first with
    | none => exact .pure _
    | some first =>
      refine .bind respects.lasting (ih first.stop) fun more => ?_
      cases more with
      | none => exact .pure _
      | some more => exact .pure _

theorem matchAlternatives_simulates (pos : Nat) (alternatives : List Alternative) :
    Simulates R E (matchAlternatives t call rule pos alternatives)
      fun n => matchAlternatives { t with recalls } (call' n) rule pos alternatives := by
  induction alternatives with
  | nil => exact .pure _
  | cons a rest ih =>
    refine .bind respects.lasting
      (matchSequence_simulates respects recalls calls rule a.symbols pos) fun found => ?_
    cases found with
    | none => exact ih
    | some found =>
      refine .bind respects.lasting (respects.invoke rule a.action found.1 pos found.2) fun value => ?_
      cases value with
      | none => exact ih
      | some value => exact .pure _

theorem growOnce_simulates (pos : Nat) (seed : Matched) (alternatives : List Alternative)
    (best : Option Matched) :
    Simulates R E (growOnce t call rule pos seed alternatives best)
      fun n => growOnce { t with recalls } (call' n) rule pos seed alternatives best := by
  induction alternatives generalizing best with
  | nil => exact .pure _
  | cons a rest ih =>
    refine .bind respects.lasting
      (matchSequence_simulates respects recalls calls rule a.symbols.tail seed.stop) fun found => ?_
    cases found with
    | none => exact ih best
    | some found =>
      dsimp only
      split
      · exact ih best
      · refine .bind respects.lasting
          (respects.invoke rule a.action (seed.value :: found.1) pos found.2) fun value => ?_
        cases value with
        | none => exact ih best
        | some value => exact ih _

theorem grow_simulates (pos : Nat) (alternatives : List Alternative) (room rounds : Nat) (seed : Matched) :
    Simulates R E (grow t call rule pos alternatives room rounds seed)
      fun n => grow { t with recalls } (call' n) rule pos alternatives room rounds seed := by
  induction room generalizing rounds seed with
  | zero =>
    exact .bind respects.lasting
      (growOnce_simulates respects recalls calls rule pos seed alternatives none) fun _ => .pure _
  | succ room ih =>
    refine .bind respects.lasting
      (growOnce_simulates respects recalls calls rule pos seed alternatives none) fun next => ?_
    cases next with
    | none => exact .pure _
    | some next =>
      exact .bind respects.lasting (setSeed_simulates respects (some next)) fun _ => ih _ next

theorem growSeed_simulates (pos : Nat) :
    Simulates R E (growSeed t call rule pos) fun n => growSeed { t with recalls } (call' n) rule pos := by
  refine .bind respects.lasting (matchAlternatives_simulates respects recalls calls rule pos _) fun seed => ?_
  cases seed with
  | none => exact .pure _
  | some seed =>
    refine .bind respects.lasting (setSeed_simulates respects (some seed)) fun _ => ?_
    refine .bind respects.lasting (grow_simulates respects recalls calls rule pos _ _ 0 seed) fun last => ?_
    refine .bind respects.lasting (note_simulates respects trivial) fun _ => ?_
    exact .bind respects.lasting (setSeed_simulates respects none) fun _ => .pure _

theorem matchBody_simulates (pos : Nat) :
    Simulates R E (matchBody t call rule pos) fun n => matchBody { t with recalls } (call' n) rule pos := by
  unfold matchBody
  dsimp only
  split
  · exact growSeed_simulates respects recalls calls rule pos
  · exact matchAlternatives_simulates respects recalls calls rule pos _

omit calls in
/-- One level of nesting. What is left to a statement about two runs is to enter and leave a frame,
and to look a rule up. -/
theorem attempt_simulates {levels : Nat} {levels' : Nat → Nat}
    (calls : ∀ rule pos, Simulates R E (matchRule t levels rule pos)
      fun n => matchRule { t with recalls } (levels' n) rule pos) (pos : Nat)
    (enter : ∀ {s s'}, R s s' → R (s.enter rule pos) (s'.enter rule pos))
    (escape : ∀ {s s' u} (result : Except Abort (Option Matched)), R s s' →
      Grows (s.enter rule pos) u → E (fault result) u → E (fault result) (u.leave rule pos result))
    (leave : ∀ {s s' u u' result n}, R s s' → Grows (s.enter rule pos) u →
      matchBody t (matchRule t levels) rule pos (s.enter rule pos) = (result,u) →
      ¬E (fault result) u → R u u' → matchBody { t with recalls } (matchRule { t with recalls } (levels' n)) rule
        pos (s'.enter rule pos) = (result,u') →
      R (u.leave rule pos result) (u'.leave rule pos result)) :
    Simulates R E (attempt t (levels + 1) rule pos)
      fun n => attempt { t with recalls } (levels' n + 1) rule pos :=
  .framed rule pos (matchBody_simulates respects recalls calls rule pos) enter escape leave

end Body

end Packrat.Match
