import Packrat.Proofs.Plain

/-! What fails in a run, told from how the run goes on and not from what it notes: the tokens that
were required where others stand, and the actions that refused what was matched. A function tells them
for each part of the matcher, as what a part fails with hangs on the state it starts from. Main
statement: the failures a run notes are these, all of them and in this order. -/
namespace Packrat.Match

/-- What the rest of a computation fails with, after a first part that came to a result. -/
def thenFailures (ran : Except Abort α × State) (rest : α → State → List Failure) : List Failure :=
  match ran with
  | (.ok a,u) => rest a u
  | (.error _,_) => []

section Failures

variable (t : Task)
-- What fails in matching the rules an alternative refers to, how they are matched, and the rule itself.
variable (inside : Fin t.grammar.rules.length → Nat → State → List Failure)
variable (call : Fin t.grammar.rules.length → Nat → Matching (Option Matched))
variable (rule : Fin t.grammar.rules.length)

def symbolFailures (symbol : String) (pos : Nat) (s : State) : List Failure :=
  match t.grammar.resolve symbol with
  | some (.token _) =>
    if t.lexemes[pos]?.map (·.kind) = some symbol then [] else [.expected pos symbol (t.grammar.ruleName rule)]
  | some (.rule i) => inside i pos s
  | none => []

def sequenceFailures : (symbols : List String) → (pos : Nat) → State → List Failure
  | [],_,_ => []
  | symbol :: rest,pos,s =>
    symbolFailures t inside rule symbol pos s ++
      thenFailures (matchSymbol t call rule symbol pos s) fun
        | none,_ => []
        | some first,u => sequenceFailures rest first.stop u

def invokeFailures (rule : Nat) (name : String) (values : List Value) (start stop : Nat) (s : State) : List Failure :=
  match t.action? name with
  | none => [.rejected ⟨t.grammar.ruleName rule,name,"action is not registered",start,stop⟩]
  | some action =>
    match (action.run values t.functions s.context).1 with
    | .ok _ => []
    | .error e => [.rejected ⟨t.grammar.ruleName rule,name,e.message,start,stop⟩]

def alternativesFailures (pos : Nat) : List Alternative → State → List Failure
  | [],_ => []
  | a :: rest,s =>
    sequenceFailures t inside call rule a.symbols pos s ++
      thenFailures (matchSequence t call rule a.symbols pos s) fun
        | none,u => alternativesFailures pos rest u
        | some (values,stop),u =>
          invokeFailures t rule a.action values pos stop u ++
            thenFailures (invoke t rule a.action values pos stop u) fun
              | some _,_ => []
              | none,v => alternativesFailures pos rest v

def roundFailures (pos : Nat) (seed : Matched) : List Alternative → (best : Option Matched) → State → List Failure
  | [],_,_ => []
  | a :: rest,best,s =>
    sequenceFailures t inside call rule a.symbols.tail seed.stop s ++
      thenFailures (matchSequence t call rule a.symbols.tail seed.stop s) fun
        | none,u => roundFailures pos seed rest best u
        | some (values,stop),u =>
          if stop ≤ (best.getD seed).stop then roundFailures pos seed rest best u
          else
            invokeFailures t rule a.action (seed.value :: values) pos stop u ++
              thenFailures (invoke t rule a.action (seed.value :: values) pos stop u) fun
                | some value,v => roundFailures pos seed rest (some ⟨value,stop⟩) v
                | none,v => roundFailures pos seed rest best v

def growFailures (pos : Nat) (alternatives : List Alternative) : (room : Nat) → (seed : Matched) → State → List Failure
  | 0,seed,s => roundFailures t inside call rule pos seed alternatives none s
  | room + 1,seed,s =>
    roundFailures t inside call rule pos seed alternatives none s ++
      thenFailures (growOnce t call rule pos seed alternatives none s) fun
        | none,_ => []
        | some next,u => growFailures pos alternatives room next (setSeed (some next) u).2

def bodyFailures (pos : Nat) (s : State) : List Failure :=
  let definition := t.grammar.ruleAt rule
  if definition.isLeftRecursive then
    alternativesFailures t inside call rule pos definition.seeds s ++
      thenFailures (matchAlternatives t call rule pos definition.seeds s) fun
        | none,_ => []
        | some seed,u => growFailures t inside call rule pos definition.recursive (t.lexemes.size - seed.stop) seed
            (setSeed (some seed) u).2
  else alternativesFailures t inside call rule pos definition.alternatives s

end Failures

/-- What fails while a rule is matched at a position: nothing if its outcome is known or it is being
matched there already, and otherwise what fails in its alternatives. -/
def ruleFailures (t : Task) : (levels : Nat) → (rule : Fin t.grammar.rules.length) → (pos : Nat) → State → List Failure
  | 0,_,_,_ => []
  | levels + 1,rule,pos,s =>
    if (t.recalls = true ∧ (s.memo.get? rule pos).isSome) ∨ (markInside rule pos s.stack).isSome then []
    else bodyFailures t (ruleFailures t levels) (matchRule t levels) rule pos (s.enter rule pos)

def Notes (g : Grammar) (m : Matching α) (failures : State → List Failure) : Prop :=
  ∀ s, (m s).2.failures g = s.failures g ++ failures s

namespace Notes

variable {g : Grammar}

protected theorem pure (a : α) : Notes g (pure a) fun _ => [] := fun _ => (List.append_nil _).symm

protected theorem bind {m : Matching α} {f : α → Matching β} {first : State → List Failure}
    {rest : α → State → List Failure} (notes : Notes g m first) (notes' : ∀ a, Notes g (f a) (rest a)) :
    Notes g (m >>= f) fun s => first s ++ thenFailures (m s) rest := by
  intro s
  have noted := notes s
  dsimp only
  rw [Matching.bind_run]
  rcases ran : m s with ⟨result,u⟩
  rw [ran] at noted
  cases result with
  | error e => rw [thenFailures,List.append_nil]; exact noted
  | ok a => rw [thenFailures,← List.append_assoc,← noted]; exact notes' a u

/-- Nothing fails in the rest of the computation. -/
theorem bind_silent {m : Matching α} {f : α → Matching β} {first : State → List Failure} (notes : Notes g m first)
    (silent : ∀ a, Notes g (f a) fun _ => []) : Notes g (m >>= f) first := by
  intro s
  have noted := (notes.bind silent) s
  dsimp only at noted
  have nothing : thenFailures (m s) (fun _ _ => []) = [] := by
    unfold thenFailures
    split <;> rfl
  rwa [nothing,List.append_nil] at noted

/-- Nothing fails before the rest of the computation. -/
theorem silent_bind {m : Matching Unit} {f : Unit → Matching β} {rest : State → List Failure}
    (silent : Notes g m fun _ => []) (done : ∀ s, (m s).1 = .ok ()) (notes : Notes g (f ()) rest) :
    Notes g (m >>= f) fun s => rest (m s).2 := by
  intro s
  have noted := (silent.bind fun _ => notes) s
  have ran := done s
  dsimp only at noted ⊢
  rw [noted,List.nil_append]
  rcases silently : m s with ⟨result,u⟩
  rw [silently] at ran
  cases ran
  rfl

end Notes

theorem setSeed_notes (g : Grammar) (seed : Option Matched) : Notes g (setSeed seed) fun _ => [] := fun s =>
  (setSeed_failures seed s g).trans (List.append_nil _).symm

theorem invoke_notes (t : Task) (rule : Nat) (name : String) (values : List Value) (start stop : Nat) :
    Notes t.grammar (invoke t rule name values start stop) (invokeFailures t rule name values start stop) := by
  intro s
  have chose := (choosing_idle t rule name s).failures_eq t.grammar
  unfold invokeFailures
  cases chosen : t.action? name with
  | none =>
    rw [invoke_missing t rule name values start stop chosen,failures_note,chose]
    rfl
  | some action =>
    rw [invoke_chosen t rule name values start stop chosen,choosing_context]
    have invoked (u : State) : (u.note (.invoked rule name start stop)).failures t.grammar = u.failures t.grammar :=
      failures_cons rfl rfl
    rcases ran : action.run values t.functions s.context with ⟨outcome,c⟩
    dsimp only
    rw [ran]
    cases outcome with
    | ok value =>
      rw [acted,List.append_nil,← chose,← invoked (choosing t rule name s)]
      exact failures_congr t.grammar rfl
    | error e =>
      rw [acted,failures_note,← chose,← invoked (choosing t rule name s)]
      rfl

section Body

variable {t : Task} {inside : Fin t.grammar.rules.length → Nat → State → List Failure}
variable {call : Fin t.grammar.rules.length → Nat → Matching (Option Matched)}
variable (calls : ∀ i pos, Notes t.grammar (call i pos) (inside i pos))
variable (rule : Fin t.grammar.rules.length)

include calls

theorem matchSymbol_notes (symbol : String) (pos : Nat) :
    Notes t.grammar (matchSymbol t call rule symbol pos) (symbolFailures t inside rule symbol pos) := by
  intro s
  unfold matchSymbol symbolFailures
  cases t.grammar.resolve symbol with
  | none => exact (List.append_nil _).symm
  | some resolved =>
    cases resolved with
    | rule i => exact calls i pos s
    | token i =>
      cases found : t.lexemes[pos]? with
      | none => exact failures_note s (.mismatched pos symbol rule) t.grammar
      | some l =>
        by_cases kind : l.kind = symbol
        · simp [kind,Matching.pure_run]
        · have differ : (some l).map (·.kind) ≠ some symbol := by simpa using kind
          dsimp only
          rw [if_neg kind,if_neg differ]
          exact failures_note s (.mismatched pos symbol rule) t.grammar

theorem matchSequence_notes (symbols : List String) (pos : Nat) :
    Notes t.grammar (matchSequence t call rule symbols pos) (sequenceFailures t inside call rule symbols pos) := by
  induction symbols generalizing pos with
  | nil => exact .pure _
  | cons symbol rest ih =>
    refine .bind (matchSymbol_notes calls rule symbol pos) fun first => ?_
    cases first with
    | none => exact .pure _
    | some first =>
      refine (ih first.stop).bind_silent fun more => ?_
      cases more <;> exact .pure _

theorem matchAlternatives_notes (pos : Nat) (alternatives : List Alternative) :
    Notes t.grammar (matchAlternatives t call rule pos alternatives)
      (alternativesFailures t inside call rule pos alternatives) := by
  induction alternatives with
  | nil => exact .pure _
  | cons a rest ih =>
    refine .bind (matchSequence_notes calls rule a.symbols pos) fun found => ?_
    cases found with
    | none => exact ih
    | some found =>
      refine .bind (invoke_notes t rule a.action found.1 pos found.2) fun value => ?_
      cases value with
      | none => exact ih
      | some value => exact .pure _

theorem growOnce_notes (pos : Nat) (seed : Matched) (alternatives : List Alternative) (best : Option Matched) :
    Notes t.grammar (growOnce t call rule pos seed alternatives best)
      (roundFailures t inside call rule pos seed alternatives best) := by
  induction alternatives generalizing best with
  | nil => exact .pure _
  | cons a rest ih =>
    refine .bind (matchSequence_notes calls rule a.symbols.tail seed.stop) fun found => ?_
    cases found with
    | none => exact ih best
    | some found =>
      by_cases short : found.2 ≤ (best.getD seed).stop
      · simp only [if_pos short]
        exact ih best
      · simp only [if_neg short]
        refine .bind (invoke_notes t rule a.action (seed.value :: found.1) pos found.2) fun value => ?_
        cases value with
        | none => exact ih best
        | some value => exact ih _

theorem grow_notes (pos : Nat) (alternatives : List Alternative) (room rounds : Nat) (seed : Matched) :
    Notes t.grammar (grow t call rule pos alternatives room rounds seed)
      (growFailures t inside call rule pos alternatives room seed) := by
  induction room generalizing rounds seed with
  | zero => exact (growOnce_notes calls rule pos seed alternatives none).bind_silent fun _ => .pure _
  | succ room ih =>
    refine .bind (growOnce_notes calls rule pos seed alternatives none) fun next => ?_
    cases next with
    | none => exact .pure _
    | some next => exact (setSeed_notes _ (some next)).silent_bind (setSeed_done _) (ih (rounds + 1) next)

theorem matchBody_notes (pos : Nat) :
    Notes t.grammar (matchBody t call rule pos) (bodyFailures t inside call rule pos) := by
  unfold matchBody bodyFailures
  dsimp only
  split
  · refine .bind (matchAlternatives_notes calls rule pos _) fun seed => ?_
    cases seed with
    | none => exact .pure _
    | some seed =>
      have grown (rounds stop : Nat) :
          Notes t.grammar (Matching.note (.grew rule pos rounds stop)) fun _ => [] := fun s =>
        failures_note s _ t.grammar
      refine (setSeed_notes _ (some seed)).silent_bind (setSeed_done _) ?_
      refine (grow_notes calls rule pos _ _ 0 seed).bind_silent fun last => ?_
      refine (grown _ _).bind_silent fun _ => ?_
      exact (setSeed_notes _ none).bind_silent fun _ => .pure _
  · exact matchAlternatives_notes calls rule pos _

end Body

/-- Recalling an outcome and coming back to an open match note no failure. -/
theorem settle_notes {t : Task} {evaluate : Matching (Option Matched)} {failures : State → List Failure}
    (rule pos : Nat) (evaluation : Notes t.grammar evaluate failures) :
    Notes t.grammar (settle t rule pos evaluate) fun s =>
      if (t.recalls = true ∧ (s.memo.get? rule pos).isSome) ∨ (markInside rule pos s.stack).isSome then []
      else failures s := by
  intro s
  dsimp only
  rcases settle_cases t s rule pos with ⟨recalls,outcome,known⟩ | ⟨missed,seed,stack,found⟩ | ⟨missed,closed⟩
  · rw [settle_known recalls known,if_pos (.inl ⟨recalls,by rw [known]; rfl⟩),List.append_nil]
    exact failures_cons rfl rfl
  · rw [settle_open missed found,if_pos (.inr (by rw [found]; rfl)),List.append_nil]
    exact failures_cons rfl rfl
  · have fresh : ¬((t.recalls = true ∧ (s.memo.get? rule pos).isSome) ∨ (markInside rule pos s.stack).isSome) := by
      rintro (⟨recalls,known⟩ | opened)
      · rw [missed recalls] at known
        cases known
      · rw [closed] at opened
        cases opened
    rw [settle_fresh missed closed,if_neg fresh]
    exact evaluation s

/-- The failures that are noted while a rule is matched are what fails in the course of it. -/
theorem matchRule_notes (t : Task) (levels : Nat) (rule : Fin t.grammar.rules.length) (pos : Nat) :
    Notes t.grammar (matchRule t levels rule pos) (ruleFailures t levels rule pos) := by
  induction levels generalizing rule pos with
  | zero =>
    have cut : Notes t.grammar (attempt t 0 rule pos) fun _ => [] := fun s => (List.append_nil _).symm
    intro s
    have noted := settle_notes rule pos cut s
    dsimp only at noted
    rwa [ite_self,← matchRule_eq] at noted
  | succ levels ih =>
    have body : Notes t.grammar (attempt t (levels + 1) rule pos) fun s =>
        bodyFailures t (ruleFailures t levels) (matchRule t levels) rule pos (s.enter rule pos) := by
      intro s
      have noted := matchBody_notes ih rule pos (s.enter rule pos)
      rw [failures_enter] at noted
      rw [attempt,framed,← noted]
      exact failures_leave _ _ _ _ _
    intro s
    rw [ruleFailures,matchRule_eq]
    exact settle_notes rule pos body s

end Packrat.Match
