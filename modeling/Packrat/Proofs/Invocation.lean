import Packrat.Proofs.Lockstep

/-! What running an action does to the state, and when it does the same in two runs: from equal
contexts always, and from any contexts if the outcome of an action depends on its values only. -/
namespace Packrat.Match

def Task.action? (t : Task) (name : String) : Option Action :=
  match t.grammar.action? name with
  | some action => some action
  | none => if t.strictActions then none else some (.builtin .default)

def Task.evaluate (t : Task) (name : String) (values : List Value) : Option Value :=
  match t.action? name with
  | none => none
  | some action => (action.run values t.functions {}).1.toOption

/-- The outcome of every action of the user is the same in every context. -/
def Task.ValueOnly (t : Task) : Prop :=
  ∀ name f, Entries.get? t.grammar.actions name = some f →
    ∀ values c c', (f values t.functions c).1 = (f values t.functions c').1

theorem Task.ValueOnly.run_eq {t : Task} (valueOnly : t.ValueOnly) (chosen : t.action? name = some action)
    (values : List Value) (c c' : Context) :
    (action.run values t.functions c).1 = (action.run values t.functions c').1 := by
  cases action with
  | builtin b => rfl
  | user f =>
    have registered : Entries.get? t.grammar.actions name = some f := by
      simp only [Task.action?,Grammar.action?] at chosen
      cases own : Entries.get? t.grammar.actions name with
      | some g => simpa [own] using chosen
      | none => cases reserved : Builtin.named? name <;> simp [own,reserved] at chosen
    exact valueOnly name f registered values c c'

structure Idle (s u : State) : Prop where
  stack : u.stack = s.stack
  memo : u.memo = s.memo
  trace : u.trace = s.trace ∨ ∃ rule name, u.trace = .defaulted rule name :: s.trace

theorem Idle.grows (idle : Idle s u) : Grows s u := by
  refine .of_stack_eq ?_ idle.stack
  rcases idle.trace with same | ⟨rule,name,longer⟩
  · exact same ▸ List.suffix_refl _
  · exact longer ▸ List.suffix_cons _ _

section Action

variable (t : Task) (rule : Nat) (name : String) (values : List Value) (start stop : Nat)

/-- The state after an action was chosen: that the default action stands in is noted once. -/
def choosing (s : State) : State :=
  if (t.grammar.action? name).isNone && !t.strictActions && !s.defaulted.contains name then
    State.note { s with defaulted := name :: s.defaulted } (.defaulted rule name)
  else s

theorem chooseAction_run (s : State) :
    chooseAction t rule name s = (.ok (t.action? name),choosing t rule name s) := by
  unfold chooseAction Task.action? choosing
  cases t.grammar.action? name with
  | some action => rfl
  | none => cases t.strictActions <;> cases s.defaulted.contains name <;> rfl

theorem choosing_idle (s : State) : Idle s (choosing t rule name s) := by
  unfold choosing
  split
  · exact ⟨rfl,rfl,.inr ⟨rule,name,rfl⟩⟩
  · exact ⟨rfl,rfl,.inl rfl⟩

theorem choosing_context (s : State) : (choosing t rule name s).context = s.context := by
  unfold choosing
  split <;> rfl

def acted (u : State) : Except ActionError Value × Context → Except Abort (Option Value) × State
  | (.ok value,c) => (.ok (some value),{ u.note (.invoked rule name start stop) with context := c })
  | (.error e,c) => (.ok none,State.note { u.note (.invoked rule name start stop) with context := c }
      (.rejected rule name e.message start stop true))

theorem invoke_missing (missing : t.action? name = none) (s : State) :
    invoke t rule name values start stop s = (.ok none,(choosing t rule name s).note
      (.rejected rule name "action is not registered" start stop false)) := by
  simp [invoke,Matching.bind_run,chooseAction_run,missing,Matching.note,Matching.pure_run]

theorem invoke_chosen (chosen : t.action? name = some action) (s : State) :
    invoke t rule name values start stop s =
      acted rule name start stop (choosing t rule name s)
        (action.run values t.functions (choosing t rule name s).context) := by
  simp only [invoke,Matching.bind_run,chooseAction_run,chosen,Matching.note,runAction]
  generalize choosing t rule name s = u
  cases ran : action.run values t.functions u.context with
  | mk outcome c => cases outcome <;> simp [ran,acted,Matching.pure_run,Matching.bind_run,Matching.note,State.note]

theorem acted_grows (u : State) (ran : Except ActionError Value × Context) :
    Grows u (acted rule name start stop u ran).2 := by
  obtain ⟨outcome,c⟩ := ran
  cases outcome with
  | ok value => exact .of_stack_eq (List.suffix_cons _ _) rfl
  | error e => exact .of_stack_eq ((List.suffix_cons _ _).trans (List.suffix_cons _ _)) rfl

theorem invoke_grows : Growing (invoke t rule name values start stop) := by
  intro s
  have chose := (choosing_idle t rule name s).grows
  cases chosen : t.action? name with
  | none =>
    rw [invoke_missing t rule name values start stop chosen]
    exact chose.trans (note_grows _ _)
  | some action =>
    rw [invoke_chosen t rule name values start stop chosen]
    exact chose.trans (acted_grows rule name start stop _ _)

end Action

/-- The value of an action that hangs on values only. -/
theorem invoke_evaluate {t : Task} (valueOnly : t.ValueOnly)
    (ran : invoke t rule name values start stop s = (.ok accepted,u)) : accepted = t.evaluate name values := by
  cases chosen : t.action? name with
  | none =>
    rw [invoke_missing t rule name values start stop chosen] at ran
    cases ran
    simp [Task.evaluate,chosen]
  | some action =>
    rw [invoke_chosen t rule name values start stop chosen] at ran
    have alike := valueOnly.run_eq chosen values {} (choosing t rule name s).context
    cases done : action.run values t.functions (choosing t rule name s).context with
    | mk outcome c =>
      rw [done] at ran alike
      cases outcome with
      | ok value =>
        cases ran
        simp [Task.evaluate,chosen,alike,Except.toOption]
      | error e =>
        cases ran
        simp [Task.evaluate,chosen,alike,Except.toOption]

section TwoRuns

variable {t : Task} {R : State → State → Prop} {E : Option Abort → State → Prop}

/-- Contexts do not matter to a relation that is blind to them, as long as they do not matter to
the outcomes of actions. -/
theorem invoke_simulates_of_valueOnly (valueOnly : t.ValueOnly)
    (note : ∀ {s s'} (e : Event), e.Inner → R s s' → R (s.note e) (s'.note e))
    (blind : ∀ {s s' u u'}, Idle s u → Idle s' u' → R s s' → R u u')
    (rule : Nat) (name : String) (values : List Value) (start stop : Nat) :
    Simulates R E (invoke t rule name values start stop)
      fun _ => invoke t rule name values start stop := by
  refine .of_same (invoke_grows t rule name values start stop) fun s s' related => ?_
  have alike := blind (choosing_idle t rule name s) (choosing_idle t rule name s') related
  cases chosen : t.action? name with
  | none =>
    simp only [invoke_missing t rule name values start stop chosen]
    exact ⟨trivial,note _ trivial alike⟩
  | some action =>
    simp only [invoke_chosen t rule name values start stop chosen]
    generalize choosing t rule name s = u at alike ⊢
    generalize choosing t rule name s' = u' at alike ⊢
    have same := valueOnly.run_eq chosen values u.context u'.context
    have moved (v : State) (c : Context) : Idle v { v with context := c } := ⟨rfl,rfl,.inl rfl⟩
    have invoked := blind (moved _ (action.run values t.functions u.context).2)
      (moved _ (action.run values t.functions u'.context).2)
      (note (.invoked rule name start stop) trivial alike)
    cases ran : action.run values t.functions u.context with
    | mk outcome c =>
      cases ran' : action.run values t.functions u'.context with
      | mk outcome' c' =>
        rw [ran,ran'] at same invoked
        obtain rfl : outcome = outcome' := same
        cases outcome with
        | ok value => exact ⟨rfl,invoked⟩
        | error e => exact ⟨rfl,note _ trivial invoked⟩

/-- Related states with equal contexts stay so whatever the action does. -/
theorem invoke_simulates_of_context
    (note : ∀ {s s'} (e : Event), R s s' → R (s.note e) (s'.note e))
    (context : ∀ {s s'}, R s s' → s'.context = s.context ∧ s'.defaulted = s.defaulted)
    (setContext : ∀ {s s'} (c : Context), R s s' → R { s with context := c } { s' with context := c })
    (setDefaulted : ∀ {s s'} (d : List String), R s s' →
      R { s with defaulted := d } { s' with defaulted := d })
    (rule : Nat) (name : String) (values : List Value) (start stop : Nat) :
    Simulates R E (invoke t rule name values start stop)
      fun _ => invoke t rule name values start stop := by
  refine .of_same (invoke_grows t rule name values start stop) fun s s' related => ?_
  have alike : R (choosing t rule name s) (choosing t rule name s') := by
    unfold choosing
    rw [(context related).2]
    split
    · exact note (.defaulted rule name) (setDefaulted (name :: s.defaulted) related)
    · exact related
  cases chosen : t.action? name with
  | none =>
    simp only [invoke_missing t rule name values start stop chosen]
    exact ⟨trivial,note _ alike⟩
  | some action =>
    simp only [invoke_chosen t rule name values start stop chosen]
    generalize choosing t rule name s = u at alike ⊢
    generalize choosing t rule name s' = u' at alike ⊢
    rw [(context alike).1]
    cases ran : action.run values t.functions u.context with
    | mk outcome c =>
      have invoked := setContext c (note (.invoked rule name start stop) alike)
      cases outcome with
      | ok value => exact ⟨rfl,invoked⟩
      | error e => exact ⟨rfl,note _ invoked⟩

end TwoRuns

end Packrat.Match
