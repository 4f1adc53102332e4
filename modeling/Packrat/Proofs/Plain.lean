import Packrat.Proofs.Isolation

/-! Matching without kept outcomes. What a rule comes to at a position is then a matter of the rule
and the position alone, as long as it does not meet the frames it is matched in: neither re-enters
one of them nor, on its own, enters what is open there. -/
namespace Packrat.Match

@[simp] theorem failures_note (s : State) (e : Event) (g : Grammar) :
    (s.note e).failures g = s.failures g ++ (e.failure? g).toList := by
  cases failed : e.failure? g <;> simp [State.failures,List.filterMap_append,failed]

theorem failures_congr {s u : State} (g : Grammar) (trace : u.trace = s.trace) :
    u.failures g = s.failures g := by
  rw [State.failures,trace,State.failures]

theorem failures_cons {s u : State} {e : Event} {g : Grammar} (trace : u.trace = e :: s.trace)
    (silent : e.failure? g = none) : u.failures g = s.failures g := by
  simp [State.failures,trace,List.filterMap_append,silent]

@[simp] theorem failures_start (c : Context) (g : Grammar) : ({ context := c } : State).failures g = [] := rfl

@[simp] theorem failures_enter (s : State) (rule pos : Nat) (g : Grammar) :
    (s.enter rule pos).failures g = s.failures g := failures_cons rfl rfl

@[simp] theorem failures_leave (s : State) (rule pos : Nat) (result : Except Abort (Option Matched))
    (g : Grammar) : (s.leave rule pos result).failures g = s.failures g := by
  unfold State.leave
  split
  · rfl
  · exact failures_cons rfl rfl
  · exact failures_cons rfl rfl

theorem setSeed_failures (seed : Option Matched) (s : State) (g : Grammar) :
    (setSeed seed s).2.failures g = s.failures g := by
  rw [setSeed_state]
  exact failures_congr g rfl

theorem Idle.failures_eq (idle : Idle s u) (g : Grammar) : u.failures g = s.failures g := by
  rcases idle.trace with same | ⟨rule,name,longer⟩
  · exact failures_congr g same
  · exact failures_cons longer rfl

structure Apart (g : Grammar) (around around' : List Frame) (past : List Event)
    (failures failures' : List Failure) (s s' : State) : Prop where
  stack : Inside around around' s.stack s'.stack
  trace : past <:+ s.trace
  failures : ∃ since, s.failures g = failures ++ since ∧ s'.failures g = failures' ++ since

/-- The first run was given up for its depth, hangs on a frame around it, or has entered what is
open around the second one. -/
def Met (around around' : List Frame) (past : List Event) (a : Option Abort) (s : State) : Prop :=
  TooDeep a s ∨ (around ≠ [] ∧ Hangs around.length s.stack) ∨
    ∃ since f, s.trace = since ++ past ∧ f ∈ around' ∧ .entered f.rule f.pos ∈ since

section Apart

variable {t : Task} {around around' : List Frame} {past : List Event} {failures failures' : List Failure}

theorem met_lasting : Lasting (Met around around' past) := by
  rintro s u a (deep | ⟨given,hangs⟩ | ⟨since,f,trace,member,entered⟩) grown
  · exact .inl (tooDeep_lasting a deep grown)
  · exact .inr (.inl ⟨given,hangs.grow grown⟩)
  · obtain ⟨more,longer⟩ := grown.trace
    refine .inr (.inr ⟨more ++ since,f,?_,member,List.mem_append_right _ entered⟩)
    rw [← longer,trace,List.append_assoc]

theorem Apart.note (apart : Apart g around around' past failures failures' s s') (e : Event) :
    Apart g around around' past failures failures' (s.note e) (s'.note e) := by
  obtain ⟨since,same,same'⟩ := apart.failures
  refine ⟨apart.stack,apart.trace.trans (List.suffix_cons _ _),since ++ (e.failure? g).toList,?_,?_⟩
  · rw [failures_note,same,List.append_assoc]
  · rw [failures_note,same',List.append_assoc]

theorem apart_respects (valueOnly : t.ValueOnly) :
    Respects t (Apart t.grammar around around' past failures failures') (Met around around' past) where
  lasting := met_lasting
  note e _ apart := apart.note e
  seed := by
    intro s s' seed apart
    have inside := apart.stack.setSeed seed
    rw [setSeed_state seed s,setSeed_state seed s']
    exact ⟨inside,apart.trace,apart.failures⟩
  invoke := by
    refine invoke_simulates_of_valueOnly valueOnly (fun e _ apart => apart.note e) ?_
    intro s s' u u' idle idle' apart
    refine ⟨?_,apart.trace.trans idle.grows.trace,?_⟩
    · rw [idle.stack,idle'.stack]; exact apart.stack
    · rw [idle.failures_eq,idle'.failures_eq]; exact apart.failures

theorem Apart.leave {s u u' : State} {rule pos : Nat}
    (apart : Apart g around around' past failures failures' u u') (grown : Grows (s.enter rule pos) u)
    (inside : around.length < s.stack.length) (result : Except Abort (Option Matched)) :
    Apart g around around' past failures failures' (u.leave rule pos result)
      (u'.leave rule pos result) := by
  obtain ⟨frame,outer,stack,_,_,ages⟩ := grown.open_frame
  have split := apart.stack
  rw [stack] at split
  obtain ⟨outer',stack',inner⟩ := split.pop (by rw [← ages.length_eq]; exact inside)
  refine ⟨?_,apart.trace.trans (leave_trace u rule pos result),?_⟩
  · rw [leave_stack stack,leave_stack stack']; exact inner
  · rw [failures_leave,failures_leave]; exact apart.failures

/-- An attempt at a rule enters it, if there is a level left for it. -/
theorem attempt_enters (t : Task) (levels : Nat) (rule : Fin t.grammar.rules.length) (pos : Nat)
    (s : State) : TooDeep (fault (attempt t levels rule pos s).1) (attempt t levels rule pos s).2 ∨
      .entered rule pos :: s.trace <:+ (attempt t levels rule pos s).2.trace := by
  cases levels with
  | zero => exact .inl ⟨_,_,rfl⟩
  | succ levels =>
    have grown := matchBody_grows t levels rule pos (s.enter rule pos)
    exact .inr (grown.trace.trans (leave_trace _ _ _ _))

theorem missed_of_plain (plain : t.recalls = false) (s : State) (rule pos : Nat) : Missed t s rule pos := by
  intro recalls
  rw [plain] at recalls
  cases recalls

theorem settle_apart (plain : t.recalls = false) (levels : Nat) (rule : Fin t.grammar.rules.length)
    (pos : Nat)
    (evaluation : Simulates (Apart t.grammar around around' past failures failures')
      (Met around around' past) (attempt t levels rule pos) fun _ => attempt t levels rule pos) :
    Simulates (Apart t.grammar around around' past failures failures') (Met around around' past)
      (matchRule t levels rule pos) fun _ => matchRule t levels rule pos := by
  have missed := missed_of_plain plain
  simp only [matchRule_eq]
  refine .settle rule pos evaluation ?_ ?_ ?_
  · intro s s' outcome apart recalls known
    rw [plain] at recalls
    cases recalls
  · intro s s' seed stack apart _ found
    rcases apart.stack.markInside found with ⟨stack',found',inside⟩ | hangs
    · refine .inr ⟨_,0,?_,fun n _ => settle_open (missed s' rule pos) found'⟩
      obtain ⟨since,same,same'⟩ := apart.failures
      have silent : (Event.reentered rule pos seed).failure? t.grammar = none := rfl
      exact ⟨inside,apart.trace.trans (List.suffix_cons _ _),since,
        (failures_cons rfl silent).trans same,(failures_cons rfl silent).trans same'⟩
    · exact .inl (.inr (.inl hangs))
  · intro s s' apart _ closed
    -- What is open around the second run only, the second run would re-enter and the first enters.
    by_cases outside : ((rule : Nat),pos) ∈ around'.map fun f => (f.rule,f.pos)
    · obtain ⟨f,member,pair⟩ := List.mem_map.mp outside
      obtain ⟨same,same'⟩ := Prod.mk.inj pair
      refine .inl ?_
      rcases attempt_enters t levels rule pos s with deep | ⟨more,longer⟩
      · exact .inl deep
      obtain ⟨since,trace⟩ := apart.trace
      refine .inr (.inr ⟨more ++ .entered rule pos :: since,f,?_,member,?_⟩)
      · rw [← longer,← trace]; simp
      · rw [same,same']; simp
    · exact .inr ⟨missed s' rule pos,apart.stack.markInside_none closed outside⟩

theorem matchRule_apart (valueOnly : t.ValueOnly) (plain : t.recalls = false) (levels : Nat)
    (rule : Fin t.grammar.rules.length) (pos : Nat) :
    Simulates (Apart t.grammar around around' past failures failures') (Met around around' past)
      (matchRule t levels rule pos) fun _ => matchRule t levels rule pos := by
  induction levels generalizing rule pos with
  | zero => exact settle_apart plain 0 rule pos (.abort _)
  | succ levels ih =>
    refine settle_apart plain (levels + 1) rule pos
      (attempt_simulates (apart_respects valueOnly) t.recalls rule ih pos ?_ ?_ ?_)
    · intro s s' apart
      refine ⟨apart.stack.push _,apart.trace.trans (List.suffix_cons _ _),?_⟩
      rw [failures_enter,failures_enter]
      exact apart.failures
    · rintro s s' u result apart grown (deep | ⟨given,hangs⟩ | ⟨since,f,trace,member,entered⟩)
      · exact .inl deep
      · exact .inr (.inl ⟨given,hangs.leave grown apart.stack.lt_length result⟩)
      · obtain ⟨more,longer⟩ := leave_trace u rule pos result
        refine .inr (.inr ⟨more ++ since,f,?_,member,List.mem_append_right _ entered⟩)
        rw [← longer,trace,List.append_assoc]
    · intro s s' u u' result n apart grown _ _ inner _
      exact inner.leave grown apart.stack.lt_length result

end Apart

abbrev Task.plain (t : Task) : Task := { t with recalls := false }

section Alone

variable {t : Task} {rule : Fin t.grammar.rules.length} {pos levels : Nat} {s u : State}

/-- A match that is not dependent in the end goes on in the same way with no frames around it. -/
theorem body_alone (valueOnly : t.ValueOnly) (plain : t.recalls = false)
    (ran : matchBody t (matchRule t levels) rule pos (s.enter rule pos) = (result,u))
    (shallow : ¬TooDeep (fault result) u) (stack : u.stack = frame :: outer)
    (free : frame.dependent = false) :
    ∃ u₀, matchBody t (matchRule t levels) rule pos (({} : State).enter rule pos) = (result,u₀) ∧
      u.failures t.grammar = s.failures t.grammar ++ u₀.failures t.grammar := by
  have body : Simulates (Apart t.grammar s.stack [] [] (s.failures t.grammar) []) (Met s.stack [] [])
      (matchBody t (matchRule t levels) rule pos) fun _ => matchBody t (matchRule t levels) rule pos :=
    matchBody_simulates (apart_respects valueOnly) t.recalls (matchRule_apart valueOnly plain levels) rule pos
  have entered : Apart t.grammar s.stack [] [] (s.failures t.grammar) []
      (s.enter rule pos) (({} : State).enter rule pos) :=
    ⟨⟨[{ rule, pos }],by simp,rfl,rfl⟩,List.nil_suffix,[],by simp,by simp⟩
  have grown := body.grows (s.enter rule pos)
  have reached := body.step _ _ entered
  rw [ran] at grown reached
  rcases reached with (deep | ⟨_,hangs⟩ | ⟨_,f,_,member,_⟩) | ⟨u₀,least,apart,same⟩
  · exact absurd deep shallow
  · have length := grown.length_eq
    rw [stack] at length hangs
    have := hangs.innermost (by simpa using length)
    rw [free] at this
    cases this
  · simp at member
  · obtain ⟨since,failures,failures₀⟩ := apart.failures
    refine ⟨u₀,same least (Nat.le_refl least),?_⟩
    rw [failures,failures₀,List.nil_append]

/-- So the rule comes to the outcome on its own, with the same failures. -/
theorem settled_alone (valueOnly : t.ValueOnly) (plain : t.recalls = false)
    (ran : matchBody t (matchRule t levels) rule pos (s.enter rule pos) = (.ok outcome,u))
    (stack : u.stack = frame :: outer) (free : frame.dependent = false) :
    ∃ v, matchRule t (levels + 1) rule pos {} = (.ok outcome,v) ∧
      u.failures t.grammar = s.failures t.grammar ++ v.failures t.grammar := by
  have shallow : ¬TooDeep (fault (.ok outcome : Except Abort (Option Matched))) u := fun ⟨_,_,deep⟩ => nomatch deep
  obtain ⟨u₀,ran₀,failures⟩ := body_alone valueOnly plain ran shallow stack free
  refine ⟨u₀.leave rule pos (.ok outcome),?_,by rw [failures_leave]; exact failures⟩
  rw [matchRule_eq,settle_fresh (missed_of_plain plain {} rule pos) (by simp [markInside])]
  simp only [attempt,framed,ran₀]

/-- Without a re-entry a rule comes to what it comes to on its own, with the same failures. -/
theorem matchRule_alone (valueOnly : t.ValueOnly) (plain : t.recalls = false)
    (ran : matchRule t levels rule pos s = (result,u)) (shallow : ¬TooDeep (fault result) u)
    (calm : Calm u.trace) :
    ∃ u₀, matchRule t levels rule pos {} = (result,u₀) ∧
      u.failures t.grammar = s.failures t.grammar ++ u₀.failures t.grammar := by
  rw [matchRule_eq,settle_fresh (missed_of_plain plain {} rule pos) (by simp [markInside])]
  rcases matchRule_cases ran with ⟨outcome,recalls,_⟩ | ⟨seed,stack,_,_,rfl⟩ | ⟨_,_,attempted⟩
  · rw [plain] at recalls
    cases recalls
  · exact absurd List.mem_cons_self (calm rule pos seed)
  rcases attempt_cases attempted with deep | ⟨above,inner,frame,outer,rfl,inside,stack,_,rfl⟩
  · exact absurd deep shallow
  have grown := matchBody_grows t above rule pos (s.enter rule pos)
  rw [inside] at grown
  have free := grown.free (calm.of_suffix (leave_trace inner rule pos result)) stack
  obtain ⟨inner₀,inside₀,failures⟩ := body_alone valueOnly plain inside shallow stack free
  refine ⟨inner₀.leave rule pos result,by simp only [attempt,framed,inside₀],?_⟩
  rw [failures_leave,failures_leave]
  exact failures

/-- What a rule comes to on its own, it comes to inside any frames that it does not enter. -/
theorem matchRule_inside (valueOnly : t.ValueOnly) (plain : t.recalls = false)
    (ran : matchRule t levels rule pos {} = (.ok outcome,u₀))
    (clear : ∀ f ∈ s.stack, .entered f.rule f.pos ∉ u₀.trace) :
    ∃ u, matchRule t levels rule pos s = (.ok outcome,u) ∧ u.stack = s.stack := by
  have missed := missed_of_plain plain
  rw [matchRule_eq,settle_fresh (missed {} rule pos) (by simp [markInside])] at ran
  rcases attempt_cases ran with ⟨_,_,deep⟩ | ⟨above,inner₀,frame,outer,rfl,inside,stack,length,rfl⟩
  · cases deep
  have body : Simulates
      (Apart t.grammar [] s.stack [.entered rule pos] [] (s.failures t.grammar))
      (Met [] s.stack [.entered rule pos])
      (matchBody t (matchRule t above) rule pos) fun _ => matchBody t (matchRule t above) rule pos :=
    matchBody_simulates (apart_respects valueOnly) t.recalls (matchRule_apart valueOnly plain above) rule pos
  have entered : Apart t.grammar [] s.stack [.entered rule pos] [] (s.failures t.grammar)
      (({} : State).enter rule pos) (s.enter rule pos) :=
    ⟨⟨[{ rule, pos }],by simp,rfl,rfl⟩,List.suffix_refl _,[],by simp,by simp⟩
  have grown := body.grows (({} : State).enter rule pos)
  have reached := body.step _ _ entered
  rw [inside] at grown reached
  have longer := leave_trace inner₀ rule pos (.ok outcome)
  -- The run alone enters the rule itself, so no frame around is of the rule at the position.
  have closed : markInside rule pos s.stack = none := by
    rw [markInside_eq_none]
    intro opened
    obtain ⟨f,member,pair⟩ := List.mem_map.mp opened
    obtain ⟨same,same'⟩ := Prod.mk.inj pair
    refine clear f member (longer.subset (grown.trace.subset ?_))
    rw [same,same']
    exact List.mem_cons_self
  rcases reached with (⟨_,_,deep⟩ | ⟨given,_⟩ | ⟨since,f,trace,member,met⟩) | ⟨inner,least,apart,same⟩
  · cases deep
  · exact absurd rfl given
  · refine absurd (longer.subset ?_) (clear f member)
    rw [trace]
    exact List.mem_append_left _ met
  · have split := apart.stack
    rw [stack] at split
    obtain ⟨_,stack'⟩ := split.single (by simpa using length)
    refine ⟨inner.leave rule pos (.ok outcome),?_,leave_stack stack' rule pos _⟩
    rw [matchRule_eq,settle_fresh (missed s rule pos) closed]
    simp only [attempt,framed,same least (Nat.le_refl least)]

/-- On its own a rule comes to one outcome, whatever the levels that let it come to one. -/
theorem alone_unique {levels' : Nat} (ran : matchRule t levels rule pos {} = (.ok outcome,u))
    (ran' : matchRule t levels' rule pos {} = (result,u')) (shallow : ¬TooDeep (fault result) u') :
    result = .ok outcome ∧ u' = u := by
  have deep := matchRule_of_le t (Nat.le_max_left levels levels') rule pos {} (by simp [ran])
  have deep' := matchRule_of_le t (Nat.le_max_right levels levels') rule pos {} (by
    intro r p eq
    rw [ran'] at eq
    exact shallow ⟨r,p,by rw [show result = _ from eq]; rfl⟩)
  rw [ran,ran'] at *
  exact Prod.mk.inj (deep'.symm.trans deep)

end Alone

end Packrat.Match
