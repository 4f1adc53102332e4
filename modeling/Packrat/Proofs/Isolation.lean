import Packrat.Proofs.Depth

/-! A frame that is not dependent when it is left owes nothing to the frames around it. Main
statement: an outcome that is kept is the same whatever seeds the open matches had come to. -/
namespace Packrat.Match

/-- The open frame that has `k` frames around it is dependent. -/
def Hangs (k : Nat) (stack : List Frame) : Prop :=
  ∃ inner frame outer, stack = inner ++ frame :: outer ∧ outer.length = k ∧ frame.dependent = true

theorem ages_append {inner outer later : List Frame}
    (ages : List.Forall₂ Frame.Ages (inner ++ outer) later) :
    ∃ inner' outer', later = inner' ++ outer' ∧ List.Forall₂ Frame.Ages inner inner' ∧
      List.Forall₂ Frame.Ages outer outer' := by
  induction inner generalizing later with
  | nil => exact ⟨[],later,rfl,.nil,ages⟩
  | cons frame inner ih =>
    cases ages with
    | cons first rest =>
      obtain ⟨inner',outer',rfl,inside,outside⟩ := ih rest
      exact ⟨_ :: inner',outer',rfl,.cons first inside,outside⟩

theorem Hangs.grow (hangs : Hangs k s.stack) (grown : Grows s u) : Hangs k u.stack := by
  obtain ⟨inner,frame,outer,stack,length,dependent⟩ := hangs
  have frames := grown.frames
  rw [stack] at frames
  obtain ⟨inner',outer',later,_,outside⟩ := ages_append frames
  cases outside with
  | cons first rest =>
    exact ⟨inner',_,_,later,rest.length_eq.symm.trans length,first.dependent dependent⟩

/-- The frame does not go away when another one inside it is left. -/
theorem Hangs.leave {s u : State} {rule pos : Nat} (hangs : Hangs k u.stack)
    (grown : Grows (s.enter rule pos) u) (inside : k < s.stack.length)
    (result : Except Abort (Option Matched)) : Hangs k (u.leave rule pos result).stack := by
  obtain ⟨inner,frame,outer,stack,length,dependent⟩ := hangs
  obtain ⟨top,rest,opened,_,_,ages⟩ := grown.open_frame
  rw [opened] at stack
  cases inner with
  | nil =>
    have same : rest = outer := List.tail_eq_of_cons_eq stack
    have := ages.length_eq
    rw [same,length] at this
    omega
  | cons first inner =>
    have same : rest = inner ++ frame :: outer := List.tail_eq_of_cons_eq stack
    refine ⟨inner,frame,outer,?_,length,dependent⟩
    rw [leave_stack opened]
    exact same

/-- Two stacks with the same frames inside, at least one, and given frames around them. -/
def Inside (around around' : List Frame) (stack stack' : List Frame) : Prop :=
  ∃ inner, inner ≠ [] ∧ stack = inner ++ around ∧ stack' = inner ++ around'

namespace Inside

variable {around around' stack stack' : List Frame}

theorem lt_length (inside : Inside around around' stack stack') : around.length < stack.length := by
  obtain ⟨inner,nonempty,rfl,_⟩ := inside
  have := List.length_pos_iff.mpr nonempty
  rw [List.length_append]
  omega

theorem push (inside : Inside around around' stack stack') (frame : Frame) :
    Inside around around' (frame :: stack) (frame :: stack') := by
  obtain ⟨inner,_,rfl,rfl⟩ := inside
  exact ⟨frame :: inner,by simp,rfl,rfl⟩

theorem pop (inside : Inside around around' (frame :: stack) stack')
    (more : around.length < stack.length) :
    ∃ outer', stack' = frame :: outer' ∧ Inside around around' stack outer' := by
  obtain ⟨inner,nonempty,same,rfl⟩ := inside
  cases inner with
  | nil => exact absurd rfl nonempty
  | cons first inner =>
    obtain ⟨rfl,rfl⟩ := List.cons_eq_cons.mp same
    refine ⟨inner ++ around',rfl,inner,?_,rfl,rfl⟩
    rintro rfl
    simp at more

theorem setSeed (inside : Inside around around' s.stack s'.stack) (seed : Option Matched) :
    Inside around around' (setSeed seed s).2.stack (setSeed seed s').2.stack := by
  obtain ⟨inner,nonempty,stack,stack'⟩ := inside
  cases inner with
  | nil => exact absurd rfl nonempty
  | cons first inner =>
    refine ⟨{ first with seed } :: inner,by simp,?_,?_⟩
    · simp [Match.setSeed,stack]
    · simp [Match.setSeed,stack']

/-- A match that is found among the inner frames is found in both stacks alike. Found further out,
it makes all the inner frames dependent. -/
theorem markInside {rule pos : Nat} (inside : Inside around around' stack stack')
    (found : Match.markInside rule pos stack = some (seed,marked)) :
    (∃ marked', Match.markInside rule pos stack' = some (seed,marked') ∧
      Inside around around' marked marked') ∨
    (around ≠ [] ∧ Hangs around.length marked) := by
  obtain ⟨inner,nonempty,rfl,rfl⟩ := inside
  rw [markInside_append] at found
  cases near : Match.markInside rule pos inner with
  | some reached =>
    obtain ⟨seed',inner'⟩ := reached
    simp only [near,Option.some.injEq,Prod.mk.injEq] at found
    obtain ⟨rfl,rfl⟩ := found
    refine .inl ⟨inner' ++ around',by rw [markInside_append,near],inner',?_,rfl,rfl⟩
    have length := (markInside_ages near).length_eq
    rintro rfl
    exact nonempty (List.length_eq_zero_iff.mp length)
  | none =>
    simp only [near] at found
    obtain ⟨⟨seed',around''⟩,far,eq⟩ := Option.map_eq_some_iff.mp found
    obtain ⟨rfl,rfl⟩ := Prod.mk.inj eq
    refine .inr ⟨?_,?_⟩
    · rintro rfl
      simp [Match.markInside] at far
    · obtain ⟨init,last,rfl⟩ := List.eq_nil_or_concat inner |>.resolve_left nonempty
      exact ⟨init.map Frame.marked,last.marked,around'',by simp,
        (markInside_ages far).length_eq.symm,rfl⟩

/-- What is open in neither stack inside or around is open in none. -/
theorem markInside_none {rule pos : Nat} (inside : Inside around around' stack stack')
    (closed : Match.markInside rule pos stack = none)
    (outside : (rule,pos) ∉ around'.map fun f => (f.rule,f.pos)) :
    Match.markInside rule pos stack' = none := by
  obtain ⟨inner,_,rfl,rfl⟩ := inside
  rw [markInside_eq_none,List.map_append,List.mem_append,not_or] at closed ⊢
  exact ⟨closed.1,outside⟩

end Inside

structure Reseeded (s s' : State) : Prop where
  memo : s'.memo = s.memo
  context : s'.context = s.context
  defaulted : s'.defaulted = s.defaulted
  trace : s'.trace = s.trace
  frames : List.Forall₂ (fun f f' => ∃ seed, f' = { f with seed }) s.stack s'.stack

/-- Inside a frame, the states differ in the frames around it only. -/
structure Shared (around around' : List Frame) (s s' : State) : Prop where
  memo : s'.memo = s.memo
  context : s'.context = s.context
  defaulted : s'.defaulted = s.defaulted
  trace : s'.trace = s.trace
  stack : Inside around around' s.stack s'.stack

section Seeds

variable {t : Task} {around around' : List Frame}

def Dependent (around : List Frame) (_ : Option Abort) (s : State) : Prop := Hangs around.length s.stack

theorem dependent_lasting : Lasting (Dependent around) := fun _ hangs grown => hangs.grow grown

theorem shared_note (e : Event) (shared : Shared around around' s s') :
    Shared around around' (s.note e) (s'.note e) :=
  ⟨shared.memo,shared.context,shared.defaulted,by simp [shared.trace],shared.stack⟩

theorem shared_respects : Respects t (Shared around around') (Dependent around) where
  lasting := dependent_lasting
  note e _ shared := shared_note e shared
  seed := by
    intro s s' seed shared
    have inside := shared.stack.setSeed seed
    rw [setSeed_state seed s,setSeed_state seed s']
    exact ⟨shared.memo,shared.context,shared.defaulted,shared.trace,inside⟩
  invoke := invoke_simulates_of_context shared_note (fun shared => ⟨shared.context,shared.defaulted⟩)
    (fun _ shared => ⟨shared.memo,rfl,shared.defaulted,shared.trace,shared.stack⟩)
    (fun _ shared => ⟨shared.memo,shared.context,rfl,shared.trace,shared.stack⟩)

/-- Both runs leave the frame with the same mark, so they keep the outcome or both do not. -/
theorem Shared.leave {s u u' : State} {rule pos : Nat} (shared : Shared around around' u u')
    (grown : Grows (s.enter rule pos) u) (inside : around.length < s.stack.length)
    (result : Except Abort (Option Matched)) :
    Shared around around' (u.leave rule pos result) (u'.leave rule pos result) := by
  obtain ⟨frame,outer,stack,_,_,ages⟩ := grown.open_frame
  have split := shared.stack
  rw [stack] at split
  obtain ⟨outer',stack',inner⟩ := split.pop (by rw [← ages.length_eq]; exact inside)
  cases result with
  | error e =>
    rw [State.leave_error u rule pos e stack,State.leave_error u' rule pos e stack']
    exact ⟨shared.memo,shared.context,shared.defaulted,by simp [shared.trace],inner⟩
  | ok outcome =>
    rw [State.leave_ok u rule pos outcome stack,State.leave_ok u' rule pos outcome stack']
    exact ⟨by simp [shared.memo],shared.context,shared.defaulted,by simp [shared.trace],inner⟩

theorem settle_shared (pairs : (around'.map fun f => (f.rule,f.pos)) = around.map fun f => (f.rule,f.pos))
    (rule pos : Nat) (evaluation : Simulates (Shared around around') (Dependent around) evaluate evaluate') :
    Simulates (Shared around around') (Dependent around) (settle t rule pos evaluate)
      fun n => settle t rule pos (evaluate' n) := by
  refine .settle rule pos evaluation ?_ ?_ ?_
  · intro s s' outcome shared recalls known
    rw [← shared.memo] at known
    refine .inr ⟨_,0,?_,fun n _ => settle_known recalls known⟩
    exact ⟨by simp [shared.memo],shared.context,shared.defaulted,by simp [shared.trace],shared.stack⟩
  · intro s s' seed stack shared missed found
    have missed' : Missed t s' rule pos := fun recalls => by rw [shared.memo]; exact missed recalls
    rcases shared.stack.markInside found with ⟨stack',found',inside⟩ | ⟨_,hangs⟩
    · refine .inr ⟨_,0,?_,fun n _ => settle_open missed' found'⟩
      exact ⟨shared.memo,shared.context,shared.defaulted,by simp [shared.trace],inside⟩
    · exact .inl hangs
  · intro s s' shared missed closed
    -- The frames around differ in their seeds, but not in what they match.
    have outside : (rule,pos) ∉ around'.map fun f => (f.rule,f.pos) := by
      obtain ⟨inner,_,stack,_⟩ := shared.stack
      rw [markInside_eq_none,stack,List.map_append,List.mem_append,not_or] at closed
      rw [pairs]
      exact closed.2
    exact .inr ⟨fun recalls => by rw [shared.memo]; exact missed recalls,
      shared.stack.markInside_none closed outside⟩

theorem matchRule_shared
    (pairs : (around'.map fun f => (f.rule,f.pos)) = around.map fun f => (f.rule,f.pos))
    (levels : Nat) (rule : Fin t.grammar.rules.length) (pos : Nat) :
    Simulates (Shared around around') (Dependent around) (matchRule t levels rule pos)
      fun _ => matchRule t levels rule pos := by
  induction levels generalizing rule pos with
  | zero =>
    simp only [matchRule_eq]
    exact settle_shared pairs rule pos (.abort _)
  | succ levels ih =>
    refine settle_shared pairs rule pos (attempt_simulates shared_respects t.recalls rule ih pos ?_ ?_ ?_)
    · intro s s' shared
      exact ⟨shared.memo,shared.context,shared.defaulted,by simp [shared.trace],shared.stack.push _⟩
    · intro s s' u result shared grown hangs
      exact Hangs.leave hangs grown shared.stack.lt_length result
    · intro s s' u u' result n shared grown _ _ inner _
      exact inner.leave grown shared.stack.lt_length result

theorem reseeded_pairs {stack stack' : List Frame}
    (frames : List.Forall₂ (fun f f' => ∃ seed, f' = { f with seed }) stack stack') :
    (stack'.map fun f => (f.rule,f.pos)) = stack.map fun f => (f.rule,f.pos) := by
  induction frames with
  | nil => rfl
  | cons same _ ih =>
    obtain ⟨seed,rfl⟩ := same
    simp [ih]

/-- The innermost frame is the one that has all the others around it. -/
theorem Hangs.innermost (hangs : Hangs k (frame :: outer)) (length : outer.length = k) :
    frame.dependent = true := by
  obtain ⟨inner,first,rest,stack,length',dependent⟩ := hangs
  cases inner with
  | nil => obtain ⟨rfl,_⟩ := List.cons_eq_cons.mp stack; exact dependent
  | cons other inner =>
    rw [List.cons_append] at stack
    have more := congrArg List.length (List.tail_eq_of_cons_eq stack)
    simp only [List.length_append,List.length_cons] at more
    omega

/-- The frames around an innermost frame that both runs have in common. -/
theorem Inside.single (inside : Inside around around' (frame :: outer) stack')
    (length : outer.length = around.length) : outer = around ∧ stack' = frame :: around' := by
  obtain ⟨inner,nonempty,same,rfl⟩ := inside
  cases inner with
  | nil => exact absurd rfl nonempty
  | cons first inner =>
    rw [List.cons_append] at same
    obtain ⟨rfl,rest⟩ := List.cons_eq_cons.mp same
    have empty : inner = [] := by
      rw [rest,List.length_append] at length
      exact List.length_eq_zero_iff.mp (by omega)
    subst empty
    exact ⟨rest,rfl⟩

/-- The last thing that happened in a call that evaluated its rule and kept the outcome is that it
did so. What led to it: the match inside the frame, which was not dependent when it was left. -/
theorem kept_frame {u : State} {rule : Fin t.grammar.rules.length}
    (ran : matchRule t levels rule pos s = (.ok outcome,u))
    (kept : u.trace.head? = some (.settled rule pos outcome true)) :
    ∃ above inner frame outer, levels = above + 1 ∧ Missed t s rule pos ∧
      markInside rule pos s.stack = none ∧
      matchBody t (matchRule t above) rule pos (s.enter rule pos) = (.ok outcome,inner) ∧
      inner.stack = frame :: outer ∧ outer.length = s.stack.length ∧ frame.dependent = false ∧
      u = inner.leave rule pos (.ok outcome) := by
  rcases matchRule_cases ran with ⟨known,_,_,_,rfl⟩ | ⟨seed,stack,_,_,rfl⟩ | ⟨missed,closed,attempted⟩
  · simp at kept
  · simp at kept
  rcases attempt_cases attempted with ⟨_,_,deep⟩ | ⟨above,inner,frame,outer,rfl,inside,stack,length,rfl⟩
  · cases deep
  refine ⟨above,inner,frame,outer,rfl,missed,closed,inside,stack,length,?_,rfl⟩
  rw [State.leave_ok inner rule pos outcome stack] at kept
  simpa using kept

/-- Kept outcomes never hang on unfinished matches. Running the same call with any other seeds in
the open frames comes to the same outcome, the same table and context, and the same failures. -/
theorem kept_outcome_ignores_seeds (t : Task) (levels : Nat) (rule : Fin t.grammar.rules.length)
    (pos : Nat) (s s' u : State) (outcome : Option Matched) (reseeded : Reseeded s s')
    (ran : matchRule t levels rule pos s = (.ok outcome,u))
    (kept : u.trace.head? = some (.settled rule pos outcome true)) :
    u.memo.get? rule pos = some outcome ∧
    ∃ u', matchRule t levels rule pos s' = (.ok outcome,u') ∧ Reseeded u u' ∧
      Furthest.ofFailures (u'.failures t.grammar) = Furthest.ofFailures (u.failures t.grammar) := by
  obtain ⟨above,inner,frame,outer,rfl,missed,closed,inside,stack,length,free,rfl⟩ := kept_frame ran kept
  have pairs := reseeded_pairs reseeded.frames
  have missed' : Missed t s' rule pos := fun recalls => by rw [reseeded.memo]; exact missed recalls
  have closed' : markInside rule pos s'.stack = none := by
    rw [markInside_eq_none] at closed ⊢
    rw [pairs]
    exact closed
  have entered : Shared s.stack s'.stack (s.enter rule pos) (s'.enter rule pos) :=
    ⟨reseeded.memo,reseeded.context,reseeded.defaulted,by simp [reseeded.trace],[{ rule, pos }],by simp,rfl,rfl⟩
  have body : Simulates (Shared s.stack s'.stack) (Dependent s.stack)
      (matchBody t (matchRule t above) rule pos) fun _ => matchBody t (matchRule t above) rule pos :=
    matchBody_simulates shared_respects t.recalls (matchRule_shared pairs above) rule pos
  have reached := body.step _ _ entered
  rw [inside] at reached
  rcases reached with hangs | ⟨inner',least,shared,same⟩
  · rw [Dependent,stack] at hangs
    have := hangs.innermost length
    rw [free] at this
    cases this
  have inside' := same least (Nat.le_refl least)
  have split := shared.stack
  rw [stack] at split
  obtain ⟨rfl,stack'⟩ := split.single length
  have kept' := State.leave_ok inner rule pos outcome stack
  have left' := State.leave_ok inner' rule pos outcome stack'
  have again : Reseeded (inner.leave rule pos (.ok outcome)) (inner'.leave rule pos (.ok outcome)) := by
    rw [kept',left']
    exact ⟨by simp [shared.memo],shared.context,shared.defaulted,by simp [shared.trace],reseeded.frames⟩
  refine ⟨?_,inner'.leave rule pos (.ok outcome),?_,again,?_⟩
  · rw [kept',free]
    simp [get?_record]
  · rw [matchRule_eq,settle_fresh missed' closed']
    simp only [attempt,framed,inside']
  · rw [State.failures,State.failures,again.trace]

end Seeds

def listing : Task where
  grammar := {
    tokens := [⟨"X","x",0,.pattern,none,none,.seq [],none,none⟩]
    rules := [⟨"list",[⟨["list","item"],"",0,.none⟩,⟨["item"],"",0,.none⟩]⟩,⟨"item",[⟨["X"],"",0,.none⟩]⟩] }
  lexemes := #[⟨"X","x",0,1⟩,⟨"X","x",1,2⟩]

def listingItem : Fin listing.grammar.rules.length := ⟨1,by decide⟩

def listingState (seed : Option Matched) : State := { stack := [{ rule := 0, pos := 0, seed }] }

theorem kept_outcome_ignores_seeds_listing :
    ∃ outcome u, Reseeded (listingState (some ⟨.str "x",1⟩)) (listingState none) ∧
    matchRule listing 3 listingItem 1 (listingState (some ⟨.str "x",1⟩)) = (.ok outcome,u) ∧
    u.trace.head? = some (.settled listingItem 1 outcome true) ∧
    u.memo.get? listingItem 1 = some outcome ∧
    ∃ u', matchRule listing 3 listingItem 1 (listingState none) = (.ok outcome,u') ∧ Reseeded u u' ∧
      Furthest.ofFailures (u'.failures listing.grammar) = Furthest.ofFailures (u.failures listing.grammar) := by
  have reseeded : Reseeded (listingState (some ⟨.str "x",1⟩)) (listingState none) :=
    ⟨rfl,rfl,rfl,rfl,.cons ⟨none,rfl⟩ .nil⟩
  cases ran : matchRule listing 3 listingItem 1 (listingState (some ⟨.str "x",1⟩)) with
  | mk result u =>
    have outcome : result = .ok (some ⟨.str "x",2⟩) := (congrArg Prod.fst ran).symm.trans (by rfl)
    have kept : u.trace.head? = some (.settled listingItem 1 (some ⟨.str "x",2⟩) true) :=
      (congrArg (·.2.trace.head?) ran).symm.trans (by rfl)
    subst outcome
    exact ⟨_,u,reseeded,rfl,kept,
      kept_outcome_ignores_seeds listing 3 listingItem 1 _ _ u _ reseeded ran kept⟩

end Packrat.Match
