import Mathlib.Data.List.Forall2
import Packrat.Match.Parse

/-! How the state of a parse grows. Whatever is matched, the trace is only added to, the frames
that were open stay open, and marks on them stay. Without a re-entry no mark is made. -/
namespace Packrat

/-- A frame later on: the same rule at the same position, dependent if it was before. Its seed is
free to change. -/
structure Frame.Ages (f f' : Frame) : Prop where
  rule : f'.rule = f.rule
  pos : f'.pos = f.pos
  dependent : f.dependent = true → f'.dependent = true

namespace Frame

theorem Ages.refl (f : Frame) : f.Ages f := ⟨rfl,rfl,id⟩

theorem Ages.trans (first : Ages f g) (second : Ages g h) : Ages f h :=
  ⟨second.rule.trans first.rule,second.pos.trans first.pos,second.dependent ∘ first.dependent⟩

def marked (f : Frame) : Frame := { f with dependent := true }

theorem marked_ages (f : Frame) : f.Ages f.marked := ⟨rfl,rfl,fun _ => rfl⟩

end Frame

namespace Match

@[simp] theorem State.note_trace (s : State) (e : Event) : (s.note e).trace = e :: s.trace := rfl

@[simp] theorem State.enter_stack (s : State) (rule pos : Nat) :
    (s.enter rule pos).stack = { rule, pos } :: s.stack := rfl
@[simp] theorem State.enter_trace (s : State) (rule pos : Nat) :
    (s.enter rule pos).trace = .entered rule pos :: s.trace := rfl
@[simp] theorem State.enter_active (s : State) (rule pos : Nat) :
    (s.enter rule pos).active = (rule,pos) :: s.active := rfl

theorem State.leave_error (s : State) (rule pos : Nat) (e : Abort) (stack : s.stack = frame :: outer) :
    s.leave rule pos (.error e) =
      { s with stack := outer, trace := .abandoned rule pos :: s.trace } := by
  simp [leave,stack]

theorem State.leave_ok (s : State) (rule pos : Nat) (outcome : Option Matched)
    (stack : s.stack = frame :: outer) :
    s.leave rule pos (.ok outcome) = { s with
      stack := outer
      memo := if frame.dependent then s.memo else s.memo.record rule pos outcome
      trace := .settled rule pos outcome (!frame.dependent) :: s.trace } := by
  simp [leave,stack]

/-- Leaving a frame takes it off the stack, whatever the result. -/
theorem leave_stack {u : State} (stack : u.stack = frame :: outer) (rule pos : Nat)
    (result : Except Abort (Option Matched)) : (u.leave rule pos result).stack = outer := by
  cases result with
  | error e => rw [State.leave_error u rule pos e stack]
  | ok outcome => rw [State.leave_ok u rule pos outcome stack]

theorem leave_trace (u : State) (rule pos : Nat) (result : Except Abort (Option Matched)) :
    u.trace <:+ (u.leave rule pos result).trace := by
  unfold State.leave
  split
  · exact List.suffix_refl _
  · exact List.suffix_cons _ _
  · exact List.suffix_cons _ _

theorem get?_record (m : Memo) (rule pos rule' pos' : Nat) (outcome : Option Matched) :
    (m.record rule pos outcome).get? rule' pos' =
      if (rule,pos) = (rule',pos') then some outcome else m.get? rule' pos' := by
  simp only [Memo.record,Memo.get?,Std.TreeMap.getElem?_insert,Std.LawfulEqCmp.compare_eq_iff_eq]

theorem get?_record_cases {m : Memo} (known : (m.record rule pos outcome).get? rule' pos' = some outcome') :
    (rule' = rule ∧ pos' = pos ∧ outcome' = outcome) ∨ m.get? rule' pos' = some outcome' := by
  rw [get?_record] at known
  split at known
  · rename_i same
    obtain ⟨rfl,rfl⟩ := Prod.mk.inj same
    exact .inl ⟨rfl,rfl,(Option.some.inj known).symm⟩
  · exact .inr known

def Calm (trace : List Event) : Prop := ∀ rule pos seed, .reentered rule pos seed ∉ trace

theorem Calm.of_suffix (calm : Calm trace) (earlier : past <:+ trace) : Calm past :=
  fun rule pos seed member => calm rule pos seed (earlier.subset member)

/-- Ageing of all the open frames. -/
theorem ages_trans {stack later latest : List Frame} (first : List.Forall₂ Frame.Ages stack later)
    (second : List.Forall₂ Frame.Ages later latest) : List.Forall₂ Frame.Ages stack latest := by
  induction first generalizing latest with
  | nil => exact second
  | cons ages _ ih =>
    cases second with
    | cons ages' rest => exact .cons (ages.trans ages') (ih rest)

theorem ages_pairs {stack later : List Frame} (ages : List.Forall₂ Frame.Ages stack later) :
    (later.map fun f => (f.rule,f.pos)) = stack.map fun f => (f.rule,f.pos) := by
  induction ages with
  | nil => rfl
  | cons ages _ ih => simp [ages.rule,ages.pos,ih]

structure Grows (s u : State) : Prop where
  trace : s.trace <:+ u.trace
  frames : List.Forall₂ Frame.Ages s.stack u.stack
  marks : Calm u.trace → u.stack.map (·.dependent) = s.stack.map (·.dependent)

namespace Grows

variable {s u v : State}

theorem refl (s : State) : Grows s s :=
  ⟨List.suffix_refl _,List.forall₂_same.mpr fun f _ => .refl f,fun _ => rfl⟩

theorem trans (first : Grows s u) (second : Grows u v) : Grows s v where
  trace := first.trace.trans second.trace
  frames := ages_trans first.frames second.frames
  marks calm := (second.marks calm).trans (first.marks (calm.of_suffix second.trace))

/-- Nothing happens to the stack, and the trace grows. -/
theorem of_stack_eq (trace : s.trace <:+ u.trace) (stack : u.stack = s.stack) : Grows s u where
  trace := trace
  frames := by rw [stack]; exact (refl s).frames
  marks _ := by rw [stack]

theorem length_eq (grown : Grows s u) : u.stack.length = s.stack.length :=
  grown.frames.length_eq.symm

theorem active_eq (grown : Grows s u) : u.active = s.active := ages_pairs grown.frames

/-- Inside a frame the innermost frame is still that of the rule. -/
theorem open_frame (grown : Grows (s.enter rule pos) u) :
    ∃ frame outer, u.stack = frame :: outer ∧ frame.rule = rule ∧ frame.pos = pos ∧
      List.Forall₂ Frame.Ages s.stack outer := by
  have frames := grown.frames
  rw [State.enter_stack] at frames
  obtain ⟨frame,outer,ages,rest,stack⟩ := List.forall₂_cons_left_iff.mp frames
  exact ⟨frame,outer,stack,ages.rule,ages.pos,rest⟩

/-- Without a re-entry the frame is not dependent in the end. -/
theorem free (grown : Grows (s.enter rule pos) u) (calm : Calm u.trace)
    (stack : u.stack = frame :: outer) : frame.dependent = false := by
  have marks := grown.marks calm
  rw [stack,State.enter_stack,List.map_cons,List.map_cons] at marks
  exact (List.cons.inj marks).1

/-- Leaving a frame gives back the frames around it. -/
theorem leave (grown : Grows (s.enter rule pos) u) (result : Except Abort (Option Matched)) :
    Grows s (u.leave rule pos result) := by
  obtain ⟨frame,outer,stack,_,_,rest⟩ := grown.open_frame
  have past : s.trace <:+ u.trace := (List.suffix_cons _ _).trans grown.trace
  have longer := leave_trace u rule pos result
  refine ⟨past.trans longer,?_,fun calm => ?_⟩
  · rw [leave_stack stack]
    exact rest
  · have marks := grown.marks (calm.of_suffix longer)
    rw [stack,State.enter_stack,List.map_cons,List.map_cons] at marks
    rw [leave_stack stack]
    exact List.tail_eq_of_cons_eq marks

end Grows

def Growing (m : Matching α) : Prop := ∀ s, Grows s (m s).2

theorem framed_grows (body : Growing inside) (rule pos : Nat) : Growing (framed rule pos inside) :=
  fun s => (body (s.enter rule pos)).leave _

section Reentry

variable {rule pos : Nat}

theorem markInside_eq_none (stack : List Frame) :
    markInside rule pos stack = none ↔ (rule,pos) ∉ stack.map fun f => (f.rule,f.pos) := by
  induction stack with
  | nil => simp [markInside]
  | cons frame outer ih =>
    by_cases same : frame.rule = rule ∧ frame.pos = pos
    · simp [markInside,same]
    · have differ : ¬(rule = frame.rule ∧ pos = frame.pos) := fun eq => same ⟨eq.1.symm,eq.2.symm⟩
      simp [markInside,same,differ,ih]

/-- The innermost frame counts: what is found further out marks all that is inside. -/
theorem markInside_append (inner outer : List Frame) :
    markInside rule pos (inner ++ outer) =
      match markInside rule pos inner with
      | some (seed,inner') => some (seed,inner' ++ outer)
      | none => (markInside rule pos outer).map fun (seed,outer') =>
          (seed,inner.map Frame.marked ++ outer') := by
  induction inner with
  | nil => simp [markInside]
  | cons frame inner ih =>
    by_cases same : frame.rule = rule ∧ frame.pos = pos
    · simp [markInside,same]
    · simp only [List.cons_append,markInside,same,ite_false,ih]
      cases markInside rule pos inner <;> cases markInside rule pos outer <;> simp [Frame.marked]

theorem markInside_ages {stack marked : List Frame} (found : markInside rule pos stack = some (seed,marked)) :
    List.Forall₂ Frame.Ages stack marked := by
  induction stack generalizing marked with
  | nil => simp [markInside] at found
  | cons frame outer ih =>
    simp only [markInside] at found
    split at found
    · obtain ⟨rfl,rfl⟩ := Prod.mk.inj (Option.some.inj found)
      exact List.forall₂_same.mpr fun f _ => .refl f
    · obtain ⟨⟨seed',outer'⟩,inside,eq⟩ := Option.map_eq_some_iff.mp found
      obtain ⟨rfl,rfl⟩ := Prod.mk.inj eq
      exact .cons frame.marked_ages (ih inside)

/-- What holds of the seeds of all open frames holds of the seed found, and marks leave it so. -/
theorem markInside_seeds {P : Nat → Nat → Option Matched → Prop} {stack marked : List Frame}
    (holds : ∀ f ∈ stack, P f.rule f.pos f.seed) (found : markInside rule pos stack = some (seed,marked)) :
    P rule pos seed ∧ ∀ f ∈ marked, P f.rule f.pos f.seed := by
  induction stack generalizing marked with
  | nil => cases found
  | cons frame outer ih =>
    simp only [markInside] at found
    split at found
    · rename_i same
      obtain ⟨rfl,rfl⟩ := same
      obtain ⟨rfl,rfl⟩ := Prod.mk.inj (Option.some.inj found)
      exact ⟨holds frame List.mem_cons_self,holds⟩
    · obtain ⟨⟨seed',outer'⟩,inside,eq⟩ := Option.map_eq_some_iff.mp found
      obtain ⟨rfl,rfl⟩ := Prod.mk.inj eq
      obtain ⟨holds',rest⟩ := ih (fun f member => holds f (List.mem_cons_of_mem _ member)) inside
      refine ⟨holds',fun f member => ?_⟩
      rcases List.mem_cons.mp member with rfl | outside
      · exact holds frame List.mem_cons_self
      · exact rest f outside

end Reentry

section Settle

variable {t : Task} {s : State} {rule pos : Nat} {evaluate : Matching (Option Matched)}

def Missed (t : Task) (s : State) (rule pos : Nat) : Prop :=
  t.recalls = true → s.memo.get? rule pos = none

theorem settle_known (recalls : t.recalls = true) (known : s.memo.get? rule pos = some outcome) :
    settle t rule pos evaluate s = (.ok outcome,{ s with
      memo := { s.memo with hits := s.memo.hits + 1 }
      trace := .recalled rule pos outcome :: s.trace }) := by
  simp [settle,Matching.bind_run,recalled,recalls,Memo.lookup,known,Matching.pure_run]

private theorem recalled_missed (missed : Missed t s rule pos) : recalled t rule pos s = (.ok none,s) := by
  unfold recalled
  split
  · rename_i recalls
    simp [Memo.lookup,missed recalls]
  · rfl

theorem settle_open (missed : Missed t s rule pos)
    (found : markInside rule pos s.stack = some (seed,stack)) :
    settle t rule pos evaluate s =
      (.ok seed,{ s with stack, trace := .reentered rule pos seed :: s.trace }) := by
  simp [settle,Matching.bind_run,recalled_missed missed,reenter,found,Matching.pure_run]

theorem settle_fresh (missed : Missed t s rule pos) (closed : markInside rule pos s.stack = none) :
    settle t rule pos evaluate s = evaluate s := by
  simp [settle,Matching.bind_run,recalled_missed missed,reenter,closed]

/-- The three ways a rule at a position is settled. -/
theorem settle_cases (t : Task) (s : State) (rule pos : Nat) :
    (t.recalls = true ∧ ∃ outcome, s.memo.get? rule pos = some outcome) ∨
    (Missed t s rule pos ∧ ∃ seed stack, markInside rule pos s.stack = some (seed,stack)) ∨
    (Missed t s rule pos ∧ markInside rule pos s.stack = none) := by
  by_cases known : t.recalls = true ∧ ∃ outcome, s.memo.get? rule pos = some outcome
  · exact .inl known
  have missed : Missed t s rule pos := fun recalls =>
    Option.eq_none_iff_forall_ne_some.mpr fun outcome eq => known ⟨recalls,outcome,eq⟩
  cases found : markInside rule pos s.stack with
  | none => exact .inr (.inr ⟨missed,rfl⟩)
  | some reached => exact .inr (.inl ⟨missed,reached.1,reached.2,rfl⟩)

theorem settle_grows (grows : Growing evaluate) : Growing (settle t rule pos evaluate) := by
  intro s
  rcases settle_cases t s rule pos with ⟨recalls,outcome,known⟩ | ⟨missed,seed,stack,found⟩ | ⟨missed,closed⟩
  · rw [settle_known recalls known]
    exact .of_stack_eq (List.suffix_cons _ _) rfl
  · rw [settle_open missed found]
    refine ⟨List.suffix_cons _ _,markInside_ages found,fun calm => ?_⟩
    exact absurd List.mem_cons_self (calm rule pos seed)
  · rw [settle_fresh missed closed]
    exact grows s

end Settle

end Match

end Packrat
