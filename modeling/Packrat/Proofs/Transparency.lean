import Packrat.Proofs.Plain
import Packrat.Proofs.Replay

/-! Keeping outcomes is transparent. A match without re-entries comes to the same answer whether
kept outcomes are used or not: a kept outcome is what the rule comes to on its own, and what is
passed over with it are failures that came up before. -/
namespace Packrat.Match

abbrev Task.recalling (t : Task) : Task := { t with recalls := true }

structure Mirrors (t : Task) (s s' : State) : Prop where
  active : s'.active = s.active
  furthest : Furthest.ofFailures (s'.failures t.grammar) = Furthest.ofFailures (s.failures t.grammar)
  kept : ∀ (rule : Fin t.grammar.rules.length) pos outcome, s'.memo.get? rule pos = some outcome →
    ∃ levels u, matchRule t.plain levels rule pos {} = (.ok outcome,u) ∧
      u.failures t.grammar ⊆ s.failures t.grammar

/-- The plain run was given up for its depth, or re-entered a match. -/
def Troubled (a : Option Abort) (s : State) : Prop := TooDeep a s ∨ ¬Calm s.trace

theorem troubled_lasting : Lasting Troubled := by
  rintro s u a (deep | wild) grown
  · exact .inl (tooDeep_lasting a deep grown)
  · exact .inr fun calm => wild (calm.of_suffix grown.trace)

variable {t : Task}

theorem Mirrors.note (mirrors : Mirrors t s s') (e : Event) : Mirrors t (s.note e) (s'.note e) where
  active := mirrors.active
  furthest := by
    rw [failures_note,failures_note]
    exact Furthest.ofFailures_append_congr mirrors.furthest _
  kept rule pos outcome known := by
    obtain ⟨levels,u,alone,failures⟩ := mirrors.kept rule pos outcome known
    exact ⟨levels,u,alone,fun f member => by simp [failures member]⟩

/-- Nothing is lost if both states change in what does not matter. -/
theorem Mirrors.congr (mirrors : Mirrors t s s') (active : u.active = s.active)
    (active' : u'.active = s'.active) (failures : u.failures t.grammar = s.failures t.grammar)
    (failures' : u'.failures t.grammar = s'.failures t.grammar) (memo' : u'.memo = s'.memo) :
    Mirrors t u u' where
  active := by rw [active,active',mirrors.active]
  furthest := by rw [failures,failures',mirrors.furthest]
  kept := by rw [memo',failures]; exact mirrors.kept

theorem mirrors_respects (valueOnly : t.ValueOnly) : Respects t.plain (Mirrors t) Troubled where
  lasting := troubled_lasting
  note e _ mirrors := mirrors.note e
  seed seed mirrors := mirrors.congr (setSeed_active seed _) (setSeed_active seed _)
    (setSeed_failures seed _ _) (setSeed_failures seed _ _) (setSeed_memo seed _)
  invoke := by
    refine invoke_simulates_of_valueOnly valueOnly (fun e _ mirrors => mirrors.note e) ?_
    intro s s' u u' idle idle' mirrors
    exact mirrors.congr idle.grows.active_eq idle'.grows.active_eq (idle.failures_eq _)
      (idle'.failures_eq _) idle'.memo

/-- Both runs leave their frames. An outcome that is kept is one that the rule comes to alone. -/
theorem Mirrors.leave {s s' u u' : State} {rule : Fin t.grammar.rules.length} (mirrors : Mirrors t u u')
    (grown : Grows (s.enter rule pos) u) (grown' : Grows (s'.enter rule pos) u')
    (result : Except Abort (Option Matched))
    (alone : ∀ outcome, result = .ok outcome → ∃ levels v,
      matchRule t.plain levels rule pos {} = (.ok outcome,v) ∧ v.failures t.grammar ⊆ u.failures t.grammar) :
    Mirrors t (u.leave rule pos result) (u'.leave rule pos result) := by
  obtain ⟨frame,outer,stack,_⟩ := grown.open_frame
  obtain ⟨frame',outer',stack',_⟩ := grown'.open_frame
  have active : (outer'.map fun f => (f.rule,f.pos)) = outer.map fun f => (f.rule,f.pos) := by
    have all := mirrors.active
    rw [State.active,State.active,stack,stack'] at all
    exact List.tail_eq_of_cons_eq all
  refine ⟨?_,?_,?_⟩
  · rw [State.active,State.active,leave_stack stack,leave_stack stack']
    exact active
  · rw [failures_leave,failures_leave]
    exact mirrors.furthest
  · intro rule' pos' outcome' known
    rw [failures_leave]
    cases result with
    | error e =>
      rw [State.leave_error u' rule pos e stack'] at known
      exact mirrors.kept rule' pos' outcome' known
    | ok outcome =>
      rw [State.leave_ok u' rule pos outcome stack'] at known
      dsimp only at known
      split at known
      · exact mirrors.kept rule' pos' outcome' known
      rcases get?_record_cases known with ⟨index,rfl,rfl⟩ | old
      · obtain rfl := Fin.ext index
        exact alone outcome' rfl
      · exact mirrors.kept rule' pos' outcome' old

/-- A recalled outcome is what the plain run comes to again, with failures that came up before. -/
theorem Mirrors.recall (valueOnly : t.ValueOnly) (mirrors : Mirrors t s s')
    {rule : Fin t.grammar.rules.length} (known : s'.memo.get? rule pos = some outcome)
    (ran : matchRule t.plain levels rule pos s = (result,u)) (shallow : ¬TooDeep (fault result) u)
    (calm : Calm u.trace) :
    result = .ok outcome ∧ Mirrors t u { s' with
      memo := { s'.memo with hits := s'.memo.hits + 1 }
      trace := .recalled rule pos outcome :: s'.trace } := by
  obtain ⟨u₀,alone,failures⟩ := matchRule_alone (t := t.plain) valueOnly rfl ran shallow calm
  obtain ⟨levels',v,alone',before⟩ := mirrors.kept rule pos outcome known
  obtain ⟨rfl,rfl⟩ := alone_unique alone' alone (fun ⟨r,p,deep⟩ => shallow ⟨r,p,deep⟩)
  have grown := matchRule_grows t.plain levels rule pos s
  rw [ran] at grown
  have failures : u.failures t.grammar = s.failures t.grammar ++ u₀.failures t.grammar := failures
  refine ⟨rfl,grown.active_eq ▸ mirrors.active,?_,?_⟩
  · rw [failures_cons rfl rfl,failures,Furthest.ofFailures_again before]
    exact mirrors.furthest
  · intro rule' pos' outcome' known'
    obtain ⟨levels'',v',alone'',before'⟩ := mirrors.kept rule' pos' outcome' known'
    exact ⟨levels'',v',alone'',fun f member => by rw [failures]; simp [before' member]⟩

theorem settle_mirrors (valueOnly : t.ValueOnly) (levels : Nat) (rule : Fin t.grammar.rules.length)
    (pos : Nat) (evaluation : Simulates (Mirrors t) Troubled (attempt t.plain levels rule pos)
      fun _ => attempt t.recalling levels rule pos) :
    Simulates (Mirrors t) Troubled (matchRule t.plain levels rule pos)
      fun _ => matchRule t.recalling levels rule pos where
  grows := matchRule_grows t.plain levels rule pos
  step s s' mirrors := by
    have missed : Missed t.plain s rule pos := missed_of_plain rfl s rule pos
    cases closed : markInside rule pos s.stack with
    | some found =>
      refine .inl (.inr fun calm => ?_)
      rw [matchRule_eq,settle_open missed closed] at calm
      exact calm rule pos found.1 List.mem_cons_self
    | none =>
      have closed' : markInside rule pos s'.stack = none := by
        rw [markInside_eq_none] at closed ⊢
        change (_,_) ∉ s'.active
        rw [mirrors.active]
        exact closed
      cases known : s'.memo.get? rule pos with
      | some outcome =>
        -- The plain run goes through the whole match again. Without re-entries it is as if alone.
        by_cases trouble : Troubled (fault (matchRule t.plain levels rule pos s).1)
          (matchRule t.plain levels rule pos s).2
        · exact .inl trouble
        have calm := Classical.not_not.mp fun wild => trouble (.inr wild)
        obtain ⟨result,mirrors'⟩ := mirrors.recall valueOnly known rfl (fun deep => trouble (.inl deep)) calm
        refine .inr ⟨_,0,mirrors',fun n _ => ?_⟩
        rw [matchRule_eq,settle_known rfl known,result]
      | none =>
        rw [matchRule_eq,settle_fresh missed closed]
        rcases evaluation.step s s' mirrors with trouble | ⟨u',least,mirrors',same⟩
        · exact .inl trouble
        · refine .inr ⟨u',least,mirrors',fun n above => ?_⟩
          rw [matchRule_eq,settle_fresh (fun _ => known) closed']
          exact same n above

theorem matchRule_mirrors (valueOnly : t.ValueOnly) (levels : Nat) (rule : Fin t.grammar.rules.length)
    (pos : Nat) : Simulates (Mirrors t) Troubled (matchRule t.plain levels rule pos)
      fun _ => matchRule t.recalling levels rule pos := by
  induction levels generalizing rule pos with
  | zero => exact settle_mirrors valueOnly 0 rule pos (.abort _)
  | succ levels ih =>
    refine settle_mirrors valueOnly (levels + 1) rule pos
      (attempt_simulates (mirrors_respects valueOnly) true rule ih pos ?_ ?_ ?_)
    · intro s s' mirrors
      refine ⟨by simp [mirrors.active],?_,?_⟩
      · rw [failures_enter,failures_enter]; exact mirrors.furthest
      · rw [failures_enter]; exact mirrors.kept
    · rintro s s' u result mirrors grown (deep | wild)
      · exact .inl deep
      · exact .inr fun calm => wild (calm.of_suffix (leave_trace u rule pos result))
    · intro s s' u u' result n mirrors grown ran untroubled inner ran'
      have grown' := matchBody_grows t.recalling levels rule pos (s'.enter rule pos)
      rw [ran'] at grown'
      refine inner.leave grown grown' result ?_
      rintro outcome rfl
      obtain ⟨frame,outer,stack,_⟩ := grown.open_frame
      have calm := Classical.not_not.mp fun wild => untroubled (.inr wild)
      obtain ⟨v,alone,failures⟩ := settled_alone (t := t.plain) valueOnly rfl ran stack (grown.free calm stack)
      exact ⟨levels + 1,v,alone,fun f member => by rw [failures]; exact List.mem_append_right _ member⟩

theorem mirrors_start (context : Context) : Mirrors t { context } { context } :=
  ⟨rfl,rfl,fun _ _ _ known => by simp [Memo.get?] at known⟩

/-- The answer hangs on the furthest failures only. -/
theorem answer_congr {s s' : State} (g : Grammar)
    (same : Furthest.ofFailures (s'.failures g) = Furthest.ofFailures (s.failures g))
    (lexemes : Array Lexeme) (input start : String) (outcome : Option Matched) :
    answer g lexemes input start s' outcome = answer g lexemes input start s outcome := by
  cases outcome <;> simp only [answer,same]

/-- With kept outcomes a parse gives the answer that it gives without them, if without them it is
not given up for its depth and re-enters no match. -/
theorem parseLexemes_recalling (t : Task) (valueOnly : t.ValueOnly) (input : String) (context : Context)
    (limit : Nat)
    (tame : ∀ result u, startRun? t.plain context limit = some (result,u) →
      ¬TooDeep (fault result) u ∧ Calm u.trace) :
    (parseLexemes t.recalling input context limit).result =
      (parseLexemes t.plain input context limit).result := by
  cases named : t.grammar.startRule? with
  | none => simp [parseLexemes,named]
  | some start =>
    cases resolved : t.grammar.resolve start with
    | none => simp [parseLexemes,named,resolved]
    | some symbol =>
      cases symbol with
      | token _ => simp [parseLexemes,named,resolved]
      | rule i =>
        cases ran : matchRule t.plain limit i 0 { context } with
        | mk result u =>
          have started := startRun?_eq t.plain named resolved context limit
          obtain ⟨shallow,calm⟩ := tame result u (started.trans (congrArg some ran))
          have reached := (matchRule_mirrors valueOnly limit i 0).step _ _ (mirrors_start (t := t) context)
          rw [ran] at reached
          rcases reached with (deep | wild) | ⟨u',least,mirrors,same⟩
          · exact absurd deep shallow
          · exact absurd calm wild
          have ran' := same least (Nat.le_refl least)
          rw [parseLexemes_result t.plain named resolved ran input,
            parseLexemes_result t.recalling named resolved ran' input]
          cases result with
          | error e => rfl
          | ok outcome => exact answer_congr t.grammar mirrors.furthest t.lexemes input start outcome

def Event.reenters : Event → Bool
  | reentered .. => true
  | _ => false

theorem calm_iff (trace : List Event) : Calm trace ↔ (trace.all fun e => !e.reenters) = true := by
  rw [List.all_eq_true]
  constructor
  · intro calm e member
    cases e with
    | reentered rule pos seed => exact absurd member (calm rule pos seed)
    | _ => rfl
  · intro all rule pos seed member
    have := all _ member
    cases this

instance (trace : List Event) : Decidable (Calm trace) := decidable_of_iff _ (calm_iff trace).symm

def backtracking : Task where
  grammar := {
    tokens := [⟨"X","x",0,.pattern,none,none,.seq [],none,none⟩]
    rules := [⟨"pair",[⟨["item","item"],"",0,.none⟩,⟨["item"],"",0,.none⟩]⟩,⟨"item",[⟨["X"],"",0,.none⟩]⟩] }
  lexemes := #[⟨"X","x",0,1⟩]

theorem parseLexemes_recalling_backtracking :
    backtracking.ValueOnly ∧
    (∀ result u, startRun? backtracking.plain {} 200 = some (result,u) →
      ¬TooDeep (fault result) u ∧ Calm u.trace) ∧
    (parseLexemes backtracking.recalling "x" {} 200).result =
      (parseLexemes backtracking.plain "x" {} 200).result := by
  have valueOnly : backtracking.ValueOnly := by
    intro name f registered
    cases registered
  have tame : ∀ result u, startRun? backtracking.plain {} 200 = some (result,u) →
      ¬TooDeep (fault result) u ∧ Calm u.trace := by
    intro result u ran
    have all : ((startRun? backtracking.plain {} 200).all fun run =>
        (fault run.1).isNone && decide (Calm run.2.trace)) = true := by decide +kernel
    rw [ran] at all
    simp only [Option.all_some,Bool.and_eq_true,Option.isNone_iff_eq_none,decide_eq_true_eq] at all
    refine ⟨?_,all.2⟩
    rintro ⟨rule,pos,deep⟩
    rw [all.1] at deep
    cases deep
  exact ⟨valueOnly,tame,parseLexemes_recalling backtracking valueOnly "x" {} 200 tame⟩

end Packrat.Match
