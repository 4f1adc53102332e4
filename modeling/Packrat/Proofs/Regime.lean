import Packrat.Proofs.Depth
import Packrat.Proofs.Registration

/-! What single steps keep up is kept up by matching. A regime says what states are like between two steps, and
what symbols are matched with. Where notes, actions and seeds keep to it, and frames when they are entered and
left, so does every call, whatever the grammar. -/
namespace Packrat.Match

def Event.Own (rule pos : Nat) : Event → Prop
  | mismatched _ _ r => r = rule
  | invoked r _ start _ => r = rule ∧ start = pos
  | defaulted r _ => r = rule
  | rejected r _ _ start _ _ => r = rule ∧ start = pos
  | grew r p _ _ => r = rule ∧ p = pos
  | _ => False

section Stock

variable {K : Nat → Nat → Option Matched → Prop} {s : State}

structure Stocked (K : Nat → Nat → Option Matched → Prop) (s : State) : Prop where
  kept : ∀ {rule pos outcome}, s.memo.get? rule pos = some outcome → K rule pos outcome
  seeds : ∀ {f}, f ∈ s.stack → K f.rule f.pos f.seed

namespace Stocked

theorem start (context : Context) : Stocked K { context } where
  kept known := by simp [Memo.get?] at known
  seeds member := nomatch member

theorem of_same {u : State} (stocked : Stocked K s) (stack : u.stack = s.stack)
    (memo : ∀ rule pos, u.memo.get? rule pos = s.memo.get? rule pos) : Stocked K u where
  kept known := stocked.kept (by rw [← memo]; exact known)
  seeds := by rw [stack]; exact stocked.seeds

theorem setSeed (stocked : Stocked K s) (kind : ∀ m ∈ s.active.head?, K m.1 m.2 seed) :
    Stocked K (setSeed seed s).2 := by
  unfold Match.setSeed
  cases stack : s.stack with
  | nil => exact stocked
  | cons frame outer =>
    refine ⟨stocked.kept,fun member => ?_⟩
    rcases List.mem_cons.mp member with rfl | outside
    · exact kind (frame.rule,frame.pos) (by simp [State.active,stack])
    · exact stocked.seeds (by rw [stack]; exact List.mem_cons_of_mem _ outside)

theorem enter (stocked : Stocked K s) (kind : K rule pos none) : Stocked K (s.enter rule pos) := by
  refine ⟨stocked.kept,fun member => ?_⟩
  rcases List.mem_cons.mp member with rfl | outside
  · exact kind
  · exact stocked.seeds outside

theorem reenter {stack : List Frame} (stocked : Stocked K s) (found : markInside rule pos s.stack = some (seed,stack))
    (trace : List Event) : K rule pos seed ∧ Stocked K { s with stack, trace } := by
  obtain ⟨kind,seeds⟩ := markInside_seeds (fun _ => stocked.seeds) found
  exact ⟨kind,stocked.kept,fun member => seeds _ member⟩

theorem leave (stocked : Stocked K s) {result : Except Abort (Option Matched)}
    (kind : ∀ outcome, result = .ok outcome → K rule pos outcome) : Stocked K (s.leave rule pos result) := by
  cases stack : s.stack with
  | nil =>
    unfold State.leave
    rw [stack]
    exact stocked
  | cons frame outer =>
    have outside {f : Frame} (member : f ∈ outer) : K f.rule f.pos f.seed :=
      stocked.seeds (by rw [stack]; exact List.mem_cons_of_mem _ member)
    cases result with
    | error e =>
      rw [State.leave_error s rule pos e stack]
      exact ⟨stocked.kept,outside⟩
    | ok outcome =>
      rw [State.leave_ok s rule pos outcome stack]
      refine ⟨fun known => ?_,outside⟩
      dsimp only at known
      split at known
      · exact stocked.kept known
      rcases get?_record_cases known with ⟨rfl,rfl,rfl⟩ | old
      · exact kind _ rfl
      · exact stocked.kept old

end Stocked

end Stock

/-- What states are like between two steps, and when the parse was given up; where in the input matches start and
end, what symbols they are of, and what they are like. -/
structure Regime where
  Good : State → Prop
  Lost : Abort → State → Prop
  At : Nat → Prop
  Known : String → Prop
  Finds : String → Nat → Matched → Prop

namespace Regime

inductive Passes (r : Regime) : List String → Nat → List Value → Nat → Prop
  | nil : r.At pos → Passes r [] pos [] pos
  | cons : r.Finds symbol pos m → Passes r symbols m.stop values stop →
      Passes r (symbol :: symbols) pos (m.value :: values) stop

theorem Passes.at_stop {r : Regime} (passes : r.Passes symbols pos values stop) : r.At stop := by
  induction passes with
  | nil here => exact here
  | cons _ _ ih => exact ih

def Ends (r : Regime) (Q : α → Prop) : Except Abort α × State → Prop
  | (.ok a,u) => r.Good u ∧ Q a
  | (.error e,u) => r.Lost e u

/-- Inside the given matches a computation goes on in good states, and to results of a kind. -/
def Runs (r : Regime) (around : List (Nat × Nat)) (m : Matching α) (Q : α → Prop) : Prop :=
  ∀ s, r.Good s → s.active = around → Grows s (m s).2 ∧ r.Ends Q (m s)

section Runs

variable {r : Regime} {around : List (Nat × Nat)}

namespace Runs

protected theorem pure {Q : α → Prop} (holds : Q a) : r.Runs around (pure a) Q :=
  fun s good _ => ⟨.refl s,good,holds⟩

protected theorem abort {Q : α → Prop} (lost : ∀ s, r.Good s → s.active = around → r.Lost e s) :
    r.Runs around (Matching.abort e) Q :=
  fun s good active => ⟨.refl s,lost s good active⟩

protected theorem bind {m : Matching α} {f : α → Matching β} {Q : α → Prop} {Q' : β → Prop}
    (first : r.Runs around m Q) (rest : ∀ a, Q a → r.Runs around (f a) Q') : r.Runs around (m >>= f) Q' := by
  intro s good active
  obtain ⟨grown,ended⟩ := first s good active
  rw [Matching.bind_run]
  rcases ran : m s with ⟨e | a,u⟩
  all_goals rw [ran] at grown ended
  · exact ⟨grown,ended⟩
  · obtain ⟨grown',ended'⟩ := rest a ended.2 u ended.1 (grown.active_eq.trans active)
    exact ⟨grown.trans grown',ended'⟩

theorem weaken {m : Matching α} {Q Q' : α → Prop} (runs : r.Runs around m Q) (weaker : ∀ a, Q a → Q' a) :
    r.Runs around m Q' := by
  intro s good active
  obtain ⟨grown,ended⟩ := runs s good active
  refine ⟨grown,?_⟩
  rcases ran : m s with ⟨e | a,u⟩
  all_goals rw [ran] at ended
  · exact ended
  · exact ⟨ended.1,weaker a ended.2⟩

protected theorem setSeed (good : ∀ s, r.Good s → s.active = around → r.Good (setSeed seed s).2) :
    r.Runs around (setSeed seed) fun _ => True := by
  intro s before active
  have set : setSeed seed s = (.ok (),(setSeed seed s).2) := Prod.ext (setSeed_done seed s) rfl
  refine ⟨setSeed_grows seed s,?_⟩
  rw [set]
  exact ⟨good s before active,trivial⟩

/-- What is known after a computation that was not given up. -/
theorem of_eq_ok {m : Matching α} {Q : α → Prop} (runs : r.Runs around m Q) (good : r.Good s)
    (active : s.active = around) (ran : m s = (.ok a,u)) :
    s.trace <:+ u.trace ∧ r.Good u ∧ u.active = around ∧ Q a := by
  obtain ⟨grown,ended⟩ := runs s good active
  rw [ran] at grown ended
  exact ⟨grown.trace,ended.1,grown.active_eq.trans active,ended.2⟩

end Runs

end Runs

/-- An action may follow on symbols that are passed from a position on, with values from before: what it gives
is what the symbol is matched with at its start. -/
structure Allows (r : Regime) (t : Task) (symbol : String) (start : Nat) (action : String) (symbols : List String)
    (pos : Nat) (before : List Value) : Prop where
  known : ∀ other ∈ symbols, r.Known other
  finds : ∀ {values stop value}, r.Passes symbols pos values stop →
    (t.ValueOnly → t.evaluate action (before ++ values) = some value) → r.Finds symbol start ⟨value,stop⟩

structure Steps (r : Regime) (t : Task) (rule : Fin t.grammar.rules.length) (start : Nat)
    (around : List (Nat × Nat)) : Prop where
  note : ∀ {s e}, r.Good s → s.active = around → e.Own rule start → r.Good (s.note e)
  blind : ∀ {s u : State}, r.Good s → u.stack = s.stack → u.memo = s.memo → u.trace = s.trace → r.Good u
  reach : ∀ {symbol pos m}, r.Finds symbol pos m → r.At m.stop
  token : ∀ {symbol i pos l}, t.grammar.resolve symbol = some (.token i) → t.lexemes[pos]? = some l →
    l.kind = symbol → r.Finds symbol pos ⟨.str l.text,pos + 1⟩
  unknown : ∀ {symbol pos s}, r.Known symbol → t.grammar.resolve symbol = none → r.Good s →
    r.Lost (.undefinedSymbol symbol rule pos) s

structure Inside (r : Regime) (t : Task) (call : Fin t.grammar.rules.length → Nat → Matching (Option Matched))
    (rule : Fin t.grammar.rules.length) (start : Nat) (around : List (Nat × Nat)) : Prop
    extends Steps r t rule start around where
  call : ∀ i pos, r.At pos → r.Runs around (call i pos) fun found => ∀ m ∈ found, r.Finds (t.grammar.ruleName i) pos m

namespace Inside

variable {r : Regime} {t : Task} {call : Fin t.grammar.rules.length → Nat → Matching (Option Matched)}
variable {rule : Fin t.grammar.rules.length} {start : Nat} {around : List (Nat × Nat)}
variable (inside : r.Inside t call rule start around)

include inside

theorem note_runs (own : e.Own rule start) : r.Runs around (Matching.note e) fun _ => True :=
  fun s good active => ⟨note_grows e s,inside.note good active own,trivial⟩

theorem choosing_good (good : r.Good s) (active : s.active = around) (name : String) :
    r.Good (choosing t rule name s) := by
  unfold choosing
  split
  · exact inside.note (inside.blind good rfl rfl rfl) active rfl
  · exact good

/-- The value that an action gives is that of evaluation, if outcomes hang on values only. -/
theorem invoke_runs (name : String) (values : List Value) (stop : Nat) :
    r.Runs around (invoke t rule name values start stop) fun accepted =>
      ∀ value ∈ accepted, t.ValueOnly → t.evaluate name values = some value := by
  intro s good active
  refine ⟨invoke_grows t rule name values start stop s,?_⟩
  have chose := inside.choosing_good good active name
  have active' : (choosing t rule name s).active = around := (choosing_idle t rule name s).grows.active_eq.trans active
  have gives (accepted : Option Value) (u : State) (ran : invoke t rule name values start stop s = (.ok accepted,u)) :
      ∀ value ∈ accepted, t.ValueOnly → t.evaluate name values = some value :=
    fun value member valueOnly => (invoke_evaluate valueOnly ran).symm.trans member
  cases chosen : t.action? name with
  | none =>
    rw [invoke_missing t rule name values start stop chosen] at gives ⊢
    exact ⟨inside.note chose active' ⟨rfl,rfl⟩,gives _ _ rfl⟩
  | some action =>
    rw [invoke_chosen t rule name values start stop chosen] at gives ⊢
    generalize choosing t rule name s = u at chose active' gives ⊢
    have noted : r.Good (u.note (.invoked rule name start stop)) := inside.note chose active' ⟨rfl,rfl⟩
    rcases ran : action.run values t.functions u.context with ⟨outcome,c⟩
    rw [ran] at gives
    have moved : r.Good { u.note (.invoked rule name start stop) with context := c } := inside.blind noted rfl rfl rfl
    cases outcome with
    | ok value => exact ⟨moved,gives _ _ rfl⟩
    | error e => exact ⟨inside.note moved active' ⟨rfl,rfl⟩,gives _ _ rfl⟩

theorem matchSymbol_runs (known : r.Known symbol) (here : r.At pos) :
    r.Runs around (matchSymbol t call rule symbol pos) fun found => ∀ m ∈ found, r.Finds symbol pos m := by
  have mismatch : r.Runs around (do
      Matching.note (.mismatched pos symbol rule)
      return (none : Option Matched)) fun found => ∀ m ∈ found, r.Finds symbol pos m :=
    .bind (inside.note_runs rfl) fun _ _ => .pure nofun
  unfold matchSymbol
  split
  · rename_i resolved
    split
    · rename_i found
      split
      · rename_i kind
        refine .pure fun m member => ?_
        obtain rfl := Option.some.inj member
        exact inside.token resolved found kind
      · exact mismatch
    · exact mismatch
  · rename_i i resolved
    have runs := inside.call i _ here
    rwa [Grammar.ruleName_of_resolve resolved] at runs
  · rename_i resolved
    exact .abort fun s good _ => inside.unknown known resolved good

theorem matchSequence_runs (symbols : List String) (known : ∀ symbol ∈ symbols, r.Known symbol) (here : r.At pos) :
    r.Runs around (matchSequence t call rule symbols pos) fun found =>
      ∀ values stop, found = some (values,stop) → r.Passes symbols pos values stop := by
  induction symbols generalizing pos with
  | nil =>
    refine .pure fun values stop eq => ?_
    obtain ⟨rfl,rfl⟩ := Prod.mk.inj (Option.some.inj eq)
    exact .nil here
  | cons symbol rest ih =>
    rw [List.forall_mem_cons] at known
    refine .bind (inside.matchSymbol_runs known.1 here) fun first finds => ?_
    cases first with
    | none => exact .pure nofun
    | some first =>
      refine .bind (ih known.2 (inside.reach (finds first rfl))) fun more passes => ?_
      cases more with
      | none => exact .pure nofun
      | some more =>
        refine .pure fun values stop eq => ?_
        obtain ⟨rfl,rfl⟩ := Prod.mk.inj (Option.some.inj eq)
        exact .cons (finds first rfl) (passes _ _ rfl)

theorem matchAlternatives_runs (alternatives : List Alternative) (here : r.At start)
    (allows : ∀ a ∈ alternatives, r.Allows t (t.grammar.ruleName rule) start a.action a.symbols start []) :
    r.Runs around (matchAlternatives t call rule start alternatives)
      fun found => ∀ m ∈ found, r.Finds (t.grammar.ruleName rule) start m := by
  induction alternatives with
  | nil => exact .pure nofun
  | cons a rest ih =>
    rw [List.forall_mem_cons] at allows
    refine .bind (inside.matchSequence_runs a.symbols allows.1.known here) fun found passes => ?_
    cases found with
    | none => exact ih allows.2
    | some found =>
      refine .bind (inside.invoke_runs a.action found.1 found.2) fun accepted value => ?_
      cases accepted with
      | none => exact ih allows.2
      | some accepted =>
        refine .pure fun m member => ?_
        obtain rfl := Option.some.inj member
        exact allows.1.finds (passes _ _ rfl) (value _ rfl)

theorem growOnce_runs (alternatives : List Alternative) (here : r.At m.stop)
    (allows : ∀ a ∈ alternatives,
      r.Allows t (t.grammar.ruleName rule) start a.action a.symbols.tail m.stop [m.value])
    (best : Option Matched) (longer : ∀ m' ∈ best, m.stop < m'.stop ∧ r.Finds (t.grammar.ruleName rule) start m') :
    r.Runs around (growOnce t call rule start m alternatives best)
      fun next => ∀ m' ∈ next, m.stop < m'.stop ∧ r.Finds (t.grammar.ruleName rule) start m' := by
  induction alternatives generalizing best with
  | nil => exact .pure longer
  | cons a rest ih =>
    rw [List.forall_mem_cons] at allows
    refine .bind (inside.matchSequence_runs a.symbols.tail allows.1.known here) fun found passes => ?_
    cases found with
    | none => exact ih allows.2 best longer
    | some found =>
      dsimp only
      split
      · exact ih allows.2 best longer
      rename_i further
      refine .bind (inside.invoke_runs a.action (m.value :: found.1) found.2) fun accepted value => ?_
      cases accepted with
      | none => exact ih allows.2 best longer
      | some accepted =>
        have reach : m.stop ≤ (best.getD m).stop := by
          cases best with
          | none => exact Nat.le_refl _
          | some m' => exact Nat.le_of_lt (longer m' rfl).1
        refine ih allows.2 _ fun m' member => ?_
        obtain rfl := Option.some.inj member
        exact ⟨by dsimp only; omega,allows.1.finds (passes _ _ rfl) (value _ rfl)⟩

variable (seeded : ∀ seed, (∀ m ∈ seed, r.Finds (t.grammar.ruleName rule) start m) →
  r.Runs around (setSeed seed) fun _ => True)

include seeded

theorem grow_runs (alternatives : List Alternative) (allows : ∀ a ∈ alternatives, ∀ m,
      r.Finds (t.grammar.ruleName rule) start m →
        r.Allows t (t.grammar.ruleName rule) start a.action a.symbols.tail m.stop [m.value])
    (room rounds : Nat) (finds : r.Finds (t.grammar.ruleName rule) start m) :
    r.Runs around (grow t call rule start alternatives room rounds m)
      fun last => r.Finds (t.grammar.ruleName rule) start last.2 := by
  have round {m : Matched} (finds : r.Finds (t.grammar.ruleName rule) start m) :=
    inside.growOnce_runs alternatives (inside.reach finds) (fun a member => allows a member m finds) none nofun
  induction room generalizing rounds m with
  | zero => exact .bind (round finds) fun _ _ => .pure finds
  | succ room ih =>
    refine .bind (round finds) fun next longer => ?_
    cases next with
    | none => exact .pure finds
    | some next =>
      have finds' := fun m member => (longer m member).2
      exact .bind (seeded _ finds') fun _ _ => ih (rounds + 1) (finds' next rfl)

variable (here : r.At start)
variable (begins : ∀ a ∈ (t.grammar.ruleAt rule).alternatives,
  r.Allows t (t.grammar.ruleName rule) start a.action a.symbols start [])
variable (continues : ∀ a ∈ (t.grammar.ruleAt rule).recursive, ∀ m, r.Finds (t.grammar.ruleName rule) start m →
  r.Allows t (t.grammar.ruleName rule) start a.action a.symbols.tail m.stop [m.value])

include here begins continues

theorem growSeed_runs : r.Runs around (growSeed t call rule start)
    fun found => ∀ m ∈ found, r.Finds (t.grammar.ruleName rule) start m := by
  have seeds (a : Alternative) (member : a ∈ (t.grammar.ruleAt rule).seeds) :=
    begins a (List.filter_sublist.subset member)
  refine .bind (inside.matchAlternatives_runs _ here seeds) fun seed finds => ?_
  cases seed with
  | none => exact .pure nofun
  | some seed =>
    refine .bind (seeded _ finds) fun _ _ => ?_
    refine .bind (inside.grow_runs seeded _ continues _ 0 (finds seed rfl)) fun last finds' => ?_
    refine .bind (inside.note_runs ⟨rfl,rfl⟩) fun _ _ => ?_
    refine .bind (seeded none nofun) fun _ _ => .pure fun m member => ?_
    obtain rfl := Option.some.inj member
    exact finds'

theorem matchBody_runs : r.Runs around (matchBody t call rule start)
    fun found => ∀ m ∈ found, r.Finds (t.grammar.ruleName rule) start m := by
  unfold matchBody
  dsimp only
  split
  · exact inside.growSeed_runs seeded here begins continues
  · exact inside.matchAlternatives_runs _ here begins

end Inside

/-- What there is to show of a regime for the calls of a task, of which so many may be open. -/
structure Sustained (r : Regime) (t : Task) (limit : Nat) : Prop where
  steps : ∀ {rule : Fin t.grammar.rules.length} {pos around}, around.head? = some ((rule : Nat),pos) →
    r.Steps t rule pos around
  begins : ∀ (rule : Fin t.grammar.rules.length) pos, ∀ a ∈ (t.grammar.ruleAt rule).alternatives,
    r.Allows t (t.grammar.ruleName rule) pos a.action a.symbols pos []
  continues : ∀ (rule : Fin t.grammar.rules.length) pos, ∀ a ∈ (t.grammar.ruleAt rule).recursive, ∀ m,
    r.Finds (t.grammar.ruleName rule) pos m →
      r.Allows t (t.grammar.ruleName rule) pos a.action a.symbols.tail m.stop [m.value]
  deep : ∀ {rule : Fin t.grammar.rules.length} {pos s}, r.Good s → r.At pos → ((rule : Nat),pos) ∉ s.active →
    s.active.length = limit → r.Lost (.tooDeep rule pos) s
  seed : ∀ {rule : Fin t.grammar.rules.length} {pos s seed}, r.Good s → s.active.head? = some ((rule : Nat),pos) →
    (∀ m ∈ seed, r.Finds (t.grammar.ruleName rule) pos m) → r.Good (setSeed seed s).2
  recalled : ∀ {rule : Fin t.grammar.rules.length} {pos s outcome}, r.Good s → t.recalls = true →
    s.memo.get? rule pos = some outcome → (∀ m ∈ outcome, r.Finds (t.grammar.ruleName rule) pos m) ∧ r.Good { s with
      memo := { s.memo with hits := s.memo.hits + 1 }
      trace := .recalled rule pos outcome :: s.trace }
  reentered : ∀ {rule : Fin t.grammar.rules.length} {pos s seed stack}, r.Good s → Missed t s rule pos →
    markInside rule pos s.stack = some (seed,stack) → (∀ m ∈ seed, r.Finds (t.grammar.ruleName rule) pos m) ∧
      r.Good { s with stack, trace := .reentered rule pos seed :: s.trace }
  entered : ∀ {rule : Fin t.grammar.rules.length} {pos s}, r.Good s → r.At pos → Missed t s rule pos →
    ((rule : Nat),pos) ∉ s.active → r.Good (s.enter rule pos)
  left : ∀ {levels} {rule : Fin t.grammar.rules.length} {pos s result u}, r.Good s → r.At pos → Missed t s rule pos →
    ((rule : Nat),pos) ∉ s.active → matchBody t (matchRule t levels) rule pos (s.enter rule pos) = (result,u) →
    Grows (s.enter rule pos) u →
    r.Ends (fun found => ∀ m ∈ found, r.Finds (t.grammar.ruleName rule) pos m) (result,u) →
    r.Ends (fun _ => True) (result,u.leave rule pos result)

namespace Sustained

variable {r : Regime} {t : Task} {limit : Nat} (sustained : r.Sustained t limit)

include sustained

theorem settle_ends {rule : Fin t.grammar.rules.length} {evaluate : Matching (Option Matched)} (good : r.Good s)
    (evaluation : Missed t s rule pos → ((rule : Nat),pos) ∉ s.active →
      r.Ends (fun found => ∀ m ∈ found, r.Finds (t.grammar.ruleName rule) pos m) (evaluate s)) :
    r.Ends (fun found => ∀ m ∈ found, r.Finds (t.grammar.ruleName rule) pos m) (settle t rule pos evaluate s) := by
  rcases settle_cases t s rule pos with ⟨recalls,outcome,known⟩ | ⟨missed,seed,stack,found⟩ | ⟨missed,closed⟩
  · rw [settle_known recalls known]
    exact (sustained.recalled good recalls known).symm
  · rw [settle_open missed found]
    exact (sustained.reentered good missed found).symm
  · rw [settle_fresh missed closed]
    exact evaluation missed ((markInside_eq_none s.stack).mp closed)

/-- Every call keeps to the regime. -/
theorem matchRule_runs (levels : Nat) (room : around.length + levels = limit) (rule : Fin t.grammar.rules.length)
    (pos : Nat) (here : r.At pos) : r.Runs around (matchRule t levels rule pos)
      fun found => ∀ m ∈ found, r.Finds (t.grammar.ruleName rule) pos m := by
  -- A level down, the matches around are one more, so they are not fixed.
  induction levels generalizing around rule pos with
  | zero =>
    refine fun s good active => ⟨matchRule_grows t 0 rule pos s,sustained.settle_ends good fun _ fresh => ?_⟩
    exact sustained.deep good here fresh (by rw [active]; exact room)
  | succ levels ih =>
    refine fun s good active => ⟨matchRule_grows t (levels + 1) rule pos s,?_⟩
    refine sustained.settle_ends good fun missed fresh => ?_
    have entered := sustained.entered good here missed fresh
    have room' : (s.enter rule pos).active.length + levels = limit := by
      rw [State.enter_active,List.length_cons,active]
      omega
    have inside : r.Inside t (matchRule t levels) rule pos (s.enter rule pos).active := ⟨sustained.steps rfl,ih room'⟩
    have seeded (seed : Option Matched) (finds : ∀ m ∈ seed, r.Finds (t.grammar.ruleName rule) pos m) :
        r.Runs (s.enter rule pos).active (setSeed seed) fun _ => True :=
      .setSeed fun _ good active => sustained.seed good (by rw [active]; rfl) finds
    obtain ⟨grown,ended⟩ := inside.matchBody_runs seeded here (sustained.begins rule pos) (sustained.continues rule pos)
      _ entered rfl
    rcases ran : matchBody t (matchRule t levels) rule pos (s.enter rule pos) with ⟨result,u⟩
    rw [ran] at grown ended
    have left := sustained.left good here missed fresh ran grown ended
    simp only [framed,ran]
    cases result with
    | error e => exact left
    | ok outcome => exact ⟨left.1,ended.2⟩

end Sustained

end Regime

end Packrat.Match
