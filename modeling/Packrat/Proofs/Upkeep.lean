import Packrat.Proofs.Nesting

/-! What every single thing a parse does keeps up is kept up by the parse. Beside it goes what has
to be known of ends of matches, and where each outcome came from: the alternatives of its rule, tried
in a state of the same kind. -/
namespace Packrat.Match

theorem bind_eq_ok {m : Matching α} {f : α → Matching β} (ran : (m >>= f) s = (.ok b,u)) :
    ∃ a v, m s = (.ok a,v) ∧ f a v = (.ok b,u) := by
  rw [Matching.bind_run] at ran
  cases first : m s with
  | mk result v =>
    rw [first] at ran
    cases result with
    | ok a => exact ⟨a,v,rfl,ran⟩
    | error e => cases congrArg Prod.fst ran

theorem pure_eq_ok (ran : (pure a : Matching α) s = (.ok b,u)) : b = a ∧ u = s := by
  cases ran
  exact ⟨rfl,rfl⟩

theorem matchSymbol_token {t : Task} {call : Fin t.grammar.rules.length → Nat → Matching (Option Matched)}
    {rule : Fin t.grammar.rules.length} {k : Fin t.grammar.tokens.length}
    (resolved : t.grammar.resolve symbol = some (.token k))
    (ran : matchSymbol t call rule symbol pos s = (.ok found,u)) :
    found = (t.lexemes[pos]?).bind fun l => if l.kind = symbol then some ⟨.str l.text,pos + 1⟩ else none := by
  simp only [matchSymbol,resolved] at ran
  cases there : t.lexemes[pos]? with
  | none =>
    simp only [there] at ran
    cases ran
    rfl
  | some l =>
    simp only [there,Option.bind_some] at ran ⊢
    split at ran
    · rename_i kind
      cases ran
      rw [if_pos kind]
    · rename_i other
      cases ran
      rw [if_neg other]

/-- The property, and that what is kept and the seeds end within the input. -/
structure Upheld (t : Task) (I : Option Abort → State → Prop) (a : Option Abort) (s : State) : Prop where
  kept : ∀ {rule pos outcome}, s.memo.get? rule pos = some outcome → Within t outcome
  seeds : ∀ {f}, f ∈ s.stack → Within t f.seed
  holds : I a s

structure Tried (t : Task) (I : Option Abort → State → Prop) (levels : Nat)
    (rule : Fin t.grammar.rules.length) (pos : Nat) (s : State) (result : Except Abort (Option Matched))
    (u : State) : Prop where
  within : pos ≤ t.lexemes.size
  before : Upheld t I none s
  missed : Missed t s rule pos
  fresh : ((rule : Nat),pos) ∉ s.active
  ran : matchBody t (matchRule t levels) rule pos (s.enter rule pos) = (result,u)
  after : Upheld t I (fault result) u

/-- What there is to show of a property of states, and of why the parse was given up if it was. -/
structure Upkeep (t : Task) (I : Option Abort → State → Prop) : Prop where
  abort : ∀ {s} (e : Abort), I none s → I (some e) s
  blind : ∀ {s u : State}, I none s → u.stack = s.stack → u.memo = s.memo → u.trace = s.trace → I none u
  own : ∀ {s e rule pos}, I none s → s.active.head? = some (rule,pos) → e.Own rule pos → I none (s.note e)
  seed : ∀ {s} (seed : Option Matched), I none s → I none (setSeed seed s).2
  recalled : ∀ {s rule pos outcome}, I none s → t.recalls = true → s.memo.get? rule pos = some outcome →
    I none { s with
      memo := { s.memo with hits := s.memo.hits + 1 }
      trace := .recalled rule pos outcome :: s.trace }
  reentered : ∀ {s rule pos seed stack}, I none s → Missed t s rule pos →
    markInside rule pos s.stack = some (seed,stack) →
    I none { s with stack, trace := .reentered rule pos seed :: s.trace }
  entered : ∀ {s rule pos}, I none s → Missed t s rule pos → (rule,pos) ∉ s.active → I none (s.enter rule pos)
  left : ∀ {levels rule pos s result u}, Tried t I levels rule pos s result u →
    I (fault result) (u.leave rule pos result)

theorem Upheld.start {I : Option Abort → State → Prop} (holds : I none { context }) :
    Upheld t I none { context } where
  kept known := by simp [Memo.get?] at known
  seeds member := nomatch member
  holds := holds

theorem Upheld.stocked {I : Option Abort → State → Prop} (upheld : Upheld t I a s) :
    Stocked (fun _ _ => Within t) s := ⟨upheld.kept,upheld.seeds⟩

def Regime.upheld (t : Task) (I : Option Abort → State → Prop) : Regime where
  Good := Upheld t I none
  Lost e := Upheld t I (some e)
  At pos := pos ≤ t.lexemes.size
  Known _ := True
  Finds _ _ m := m.stop ≤ t.lexemes.size

section Upheld

variable {t : Task} {I : Option Abort → State → Prop} {around : List (Nat × Nat)}

theorem upheld_allows : (Regime.upheld t I).Allows t symbol start action symbols pos before :=
  ⟨fun _ _ => trivial,fun passes _ => passes.at_stop⟩

variable (upkeep : Upkeep t I)

include upkeep

theorem Upheld.enter (good : Upheld t I none s) (missed : Missed t s rule pos) (fresh : (rule,pos) ∉ s.active) :
    Upheld t I none (s.enter rule pos) := by
  have stocked : Stocked (fun _ _ => Within t) (s.enter rule pos) := good.stocked.enter .none
  exact ⟨stocked.kept,stocked.seeds,upkeep.entered good.holds missed fresh⟩

theorem Upheld.setSeed {seed : Option Matched} (good : Upheld t I none s) (within : Within t seed) :
    Upheld t I none (setSeed seed s).2 := by
  have stocked := good.stocked.setSeed fun _ _ => within
  exact ⟨stocked.kept,stocked.seeds,upkeep.seed seed good.holds⟩

namespace Upkeep

theorem setSeed_runs {seed : Option Matched} (within : Within t seed) :
    (Regime.upheld t I).Runs around (setSeed seed) fun _ => True :=
  .setSeed fun _ good _ => good.setSeed upkeep within

theorem steps {rule : Fin t.grammar.rules.length} (innermost : around.head? = some ((rule : Nat),start)) :
    (Regime.upheld t I).Steps t rule start around where
  note good active own := ⟨good.kept,good.seeds,upkeep.own good.holds (by rw [active]; exact innermost) own⟩
  blind := by
    intro s u good stack memo trace
    have stocked : Stocked (fun _ _ => Within t) u := good.stocked.of_same stack fun _ _ => by rw [memo]
    exact ⟨stocked.kept,stocked.seeds,upkeep.blind good.holds stack memo trace⟩
  reach within := within
  token _ found _ := (Array.getElem?_eq_some_iff.mp found).1
  unknown _ _ good := ⟨good.kept,good.seeds,upkeep.abort _ good.holds⟩

theorem sustained (limit : Nat) : (Regime.upheld t I).Sustained t limit where
  steps := upkeep.steps
  begins _ _ _ _ := upheld_allows
  continues _ _ _ _ _ _ := upheld_allows
  deep good _ _ _ := ⟨good.kept,good.seeds,upkeep.abort _ good.holds⟩
  seed good _ within := good.setSeed upkeep within
  recalled good recalls known := ⟨good.kept known,good.kept,good.seeds,upkeep.recalled good.holds recalls known⟩
  reentered := by
    intro rule pos s seed stack good missed found
    obtain ⟨within,stocked⟩ := good.stocked.reenter found (.reentered rule pos seed :: s.trace)
    exact ⟨within,stocked.kept,stocked.seeds,upkeep.reentered good.holds missed found⟩
  entered good _ missed fresh := good.enter upkeep missed fresh
  left := by
    intro levels rule pos s result u good within missed fresh ran _ ended
    cases result with
    | error e =>
      have stocked : Stocked (fun _ _ => Within t) (u.leave rule pos (.error e)) := ended.stocked.leave nofun
      exact ⟨stocked.kept,stocked.seeds,upkeep.left ⟨within,good,missed,fresh,ran,ended⟩⟩
    | ok outcome =>
      obtain ⟨after,reached⟩ := ended
      have stocked : Stocked (fun _ _ => Within t) (u.leave rule pos (.ok outcome)) :=
        after.stocked.leave fun _ eq => Except.ok.inj eq ▸ reached
      exact ⟨⟨stocked.kept,stocked.seeds,upkeep.left ⟨within,good,missed,fresh,ran,after⟩⟩,trivial⟩

theorem matchRule_runs (levels : Nat) (rule : Fin t.grammar.rules.length) (pos : Nat) (within : pos ≤ t.lexemes.size) :
    (Regime.upheld t I).Runs around (matchRule t levels rule pos) (Within t) :=
  (upkeep.sustained _).matchRule_runs levels rfl rule pos within

theorem inside (levels : Nat) {rule : Fin t.grammar.rules.length}
    (innermost : around.head? = some ((rule : Nat),start)) :
    (Regime.upheld t I).Inside t (matchRule t levels) rule start around :=
  ⟨upkeep.steps innermost,upkeep.matchRule_runs levels⟩

/-- The property after a call, given up or not. -/
theorem matchRule_upheld (levels : Nat) (rule : Fin t.grammar.rules.length) (pos : Nat)
    (within : pos ≤ t.lexemes.size) (good : Upheld t I none s) :
    Upheld t I (fault (matchRule t levels rule pos s).1) (matchRule t levels rule pos s).2 := by
  obtain ⟨_,ended⟩ := upkeep.matchRule_runs levels rule pos within s good rfl
  rcases ran : matchRule t levels rule pos s with ⟨e | outcome,u⟩
  all_goals rw [ran] at ended
  · exact ended
  · exact ended.1

end Upkeep

end Upheld

section Origin

variable {t : Task} {I : Option Abort → State → Prop}

theorem Tried.grows (tried : Tried t I levels rule pos s result u) : Grows (s.enter rule pos) u := by
  have grown := matchBody_grows t levels rule pos (s.enter rule pos)
  rw [tried.ran] at grown
  exact grown

theorem Tried.inside (_ : Tried t I levels rule pos s result u) :
    (s.enter rule pos).active.head? = some ((rule : Nat),pos) := rfl

theorem Tried.entered (tried : Tried t I levels rule pos s result u) (upkeep : Upkeep t I) :
    Upheld t I none (s.enter rule pos) :=
  tried.before.enter upkeep tried.missed tried.fresh

theorem Tried.growSeed_eq (tried : Tried t I levels rule pos s result u)
    (recursive : (t.grammar.ruleAt rule).isLeftRecursive = true) :
    growSeed t (matchRule t levels) rule pos (s.enter rule pos) = (result,u) := by
  have ran := tried.ran
  simp only [matchBody] at ran
  rwa [if_pos recursive] at ran

def Origin (t : Task) (I : Option Abort → State → Prop) (trace : List Event) (rule pos : Nat)
    (outcome : Option Matched) (kept : Bool) : Prop :=
  ∃ (i : Fin t.grammar.rules.length) (levels : Nat) (s u : State), (i : Nat) = rule ∧
    Tried t I levels i pos s (.ok outcome) u ∧ .settled rule pos outcome kept :: u.trace <:+ trace

structure Traced (t : Task) (I : Option Abort → State → Prop) (a : Option Abort) (s : State) : Prop where
  holds : I a s
  origin : ∀ rule pos outcome kept, .settled rule pos outcome kept ∈ s.trace →
    Origin t I s.trace rule pos outcome kept

theorem Traced.quiet (traced : Traced t I a s) (holds : I a' u) (trace : u.trace = e :: s.trace)
    (quiet : ∀ rule pos outcome kept, e ≠ .settled rule pos outcome kept) : Traced t I a' u where
  holds := holds
  origin := by
    intro rule pos outcome kept member
    rw [trace] at member ⊢
    rcases List.mem_cons.mp member with same | old
    · exact absurd same.symm (quiet rule pos outcome kept)
    · obtain ⟨i,levels,s₀,u₀,index,tried,earlier⟩ := traced.origin rule pos outcome kept old
      exact ⟨i,levels,s₀,u₀,index,tried,earlier.trans (List.suffix_cons _ _)⟩

theorem Traced.same (traced : Traced t I a s) (holds : I a' u) (trace : u.trace = s.trace) :
    Traced t I a' u where
  holds := holds
  origin := by rw [trace]; exact traced.origin

theorem Traced.upheld (upheld : Upheld t (Traced t I) a s) : Upheld t I a s :=
  ⟨upheld.kept,upheld.seeds,upheld.holds.holds⟩

theorem Upkeep.traced (upkeep : Upkeep t I) : Upkeep t (Traced t I) where
  abort e traced := traced.same (upkeep.abort e traced.holds) rfl
  blind traced stack memo trace := traced.same (upkeep.blind traced.holds stack memo trace) trace
  own traced inside own := by
    refine traced.quiet (upkeep.own traced.holds inside own) rfl fun rule pos outcome kept eq => ?_
    subst eq
    exact own
  seed seed traced := traced.same (upkeep.seed seed traced.holds) (by rw [setSeed_state])
  recalled traced recalls known :=
    traced.quiet (upkeep.recalled traced.holds recalls known) rfl fun _ _ _ _ eq => nomatch eq
  reentered traced missed found :=
    traced.quiet (upkeep.reentered traced.holds missed found) rfl fun _ _ _ _ eq => nomatch eq
  entered traced missed fresh :=
    traced.quiet (upkeep.entered traced.holds missed fresh) rfl fun _ _ _ _ eq => nomatch eq
  left := by
    intro levels rule pos s result u tried
    have tried' : Tried t I levels rule pos s result u :=
      ⟨tried.within,Traced.upheld tried.before,tried.missed,tried.fresh,tried.ran,Traced.upheld tried.after⟩
    have holds := upkeep.left tried'
    obtain ⟨frame,outer,stack,_⟩ := tried.grows.open_frame
    cases result with
    | error e =>
      rw [State.leave_error u rule pos e stack] at holds ⊢
      exact tried.after.holds.quiet holds rfl fun _ _ _ _ eq => nomatch eq
    | ok outcome =>
      rw [State.leave_ok u rule pos outcome stack] at holds ⊢
      refine ⟨holds,fun rule' pos' outcome' kept' member => ?_⟩
      rcases List.mem_cons.mp member with same | old
      · cases same
        exact ⟨rule,levels,s,u,rfl,tried',List.suffix_refl _⟩
      · obtain ⟨i,levels',s₀,u₀,index,tried₀,earlier⟩ := tried.after.holds.origin rule' pos' outcome' kept' old
        exact ⟨i,levels',s₀,u₀,index,tried₀,earlier.trans (List.suffix_cons _ _)⟩

/-- A parse keeps the property up, and what it settles was tried. -/
theorem Upkeep.parse (upkeep : Upkeep t I) (holds : I none { context }) (levels : Nat)
    (start : Fin t.grammar.rules.length) :
    let ran := matchRule t levels start 0 { context }
    Upheld t I (fault ran.1) ran.2 ∧
    ∀ (rule : Fin t.grammar.rules.length) pos outcome kept, .settled (rule : Nat) pos outcome kept ∈ ran.2.trace →
      ∃ levels s u, Tried t I levels rule pos s (.ok outcome) u ∧ u.trace <:+ ran.2.trace := by
  intro ran
  have first : Upheld t (Traced t I) none { context } := .start ⟨holds,fun _ _ _ _ member => nomatch member⟩
  have after := upkeep.traced.matchRule_upheld levels start 0 (Nat.zero_le _) first
  refine ⟨Traced.upheld after,fun rule pos outcome kept member => ?_⟩
  obtain ⟨i,levels',s,u,index,tried,suffix⟩ := after.holds.origin rule pos outcome kept member
  obtain rfl := Fin.ext index
  exact ⟨levels',s,u,tried,(List.suffix_cons _ _).trans suffix⟩

end Origin

end Packrat.Match
