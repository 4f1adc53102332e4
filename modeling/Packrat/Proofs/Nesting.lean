import Mathlib.Data.List.Perm.Subperm
import Mathlib.Data.List.ProdSigma
import Packrat.Proofs.Canonical
import Packrat.Proofs.Soundness

/-! How deep matches nest. A match that is open is not begun again, and none is begun past the end of
the input, so there are never more open matches than there are rules and positions. However a
grammar recurses, a limit of that many levels is never reached. -/
namespace Packrat

def Grammar.Closed (g : Grammar) : Prop :=
  ∀ r ∈ g.rules, ∀ a ∈ r.alternatives, ∀ symbol ∈ a.symbols, (g.resolve symbol).isSome

instance (g : Grammar) : Decidable g.Closed :=
  inferInstanceAs (Decidable (∀ r ∈ g.rules, ∀ a ∈ r.alternatives, ∀ symbol ∈ a.symbols, (g.resolve symbol).isSome))

def ParseError.Kind.GivenUp : ParseError.Kind → Prop
  | undefinedSymbol .. | missingStartRule | recursionLimit _ => True
  | _ => False

namespace Match

variable {t : Task} {ample : Prop} {around : List (Nat × Nat)}

/-- Matches that may be open together: no two of the same rule at the same position, each of a rule
of the grammar, at a token or at the end of the input. -/
structure Distinct (t : Task) (opened : List (Nat × Nat)) : Prop where
  nodup : opened.Nodup
  within : ∀ m ∈ opened, m.1 < t.grammar.rules.length ∧ m.2 ≤ t.lexemes.size

theorem Distinct.nil : Distinct t [] := ⟨List.nodup_nil,by simp⟩

theorem Distinct.cons (distinct : Distinct t opened) (rule : Fin t.grammar.rules.length)
    (within : pos ≤ t.lexemes.size) (fresh : ((rule : Nat),pos) ∉ opened) :
    Distinct t (((rule : Nat),pos) :: opened) := by
  refine ⟨List.nodup_cons.mpr ⟨fresh,distinct.nodup⟩,fun m member => ?_⟩
  rcases List.mem_cons.mp member with rfl | old
  · exact ⟨rule.isLt,within⟩
  · exact distinct.within m old

theorem Distinct.tail (distinct : Distinct t opened) : Distinct t opened.tail :=
  ⟨distinct.nodup.tail,fun m member => distinct.within m (List.mem_of_mem_tail member)⟩

/-- There are not more of them than rules and positions. -/
theorem Distinct.length_le (distinct : Distinct t opened) :
    opened.length ≤ t.grammar.rules.length * (t.lexemes.size + 1) := by
  have places : opened ⊆ List.range t.grammar.rules.length ×ˢ List.range (t.lexemes.size + 1) := by
    intro m member
    obtain ⟨rule,pos⟩ := distinct.within m member
    rw [List.mem_product,List.mem_range,List.mem_range]
    omega
  have counted := (List.subperm_of_subset distinct.nodup places).length_le
  rwa [List.length_product,List.length_range,List.length_range] at counted

def Within (t : Task) (found : Option Matched) : Prop := ∀ m ∈ found, m.stop ≤ t.lexemes.size

theorem Within.none : Within t none := fun _ member => nomatch member

theorem Within.some (within : m.stop ≤ t.lexemes.size) : Within t (some m) := by
  intro m' member
  obtain rfl := Option.some.inj member
  exact within

def Longer (t : Task) (m : Matched) (found : Option Matched) : Prop :=
  ∀ m' ∈ found, m.stop < m'.stop ∧ m'.stop ≤ t.lexemes.size

theorem Longer.none : Longer t m none := fun _ member => nomatch member

theorem Longer.le_getD (longer : Longer t m found) : m.stop ≤ (found.getD m).stop := by
  cases found with
  | none => exact Nat.le_refl _
  | some m' => exact Nat.le_of_lt (longer m' rfl).1

/-- The invariant of a parse. The stack is what the trace tells, and at no time were there two
frames for the same match. If the levels are ample, no match was abandoned. -/
structure Orderly (t : Task) (ample : Prop) (s : State) : Prop where
  kept : ∀ {rule pos outcome}, s.memo.get? rule pos = some outcome → Within t outcome
  seeds : ∀ {f}, f ∈ s.stack → Within t f.seed
  active : openMatches s.trace = s.active
  distinct : ∀ past, past <:+ s.trace → Distinct t (openMatches past)
  finished : ample → ∀ rule pos, .abandoned rule pos ∉ s.trace

theorem Orderly.start (context : Context) : Orderly t ample { context } where
  kept known := by simp [Memo.get?] at known
  seeds member := nomatch member
  active := rfl
  distinct past suffix := by
    obtain rfl := List.suffix_nil.mp suffix
    exact .nil
  finished _ _ _ member := nomatch member

/-- A longer trace is orderly if the open matches are distinct after its last event. -/
theorem Orderly.later (orderly : Orderly t ample s) (now : Distinct t (openMatches (e :: s.trace)))
    (past : List Event) (suffix : past <:+ e :: s.trace) : Distinct t (openMatches past) := by
  rcases List.suffix_cons_iff.mp suffix with rfl | earlier
  · exact now
  · exact orderly.distinct past earlier

def Event.Quiet (e : Event) : Prop :=
  (∀ trace, openMatches (e :: trace) = openMatches trace) ∧ ∀ rule pos, e ≠ .abandoned rule pos

theorem Event.Own.quiet {e : Event} (own : e.Own rule pos) : e.Quiet := by
  cases e <;> first | exact own.elim | exact ⟨fun _ => rfl,fun _ _ eq => nomatch eq⟩

theorem Orderly.stocked (orderly : Orderly t ample s) : Stocked (fun _ _ => Within t) s :=
  ⟨orderly.kept,orderly.seeds⟩

/-- Such an event, and what else changes with it. -/
theorem Orderly.quiet (orderly : Orderly t ample s) (quiet : e.Quiet) (trace : u.trace = e :: s.trace)
    (active : u.active = s.active) (stocked : Stocked (fun _ _ => Within t) u) : Orderly t ample u where
  kept := stocked.kept
  seeds := stocked.seeds
  active := by rw [trace,quiet.1,active,orderly.active]
  distinct past suffix := by
    have now : Distinct t (openMatches (e :: s.trace)) := by
      rw [quiet.1]
      exact orderly.distinct _ (List.suffix_refl _)
    rw [trace] at suffix
    exact orderly.later now past suffix
  finished enough rule pos member := by
    rw [trace] at member
    rcases List.mem_cons.mp member with same | old
    · exact quiet.2 rule pos same.symm
    · exact orderly.finished enough rule pos old

/-- No event, and what else changes. -/
theorem Orderly.still (orderly : Orderly t ample s) (trace : u.trace = s.trace) (active : u.active = s.active)
    (stocked : Stocked (fun _ _ => Within t) u) : Orderly t ample u where
  kept := stocked.kept
  seeds := stocked.seeds
  active := by rw [trace,active,orderly.active]
  distinct := by rw [trace]; exact orderly.distinct
  finished := by rw [trace]; exact orderly.finished

section Orderly

def Regime.orderly (t : Task) (ample : Prop) : Regime where
  Good := Orderly t ample
  Lost _ s := Orderly t ample s ∧ ¬ample
  At pos := pos ≤ t.lexemes.size
  Known symbol := ample → (t.grammar.resolve symbol).isSome
  Finds _ _ m := m.stop ≤ t.lexemes.size

theorem orderly_steps (rule : Fin t.grammar.rules.length) : (Regime.orderly t ample).Steps t rule start around where
  note good _ own := good.quiet own.quiet rfl rfl (good.stocked.of_same rfl fun _ _ => rfl)
  blind good stack memo trace :=
    good.still trace (by rw [State.active,stack]; rfl) (good.stocked.of_same stack fun _ _ => by rw [memo])
  reach within := within
  token _ found _ := (Array.getElem?_eq_some_iff.mp found).1
  unknown known resolved good := ⟨good,fun enough => by simpa [resolved] using known enough⟩

theorem orderly_setSeed (within : Within t seed) : (Regime.orderly t ample).Runs around (setSeed seed) fun _ => True :=
  .setSeed fun s good _ =>
    good.still (by rw [setSeed_state]) (setSeed_active seed s) (good.stocked.setSeed fun _ _ => within)

theorem orderly_allows (known : ∀ symbol ∈ symbols, (Regime.orderly t ample).Known symbol) :
    (Regime.orderly t ample).Allows t symbol start action symbols pos before :=
  ⟨known,fun passes _ => passes.at_stop⟩

variable {call : Fin t.grammar.rules.length → Nat → Matching (Option Matched)} {rule : Fin t.grammar.rules.length}

/-- The rounds of growth end by themselves: with room for every token after the seed, more room
changes nothing. -/
theorem grow_room (inside : (Regime.orderly t ample).Inside t call rule start around) (alternatives : List Alternative)
    (named : ample → ∀ a ∈ alternatives, ∀ symbol ∈ a.symbols, (t.grammar.resolve symbol).isSome)
    (room extra rounds : Nat) (seed : m.stop ≤ t.lexemes.size) (wide : t.lexemes.size ≤ m.stop + room)
    (s : State) (good : Orderly t ample s) (active : s.active = around) :
    grow t call rule start alternatives (room + extra) rounds m s =
      grow t call rule start alternatives room rounds m s := by
  have round {m : Matched} (seed : m.stop ≤ t.lexemes.size) :=
    inside.growOnce_runs alternatives seed (fun a member => orderly_allows fun symbol tail enough =>
      named enough a member symbol (List.mem_of_mem_tail tail)) none nofun
  induction room generalizing rounds m s with
  | zero =>
    cases extra with
    | zero => rfl
    | succ extra =>
      -- The seed ends where the input does, so that the round finds nothing longer.
      rw [Nat.zero_add,grow,grow,Matching.bind_run,Matching.bind_run]
      rcases ran : growOnce t call rule start m alternatives none s with ⟨e | _ | next,u⟩
      · rfl
      · rfl
      · obtain ⟨_,_,_,longer⟩ := (round seed).of_eq_ok good active ran
        have further : m.stop < next.stop ∧ next.stop ≤ t.lexemes.size := longer next rfl
        omega
  | succ room ih =>
    rw [Nat.succ_add,grow,grow,Matching.bind_run,Matching.bind_run]
    rcases ran : growOnce t call rule start m alternatives none s with ⟨e | _ | next,u⟩
    · rfl
    · rfl
    · obtain ⟨_,good',active',longer⟩ := (round seed).of_eq_ok good active ran
      obtain ⟨further,within⟩ : m.stop < next.stop ∧ next.stop ≤ t.lexemes.size := longer next rfl
      dsimp only
      rw [Matching.bind_run,Matching.bind_run]
      rcases set : setSeed (some next) u with ⟨e | _,v⟩
      · rfl
      · obtain ⟨_,good'',active'',_⟩ := (orderly_setSeed (.some within)).of_eq_ok good' active' set
        exact ih (rounds + 1) within (by omega) v good'' active''

/-- The limit is ample if every symbol has a meaning and all matches together fit into it. -/
def Ample (t : Task) (limit : Nat) : Prop :=
  t.grammar.Closed ∧ t.grammar.rules.length * (t.lexemes.size + 1) ≤ limit

/-- A match that is not open yet may be opened, and what it comes to is kept or not. -/
theorem orderly_sustained (t : Task) (limit : Nat) : (Regime.orderly t (Ample t limit)).Sustained t limit where
  steps _ := orderly_steps _
  begins rule _ a member := orderly_allows fun symbol inside enough =>
    enough.1 _ (List.get_mem t.grammar.rules rule) a member symbol inside
  continues rule _ a member _ _ := orderly_allows fun symbol inside enough =>
    enough.1 _ (List.get_mem t.grammar.rules rule) a (List.filter_sublist.subset member) symbol
      (List.mem_of_mem_tail inside)
  deep := by
    -- With no level left, all the matches there are would be open, and this one besides.
    rintro rule pos s good within fresh room
    refine ⟨good,fun ample => ?_⟩
    have enough := ample.2
    have before := good.distinct _ (List.suffix_refl s.trace)
    rw [good.active] at before
    have counted := (before.cons rule within fresh).length_le
    rw [List.length_cons,room] at counted
    omega
  seed good _ within :=
    good.still (by rw [setSeed_state]) (setSeed_active _ _) (good.stocked.setSeed fun _ _ => within)
  recalled := by
    intro rule pos s outcome good _ known
    have quiet : (Event.recalled rule pos outcome).Quiet := ⟨fun _ => rfl,by simp⟩
    exact ⟨good.kept known,good.quiet quiet rfl rfl (good.stocked.of_same rfl fun _ _ => rfl)⟩
  reentered := by
    intro rule pos s seed stack good _ found
    have quiet : (Event.reentered rule pos seed).Quiet := ⟨fun _ => rfl,by simp⟩
    obtain ⟨within,stocked⟩ := good.stocked.reenter found (.reentered rule pos seed :: s.trace)
    exact ⟨within,good.quiet quiet rfl (ages_pairs (markInside_ages found)) stocked⟩
  entered := by
    intro rule pos s good within _ fresh
    have stocked : Stocked (fun _ _ => Within t) (s.enter rule pos) := good.stocked.enter .none
    refine ⟨stocked.kept,stocked.seeds,by simp [openMatches,good.active],?_,fun enough r p member => ?_⟩
    · have before := good.distinct _ (List.suffix_refl s.trace)
      rw [← good.active] at fresh
      exact good.later (e := .entered rule pos) (before.cons rule within fresh)
    · rcases List.mem_cons.mp member with same | old
      · cases same
      · exact good.finished enough r p old
  left := by
    intro levels rule pos s result u _ _ _ _ _ grown ended
    obtain ⟨frame,outer,stack,_⟩ := grown.open_frame
    have closed (good : Orderly t (Ample t limit) u) :
        (openMatches u.trace).tail = outer.map fun f => (f.rule,f.pos) := by
      rw [good.active,State.active,stack]
      rfl
    have now (good : Orderly t (Ample t limit) u) : Distinct t (openMatches u.trace).tail :=
      (good.distinct _ (List.suffix_refl _)).tail
    cases result with
    | error e =>
      obtain ⟨good,scarce⟩ := ended
      have stocked : Stocked (fun _ _ => Within t) (u.leave rule pos (.error e)) := good.stocked.leave (by simp)
      rw [State.leave_error u rule pos e stack] at stocked ⊢
      refine ⟨⟨stocked.kept,stocked.seeds,closed good,?_,fun enough => absurd enough scarce⟩,scarce⟩
      exact good.later (e := .abandoned rule pos) (now good)
    | ok outcome =>
      obtain ⟨good,within⟩ := ended
      have stocked : Stocked (fun _ _ => Within t) (u.leave rule pos (.ok outcome)) :=
        good.stocked.leave fun _ eq => Except.ok.inj eq ▸ within
      rw [State.leave_ok u rule pos outcome stack] at stocked ⊢
      refine ⟨⟨stocked.kept,stocked.seeds,closed good,?_,fun enough r p member => ?_⟩,trivial⟩
      · exact good.later (e := .settled rule pos outcome _) (now good)
      · rcases List.mem_cons.mp member with same | old
        · cases same
        · exact good.finished enough r p old

/-- A call that has ample levels is not given up. -/
theorem matchRule_orderly (levels : Nat) (room : s.active.length + levels = limit) (rule : Fin t.grammar.rules.length)
    (pos : Nat) (within : pos ≤ t.lexemes.size) (good : Orderly t (Ample t limit) s) :
    Orderly t (Ample t limit) (matchRule t levels rule pos s).2 ∧
      (Ample t limit → ∃ outcome, (matchRule t levels rule pos s).1 = .ok outcome) ∧
      ∀ outcome, (matchRule t levels rule pos s).1 = .ok outcome → Within t outcome := by
  obtain ⟨_,ended⟩ := (orderly_sustained t limit).matchRule_runs levels room rule pos within s good rfl
  rcases ran : matchRule t levels rule pos s with ⟨e | outcome,u⟩
  all_goals rw [ran] at ended
  · exact ⟨ended.1,fun enough => absurd enough ended.2,nofun⟩
  · exact ⟨ended.1,fun _ => ⟨outcome,rfl⟩,fun _ eq => Except.ok.inj eq ▸ ended.2⟩

end Orderly

section Answers

variable (lexemes : Array Lexeme) (input start : String)

/-- The errors of a run that was not given up tell of the input. -/
theorem answer_kind (g : Grammar) (s : State) (outcome : Option Matched)
    (failed : answer g lexemes input start s outcome = .error e) : ¬e.kind.GivenUp := by
  have expected (f : Furthest) (pos : Nat) : ¬(f.expectedError lexemes input start pos).kind.GivenUp := by
    unfold Furthest.expectedError
    dsimp only
    split <;> exact id
  have failure (f : Furthest) : ¬(f.error lexemes input start).kind.GivenUp := by
    unfold Furthest.error
    split
    · exact id
    · split
      · exact id
      · exact expected f _
    · exact expected f _
    · exact id
  cases outcome with
  | none =>
    obtain rfl := Except.error.inj failed
    exact failure _
  | some m =>
    simp only [answer] at failed
    split at failed
    · cases failed
    · obtain rfl := Except.error.inj failed
      unfold Furthest.trailingError
      split
      · exact failure _
      · exact id

end Answers

end Match

namespace Grammar

open Match in
/-- The matcher does not run away, however the grammar recurses. At no time of a parse is a match
begun that is open already, or past the end of the input, and the rounds of growth end by
themselves. So with levels for every rule at every position no call is given up, and an input that
is refused is refused for what it says. -/
theorem parseWith_bounded (g : Grammar) (built : g.Built) (rules : g.rules ≠ []) (closed : g.Closed)
    (context : Context) (functions : Functions) (config : Config) (input : String) (lexemes : List Lexeme)
    (tokenized : g.tokenize input = .ok lexemes) :
    let t := g.task lexemes functions config
    let invariant := Orderly t (Ample t config.maxDepth)
    (∃ start : Fin g.rules.length, g.startRule? = some (g.ruleName start) ∧ invariant { context } ∧
      ∀ past, past <:+ (matchRule t config.maxDepth start 0 { context }).2.trace →
        (openMatches past).Nodup ∧ ∀ m ∈ openMatches past, m.1 < g.rules.length ∧ m.2 ≤ lexemes.length) ∧
    (∀ levels rule s, invariant s → s.active.length + levels = config.maxDepth →
      (∀ pos, pos ≤ lexemes.length → invariant (matchRule t levels rule pos s).2 ∧
        (g.rules.length * (lexemes.length + 1) ≤ config.maxDepth →
          ∃ outcome, (matchRule t levels rule pos s).1 = .ok outcome)) ∧
      ∀ pos rounds extra seed, seed.stop ≤ lexemes.length →
        grow t (matchRule t levels) rule pos (g.ruleAt rule).recursive (lexemes.length - seed.stop + extra)
            rounds seed s =
          grow t (matchRule t levels) rule pos (g.ruleAt rule).recursive (lexemes.length - seed.stop)
            rounds seed s) ∧
    (g.rules.length * (lexemes.length + 1) ≤ config.maxDepth →
      ∀ e, (g.parseWith input context functions config).result = .error e → ¬e.kind.GivenUp) := by
  intro t invariant
  have call (levels : Nat) (rule : Fin g.rules.length) (pos : Nat) (s : State) (good : invariant s)
      (room : s.active.length + levels = config.maxDepth) (within : pos ≤ lexemes.length) :=
    matchRule_orderly levels room rule pos within good
  have ok (enough : g.rules.length * (lexemes.length + 1) ≤ config.maxDepth) (levels : Nat)
      (rule : Fin g.rules.length) (pos : Nat) (s : State) (good : invariant s)
      (room : s.active.length + levels = config.maxDepth) (within : pos ≤ lexemes.length) :
      ∃ outcome, (matchRule t levels rule pos s).1 = .ok outcome :=
    (call levels rule pos s good room within).2.1 ⟨closed,enough⟩
  obtain ⟨start,named⟩ := built.startRule rules
  have first : invariant { context } := .start context
  refine ⟨⟨start,named,first,fun past suffix => ?_⟩,fun levels rule s good room => ⟨?_,?_⟩,?_⟩
  · have after := (call config.maxDepth start 0 _ first (by simp [State.active]) (Nat.zero_le _)).1
    have distinct := after.distinct past suffix
    exact ⟨distinct.nodup,distinct.within⟩
  · exact fun pos within =>
      ⟨(call levels rule pos s good room within).1,fun enough => ok enough levels rule pos s good room within⟩
  · intro pos rounds extra seed within
    have named (_ : Ample t config.maxDepth) : ∀ a ∈ (g.ruleAt rule).recursive, ∀ symbol ∈ a.symbols,
        (g.resolve symbol).isSome :=
      fun a member => closed _ (List.get_mem g.rules rule) a (List.filter_sublist.subset member)
    have size : t.lexemes.size = lexemes.length := List.size_toArray
    have inside : (Regime.orderly t (Ample t config.maxDepth)).Inside t (matchRule t levels) rule pos s.active :=
      ⟨orderly_steps rule,(orderly_sustained t config.maxDepth).matchRule_runs levels room⟩
    exact grow_room inside _ named _ extra rounds within (by omega) s good rfl
  · intro enough e failed
    obtain ⟨outcome,result⟩ := ok enough config.maxDepth start 0 _ first (by simp [State.active]) (Nat.zero_le _)
    rw [parseWith_of_ok _ _ _ tokenized] at failed
    cases ran : matchRule t config.maxDepth start 0 { context } with
    | mk result' u =>
      rw [ran] at result
      obtain rfl : result' = .ok outcome := result
      have answered := parseLexemes_result t named (built.wellNamed.resolve_ruleName start) ran input
      exact answer_kind _ input _ g u outcome (answered.symm.trans failed)

def hidden : Grammar where
  tokens := [⟨"X","x",0,.pattern,none,none,.seq [.anchor .textStart,.set (.ofChars ['x'])],none,none⟩]
  rules := [⟨"a",[⟨["e","a","X"],"",0,.none⟩,⟨["X"],"",0,.none⟩]⟩,⟨"e",[⟨[],"",0,.none⟩]⟩]

theorem hidden_built : hidden.Built := by
  have token : ({} : Grammar).register hidden.tokens[0] = .ok { tokens := hidden.tokens } := by rfl
  have first : ({ tokens := hidden.tokens } : Grammar).addAlternative "a" ⟨["e","a","X"],"",0,.none⟩ =
      .ok { tokens := hidden.tokens, rules := [⟨"a",[⟨["e","a","X"],"",0,.none⟩]⟩] } := by rfl
  have second : ({ tokens := hidden.tokens, rules := [⟨"a",[⟨["e","a","X"],"",0,.none⟩]⟩] } :
      Grammar).addAlternative "a" ⟨["X"],"",0,.none⟩ =
      .ok { tokens := hidden.tokens, rules := [hidden.rules[0]] } := by rfl
  have third : ({ tokens := hidden.tokens, rules := [hidden.rules[0]] } : Grammar).addAlternative "e"
      ⟨[],"",0,.none⟩ = .ok hidden := by rfl
  exact .addAlternative (.addAlternative (.addAlternative (.register .empty token) first) second) third

def hidden.lexemes : List Lexeme := [⟨"X","x",0,1⟩,⟨"X","x",2,3⟩]

def hidden.a : Fin hidden.rules.length := ⟨0,by decide⟩

open Match in
theorem parseWith_bounded_hidden :
    hidden.Built ∧ hidden.rules ≠ [] ∧ hidden.Closed ∧ hidden.tokenize "x x" = .ok hidden.lexemes ∧
    (∃ past, past <:+ (matchRule (hidden.task hidden.lexemes {} {}) 6 hidden.a 0 {}).2.trace ∧
      openMatches past = [(1,0),(0,0)] ∧ (openMatches past).Nodup ∧ ∀ m ∈ openMatches past, m.1 < 2 ∧ m.2 ≤ 2) ∧
    hidden.rules.length * (hidden.lexemes.length + 1) ≤ 6 ∧
    (∃ outcome, (matchRule (hidden.task hidden.lexemes {} {}) 6 hidden.a 0 {}).1 = .ok outcome) ∧
    ∃ e, (hidden.parseWith "x x" {} {} { maxDepth := 6 }).result = .error e ∧ ¬e.kind.GivenUp := by
  have tokenized : hidden.tokenize "x x" = .ok hidden.lexemes := by rfl
  have enough : hidden.rules.length * (hidden.lexemes.length + 1) ≤ 6 := by decide
  obtain ⟨⟨start,named,orderly,distinct⟩,calls,refused⟩ := parseWith_bounded hidden hidden_built (by decide)
    (by decide) {} {} { maxDepth := 6 } "x x" hidden.lexemes tokenized
  have first : ∀ i : Fin hidden.rules.length, hidden.startRule? = some (hidden.ruleName i) → i = hidden.a := by decide
  obtain rfl := first start named
  have failed : (hidden.parseWith "x x" {} {} { maxDepth := 6 }).result =
      .error ⟨.trailingInput,"unexpected X 'x' after the end of 'a'",1,3,2,"x","x x"⟩ := by rfl
  have past : [.entered 1 0,.entered 0 0] <:+ (matchRule (hidden.task hidden.lexemes {} {}) 6 hidden.a 0 {}).2.trace :=
    ⟨(matchRule (hidden.task hidden.lexemes {} {}) 6 hidden.a 0 {}).2.trace.take 5,by rfl⟩
  exact ⟨hidden_built,by decide,by decide,tokenized,⟨_,past,rfl,distinct _ past⟩,enough,
    ((calls 6 hidden.a {} orderly rfl).1 0 (Nat.zero_le _)).2 enough,_,failed,refused enough _ failed⟩

end Grammar

end Packrat
