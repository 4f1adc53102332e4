import Packrat.Proofs.Derivation
import Packrat.Proofs.Regime

/-! Parsing is sound: every match that is made on the way is read off a tree, and an input that is
accepted is the tokens of a tree of the start rule, with the value of the tree. -/
namespace Packrat

namespace Match

/-- What is kept and the seeds are read off trees, and so is whatever calls were told. -/
structure Lawful (t : Task) (s : State) : Prop extends Stocked (Sound t) s where
  told : Told t s.trace

theorem Lawful.start (t : Task) (context : Context) : Lawful t { context } :=
  ⟨.start context,fun _ member => nomatch member⟩

section Lawful

variable {t : Task}

def Regime.lawful (t : Task) : Regime where
  Good := Lawful t
  Lost _ := Lawful t
  At pos := pos ≤ t.lexemes.size
  Known _ := True
  Finds := Yields t

theorem lawful_spans (passes : (Regime.lawful t).Passes symbols pos values stop) : Spans t symbols pos values stop := by
  induction passes with
  | nil within => exact .nil within
  | cons first _ ih => exact .cons first ih

theorem Event.Own.answer?_eq {e : Event} (own : e.Own rule pos) : e.answer? = none := by
  cases e <;> first | rfl | exact own.elim

theorem lawful_steps (rule : Fin t.grammar.rules.length) : (Regime.lawful t).Steps t rule pos around where
  note good _ own := ⟨good.toStocked.of_same rfl fun _ _ => rfl,good.told.silent own.answer?_eq⟩
  blind good stack memo trace := ⟨good.toStocked.of_same stack fun _ _ => by rw [memo],by rw [trace]; exact good.told⟩
  reach yields := yields.within
  token := .token
  unknown _ _ good := good

/-- A recursive alternative begins with its own rule. -/
theorem symbols_of_recursive {rule : Fin t.grammar.rules.length} (recursive : a ∈ (t.grammar.ruleAt rule).recursive) :
    a ∈ (t.grammar.ruleAt rule).alternatives ∧ a.symbols = t.grammar.ruleName rule :: a.symbols.tail := by
  obtain ⟨member,starts⟩ := List.mem_filter.mp recursive
  refine ⟨member,?_⟩
  rw [Grammar.ruleName_eq]
  simp only [Alternative.startsWith,beq_iff_eq] at starts
  cases all : a.symbols with
  | nil => simp [all] at starts
  | cons symbol tail => simpa [all] using starts

theorem lawful_sustained (wellNamed : t.grammar.WellNamed) (limit : Nat) : (Regime.lawful t).Sustained t limit where
  steps _ := lawful_steps _
  begins rule pos a member := ⟨fun _ _ => trivial,fun passes accepted =>
    .node (wellNamed.resolve_ruleName rule) member (lawful_spans passes) accepted⟩
  continues := by
    -- The seed stands for the first symbol.
    intro rule pos a recursive m seed
    obtain ⟨member,symbols⟩ := symbols_of_recursive recursive
    refine ⟨fun _ _ => trivial,fun passes accepted => ?_⟩
    have spans := Spans.cons seed (lawful_spans passes)
    rw [← symbols] at spans
    exact .node (wellNamed.resolve_ruleName rule) member spans accepted
  deep good _ _ _ := good
  seed good innermost sound := by
    refine ⟨good.toStocked.setSeed ?_,by rw [setSeed_state]; exact good.told⟩
    rw [innermost]
    rintro _ ⟨⟩
    exact sound
  recalled good _ known :=
    ⟨good.kept known,good.toStocked.of_same rfl fun _ _ => rfl,good.told.answer rfl (good.kept known)⟩
  reentered good _ found := by
    -- An unfinished match is read off a tree too.
    obtain ⟨sound,stocked⟩ := good.toStocked.reenter found _
    exact ⟨sound,stocked,good.told.answer rfl sound⟩
  entered good _ _ _ := ⟨good.toStocked.enter nofun,good.told.silent rfl⟩
  left := by
    intro levels rule pos s result u _ _ _ _ _ grown ended
    obtain ⟨frame,outer,stack,_⟩ := grown.open_frame
    cases result with
    | error e =>
      have stocked : Stocked (Sound t) (u.leave rule pos (.error e)) := ended.toStocked.leave nofun
      rw [State.leave_error u rule pos e stack] at stocked ⊢
      exact ⟨stocked,ended.told.silent rfl⟩
    | ok outcome =>
      obtain ⟨good,sound⟩ := ended
      have stocked : Stocked (Sound t) (u.leave rule pos (.ok outcome)) :=
        good.toStocked.leave fun _ eq => Except.ok.inj eq ▸ sound
      rw [State.leave_ok u rule pos outcome stack] at stocked ⊢
      exact ⟨⟨stocked,good.told.answer rfl sound⟩,trivial⟩

theorem matchRule_lawful (wellNamed : t.grammar.WellNamed) (levels : Nat) (rule : Fin t.grammar.rules.length)
    (pos : Nat) (within : pos ≤ t.lexemes.size) (good : Lawful t s) : Lawful t (matchRule t levels rule pos s).2 ∧
      ∀ outcome, (matchRule t levels rule pos s).1 = .ok outcome → Sound t rule pos outcome := by
  obtain ⟨_,ended⟩ := (lawful_sustained wellNamed _).matchRule_runs levels rfl rule pos within s good rfl
  rcases ran : matchRule t levels rule pos s with ⟨e | outcome,u⟩
  all_goals rw [ran] at ended
  · exact ⟨ended,nofun⟩
  · exact ⟨ended.1,fun _ eq => Except.ok.inj eq ▸ ended.2⟩

end Lawful

/-- Whatever a call returns, the last event tells. -/
theorem matchRule_answers {t : Task} {rule : Fin t.grammar.rules.length}
    (ran : matchRule t levels rule pos s = (.ok outcome,u)) :
    u.trace.head?.bind Event.answer? = some ((rule : Nat),pos,outcome) := by
  rcases matchRule_cases ran with ⟨known,_,_,eq,rfl⟩ | ⟨seed,stack,_,eq,rfl⟩ | ⟨_,_,attempted⟩
  · obtain rfl := Except.ok.inj eq
    rfl
  · obtain rfl := Except.ok.inj eq
    rfl
  rcases attempt_cases attempted with ⟨_,_,deep⟩ | ⟨above,inner,frame,outer,rfl,inside,stack,_,rfl⟩
  · cases deep
  · rw [State.leave_ok inner rule pos outcome stack]
    rfl

end Match

namespace Grammar

abbrev task (g : Grammar) (lexemes : List Lexeme) (functions : Functions) (config : Config) : Match.Task :=
  { grammar := g, lexemes := lexemes.toArray, functions, strictActions := config.strictActions }

open Match in
/-- What a parse accepts is the tokens of a derivation from the start rule, and its value is that of
the derivation if the outcomes of actions hang on values only. So it is with every match on the
way, be it recalled, a seed, or settled afresh; each call ends with an event that tells what it
returned. -/
theorem parseWith_sound (g : Grammar) (built : g.Built) (context : Context) (functions : Functions)
    (config : Config) :
    (∀ input value, (g.parseWith input context functions config).result = .ok value →
      ∃ lexemes start tree, g.tokenize input = .ok lexemes ∧ g.startRule? = some start ∧
        Derives g start tree ∧ tree.leaves = lexemes ∧
        ((g.task lexemes functions config).ValueOnly →
          tree.value? (g.task lexemes functions config) = some value)) ∧
    (∀ lexemes levels rule pos, pos ≤ lexemes.length →
      ∀ e ∈ (matchRule (g.task lexemes functions config) levels rule pos { context }).2.trace,
        ∀ rule' pos' m, e.answer? = some (rule',pos',some m) →
          Yields (g.task lexemes functions config) (g.ruleName rule') pos' m) ∧
    ∀ lexemes levels rule pos s outcome u,
      matchRule (g.task lexemes functions config) levels rule pos s = (.ok outcome,u) →
        u.trace.head?.bind Event.answer? = some ((rule : Nat),pos,outcome) := by
  have keeps (lexemes : List Lexeme) (levels : Nat) (rule : Fin g.rules.length) (pos : Nat)
      (within : pos ≤ lexemes.length) :=
    matchRule_lawful (t := g.task lexemes functions config) built.wellNamed levels rule pos within (.start _ context)
  refine ⟨?_,?_,fun lexemes levels rule pos s outcome u ran => matchRule_answers ran⟩
  · intro input value parsed
    unfold parseWith at parsed
    cases scanned : (Lexeme.scan g.tokens input).result input with
    | error e => simp [scanned] at parsed
    | ok lexemes =>
      simp only [scanned] at parsed
      obtain ⟨start,i,stop,u,named,resolved,ran,whole⟩ := parseLexemes_ok parsed
      have sound := (keeps lexemes config.maxDepth i 0 (Nat.zero_le _)).2 (some ⟨value,stop⟩)
        (congrArg Prod.fst ran)
      obtain ⟨tree,derives,leaves,evaluated⟩ := (sound _ rfl).derived
      refine ⟨lexemes,start,tree,scanned,named,?_,?_,evaluated⟩
      · rw [Grammar.ruleName_of_resolve resolved] at derives
        exact derives
      · rw [leaves,whole,Array.extract_size]
  · intro lexemes levels rule pos within e member rule' pos' m answered
    exact (keeps lexemes levels rule pos within).1.told e member rule' pos' (some m) answered m rfl

def listed : Grammar where
  tokens := [⟨"X","x",0,.pattern,none,none,.set (.ofChars ['x']),none,none⟩]
  rules := [⟨"list",[⟨["list","X"],"",0,.none⟩,⟨["X"],"",0,.none⟩]⟩]

theorem listed_built : listed.Built := by
  have token : ({} : Grammar).register ⟨"X","x",0,.pattern,none,none,.set (.ofChars ['x']),none,none⟩ =
      .ok { tokens := listed.tokens } := by rfl
  have first : ({ tokens := listed.tokens } : Grammar).addAlternative "list" ⟨["list","X"],"",0,.none⟩ =
      .ok { tokens := listed.tokens, rules := [⟨"list",[⟨["list","X"],"",0,.none⟩]⟩] } := by rfl
  have second : ({ tokens := listed.tokens, rules := [⟨"list",[⟨["list","X"],"",0,.none⟩]⟩] } :
      Grammar).addAlternative "list" ⟨["X"],"",0,.none⟩ = .ok listed := by rfl
  exact .addAlternative (.addAlternative (.register .empty token) first) second

theorem parseWith_sound_listed :
    listed.Built ∧ (listed.parseWith "x x" {} {} {}).result = .ok (.list [.str "x",.str "x"]) ∧
    ∃ tree, Derives listed "list" tree ∧ tree.leaves = [⟨"X","x",0,1⟩,⟨"X","x",2,3⟩] ∧
      tree.value? (listed.task tree.leaves {} {}) = some (.list [.str "x",.str "x"]) := by
  have parsed : (listed.parseWith "x x" {} {} {}).result = .ok (.list [.str "x",.str "x"]) := by rfl
  have tokens : listed.tokenize "x x" = .ok [⟨"X","x",0,1⟩,⟨"X","x",2,3⟩] := by rfl
  obtain ⟨lexemes,start,tree,scanned,named,derives,leaves,value⟩ :=
    (parseWith_sound listed listed_built {} {} {}).1 "x x" _ parsed
  obtain rfl := Except.ok.inj (tokens.symm.trans scanned)
  obtain rfl : "list" = start := Option.some.inj named
  refine ⟨listed_built,parsed,tree,derives,leaves,?_⟩
  rw [leaves]
  exact value fun name f registered => nomatch registered

end Grammar

end Packrat
