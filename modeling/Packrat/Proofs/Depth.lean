import Packrat.Proofs.Invocation

/-! The limit on nesting is a cut-off only: with more levels a match that was not given up for its
depth comes to the same result in the same state. -/
namespace Packrat

def Outcome.OverLimit (o : Outcome) : Prop :=
  ∃ e limit, o.result = .error e ∧ e.kind = .recursionLimit limit

instance (o : Outcome) : Decidable o.OverLimit :=
  match result : o.result with
  | .ok value => isFalse fun ⟨_,_,failed,_⟩ => nomatch result.symm.trans failed
  | .error e =>
    match kind : e.kind with
    | .recursionLimit limit => isTrue ⟨e,limit,result,kind⟩
    | .tokenize | .expectedToken .. | .noAlternative .. | .action .. | .trailingInput | .undefinedSymbol ..
    | .missingStartRule => isFalse fun ⟨_,_,failed,exceeded⟩ => by
        obtain rfl := Except.error.inj (result.symm.trans failed)
        cases kind.symm.trans exceeded

namespace Match

def TooDeep (a : Option Abort) (_ : State) : Prop := ∃ rule pos, a = some (.tooDeep rule pos)

theorem tooDeep_lasting : Lasting TooDeep := by
  rintro s u a ⟨rule,pos,given⟩ _
  cases given

theorem eq_respects (t : Task) : Respects t Eq TooDeep where
  lasting := tooDeep_lasting
  note _ _ same := by rw [same]
  seed _ same := by rw [same]
  invoke rule name values start stop :=
    .of_same (invoke_grows t rule name values start stop) fun _ _ same => by simp [same]

variable (t : Task)

theorem settle_deeper {evaluate : Matching (Option Matched)} {evaluate' : Nat → Matching (Option Matched)}
    (rule pos : Nat) (evaluation : Simulates Eq TooDeep evaluate evaluate') :
    Simulates Eq TooDeep (settle t rule pos evaluate) fun n => settle t rule pos (evaluate' n) := by
  refine .settle rule pos evaluation ?_ ?_ ?_
  · intro s s' outcome same recalls known
    subst same
    exact .inr ⟨_,0,rfl,fun n _ => settle_known recalls known⟩
  · intro s s' seed stack same missed found
    subst same
    exact .inr ⟨_,0,rfl,fun n _ => settle_open missed found⟩
  · intro s s' same missed closed
    subst same
    exact .inr ⟨missed,closed⟩

theorem matchRule_deeper (levels more : Nat) (rule : Fin t.grammar.rules.length) (pos : Nat) :
    Simulates Eq TooDeep (matchRule t levels rule pos) fun _ => matchRule t (levels + more) rule pos := by
  induction levels generalizing rule pos with
  | zero =>
    simp only [matchRule_eq]
    exact settle_deeper t rule pos ⟨fun s => .refl s,fun s _ _ => .inl ⟨_,_,rfl⟩⟩
  | succ levels ih =>
    simp only [matchRule_eq,Nat.succ_add]
    refine settle_deeper t rule pos (attempt_simulates (eq_respects t) t.recalls rule ih pos ?_ ?_ ?_)
    · intro s s' same
      rw [same]
    · intro s s' u result _ _ escaped
      exact escaped
    · intro s s' u u' result n _ _ _ _ same _
      rw [same]

theorem matchRule_grows (levels : Nat) (rule : Fin t.grammar.rules.length) (pos : Nat) :
    Growing (matchRule t levels rule pos) :=
  (matchRule_deeper t levels 0 rule pos).grows

theorem matchBody_grows (levels : Nat) (rule : Fin t.grammar.rules.length) (pos : Nat) :
    Growing (matchBody t (matchRule t levels) rule pos) :=
  (matchBody_simulates (eq_respects t) t.recalls (matchRule_deeper t levels 0) rule pos).grows

/-- An attempt at a rule goes through its alternatives inside a frame, if there is a level left. -/
theorem attempt_cases {t : Task} {rule : Fin t.grammar.rules.length}
    (ran : attempt t levels rule pos s = (result,u)) :
    TooDeep (fault result) u ∨ ∃ above inner frame outer, levels = above + 1 ∧
      matchBody t (matchRule t above) rule pos (s.enter rule pos) = (result,inner) ∧
      inner.stack = frame :: outer ∧ outer.length = s.stack.length ∧ u = inner.leave rule pos result := by
  cases levels with
  | zero =>
    obtain ⟨rfl,rfl⟩ := Prod.mk.inj ran
    exact .inl ⟨rule,pos,rfl⟩
  | succ above =>
    have grown := matchBody_grows t above rule pos (s.enter rule pos)
    cases inside : matchBody t (matchRule t above) rule pos (s.enter rule pos) with
    | mk result' inner =>
      rw [inside] at grown
      obtain ⟨frame,outer,stack,_,_,ages⟩ := grown.open_frame
      simp only [attempt,framed,inside] at ran
      obtain ⟨rfl,rfl⟩ := Prod.mk.inj ran
      exact .inr ⟨above,inner,frame,outer,rfl,inside,stack,ages.length_eq.symm,rfl⟩

/-- Everything a call may do: find the outcome kept, re-enter an open match, or attempt the rule. -/
theorem matchRule_cases {t : Task} {rule : Fin t.grammar.rules.length}
    (ran : matchRule t levels rule pos s = (result,u)) :
    (∃ outcome, t.recalls = true ∧ s.memo.get? rule pos = some outcome ∧ result = .ok outcome ∧ u = { s with
      memo := { s.memo with hits := s.memo.hits + 1 }
      trace := .recalled rule pos outcome :: s.trace }) ∨
    (∃ seed stack, markInside rule pos s.stack = some (seed,stack) ∧ result = .ok seed ∧
      u = { s with stack, trace := .reentered rule pos seed :: s.trace }) ∨
    (Missed t s rule pos ∧ markInside rule pos s.stack = none ∧
      attempt t levels rule pos s = (result,u)) := by
  rw [matchRule_eq] at ran
  rcases settle_cases t s rule pos with ⟨recalls,outcome,known⟩ | ⟨missed,seed,stack,found⟩ | ⟨missed,closed⟩
  · rw [settle_known recalls known] at ran
    obtain ⟨rfl,rfl⟩ := Prod.mk.inj ran
    exact .inl ⟨outcome,recalls,known,rfl,rfl⟩
  · rw [settle_open missed found] at ran
    obtain ⟨rfl,rfl⟩ := Prod.mk.inj ran
    exact .inr (.inl ⟨seed,stack,found,rfl,rfl⟩)
  · rw [settle_fresh missed closed] at ran
    exact .inr (.inr ⟨missed,closed,ran⟩)

/-- More levels change nothing in a match that was not given up for its depth. -/
theorem matchRule_of_le {levels more : Nat} (le : levels ≤ more) (rule : Fin t.grammar.rules.length)
    (pos : Nat) (s : State) (shallow : ∀ r p, (matchRule t levels rule pos s).1 ≠ .error (.tooDeep r p)) :
    matchRule t more rule pos s = matchRule t levels rule pos s := by
  obtain ⟨extra,rfl⟩ := Nat.exists_eq_add_of_le le
  rcases (matchRule_deeper t levels extra rule pos).step s s rfl with ⟨r,p,given⟩ | ⟨u,least,rfl,same⟩
  · cases result : (matchRule t levels rule pos s).1 with
    | ok outcome => simp [result,fault] at given
    | error e =>
      simp only [result,fault,Option.some.injEq] at given
      exact absurd (result.trans (by rw [given])) (shallow r p)
  · exact same least (Nat.le_refl least)

/-- What the start rule comes to from the first token on; none if there is no such rule. -/
def startRun? (context : Context) (limit : Nat) : Option (Except Abort (Option Matched) × State) :=
  match t.grammar.startRule?.bind t.grammar.resolve with
  | some (.rule i) => some (matchRule t limit i 0 { context })
  | _ => none

theorem startRun?_eq (named : t.grammar.startRule? = some start)
    (resolved : t.grammar.resolve start = some (.rule i)) (context : Context) (limit : Nat) :
    startRun? t context limit = some (matchRule t limit i 0 { context }) := by
  simp [startRun?,named,resolved]

theorem parseLexemes_result (named : t.grammar.startRule? = some start)
    (resolved : t.grammar.resolve start = some (.rule i))
    (ran : matchRule t limit i 0 { context } = (result,u)) (input : String) :
    (parseLexemes t input context limit).result = match result with
      | .ok outcome => answer t.grammar t.lexemes input start u outcome
      | .error e => .error (e.error t.grammar t.lexemes input limit) := by
  cases result <;> simp [parseLexemes,named,resolved,ran]

/-- An accepted input was matched to its end by the start rule. -/
theorem parseLexemes_ok {t : Task} (accepted : (parseLexemes t input context limit).result = .ok value) :
    ∃ start i stop u, t.grammar.startRule? = some start ∧ t.grammar.resolve start = some (.rule i) ∧
      matchRule t limit i 0 { context } = (.ok (some ⟨value,stop⟩),u) ∧ stop = t.lexemes.size := by
  cases named : t.grammar.startRule? with
  | none => simp [parseLexemes,named] at accepted
  | some start =>
    cases resolved : t.grammar.resolve start with
    | none => simp [parseLexemes,named,resolved] at accepted
    | some symbol =>
      cases symbol with
      | token _ => simp [parseLexemes,named,resolved] at accepted
      | rule i =>
        cases ran : matchRule t limit i 0 { context } with
        | mk result u =>
          rw [parseLexemes_result t named resolved ran input] at accepted
          cases result with
          | error e => cases accepted
          | ok outcome =>
            cases outcome with
            | none => cases accepted
            | some m =>
              simp only [answer] at accepted
              split at accepted
              · rename_i whole
                obtain rfl := Except.ok.inj accepted
                exact ⟨start,i,m.stop,u,rfl,resolved,ran,whole⟩
              · cases accepted

/-- An aborted parse tells of its limit only if it was given up for its depth. -/
theorem Abort.error_of_shallow (g : Grammar) (lexemes : Array Lexeme) (input : String) (limit more : Nat)
    (e : Abort) (shallow : ∀ r p, e ≠ .tooDeep r p) :
    e.error g lexemes input more = e.error g lexemes input limit := by
  cases e with
  | tooDeep r p => exact absurd rfl (shallow r p)
  | undefinedSymbol symbol r p => rfl

variable {t} in
/-- A parse is over the limit if the run of the start rule was given up for its depth. -/
theorem parseLexemes_overLimit (named : t.grammar.startRule? = some start)
    (resolved : t.grammar.resolve start = some (.rule i)) (input : String)
    (deep : (matchRule t limit i 0 { context }).1 = .error (.tooDeep r p)) :
    (parseLexemes t input context limit).OverLimit := by
  cases ran : matchRule t limit i 0 { context } with
  | mk result u =>
    rw [ran] at deep
    obtain rfl : result = .error (.tooDeep r p) := deep
    exact ⟨_,limit,parseLexemes_result t named resolved ran input,rfl⟩

theorem parseLexemes_of_le {limit more : Nat} (le : limit ≤ more) (input : String) (context : Context)
    (within : ¬(parseLexemes t input context limit).OverLimit) :
    parseLexemes t input context more = parseLexemes t input context limit := by
  cases named : t.grammar.startRule? with
  | none => simp only [parseLexemes,named]
  | some start =>
    cases resolved : t.grammar.resolve start with
    | none => simp only [parseLexemes,named,resolved]
    | some symbol =>
      cases symbol with
      | token _ => simp only [parseLexemes,named,resolved]
      | rule i =>
        have shallow (r p : Nat) : (matchRule t limit i 0 { context }).1 ≠ .error (.tooDeep r p) :=
          fun deep => within (parseLexemes_overLimit named resolved input deep)
        have same := matchRule_of_le t le i 0 { context } shallow
        simp only [parseLexemes,named,resolved,same]
        cases ran : matchRule t limit i 0 { context } with
        | mk result u =>
          rw [ran] at shallow
          cases result with
          | ok outcome => rfl
          | error e =>
            have alike := e.error_of_shallow t.grammar t.lexemes input limit more
              fun r p deep => shallow r p (congrArg Except.error deep)
            simp only [alike]

end Match

namespace Grammar

section Parse

variable {g : Grammar} {input : String} (context : Context) (functions : Functions) (config : Config)

theorem parseWith_of_error (failed : g.tokenize input = .error e) :
    g.parseWith input context functions config =
      ⟨.error e,context,(Lexeme.scan g.tokens input).records input⟩ := by
  rw [tokenize] at failed
  simp only [parseWith,failed]

theorem parseWith_of_ok (tokenized : g.tokenize input = .ok lexemes) :
    g.parseWith input context functions config =
      let o := Match.parseLexemes
        { grammar := g, lexemes := lexemes.toArray, functions, strictActions := config.strictActions }
        input context config.maxDepth
      { o with log := (Lexeme.scan g.tokens input).records input ++ o.log } := by
  rw [tokenize] at tokenized
  simp only [parseWith,tokenized]

theorem parseWith_of_le {limit more : Nat} (le : limit ≤ more)
    (within : ¬(g.parseWith input context functions { config with maxDepth := limit }).OverLimit) :
    g.parseWith input context functions { config with maxDepth := more } =
      g.parseWith input context functions { config with maxDepth := limit } := by
  cases tokenized : g.tokenize input with
  | error e => rw [parseWith_of_error _ _ _ tokenized,parseWith_of_error _ _ _ tokenized]
  | ok lexemes =>
    rw [parseWith_of_ok _ _ _ tokenized] at within
    rw [parseWith_of_ok _ _ _ tokenized,parseWith_of_ok _ _ _ tokenized]
    dsimp only
    rw [Match.parseLexemes_of_le _ le input context within]

end Parse

/-- The limit on nesting only cuts parses off. One that stays within a limit comes to the same
result, and leaves the same context and log, within any greater one. So one that goes over a limit
goes over every smaller one. -/
theorem parseWith_cutOff (g : Grammar) (input : String) (context : Context) (functions : Functions)
    (config : Config) (limit more : Nat) (le : limit ≤ more) :
    (¬(g.parseWith input context functions { config with maxDepth := limit }).OverLimit →
      g.parseWith input context functions { config with maxDepth := more } =
        g.parseWith input context functions { config with maxDepth := limit }) ∧
    ((g.parseWith input context functions { config with maxDepth := more }).OverLimit →
      (g.parseWith input context functions { config with maxDepth := limit }).OverLimit) := by
  have same := @parseWith_of_le g input context functions config limit more le
  refine ⟨same,fun exceeded => ?_⟩
  by_contra within
  rw [same within] at exceeded
  exact within exceeded

def bracketed : Grammar where
  tokens := [⟨"OPEN","(",90,.keyword,none,none,.seq [.anchor .textStart,.set (.ofChars ['('])],none,none⟩,
    ⟨"X","x",0,.pattern,none,none,.seq [.anchor .textStart,.set (.ofChars ['x'])],none,none⟩]
  rules := [⟨"nest",[⟨["OPEN","nest"],"",0,.none⟩,⟨["X"],"",0,.none⟩]⟩]

theorem parseWith_cutOff_bracketed :
    3 ≤ 200 ∧ ¬(bracketed.parseWith "((x" {} {} { maxDepth := 3 }).OverLimit ∧
    bracketed.parseWith "((x" {} {} { maxDepth := 200 } = bracketed.parseWith "((x" {} {} { maxDepth := 3 } ∧
    1 ≤ 2 ∧ (bracketed.parseWith "((x" {} {} { maxDepth := 2 }).OverLimit ∧
    (bracketed.parseWith "((x" {} {} { maxDepth := 1 }).OverLimit := by
  have within : ¬(bracketed.parseWith "((x" {} {} { maxDepth := 3 }).OverLimit := by decide +kernel
  have exceeded : (bracketed.parseWith "((x" {} {} { maxDepth := 2 }).OverLimit := by decide +kernel
  exact ⟨by decide,within,(parseWith_cutOff bracketed "((x" {} {} {} 3 200 (by decide)).1 within,by decide,exceeded,
    (parseWith_cutOff bracketed "((x" {} {} {} 1 2 (by decide)).2 exceeded⟩

end Grammar

end Packrat
