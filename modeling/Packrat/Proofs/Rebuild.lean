import Packrat.File.Grammar
import Packrat.Proofs.Assembly
import Packrat.Proofs.Restart
import Packrat.Snapshot

/-! Languages rebuilt from their files. A file tells each token by the shortest entry that makes it
again, and leaves out what is usual. What is built from the file of a language is that language but
for its actions; once they are registered again, it parses as the language does. -/
namespace Packrat

namespace Token

variable {name pattern word : String} {priority : Int32} {lookahead lookbehind : Option String} {t : Token}

theorem ofPattern_eq_ok : Token.ofPattern name pattern priority = .ok t ↔
    ∃ matcher, compileStart name pattern = .ok matcher ∧
      t = ⟨name,pattern,priority,.pattern,none,none,matcher,none,none⟩ := by
  unfold Token.ofPattern
  rw [bind_eq_ok]
  exact ⟨fun ⟨matcher,start,made⟩ => ⟨matcher,start,(Except.ok.inj made).symm⟩,
    fun ⟨matcher,start,eq⟩ => ⟨matcher,start,congrArg Except.ok eq.symm⟩⟩

theorem ofPattern_withPriority (made : Token.ofPattern name pattern priority = .ok t) (other : Int32) :
    Token.ofPattern name pattern other = .ok (t.withPriority other) := by
  obtain ⟨matcher,start,rfl⟩ := ofPattern_eq_ok.mp made
  exact ofPattern_eq_ok.mpr ⟨matcher,start,rfl⟩

theorem ofKeyword_eq_ok : Token.ofKeyword name word = .ok t ↔
    (keywordPattern word.toList).normalize.fits = true ∧
      t = ⟨name,word,Kind.keyword.priority,.keyword,none,none,keywordPattern word.toList,none,none⟩ := by
  unfold Token.ofKeyword
  dsimp only
  split
  · rename_i fits
    exact ⟨fun made => ⟨fits,(Except.ok.inj made).symm⟩,fun made => congrArg Except.ok made.2.symm⟩
  · rename_i large
    exact ⟨fun made => (nomatch made),fun made => absurd made.1 large⟩

theorem ofLookaround_fields (made : Token.ofLookaround name pattern lookahead lookbehind = .ok t) :
    t.name = name ∧ t.pattern = pattern ∧ t.kind = .lookaround ∧ t.priority = Kind.lookaround.priority ∧
      t.lookahead = lookahead ∧ t.lookbehind = lookbehind ∧ (lookahead.isSome || lookbehind.isSome) = true := by
  unfold Token.ofLookaround at made
  split at made
  · cases made
  · rename_i given
    obtain ⟨matcher,_,made⟩ := bind_eq_ok.mp made
    obtain ⟨ahead,_,made⟩ := bind_eq_ok.mp made
    obtain ⟨behind,_,made⟩ := bind_eq_ok.mp made
    obtain rfl := Except.ok.inj made
    refine ⟨rfl,rfl,rfl,rfl,rfl,rfl,?_⟩
    revert given
    cases lookahead <;> cases lookbehind <;> simp

/-- A pattern token has no conditions on its surroundings. -/
theorem Made.surroundings (made : t.Made) (kind : t.kind = .pattern) : t.lookahead = none ∧ t.lookbehind = none := by
  induction made with
  | ofPattern made =>
    obtain ⟨_,_,rfl⟩ := ofPattern_eq_ok.mp made
    exact ⟨rfl,rfl⟩
  | ofKeyword made =>
    obtain ⟨_,rfl⟩ := ofKeyword_eq_ok.mp made
    cases kind
  | ofLookaround made =>
    obtain ⟨_,_,other,_⟩ := ofLookaround_fields made
    cases other.symm.trans kind
  | withPriority _ _ ih => exact ih kind

def spec (t : Token) (priority : Option Int32) : TokenSpec where
  pattern := t.pattern
  priority := priority
  lookahead := t.lookahead
  lookbehind := t.lookbehind
  keyword := t.kind == .keyword

/-- What is made of the particulars of a token differs from it in the priority at most. -/
theorem Made.baseToken (made : t.Made) :
    ∃ base, (∀ priority, (t.spec priority).baseToken t.name = .ok base) ∧ base.priority = t.kind.priority ∧
      t = base.withPriority t.priority := by
  induction made with
  | ofPattern made =>
    have again := ofPattern_withPriority made Kind.pattern.priority
    obtain ⟨_,_,rfl⟩ := ofPattern_eq_ok.mp made
    exact ⟨_,fun _ => again,rfl,rfl⟩
  | @ofKeyword t name word made =>
    refine ⟨t,fun priority => ?_,?_,rfl⟩
    · obtain ⟨_,rfl⟩ := ofKeyword_eq_ok.mp made
      simpa [TokenSpec.baseToken,TokenSpec.hasLookaround,spec] using made
    · obtain ⟨_,rfl⟩ := ofKeyword_eq_ok.mp made
      rfl
  | @ofLookaround t name pattern lookahead lookbehind made =>
    obtain ⟨named,shown,kind,usual,ahead,behind,either⟩ := ofLookaround_fields made
    refine ⟨t,fun priority => ?_,by rw [usual,kind],rfl⟩
    have around : (t.spec priority).hasLookaround = true := by
      simpa [TokenSpec.hasLookaround,spec,ahead,behind] using either
    have ordinary : (t.spec priority).keyword = false := by simp [spec,kind]
    -- What follows and precedes the token tells it from a plain pattern.
    unfold TokenSpec.baseToken
    simp only [ordinary,around]
    simpa [spec,named,shown,ahead,behind] using made
  | withPriority _ _ ih =>
    obtain ⟨base,remade,usual,same⟩ := ih
    refine ⟨base,remade,usual,?_⟩
    rw [same]
    rfl

theorem Made.baseToken_usual (made : t.Made) (usual : t.priority = t.kind.priority) (priority : Option Int32) :
    (t.spec priority).baseToken t.name = .ok t := by
  obtain ⟨base,remade,usual',same⟩ := made.baseToken
  rw [usual,← usual'] at same
  rw [remade,same]
  rfl

end Token

namespace TokenEntry

variable {t : Token}

/-- A token whose pattern alone describes it is made again from the pattern. -/
theorem toToken_plain (made : t.Made) (alone : isPlain t = true) : (plain t.pattern).toToken t.name = .ok t := by
  unfold isPlain at alone
  split at alone
  · rename_i kind
    rw [Bool.and_eq_true,beq_iff_eq] at alone
    have again := made.baseToken_usual (by rw [kind]; exact alone.1) none
    have keyword : Token.ofKeyword t.name t.pattern = .ok t := by
      unfold TokenSpec.baseToken at again
      split at again
      · cases again
      · simpa [Token.spec,kind] using again
    simp only [toToken,alone.2,if_true,keyword]
  · rename_i kind
    rw [Bool.and_eq_true,beq_iff_eq,Bool.not_eq_true'] at alone
    have again := made.baseToken_usual (by rw [kind]; exact alone.1) none
    obtain ⟨ahead,behind⟩ := made.surroundings kind
    simpa [toToken,alone.2,TokenSpec.baseToken,TokenSpec.hasLookaround,Token.spec,kind,ahead,behind] using again
  · cases alone

/-- A token is made again from all its particulars, where a priority that is usual is left out. -/
theorem toToken_detailed (made : t.Made) :
    (detailed (t.spec (if t.priority = t.kind.priority then none else some t.priority))).toToken t.name = .ok t := by
  unfold toToken
  dsimp only
  unfold TokenSpec.toToken
  by_cases usual : t.priority = t.kind.priority
  · rw [made.baseToken_usual usual]
    simp only [Token.spec,if_pos usual]
    rfl
  · obtain ⟨base,remade,_,same⟩ := made.baseToken
    rw [remade]
    simp only [Token.spec,if_neg usual]
    exact congrArg Except.ok same.symm

theorem toToken_ofToken (made : t.Made) : (ofToken t).toToken t.name = .ok t := by
  unfold ofToken
  split
  · rename_i alone
    exact toToken_plain made alone
  · exact toToken_detailed made

end TokenEntry

theorem RuleEntry.toAlternative_ofAlternative (rule : String) (a : Alternative) :
    (ofAlternative rule a).toAlternative = a := by
  obtain ⟨symbols,action,precedence,associativity⟩ := a
  by_cases level : precedence = 0 <;> by_cases side : associativity = .none <;>
    simp [ofAlternative,toAlternative,level,side]

namespace Grammar

theorem appendAlternative_append {done : List Rule} (fresh : name ∉ done.map (·.name)) (a : Alternative)
    (more : List Rule) : appendAlternative name a (done ++ more) = done ++ appendAlternative name a more := by
  induction done with
  | nil => rfl
  | cons r rest ih =>
    rw [List.map_cons,List.mem_cons,not_or] at fresh
    simp only [List.cons_append,appendAlternative,if_neg (Ne.symm fresh.1),ih fresh.2]

def setActions (g : Grammar) (actions : List (String × UserAction)) : Grammar :=
  actions.foldl (fun g p => g.setAction p.1 p.2) g

theorem setActions_eq (g : Grammar) (actions : List (String × UserAction)) :
    g.setActions actions =
      { g with actions := actions.foldl (fun entries p => Entries.insert entries p.1 p.2) g.actions } := by
  induction actions generalizing g with
  | nil => rfl
  | cons p rest ih => exact ih (g.setAction p.1 p.2)

end Grammar

namespace GrammarFile

open Grammar

/-- The entry of a token adds it as registering it does. -/
theorem addTokens_cons (made : t.Made) (added : g.register t = .ok middle) (rest : List (String × TokenEntry)) :
    addTokens ((t.name,TokenEntry.ofToken t) :: rest) g = addTokens rest middle := by
  rw [addTokens,TokenEntry.toToken_ofToken made]
  change (do addTokens rest (← g.register t)) = _
  rw [added]
  rfl

theorem addTokens_entries (done more : List Token) (made : ∀ t ∈ more, t.Made ∧ t.name ≠ "")
    (distinct : ((done ++ more).map (·.name)).Nodup) :
    addTokens (more.map fun t => (t.name,TokenEntry.ofToken t)) { tokens := done } = .ok { tokens := done ++ more } := by
  induction more generalizing done with
  | nil => rw [List.append_nil]; rfl
  | cons t more ih =>
    obtain ⟨made',given⟩ := made t List.mem_cons_self
    have fresh : ∀ other ∈ done, other.name ≠ t.name := by
      rw [List.map_append] at distinct
      intro other member
      exact (List.nodup_append.mp distinct).2.2 _ (List.mem_map_of_mem member) _ List.mem_cons_self
    have added : ({ tokens := done } : Grammar).register t = .ok { tokens := done ++ [t] } :=
      register_eq_ok.mpr ⟨checkTokenName_eq_ok.mpr ⟨given,fresh,by simp⟩,rfl⟩
    have later := ih (done ++ [t]) (fun other member => made other (List.mem_cons_of_mem t member))
      (by simpa using distinct)
    rw [List.append_assoc,List.singleton_append] at later
    rw [List.map_cons,addTokens_cons made' added,later]

theorem addRules_cons {name : String} (added : g.addAlternative name a = .ok middle) (rest : List RuleEntry) :
    addRules (RuleEntry.ofAlternative name a :: rest) g = addRules rest middle := by
  rw [addRules,RuleEntry.toAlternative_ofAlternative]
  change (do addRules rest (← g.addAlternative name a)) = _
  rw [added]
  rfl

theorem addRules_append (first second : List RuleEntry) (g : Grammar) :
    addRules (first ++ second) g = (addRules first g).bind (addRules second) := by
  induction first generalizing g with
  | nil => rfl
  | cons r rest ih =>
    rw [List.cons_append,addRules,addRules]
    cases g.addAlternative r.name r.toAlternative with
    | error e => rfl
    | ok middle => exact ih middle

section Rules

variable {g : Grammar} {done : List Rule} {name : String} (given : name ≠ "")
  (apart : ∀ t ∈ g.tokens, t.name ≠ name) (fresh : name ∉ done.map (·.name))

include given apart fresh

/-- The alternatives of the last rule are added again from their entries. -/
theorem addRules_alternatives (earlier more : List Alternative) :
    addRules (more.map (RuleEntry.ofAlternative name)) { g with rules := done ++ [⟨name,earlier⟩] } =
      .ok { g with rules := done ++ [⟨name,earlier ++ more⟩] } := by
  induction more generalizing earlier with
  | nil => rw [List.append_nil]; rfl
  | cons a more ih =>
    have added : ({ g with rules := done ++ [⟨name,earlier⟩] } : Grammar).addAlternative name a =
        .ok { g with rules := done ++ [⟨name,earlier ++ [a]⟩] } := by
      refine addAlternative_eq_ok.mpr ⟨given,apart,?_⟩
      dsimp only
      rw [appendAlternative_append fresh]
      simp [appendAlternative]
    have later := ih (earlier ++ [a])
    rw [List.append_assoc,List.singleton_append] at later
    rw [List.map_cons,addRules_cons added,later]

/-- A rule is added again from the entries of its alternatives, of which there is one at least. -/
theorem addRules_rule {alternatives : List Alternative} (stated : alternatives ≠ []) :
    addRules (alternatives.map (RuleEntry.ofAlternative name)) { g with rules := done } =
      .ok { g with rules := done ++ [⟨name,alternatives⟩] } := by
  -- The first alternative adds the rule, the others are appended to it.
  obtain ⟨a,more,rfl⟩ := List.exists_cons_of_ne_nil stated
  have added : ({ g with rules := done } : Grammar).addAlternative name a =
      .ok { g with rules := done ++ [⟨name,[a]⟩] } := by
    refine addAlternative_eq_ok.mpr ⟨given,apart,?_⟩
    have whole := appendAlternative_append fresh a []
    rw [List.append_nil] at whole
    dsimp only
    rw [whole]
    rfl
  have later := addRules_alternatives given apart fresh [a] more
  rw [List.singleton_append] at later
  rw [List.map_cons,addRules_cons added,later]

end Rules

theorem addRules_entries (g : Grammar) (done more : List Rule)
    (stated : ∀ r ∈ more, r.alternatives ≠ [] ∧ r.name ≠ "") (apart : ∀ t ∈ g.tokens, ∀ r ∈ more, t.name ≠ r.name)
    (distinct : ((done ++ more).map (·.name)).Nodup) :
    addRules (more.flatMap fun r => r.alternatives.map (RuleEntry.ofAlternative r.name)) { g with rules := done } =
      .ok { g with rules := done ++ more } := by
  induction more generalizing done with
  | nil => rw [List.append_nil]; rfl
  | cons r more ih =>
    obtain ⟨stated',given⟩ := stated r List.mem_cons_self
    have fresh : r.name ∉ done.map (·.name) := by
      rw [List.map_append] at distinct
      exact fun member => (List.nodup_append.mp distinct).2.2 _ member _ List.mem_cons_self rfl
    have later := ih (done ++ [r]) (fun other member => stated other (List.mem_cons_of_mem r member))
      (fun t member other member' => apart t member other (List.mem_cons_of_mem r member')) (by simpa using distinct)
    rw [List.append_assoc,List.singleton_append] at later
    rw [← later,List.flatMap_cons,addRules_append,
      addRules_rule given (fun t member => apart t member r List.mem_cons_self) fresh stated']
    rfl

variable {l : Language}

/-- From its file comes the grammar of a language, but for the actions and for whether the start rule
was set. -/
theorem toGrammar_ofLanguage (assembled : l.Assembled) :
    ∃ start, (ofLanguage l).toGrammar = .ok { tokens := l.grammar.tokens, rules := l.grammar.rules, start } ∧
      { l.grammar with start }.startRule? = l.grammar.startRule? := by
  have ⟨built,made,distinct,stated,_⟩ := assembled.grammar
  have wellNamed := built.wellNamed
  have tokens : addTokens (ofLanguage l).tokens {} = .ok { tokens := l.grammar.tokens } :=
    addTokens_entries [] l.grammar.tokens made distinct
  have rules : addRules (ofLanguage l).rules { tokens := l.grammar.tokens } =
      .ok { tokens := l.grammar.tokens, rules := l.grammar.rules } :=
    addRules_entries { tokens := l.grammar.tokens } [] l.grammar.rules stated wellNamed.apart wellNamed.rules
  unfold toGrammar
  simp only [tokens,rules,bind,Except.bind]
  cases chosen : (ofLanguage l).start with
  | none =>
    -- A start rule that was set is left out of the file only if it is the first rule.
    refine ⟨none,rfl,?_⟩
    have first := Option.filter_eq_none_iff.mp chosen
    unfold startRule? at first ⊢
    cases set : l.grammar.start with
    | none => rw [Option.none_or]
    | some name => simpa [set] using first name
  | some start =>
    obtain ⟨starts,_⟩ := Option.filter_eq_some_iff.mp chosen
    have known := built.startRule?_mem starts
    exact ⟨some start,setStart_eq_ok.mpr ⟨known,rfl⟩,starts.symm⟩

end GrammarFile

namespace Language

/-- Whatever calls put a language together, building what its file says succeeds, and gives a language
of the same name and context, with everything a snapshot shows but the actions. Once the same actions
are registered on it, it cuts up and parses every input alike. -/
theorem build_ofLanguage (name : String) (calls : List Call) (config : Config) :
    ∃ l, (GrammarFile.ofLanguage (assembled name calls)).build config = .ok l ∧
      l.name = (assembled name calls).name ∧ l.context = (assembled name calls).context ∧
      Snapshot.ofGrammar l.grammar = { Snapshot.ofGrammar (assembled name calls).grammar with actions := [] } ∧
      ∀ actions, Entries.ofList actions = (assembled name calls).grammar.actions → ∀ input,
        (l.grammar.setActions actions).tokenize input = (assembled name calls).grammar.tokenize input ∧
        ∀ context functions config, (l.grammar.setActions actions).parseWith input context functions config =
          (assembled name calls).grammar.parseWith input context functions config := by
  have spec := Assembled.ofCalls name calls
  obtain ⟨start,rebuilt,same⟩ := GrammarFile.toGrammar_ofLanguage spec
  generalize assembled name calls = l at *
  let grammar : Grammar := { tokens := l.grammar.tokens, rules := l.grammar.rules, start }
  refine ⟨{ name := l.name, grammar, context := l.context, config },?_,rfl,rfl,?_,fun actions registered input => ?_⟩
  · unfold GrammarFile.build
    rw [rebuilt]
    dsimp only
    rw [show (GrammarFile.ofLanguage l).context = l.context.entries from rfl,spec.context.ofList_eq]
    rfl
  · exact congrArg (Snapshot.mk · l.grammar.tokens l.grammar.rules []) same
  · have restored : grammar.setActions actions = { l.grammar with start } := by
      rw [Grammar.setActions_eq]
      exact congrArg (Grammar.mk l.grammar.tokens l.grammar.rules · start) registered
    dsimp only
    rw [restored]
    exact ⟨rfl,Grammar.parseWith_restart l.grammar start same input⟩

def keywordIf : Token := ⟨"IF","if",5,.keyword,none,none,Token.keywordPattern "if".toList,none,none⟩

theorem keywordIf_made : keywordIf.Made := by
  have fits : (Token.keywordPattern "if".toList).normalize.fits = true := by decide +kernel
  have made : Token.ofKeyword "IF" "if" = .ok (keywordIf.withPriority Token.Kind.keyword.priority) :=
    Token.ofKeyword_eq_ok.mpr ⟨fits,rfl⟩
  exact .withPriority 5 (.ofKeyword made)

def conditional : List Call :=
  [.grammar (.register keywordIf keywordIf_made),.grammar (.alternative "a" { symbols := [], action := "stop" }),
    .grammar (.alternative "IF" { symbols := [], action := "" }),
    .grammar (.alternative "b" { symbols := ["IF"], action := "go", precedence := 2 }),
    .grammar (.action "go" fun vs _ c => (.ok (.list vs),c)),.grammar (.setStart "b"),.setContext "depth" .null]

theorem build_ofLanguage_conditional :
    Entries.ofList [("go",fun vs _ c => (.ok (.list vs),c))] = (assembled "conditional" conditional).grammar.actions ∧
    ∃ l, (GrammarFile.ofLanguage (assembled "conditional" conditional)).build {} = .ok l ∧
      Snapshot.ofGrammar l.grammar = ⟨some "b",[keywordIf],
        [⟨"a",[⟨[],"stop",0,.none⟩]⟩,⟨"b",[⟨["IF"],"go",2,.none⟩]⟩],[]⟩ ∧
      ∀ context functions config,
        (l.grammar.setActions [("go",fun vs _ c => (.ok (.list vs),c))]).parseWith "IF" context functions config =
          (assembled "conditional" conditional).grammar.parseWith "IF" context functions config := by
  have registered : Entries.ofList [("go",fun vs _ c => (.ok (.list vs),c))] =
      (assembled "conditional" conditional).grammar.actions := by rfl
  obtain ⟨l,built,-,-,shown,alike⟩ := build_ofLanguage "conditional" conditional {}
  have overview : { Snapshot.ofGrammar (assembled "conditional" conditional).grammar with actions := [] } =
      (⟨some "b",[keywordIf],[⟨"a",[⟨[],"stop",0,.none⟩]⟩,⟨"b",[⟨["IF"],"go",2,.none⟩]⟩],[]⟩ : Snapshot) := by rfl
  exact ⟨registered,l,built,shown.trans overview,(alike _ registered "IF").2⟩

end Language

end Packrat
