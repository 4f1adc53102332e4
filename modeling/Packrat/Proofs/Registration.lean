import Mathlib.Data.List.Nodup
import Packrat.Grammar

/-! Grammars that come about by registration. Whatever the order, no rule shares its name with a
token or another rule, so the name of a rule always stands for that rule. -/
namespace Packrat

/-- One step after another succeeds if both do. -/
theorem bind_eq_ok {ε α β : Type} {x : Except ε α} {f : α → Except ε β} {r : β} :
    (x >>= f) = .ok r ↔ ∃ a, x = .ok a ∧ f a = .ok r := by
  cases x with
  | error e => exact ⟨fun bound => (nomatch bound),fun ⟨_,ok,_⟩ => (nomatch ok)⟩
  | ok a => exact ⟨fun bound => ⟨a,rfl,bound⟩,fun ⟨_,ok,bound⟩ => by rwa [← Except.ok.inj ok] at bound⟩

theorem exists_of_any {ε α : Type} {x : Except ε α} {test : α → Bool} (runs : x.toOption.any test = true) :
    ∃ a, x = .ok a ∧ test a = true := by
  cases x with
  | error e => cases runs
  | ok a => exact ⟨a,rfl,runs⟩

namespace Grammar

/-- What registration comes to, step after step. Steps that are refused leave the grammar as it
was. -/
inductive Built : Grammar → Prop
  | empty : Built {}
  | register : Built g → g.register t = .ok g' → Built g'
  | addAlternative : Built g → g.addAlternative name a = .ok g' → Built g'
  | setStart : Built g → g.setStart name = .ok g' → Built g'
  | setAction : Built g → Built (g.setAction name f)

theorem token?_isSome (g : Grammar) (name : String) :
    (g.token? name).isSome = true ↔ ∃ t ∈ g.tokens, t.name = name := by
  simp [token?]

theorem rule?_isSome (g : Grammar) (name : String) :
    (g.rule? name).isSome = true ↔ ∃ r ∈ g.rules, r.name = name := by
  simp [rule?]

section Steps

variable {g g' : Grammar}

/-- The name of a new token is not empty, and given to no other token and no rule. -/
theorem checkTokenName_eq_ok : g.checkTokenName name = .ok () ↔
    name ≠ "" ∧ (∀ t ∈ g.tokens, t.name ≠ name) ∧ ∀ r ∈ g.rules, r.name ≠ name := by
  unfold checkTokenName
  simp only [token?_isSome,rule?_isSome]
  split
  · rename_i empty
    simp [empty]
  split
  · rename_i taken
    obtain ⟨t,member,named⟩ := taken
    exact ⟨fun ok => (nomatch ok),fun free => absurd named (free.2.1 t member)⟩
  split
  · rename_i taken
    obtain ⟨r,member,named⟩ := taken
    exact ⟨fun ok => (nomatch ok),fun free => absurd named (free.2.2 r member)⟩
  · rename_i given fresh apart
    exact ⟨fun _ => ⟨given,fun t member named => fresh ⟨t,member,named⟩,fun r member named => apart ⟨r,member,named⟩⟩,
      fun _ => rfl⟩

theorem register_eq_ok : g.register t = .ok g' ↔
    g.checkTokenName t.name = .ok () ∧ g' = { g with tokens := g.tokens ++ [t] } := by
  unfold Grammar.register
  cases checked : g.checkTokenName t.name with
  | error e => exact ⟨fun added => (nomatch added),fun added => (nomatch added.1)⟩
  | ok _ => exact ⟨fun added => ⟨rfl,(Except.ok.inj added).symm⟩,fun added => congrArg Except.ok added.2.symm⟩

/-- The name of a rule is not empty, and given to no token. -/
theorem addAlternative_eq_ok : g.addAlternative name a = .ok g' ↔
    name ≠ "" ∧ (∀ t ∈ g.tokens, t.name ≠ name) ∧ g' = { g with rules := appendAlternative name a g.rules } := by
  unfold Grammar.addAlternative
  simp only [token?_isSome]
  split
  · rename_i empty
    simp [empty]
  split
  · rename_i taken
    obtain ⟨t,member,named⟩ := taken
    exact ⟨fun added => (nomatch added),fun free => absurd named (free.2.1 t member)⟩
  · rename_i given fresh
    exact ⟨fun added => ⟨given,fun t member named => fresh ⟨t,member,named⟩,(Except.ok.inj added).symm⟩,
      fun added => congrArg Except.ok added.2.2.symm⟩

theorem setStart_eq_ok : g.setStart name = .ok g' ↔
    (∃ r ∈ g.rules, r.name = name) ∧ g' = { g with start := some name } := by
  unfold Grammar.setStart
  simp only [rule?_isSome]
  split
  · rename_i known
    exact ⟨fun set => ⟨known,(Except.ok.inj set).symm⟩,fun set => congrArg Except.ok set.2.symm⟩
  · rename_i unknown
    exact ⟨fun set => (nomatch set),fun set => absurd set.1 unknown⟩

/-- A token that is made and registered in one step is registered as it was made. -/
theorem exists_registered {token : Except GrammarError Token}
    (added : (do g.checkTokenName name; g.register (← token)) = .ok g') :
    ∃ t, token = .ok t ∧ g.register t = .ok g' := by
  obtain ⟨_,_,made⟩ := bind_eq_ok.mp added
  exact bind_eq_ok.mp made

theorem checked_register {token : Except GrammarError Token} (built : Built g)
    (added : (do g.checkTokenName name; g.register (← token)) = .ok g') : Built g' :=
  have ⟨_,_,registered⟩ := exists_registered added
  .register built registered

theorem Built.addToken (built : Built g) (added : g.addToken name pattern priority = .ok g') : Built g' :=
  checked_register built added

theorem Built.addKeyword (built : Built g) (added : g.addKeyword name word = .ok g') : Built g' :=
  checked_register built added

theorem Built.addLookaround (built : Built g)
    (added : g.addLookaround name pattern lookahead lookbehind = .ok g') : Built g' :=
  checked_register built added

theorem both_alternatives (built : Built g)
    (added : (do (← g.addAlternative name a).addAlternative name b) = .ok g') : Built g' :=
  have ⟨_,first,second⟩ := bind_eq_ok.mp added
  .addAlternative (.addAlternative built first) second

theorem Built.zeroOrMore (built : Built g) (added : g.zeroOrMore name element = .ok g') : Built g' :=
  both_alternatives built added

theorem Built.oneOrMore (built : Built g) (added : g.oneOrMore name element = .ok g') : Built g' :=
  both_alternatives built added

end Steps

structure WellNamed (g : Grammar) : Prop where
  rules : (g.rules.map (·.name)).Nodup
  apart : ∀ t ∈ g.tokens, ∀ r ∈ g.rules, t.name ≠ r.name

theorem appendAlternative_names (name : String) (a : Alternative) (rules : List Rule) :
    (appendAlternative name a rules).map (·.name) =
      if name ∈ rules.map (·.name) then rules.map (·.name) else rules.map (·.name) ++ [name] := by
  induction rules with
  | nil => simp [appendAlternative]
  | cons r rest ih =>
    by_cases same : r.name = name
    · simp [appendAlternative,same]
    · have differ : name ≠ r.name := fun eq => same eq.symm
      by_cases known : name ∈ rest.map (·.name)
      · rw [if_pos known] at ih
        simp [appendAlternative,same,ih,known]
      · rw [if_neg known] at ih
        simp [appendAlternative,same,differ,ih,known]

theorem WellNamed.register (wellNamed : WellNamed g) (added : g.register t = .ok g') : WellNamed g' := by
  obtain ⟨checked,rfl⟩ := register_eq_ok.mp added
  refine ⟨wellNamed.rules,?_⟩
  intro token member r member' eq
  rcases List.mem_append.mp member with old | new
  · exact wellNamed.apart token old r member' eq
  · obtain rfl := List.mem_singleton.mp new
    exact (checkTokenName_eq_ok.mp checked).2.2 r member' eq.symm

theorem WellNamed.addAlternative (wellNamed : WellNamed g) (added : g.addAlternative name a = .ok g') :
    WellNamed g' := by
  obtain ⟨_,free,rfl⟩ := addAlternative_eq_ok.mp added
  have names := appendAlternative_names name a g.rules
  refine ⟨?_,?_⟩
  · dsimp only
    rw [names]
    split
    · exact wellNamed.rules
    · rename_i fresh
      exact List.Nodup.append wellNamed.rules (List.nodup_singleton name) (by simpa using fresh)
  · intro t member r member' eq
    have listed : r.name ∈ (appendAlternative name a g.rules).map (·.name) := List.mem_map_of_mem member'
    have known : r.name ∈ g.rules.map (·.name) ∨ r.name = name := by
      rw [names] at listed
      split at listed
      · exact .inl listed
      · simpa using listed
    rcases known with old | new
    · obtain ⟨r',member'',eq'⟩ := List.mem_map.mp old
      exact wellNamed.apart t member r' member'' (eq.trans eq'.symm)
    · exact free t member (eq.trans new)

theorem Built.wellNamed (built : Built g) : WellNamed g := by
  induction built with
  | empty => exact ⟨List.nodup_nil,by simp⟩
  | register _ added ih => exact ih.register added
  | addAlternative _ added ih => exact ih.addAlternative added
  | setStart _ set ih =>
    obtain ⟨_,rfl⟩ := setStart_eq_ok.mp set
    exact ⟨ih.rules,ih.apart⟩
  | setAction _ ih => exact ⟨ih.rules,ih.apart⟩

theorem ruleName_eq (g : Grammar) (i : Fin g.rules.length) : g.ruleName i = (g.ruleAt i).name := by
  simp [ruleName,ruleAt]

/-- A symbol that stands for a rule is the name of that rule. -/
theorem ruleName_of_resolve {g : Grammar} {i : Fin g.rules.length}
    (resolved : g.resolve name = some (.rule i)) : g.ruleName i = name := by
  unfold resolve at resolved
  split at resolved
  · cases resolved
  · obtain ⟨index,found,eq⟩ := Option.map_eq_some_iff.mp resolved
    obtain rfl := Symbol.rule.inj eq
    have named := (List.findFinIdx?_eq_some_iff.mp found).1
    rw [ruleName_eq]
    simpa [ruleAt] using named

/-- The name of a rule stands for it. -/
theorem WellNamed.resolve_ruleName (wellNamed : WellNamed g) (i : Fin g.rules.length) :
    g.resolve (g.ruleName i) = some (.rule i) := by
  have tokens : g.tokenIndex? (g.ruleName i) = none := by
    refine List.findFinIdx?_eq_none_iff.mpr fun t member => ?_
    have differ := wellNamed.apart t member (g.ruleAt i) (List.get_mem g.rules i)
    rw [ruleName_eq]
    simpa using differ
  have rules : g.ruleIndex? (g.ruleName i) = some i := by
    refine List.findFinIdx?_eq_some_iff.mpr ⟨?_,fun j before => ?_⟩
    · rw [ruleName_eq]
      simp [ruleAt]
    · have differ := List.pairwise_iff_getElem.mp wellNamed.rules j i (by simp) (by simp) before
      rw [ruleName_eq]
      simpa [ruleAt] using differ
  simp [resolve,tokens,rules]

/-- What was named by a rule before an alternative was added still is. -/
theorem appendAlternative_mem_names (name : String) (a : Alternative) {rules : List Rule}
    (named : other ∈ rules.map (·.name)) : other ∈ (appendAlternative name a rules).map (·.name) := by
  rw [appendAlternative_names]
  split
  · exact named
  · exact List.mem_append_left _ named

/-- A start rule that was set is one of the rules. -/
theorem Built.start_mem (built : Built g) (set : g.start = some name) : name ∈ g.rules.map (·.name) := by
  induction built generalizing name with
  | empty => cases set
  | register _ added ih =>
    obtain ⟨_,rfl⟩ := register_eq_ok.mp added
    exact ih set
  | addAlternative _ added ih =>
    obtain ⟨_,_,rfl⟩ := addAlternative_eq_ok.mp added
    exact appendAlternative_mem_names _ _ (ih set)
  | setStart _ chosen _ =>
    obtain ⟨⟨r,member,eq⟩,rfl⟩ := setStart_eq_ok.mp chosen
    obtain rfl := Option.some.inj set
    exact List.mem_map.mpr ⟨r,member,eq⟩
  | setAction _ ih => exact ih set

/-- The start rule of a grammar is one of its rules. -/
theorem Built.startRule?_mem (built : Built g) (starts : g.startRule? = some name) :
    ∃ r ∈ g.rules, r.name = name := by
  unfold startRule? at starts
  rcases Option.or_eq_some_iff.mp starts with set | ⟨_,first⟩
  · simpa using built.start_mem set
  · obtain ⟨r,head,named⟩ := Option.map_eq_some_iff.mp first
    exact ⟨r,List.mem_of_mem_head? head,named⟩

/-- A grammar with rules has a start rule. -/
theorem Built.startRule (built : Built g) (rules : g.rules ≠ []) :
    ∃ i : Fin g.rules.length, g.startRule? = some (g.ruleName i) := by
  obtain ⟨name,starts⟩ : ∃ name, g.startRule? = some name := by
    obtain ⟨r,rest,eq⟩ := List.exists_cons_of_ne_nil rules
    cases set : g.start <;> simp [startRule?,set,eq]
  obtain ⟨r,member,named⟩ := built.startRule?_mem starts
  obtain ⟨i,bound,eq⟩ := List.mem_iff_getElem.mp member
  refine ⟨⟨i,bound⟩,?_⟩
  rw [starts,ruleName_eq,← named,← eq]
  rfl

end Grammar

end Packrat
