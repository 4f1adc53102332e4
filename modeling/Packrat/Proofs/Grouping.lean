import Mathlib.Data.List.Induction
import Packrat.Proofs.Rebuild

/-! What a file is built into. A file is built exactly if it is well formed; the rules of the grammar then are its
entries grouped by name, in the order in which the names occur first, and so are the entries that are written of
the language again. -/
namespace Packrat

namespace Token

variable {t : Token} {name pattern word : String} {priority : Int32}

def Compiles (text : String) : Prop := ∃ p, Pattern.read text.toList = .ok p

theorem compile_iff (name text : String) : (∃ p, compile name text = .ok p) ↔ Compiles text := by
  unfold compile Compiles
  cases Pattern.read text.toList <;> simp

theorem compileStart_iff (name pattern : String) :
    (∃ p, compileStart name pattern = .ok p) ↔ Compiles ("^(?:" ++ pattern ++ ")") := compile_iff name _

theorem compileEnd_iff (name pattern : String) :
    (∃ p, compileEnd name pattern = .ok p) ↔ Compiles ("(?:" ++ pattern ++ ")$") := compile_iff name _

theorem ofPattern_iff (name pattern : String) (priority : Int32) :
    (∃ t, Token.ofPattern name pattern priority = .ok t) ↔ Compiles ("^(?:" ++ pattern ++ ")") := by
  rw [← compileStart_iff name]
  simp only [ofPattern_eq_ok]
  exact ⟨fun ⟨_,matcher,start,_⟩ => ⟨matcher,start⟩,fun ⟨matcher,start⟩ => ⟨_,matcher,start,rfl⟩⟩

theorem ofKeyword_iff (name word : String) :
    (∃ t, Token.ofKeyword name word = .ok t) ↔ (keywordPattern word.toList).normalize.fits = true := by
  simp only [ofKeyword_eq_ok]
  exact ⟨fun ⟨_,fits,_⟩ => fits,fun fits => ⟨_,fits,rfl⟩⟩

theorem ofPattern_made (made : Token.ofPattern name pattern priority = .ok t) : t.Made ∧ t.name = name := by
  refine ⟨.ofPattern made,?_⟩
  obtain ⟨_,_,rfl⟩ := ofPattern_eq_ok.mp made
  rfl

theorem ofKeyword_made (made : Token.ofKeyword name word = .ok t) : t.Made ∧ t.name = name := by
  refine ⟨.ofKeyword made,?_⟩
  obtain ⟨_,rfl⟩ := ofKeyword_eq_ok.mp made
  rfl

theorem mapM_iff (f : String → Except GrammarError Pattern) (condition : Option String) :
    (∃ p, condition.mapM f = .ok p) ↔ ∀ text ∈ condition, ∃ p, f text = .ok p := by
  cases condition with
  | none => exact ⟨fun _ _ member => (nomatch member),fun _ => ⟨none,rfl⟩⟩
  | some text =>
    rw [Option.mapM_some]
    cases read : f text <;> simp [read]

theorem ofLookaround_iff (name pattern : String) (lookahead lookbehind : Option String)
    (given : (lookahead.isSome || lookbehind.isSome) = true) :
    (∃ t, Token.ofLookaround name pattern lookahead lookbehind = .ok t) ↔
      Compiles ("^(?:" ++ pattern ++ ")") ∧ (∀ text ∈ lookahead, Compiles ("^(?:" ++ text ++ ")")) ∧
        ∀ text ∈ lookbehind, Compiles ("(?:" ++ text ++ ")$") := by
  have ahead := mapM_iff (compileStart name) lookahead
  have behind := mapM_iff (compileEnd name) lookbehind
  simp only [compileStart_iff,compileEnd_iff] at ahead behind
  rw [← compileStart_iff name,← ahead,← behind]
  have lookaround : (lookahead.isNone && lookbehind.isNone) = false := by
    cases lookahead <;> cases lookbehind <;> simp_all
  unfold Token.ofLookaround
  rw [lookaround]
  constructor
  · rintro ⟨t,made⟩
    obtain ⟨matcher,start,made⟩ := bind_eq_ok.mp made
    obtain ⟨p,follows,made⟩ := bind_eq_ok.mp made
    obtain ⟨q,precedes,_⟩ := bind_eq_ok.mp made
    exact ⟨⟨matcher,start⟩,⟨p,follows⟩,⟨q,precedes⟩⟩
  · rintro ⟨⟨matcher,start⟩,⟨p,follows⟩,⟨q,precedes⟩⟩
    exact ⟨_,bind_eq_ok.mpr ⟨matcher,start,bind_eq_ok.mpr ⟨p,follows,bind_eq_ok.mpr ⟨q,precedes,rfl⟩⟩⟩⟩

end Token

/-- Whether a token may be given so: its patterns are patterns, and a keyword has no conditions on what follows
and precedes it. -/
def TokenSpec.Sound (spec : TokenSpec) : Prop :=
  if spec.keyword then spec.hasLookaround = false ∧ (Token.keywordPattern spec.pattern.toList).normalize.fits = true
  else Token.Compiles ("^(?:" ++ spec.pattern ++ ")") ∧
    (∀ text ∈ spec.lookahead, Token.Compiles ("^(?:" ++ text ++ ")")) ∧
    ∀ text ∈ spec.lookbehind, Token.Compiles ("(?:" ++ text ++ ")$")

def TokenEntry.Sound : TokenEntry → Prop
  | plain pattern =>
    if isBareWord pattern then (Token.keywordPattern pattern.toList).normalize.fits = true
    else Token.Compiles ("^(?:" ++ pattern ++ ")")
  | detailed spec => spec.Sound

theorem TokenSpec.toToken_iff (spec : TokenSpec) (name : String) : (∃ t, spec.toToken name = .ok t) ↔ spec.Sound := by
  have base : (∃ t, spec.toToken name = .ok t) ↔ ∃ t, spec.baseToken name = .ok t := by
    unfold toToken
    cases spec.baseToken name <;> simp [bind,Except.bind,pure,Except.pure]
  rw [base]
  unfold baseToken Sound
  cases word : spec.keyword with
  | true =>
    cases around : spec.hasLookaround with
    | true => simp
    | false => simpa using Token.ofKeyword_iff name spec.pattern
  | false =>
    cases around : spec.hasLookaround with
    | true => simpa using Token.ofLookaround_iff name spec.pattern spec.lookahead spec.lookbehind around
    | false =>
      obtain ⟨ahead,behind⟩ := Bool.or_eq_false_iff.mp around
      simp only [Option.isSome_eq_false_iff,Option.isNone_iff_eq_none] at ahead behind
      simpa [ahead,behind] using Token.ofPattern_iff name spec.pattern Token.Kind.pattern.priority

/-- An entry describes a token exactly if it is sound. -/
theorem TokenEntry.toToken_iff (entry : TokenEntry) (name : String) :
    (∃ t, entry.toToken name = .ok t) ↔ entry.Sound := by
  cases entry with
  | plain pattern =>
    unfold toToken Sound
    dsimp only
    split
    · exact Token.ofKeyword_iff name pattern
    · exact Token.ofPattern_iff name pattern _
  | detailed spec => exact spec.toToken_iff name

namespace TokenEntry

variable {t : Token} {name : String}

theorem baseToken_made {spec : TokenSpec} (made : spec.baseToken name = .ok t) : t.Made ∧ t.name = name := by
  unfold TokenSpec.baseToken at made
  split at made
  · cases made
  split at made
  · exact Token.ofKeyword_made made
  split at made
  · exact ⟨.ofLookaround made,(Token.ofLookaround_fields made).1⟩
  · exact Token.ofPattern_made made

/-- The token of an entry bears its name. -/
theorem toToken_made {entry : TokenEntry} (made : entry.toToken name = .ok t) : t.Made ∧ t.name = name := by
  cases entry with
  | plain pattern =>
    unfold toToken at made
    dsimp only at made
    split at made
    · exact Token.ofKeyword_made made
    · exact Token.ofPattern_made made
  | detailed spec =>
    obtain ⟨base,described,eq⟩ := bind_eq_ok.mp made
    obtain rfl := Except.ok.inj eq
    obtain ⟨made,named⟩ := baseToken_made described
    cases spec.priority with
    | none => exact ⟨made,named⟩
    | some priority => exact ⟨made.withPriority priority,named⟩

/-- The pattern alone describes a token exactly if it makes the token again. -/
theorem isPlain_iff (made : t.Made) : isPlain t = true ↔ (plain t.pattern).toToken t.name = .ok t := by
  refine ⟨toToken_plain made,fun again => ?_⟩
  unfold toToken at again
  dsimp only at again
  split at again
  · rename_i word
    obtain ⟨-,eq⟩ := Token.ofKeyword_eq_ok.mp again
    rw [eq]
    simpa [isPlain] using word
  · rename_i other
    obtain ⟨matcher,-,eq⟩ := Token.ofPattern_eq_ok.mp again
    rw [eq]
    simpa [isPlain] using other

/-- An entry describes a token, by its pattern alone if that makes the token again. -/
def Tells (entry : TokenEntry) (t : Token) : Prop :=
  entry.toToken t.name = .ok t ∧ ((∃ pattern, entry = plain pattern) ↔ (plain t.pattern).toToken t.name = .ok t)

theorem ofToken_tells (made : t.Made) : (ofToken t).Tells t := by
  refine ⟨toToken_ofToken made,?_⟩
  rw [← isPlain_iff made]
  unfold ofToken
  split
  · rename_i alone
    exact ⟨fun _ => alone,fun _ => ⟨_,rfl⟩⟩
  · rename_i other
    exact ⟨fun ⟨_,eq⟩ => (nomatch eq),fun alone => absurd alone other⟩

end TokenEntry

namespace RuleEntry

def names (entries : List RuleEntry) : List String := (entries.map (·.name)).eraseDups

def grouped (entries : List RuleEntry) : List RuleEntry :=
  (names entries).flatMap fun name => entries.filter (·.name == name)

def rules (entries : List RuleEntry) : List Rule :=
  (names entries).map fun name => ⟨name,(entries.filter (·.name == name)).map (·.toAlternative)⟩

def brief (r : RuleEntry) : RuleEntry :=
  { r with precedence := r.precedence.filter (· ≠ 0), associativity := r.associativity.filter (· ≠ .none) }

theorem ofAlternative_toAlternative (r : RuleEntry) : ofAlternative r.name r.toAlternative = r.brief := by
  obtain ⟨name,pattern,action,precedence,associativity⟩ := r
  cases precedence <;> cases associativity <;> simp [ofAlternative,toAlternative,brief,Option.filter] <;> grind

theorem mem_names {entries : List RuleEntry} {name : String} : name ∈ names entries ↔ ∃ r ∈ entries, r.name = name := by
  rw [names,List.mem_eraseDups,List.mem_map]

theorem names_concat (entries : List RuleEntry) (r : RuleEntry) :
    names (entries ++ [r]) = if r.name ∈ names entries then names entries else names entries ++ [r.name] := by
  have last : [r.name].removeAll (entries.map (·.name)) = if r.name ∈ entries.map (·.name) then [] else [r.name] := by
    split <;> rename_i new <;> simpa [List.removeAll] using new
  simp only [names,List.mem_eraseDups]
  rw [List.map_append,List.eraseDups_append,List.map_singleton,last]
  split
  · rw [List.eraseDups_nil,List.append_nil]
  · rw [List.eraseDups_cons,List.filter_nil,List.eraseDups_nil]

theorem nodup_names (entries : List RuleEntry) : (names entries).Nodup := by
  induction entries using List.reverseRecOn with
  | nil => simp [names]
  | append_singleton entries r ih =>
    rw [names_concat]
    split
    · exact ih
    · rename_i fresh
      exact List.Nodup.append ih (List.nodup_singleton _) (by simpa using fresh)

end RuleEntry

namespace Grammar

/-- What is added under one name leaves the rules of others as they are. -/
theorem map_stated {names : List String} (fresh : name ∉ names) (stated : String → List Alternative) (a : Alternative) :
    names.map (fun n => (⟨n,stated n ++ if n = name then [a] else []⟩ : Rule)) = names.map fun n => ⟨n,stated n⟩ := by
  refine List.map_congr_left fun n member => ?_
  have other : n ≠ name := fun eq => fresh (eq ▸ member)
  simp [other]

/-- An alternative goes to the rule of its name, of which there is one at most, or to a new one. -/
theorem appendAlternative_map {names : List String} (distinct : names.Nodup) (stated : String → List Alternative)
    (name : String) (a : Alternative) :
    appendAlternative name a (names.map fun n => ⟨n,stated n⟩) =
      if name ∈ names then names.map fun n => ⟨n,stated n ++ if n = name then [a] else []⟩
      else names.map (fun n => ⟨n,stated n⟩) ++ [⟨name,[a]⟩] := by
  induction names with
  | nil => simp [appendAlternative]
  | cons n names ih =>
    obtain ⟨fresh,distinct⟩ := List.nodup_cons.mp distinct
    have later := ih distinct
    by_cases same : n = name
    · subst same
      simp [appendAlternative,map_stated fresh]
    · rw [List.map_cons,appendAlternative,if_neg same,later]
      by_cases known : name ∈ names <;> simp [known,same,Ne.symm same]

end Grammar

namespace RuleEntry

open Grammar

/-- Adding entries one after the other groups them by name. -/
theorem foldl_appendAlternative (entries : List RuleEntry) :
    entries.foldl (fun rules r => appendAlternative r.name r.toAlternative rules) [] = rules entries := by
  induction entries using List.reverseRecOn with
  | nil => rfl
  | append_singleton entries r ih =>
    rw [List.foldl_append,List.foldl_cons,List.foldl_nil,ih,rules,appendAlternative_map (nodup_names entries),rules,
      names_concat]
    have stated (n : String) : ((entries ++ [r]).filter (·.name == n)).map (·.toAlternative) =
        (entries.filter (·.name == n)).map (·.toAlternative) ++ if n = r.name then [r.toAlternative] else [] := by
      by_cases same : r.name = n
      · simp [List.filter_append,same]
      · simp [List.filter_append,same,Ne.symm same]
    simp only [stated]
    split
    · rfl
    · rename_i fresh
      have nothing : entries.filter (·.name == r.name) = [] := by
        refine List.filter_eq_nil_iff.mpr fun other member same => fresh ?_
        exact mem_names.mpr ⟨other,member,beq_iff_eq.mp same⟩
      simp [map_stated fresh,nothing]

theorem rules_names (entries : List RuleEntry) : (rules entries).map (·.name) = names entries := by
  rw [rules,List.map_map]
  exact List.map_id _

theorem exists_rule {entries : List RuleEntry} {name : String} :
    (∃ r ∈ rules entries, r.name = name) ↔ ∃ r ∈ entries, r.name = name := by
  rw [← mem_names,← rules_names,List.mem_map]

/-- The rule of the first entry is the first one. -/
theorem rules_head? (entries : List RuleEntry) : (rules entries).head?.map (·.name) = entries.head?.map (·.name) := by
  rw [← List.head?_map,rules_names]
  cases entries with
  | nil => rfl
  | cons r entries =>
    rw [names,List.map_cons,List.eraseDups_cons]
    rfl

/-- The entries of grouped rules are the entries grouped, without what is usual. -/
theorem flatMap_rules (entries : List RuleEntry) :
    (rules entries).flatMap (fun r => r.alternatives.map (ofAlternative r.name)) = (grouped entries).map brief := by
  rw [rules,grouped,List.flatMap_map,List.map_flatMap,List.flatMap_def,List.flatMap_def]
  refine congrArg List.flatten (List.map_congr_left fun name _ => ?_)
  rw [List.map_map]
  refine List.map_congr_left fun r member => ?_
  obtain rfl := beq_iff_eq.mp (List.mem_filter.mp member).2
  exact ofAlternative_toAlternative r

end RuleEntry

namespace GrammarFile

open Grammar

/-- What a file must satisfy to be built. -/
structure WellFormed (f : GrammarFile) : Prop where
  tokens : ∀ p ∈ f.tokens, p.1 ≠ "" ∧ p.2.Sound
  distinct : (f.tokens.map (·.1)).Nodup
  rules : ∀ r ∈ f.rules, r.name ≠ "" ∧ ∀ p ∈ f.tokens, p.1 ≠ r.name
  start : ∀ s ∈ f.start, ∃ r ∈ f.rules, r.name = s

theorem addTokens_eq_ok {entries : List (String × TokenEntry)} {done : List Token} {g : Grammar} :
    addTokens entries { tokens := done } = .ok g ↔ ∃ made : List Token,
      entries.map (fun p => p.2.toToken p.1) = made.map .ok ∧ (∀ p ∈ entries, p.1 ≠ "" ∧ ∀ t ∈ done, t.name ≠ p.1) ∧
      (entries.map (·.1)).Nodup ∧ g = { tokens := done ++ made } := by
  induction entries generalizing done with
  | nil =>
    constructor
    · intro added
      exact ⟨[],rfl,by simp,by simp,by simpa using (Except.ok.inj added).symm⟩
    · rintro ⟨made,eq,_,_,rfl⟩
      obtain rfl : made = [] := by simpa using eq.symm
      rw [List.append_nil]
      rfl
  | cons p entries ih =>
    obtain ⟨name,entry⟩ := p
    rw [addTokens,bind_eq_ok]
    constructor
    · rintro ⟨t,made,more⟩
      obtain ⟨g',added,more⟩ := bind_eq_ok.mp more
      obtain ⟨checked,rfl⟩ := register_eq_ok.mp added
      obtain ⟨given,fresh,-⟩ := checkTokenName_eq_ok.mp checked
      obtain ⟨later,eq,apart,distinct,rfl⟩ := ih.mp more
      obtain ⟨-,rfl⟩ := TokenEntry.toToken_made made
      refine ⟨t :: later,?_,?_,?_,by simp⟩
      · rw [List.map_cons,List.map_cons,eq,made]
      · refine List.forall_mem_cons.mpr ⟨⟨given,fresh⟩,fun p member => ⟨(apart p member).1,fun t' member' => ?_⟩⟩
        exact (apart p member).2 t' (List.mem_append_left _ member')
      · refine List.nodup_cons.mpr ⟨fun member => ?_,distinct⟩
        obtain ⟨p,member,same⟩ := List.mem_map.mp member
        exact (apart p member).2 t (by simp) same.symm
    · rintro ⟨made,eq,apart,distinct,rfl⟩
      obtain ⟨t,later,rfl⟩ : ∃ t later, made = t :: later := by
        cases made with
        | nil => cases eq
        | cons t later => exact ⟨t,later,rfl⟩
      obtain ⟨here,others⟩ := List.cons_eq_cons.mp eq
      obtain ⟨given,fresh⟩ := apart (name,entry) List.mem_cons_self
      obtain ⟨unlike,distinct'⟩ := List.nodup_cons.mp distinct
      obtain ⟨-,rfl⟩ := TokenEntry.toToken_made here
      refine ⟨t,here,bind_eq_ok.mpr ⟨_,register_eq_ok.mpr ⟨checkTokenName_eq_ok.mpr ⟨given,fresh,by simp⟩,rfl⟩,?_⟩⟩
      refine ih.mpr ⟨later,others,fun p member => ⟨(apart p (List.mem_cons_of_mem _ member)).1,fun t' member' same => ?_⟩,
        distinct',by simp⟩
      rcases List.mem_append.mp member' with old | new
      · exact (apart p (List.mem_cons_of_mem _ member)).2 t' old same
      · obtain rfl := List.mem_singleton.mp new
        exact unlike (List.mem_map.mpr ⟨p,member,same.symm⟩)

theorem addRules_eq_ok {entries : List RuleEntry} {g g' : Grammar} : addRules entries g = .ok g' ↔
    (∀ r ∈ entries, r.name ≠ "" ∧ ∀ t ∈ g.tokens, t.name ≠ r.name) ∧
      g' = { g with rules := entries.foldl (fun rules r => appendAlternative r.name r.toAlternative rules) g.rules } := by
  induction entries generalizing g with
  | nil => exact ⟨fun added => ⟨by simp,(Except.ok.inj added).symm⟩,fun added => congrArg Except.ok added.2.symm⟩
  | cons r entries ih =>
    rw [addRules,bind_eq_ok]
    constructor
    · rintro ⟨middle,added,more⟩
      obtain ⟨given,apart,rfl⟩ := addAlternative_eq_ok.mp added
      obtain ⟨sound,rfl⟩ := ih.mp more
      exact ⟨List.forall_mem_cons.mpr ⟨⟨given,apart⟩,sound⟩,rfl⟩
    · rintro ⟨sound,rfl⟩
      obtain ⟨⟨given,apart⟩,sound⟩ := List.forall_mem_cons.mp sound
      exact ⟨_,addAlternative_eq_ok.mpr ⟨given,apart,rfl⟩,ih.mpr ⟨sound,rfl⟩⟩

/-- Entries describe tokens exactly if each of them is sound. -/
theorem exists_made (entries : List (String × TokenEntry)) :
    (∃ made : List Token, entries.map (fun p => p.2.toToken p.1) = made.map .ok) ↔ ∀ p ∈ entries, p.2.Sound := by
  induction entries with
  | nil => exact ⟨nofun,fun _ => ⟨[],rfl⟩⟩
  | cons p entries ih =>
    rw [List.forall_mem_cons,← ih,← p.2.toToken_iff p.1]
    constructor
    · rintro ⟨_ | ⟨t,made⟩,eq⟩
      · cases eq
      · obtain ⟨here,others⟩ := List.cons_eq_cons.mp eq
        exact ⟨⟨t,here⟩,made,others⟩
    · rintro ⟨⟨t,here⟩,made,others⟩
      exact ⟨t :: made,by rw [List.map_cons,List.map_cons,here,others]⟩

theorem made_of_mem {entries : List (String × TokenEntry)} {made : List Token}
    (eq : entries.map (fun p => p.2.toToken p.1) = made.map .ok) (member : t ∈ made) : t.Made := by
  have listed : Except.ok t ∈ entries.map fun p => p.2.toToken p.1 := eq ▸ List.mem_map_of_mem member
  obtain ⟨p,-,described⟩ := List.mem_map.mp listed
  exact (TokenEntry.toToken_made described).1

theorem names_of_made {entries : List (String × TokenEntry)} {made : List Token}
    (eq : entries.map (fun p => p.2.toToken p.1) = made.map .ok) : made.map (·.name) = entries.map (·.1) := by
  induction entries generalizing made with
  | nil =>
    obtain rfl : made = [] := by simpa using eq.symm
    rfl
  | cons p entries ih =>
    cases made with
    | nil => cases eq
    | cons t made =>
      obtain ⟨here,others⟩ := List.cons_eq_cons.mp eq
      rw [List.map_cons,List.map_cons,ih others,(TokenEntry.toToken_made here).2]

/-- A start is one of the rules. -/
theorem start_eq_ok {tokens : List Token} {rules : List Rule} {start : Option String} {g : Grammar} :
    (match start with
      | none => pure { tokens, rules }
      | some start => ({ tokens, rules } : Grammar).setStart start : Except GrammarError Grammar) = .ok g ↔
      (∀ s ∈ start, ∃ r ∈ rules, r.name = s) ∧ g = { tokens, rules, start } := by
  cases start with
  | none => simp [pure,Except.pure,eq_comm]
  | some start => simp [setStart_eq_ok]

/-- The grammar of a file has the tokens that its entries describe, its rules grouped by name, and its start. -/
theorem toGrammar_eq_ok {f : GrammarFile} {g : Grammar} : f.toGrammar = .ok g ↔ ∃ made : List Token,
    f.tokens.map (fun p => p.2.toToken p.1) = made.map .ok ∧ (∀ p ∈ f.tokens, p.1 ≠ "") ∧ (f.tokens.map (·.1)).Nodup ∧
    (∀ r ∈ f.rules, r.name ≠ "" ∧ ∀ p ∈ f.tokens, p.1 ≠ r.name) ∧ (∀ s ∈ f.start, ∃ r ∈ f.rules, r.name = s) ∧
    g = { tokens := made, rules := RuleEntry.rules f.rules, start := f.start } := by
  have apart {made : List Token} (eq : f.tokens.map (fun p => p.2.toToken p.1) = made.map .ok) (name : String) :
      (∀ t ∈ made, t.name ≠ name) ↔ ∀ p ∈ f.tokens, p.1 ≠ name := by
    rw [← List.forall_mem_map (P := (· ≠ name)),names_of_made eq,List.forall_mem_map]
  unfold toGrammar
  rw [bind_eq_ok]
  constructor
  · rintro ⟨g',tokens,more⟩
    obtain ⟨made,eq,given,distinct,rfl⟩ := addTokens_eq_ok.mp tokens
    obtain ⟨g'',rules,ended⟩ := bind_eq_ok.mp more
    obtain ⟨sound,rfl⟩ := addRules_eq_ok.mp rules
    dsimp only at ended sound
    rw [RuleEntry.foldl_appendAlternative,List.nil_append] at ended
    obtain ⟨known,rfl⟩ := start_eq_ok.mp ended
    exact ⟨made,eq,fun p member => (given p member).1,distinct,
      fun r member => ⟨(sound r member).1,(apart eq r.name).mp (sound r member).2⟩,
      fun s member => RuleEntry.exists_rule.mp (known s member),rfl⟩
  · rintro ⟨made,eq,given,distinct,sound,known,ended⟩
    refine ⟨{ tokens := made },addTokens_eq_ok.mpr ⟨made,eq,fun p member => ⟨given p member,nofun⟩,distinct,rfl⟩,?_⟩
    refine bind_eq_ok.mpr ⟨{ tokens := made, rules := RuleEntry.rules f.rules },?_,start_eq_ok.mpr ⟨fun s member => RuleEntry.exists_rule.mpr (known s member),ended⟩⟩
    refine addRules_eq_ok.mpr ⟨fun r member => ⟨(sound r member).1,(apart eq r.name).mpr (sound r member).2⟩,?_⟩
    rw [RuleEntry.foldl_appendAlternative]

/-- A file is built exactly if it is well formed. The grammar then has the tokens that the entries describe, in
order, and the rules that the entries make up, grouped by name; and what is written of the language again is the
file with its rules grouped and without what is usual, each token by its pattern alone if that makes it again, and
the start if it is not the first rule. -/
theorem build_grouped (f : GrammarFile) (config : Config) :
    ((∃ l, f.build config = .ok l) ↔ f.WellFormed) ∧
    ∀ l, f.build config = .ok l →
      f.tokens.map (fun p => p.2.toToken p.1) = l.grammar.tokens.map .ok ∧
      l.grammar.rules = RuleEntry.rules f.rules ∧
      (ofLanguage l).name = f.name ∧
      (ofLanguage l).context = Entries.ofList f.context ∧
      (Entries.Sorted f.context → (ofLanguage l).context = f.context) ∧
      (ofLanguage l).rules = (RuleEntry.grouped f.rules).map RuleEntry.brief ∧
      (ofLanguage l).tokens.map (·.1) = f.tokens.map (·.1) ∧
      List.Forall₂ (fun p t => p.1 = t.name ∧ p.2.Tells t) (ofLanguage l).tokens l.grammar.tokens ∧
      (ofLanguage l).start = f.start.filter fun s => f.rules.head?.map (·.name) != some s := by
  have built {l : Language} : f.build config = .ok l ↔ ∃ g, f.toGrammar = .ok g ∧
      l = { name := f.name, grammar := g, context := ⟨Entries.ofList f.context⟩, config } := by
    unfold build
    cases f.toGrammar with
    | error e => simp
    | ok g => simp [eq_comm]
  refine ⟨⟨?_,?_⟩,?_⟩
  · rintro ⟨l,ok⟩
    obtain ⟨g,grammar,-⟩ := built.mp ok
    obtain ⟨made,eq,given,distinct,rules,start,-⟩ := toGrammar_eq_ok.mp grammar
    exact ⟨fun p member => ⟨given p member,(exists_made f.tokens).mp ⟨made,eq⟩ p member⟩,distinct,rules,start⟩
  · intro wellFormed
    obtain ⟨made,eq⟩ := (exists_made f.tokens).mpr fun p member => (wellFormed.tokens p member).2
    exact ⟨_,built.mpr ⟨_,toGrammar_eq_ok.mpr ⟨made,eq,fun p member => (wellFormed.tokens p member).1,
      wellFormed.distinct,wellFormed.rules,wellFormed.start,rfl⟩,rfl⟩⟩
  · intro l ok
    obtain ⟨g,grammar,rfl⟩ := built.mp ok
    obtain ⟨made,eq,given,distinct,rules,start,rfl⟩ := toGrammar_eq_ok.mp grammar
    refine ⟨eq,rfl,rfl,rfl,fun sorted => sorted.ofList_eq,RuleEntry.flatMap_rules f.rules,?names,?tokens,?start⟩
    case names =>
      rw [← names_of_made eq,ofLanguage,List.map_map]
      rfl
    case tokens =>
      rw [ofLanguage,List.forall₂_map_left_iff,List.forall₂_same]
      exact fun t member => ⟨rfl,TokenEntry.ofToken_tells (made_of_mem eq member)⟩
    case start =>
      rw [ofLanguage]
      dsimp only
      rw [startRule?,RuleEntry.rules_head?]
      dsimp only
      cases f.start with
      | none => cases f.rules.head? <;> simp
      | some s => rfl

def interleaved : GrammarFile where
  name := "interleaved"
  tokens := [("IF",.plain "if"),("NUM",.detailed { pattern := "[0-9]+", priority := some 0 })]
  rules := [⟨"a",["IF"],"",some 0,none⟩,⟨"b",["NUM","a"],"",none,some .none⟩,⟨"a",["NUM"],"",some 2,some .left⟩]
  context := [("depth",.null)]
  start := some "b"

theorem build_grouped_interleaved : ∃ l, interleaved.build {} = .ok l ∧ Entries.Sorted interleaved.context ∧
    l.grammar.rules = [⟨"a",[⟨["IF"],"",0,.none⟩,⟨["NUM"],"",2,.left⟩]⟩,⟨"b",[⟨["NUM","a"],"",0,.none⟩]⟩] ∧
    (ofLanguage l).context = [("depth",.null)] ∧
    (ofLanguage l).rules = [⟨"a",["IF"],"",none,none⟩,⟨"a",["NUM"],"",some 2,some .left⟩,⟨"b",["NUM","a"],"",none,none⟩] ∧
    (ofLanguage l).start = some "b" := by
  have digits : Token.Compiles ("^(?:" ++ "[0-9]+" ++ ")") := by
    obtain ⟨p,read,-⟩ : ∃ p, Pattern.read ("^(?:" ++ "[0-9]+" ++ ")").toList = .ok p ∧ true = true :=
      exists_of_any (by decide +kernel)
    exact ⟨p,read⟩
  have wellFormed : interleaved.WellFormed := by
    refine ⟨?tokens,by decide,by decide,by decide⟩
    refine List.forall_mem_cons.mpr ⟨⟨by decide,?keyword⟩,List.forall_mem_singleton.mpr ⟨by decide,digits,nofun,nofun⟩⟩
    simp only [TokenEntry.Sound]
    rw [if_pos (by decide)]
    decide +kernel
  obtain ⟨l,built⟩ := (build_grouped interleaved {}).1.mpr wellFormed
  obtain ⟨-,rules,-,-,context,written,-,-,start⟩ := (build_grouped interleaved {}).2 l built
  have sorted : Entries.Sorted interleaved.context := by simp [Entries.Sorted,Entries.keys,interleaved]
  refine ⟨l,built,sorted,rules.trans ?_,context sorted,written.trans ?_,start.trans ?_⟩
  · decide
  · decide
  · decide

end GrammarFile

end Packrat
