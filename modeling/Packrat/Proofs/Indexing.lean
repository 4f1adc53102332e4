import Packrat.Proofs.Rebuild

/-! Registration with an index of the tokens and one of the rules. A request is served in place and
may be refused at several points; it comes to the same as registration without indices, and one that
is refused leaves nothing behind. -/
namespace Packrat

theorem Entries.get?_insert (entries : List (String × α)) (key : String) (value : α) (other : String) :
    get? (insert entries key value) other = if key = other then some value else get? entries other := by
  induction entries with
  | nil => rfl
  | cons entry rest ih =>
    obtain ⟨k,v⟩ := entry
    simp only [insert]
    split
    · rfl
    split
    · rename_i same
      subst same
      by_cases found : k = other <;> simp [get?,found]
    · rename_i differ
      by_cases found : k = other
      · subst found
        simp [get?,Ne.symm differ]
      · simp only [get?,found,if_false,ih]

structure Registry extends Grammar where
  tokenIndex : List (String × Nat) := []
  ruleIndex : List (String × Nat) := []

/-- A change of the registry, which may be refused when part of it is done. -/
abbrev Registering := ExceptT GrammarError (StateM Registry)

namespace Registering

theorem get_run (f : Registry → Registering α) (r : Registry) : (get >>= f) r = f r r := rfl

theorem bind_run (m : Registering α) (f : α → Registering β) (r : Registry) :
    (m >>= f) r =
      match m r with
      | (.ok a,r) => f a r
      | (.error e,r) => (.error e,r) := by
  simp only [bind,ExceptT.bind,ExceptT.mk,StateT.bind]
  rcases m r with ⟨result,r'⟩
  cases result <;> rfl

end Registering

namespace Registry

def checkTokenName (name : String) : Registering Unit := do
  let r ← get
  if name = "" then throw (.emptyName .token)
  else if (Entries.get? r.tokenIndex name).isSome then throw (.duplicateToken name)
  else if (Entries.get? r.ruleIndex name).isSome then throw (.nameConflict name .rule)
  else return

def addToken (t : Token) : Registering Unit :=
  modify fun r => { r with
    tokenIndex := Entries.insert r.tokenIndex t.name r.tokens.length
    tokens := r.tokens ++ [t] }

/-- Adds a token that is made only if it may have its name. -/
def registerMade (name : String) (made : Except GrammarError Token) : Registering Unit := do
  checkTokenName name
  match made with
  | .ok t => addToken t
  | .error e => throw e

/-- The number of a rule. If there is none of the name, one without alternatives is added. -/
def ruleNumber (name : String) : Registering Nat := do
  let r ← get
  match Entries.get? r.ruleIndex name with
  | some i => return i
  | none =>
    modify fun r => { r with
      ruleIndex := Entries.insert r.ruleIndex name r.rules.length
      rules := r.rules ++ [⟨name,[]⟩] }
    return (← get).rules.length - 1

def addAlternative (name : String) (a : Alternative) : Registering Unit := do
  let r ← get
  if name = "" then throw (.emptyName .rule)
  else if (Entries.get? r.tokenIndex name).isSome then throw (.nameConflict name .token)
  else
    let i ← ruleNumber name
    modify fun r => { r with
      rules := r.rules.modify i fun rule => { rule with alternatives := rule.alternatives ++ [a] } }

def zeroOrMore (name element : String) : Registering Unit := do
  addAlternative name { symbols := [], action := Builtin.emptyName }
  addAlternative name { symbols := [name,element], action := Builtin.appendName }

def oneOrMore (name element : String) : Registering Unit := do
  addAlternative name { symbols := [element], action := Builtin.singleName }
  addAlternative name { symbols := [name,element], action := Builtin.appendName }

def setStart (name : String) : Registering Unit := do
  let r ← get
  if (Entries.get? r.ruleIndex name).isSome then modify fun r => { r with start := some name }
  else throw (.unknownRule name)

def setAction (name : String) (f : UserAction) : Registering Unit :=
  modify fun r => { r with toGrammar := r.toGrammar.setAction name f }

inductive Symbol where
  | token (index : Nat)
  | rule (index : Nat)
  deriving DecidableEq

def resolve (r : Registry) (name : String) : Option Symbol :=
  match Entries.get? r.tokenIndex name with
  | some i => some (.token i)
  | none => (Entries.get? r.ruleIndex name).map .rule

def token? (r : Registry) (name : String) : Option (Option Token) :=
  (Entries.get? r.tokenIndex name).map (r.tokens[·]?)

def rule? (r : Registry) (name : String) : Option (Option Rule) :=
  (Entries.get? r.ruleIndex name).map (r.rules[·]?)

end Registry

def Registry.call : Grammar.Call → Registering Unit
  | .token name pattern priority => registerMade name (Token.ofPattern name pattern priority)
  | .keyword name word => registerMade name (Token.ofKeyword name word)
  | .lookaround name pattern lookahead lookbehind =>
    registerMade name (Token.ofLookaround name pattern lookahead lookbehind)
  | .register t _ => registerMade t.name (.ok t)
  | .alternative rule a => addAlternative rule a
  | .zeroOrMore rule element => zeroOrMore rule element
  | .oneOrMore rule element => oneOrMore rule element
  | .setStart rule => setStart rule
  | .action name f => setAction name f

inductive Request where
  | call (c : Grammar.Call)
  | register (t : Token)

namespace Request

def serve : Request → Registering Unit
  | call c => Registry.call c
  | register t => Registry.registerMade t.name (.ok t)

def apply : Request → Grammar → Except GrammarError Grammar
  | call c,g => c.apply g
  | register t,g => g.register t

end Request

def Registry.after (requests : List Request) : Registry :=
  requests.foldl (fun r request => (request.serve r).2) {}

def Grammar.after (requests : List Request) : Grammar :=
  requests.foldl (fun g request => (request.apply g).toOption.getD g) {}

namespace Registry

/-- An index that gives each name its place. -/
def Inverse (index : List (String × Nat)) (names : List String) : Prop :=
  ∀ name i, Entries.get? index name = some i ↔ names[i]? = some name

section Inverse

variable {index : List (String × Nat)} {names : List String}

theorem Inverse.nil : Inverse [] [] := fun name i => by simp [Entries.get?]

theorem Inverse.isSome_iff (inverse : Inverse index names) (name : String) :
    (Entries.get? index name).isSome = true ↔ name ∈ names := by
  rw [Option.isSome_iff_exists,List.mem_iff_getElem?]
  exact exists_congr (inverse name)

theorem Inverse.nodup (inverse : Inverse index names) : names.Nodup := by
  rw [List.nodup_iff_getElem?_ne_getElem?]
  intro i j before inside same
  obtain ⟨name,there⟩ : ∃ name, names[j]? = some name := ⟨_,List.getElem?_eq_getElem inside⟩
  have first := (inverse name i).mpr (same.trans there)
  rw [(inverse name j).mpr there] at first
  have := Option.some.inj first
  omega

theorem Inverse.insert (inverse : Inverse index names) (fresh : name ∉ names) :
    Inverse (Entries.insert index name names.length) (names ++ [name]) := by
  intro other i
  rw [Entries.get?_insert]
  split
  · rename_i same
    subst same
    rw [Option.some.injEq]
    constructor
    · rintro rfl
      simp
    · intro found
      rcases Nat.lt_trichotomy i names.length with inside | last | outside
      · rw [List.getElem?_append_left inside] at found
        exact absurd (List.mem_of_getElem? found) fresh
      · exact last.symm
      · rw [List.getElem?_eq_none (by simp; omega)] at found
        cases found
  · rename_i differ
    rw [inverse]
    by_cases inside : i < names.length
    · rw [List.getElem?_append_left inside]
    · constructor
      · intro found
        rw [List.getElem?_eq_none (by omega)] at found
        cases found
      · intro found
        rw [List.getElem?_append_right (by omega)] at found
        have there := List.mem_of_getElem? found
        simp only [List.mem_singleton] at there
        exact absurd there.symm differ

end Inverse

/-- Both indices tell where a name stands, no name is empty or stands for two things, every rule has
an alternative, and a start rule that was set is one of the rules. -/
structure Consistent (r : Registry) : Prop where
  tokens : Inverse r.tokenIndex (r.tokens.map (·.name))
  rules : Inverse r.ruleIndex (r.rules.map (·.name))
  apart : ∀ name ∈ r.tokens.map (·.name), name ∉ r.rules.map (·.name)
  named : ∀ t ∈ r.tokens, t.name ≠ ""
  stated : ∀ rule ∈ r.rules, rule.alternatives ≠ [] ∧ rule.name ≠ ""
  start : ∀ name ∈ r.start, name ∈ r.rules.map (·.name)

/-- A call comes to what registration without indices comes to. If it is refused, the registry is
what it was. -/
def Serves (call : Registering Unit) (apply : Grammar → Except GrammarError Grammar) : Prop :=
  ∀ r : Registry, r.Consistent →
    match apply r.toGrammar with
    | .ok g => ∃ r', call r = (.ok (),r') ∧ r'.Consistent ∧ r'.toGrammar = g
    | .error e => call r = (.error e,r)

section Calls

variable {r : Registry}

theorem Consistent.token?_isSome (consistent : r.Consistent) (name : String) :
    (Entries.get? r.tokenIndex name).isSome = (r.toGrammar.token? name).isSome := by
  rw [Bool.eq_iff_iff,consistent.tokens.isSome_iff,Grammar.token?_isSome,List.mem_map]

theorem Consistent.rule?_isSome (consistent : r.Consistent) (name : String) :
    (Entries.get? r.ruleIndex name).isSome = (r.toGrammar.rule? name).isSome := by
  rw [Bool.eq_iff_iff,consistent.rules.isSome_iff,Grammar.rule?_isSome,List.mem_map]

theorem checkTokenName_run (consistent : r.Consistent) (name : String) :
    checkTokenName name r = (r.toGrammar.checkTokenName name,r) := by
  unfold checkTokenName Grammar.checkTokenName
  rw [← consistent.token?_isSome,← consistent.rule?_isSome,Registering.get_run]
  split
  · rfl
  split
  · rfl
  split <;> rfl

/-- A new token takes the next number. -/
theorem Consistent.addToken (consistent : r.Consistent) (checked : r.toGrammar.checkTokenName t.name = .ok ()) :
    ∃ r', addToken t r = (.ok (),r') ∧ r'.Consistent ∧
      r'.toGrammar = { r.toGrammar with tokens := r.tokens ++ [t] } := by
  obtain ⟨given,fresh,free⟩ := Grammar.checkTokenName_eq_ok.mp checked
  have names : (r.tokens ++ [t]).map (·.name) = r.tokens.map (·.name) ++ [t.name] := by simp
  have fresh : t.name ∉ r.tokens.map (·.name) := by simpa using fresh
  have free : t.name ∉ r.rules.map (·.name) := by simpa using free
  refine ⟨_,rfl,⟨?_,consistent.rules,?_,?_,consistent.stated,consistent.start⟩,rfl⟩
  · have numbered := consistent.tokens.insert fresh
    rw [List.length_map] at numbered
    rw [names]
    exact numbered
  · intro name member
    rw [names] at member
    rcases List.mem_append.mp member with old | new
    · exact consistent.apart name old
    · obtain rfl := List.mem_singleton.mp new
      exact free
  · intro token member
    rcases List.mem_append.mp member with old | new
    · exact consistent.named token old
    · obtain rfl := List.mem_singleton.mp new
      exact given

theorem registerMade_serves (made : Except GrammarError Token) (own : ∀ t, made = .ok t → t.name = name) :
    Serves (registerMade name made) (fun g => do g.checkTokenName name; g.register (← made)) := by
  intro r consistent
  unfold registerMade
  rw [Registering.bind_run,checkTokenName_run consistent]
  cases checked : r.toGrammar.checkTokenName name with
  | error e => simp only [checked,bind,Except.bind]
  | ok _ =>
    cases made with
    | error e =>
      simp only [checked,bind,Except.bind]
      rfl
    | ok t =>
      obtain rfl := own t rfl
      obtain ⟨r',added,consistent',same⟩ := consistent.addToken checked
      have registered := Grammar.register_eq_ok.mpr ⟨checked,rfl⟩
      simp only [checked,bind,Except.bind,registered]
      exact ⟨r',added,consistent',same⟩

/-- The rule of a number gets the alternative, as if it were searched for. -/
theorem modify_eq_appendAlternative (a : Alternative) {rules : List Rule} (distinct : (rules.map (·.name)).Nodup)
    (there : (rules.map (·.name))[i]? = some name) :
    (rules.modify i fun rule => { rule with alternatives := rule.alternatives ++ [a] }) =
      Grammar.appendAlternative name a rules := by
  induction rules generalizing i with
  | nil => cases there
  | cons rule rest ih =>
    obtain ⟨fresh,distinct⟩ := List.nodup_cons.mp distinct
    cases i with
    | zero =>
      obtain rfl := Option.some.inj there
      simp [Grammar.appendAlternative]
    | succ i =>
      have there : (rest.map (·.name))[i]? = some name := there
      have differ : rule.name ≠ name := by
        rintro rfl
        exact fresh (List.mem_of_getElem? there)
      simp [Grammar.appendAlternative,differ,ih distinct there]

theorem modify_new_eq_appendAlternative (a : Alternative) {rules : List Rule} (fresh : name ∉ rules.map (·.name)) :
    ((rules ++ [⟨name,[]⟩] : List Rule).modify rules.length fun rule => { rule with alternatives := rule.alternatives ++ [a] }) =
      Grammar.appendAlternative name a rules := by
  induction rules with
  | nil => rfl
  | cons rule rest ih =>
    simp only [List.map_cons,List.mem_cons,not_or] at fresh
    simp [Grammar.appendAlternative,Ne.symm fresh.1,ih fresh.2]

theorem ruleNumber_known (known : Entries.get? r.ruleIndex name = some i) : ruleNumber name r = (.ok i,r) := by
  unfold ruleNumber
  rw [Registering.get_run]
  simp only [known]
  rfl

theorem ruleNumber_new (unknown : Entries.get? r.ruleIndex name = none) :
    ruleNumber name r = (.ok r.rules.length,{ r with
      ruleIndex := Entries.insert r.ruleIndex name r.rules.length
      rules := r.rules ++ [⟨name,[]⟩] }) := by
  have last : (r.rules ++ [⟨name,[]⟩] : List Rule).length - 1 = r.rules.length := by simp
  unfold ruleNumber
  rw [Registering.get_run]
  simp only [unknown]
  rw [Registering.bind_run]
  exact Prod.ext (congrArg Except.ok last) rfl

theorem Consistent.withAlternative (consistent : r.Consistent) (a : Alternative) (given : name ≠ "")
    (free : name ∉ r.tokens.map (·.name))
    (inverse : Inverse index ((Grammar.appendAlternative name a r.rules).map (·.name))) :
    Consistent { r with ruleIndex := index, rules := Grammar.appendAlternative name a r.rules } := by
  have mem (other : String) : other ∈ (Grammar.appendAlternative name a r.rules).map (·.name) →
      other ∈ r.rules.map (·.name) ∨ other = name := by
    rw [Grammar.appendAlternative_names]
    split
    · exact .inl
    · simp
  have stated : ∀ rule ∈ Grammar.appendAlternative name a r.rules, rule.alternatives ≠ [] ∧ rule.name ≠ "" :=
    Grammar.Assembled.stated_appendAlternative given consistent.stated
  refine ⟨consistent.tokens,inverse,?_,consistent.named,stated,?_⟩
  · intro other member member'
    rcases mem other member' with old | rfl
    · exact consistent.apart other member old
    · exact free member
  · exact fun other set => Grammar.appendAlternative_mem_names name a (consistent.start other set)

/-- An alternative is taken in with its rule, which may be new. -/
theorem Consistent.addAlternative (consistent : r.Consistent) (a : Alternative) (given : name ≠ "")
    (free : name ∉ r.tokens.map (·.name)) :
    ∃ r', addAlternative name a r = (.ok (),r') ∧ r'.Consistent ∧
      r'.toGrammar = { r.toGrammar with rules := Grammar.appendAlternative name a r.rules } := by
  have names := Grammar.appendAlternative_names name a r.rules
  have unknown : (Entries.get? r.tokenIndex name).isSome = false := by
    rw [← Bool.not_eq_true,consistent.tokens.isSome_iff]
    exact free
  unfold Registry.addAlternative
  rw [Registering.get_run]
  simp only [given,unknown,if_false,Bool.false_eq_true]
  rw [Registering.bind_run]
  cases found : Entries.get? r.ruleIndex name with
  | some i =>
    rw [ruleNumber_known found]
    have there := (consistent.rules name i).mp found
    rw [if_pos (List.mem_of_getElem? there)] at names
    have same := modify_eq_appendAlternative a consistent.rules.nodup there
    refine ⟨_,?_,consistent.withAlternative a given free (by rw [names]; exact consistent.rules),rfl⟩
    rw [← same]
    rfl
  | none =>
    have fresh : name ∉ r.rules.map (·.name) := by
      rw [← consistent.rules.isSome_iff,found]
      simp
    rw [if_neg fresh] at names
    have numbered := consistent.rules.insert fresh
    rw [List.length_map] at numbered
    rw [ruleNumber_new found]
    refine ⟨_,?_,consistent.withAlternative a given free (by rw [names]; exact numbered),rfl⟩
    rw [← modify_new_eq_appendAlternative a fresh]
    rfl

theorem addAlternative_serves (name : String) (a : Alternative) :
    Serves (addAlternative name a) (fun g => g.addAlternative name a) := by
  intro r consistent
  cases added : r.toGrammar.addAlternative name a with
  | ok g =>
    obtain ⟨given,free,rfl⟩ := Grammar.addAlternative_eq_ok.mp added
    have free : name ∉ r.tokens.map (·.name) := by simpa using free
    simp only [added]
    exact consistent.addAlternative a given free
  | error e =>
    simp only [added]
    unfold Grammar.addAlternative at added
    rw [← consistent.token?_isSome] at added
    unfold Registry.addAlternative
    rw [Registering.get_run]
    split at added
    · rename_i empty
      cases added
      simp only [empty,if_true]
      rfl
    rename_i given
    split at added
    · rename_i known
      cases added
      simp only [given,known,if_true,if_false]
      rfl
    · cases added

/-- Two alternatives of one rule: where the first one is taken in, so is the second. -/
theorem both_serve (name : String) (a b : Alternative) :
    Serves (do addAlternative name a; addAlternative name b)
      (fun g => do (← g.addAlternative name a).addAlternative name b) := by
  intro r consistent
  have first := addAlternative_serves name a r consistent
  rw [Registering.bind_run]
  cases added : r.toGrammar.addAlternative name a with
  | error e =>
    simp only [added] at first
    simp only [added,first,bind,Except.bind]
  | ok g =>
    obtain ⟨given,free,same⟩ := Grammar.addAlternative_eq_ok.mp added
    have again : g.addAlternative name b = .ok { g with rules := Grammar.appendAlternative name b g.rules } :=
      Grammar.addAlternative_eq_ok.mpr ⟨given,by rw [same]; exact free,rfl⟩
    simp only [added] at first
    obtain ⟨r',taken,consistent',rfl⟩ := first
    have second := addAlternative_serves name b r' consistent'
    simp only [again] at second
    simp only [added,taken,again,bind,Except.bind]
    exact second

theorem setStart_serves (name : String) : Serves (setStart name) (fun g => g.setStart name) := by
  intro r consistent
  unfold Registry.setStart Grammar.setStart
  rw [Registering.get_run,consistent.rule?_isSome]
  cases known : (r.toGrammar.rule? name).isSome with
  | false =>
    simp only [known,Bool.false_eq_true,if_false]
    rfl
  | true =>
    simp only [known,if_true]
    rw [← consistent.rule?_isSome,consistent.rules.isSome_iff] at known
    refine ⟨_,rfl,⟨consistent.tokens,consistent.rules,consistent.apart,consistent.named,consistent.stated,?_⟩,rfl⟩
    intro other set
    obtain rfl := Option.some.inj set
    exact known

theorem setAction_serves (name : String) (f : UserAction) :
    Serves (setAction name f) (fun g => .ok (g.setAction name f)) := by
  intro r consistent
  refine ⟨_,rfl,?_,rfl⟩
  exact ⟨consistent.tokens,consistent.rules,consistent.apart,consistent.named,consistent.stated,consistent.start⟩

end Calls

end Registry

open Registry in
/-- Each request is served with the indices as without them, or leaves the registry as it was. -/
theorem Request.serves (request : Request) : Serves request.serve request.apply := by
  have register (t : Token) : Serves (registerMade t.name (.ok t)) (fun g => g.register t) := by
    have once (g : Grammar) : (do g.checkTokenName t.name; g.register (← .ok t)) = g.register t := by
      unfold Grammar.register
      cases checked : g.checkTokenName t.name <;> simp [bind,Except.bind,checked]
    have served := registerMade_serves (.ok t) fun _ same => congrArg Token.name (Except.ok.inj same).symm
    simp only [once] at served
    exact served
  cases request with
  | register t => exact register t
  | call c =>
    cases c with
    | register t => exact register t
    | token name pattern priority =>
      refine registerMade_serves _ fun t made => ?_
      obtain ⟨_,_,rfl⟩ := Token.ofPattern_eq_ok.mp made
      rfl
    | keyword name word =>
      refine registerMade_serves _ fun t made => ?_
      obtain ⟨_,rfl⟩ := Token.ofKeyword_eq_ok.mp made
      rfl
    | lookaround => exact registerMade_serves _ fun _ made => (Token.ofLookaround_fields made).1
    | alternative rule a => exact addAlternative_serves rule a
    | zeroOrMore => exact both_serve _ _ _
    | oneOrMore => exact both_serve _ _ _
    | setStart rule => exact setStart_serves rule
    | action name f => exact setAction_serves name f

namespace Registry

variable {r : Registry}

theorem Consistent.empty : Consistent {} where
  tokens := .nil
  rules := .nil
  apart _ member := nomatch member
  named _ member := nomatch member
  stated _ member := nomatch member
  start _ set := nomatch set

theorem Consistent.serve (consistent : r.Consistent) (request : Request) :
    (request.serve r).2.Consistent ∧
      (request.serve r).2.toGrammar = (request.apply r.toGrammar).toOption.getD r.toGrammar := by
  have served := request.serves r consistent
  cases applied : request.apply r.toGrammar with
  | ok g =>
    simp only [applied] at served
    obtain ⟨r',called,consistent',same⟩ := served
    rw [called]
    exact ⟨consistent',same⟩
  | error e =>
    simp only [applied] at served
    rw [served]
    exact ⟨consistent,rfl⟩

/-- A refused request leaves the registry as it was. -/
theorem Consistent.refused (consistent : r.Consistent) (request : Request) (refused : request.serve r = (.error e,r')) :
    r' = r ∧ request.apply r.toGrammar = .error e := by
  have served := request.serves r consistent
  cases applied : request.apply r.toGrammar with
  | ok g =>
    simp only [applied] at served
    obtain ⟨r'',called,_⟩ := served
    rw [refused] at called
    cases called
  | error e' =>
    simp only [applied] at served
    rw [refused] at served
    cases served
    exact ⟨rfl,rfl⟩

theorem after_consistent (requests : List Request) :
    (after requests).Consistent ∧ (after requests).toGrammar = Grammar.after requests := by
  have steps (r : Registry) (consistent : r.Consistent) :
      (requests.foldl (fun r request => (request.serve r).2) r).Consistent ∧
      (requests.foldl (fun r request => (request.serve r).2) r).toGrammar =
        requests.foldl (fun g request => (request.apply g).toOption.getD g) r.toGrammar := by
    induction requests generalizing r with
    | nil => exact ⟨consistent,rfl⟩
    | cons request rest ih =>
      obtain ⟨consistent',same⟩ := consistent.serve request
      rw [List.foldl_cons,List.foldl_cons,← same]
      exact ih _ consistent'
  exact steps {} .empty

/-- A name stands for the token or the rule that bears it. -/
theorem Consistent.resolve_iff (consistent : r.Consistent) (name : String) (i : Nat) :
    (r.resolve name = some (.token i) ↔ ∃ inside : i < r.tokens.length, r.tokens[i].name = name) ∧
    (r.resolve name = some (.rule i) ↔ ∃ inside : i < r.rules.length, r.rules[i].name = name) := by
  have tokens := consistent.tokens name i
  have rules := consistent.rules name i
  simp only [List.getElem?_eq_some_iff,List.length_map,List.getElem_map] at tokens rules
  rw [← tokens,← rules]
  unfold resolve
  cases known : Entries.get? r.tokenIndex name with
  | none => simp
  | some j =>
    have token : name ∈ r.tokens.map (·.name) := (consistent.tokens.isSome_iff name).mp (by rw [known]; rfl)
    have absent : Entries.get? r.ruleIndex name = none := by
      rw [← Option.not_isSome_iff_eq_none,consistent.rules.isSome_iff]
      exact consistent.apart name token
    simp [absent]

theorem Consistent.resolve_rule (consistent : r.Consistent) (member : name ∈ r.rules.map (·.name)) :
    ∃ i, r.resolve name = some (.rule i) := by
  obtain ⟨i,inside,named⟩ := List.mem_iff_getElem.mp member
  rw [List.length_map] at inside
  rw [List.getElem_map] at named
  exact ⟨i,(consistent.resolve_iff name i).2.mpr ⟨inside,named⟩⟩

section Search

variable {index : List (String × Nat)} {items : List α} {label : α → String}

/-- In an inverse index the place of a name is where a search finds it. -/
theorem Inverse.findFinIdx?_eq (inverse : Inverse index (items.map label)) (name : String) :
    (items.findFinIdx? fun item => label item == name).map Fin.val = Entries.get? index name := by
  cases found : Entries.get? index name with
  | none =>
    have absent : name ∉ items.map label := by
      rw [← inverse.isSome_iff,found]
      simp
    have nowhere : (items.findFinIdx? fun item => label item == name) = none := by simpa using absent
    rw [nowhere,Option.map_none]
  | some i =>
    obtain ⟨inside,named⟩ := List.getElem?_eq_some_iff.mp ((inverse name i).mp found)
    have bound : i < items.length := by simpa using inside
    have first : (items.findFinIdx? fun item => label item == name) = some ⟨i,bound⟩ := by
      refine List.findFinIdx?_eq_some_iff.mpr ⟨by simpa using named,fun j before => ?_⟩
      have differ := List.pairwise_iff_getElem.mp inverse.nodup j i (by simp) inside before
      rw [named] at differ
      simpa using differ
    rw [first,Option.map_some]

theorem Inverse.find?_eq (inverse : Inverse index (items.map label)) (name : String) :
    (Entries.get? index name).map (items[·]?) = (items.find? fun item => label item == name).map some := by
  rw [← inverse.findFinIdx?_eq,List.find?_eq_map_findFinIdx?_getElem,Option.map_map,Option.map_map]
  exact congrArg (Option.map · _) (funext fun i => List.getElem?_eq_getElem i.isLt)

end Search

def Symbol.of : Grammar.Symbol g → Symbol
  | .token i => .token i
  | .rule i => .rule i

theorem Consistent.resolve_eq (consistent : r.Consistent) (name : String) :
    r.resolve name = (r.toGrammar.resolve name).map Symbol.of := by
  unfold resolve Grammar.resolve Grammar.tokenIndex? Grammar.ruleIndex?
  rw [← consistent.tokens.findFinIdx?_eq,← consistent.rules.findFinIdx?_eq]
  cases r.tokens.findFinIdx? (·.name == name) with
  | some i => rfl
  | none => cases r.rules.findFinIdx? (·.name == name) <;> rfl

/-- There is a start rule if there are rules, and it is one of them. -/
theorem Consistent.startRule (consistent : r.Consistent) :
    (r.startRule? = none ↔ r.rules = []) ∧
    ∀ name, r.startRule? = some name → ∃ i, r.resolve name = some (.rule i) := by
  unfold Grammar.startRule?
  cases set : r.start with
  | some name =>
    have member := consistent.start name set
    refine ⟨⟨nofun,fun empty => ?_⟩,fun other starts => ?_⟩
    · rw [empty] at member
      cases member
    · obtain rfl := Option.some.inj starts
      exact consistent.resolve_rule member
  | none =>
    cases rules : r.rules with
    | nil => simp
    | cons rule rest =>
      refine ⟨by simp,fun other starts => ?_⟩
      obtain rfl := Option.some.inj starts
      exact consistent.resolve_rule (by simp [rules])

/-- Whatever is asked for in whatever order, the indices are those of the names, every name stands for
one thing, and a request that is refused leaves everything as it was. -/
theorem after_indexed (requests : List Request) :
    let r := after requests
    r.toGrammar = Grammar.after requests ∧
    Inverse r.tokenIndex (r.tokens.map (·.name)) ∧ Inverse r.ruleIndex (r.rules.map (·.name)) ∧
    (r.tokens.map (·.name) ++ r.rules.map (·.name)).Nodup ∧
    (∀ t ∈ r.tokens, t.name ≠ "") ∧ (∀ rule ∈ r.rules, rule.alternatives ≠ [] ∧ rule.name ≠ "") ∧
    (∀ name, r.start = some name → ∃ rule ∈ r.rules, rule.name = name) ∧
    (∀ name i,
      (r.resolve name = some (.token i) ↔ ∃ inside : i < r.tokens.length, r.tokens[i].name = name) ∧
      (r.resolve name = some (.rule i) ↔ ∃ inside : i < r.rules.length, r.rules[i].name = name)) ∧
    (∀ name, r.resolve name = (r.toGrammar.resolve name).map Symbol.of ∧
      r.token? name = (r.toGrammar.token? name).map some ∧ r.rule? name = (r.toGrammar.rule? name).map some) ∧
    (r.startRule? = none ↔ r.rules = []) ∧
    (∀ name, r.startRule? = some name → ∃ i, r.resolve name = some (.rule i)) ∧
    ∀ (request : Request) e r', request.serve r = (.error e,r') →
      r' = r ∧ request.apply r.toGrammar = .error e := by
  intro r
  obtain ⟨consistent,same⟩ : r.Consistent ∧ r.toGrammar = _ := after_consistent requests
  obtain ⟨unset,starts⟩ := consistent.startRule
  refine ⟨same,consistent.tokens,consistent.rules,?_,consistent.named,consistent.stated,?_,consistent.resolve_iff,?_,
    unset,starts,fun request e r' => consistent.refused request⟩
  · refine List.Nodup.append consistent.tokens.nodup consistent.rules.nodup ?_
    exact fun name token rule => consistent.apart name token rule
  · intro name set
    exact List.mem_map.mp (consistent.start name set)
  · exact fun name => ⟨consistent.resolve_eq name,consistent.tokens.find?_eq name,consistent.rules.find?_eq name⟩

def refusals : List Request :=
  [.register ⟨"X","x",0,.pattern,none,none,.set (.ofChars ['x']),none,none⟩,.call (.token "Y" "(" 0),
    .call (.zeroOrMore "X" "X"),.call (.setStart "xs"),.call (.zeroOrMore "xs" "X"),.call (.keyword "xs" "if")]

theorem after_indexed_refusals :
    (after refusals).resolve "X" = some (.token 0) ∧ (after refusals).resolve "xs" = some (.rule 0) ∧
    (after refusals).rules.map (·.alternatives.length) = [2] ∧ (after refusals).startRule? = some "xs" ∧
    (∃ i, (after refusals).resolve "xs" = some (.rule i)) ∧
    ∃ e r', (Request.call (.setStart "X")).serve (after refusals) = (.error e,r') ∧ r' = after refusals := by
  obtain ⟨_,_,_,_,_,_,_,_,_,_,starts,refused⟩ := after_indexed refusals
  have start : (after refusals).startRule? = some "xs" := by rfl
  have unknown : (Request.call (.setStart "X")).serve (after refusals) = (.error (.unknownRule "X"),after refusals) := by
    rfl
  exact ⟨by rfl,by rfl,by rfl,start,starts "xs" start,_,_,unknown,(refused _ _ _ unknown).1⟩

end Registry

end Packrat
