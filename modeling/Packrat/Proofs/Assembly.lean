import Mathlib.Data.String.Basic
import Packrat.Language
import Packrat.Proofs.Registration

/-! Languages put together by calls, one after the other. A call that is refused changes nothing, so
whatever is called, tokens are made as they were asked for, names are given once, rules have
alternatives, and actions and the context are in the order of their names. -/
namespace Packrat

namespace Entries

variable {α : Type} {entries : List (String × α)}

theorem sorted_cons {k : String} {v : α} :
    Sorted ((k,v) :: entries) ↔ (∀ other ∈ keys entries, k < other) ∧ Sorted entries := List.pairwise_cons

theorem mem_keys_insert {key other : String} {value : α} (member : other ∈ keys (insert entries key value)) :
    other = key ∨ other ∈ keys entries := by
  induction entries with
  | nil => simpa [insert,keys] using member
  | cons entry rest ih =>
    obtain ⟨k,v⟩ := entry
    simp only [insert] at member
    split at member
    · simpa [keys] using member
    split at member
    · have : other = key ∨ other ∈ keys rest := by simpa [keys] using member
      exact this.imp id (List.mem_cons_of_mem k)
    · have : other = k ∨ other ∈ keys (insert rest key value) := by simpa [keys] using member
      rcases this with rfl | later
      · exact .inr List.mem_cons_self
      · exact (ih later).imp id (List.mem_cons_of_mem k)

theorem Sorted.insert (sorted : Sorted entries) (key : String) (value : α) :
    Sorted (Entries.insert entries key value) := by
  induction entries with
  | nil => exact List.pairwise_singleton _ _
  | cons entry rest ih =>
    obtain ⟨k,v⟩ := entry
    obtain ⟨first,sorted'⟩ := sorted_cons.mp sorted
    simp only [Entries.insert]
    split
    · rename_i before
      refine sorted_cons.mpr ⟨fun other member => ?_,sorted⟩
      rcases List.mem_cons.mp member with rfl | later
      · exact before
      · exact before.trans (first other later)
    split
    · rename_i same
      exact sorted_cons.mpr ⟨by rwa [← same],sorted'⟩
    · rename_i upTo differ
      refine sorted_cons.mpr ⟨fun other member => ?_,ih sorted'⟩
      rcases mem_keys_insert member with rfl | later
      · exact lt_of_le_of_ne (not_lt.mp upTo) differ
      · exact first other later

theorem insert_last {key : String} (value : α) (last : ∀ k ∈ keys entries, k < key) :
    insert entries key value = entries ++ [(key,value)] := by
  induction entries with
  | nil => rfl
  | cons entry rest ih =>
    obtain ⟨k,v⟩ := entry
    have before : k < key := last k List.mem_cons_self
    have later := ih fun other member => last other (List.mem_cons_of_mem k member)
    simp only [insert,if_neg before.asymm,if_neg before.ne,later,List.cons_append]

/-- Storing entries one after the other in the order of their keys adds each at the end. -/
theorem foldl_insert {more : List (String × α)} (sorted : Sorted (entries ++ more)) :
    more.foldl (fun entries p => insert entries p.1 p.2) entries = entries ++ more := by
  induction more generalizing entries with
  | nil => exact (List.append_nil entries).symm
  | cons p more ih =>
    have last : ∀ k ∈ keys entries, k < p.1 := by
      unfold Sorted keys at sorted
      rw [List.map_append] at sorted
      exact fun k member => (List.pairwise_append.mp sorted).2.2 k member p.1 List.mem_cons_self
    rw [List.foldl_cons,insert_last p.2 last,ih (by simpa using sorted),List.append_assoc,List.singleton_append]

/-- Entries in the order of their keys are what they make. -/
theorem Sorted.ofList_eq (sorted : Sorted entries) : ofList entries = entries := foldl_insert sorted

end Entries

inductive Token.Made : Token → Prop
  | ofPattern {name pattern : String} {priority : Int32} : Token.ofPattern name pattern priority = .ok t → Made t
  | ofKeyword {name word : String} : Token.ofKeyword name word = .ok t → Made t
  | ofLookaround {name pattern : String} {lookahead lookbehind : Option String} :
    Token.ofLookaround name pattern lookahead lookbehind = .ok t → Made t
  | withPriority (priority : Int32) : Made t → Made (t.withPriority priority)

namespace Grammar

inductive Call where
  | token (name pattern : String) (priority : Int32)
  | keyword (name word : String)
  | lookaround (name pattern : String) (lookahead lookbehind : Option String)
  | register (t : Token) (made : t.Made)
  | alternative (rule : String) (a : Alternative)
  | zeroOrMore (rule element : String)
  | oneOrMore (rule element : String)
  | setStart (rule : String)
  | action (name : String) (f : UserAction)

def Call.apply (g : Grammar) : Call → Except GrammarError Grammar
  | token name pattern priority => g.addToken name pattern priority
  | keyword name word => g.addKeyword name word
  | lookaround name pattern lookahead lookbehind => g.addLookaround name pattern lookahead lookbehind
  | register t _ => g.register t
  | alternative rule a => g.addAlternative rule a
  | zeroOrMore rule element => g.zeroOrMore rule element
  | oneOrMore rule element => g.oneOrMore rule element
  | setStart rule => g.setStart rule
  | action name f => .ok (g.setAction name f)

/-- What holds of a grammar whatever calls put it together. -/
structure Assembled (g : Grammar) : Prop where
  built : Built g
  made : ∀ t ∈ g.tokens, t.Made ∧ t.name ≠ ""
  distinct : (g.tokens.map (·.name)).Nodup
  stated : ∀ r ∈ g.rules, r.alternatives ≠ [] ∧ r.name ≠ ""
  actions : Entries.Sorted g.actions

namespace Assembled

variable {g g' : Grammar}

theorem empty : Assembled {} where
  built := .empty
  made _ member := nomatch member
  distinct := List.nodup_nil
  stated _ member := nomatch member
  actions := .nil

theorem register (assembled : g.Assembled) (made : t.Made) (added : g.register t = .ok g') : g'.Assembled := by
  have built := assembled.built.register added
  obtain ⟨checked,rfl⟩ := register_eq_ok.mp added
  obtain ⟨given,fresh,_⟩ := checkTokenName_eq_ok.mp checked
  refine ⟨built,?_,?_,assembled.stated,assembled.actions⟩
  · intro token member
    rcases List.mem_append.mp member with old | new
    · exact assembled.made token old
    · obtain rfl := List.mem_singleton.mp new
      exact ⟨made,given⟩
  · dsimp only
    rw [List.map_append,List.map_singleton]
    refine List.Nodup.append assembled.distinct (List.nodup_singleton _) ?_
    simpa using fresh

theorem stated_appendAlternative {rules : List Rule} (given : name ≠ "")
    (stated : ∀ r ∈ rules, r.alternatives ≠ [] ∧ r.name ≠ "") :
    ∀ r ∈ appendAlternative name a rules, r.alternatives ≠ [] ∧ r.name ≠ "" := by
  induction rules with
  | nil => simpa [appendAlternative] using given
  | cons first rest ih =>
    have later := ih fun r member => stated r (List.mem_cons_of_mem _ member)
    have here := stated first List.mem_cons_self
    unfold appendAlternative
    split
    · refine List.forall_mem_cons.mpr ⟨⟨by simp,here.2⟩,fun r member => ?_⟩
      exact stated r (List.mem_cons_of_mem _ member)
    · exact List.forall_mem_cons.mpr ⟨here,later⟩

theorem addAlternative (assembled : g.Assembled) (added : g.addAlternative name a = .ok g') : g'.Assembled := by
  have built := assembled.built.addAlternative added
  obtain ⟨given,_,rfl⟩ := addAlternative_eq_ok.mp added
  exact ⟨built,assembled.made,assembled.distinct,stated_appendAlternative given assembled.stated,assembled.actions⟩

theorem setStart (assembled : g.Assembled) (set : g.setStart name = .ok g') : g'.Assembled := by
  have built := assembled.built.setStart set
  obtain ⟨_,rfl⟩ := setStart_eq_ok.mp set
  exact ⟨built,assembled.made,assembled.distinct,assembled.stated,assembled.actions⟩

/-- Every call keeps what holds of the grammar. -/
theorem apply (assembled : g.Assembled) (c : Call) (applied : c.apply g = .ok g') : g'.Assembled := by
  cases c with
  | token name pattern priority =>
    obtain ⟨t,made,added⟩ := exists_registered applied
    exact assembled.register (.ofPattern made) added
  | keyword name word =>
    obtain ⟨t,made,added⟩ := exists_registered applied
    exact assembled.register (.ofKeyword made) added
  | lookaround name pattern lookahead lookbehind =>
    obtain ⟨t,made,added⟩ := exists_registered applied
    exact assembled.register (.ofLookaround made) added
  | register t made => exact assembled.register made applied
  | alternative rule a => exact assembled.addAlternative applied
  | zeroOrMore rule element =>
    obtain ⟨middle,first,second⟩ := bind_eq_ok.mp applied
    exact (assembled.addAlternative first).addAlternative second
  | oneOrMore rule element =>
    obtain ⟨middle,first,second⟩ := bind_eq_ok.mp applied
    exact (assembled.addAlternative first).addAlternative second
  | setStart rule => exact assembled.setStart applied
  | action name f =>
    obtain rfl := Except.ok.inj applied
    exact ⟨assembled.built.setAction,assembled.made,assembled.distinct,assembled.stated,
      assembled.actions.insert name f⟩

end Assembled

end Grammar

namespace Language

inductive Call where
  | grammar (c : Grammar.Call)
  | setContext (name : String) (v : Value)
  | function (name : String) (f : List Value → Except ActionError Value)
  | configure (config : Config)

/-- What a call makes of the language. A call that is refused leaves it as it was. -/
def perform (l : Language) : Call → Language
  | .grammar c =>
    match c.apply l.grammar with
    | .ok grammar => { l with grammar }
    | .error _ => l
  | .setContext name v => { l with context := l.context.set name v }
  | .function name f => { l with functions := l.functions.register name f }
  | .configure config => { l with config }

def assembled (name : String) (calls : List Call) : Language := calls.foldl perform { name }

structure Assembled (l : Language) : Prop where
  grammar : l.grammar.Assembled
  context : Entries.Sorted l.context.entries

theorem Assembled.perform {l : Language} (assembled : l.Assembled) (c : Call) : (l.perform c).Assembled := by
  cases c with
  | grammar c =>
    simp only [Language.perform]
    split
    · rename_i applied
      exact ⟨assembled.grammar.apply c applied,assembled.context⟩
    · exact assembled
  | setContext name v => exact ⟨assembled.grammar,assembled.context.insert name v⟩
  | function name f => exact ⟨assembled.grammar,assembled.context⟩
  | configure config => exact ⟨assembled.grammar,assembled.context⟩

theorem Assembled.foldl {l : Language} (assembled : l.Assembled) (calls : List Call) :
    (calls.foldl Language.perform l).Assembled := by
  induction calls generalizing l with
  | nil => exact assembled
  | cons c rest ih => exact ih (assembled.perform c)

theorem Assembled.ofCalls (name : String) (calls : List Call) : (assembled name calls).Assembled :=
  Assembled.foldl (l := { name }) ⟨.empty,List.Pairwise.nil⟩ calls

end Language

end Packrat
