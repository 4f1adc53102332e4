import Mathlib.Data.Prod.Basic
import Packrat.Proofs.Chronicle

/-! Repetition is a greedy loop. A rule that one call makes of zero or more elements, or of one or
more, matches one element after the other from where the last one ended, until one fails or takes no
token, and keeps each value as one item of its list. -/
namespace Packrat

theorem Value.list?_eq_some {v : Value} : v.list? = some items ↔ v = .list items := by
  cases v <;> simp [list?]

theorem Value.str?_eq_some {v : Value} : v.str? = some s ↔ v = .str s := by
  cases v <;> simp [str?]

namespace Grammar

def Introduces (registration : Grammar → Except GrammarError Grammar) (name : String) (r : Rule) : Prop :=
  ∃ g g', g.rule? name = none ∧ registration g = .ok g' ∧ g'.rule? name = some r

theorem find?_appendAlternative (name : String) (a : Alternative) (rules : List Rule) :
    (appendAlternative name a rules).find? (·.name == name) =
      some (match rules.find? (·.name == name) with
        | some r => { r with alternatives := r.alternatives ++ [a] }
        | none => ⟨name,[a]⟩) := by
  induction rules with
  | nil => simp [appendAlternative]
  | cons r rest ih =>
    by_cases same : r.name = name
    · simp [appendAlternative,same]
    · simp [appendAlternative,same,ih]

/-- Both alternatives of a rule that is new. -/
theorem Introduces.both (introduces : Introduces (fun g => do (← g.addAlternative name a).addAlternative name b) name r) :
    r = ⟨name,[a,b]⟩ := by
  obtain ⟨g,g',unknown,added,known⟩ := introduces
  obtain ⟨middle,first,second⟩ := bind_eq_ok.mp added
  obtain ⟨_,_,rfl⟩ := addAlternative_eq_ok.mp first
  obtain ⟨_,_,rfl⟩ := addAlternative_eq_ok.mp second
  unfold rule? at unknown known
  rw [find?_appendAlternative,find?_appendAlternative,unknown] at known
  exact (Option.some.inj known).symm

/-- A rule that takes one alternative first, and appends one element after the other to what it
comes to. -/
structure Repeats (r : Rule) (name element : String) (first : Alternative) : Prop where
  recursive : r.isLeftRecursive = true
  seeds : r.seeds = [first]
  rest : r.recursive = [{ symbols := [name,element], action := Builtin.appendName }]

theorem Introduces.repeats (introduces : Introduces (fun g => do
      (← g.addAlternative name first).addAlternative name { symbols := [name,element], action := Builtin.appendName })
    name r) (other : first.startsWith name = false) : Repeats r name element first := by
  rw [introduces.both]
  constructor <;> simp [Rule.isLeftRecursive,Rule.seeds,Rule.recursive,other] <;> simp [Alternative.startsWith]

theorem Introduces.zeroOrMore (introduces : Introduces (·.zeroOrMore name element) name r) :
    Repeats r name element { symbols := [], action := Builtin.emptyName } :=
  introduces.repeats rfl

theorem Introduces.oneOrMore (introduces : Introduces (·.oneOrMore name element) name r) (differ : element ≠ name) :
    Repeats r name element { symbols := [element], action := Builtin.singleName } :=
  introduces.repeats (by simp [Alternative.startsWith,differ])

def Unshadowed (g : Grammar) : Prop :=
  ∀ name ∈ [Builtin.emptyName,Builtin.singleName,Builtin.appendName], Entries.get? g.actions name = none

theorem action?_builtin {g : Grammar} (own : Entries.get? g.actions name = none) (named : Builtin.named? name = some b) :
    g.action? name = some (.builtin b) := by
  simp [action?,own,named]

namespace Unshadowed

variable {g : Grammar} (unshadowed : g.Unshadowed)

include unshadowed

theorem empty : g.action? Builtin.emptyName = some (.builtin .empty) :=
  action?_builtin (unshadowed _ (by simp)) rfl

theorem single : g.action? Builtin.singleName = some (.builtin .single) :=
  action?_builtin (unshadowed _ (by simp)) rfl

theorem append : g.action? Builtin.appendName = some (.builtin .append) :=
  action?_builtin (unshadowed _ (by simp)) rfl

end Unshadowed

end Grammar

namespace Match

section Builtin

variable {t : Task}

/-- An action that is always available is run without a trace but that it is run. -/
theorem invoke_builtin (chosen : t.grammar.action? name = some (.builtin b)) (accepted : b.apply values = .ok value)
    (s : State) :
    invoke t rule name values start stop s = (.ok (some value),s.note (.invoked rule name start stop)) := by
  have run : t.action? name = some (.builtin b) := by simp [Task.action?,chosen]
  have idle : choosing t rule name s = s := by simp [choosing,chosen]
  rw [invoke_chosen t rule name values start stop run,idle]
  simp [Action.run,accepted,acted,State.note]

end Builtin

/-- Between two elements only an action is run, and the seed is set. -/
structure Resumes (rule start : Nat) (v w : State) : Prop where
  memo : w.memo = v.memo
  context : w.context = v.context
  active : w.active = v.active
  trace : ∃ action stop, w.trace = .invoked rule action start stop :: v.trace

theorem Resumes.of_setSeed (seed : Option Matched)
    (set : setSeed seed (v.note (.invoked rule action start stop)) = (result,w)) : Resumes rule start v w := by
  obtain rfl : w = (setSeed seed (v.note (.invoked rule action start stop))).2 := (congrArg Prod.snd set).symm
  refine ⟨setSeed_memo _ _,?_,setSeed_active _ _,action,stop,?_⟩
  · rw [setSeed_state]
    rfl
  · rw [setSeed_state]
    rfl

/-- One element after the other is matched, each where the last one ended, until one fails or takes
no token. -/
inductive Collects (find : Nat → Matching (Option Matched)) (rule start : Nat) :
    Nat → State → List Value → Nat → State → Prop
  | ended : find pos s = (.ok found,u) → (∀ m ∈ found, m.stop ≤ pos) → Collects find rule start pos s [] pos u
  | item : find pos s = (.ok (some m),v) → pos < m.stop → Resumes rule start v w →
      Collects find rule start m.stop w items stop u → Collects find rule start pos s (m.value :: items) stop u

section Loop

variable {t : Task} {I : Option Abort → State → Prop} {around : List (Nat × Nat)}
variable {call : Fin t.grammar.rules.length → Nat → Matching (Option Matched)}
variable {rule : Fin t.grammar.rules.length} {start : Nat}

theorem matchSequence_single (ran : matchSequence t call rule [symbol] pos s = (.ok found,u)) :
    ∃ first, matchSymbol t call rule symbol pos s = (.ok first,u) ∧ found = first.map fun m => ([m.value],m.stop) := by
  obtain ⟨first,v,matched,ended⟩ := bind_eq_ok ran
  cases first with
  | none =>
    obtain ⟨rfl,rfl⟩ := pure_eq_ok ended
    exact ⟨none,matched,rfl⟩
  | some m =>
    obtain ⟨rfl,rfl⟩ := pure_eq_ok (show (pure (some ([m.value],m.stop)) : Matching _) v = _ from ended)
    exact ⟨some m,matched,rfl⟩

/-- A round over the alternative that appends an element. -/
theorem growOnce_append (append : t.grammar.action? Builtin.appendName = some (.builtin .append))
    (ran : growOnce t call rule start ⟨.list items,pos⟩
      [{ symbols := [name,element], action := Builtin.appendName }] none s = (.ok next,u)) :
    ∃ found v, matchSymbol t call rule element pos s = (.ok found,v) ∧
      ((next = none ∧ u = v ∧ ∀ m ∈ found, m.stop ≤ pos) ∨
        ∃ m, found = some m ∧ pos < m.stop ∧ next = some ⟨.list (items ++ [m.value]),m.stop⟩ ∧
          u = v.note (.invoked rule Builtin.appendName start m.stop)) := by
  obtain ⟨more,v,matched,ended⟩ := bind_eq_ok ran
  obtain ⟨found,here,rfl⟩ := matchSequence_single matched
  refine ⟨found,v,here,?_⟩
  cases found with
  | none =>
    obtain ⟨rfl,rfl⟩ := pure_eq_ok (show (pure none : Matching _) v = _ from ended)
    exact .inl ⟨rfl,rfl,by simp⟩
  | some m =>
    dsimp only [Option.map_some] at ended
    split at ended
    · rename_i short
      obtain ⟨rfl,rfl⟩ := pure_eq_ok (show (pure none : Matching _) v = _ from ended)
      refine .inl ⟨rfl,rfl,fun m' member => ?_⟩
      obtain rfl := Option.some.inj member
      exact short
    · rename_i further
      obtain ⟨accepted,w,invoked,ended⟩ := bind_eq_ok ended
      rw [invoke_builtin append rfl] at invoked
      cases invoked
      obtain ⟨rfl,rfl⟩ := pure_eq_ok (show (pure (some _) : Matching _) _ = _ from ended)
      exact .inr ⟨m,rfl,by simpa using further,rfl,rfl⟩

theorem matchAlternatives_empty (empty : t.grammar.action? Builtin.emptyName = some (.builtin .empty)) (s : State) :
    matchAlternatives t call rule start [{ symbols := [], action := Builtin.emptyName }] s =
      (.ok (some ⟨.list [],start⟩),s.note (.invoked rule Builtin.emptyName start start)) := by
  rw [matchAlternatives,Matching.bind_run,matchSequence,Matching.pure_run]
  dsimp only
  rw [Matching.bind_run,invoke_builtin empty rfl]
  rfl

theorem matchAlternatives_single (single : t.grammar.action? Builtin.singleName = some (.builtin .single))
    (ran : matchAlternatives t call rule start [{ symbols := [element], action := Builtin.singleName }] s =
      (.ok outcome,u)) :
    ∃ found v, matchSymbol t call rule element start s = (.ok found,v) ∧
      ((found = none ∧ outcome = none ∧ u = v) ∨
        ∃ m, found = some m ∧ outcome = some ⟨.list [m.value],m.stop⟩ ∧
          u = v.note (.invoked rule Builtin.singleName start m.stop)) := by
  obtain ⟨more,v,matched,ended⟩ := bind_eq_ok ran
  obtain ⟨found,here,rfl⟩ := matchSequence_single matched
  refine ⟨found,v,here,?_⟩
  cases found with
  | none =>
    obtain ⟨rfl,rfl⟩ := pure_eq_ok (show (pure none : Matching _) v = _ from ended)
    exact .inl ⟨rfl,rfl,rfl⟩
  | some m =>
    obtain ⟨accepted,w,invoked,ended⟩ := bind_eq_ok ended
    rw [invoke_builtin single rfl] at invoked
    cases invoked
    obtain ⟨rfl,rfl⟩ := pure_eq_ok (show (pure (some _) : Matching _) _ = _ from ended)
    exact .inr ⟨m,rfl,rfl,rfl⟩

variable (upkeep : Upkeep t I) (inside : (Regime.upheld t I).Inside t call rule start around)

include upkeep inside

/-- Rounds of growth append the elements they match. Without room for another round there is no
token left to match. -/
theorem grow_collects (append : t.grammar.action? Builtin.appendName = some (.builtin .append))
    (room rounds : Nat) (within : pos ≤ t.lexemes.size) (wide : t.lexemes.size ≤ pos + room)
    (upheld : Upheld t I none s) (active : s.active = around)
    (ran : grow t call rule start [{ symbols := [name,element], action := Builtin.appendName }] room rounds
      ⟨.list items,pos⟩ s = (.ok (rounds',last),u)) :
    ∃ more stop, Collects (matchSymbol t call rule element) rule start pos s more stop u ∧
      last = ⟨.list (items ++ more),stop⟩ := by
  have elements {pos : Nat} (within : pos ≤ t.lexemes.size) :
      (Regime.upheld t I).Runs around (matchSymbol t call rule element pos) (Within t) :=
    inside.matchSymbol_runs trivial within
  induction room generalizing rounds pos items s with
  | zero =>
    obtain ⟨next,v,round,ended⟩ := bind_eq_ok ran
    cases ended
    obtain ⟨found,w,matched,⟨_,rfl,short⟩ | ⟨m,rfl,further,_⟩⟩ := growOnce_append append round
    · exact ⟨[],pos,.ended matched short,by simp⟩
    · have reached : m.stop ≤ t.lexemes.size := ((elements within).of_eq_ok upheld active matched).2.2.2 m rfl
      omega
  | succ room ih =>
    obtain ⟨next,v,round,ran'⟩ := bind_eq_ok ran
    have runs := inside.growOnce_runs [{ symbols := [name,element], action := Builtin.appendName }]
      (m := ⟨.list items,pos⟩) within (fun _ _ => upheld_allows) none nofun
    obtain ⟨_,upheld',active',_⟩ := runs.of_eq_ok upheld active round
    obtain ⟨found,w,matched,⟨rfl,rfl,short⟩ | ⟨m,rfl,further,rfl,rfl⟩⟩ := growOnce_append append round
    · cases ran'
      exact ⟨[],pos,.ended matched short,by simp⟩
    · obtain ⟨_,x,set,ran'⟩ := bind_eq_ok ran'
      have reached : m.stop ≤ t.lexemes.size := ((elements within).of_eq_ok upheld active matched).2.2.2 m rfl
      have longer : Within t (some ⟨.list (items ++ [m.value]),m.stop⟩) := .some reached
      obtain ⟨_,upheld'',active'',_⟩ := (upkeep.setSeed_runs longer).of_eq_ok upheld' active' set
      obtain ⟨more,stop,collects,rfl⟩ := ih (rounds + 1) reached (by omega) upheld'' active'' ran'
      exact ⟨m.value :: more,stop,.item matched further (.of_setSeed _ set) collects,by simp⟩

/-- Growing the seed of a repetition, once its first alternative has matched. -/
theorem growSeed_collects (append : t.grammar.action? Builtin.appendName = some (.builtin .append))
    (recursive : (t.grammar.ruleAt rule).recursive = [{ symbols := [name,element], action := Builtin.appendName }])
    (first : matchAlternatives t call rule start (t.grammar.ruleAt rule).seeds s =
      (.ok (some ⟨.list items,pos⟩),v.note (.invoked rule action start pos)))
    (within : start ≤ t.lexemes.size) (upheld : Upheld t I none s) (active : s.active = around)
    (ran : growSeed t call rule start s = (.ok outcome,u)) :
    ∃ w more stop x, Resumes rule start v w ∧
      Collects (matchSymbol t call rule element) rule start pos w more stop x ∧ w.trace <:+ x.trace ∧
      x.trace <:+ u.trace ∧ outcome = some ⟨.list (items ++ more),stop⟩ := by
  obtain ⟨seed,v',matched,ran'⟩ := bind_eq_ok ran
  obtain ⟨_,upheld',active',reached⟩ :=
    (inside.matchAlternatives_runs _ within fun _ _ => upheld_allows).of_eq_ok upheld active matched
  rw [first] at matched
  cases matched
  obtain ⟨_,w,set,ran'⟩ := bind_eq_ok ran'
  obtain ⟨_,upheld'',active'',_⟩ := (upkeep.setSeed_runs reached).of_eq_ok upheld' active' set
  obtain ⟨⟨rounds,last⟩,x,fold,ended⟩ := bind_eq_ok ran'
  obtain ⟨_,y,noted,ended⟩ := bind_eq_ok ended
  obtain ⟨_,z,unset,ended⟩ := bind_eq_ok ended
  obtain ⟨rfl,rfl⟩ := pure_eq_ok ended
  have runs := inside.grow_runs (fun _ => upkeep.setSeed_runs) (t.grammar.ruleAt rule).recursive
    (fun _ _ _ _ => upheld_allows) (t.lexemes.size - pos) 0 (reached _ rfl)
  have going := (runs.of_eq_ok upheld'' active'' fold).1
  rw [recursive] at fold
  obtain ⟨more,stop,collects,rfl⟩ := grow_collects upkeep inside append _ 0 (reached _ rfl) (by dsimp only; omega)
    upheld'' active'' fold
  have told := note_grows (.grew rule start rounds stop) x
  have told' := setSeed_grows none y
  rw [unset] at told'
  rw [noted] at told
  exact ⟨w,more,stop,x,.of_setSeed _ set,collects,going,told.trace.trans told'.trace,rfl⟩

end Loop

section Token

variable {t : Task} {call : Fin t.grammar.rules.length → Nat → Matching (Option Matched)}
variable {rule : Fin t.grammar.rules.length}

def stretch (lexemes : List Lexeme) (kind : String) (pos : Nat) : List Lexeme :=
  (lexemes.drop pos).takeWhile (·.kind == kind)

theorem stretch_eq_nil {lexemes : List Lexeme} (other : ∀ l, lexemes[pos]? = some l → l.kind ≠ kind) :
    stretch lexemes kind pos = [] := by
  unfold stretch
  cases there : lexemes[pos]? with
  | none => rw [List.drop_eq_nil_of_le (List.getElem?_eq_none_iff.mp there),List.takeWhile_nil]
  | some l =>
    obtain ⟨inside,rfl⟩ := List.getElem?_eq_some_iff.mp there
    rw [List.drop_eq_getElem_cons inside,List.takeWhile_cons_of_neg (by simpa using other _ there)]

theorem stretch_cons {lexemes : List Lexeme} (there : lexemes[pos]? = some l) (same : l.kind = kind) :
    stretch lexemes kind pos = l :: stretch lexemes kind (pos + 1) := by
  obtain ⟨inside,rfl⟩ := List.getElem?_eq_some_iff.mp there
  unfold stretch
  rw [List.drop_eq_getElem_cons inside,List.takeWhile_cons_of_pos (by simpa using same)]

/-- A repetition of a token takes the whole stretch. -/
theorem Collects.token (resolved : t.grammar.resolve element = some (.token k))
    (collects : Collects (matchSymbol t call rule element) rule start pos s items stop u) :
    items = (stretch t.lexemes.toList element pos).map (.str ·.text) ∧
      stop = pos + (stretch t.lexemes.toList element pos).length := by
  induction collects with
  | @ended pos s found u ran short =>
    have same := matchSymbol_token resolved ran
    have nothing : stretch t.lexemes.toList element pos = [] := by
      refine stretch_eq_nil fun l there kind => ?_
      rw [Array.getElem?_toList] at there
      rw [there,Option.bind_some,if_pos kind] at same
      have := short _ same
      dsimp only at this
      omega
    simp [nothing]
  | @item pos s m v w items stop u ran further _ _ ih =>
    have same := matchSymbol_token resolved ran
    cases there : t.lexemes[pos]? with
    | none =>
      rw [there] at same
      cases same
    | some l =>
      rw [there,Option.bind_some] at same
      split at same
      · rename_i kind
        cases same
        rw [stretch_cons (by rw [Array.getElem?_toList]; exact there) kind]
        obtain ⟨rfl,rfl⟩ := ih
        refine ⟨rfl,?_⟩
        rw [List.length_cons]
        dsimp only
        omega
      · cases same

end Token

/-- A call of a rule that is not open at the position finds its outcome or settles it. -/
theorem matchRule_closed {t : Task} {rule : Fin t.grammar.rules.length} (closed : ((rule : Nat),pos) ∉ s.active)
    (ran : matchRule t levels rule pos s = (.ok outcome,u)) :
    u.trace.head? = some (.recalled rule pos outcome) ∨ ∃ kept, u.trace.head? = some (.settled rule pos outcome kept) := by
  rcases matchRule_cases ran with ⟨known,_,_,eq,rfl⟩ | ⟨seed,stack,found,_,_⟩ | ⟨_,_,attempted⟩
  · obtain rfl := Except.ok.inj eq
    exact .inl rfl
  · rw [(markInside_eq_none s.stack).mpr closed] at found
    cases found
  rcases attempt_cases attempted with ⟨_,_,deep⟩ | ⟨above,inner,frame,outer,rfl,inside,stack,_,rfl⟩
  · cases deep
  · rw [State.leave_ok inner rule pos outcome stack]
    exact .inr ⟨_,rfl⟩

section Outcome

variable {t : Task} {I : Option Abort → State → Prop} {rule : Fin t.grammar.rules.length}

theorem Tried.zeroOrMore (upkeep : Upkeep t I) (unshadowed : t.grammar.Unshadowed)
    (introduces : Grammar.Introduces (·.zeroOrMore name element) name (t.grammar.ruleAt rule))
    (tried : Tried t I levels rule pos s (.ok outcome) u) :
    ∃ w items stop x, Resumes rule pos (s.enter rule pos) w ∧
      Collects (matchSymbol t (matchRule t levels) rule element) rule pos pos w items stop x ∧
      x.trace <:+ u.trace ∧ outcome = some ⟨.list items,stop⟩ := by
  obtain ⟨recursive,seeds,rest⟩ := introduces.zeroOrMore
  have first : matchAlternatives t (matchRule t levels) rule pos (t.grammar.ruleAt rule).seeds (s.enter rule pos) =
      (.ok (some ⟨.list [],pos⟩),(s.enter rule pos).note (.invoked rule Builtin.emptyName pos pos)) := by
    rw [seeds]
    exact matchAlternatives_empty unshadowed.empty _
  obtain ⟨w,items,stop,x,resumes,collects,_,past,rfl⟩ := growSeed_collects upkeep
    (upkeep.inside levels tried.inside) unshadowed.append rest first tried.within (tried.entered upkeep) rfl
    (tried.growSeed_eq recursive)
  exact ⟨w,items,stop,x,resumes,collects,past,rfl⟩

theorem Tried.oneOrMore (upkeep : Upkeep t I) (unshadowed : t.grammar.Unshadowed)
    (introduces : Grammar.Introduces (·.oneOrMore name element) name (t.grammar.ruleAt rule)) (differ : element ≠ name)
    (tried : Tried t I levels rule pos s (.ok outcome) u) :
    ∃ found v, matchSymbol t (matchRule t levels) rule element pos (s.enter rule pos) = (.ok found,v) ∧
      v.trace <:+ u.trace ∧ (found = none → outcome = none) ∧
      ∀ m ∈ found, ∃ w items stop x, Resumes rule pos v w ∧
        Collects (matchSymbol t (matchRule t levels) rule element) rule pos m.stop w items stop x ∧
        x.trace <:+ u.trace ∧ outcome = some ⟨.list (m.value :: items),stop⟩ := by
  obtain ⟨recursive,seeds,rest⟩ := introduces.oneOrMore differ
  have grown := tried.growSeed_eq recursive
  obtain ⟨seed,v',matched,ran⟩ := bind_eq_ok grown
  have first := matched
  rw [seeds] at first
  obtain ⟨found,v,here,⟨rfl,rfl,rfl⟩ | ⟨m,rfl,rfl,rfl⟩⟩ := matchAlternatives_single unshadowed.single first
  · cases ran
    exact ⟨none,_,here,List.suffix_refl _,fun _ => rfl,fun _ member => nomatch member⟩
  · obtain ⟨w,items,stop,x,resumes,collects,going,past,rfl⟩ := growSeed_collects upkeep
      (upkeep.inside levels tried.inside) unshadowed.append rest matched tried.within (tried.entered upkeep) rfl grown
    obtain ⟨_,_,trace⟩ := resumes.trace
    have before : v.trace <:+ w.trace := trace ▸ List.suffix_cons _ _
    refine ⟨some m,v,here,before.trans (going.trans past),nofun,fun m' member => ?_⟩
    obtain rfl := Option.some.inj member
    exact ⟨w,items,stop,x,resumes,collects,past,rfl⟩

end Outcome

end Match

namespace Grammar

open Match in
/-- A rule made by one call of zero or more, or of one or more, elements is a greedy loop, whatever the
elements and the actions are. Called where it is not open, it matches one element after the other
from where the last one ended, until one fails or takes no token, and its value is the list of
theirs. The first of one or more elements is required, and kept even if it takes no token. -/
theorem parse_repeats (g : Grammar) (lexemes : List Lexeme) (functions : Functions) (config : Config)
    (unshadowed : g.Unshadowed) (rule : Fin g.rules.length) (name element : String) :
    let t := g.task lexemes functions config
    let find := fun levels => matchSymbol t (matchRule t levels) rule element
    (∀ levels pos s outcome u, ((rule : Nat),pos) ∉ s.active → matchRule t levels rule pos s = (.ok outcome,u) →
      u.trace.head? = some (.recalled rule pos outcome) ∨
        ∃ kept, u.trace.head? = some (.settled rule pos outcome kept)) ∧
    ∀ context start pos outcome,
      let trace := (matchRule t config.maxDepth start 0 { context }).2.trace
      (.recalled (rule : Nat) pos outcome ∈ trace ∨ ∃ kept, .settled (rule : Nat) pos outcome kept ∈ trace) →
      (Introduces (·.zeroOrMore name element) name (g.ruleAt rule) →
        ∃ levels s u w items stop x, Tried t Recorded levels rule pos s (.ok outcome) u ∧ u.trace <:+ trace ∧
          Resumes rule pos (s.enter rule pos) w ∧ Collects (find levels) rule pos pos w items stop x ∧
          x.trace <:+ u.trace ∧ outcome = some ⟨.list items,stop⟩ ∧
          ∀ k, g.resolve element = some (.token k) →
            items = (stretch lexemes element pos).map (.str ·.text) ∧ stop = pos + (stretch lexemes element pos).length) ∧
      (Introduces (·.oneOrMore name element) name (g.ruleAt rule) → element ≠ name →
        ∃ levels s u found v, Tried t Recorded levels rule pos s (.ok outcome) u ∧ u.trace <:+ trace ∧
          find levels pos (s.enter rule pos) = (.ok found,v) ∧ v.trace <:+ u.trace ∧ (found = none → outcome = none) ∧
          ∀ m ∈ found, ∃ w items stop x, Resumes rule pos v w ∧
            Collects (find levels) rule pos m.stop w items stop x ∧ x.trace <:+ u.trace ∧
            outcome = some ⟨.list (m.value :: items),stop⟩) := by
  intro t find
  have upkeep : Upkeep t Recorded := Recorded.upkeep t rfl
  refine ⟨fun levels pos s outcome u closed ran => matchRule_closed closed ran,?_⟩
  intro context start pos outcome trace answered
  obtain ⟨upheld,came⟩ := upkeep.parse (.start context) config.maxDepth start
  obtain ⟨kept,settled⟩ : ∃ kept, .settled (rule : Nat) pos outcome kept ∈ trace := by
    rcases answered with recalled | settled
    · obtain ⟨later,past,split⟩ := List.append_of_mem recalled
      have follows : Follows past (.recalled rule pos outcome) :=
        (upheld.holds.chronicle.of_suffix ⟨later,split.symm⟩).1
      exact ⟨true,by rw [split]; exact List.mem_append_right _ (List.mem_cons_of_mem _ follows)⟩
    · exact settled
  obtain ⟨levels,s,u,tried,past⟩ := came rule pos outcome kept settled
  refine ⟨fun introduces => ?_,fun introduces differ => ?_⟩
  · obtain ⟨w,items,stop,x,resumes,collects,before,rfl⟩ := tried.zeroOrMore upkeep unshadowed introduces
    exact ⟨levels,s,u,w,items,stop,x,tried,past,resumes,collects,before,rfl,fun k resolved => collects.token resolved⟩
  · obtain ⟨found,v,ran,before,failed,repeated⟩ := tried.oneOrMore upkeep unshadowed introduces differ
    exact ⟨levels,s,u,found,v,tried,past,ran,before,failed,repeated⟩

/-- One or more lists of any length; where the first one ends, another one would be empty. -/
def nested : Grammar where
  tokens := [⟨"X","x",0,.pattern,none,none,.set (.ofChars ['x']),none,none⟩]
  rules := [⟨"xs",[⟨[],"$empty",0,.none⟩,⟨["xs","X"],"$append",0,.none⟩]⟩,
    ⟨"all",[⟨["xs"],"$single",0,.none⟩,⟨["all","xs"],"$append",0,.none⟩]⟩]

namespace nested

def lexemes : List Lexeme := [⟨"X","x",0,1⟩,⟨"X","x",1,2⟩]

def t : Match.Task := nested.task lexemes {} {}

def xs : Fin nested.rules.length := ⟨0,by decide⟩

def all : Fin nested.rules.length := ⟨1,by decide⟩

def run : Option Matched := some ⟨.list [.str "x",.str "x"],2⟩

def runs : Option Matched := some ⟨.list [.list [.str "x",.str "x"]],2⟩

open Match

theorem xs_run : matchRule t ({} : Config).maxDepth xs 0 {} =
    (.ok run,(matchRule t ({} : Config).maxDepth xs 0 {}).2) :=
  Prod.fst_eq_iff.mp (by rfl)

-- Equality of values is not decided, as they may be floats; what their parts are is.
theorem all_run : matchRule t ({} : Config).maxDepth all 0 {} =
    (.ok runs,(matchRule t ({} : Config).maxDepth all 0 {}).2) := by
  have ended : (matchRule t ({} : Config).maxDepth all 0 {}).1.toOption.join.map (·.stop) = some 2 := by decide +kernel
  have items : ((matchRule t ({} : Config).maxDepth all 0 {}).1.toOption.join.bind (·.value.list?)).map
      (·.map fun item => item.list?.map (·.map Value.str?)) = some [some [some "x",some "x"]] := by decide +kernel
  refine Prod.fst_eq_iff.mp ?_
  rcases ran : (matchRule t ({} : Config).maxDepth all 0 {}).1 with e | _ | m
  all_goals rw [ran] at ended items
  · cases ended
  · cases ended
  · obtain ⟨value,stop⟩ := m
    simp [Except.toOption,List.map_eq_cons_iff,Value.list?_eq_some,Value.str?_eq_some] at ended items
    rw [ended,items]
    rfl

end nested

open Match in
theorem parse_repeats_nested :
    nested.Unshadowed ∧ Introduces (·.zeroOrMore "xs" "X") "xs" (nested.ruleAt nested.xs) ∧
    Introduces (·.oneOrMore "all" "xs") "all" (nested.ruleAt nested.all) ∧
    (∃ levels s u w items stop x, Tried nested.t Recorded levels nested.xs 0 s (.ok nested.run) u ∧
      Collects (matchSymbol nested.t (matchRule nested.t levels) nested.xs "X") 0 0 0 w items stop x ∧
      nested.run = some ⟨.list items,stop⟩ ∧ items = (stretch nested.lexemes "X" 0).map (.str ·.text)) ∧
    ∃ levels s u found v, Tried nested.t Recorded levels nested.all 0 s (.ok nested.runs) u ∧
      matchSymbol nested.t (matchRule nested.t levels) nested.all "xs" 0 (s.enter 1 0) = (.ok found,v) ∧
      ∀ m ∈ found, ∃ w items stop x, Resumes 1 0 v w ∧
        Collects (matchSymbol nested.t (matchRule nested.t levels) nested.all "xs") 1 0 m.stop w items stop x ∧
        nested.runs = some ⟨.list (m.value :: items),stop⟩ := by
  have unshadowed : nested.Unshadowed := fun _ _ => rfl
  have zero : Introduces (·.zeroOrMore "xs" "X") "xs" (nested.ruleAt nested.xs) :=
    ⟨{ tokens := nested.tokens },{ tokens := nested.tokens, rules := [nested.ruleAt nested.xs] },rfl,rfl,rfl⟩
  have one : Introduces (·.oneOrMore "all" "xs") "all" (nested.ruleAt nested.all) :=
    ⟨{ tokens := nested.tokens },{ tokens := nested.tokens, rules := [nested.ruleAt nested.all] },rfl,rfl,rfl⟩
  -- Neither rule is open at first, so that the last event tells what it comes to.
  have told {trace : List Event} {rule : Nat} {outcome : Option Matched}
      (head : trace.head? = some (.recalled rule 0 outcome) ∨ ∃ kept, trace.head? = some (.settled rule 0 outcome kept)) :
      .recalled rule 0 outcome ∈ trace ∨ ∃ kept, .settled rule 0 outcome kept ∈ trace :=
    head.imp List.mem_of_mem_head? fun ⟨kept,settled⟩ => ⟨kept,List.mem_of_mem_head? settled⟩
  obtain ⟨closed,items⟩ := parse_repeats nested nested.lexemes {} {} unshadowed nested.xs "xs" "X"
  obtain ⟨levels,s,u,w,more,stop,x,tried,_,_,collects,_,same,run⟩ :=
    (items {} nested.xs 0 nested.run (told (closed _ 0 {} _ _ (by decide) nested.xs_run))).1 zero
  obtain ⟨closed',lists⟩ := parse_repeats nested nested.lexemes {} {} unshadowed nested.all "all" "xs"
  obtain ⟨levels',s',u',found,v,tried',_,first,_,_,rest⟩ :=
    (lists {} nested.all 0 nested.runs (told (closed' _ 0 {} _ _ (by decide) nested.all_run))).2 one (by decide)
  refine ⟨unshadowed,zero,one,?_,levels',s',u',found,v,tried',first,?_⟩
  · exact ⟨levels,s,u,w,more,stop,x,tried,collects,same,(run ⟨0,by decide⟩ rfl).1⟩
  · intro m member
    obtain ⟨w,items,stop,x,resumes,collects,_,same⟩ := rest m member
    exact ⟨w,items,stop,x,resumes,collects,same⟩

end Grammar

end Packrat
