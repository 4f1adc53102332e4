import Packrat.Proofs.Chronicle

/-! Left recursion is a left fold. Where no match is re-entered, every call comes to what the table
tells in the end. By the table, a left-recursive rule takes its first seed, and from then on, round
by round, the first of its longest continuations, until none is left. -/
namespace Packrat

namespace Match

section Table

variable (t : Task) (memo : Memo)

def symbolMatch? (symbol : String) (pos : Nat) : Option (Option Matched) :=
  match t.grammar.resolve symbol with
  | some (.token _) => some (t.lexemes[pos]?.bind fun l => if l.kind = symbol then some ⟨.str l.text,pos + 1⟩ else none)
  | some (.rule i) => memo.get? i pos
  | none => none

def sequenceMatch? : (symbols : List String) → (pos : Nat) → Option (Option (List Value × Nat))
  | [],pos => some (some ([],pos))
  | symbol :: rest,pos =>
    match symbolMatch? t memo symbol pos with
    | none => none
    | some none => some none
    | some (some first) => (sequenceMatch? rest first.stop).map
        (Option.map fun (values,stop) => (first.value :: values,stop))

def Accepts (action : String) (symbols : List String) (pos : Nat) (before : List Value) (m : Matched) : Prop :=
  ∃ values, sequenceMatch? t memo symbols pos = some (some (values,m.stop)) ∧
    t.evaluate action (before ++ values) = some m.value

/-- Symbols do not match at a position, or end too early, or the action does not accept. -/
def Refuses (action : String) (symbols : List String) (pos : Nat) (before : List Value) (least : Nat) : Prop :=
  ∃ found, sequenceMatch? t memo symbols pos = some found ∧
    ∀ values stop, found = some (values,stop) → least ≤ stop → t.evaluate action (before ++ values) = none

def Exhausted (seed : Matched) (alternatives : List Alternative) (least : Nat) : Prop :=
  ∀ b ∈ alternatives, Refuses t memo b.action b.symbols.tail seed.stop [seed.value] least

def First (alternatives : List Alternative) (pos : Nat) (m : Matched) : Prop :=
  ∃ before a after, alternatives = before ++ a :: after ∧ Accepts t memo a.action a.symbols pos [] m ∧
    ∀ b ∈ before, Refuses t memo b.action b.symbols pos [] 0

def Tries (alternatives : List Alternative) (pos : Nat) (outcome : Option Matched) : Prop :=
  (outcome = none ∧ ∀ a ∈ alternatives, Refuses t memo a.action a.symbols pos [] 0) ∨
  ∃ m, outcome = some m ∧ First t memo alternatives pos m

/-- The longest continuation of the seed, of equally long ones the first. -/
def Continues (alternatives : List Alternative) (seed next : Matched) : Prop :=
  ∃ before a after, alternatives = before ++ a :: after ∧
    Accepts t memo a.action a.symbols.tail seed.stop [seed.value] next ∧
    Exhausted t memo seed before next.stop ∧ Exhausted t memo seed after (next.stop + 1)

/-- What the alternatives come to in a round: nothing longer than the best so far, or the first of the
longest. -/
def Betters (alternatives : List Alternative) (seed : Matched) (best next : Option Matched) : Prop :=
  (next = best ∧ Exhausted t memo seed alternatives ((best.getD seed).stop + 1)) ∨
  ∃ m, next = some m ∧ (best.getD seed).stop < m.stop ∧ Continues t memo alternatives seed m

inductive Grown (alternatives : List Alternative) : Matched → Nat → Matched → Prop
  | here : Grown alternatives m 0 m
  | round : Continues t memo alternatives m next → m.stop < next.stop → Grown alternatives next k last →
      Grown alternatives m (k + 1) last

structure Folds (r : Rule) (pos : Nat) (outcome : Option Matched) : Prop where
  refused : outcome = none ↔ ∀ a ∈ r.seeds, Refuses t memo a.action a.symbols pos [] 0
  grown : ∀ last ∈ outcome, ∃ first rounds, First t memo r.seeds pos first ∧
    Grown t memo r.recursive first rounds last ∧ Exhausted t memo last r.recursive (last.stop + 1) ∧
    first.stop + rounds ≤ t.lexemes.size

end Table

section Table

variable {t : Task} {memo : Memo}

theorem Refuses.mono (refuses : Refuses t memo action symbols pos before least) (le : least ≤ least') :
    Refuses t memo action symbols pos before least' := by
  obtain ⟨found,known,rejects⟩ := refuses
  exact ⟨found,known,fun values stop eq above => rejects values stop eq (Nat.le_trans le above)⟩

/-- What ends too early is refused. -/
theorem Refuses.short (known : sequenceMatch? t memo symbols pos = some (some (values,stop))) (short : stop < least) :
    Refuses t memo action symbols pos before least := by
  refine ⟨_,known,fun values' stop' eq above => ?_⟩
  obtain ⟨_,rfl⟩ := Prod.mk.inj (Option.some.inj eq)
  omega

theorem Refuses.unmatched (known : sequenceMatch? t memo symbols pos = some none) :
    Refuses t memo action symbols pos before least :=
  ⟨none,known,fun _ _ eq => nomatch eq⟩

theorem Refuses.rejected (known : sequenceMatch? t memo symbols pos = some (some (values,stop)))
    (rejected : t.evaluate action (before ++ values) = none) : Refuses t memo action symbols pos before least := by
  refine ⟨_,known,fun values' stop' eq _ => ?_⟩
  obtain ⟨rfl,_⟩ := Prod.mk.inj (Option.some.inj eq)
  exact rejected

theorem Accepts.not_refuses (accepts : Accepts t memo action symbols pos before m) (le : least ≤ m.stop) :
    ¬Refuses t memo action symbols pos before least := by
  rintro ⟨found,known,rejects⟩
  obtain ⟨values,known',accepted⟩ := accepts
  obtain rfl := Option.some.inj (known'.symm.trans known)
  rw [rejects values m.stop rfl le] at accepted
  cases accepted

theorem Exhausted.cons (refuses : Refuses t memo b.action b.symbols.tail seed.stop [seed.value] least)
    (rest : Exhausted t memo seed alternatives least) : Exhausted t memo seed (b :: alternatives) least :=
  List.forall_mem_cons.mpr ⟨refuses,rest⟩

theorem Tries.cons (tries : Tries t memo alternatives pos outcome) (refuses : Refuses t memo a.action a.symbols pos [] 0) :
    Tries t memo (a :: alternatives) pos outcome := by
  rcases tries with ⟨failed,all⟩ | ⟨m,found,before,a',after,rfl,accepts,earlier⟩
  · exact .inl ⟨failed,List.forall_mem_cons.mpr ⟨refuses,all⟩⟩
  · exact .inr ⟨m,found,a :: before,a',after,rfl,accepts,List.forall_mem_cons.mpr ⟨refuses,earlier⟩⟩

/-- An alternative is of no account if it ends no further than the best so far, or is rejected. -/
theorem Betters.cons (betters : Betters t memo alternatives seed best next)
    (refuses : Refuses t memo a.action a.symbols.tail seed.stop [seed.value] ((best.getD seed).stop + 1)) :
    Betters t memo (a :: alternatives) seed best next := by
  rcases betters with ⟨same,all⟩ | ⟨m,found,further,before,a',after,rfl,accepts,earlier,later⟩
  · exact .inl ⟨same,all.cons refuses⟩
  · exact .inr ⟨m,found,further,a :: before,a',after,rfl,accepts,earlier.cons (refuses.mono further),later⟩

/-- An alternative that ends further is the best from then on. -/
theorem Betters.accept (betters : Betters t memo alternatives seed (some m) next)
    (further : (best.getD seed).stop < m.stop)
    (accepts : Accepts t memo a.action a.symbols.tail seed.stop [seed.value] m) :
    Betters t memo (a :: alternatives) seed best next := by
  rcases betters with ⟨rfl,all⟩ | ⟨m',found,further',before,a',after,rfl,accepts',earlier,later⟩
  · exact .inr ⟨m,rfl,further,[],a,alternatives,rfl,accepts,fun _ member => (nomatch member),all⟩
  · obtain ⟨values,known,_⟩ := accepts
    exact .inr ⟨m',found,Nat.lt_trans further further',a :: before,a',after,rfl,accepts',
      earlier.cons (.short known further'),later⟩

/-- Each round takes a token more. -/
theorem Grown.le (grown : Grown t memo alternatives m k last) : m.stop + k ≤ last.stop := by
  induction grown with
  | here => omega
  | round _ longer _ ih => omega

end Table

/-- Inside a frame the table that is looked at tells what calls come to before the end of the trace. -/
structure Ledger (t : Task) (around : List (Nat × Nat))
    (call : Fin t.grammar.rules.length → Nat → Matching (Option Matched)) (rule : Fin t.grammar.rules.length)
    (start : Nat) (trace : List Event) (memo : Memo) : Prop where
  recalls : t.recalls = true
  valueOnly : t.ValueOnly
  inside : (Regime.upheld t Recorded).Inside t call rule start around
  tells : ∀ {i pos s outcome u}, Upheld t Recorded none s → call i pos s = (.ok outcome,u) → u.trace <:+ trace →
    pos ≤ t.lexemes.size → memo.get? i pos = some outcome

namespace Ledger

variable {t : Task} {around : List (Nat × Nat)} {trace : List Event} {memo : Memo}
variable {call : Fin t.grammar.rules.length → Nat → Matching (Option Matched)}
variable {rule : Fin t.grammar.rules.length} {start : Nat} (ledger : Ledger t around call rule start trace memo)

include ledger

theorem upkeep : Upkeep t Recorded := Recorded.upkeep t ledger.recalls

theorem matchSymbol_told (within : pos ≤ t.lexemes.size) (upheld : Upheld t Recorded none s)
    (ran : matchSymbol t call rule symbol pos s = (.ok found,u)) (suffix : u.trace <:+ trace) :
    symbolMatch? t memo symbol pos = some found := by
  cases resolved : t.grammar.resolve symbol with
  | none =>
    simp only [matchSymbol,resolved] at ran
    cases ran
  | some meaning =>
    cases meaning with
    | rule i =>
      simp only [matchSymbol,resolved] at ran
      simp only [symbolMatch?,resolved]
      exact ledger.tells upheld ran suffix within
    | token i => simp only [symbolMatch?,resolved,matchSymbol_token resolved ran]

theorem matchSequence_told (within : pos ≤ t.lexemes.size) (upheld : Upheld t Recorded none s) (active : s.active = around)
    (ran : matchSequence t call rule symbols pos s = (.ok found,u)) (suffix : u.trace <:+ trace) :
    sequenceMatch? t memo symbols pos = some found := by
  induction symbols generalizing pos s found u with
  | nil =>
    obtain ⟨rfl,_⟩ := pure_eq_ok ran
    rfl
  | cons symbol rest ih =>
    obtain ⟨first,v,matched,ran'⟩ := bind_eq_ok ran
    obtain ⟨_,upheld',active',reached⟩ := (ledger.inside.matchSymbol_runs trivial within).of_eq_ok upheld active matched
    cases first with
    | none =>
      obtain ⟨rfl,rfl⟩ := pure_eq_ok ran'
      simp [sequenceMatch?,ledger.matchSymbol_told within upheld matched suffix]
    | some first =>
      obtain ⟨more,w,ran',ended⟩ := bind_eq_ok ran'
      have within' := reached first rfl
      have runs := ledger.inside.matchSequence_runs rest (fun _ _ => trivial) within'
      have later := (runs.of_eq_ok upheld' active' ran').1
      have last : found = more.map (fun (values,stop) => (first.value :: values,stop)) ∧ u = w := by
        cases more <;> exact pure_eq_ok ended
      obtain ⟨rfl,rfl⟩ := last
      have here := ledger.matchSymbol_told within upheld matched (later.trans suffix)
      have there := ih within' upheld' active' ran' suffix
      simp [sequenceMatch?,here,there]

theorem matchAlternatives_told (within : start ≤ t.lexemes.size) (upheld : Upheld t Recorded none s)
    (active : s.active = around) (ran : matchAlternatives t call rule start alternatives s = (.ok outcome,u))
    (suffix : u.trace <:+ trace) : Tries t memo alternatives start outcome := by
  induction alternatives generalizing s with
  | nil =>
    obtain ⟨rfl,_⟩ := pure_eq_ok ran
    exact .inl ⟨rfl,by simp⟩
  | cons a rest ih =>
    obtain ⟨found,v,matched,ran'⟩ := bind_eq_ok ran
    obtain ⟨_,upheld',active',_⟩ :=
      (ledger.inside.matchSequence_runs a.symbols (fun _ _ => trivial) within).of_eq_ok upheld active matched
    have known (before : v.trace <:+ u.trace) := ledger.matchSequence_told within upheld active matched (before.trans suffix)
    have runs := ledger.inside.matchAlternatives_runs rest within fun _ _ => upheld_allows
    cases found with
    | none =>
      have later := (runs.of_eq_ok upheld' active' ran').1
      exact (ih upheld' active' ran').cons (.unmatched (known later))
    | some found =>
      obtain ⟨accepted,w,invoked,ran'⟩ := bind_eq_ok ran'
      obtain ⟨past,upheld'',active'',_⟩ :=
        (ledger.inside.invoke_runs a.action found.1 found.2).of_eq_ok upheld' active' invoked
      have value := invoke_evaluate ledger.valueOnly invoked
      cases accepted with
      | none =>
        have later := (runs.of_eq_ok upheld'' active'' ran').1
        exact (ih upheld'' active'' ran').cons (.rejected (known (past.trans later)) value.symm)
      | some accepted =>
        obtain ⟨rfl,rfl⟩ := pure_eq_ok ran'
        exact .inr ⟨_,rfl,[],a,rest,rfl,⟨found.1,known past,value.symm⟩,by simp⟩

theorem growOnce_told (seed : m.stop ≤ t.lexemes.size) (longer : Longer t m best) (upheld : Upheld t Recorded none s)
    (active : s.active = around) (ran : growOnce t call rule start m alternatives best s = (.ok next,u))
    (suffix : u.trace <:+ trace) : Betters t memo alternatives m best next := by
  induction alternatives generalizing s best with
  | nil =>
    obtain ⟨rfl,_⟩ := pure_eq_ok ran
    exact .inl ⟨rfl,fun _ member => nomatch member⟩
  | cons a rest ih =>
    obtain ⟨found,v,matched,ran'⟩ := bind_eq_ok ran
    obtain ⟨_,upheld',active',ended⟩ :=
      (ledger.inside.matchSequence_runs a.symbols.tail (fun _ _ => trivial) seed).of_eq_ok upheld active matched
    have known (before : v.trace <:+ u.trace) := ledger.matchSequence_told seed upheld active matched (before.trans suffix)
    have runs := ledger.inside.growOnce_runs rest seed fun _ _ => upheld_allows
    cases found with
    | none =>
      have later := ((runs best longer).of_eq_ok upheld' active' ran').1
      exact (ih longer upheld' active' ran').cons (.unmatched (known later))
    | some found =>
      dsimp only at ran'
      split at ran'
      · rename_i short
        have later := ((runs best longer).of_eq_ok upheld' active' ran').1
        exact (ih longer upheld' active' ran').cons (.short (known later) (by omega))
      · rename_i further
        obtain ⟨accepted,w,invoked,ran'⟩ := bind_eq_ok ran'
        obtain ⟨past,upheld'',active'',_⟩ :=
          (ledger.inside.invoke_runs a.action (m.value :: found.1) found.2).of_eq_ok upheld' active' invoked
        have value := invoke_evaluate ledger.valueOnly invoked
        cases accepted with
        | none =>
          have later := ((runs best longer).of_eq_ok upheld'' active'' ran').1
          exact (ih longer upheld'' active'' ran').cons (.rejected (known (past.trans later)) value.symm)
        | some accepted =>
          have reach := longer.le_getD
          have longer' : Longer t m (some ⟨accepted,found.2⟩) := by
            intro m' member
            obtain rfl := Option.some.inj member
            exact ⟨by dsimp only; omega,(ended _ _ rfl).at_stop⟩
          have later := ((runs _ longer').of_eq_ok upheld'' active'' ran').1
          exact (ih longer' upheld'' active'' ran').accept (by dsimp only; omega)
            ⟨found.1,known (past.trans later),value.symm⟩

theorem grow_runs (alternatives : List Alternative) (room rounds : Nat) (seed : m.stop ≤ t.lexemes.size) :
    (Regime.upheld t Recorded).Runs around (grow t call rule start alternatives room rounds m)
      fun last => last.2.stop ≤ t.lexemes.size :=
  ledger.inside.grow_runs (fun _ => ledger.upkeep.setSeed_runs) alternatives (fun _ _ _ _ => upheld_allows) room rounds
    seed

/-- The rounds of growth. Without room for another one the seed ends where the input does. -/
theorem grow_told (room rounds : Nat) (seed : m.stop ≤ t.lexemes.size) (wide : t.lexemes.size ≤ m.stop + room)
    (upheld : Upheld t Recorded none s) (active : s.active = around)
    (ran : grow t call rule start alternatives room rounds m s = (.ok (rounds',last),u)) (suffix : u.trace <:+ trace) :
    ∃ k, rounds' = rounds + k ∧ Grown t memo alternatives m k last ∧
      Exhausted t memo last alternatives (last.stop + 1) := by
  have runs {m : Matched} (seed : m.stop ≤ t.lexemes.size) :=
    ledger.inside.growOnce_runs alternatives seed (fun _ _ => upheld_allows) none nofun
  induction room generalizing rounds m s with
  | zero =>
    obtain ⟨next,v,matched,ended⟩ := bind_eq_ok ran
    cases ended
    rcases ledger.growOnce_told seed .none upheld active matched suffix with ⟨_,all⟩ | ⟨m',rfl,further,_⟩
    · exact ⟨0,rfl,.here,all⟩
    · obtain ⟨_,_,_,reached⟩ := (runs seed).of_eq_ok upheld active matched
      have inside : last.stop < m'.stop ∧ m'.stop ≤ t.lexemes.size := reached m' rfl
      simp only [Option.getD_none] at further
      omega
  | succ room ih =>
    obtain ⟨next,v,matched,ran'⟩ := bind_eq_ok ran
    obtain ⟨_,upheld',active',reached⟩ := (runs seed).of_eq_ok upheld active matched
    cases next with
    | none =>
      cases ran'
      rcases ledger.growOnce_told seed .none upheld active matched suffix with ⟨_,all⟩ | ⟨m',found,_⟩
      · exact ⟨0,rfl,.here,all⟩
      · cases found
    | some next =>
      obtain ⟨_,w,set,ran'⟩ := bind_eq_ok ran'
      obtain ⟨further,within⟩ : m.stop < next.stop ∧ next.stop ≤ t.lexemes.size := reached next rfl
      obtain ⟨past,upheld'',active'',_⟩ := (ledger.upkeep.setSeed_runs (.some within)).of_eq_ok upheld' active' set
      obtain ⟨later,_⟩ := (ledger.grow_runs alternatives room (rounds + 1) within).of_eq_ok upheld'' active'' ran'
      obtain ⟨k,rfl,chain,all⟩ := ih (rounds + 1) within (by omega) upheld'' active'' ran'
      have before : v.trace <:+ trace := past.trans (later.trans suffix)
      rcases ledger.growOnce_told seed .none upheld active matched before with ⟨ended,_⟩ | ⟨m',same,_,continues⟩
      · cases ended
      · obtain rfl := Option.some.inj same
        exact ⟨k + 1,by omega,.round continues further chain,all⟩

theorem growSeed_told (within : start ≤ t.lexemes.size) (upheld : Upheld t Recorded none s) (active : s.active = around)
    (ran : growSeed t call rule start s = (.ok outcome,u)) (suffix : u.trace <:+ trace) :
    Folds t memo (t.grammar.ruleAt rule) start outcome := by
  obtain ⟨seed,v,matched,ran'⟩ := bind_eq_ok ran
  obtain ⟨_,upheld',active',reached⟩ :=
    (ledger.inside.matchAlternatives_runs _ within fun _ _ => upheld_allows).of_eq_ok upheld active matched
  cases seed with
  | none =>
    cases ran'
    rcases ledger.matchAlternatives_told within upheld active matched suffix with ⟨_,all⟩ | ⟨m,found,_⟩
    · exact ⟨⟨fun _ => all,fun _ => rfl⟩,fun _ member => nomatch member⟩
    · cases found
  | some seed =>
    obtain ⟨_,w,set,ran'⟩ := bind_eq_ok ran'
    obtain ⟨past,upheld'',active'',_⟩ := (ledger.upkeep.setSeed_runs reached).of_eq_ok upheld' active' set
    obtain ⟨⟨rounds,last⟩,x,fold,ended⟩ := bind_eq_ok ran'
    have inside := reached seed rfl
    obtain ⟨later,upheld₃,active₃,short⟩ := (ledger.grow_runs _ _ 0 inside).of_eq_ok upheld'' active'' fold
    obtain ⟨_,y,noted,ended⟩ := bind_eq_ok ended
    obtain ⟨_,z,unset,ended⟩ := bind_eq_ok ended
    obtain ⟨rfl,rfl⟩ := pure_eq_ok ended
    have own : (Event.grew rule start rounds last.stop).Own rule start := ⟨rfl,rfl⟩
    obtain ⟨told,upheld₄,active₄,_⟩ := (ledger.inside.note_runs own).of_eq_ok upheld₃ active₃ noted
    obtain ⟨told',_⟩ := (ledger.upkeep.setSeed_runs .none).of_eq_ok upheld₄ active₄ unset
    have whole : x.trace <:+ trace := told.trans (told'.trans suffix)
    obtain ⟨k,_,chain,all⟩ := ledger.grow_told _ 0 inside (by omega) upheld'' active'' fold whole
    have before : v.trace <:+ trace := past.trans (later.trans whole)
    rcases ledger.matchAlternatives_told within upheld active matched before with ⟨failed,_⟩ | ⟨m,same,first⟩
    · cases failed
    obtain rfl := Option.some.inj same
    refine ⟨⟨nofun,fun all => ?_⟩,fun last' member => ?_⟩
    · obtain ⟨before,a,after,split,accepts,_⟩ := first
      exact absurd (all a (by rw [split]; simp)) (accepts.not_refuses (Nat.zero_le _))
    · obtain rfl := Option.some.inj member
      exact ⟨seed,k,first,chain,all,Nat.le_trans chain.le short⟩

end Ledger

/-- Without a re-entry every outcome is kept. -/
theorem matchRule_kept {t : Task} {rule : Fin t.grammar.rules.length} (calm : Calm u.trace)
    (ran : matchRule t levels rule pos s = (.ok outcome,u)) : u.memo.get? rule pos = some outcome := by
  rcases matchRule_cases ran with ⟨known,_,memo,eq,rfl⟩ | ⟨seed,stack,_,_,rfl⟩ | ⟨_,_,attempted⟩
  · obtain rfl := Except.ok.inj eq
    exact memo
  · exact absurd List.mem_cons_self (calm rule pos seed)
  rcases attempt_cases attempted with ⟨_,_,deep⟩ | ⟨above,inner,frame,outer,rfl,inside,stack,_,rfl⟩
  · cases deep
  have grown := matchBody_grows t above rule pos (s.enter rule pos)
  rw [inside] at grown
  have free := grown.free (calm.of_suffix (leave_trace inner rule pos _)) stack
  rw [State.leave_ok inner rule pos outcome stack]
  simp [free,get?_record]

section Parse

variable {t : Task} {final : State}

/-- The table in the end tells what every call on the way came to. -/
theorem Ledger.of_run {rule : Fin t.grammar.rules.length} (recalls : t.recalls = true) (valueOnly : t.ValueOnly)
    (upheld : Upheld t Recorded a final) (calm : Calm final.trace)
    (innermost : around.head? = some ((rule : Nat),start)) :
    Ledger t around (matchRule t levels) rule start final.trace final.memo where
  recalls := recalls
  valueOnly := valueOnly
  inside := (Recorded.upkeep t recalls).inside levels innermost
  tells := by
    intro i pos s outcome u upheld' ran suffix within
    have after := (Recorded.call recalls levels i pos within s upheld').1
    rw [ran] at after
    exact after.holds.known upheld.holds suffix (matchRule_kept (calm.of_suffix suffix) ran)

/-- All answers on the way are in the table. -/
theorem Recorded.answered (recorded : Recorded a final) (calm : Calm final.trace) (member : e ∈ final.trace)
    (answered : e.answer? = some (rule,pos,outcome)) : final.memo.get? rule pos = some outcome := by
  rw [recorded.table]
  obtain ⟨later,past,split⟩ := List.append_of_mem member
  have here : Follows past e := (recorded.chronicle.of_suffix ⟨later,split.symm⟩).1
  cases e with
  | recalled =>
    cases answered
    rw [split]
    exact List.mem_append_right _ (List.mem_cons_of_mem _ here)
  | reentered r p seed => exact absurd member (calm r p seed)
  | settled r p o kept =>
    cases answered
    cases kept with
    | true => exact member
    | false =>
      obtain ⟨inside,earlier,r,p,seed,eq,_,reentered,_⟩ := here.2 rfl
      refine absurd ?_ (calm r p seed)
      rw [split,eq]
      simp [reentered]
  | _ => cases answered

theorem growSeed_folds {rule : Fin t.grammar.rules.length} (recalls : t.recalls = true) (valueOnly : t.ValueOnly)
    (upheld : Upheld t Recorded a final) (calm : Calm final.trace) (within : pos ≤ t.lexemes.size)
    (before : Upheld t Recorded none s) (inside : s.active.head? = some ((rule : Nat),pos))
    (ran : growSeed t (matchRule t levels) rule pos s = (.ok outcome,u)) (suffix : u.trace <:+ final.trace) :
    Folds t final.memo (t.grammar.ruleAt rule) pos outcome :=
  (Ledger.of_run recalls valueOnly upheld calm inside).growSeed_told within before rfl ran suffix

end Parse

end Match

namespace Grammar

open Match in
/-- Growing a seed is a left fold, if the outcomes of actions hang on values only and no match is
re-entered. It fails just where no other alternative matches; otherwise it takes the first of them,
and from then on the longest continuation in every round, while there is one. The table in the end
tells what the symbols on the way came to. -/
theorem parse_folds (g : Grammar) (lexemes : List Lexeme) (functions : Functions) (config : Config)
    (valueOnly : (g.task lexemes functions config).ValueOnly) :
    let t := g.task lexemes functions config
    (∀ levels (rule : Fin g.rules.length) pos s outcome u, pos ≤ lexemes.length → Upheld t Recorded none s →
      s.active.head? = some ((rule : Nat),pos) → growSeed t (matchRule t levels) rule pos s = (.ok outcome,u) →
      Calm u.trace → Folds t u.memo (g.ruleAt rule) pos outcome) ∧
    ∀ context start,
      let u := (matchRule t config.maxDepth start 0 { context }).2
      Calm u.trace →
      (∀ e ∈ u.trace, ∀ rule pos outcome, e.answer? = some (rule,pos,outcome) →
        u.memo.get? rule pos = some outcome) ∧
      ∀ (rule : Fin g.rules.length) pos outcome kept, .settled rule pos outcome kept ∈ u.trace →
        (g.ruleAt rule).isLeftRecursive = true → Folds t u.memo (g.ruleAt rule) pos outcome := by
  intro t
  have size : t.lexemes.size = lexemes.length := List.size_toArray
  have upkeep : Upkeep t Recorded := Recorded.upkeep t rfl
  refine ⟨?_,?_⟩
  · intro levels rule pos s outcome u within upheld inside ran calm
    have within : pos ≤ t.lexemes.size := by omega
    have runs := (upkeep.inside levels inside).growSeed_runs (fun _ => upkeep.setSeed_runs) within
      (fun _ _ => upheld_allows) fun _ _ _ _ => upheld_allows
    obtain ⟨_,after,_⟩ := runs.of_eq_ok upheld rfl ran
    exact growSeed_folds rfl valueOnly after calm within upheld inside ran (List.suffix_refl _)
  · intro context start u calm
    obtain ⟨upheld,came⟩ := upkeep.parse (.start context) config.maxDepth start
    refine ⟨fun e member rule pos outcome => upheld.holds.answered calm member,?_⟩
    intro rule pos outcome kept member recursive
    obtain ⟨levels,s,v,tried,suffix⟩ := came rule pos outcome kept member
    exact growSeed_folds rfl valueOnly upheld calm tried.within (tried.entered upkeep) tried.inside
      (tried.growSeed_eq recursive) suffix

def striding : Grammar where
  tokens := [⟨"X","x",0,.pattern,none,none,.set (.ofChars ['x']),none,none⟩]
  rules := [⟨"e",[⟨["e","X"],"",0,.none⟩,⟨["e","X","X"],"",0,.none⟩,⟨["X"],"",0,.none⟩]⟩]

namespace striding

def t : Match.Task := striding.task [⟨"X","x",0,1⟩,⟨"X","x",1,2⟩,⟨"X","x",2,3⟩] {} {}

def e : Fin t.grammar.rules.length := ⟨0,by decide⟩

def outcome : Option Matched := some ⟨.list [.str "x",.str "x",.str "x"],3⟩

open Match

def begun : State := ({} : State).enter 0 0

def grown : State := (growSeed t (matchRule t 1) e 0 begun).2

def final : State := (matchRule t ({} : Config).maxDepth e 0 {}).2

end striding

open Match in
theorem parse_folds_striding :
    striding.t.ValueOnly ∧
    (Upheld striding.t Recorded none striding.begun ∧ striding.begun.active.head? = some (0,0) ∧
      growSeed striding.t (matchRule striding.t 1) striding.e 0 striding.begun = (.ok striding.outcome,striding.grown) ∧
      Calm striding.grown.trace ∧
      Folds striding.t striding.grown.memo (striding.ruleAt striding.e) 0 striding.outcome) ∧
    Calm striding.final.trace ∧ .settled 0 0 striding.outcome true ∈ striding.final.trace ∧
      striding.final.memo.get? 0 0 = some striding.outcome ∧
      Folds striding.t striding.final.memo (striding.ruleAt striding.e) 0 striding.outcome := by
  have valueOnly : striding.t.ValueOnly := fun _ _ registered => nomatch registered
  obtain ⟨grows,parses⟩ := parse_folds striding [⟨"X","x",0,1⟩,⟨"X","x",1,2⟩,⟨"X","x",2,3⟩] {} {} valueOnly
  have begun : Upheld striding.t Recorded none striding.begun :=
    (Upheld.start (.start {})).enter (Recorded.upkeep striding.t rfl) (fun _ => rfl) (by decide)
  have ran : growSeed striding.t (matchRule striding.t 1) striding.e 0 striding.begun =
      (.ok striding.outcome,striding.grown) := by rfl
  have calm : Calm striding.grown.trace := by decide +kernel
  have calm' : Calm striding.final.trace := by decide +kernel
  have settled : .settled 0 0 striding.outcome true ∈ striding.final.trace := List.mem_of_mem_head? rfl
  obtain ⟨answers,folds⟩ := parses {} striding.e calm'
  refine ⟨valueOnly,⟨begun,rfl,ran,calm,?_⟩,calm',settled,answers _ settled 0 0 _ rfl,?_⟩
  · exact grows 1 striding.e 0 _ _ _ (Nat.zero_le _) begun rfl ran calm
  · exact folds striding.e 0 _ true settled (by decide)

end Grammar

end Packrat
