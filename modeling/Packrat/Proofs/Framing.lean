import Packrat.Proofs.Isolation
import Packrat.Proofs.Regime

/-! The discipline of the stack. Whatever is matched, the frames that were open stand where they stood, and
only a rule that is being grown changes a seed, its own. So a frame may as well be found by its place in the
stack, and its seed be taken out of it while an action uses it. Main statement: that comes to the same, and no
frame is missed. -/
namespace Packrat.Match

/-- The same frames later on, places counted from the outermost: rules, positions and seeds are the same, and
marks are not taken back. The seed of the frame at the place `own`, if one is given, is free to change. -/
structure Steady (own : Option Nat) (stack later : List Frame) : Prop where
  frames : List.Forall₂ Frame.Ages stack later
  seeds : ∀ i, some i ≠ own → later.reverse[i]?.map (·.seed) = stack.reverse[i]?.map (·.seed)

def Stands (rule pos place : Nat) (seed : Option Matched) (stack : List Frame) : Prop :=
  ∃ dependent, stack.reverse[place]? = some ⟨rule,pos,seed,dependent⟩

def reseat (place : Nat) (seed : Option Matched) (stack : List Frame) : List Frame :=
  (stack.reverse.modify place fun frame => { frame with seed }).reverse

section Stack

variable {own : Option Nat} {stack later latest : List Frame} {seed old : Option Matched}

namespace Steady

theorem refl (stack : List Frame) : Steady own stack stack :=
  ⟨List.forall₂_same.mpr fun f _ => .refl f,fun _ _ => rfl⟩

theorem of_eq (same : later = stack) : Steady own stack later := by
  rw [same]
  exact refl stack

theorem of_seeds (frames : List.Forall₂ Frame.Ages stack later)
    (same : later.map (·.seed) = stack.map (·.seed)) : Steady own stack later := by
  refine ⟨frames,fun i _ => ?_⟩
  rw [← List.getElem?_map,← List.getElem?_map,List.map_reverse,List.map_reverse,same]

theorem trans (first : Steady own stack later) (second : Steady own later latest) : Steady own stack latest :=
  ⟨ages_trans first.frames second.frames,fun i other => (second.seeds i other).trans (first.seeds i other)⟩

theorem weaken (steady : Steady none stack later) : Steady own stack later :=
  ⟨steady.frames,fun i _ => steady.seeds i nofun⟩

theorem stands (steady : Steady none stack later) (stands : Stands rule pos place seed stack) :
    Stands rule pos place seed later := by
  obtain ⟨dependent,there⟩ := stands
  have frames := List.forall₂_reverse_iff.mpr steady.frames
  obtain ⟨within,here⟩ := List.getElem?_eq_some_iff.mp there
  have within' : place < later.reverse.length := frames.length_eq ▸ within
  have ages := frames.get within within'
  have same := steady.seeds place nofun
  rw [there,List.getElem?_eq_getElem within'] at same
  rw [List.get_eq_getElem,List.get_eq_getElem,here] at ages
  refine ⟨later.reverse[place].dependent,?_⟩
  rw [List.getElem?_eq_getElem within']
  generalize later.reverse[place] = frame at ages same ⊢
  obtain ⟨rule',pos',seed',dependent'⟩ := frame
  obtain rfl : rule' = rule := ages.rule
  obtain rfl : pos' = pos := ages.pos
  obtain rfl : seed' = seed := Option.some.inj same
  rfl

/-- Under the frame that may have another seed all frames are as they were. -/
theorem pop (steady : Steady (some outer.length) (frame :: outer) later) :
    ∃ frame' outer', later = frame' :: outer' ∧ Steady none outer outer' := by
  obtain ⟨frame',outer',_,frames,rfl⟩ := List.forall₂_cons_left_iff.mp steady.frames
  refine ⟨frame',outer',rfl,frames,fun i _ => ?_⟩
  have length := frames.length_eq
  by_cases inside : i < outer.length
  · have same := steady.seeds i (by simp only [ne_eq,Option.some.injEq]; omega)
    rw [List.reverse_cons,List.reverse_cons,List.getElem?_append_left (by rw [List.length_reverse]; omega),
      List.getElem?_append_left (by rw [List.length_reverse]; omega)] at same
    exact same
  · rw [List.getElem?_eq_none (by rw [List.length_reverse]; omega),
      List.getElem?_eq_none (by rw [List.length_reverse]; omega)]

end Steady

theorem stands_top (rule pos : Nat) (seed : Option Matched) (dependent : Bool) (outer : List Frame) :
    Stands rule pos outer.length seed (⟨rule,pos,seed,dependent⟩ :: outer) := by
  refine ⟨dependent,?_⟩
  rw [List.reverse_cons,← outer.length_reverse,List.getElem?_concat_length]

theorem reseat_stands (stands : Stands rule pos place old stack) :
    Stands rule pos place seed (reseat place seed stack) := by
  obtain ⟨dependent,there⟩ := stands
  exact ⟨dependent,by simp [reseat,there]⟩

theorem reseat_reseat (place : Nat) (seed old : Option Matched) (stack : List Frame) :
    reseat place seed (reseat place old stack) = reseat place seed stack := by
  rw [reseat,reseat,List.reverse_reverse,List.modify_modify_eq]
  rfl

/-- The seed that a frame has is put into it to no effect. -/
theorem reseat_self (stands : Stands rule pos place seed stack) : reseat place seed stack = stack := by
  obtain ⟨dependent,there⟩ := stands
  rw [reseat,← List.reverse_inj,List.reverse_reverse]
  refine List.ext_getElem? fun i => ?_
  rw [List.getElem?_modify]
  by_cases here : place = i
  · subst here
    simp [there]
  · simp [here]

theorem reseat_top (frame : Frame) (outer : List Frame) (seed : Option Matched) :
    reseat outer.length seed (frame :: outer) = { frame with seed } :: outer := by
  rw [reseat,List.reverse_cons,← outer.length_reverse,List.modify_eq_take_drop]
  simp

theorem reseat_steady (place : Nat) (seed : Option Matched) (stack : List Frame) :
    Steady (some place) stack (reseat place seed stack) := by
  refine ⟨?_,fun i other => ?_⟩
  · rw [← List.forall₂_reverse_iff,reseat,List.reverse_reverse,List.forall₂_iff_get]
    refine ⟨(List.length_modify ..).symm,fun i within within' => ?_⟩
    rw [List.get_eq_getElem,List.get_eq_getElem,List.getElem_modify]
    split
    · exact ⟨rfl,rfl,id⟩
    · exact .refl _
  · rw [reseat,List.reverse_reverse,List.getElem?_modify]
    have away : place ≠ i := fun same => other (congrArg some same.symm)
    simp [away]

end Stack

def Regime.steady (stack : List Frame) : Regime where
  Good s := Steady none stack s.stack
  Lost _ s := Steady none stack s.stack
  At _ := True
  Known _ := True
  Finds _ _ _ := True

structure Balanced (m : Matching α) : Prop where
  grows : Growing m
  steady : ∀ s, Steady none s.stack (m s).2.stack

namespace Balanced

theorem stands {m : Matching α} (balanced : Balanced m) (ran : m s = (result,u))
    (stands : Stands rule pos place seed s.stack) : Stands rule pos place seed u.stack := by
  have kept := balanced.steady s
  rw [ran] at kept
  exact kept.stands stands

theorem runs {m : Matching α} (balanced : Balanced m) (stack : List Frame) :
    (Regime.steady stack).Runs around m fun _ => True := by
  intro s before _
  refine ⟨balanced.grows s,?_⟩
  have after := before.trans (balanced.steady s)
  rcases ran : m s with ⟨_ | a,u⟩
  all_goals rw [ran] at after
  · exact after
  · exact ⟨after,trivial⟩

theorem of_runs {Q : List Frame → α → Prop} (runs : ∀ stack around, (Regime.steady stack).Runs around m (Q stack)) :
    Balanced m := by
  refine ⟨fun s => (runs s.stack s.active s (.refl _) rfl).1,fun s => ?_⟩
  have ended := (runs s.stack s.active s (.refl _) rfl).2
  rcases ran : m s with ⟨_ | a,u⟩
  all_goals rw [ran] at ended
  · exact ended
  · exact ended.1

end Balanced

section Action

variable (t : Task) (rule : Nat) (name : String) (values : List Value) (start stop : Nat)

/-- An action is run beside the stack: it is the same over another one. -/
theorem invoke_restack (s : State) (stack : List Frame) :
    invoke t rule name values start stop { s with stack } =
      ((invoke t rule name values start stop s).1,{ (invoke t rule name values start stop s).2 with stack }) := by
  have chose : choosing t rule name { s with stack } = { choosing t rule name s with stack } := by
    unfold choosing
    split <;> rfl
  cases chosen : t.action? name with
  | none =>
    rw [invoke_missing t rule name values start stop chosen,invoke_missing t rule name values start stop chosen,chose]
    rfl
  | some action =>
    rw [invoke_chosen t rule name values start stop chosen,invoke_chosen t rule name values start stop chosen,chose]
    rcases action.run values t.functions (choosing t rule name s).context with ⟨outcome,c⟩
    cases outcome <;> rfl

theorem invoke_stack (s : State) : (invoke t rule name values start stop s).2.stack = s.stack := by
  have same := congrArg (·.2.stack) (invoke_restack t rule name values start stop s s.stack)
  exact same

/-- An action that fails gives nothing up. -/
theorem invoke_accepted (s : State) : ∃ accepted, (invoke t rule name values start stop s).1 = .ok accepted := by
  cases chosen : t.action? name with
  | none => exact ⟨none,by rw [invoke_missing t rule name values start stop chosen]⟩
  | some action =>
    rw [invoke_chosen t rule name values start stop chosen]
    rcases action.run values t.functions (choosing t rule name s).context with ⟨outcome,c⟩
    cases outcome with
    | ok value => exact ⟨some value,rfl⟩
    | error e => exact ⟨none,rfl⟩

end Action

section Body

variable {t : Task} {call : Fin t.grammar.rules.length → Nat → Matching (Option Matched)}
variable (calls : ∀ i pos, Balanced (call i pos)) (rule : Fin t.grammar.rules.length)

include calls

theorem steady_inside (start : Nat) (stack : List Frame) : (Regime.steady stack).Inside t call rule start around where
  note good _ _ := good
  blind good same _ _ := good.trans (.of_eq same)
  reach _ := trivial
  token _ _ _ := trivial
  unknown _ _ good := good
  call i pos _ := ((calls i pos).runs stack).weaken fun _ _ _ _ => trivial

theorem matchSequence_balanced (symbols : List String) (pos : Nat) : Balanced (matchSequence t call rule symbols pos) :=
  .of_runs fun stack _ => (steady_inside calls rule pos stack).matchSequence_runs symbols (fun _ _ => trivial) trivial

theorem matchAlternatives_balanced (pos : Nat) (alternatives : List Alternative) :
    Balanced (matchAlternatives t call rule pos alternatives) :=
  .of_runs fun stack _ => (steady_inside calls rule pos stack).matchAlternatives_runs alternatives trivial
    fun _ _ => ⟨fun _ _ => trivial,fun _ _ => trivial⟩

theorem growOnce_balanced (pos : Nat) (seed : Matched) (alternatives : List Alternative) :
    Balanced (growOnce t call rule pos seed alternatives none) :=
  .of_runs fun stack _ => (steady_inside calls rule pos stack).growOnce_runs alternatives trivial
    (fun _ _ => ⟨fun _ _ => trivial,fun _ _ => trivial⟩) none nofun

end Body

section Place

-- Computations that reach for a frame by its place, and come to nothing where they miss it.
variable (t : Task) (call : Fin t.grammar.rules.length → Nat → Matching (Option Matched))
variable (rule : Fin t.grammar.rules.length)

/-- Puts a seed into the frame at a place and yields the one that was there. The frame is missed if none is at
the place, or one of another rule or position. -/
def exchange (rule pos place : Nat) (seed : Option Matched) : OptionT Matching (Option Matched) :=
  OptionT.mk fun s =>
    match s.stack.reverse[place]? with
    | none => (.ok none,s)
    | some frame =>
      if frame.rule = rule ∧ frame.pos = pos then
        (.ok (some frame.seed),{ s with stack := reseat place seed s.stack })
      else (.ok none,s)

/-- The value of a recursive alternative whose tail matched. The seed is taken out of its frame, lent to the
action, and put back. -/
def lendSeed (rule : Nat) (name : String) (values : List Value) (start stop place : Nat) :
    OptionT Matching (Option Value) := do
  match ← exchange rule start place none with
  | none => return none
  | some seed =>
    let accepted ← OptionT.lift (invoke t rule name (seed.value :: values) start stop)
    let _ ← exchange rule start place (some seed)
    return accepted

def growOnceAt (pos place seedStop : Nat) : (alternatives : List Alternative) → (best : Option Matched) →
    OptionT Matching (Option Matched)
  | [],best => pure best
  | a :: rest,best => do
    match ← OptionT.lift (matchSequence t call rule a.symbols.tail seedStop) with
    | none => growOnceAt pos place seedStop rest best
    | some (values,stop) =>
      if stop ≤ (best.map (·.stop)).getD seedStop then growOnceAt pos place seedStop rest best
      else
        match ← lendSeed t rule a.action values pos stop place with
        | some value => growOnceAt pos place seedStop rest (some ⟨value,stop⟩)
        | none => growOnceAt pos place seedStop rest best

def growAt (pos place : Nat) (alternatives : List Alternative) : (room rounds seedStop : Nat) →
    OptionT Matching (Nat × Nat)
  | 0,rounds,seedStop => do
    let _ ← growOnceAt t call rule pos place seedStop alternatives none
    return (rounds,seedStop)
  | room + 1,rounds,seedStop => do
    match ← growOnceAt t call rule pos place seedStop alternatives none with
    | none => return (rounds,seedStop)
    | some next =>
      let _ ← exchange rule pos place (some next)
      growAt pos place alternatives room (rounds + 1) next.stop

/-- Matches a left-recursive rule whose frame is at a place. What is in the frame in the end is its outcome. -/
def growSeedAt (pos place : Nat) : OptionT Matching (Option Matched) := do
  let definition := t.grammar.ruleAt rule
  match ← OptionT.lift (matchAlternatives t call rule pos definition.seeds) with
  | none => return none
  | some seed =>
    let _ ← exchange rule pos place (some seed)
    let (rounds,stop) ←
      growAt t call rule pos place definition.recursive (t.lexemes.size - seed.stop) 0 seed.stop
    OptionT.lift (Matching.note (.grew rule pos rounds stop))
    exchange rule pos place none

end Place

theorem bind_of_ok {m : Matching α} {f : α → Matching β} (ran : m s = (.ok a,u)) : (m >>= f) s = f a u := by
  rw [Matching.bind_run,ran]

theorem bind_of_error {m : Matching α} {f : α → Matching β} (ran : m s = (.error e,u)) :
    (m >>= f) s = (.error e,u) := by
  rw [Matching.bind_run,ran]

def Placed (m : OptionT Matching α) (m' : Matching α) (s : State) : Prop :=
  m.run s = ((m' s).1.map some,(m' s).2)

theorem placed_bind_run (m : OptionT Matching α) (f : α → OptionT Matching β) (s : State) :
    (m >>= f).run s =
      match m.run s with
      | (.ok (some a),u) => (f a).run u
      | (.ok none,u) => (.ok none,u)
      | (.error e,u) => (.error e,u) := by
  rw [OptionT.run_bind,Option.elimM,Matching.bind_run]
  rcases m.run s with ⟨_ | _ | a,u⟩ <;> rfl

theorem placed_bind_ok {m : OptionT Matching α} {f : α → OptionT Matching β} (ran : m.run s = (.ok (some a),u)) :
    (m >>= f).run s = (f a).run u := by
  rw [placed_bind_run,ran]

theorem placed_bind_error {m : OptionT Matching α} {f : α → OptionT Matching β} (ran : m.run s = (.error e,u)) :
    (m >>= f).run s = (.error e,u) := by
  rw [placed_bind_run,ran]

namespace Placed

protected theorem pure (a : α) (s : State) : Placed (pure a) (pure a) s := rfl

protected theorem lift (m : Matching α) (s : State) : Placed (OptionT.lift m) m s := by
  rw [Placed,OptionT.lift,OptionT.run_mk,Matching.bind_run]
  rcases m s with ⟨_ | a,u⟩ <;> rfl

protected theorem bind {m : OptionT Matching α} {m' : Matching α} {f : α → OptionT Matching β} {f' : α → Matching β}
    (first : Placed m m' s) (rest : ∀ a u, m' s = (.ok a,u) → Placed (f a) (f' a) u) :
    Placed (m >>= f) (m' >>= f') s := by
  unfold Placed at first
  rw [Placed,placed_bind_run,first,Matching.bind_run]
  rcases ran : m' s with ⟨e | a,u⟩
  · rfl
  · exact rest a u ran

theorem of_ok {m : OptionT Matching α} (placed : Placed m m' s) (ran : m' s = (.ok a,u)) :
    m.run s = (.ok (some a),u) := by
  rw [placed,ran]
  rfl

theorem of_error {m : OptionT Matching α} (placed : Placed m m' s) (ran : m' s = (.error e,u)) :
    m.run s = (.error e,u) := by
  rw [placed,ran]
  rfl

end Placed

section Place

variable {t : Task} {call : Fin t.grammar.rules.length → Nat → Matching (Option Matched)}
variable {rule : Fin t.grammar.rules.length} {seed old : Option Matched} {m : Matched} {s : State}

theorem exchange_run {rule : Nat} (stands : Stands rule pos place old s.stack) (seed : Option Matched) :
    (exchange rule pos place seed).run s = (.ok (some old),{ s with stack := reseat place seed s.stack }) := by
  obtain ⟨dependent,there⟩ := stands
  simp [exchange,OptionT.run,OptionT.mk,there]

/-- The seed is put back whether the action accepts or not. -/
theorem lendSeed_placed {rule : Nat} (stands : Stands rule start place (some m) s.stack) (name : String)
    (values : List Value) (stop : Nat) :
    Placed (lendSeed t rule name values start stop place) (invoke t rule name (m.value :: values) start stop) s := by
  have lent : Stands rule start place none (reseat place none s.stack) := reseat_stands stands
  have back : reseat place (some m) (reseat place none s.stack) = s.stack := by
    rw [reseat_reseat,reseat_self stands]
  obtain ⟨accepted,same⟩ := invoke_accepted t rule name (m.value :: values) start stop s
  have used := invoke_restack t rule name (m.value :: values) start stop s (reseat place none s.stack)
  rw [same] at used
  have kept := invoke_stack t rule name (m.value :: values) start stop s
  rw [Placed,same,lendSeed,placed_bind_ok (exchange_run stands none)]
  dsimp only
  rw [placed_bind_ok ((Placed.lift _ _).of_ok used),placed_bind_ok (exchange_run lent (some m)),back,← kept]
  rfl

/-- Without a seed there is nothing to lend. -/
theorem lendSeed_run_none {rule : Nat} (stands : Stands rule start place none s.stack) (name : String)
    (values : List Value) (stop : Nat) :
    (lendSeed t rule name values start stop place).run s = (.ok (some none),s) := by
  rw [lendSeed,placed_bind_ok (exchange_run stands none),reseat_self stands]
  rfl

/-- At the innermost frame the place is the top of the stack. -/
theorem setSeed_eq (top : place + 1 = s.stack.length) (seed : Option Matched) :
    setSeed seed s = (.ok (),{ s with stack := reseat place seed s.stack }) := by
  unfold setSeed
  split
  · rename_i empty
    rw [empty] at top
    cases top
  · rename_i frame outer stack
    obtain rfl : place = outer.length := by simpa [stack] using top
    rw [stack,reseat_top]

variable (calls : ∀ i pos, Balanced (call i pos))

include calls

/-- A round does the same with the seed in its frame as with the seed at hand. -/
theorem growOnceAt_placed (stands : Stands rule pos place (some m) s.stack) (alternatives : List Alternative)
    (best : Option Matched) : Placed (growOnceAt t call rule pos place m.stop alternatives best)
      (growOnce t call rule pos m alternatives best) s := by
  induction alternatives generalizing best s with
  | nil => exact .pure _ _
  | cons a rest ih =>
    have longest : (best.map (·.stop)).getD m.stop = (best.getD m).stop := by cases best <;> rfl
    refine .bind (.lift _ s) fun found u ran => ?_
    have stands' := (matchSequence_balanced calls rule a.symbols.tail m.stop).stands ran stands
    cases found with
    | none => exact ih stands' best
    | some found =>
      simp only [longest]
      split
      · exact ih stands' best
      · refine .bind (lendSeed_placed stands' a.action found.1 found.2) fun value v ran => ?_
        have kept := invoke_stack t rule a.action (m.value :: found.1) pos found.2 u
        rw [ran] at kept
        rw [← kept] at stands'
        cases value with
        | none => exact ih stands' best
        | some value => exact ih stands' _

/-- Rounds of growth keep the seed in its frame. At the top of the stack they do what they do with the seed at
hand. -/
theorem growAt_run (alternatives : List Alternative) (room rounds : Nat)
    (stands : Stands rule pos place (some m) s.stack) : ∃ result u,
      (growAt t call rule pos place alternatives room rounds m.stop).run s =
        (result.map fun (n,last) => some (n,last.stop),u) ∧
      Steady (some place) s.stack u.stack ∧
      (∀ n last, result = .ok (n,last) → Stands rule pos place (some last) u.stack) ∧
      (place + 1 = s.stack.length → grow t call rule pos alternatives room rounds m s = (result,u)) := by
  induction room generalizing rounds m s with
  | zero =>
    have round := growOnceAt_placed calls stands alternatives none
    rcases ran : growOnce t call rule pos m alternatives none s with ⟨e | next,v⟩
    all_goals
      have steady := (growOnce_balanced calls rule pos m alternatives).steady s
      rw [ran] at steady
    · exact ⟨.error e,v,placed_bind_error (round.of_error ran),steady.weaken,nofun,fun _ => bind_of_error ran⟩
    · refine ⟨.ok (rounds,m),v,placed_bind_ok (round.of_ok ran),steady.weaken,?_,fun _ => bind_of_ok ran⟩
      rintro n last ⟨⟩
      exact steady.stands stands
  | succ room ih =>
    have round := growOnceAt_placed calls stands alternatives none
    rcases ran : growOnce t call rule pos m alternatives none s with ⟨e | _ | next,v⟩
    all_goals
      have steady := (growOnce_balanced calls rule pos m alternatives).steady s
      rw [ran] at steady
    · exact ⟨.error e,v,placed_bind_error (round.of_error ran),steady.weaken,nofun,fun _ => bind_of_error ran⟩
    · refine ⟨.ok (rounds,m),v,placed_bind_ok (round.of_ok ran),steady.weaken,?_,fun _ => bind_of_ok ran⟩
      rintro n last ⟨⟩
      exact steady.stands stands
    · have there := steady.stands stands
      have moved := reseat_steady place (some next) v.stack
      obtain ⟨result,u,run,kept,last,top⟩ := ih (rounds + 1) (m := next)
        (s := { v with stack := reseat place (some next) v.stack }) (reseat_stands there)
      refine ⟨result,u,?_,steady.weaken.trans (moved.trans kept),last,fun innermost => ?_⟩
      · calc (growAt t call rule pos place alternatives (room + 1) rounds m.stop).run s
          _ = _ := placed_bind_ok (round.of_ok ran)
          _ = _ := placed_bind_ok (exchange_run there _)
          _ = _ := run
      · have innermost : place + 1 = v.stack.length := innermost.trans steady.frames.length_eq
        calc grow t call rule pos alternatives (room + 1) rounds m s
          _ = _ := bind_of_ok ran
          _ = _ := bind_of_ok (setSeed_eq innermost _)
          _ = _ := top (innermost.trans moved.frames.length_eq)

/-- Growing a seed that is found by its place. It is there in the end, and is the outcome. -/
theorem growSeedAt_run (stands : Stands rule pos place seed s.stack) : ∃ result u,
      (growSeedAt t call rule pos place).run s = (result.map some,u) ∧
      Steady (some place) s.stack u.stack ∧
      (∀ outcome, result = .ok outcome → (outcome = none ↔
        (matchAlternatives t call rule pos (t.grammar.ruleAt rule).seeds s).1 = .ok none)) ∧
      (place + 1 = s.stack.length → growSeed t call rule pos s = (result,u)) := by
  have first := Placed.lift (matchAlternatives t call rule pos (t.grammar.ruleAt rule).seeds) s
  rcases ran : matchAlternatives t call rule pos (t.grammar.ruleAt rule).seeds s with ⟨e | _ | m,v⟩
  all_goals
    have steady := (matchAlternatives_balanced calls rule pos (t.grammar.ruleAt rule).seeds).steady s
    rw [ran] at steady
  · exact ⟨.error e,v,placed_bind_error (first.of_error ran),steady.weaken,nofun,fun _ => bind_of_error ran⟩
  · refine ⟨.ok none,v,placed_bind_ok (first.of_ok ran),steady.weaken,?_,fun _ => bind_of_ok ran⟩
    rintro outcome ⟨⟩
    exact ⟨fun _ => rfl,fun _ => rfl⟩
  have there := steady.stands stands
  have moved := reseat_steady place (some m) v.stack
  obtain ⟨result,w,run,kept,last,top⟩ := growAt_run calls (t.grammar.ruleAt rule).recursive (t.lexemes.size - m.stop) 0
    (s := { v with stack := reseat place (some m) v.stack }) (reseat_stands there)
  have begun : Steady (some place) s.stack w.stack := steady.weaken.trans (moved.trans kept)
  have below (innermost : place + 1 = s.stack.length) : place + 1 = v.stack.length :=
    innermost.trans steady.frames.length_eq
  rcases result with e | ⟨rounds,grown⟩
  · refine ⟨.error e,w,?_,begun,nofun,fun innermost => ?_⟩
    · calc (growSeedAt t call rule pos place).run s
        _ = _ := placed_bind_ok (first.of_ok ran)
        _ = _ := placed_bind_ok (exchange_run there _)
        _ = _ := placed_bind_error run
    · calc growSeed t call rule pos s
        _ = _ := bind_of_ok ran
        _ = _ := bind_of_ok (setSeed_eq (below innermost) _)
        _ = _ := bind_of_error (top ((below innermost).trans moved.frames.length_eq))
  · have there' := last rounds grown rfl
    let noted := w.note (.grew rule pos rounds grown.stop)
    refine ⟨.ok (some grown),{ noted with stack := reseat place none w.stack },?_,
      begun.trans (reseat_steady place none _),fun outcome same => ?_,fun innermost => ?_⟩
    · calc (growSeedAt t call rule pos place).run s
        _ = _ := placed_bind_ok (first.of_ok ran)
        _ = _ := placed_bind_ok (exchange_run there _)
        _ = _ := placed_bind_ok run
        _ = _ := placed_bind_ok ((Placed.lift _ w).of_ok (u := noted) rfl)
        _ = _ := exchange_run (s := noted) there' none
    · obtain rfl := Except.ok.inj same
      exact ⟨nofun,nofun⟩
    · calc growSeed t call rule pos s
        _ = _ := bind_of_ok ran
        _ = _ := bind_of_ok (setSeed_eq (below innermost) _)
        _ = _ := bind_of_ok (top ((below innermost).trans moved.frames.length_eq))
        _ = _ := bind_of_ok (u := noted) rfl
        _ = _ := bind_of_ok (setSeed_eq (s := noted) (innermost.trans begun.frames.length_eq) none)

/-- A rule that was entered changes no seed but that of its own frame. -/
theorem matchBody_steady (pos : Nat) (s : State) : Steady (some s.stack.length) (s.enter rule pos).stack
    (matchBody t call rule pos (s.enter rule pos)).2.stack := by
  unfold matchBody
  split
  · obtain ⟨result,u,_,steady,_,top⟩ := growSeedAt_run calls (s := s.enter rule pos)
      (stands_top rule pos none false s.stack)
    rw [top rfl]
    exact steady
  · exact ((matchAlternatives_balanced calls rule pos _).steady _).weaken

end Place

theorem markInside_steady {stack marked : List Frame} (found : markInside rule pos stack = some (seed,marked)) :
    Steady none stack marked := by
  refine .of_seeds (markInside_ages found) ?_
  induction stack generalizing marked with
  | nil => cases found
  | cons frame outer ih =>
    simp only [markInside] at found
    split at found
    · obtain ⟨rfl,rfl⟩ := Prod.mk.inj (Option.some.inj found)
      rfl
    · obtain ⟨⟨seed',outer'⟩,inside,eq⟩ := Option.map_eq_some_iff.mp found
      obtain ⟨rfl,rfl⟩ := Prod.mk.inj eq
      rw [List.map_cons,List.map_cons,ih inside]

theorem settle_steady {t : Task} {evaluate : Matching (Option Matched)}
    (steady : ∀ s, Steady none s.stack (evaluate s).2.stack) (rule pos : Nat) (s : State) :
    Steady none s.stack (settle t rule pos evaluate s).2.stack := by
  rcases settle_cases t s rule pos with ⟨recalls,outcome,known⟩ | ⟨missed,seed,stack,found⟩ | ⟨missed,closed⟩
  · rw [settle_known recalls known]
    exact .refl s.stack
  · rw [settle_open missed found]
    exact markInside_steady found
  · rw [settle_fresh missed closed]
    exact steady s

/-- Leaving the frame of a rule takes off what entering put on. -/
theorem framed_steady {rule pos : Nat} {inside : Matching (Option Matched)} (s : State)
    (steady : Steady (some s.stack.length) (s.enter rule pos).stack (inside (s.enter rule pos)).2.stack) :
    Steady none s.stack (framed rule pos inside s).2.stack := by
  obtain ⟨frame,outer,stack,kept⟩ := steady.pop
  rcases ran : inside (s.enter rule pos) with ⟨result,u⟩
  rw [ran] at stack
  simp only [framed,ran]
  rw [leave_stack stack]
  exact kept

theorem matchRule_balanced (t : Task) (levels : Nat) (rule : Fin t.grammar.rules.length) (pos : Nat) :
    Balanced (matchRule t levels rule pos) := by
  induction levels generalizing rule pos with
  | zero =>
    refine ⟨matchRule_grows t 0 rule pos,?_⟩
    rw [matchRule_eq]
    exact settle_steady (fun s => .refl s.stack) rule pos
  | succ levels ih =>
    refine ⟨matchRule_grows t (levels + 1) rule pos,?_⟩
    rw [matchRule_eq]
    exact settle_steady (fun s => framed_steady s (matchBody_steady ih pos s)) rule pos

/-- Matching a rule, its alternatives or symbols one after the other leaves the open frames where they are:
as many of them, with the same rules, positions and seeds, and marks stay. This holds also when the parse is
given up. Growing a rule whose frame is at a place changes no seed but that frame's, and whenever it reaches for
the frame it finds it. What it lends to an action it puts back, whether the action fails or not, and it comes to
nothing only if there was no first seed. At the top of the stack that is what growing a rule is. -/
theorem stack_discipline (t : Task) (levels : Nat) (rule : Fin t.grammar.rules.length) (pos : Nat) (s : State) :
    let call := matchRule t levels
    Steady none s.stack (matchRule t levels rule pos s).2.stack ∧
    (∀ alternatives, Steady none s.stack (matchAlternatives t call rule pos alternatives s).2.stack) ∧
    (∀ symbols, Steady none s.stack (matchSequence t call rule symbols pos s).2.stack) ∧
    ∀ place frame, s.stack.reverse[place]? = some frame → frame.rule = (rule : Nat) → frame.pos = pos →
      (∀ name values stop, ∃ accepted u,
        (lendSeed t rule name values pos stop place).run s = (.ok (some accepted),u) ∧ u.stack = s.stack) ∧
      ∃ result u, (growSeedAt t call rule pos place).run s = (result,u) ∧ result ≠ .ok none ∧
        Steady (some place) s.stack u.stack ∧
        (∀ outcome, result = .ok (some outcome) → (outcome = none ↔
          (matchAlternatives t call rule pos (t.grammar.ruleAt rule).seeds s).1 = .ok none)) ∧
        (place + 1 = s.stack.length →
          result = (growSeed t call rule pos s).1.map some ∧ u = (growSeed t call rule pos s).2) := by
  intro call
  have calls : ∀ i pos, Balanced (call i pos) := matchRule_balanced t levels
  refine ⟨(calls rule pos).steady s,
    fun alternatives => (matchAlternatives_balanced calls rule pos alternatives).steady s,
    fun symbols => (matchSequence_balanced calls rule symbols pos).steady s,?_⟩
  intro place frame there owner begun
  have stands : Stands rule pos place frame.seed s.stack := by
    rw [← owner,← begun]
    exact ⟨frame.dependent,there⟩
  generalize frame.seed = seed at stands
  refine ⟨fun name values stop => ?_,?_⟩
  · cases seed with
    | none => exact ⟨none,s,lendSeed_run_none stands name values stop,rfl⟩
    | some m =>
      obtain ⟨accepted,same⟩ := invoke_accepted t rule name (m.value :: values) pos stop s
      have lent := lendSeed_placed (t := t) stands name values stop
      exact ⟨accepted,_,lent.of_ok (Prod.ext same rfl),invoke_stack t rule name (m.value :: values) pos stop s⟩
  · obtain ⟨result,u,run,steady,ended,top⟩ := growSeedAt_run calls stands
    refine ⟨result.map some,u,run,?_,steady,fun outcome same => ?_,fun innermost => ?_⟩
    · cases result <;> nofun
    · cases result with
      | error e => cases same
      | ok outcome' =>
        obtain rfl := Option.some.inj (Except.ok.inj same)
        exact ended outcome' rfl
    · rw [top innermost]
      exact ⟨rfl,rfl⟩

def listingList : Fin listing.grammar.rules.length := ⟨0,by decide⟩

theorem stack_discipline_listing :
    let s := listingState (some ⟨.str "x",1⟩)
    s.stack.reverse[0]? = some { rule := 0, pos := 0, seed := some ⟨.str "x",1⟩ } ∧
    ∃ result u, (growSeedAt listing (matchRule listing 3) listingList 0 0).run s = (result,u) ∧
      result ≠ .ok none ∧ Steady (some 0) s.stack u.stack ∧
      (∀ outcome, result = .ok (some outcome) → (outcome = none ↔
        (matchAlternatives listing (matchRule listing 3) listingList 0
          (listing.grammar.ruleAt listingList).seeds s).1 = .ok none)) ∧
      result = (growSeed listing (matchRule listing 3) listingList 0 s).1.map some ∧
      u = (growSeed listing (matchRule listing 3) listingList 0 s).2 := by
  intro s
  obtain ⟨_,_,_,framed⟩ := stack_discipline listing 3 listingList 0 s
  obtain ⟨_,result,u,ran,found,steady,ended,top⟩ := framed 0 _ rfl rfl rfl
  exact ⟨rfl,result,u,ran,found,steady,ended,top rfl⟩

end Packrat.Match
