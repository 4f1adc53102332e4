import Packrat.Proofs.Transparency

/-! Kept outcomes and cycles of rules. A kept outcome need not be what a fresh parser comes to: one
rule of a cycle may recall another one while it is open itself, where matching that rule afresh
would re-enter it. This is the only way: without such a recall all kept outcomes are canonical. -/
namespace Packrat.Match

def openMatches : List Event → List (Nat × Nat)
  | [] => []
  | .entered rule pos :: earlier => (rule,pos) :: openMatches earlier
  | .settled .. :: earlier => (openMatches earlier).tail
  | .abandoned .. :: earlier => (openMatches earlier).tail
  | _ :: earlier => openMatches earlier

/-- On its own, without kept outcomes, the rule comes to an outcome and enters another match. -/
def Enters (t : Task) (rule pos : Nat) (other : Nat × Nat) : Prop :=
  ∃ (i : Fin t.grammar.rules.length) (levels : Nat) (outcome : Option Matched) (u : State), (i : Nat) = rule ∧
    matchRule t.plain levels i pos {} = (.ok outcome,u) ∧ .entered other.1 other.2 ∈ u.trace

/-- An outcome was recalled inside an open match that its rule enters. -/
def Crosses (t : Task) : List Event → Prop
  | [] => False
  | .recalled rule pos _ :: earlier =>
    (∃ other ∈ openMatches earlier, Enters t rule pos other) ∨ Crosses t earlier
  | _ :: earlier => Crosses t earlier

theorem Crosses.cons (crosses : Crosses t trace) (e : Event) : Crosses t (e :: trace) := by
  cases e with
  | recalled rule pos outcome => exact .inr crosses
  | _ => exact crosses

theorem Crosses.of_suffix (crosses : Crosses t past) (suffix : past <:+ trace) : Crosses t trace := by
  obtain ⟨more,rfl⟩ := suffix
  induction more with
  | nil => exact crosses
  | cons e more ih => exact ih.cons e

/-- One run of the rule on its own tells what it enters. -/
theorem enters_iff {t : Task} {i : Fin t.grammar.rules.length}
    (alone : matchRule t.plain levels i pos {} = (.ok outcome,u)) (other : Nat × Nat) :
    Enters t i pos other ↔ .entered other.1 other.2 ∈ u.trace := by
  constructor
  · rintro ⟨j,levels',outcome',u',index,alone',entered⟩
    obtain rfl := Fin.ext index
    have shallow : ¬TooDeep (fault (.ok outcome' : Except Abort (Option Matched))) u' := fun ⟨_,_,deep⟩ => nomatch deep
    obtain ⟨_,rfl⟩ := alone_unique alone alone' shallow
    exact entered
  · exact fun entered => ⟨i,levels,outcome,u,rfl,alone,entered⟩

/-- The parse was given up for its depth, or an outcome was recalled inside a match it enters. -/
def Astray (t : Task) (a : Option Abort) (s : State) : Prop := TooDeep a s ∨ Crosses t s.trace

theorem astray_lasting : Lasting (Astray t) := by
  rintro s u a (deep | crosses) grown
  · exact .inl (tooDeep_lasting a deep grown)
  · exact .inr (crosses.of_suffix grown.trace)

structure Agrees (t : Task) (s s' : State) : Prop where
  stack : s'.stack = s.stack
  active : openMatches s.trace = s.active
  kept : ∀ (rule : Fin t.grammar.rules.length) pos outcome, s.memo.get? rule pos = some outcome →
    ∃ levels u, matchRule t.plain levels rule pos {} = (.ok outcome,u)

variable {t : Task}

/-- Nothing is lost if the open matches and the table stay as they are. -/
theorem Agrees.congr (agrees : Agrees t s s') (active : u.active = s.active) (stack : u'.stack = u.stack)
    (trace : openMatches u.trace = openMatches s.trace) (memo : ∀ rule pos, u.memo.get? rule pos = s.memo.get? rule pos) :
    Agrees t u u' where
  stack := stack
  active := by rw [trace,active,agrees.active]
  kept rule pos outcome known := agrees.kept rule pos outcome (by rw [← memo]; exact known)

theorem Agrees.note (agrees : Agrees t s s') (inner : e.Inner) : Agrees t (s.note e) (s'.note e) := by
  refine agrees.congr rfl agrees.stack ?_ fun _ _ => rfl
  cases e <;> first | rfl | exact inner.elim

theorem Idle.openMatches_eq (idle : Idle s u) : openMatches u.trace = openMatches s.trace := by
  rcases idle.trace with same | ⟨rule,name,longer⟩
  · rw [same]
  · rw [longer]
    rfl

theorem agrees_respects (valueOnly : t.ValueOnly) : Respects t.recalling (Agrees t) (Astray t) where
  lasting := astray_lasting
  note _ inner agrees := agrees.note inner
  seed := by
    intro s s' seed agrees
    have trace : (setSeed seed s).2.trace = s.trace := by rw [setSeed_state]
    have memo := setSeed_memo seed s
    refine agrees.congr (setSeed_active seed s) ?_ (by rw [trace]) fun _ _ => by rw [memo]
    unfold setSeed
    rw [agrees.stack]
    split
    · exact agrees.stack
    · rfl
  invoke := by
    refine invoke_simulates_of_valueOnly valueOnly (fun _ inner agrees => agrees.note inner) ?_
    intro s s' u u' idle idle' agrees
    have stack : u'.stack = u.stack := by rw [idle.stack,idle'.stack,agrees.stack]
    exact agrees.congr idle.grows.active_eq stack idle.openMatches_eq fun _ _ => by rw [idle.memo]

/-- Where nothing open is entered, the plain run comes to the recalled outcome by itself. -/
theorem Agrees.recall (valueOnly : t.ValueOnly) (agrees : Agrees t s s') {rule : Fin t.grammar.rules.length}
    (known : s.memo.get? rule pos = some outcome)
    (clear : ∀ other ∈ s.active, ¬Enters t rule pos other) :
    ∃ u' least, u'.stack = s.stack ∧
      ∀ n, least ≤ n → matchRule t.plain n rule pos s' = (.ok outcome,u') := by
  obtain ⟨levels,u₀,alone⟩ := agrees.kept rule pos outcome known
  have apart : ∀ f ∈ s'.stack, .entered f.rule f.pos ∉ u₀.trace := by
    intro f member entered
    rw [agrees.stack] at member
    exact clear (f.rule,f.pos) (List.mem_map_of_mem member) ⟨rule,levels,outcome,u₀,rfl,alone,entered⟩
  obtain ⟨u',ran,stack⟩ := matchRule_inside (t := t.plain) valueOnly rfl alone apart
  refine ⟨u',levels,stack.trans agrees.stack,fun n above => ?_⟩
  rw [matchRule_of_le t.plain above rule pos s' (by simp [ran]),ran]

theorem settle_agrees (valueOnly : t.ValueOnly) (levels : Nat) (rule : Fin t.grammar.rules.length) (pos : Nat)
    (evaluation : Simulates (Agrees t) (Astray t) (attempt t.recalling levels rule pos)
      fun n => attempt t.plain n rule pos) :
    Simulates (Agrees t) (Astray t) (matchRule t.recalling levels rule pos)
      fun n => matchRule t.plain n rule pos := by
  have missed' (s' : State) : Missed t.plain s' rule pos := missed_of_plain rfl s' rule pos
  simp only [matchRule_eq]
  refine .settle rule pos evaluation ?_ ?_ ?_
  · intro s s' outcome agrees _ known
    -- Only here do the runs differ in kind: the first recalls what the second matches afresh.
    by_cases crosses : ∃ other ∈ s.active, Enters t rule pos other
    · rw [← agrees.active] at crosses
      exact .inl (.inr (.inl crosses))
    · have clear : ∀ other ∈ s.active, ¬Enters t rule pos other :=
        fun other member enters => crosses ⟨other,member,enters⟩
      obtain ⟨u',least,stack,ran⟩ := agrees.recall valueOnly known clear
      refine .inr ⟨u',least,agrees.congr rfl stack rfl fun _ _ => rfl,fun n above => ?_⟩
      exact (congrFun (matchRule_eq t.plain n rule pos) s').symm.trans (ran n above)
  · intro s s' seed stack agrees _ found
    have found' : markInside rule pos s'.stack = some (seed,stack) := by rw [agrees.stack]; exact found
    refine .inr ⟨_,0,?_,fun n _ => settle_open (missed' s') found'⟩
    exact agrees.congr (ages_pairs (markInside_ages found)) rfl rfl fun _ _ => rfl
  · intro s s' agrees _ closed
    refine .inr ⟨missed' s',?_⟩
    rw [agrees.stack]
    exact closed

/-- An outcome that is kept is one the rule comes to on its own. -/
theorem Agrees.leave {s u u' : State} {rule : Fin t.grammar.rules.length} (agrees : Agrees t u u')
    (grown : Grows (s.enter rule pos) u) (result : Except Abort (Option Matched))
    (alone : ∀ outcome frame outer, result = .ok outcome → u.stack = frame :: outer →
      frame.dependent = false → ∃ levels v, matchRule t.plain levels rule pos {} = (.ok outcome,v)) :
    Agrees t (u.leave rule pos result) (u'.leave rule pos result) := by
  obtain ⟨frame,outer,stack,_⟩ := grown.open_frame
  have stack' : u'.stack = frame :: outer := agrees.stack.trans stack
  have rest : (openMatches u.trace).tail = outer.map fun f => (f.rule,f.pos) := by
    rw [agrees.active,State.active,stack]
    rfl
  have same : (u'.leave rule pos result).stack = (u.leave rule pos result).stack := by
    rw [leave_stack stack,leave_stack stack']
  cases result with
  | error e =>
    rw [State.leave_error u rule pos e stack] at same ⊢
    exact ⟨same,rest,agrees.kept⟩
  | ok outcome =>
    rw [State.leave_ok u rule pos outcome stack] at same ⊢
    refine ⟨same,rest,fun rule' pos' outcome' known => ?_⟩
    dsimp only at known
    split at known
    · exact agrees.kept rule' pos' outcome' known
    rename_i free
    rcases get?_record_cases known with ⟨index,rfl,rfl⟩ | old
    · obtain rfl := Fin.ext index
      exact alone outcome' frame outer rfl stack (by simpa using free)
    · exact agrees.kept rule' pos' outcome' old

theorem matchRule_agrees (valueOnly : t.ValueOnly) (levels : Nat) (rule : Fin t.grammar.rules.length)
    (pos : Nat) : Simulates (Agrees t) (Astray t) (matchRule t.recalling levels rule pos)
      fun n => matchRule t.plain n rule pos := by
  induction levels generalizing rule pos with
  | zero => exact settle_agrees valueOnly 0 rule pos ⟨fun s => .refl s,fun s _ _ => .inl (.inl ⟨_,_,rfl⟩)⟩
  | succ levels ih =>
    have body : Simulates (Agrees t) (Astray t) (matchBody t.recalling (matchRule t.recalling levels) rule pos)
        fun n => matchBody t.plain (matchRule t.plain n) rule pos :=
      matchBody_simulates (agrees_respects valueOnly) false ih rule pos
    -- The plain attempt at `n + 1` levels has `n` inside, so the family is shifted by one.
    refine settle_agrees valueOnly (levels + 1) rule pos
      (Simulates.shift (attempt_simulates (agrees_respects valueOnly) false rule ih pos ?_ ?_ ?_))
    · intro s s' agrees
      exact ⟨by simp [agrees.stack],by simp [openMatches,agrees.active],agrees.kept⟩
    · rintro s s' u result agrees grown (deep | crosses)
      · exact .inl deep
      · exact .inr (crosses.of_suffix (leave_trace u rule pos result))
    · intro s s' u u' result n agrees grown _ _ inner ran
      refine inner.leave grown result ?_
      rintro outcome frame outer rfl stack free
      obtain ⟨v,alone,_⟩ := settled_alone (t := t.plain) valueOnly rfl ran (inner.stack.trans stack) free
      exact ⟨n + 1,v,alone⟩

theorem agrees_start (context : Context) : Agrees t { context } {} :=
  ⟨rfl,rfl,fun _ _ _ known => by simp [Memo.get?] at known⟩

/-- Kept outcomes are canonical where no outcome was recalled inside a match that its rule enters:
a fresh parser comes to the same. -/
theorem kept_outcome_canonical (t : Task) (valueOnly : t.ValueOnly)
    {start rule : Fin t.grammar.rules.length}
    (parsed : matchRule t.recalling limit start first { context } = (result,s))
    (straight : ¬Astray t (fault result) s)
    (kept : s.memo.get? rule pos = some outcome)
    (fresh : matchRule t.recalling limit' rule pos { context := context' } = (result',s'))
    (straight' : ¬Astray t (fault result') s') : result' = .ok outcome := by
  have reached := (matchRule_agrees valueOnly limit start first).step _ _ (agrees_start context)
  have reached' := (matchRule_agrees valueOnly limit' rule pos).step _ _ (agrees_start context')
  rw [parsed] at reached
  rw [fresh] at reached'
  obtain ⟨u,_,agrees,_⟩ := reached.resolve_left straight
  obtain ⟨u',least,_,same⟩ := reached'.resolve_left straight'
  obtain ⟨levels,v,alone⟩ := agrees.kept rule pos outcome kept
  have shallow : ¬TooDeep (fault result') u' := fun deep => straight' (.inl deep)
  exact (alone_unique alone (same least (Nat.le_refl least)) shallow).1

def cycle (tops : List Alternative) (lexemes : Array Lexeme) : Task where
  grammar := {
    tokens := [⟨"X","x",0,.pattern,none,none,.set (.ofChars ['x']),none,none⟩,
      ⟨"Y","y",0,.pattern,none,none,.set (.ofChars ['y']),none,none⟩,
      ⟨"Z","z",0,.pattern,none,none,.set (.ofChars ['z']),none,none⟩]
    rules := [⟨"top",tops⟩,⟨"a",[⟨["b","X"],"",0,.none⟩]⟩,
      ⟨"b",[⟨["a","Y"],"",0,.none⟩,⟨["Y"],"",0,.none⟩]⟩,
      ⟨"tail",[⟨["X","Y"],"",0,.none⟩,⟨[],"",0,.none⟩]⟩] }
  lexemes := lexemes

theorem cycle_valueOnly (tops : List Alternative) (lexemes : Array Lexeme) : (cycle tops lexemes).ValueOnly :=
  fun _ _ registered => nomatch registered

def twice : Task := cycle [⟨["a","Z"],"",0,.none⟩,⟨["a"],"",0,.none⟩] #[⟨"Y","y",0,1⟩,⟨"X","x",2,3⟩]

def twice.top : Fin twice.grammar.rules.length := ⟨0,by decide⟩
def twice.a : Fin twice.grammar.rules.length := ⟨1,by decide⟩

def twice.events : List Event :=
  [.settled 1 0 (some ⟨.list [.str "y",.str "x"],2⟩) true,.invoked 1 "" 0 2,
    .settled 2 0 (some ⟨.str "y",1⟩) false,.invoked 2 "" 0 1,.reentered 1 0 none,.entered 2 0,.entered 1 0]

theorem kept_outcome_canonical_twice :
    twice.ValueOnly ∧ ∃ s result' s',
      matchRule twice.recalling 200 twice.top 0 {} = (.ok (some ⟨.list [.str "y",.str "x"],2⟩),s) ∧
      ¬Astray twice none s ∧ s.memo.get? twice.a 0 = some (some ⟨.list [.str "y",.str "x"],2⟩) ∧
      matchRule twice.recalling 200 twice.a 0 {} = (result',s') ∧ ¬Astray twice (fault result') s' ∧
      result' = .ok (some ⟨.list [.str "y",.str "x"],2⟩) := by
  have parsed : matchRule twice.recalling 200 twice.top 0 {} =
      (.ok (some ⟨.list [.str "y",.str "x"],2⟩),(matchRule twice.recalling 200 twice.top 0 {}).2) := by rfl
  have kept : (matchRule twice.recalling 200 twice.top 0 {}).2.memo.get? twice.a 0 =
      some (some ⟨.list [.str "y",.str "x"],2⟩) := by rfl
  have alone : matchRule twice.plain 200 twice.a 0 {} =
      (.ok (some ⟨.list [.str "y",.str "x"],2⟩),(matchRule twice.plain 200 twice.a 0 {}).2) := by rfl
  have straight : ¬Astray twice none (matchRule twice.recalling 200 twice.top 0 {}).2 := by
    have trace : (matchRule twice.recalling 200 twice.top 0 {}).2.trace =
        .settled 0 0 (some ⟨.list [.str "y",.str "x"],2⟩) true :: .invoked 0 "" 0 2 ::
          .recalled 1 0 (some ⟨.list [.str "y",.str "x"],2⟩) :: .mismatched 2 "Z" 0 ::
          (twice.events ++ [.entered 0 0]) := by rfl
    have entered : (matchRule twice.plain 200 twice.a 0 {}).2.trace = twice.events := by rfl
    rintro (⟨_,_,deep⟩ | crosses)
    · cases deep
    rw [trace] at crosses
    rcases crosses with ⟨other,member,enters⟩ | rest
    · obtain rfl : other = (0,0) := by simpa [openMatches,twice.events] using member
      have member' := (enters_iff alone (0,0)).mp enters
      simp [entered,twice.events] at member'
    · exact rest
  have fresh : matchRule twice.recalling 200 twice.a 0 {} =
      ((matchRule twice.recalling 200 twice.a 0 {}).1,(matchRule twice.recalling 200 twice.a 0 {}).2) := rfl
  have straight' : ¬Astray twice (fault (matchRule twice.recalling 200 twice.a 0 {}).1)
      (matchRule twice.recalling 200 twice.a 0 {}).2 := by
    have ok : fault (matchRule twice.recalling 200 twice.a 0 {}).1 = none := by rfl
    have trace : (matchRule twice.recalling 200 twice.a 0 {}).2.trace = twice.events := by rfl
    rw [ok]
    rintro (⟨_,_,deep⟩ | crosses)
    · cases deep
    · rw [trace] at crosses
      exact crosses
  exact ⟨cycle_valueOnly _ _,_,_,_,parsed,straight,kept,fresh,straight',
    kept_outcome_canonical twice (cycle_valueOnly _ _) parsed straight kept fresh straight'⟩

def crossed : Task := cycle [⟨["a","Z"],"",0,.none⟩,⟨["b","tail"],"",0,.none⟩]
  #[⟨"Y","y",0,1⟩,⟨"X","x",2,3⟩,⟨"Y","y",4,5⟩]

def crossed.top : Fin crossed.grammar.rules.length := ⟨0,by decide⟩
def crossed.b : Fin crossed.grammar.rules.length := ⟨2,by decide⟩

/-- After `a` was matched, `b` comes to three tokens, but on its own to one. -/
theorem kept_outcome_not_canonical :
    crossed.ValueOnly ∧ ∃ answer outcome fresh s u,
      matchRule crossed 200 crossed.top 0 {} = (.ok answer,s) ∧ s.memo.get? crossed.b 0 = some outcome ∧
      matchRule crossed 200 crossed.b 0 {} = (.ok fresh,u) ∧ fresh ≠ outcome ∧
      outcome.map (·.stop) = some 3 ∧ fresh.map (·.stop) = some 1 := by
  have stops : (matchRule crossed 200 crossed.top 0 {}).1.toOption.map (Option.map (·.stop)) =
      some (some 3) := by decide +kernel
  have kept : ((matchRule crossed 200 crossed.top 0 {}).2.memo.get? crossed.b 0).map (Option.map (·.stop)) =
      some (some 3) := by decide +kernel
  have stops' : (matchRule crossed 200 crossed.b 0 {}).1.toOption.map (Option.map (·.stop)) =
      some (some 1) := by decide +kernel
  cases parsed : matchRule crossed 200 crossed.top 0 {} with
  | mk result s =>
    cases ran : matchRule crossed 200 crossed.b 0 {} with
    | mk result' u =>
      rw [parsed] at stops kept
      rw [ran] at stops'
      obtain ⟨outcome,known,stop⟩ := Option.map_eq_some_iff.mp kept
      cases result with
      | error e => cases stops
      | ok answer =>
        cases result' with
        | error e => cases stops'
        | ok fresh =>
          have stop' : fresh.map (·.stop) = some 1 := Option.some.inj stops'
          refine ⟨cycle_valueOnly _ _,answer,outcome,fresh,s,u,rfl,known,rfl,?_,stop,stop'⟩
          rintro rfl
          rw [stop] at stop'
          cases stop'

end Packrat.Match
