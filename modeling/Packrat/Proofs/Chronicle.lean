import Packrat.Proofs.Upkeep

/-! What a parse records stays. The trace of a parse is a chronicle, in which every event is accounted
for by the ones before it. So once the outcome of a match is kept, the match is only ever recalled,
and a match whose outcome is not kept had re-entered one that was open around it. -/
namespace Packrat

namespace Match

def Event.match? : Event → Option (Nat × Nat)
  | recalled rule pos _ | reentered rule pos _ | entered rule pos | settled rule pos _ _
  | abandoned rule pos | grew rule pos _ _ => some (rule,pos)
  | invoked rule _ start _ | rejected rule _ _ start _ _ => some (rule,start)
  | mismatched .. | defaulted .. => none

/-- Since the rule was last entered at the position, a match was re-entered that was open by then. -/
def Leans (trace : List Event) (rule pos : Nat) : Prop :=
  ∃ inside earlier r p seed, trace = inside ++ .entered rule pos :: earlier ∧ .entered rule pos ∉ inside ∧
    .reentered r p seed ∈ inside ∧ (r,p) ∈ openMatches earlier

/-- How the past accounts for an event. -/
def Follows (past : List Event) : Event → Prop
  | .recalled rule pos outcome => .settled rule pos outcome true ∈ past
  | .reentered rule pos _ => (rule,pos) ∈ openMatches past
  | .entered rule pos => (rule,pos) ∉ openMatches past ∧ (∀ outcome, .settled rule pos outcome true ∉ past) ∧
      ∀ r p, .abandoned r p ∉ past
  | .settled rule pos _ kept => (openMatches past).head? = some (rule,pos) ∧ (kept = false → Leans past rule pos)
  | e => ∀ m ∈ e.match?, (openMatches past).head? = some m

def Chronicle : List Event → Prop
  | [] => True
  | e :: past => Follows past e ∧ Chronicle past

theorem Leans.cons (leans : Leans trace rule pos) (other : e ≠ .entered rule pos) : Leans (e :: trace) rule pos := by
  obtain ⟨inside,earlier,r,p,seed,rfl,first,member,opened⟩ := leans
  exact ⟨e :: inside,earlier,r,p,seed,rfl,by simp [other.symm,first],List.mem_cons_of_mem _ member,opened⟩

def Event.Ends (rule pos : Nat) : Event → Prop
  | settled r p _ _ | abandoned r p => r = rule ∧ p = pos
  | _ => False

/-- An event begins a match, or ends the innermost one, or leaves the open matches as they are. -/
theorem Follows.openMatches_cases (follows : Follows past e) :
    (∃ rule pos, e = .entered rule pos ∧ openMatches (e :: past) = (rule,pos) :: openMatches past) ∨
    (∃ rule pos, e.Ends rule pos ∧ openMatches past = (rule,pos) :: openMatches (e :: past)) ∨
    ((∀ rule pos, e ≠ .entered rule pos ∧ ¬e.Ends rule pos) ∧ openMatches (e :: past) = openMatches past) := by
  cases e with
  | entered rule pos => exact .inl ⟨rule,pos,rfl,rfl⟩
  | settled rule pos outcome kept =>
    exact .inr (.inl ⟨rule,pos,⟨rfl,rfl⟩,List.eq_cons_of_mem_head? follows.1⟩)
  | abandoned rule pos => exact .inr (.inl ⟨rule,pos,⟨rfl,rfl⟩,List.eq_cons_of_mem_head? (follows _ rfl)⟩)
  | _ => exact .inr (.inr ⟨fun _ _ => ⟨by simp,id⟩,rfl⟩)

namespace Chronicle

theorem of_suffix (chronicle : Chronicle trace) (suffix : past <:+ trace) : Chronicle past := by
  obtain ⟨later,rfl⟩ := suffix
  induction later with
  | nil => exact chronicle
  | cons e later ih => exact ih chronicle.2

theorem nodup (chronicle : Chronicle trace) : (openMatches trace).Nodup := by
  induction trace with
  | nil => exact List.nodup_nil
  | cons e past ih =>
    obtain ⟨follows,before⟩ := chronicle
    rcases follows.openMatches_cases with ⟨rule,pos,rfl,now⟩ | ⟨rule,pos,_,now⟩ | ⟨_,now⟩
    · rw [now]
      exact List.nodup_cons.mpr ⟨follows.1,ih before⟩
    · have distinct := ih before
      rw [now] at distinct
      exact (List.nodup_cons.mp distinct).2
    · rw [now]
      exact ih before

/-- A match whose outcome is kept is not open again. -/
theorem closed (chronicle : Chronicle trace) (kept : .settled rule pos outcome true ∈ trace) :
    (rule,pos) ∉ openMatches trace := by
  induction trace with
  | nil => cases kept
  | cons e past ih =>
    obtain ⟨follows,before⟩ := chronicle
    rcases List.mem_cons.mp kept with rfl | old
    · have distinct := before.nodup
      rw [List.eq_cons_of_mem_head? follows.1] at distinct
      exact (List.nodup_cons.mp distinct).1
    · have shut := ih before old
      rcases follows.openMatches_cases with ⟨r,p,rfl,now⟩ | ⟨r,p,_,now⟩ | ⟨_,now⟩
      · rw [now,List.mem_cons]
        rintro (same | opened)
        · cases same
          exact follows.2.1 outcome old
        · exact shut opened
      · intro opened
        exact shut (by rw [now]; exact List.mem_cons_of_mem _ opened)
      · rw [now]
        exact shut

/-- After its outcome is kept, a match is only ever recalled, and with this outcome. -/
theorem once (chronicle : Chronicle (later ++ .settled rule pos outcome true :: past)) (member : e ∈ later)
    (about : e.match? = some (rule,pos)) : e = .recalled rule pos outcome := by
  induction later generalizing e with
  | nil => cases member
  | cons e' later ih =>
    obtain ⟨follows,before⟩ := chronicle
    rcases List.mem_cons.mp member with rfl | old
    swap
    · exact ih before old about
    have kept : .settled rule pos outcome true ∈ later ++ .settled rule pos outcome true :: past := by simp
    have shut := before.closed kept
    have innermost (head : (openMatches (later ++ .settled rule pos outcome true :: past)).head? = some (rule,pos)) :
        False := shut (List.mem_of_mem_head? head)
    cases e with
    | recalled r p o =>
      cases about
      have known : .settled rule pos o true ∈ later ++ .settled rule pos outcome true :: past := follows
      rcases List.mem_append.mp known with after | before'
      · cases ih before after rfl
      · rcases List.mem_cons.mp before' with same | earlier
        · cases same
          rfl
        · have first : Chronicle (.settled rule pos outcome true :: past) := before.of_suffix (List.suffix_append _ _)
          exact absurd (List.mem_of_mem_head? first.1.1) (first.2.closed earlier)
    | reentered r p seed =>
      cases about
      exact absurd follows shut
    | entered r p =>
      cases about
      exact absurd kept (follows.2.1 outcome)
    | settled r p o k =>
      cases about
      exact (innermost follows.1).elim
    | abandoned | grew | invoked | rejected => exact (innermost (follows _ about)).elim
    | mismatched | defaulted => cases about

/-- An open match was entered last with the matches around it open. -/
theorem begun (chronicle : Chronicle trace) (opened : openMatches trace = newer ++ (rule,pos) :: outer) :
    ∃ inside earlier, trace = inside ++ .entered rule pos :: earlier ∧ .entered rule pos ∉ inside ∧
      openMatches earlier = outer := by
  induction trace generalizing newer with
  | nil => simp [openMatches] at opened
  | cons e past ih =>
    obtain ⟨follows,before⟩ := chronicle
    have more (newer : List (Nat × Nat)) (opened : openMatches past = newer ++ (rule,pos) :: outer)
        (other : e ≠ .entered rule pos) : ∃ inside earlier, e :: past = inside ++ .entered rule pos :: earlier ∧
          .entered rule pos ∉ inside ∧ openMatches earlier = outer := by
      obtain ⟨inside,earlier,rfl,first,around⟩ := ih before opened
      exact ⟨e :: inside,earlier,rfl,by simp [other.symm,first],around⟩
    rcases follows.openMatches_cases with ⟨r,p,rfl,now⟩ | ⟨r,p,ends,now⟩ | ⟨quiet,now⟩
    · rw [now] at opened
      cases newer with
      | nil =>
        cases opened
        exact ⟨[],past,rfl,by simp,rfl⟩
      | cons m newer =>
        obtain ⟨_,rest⟩ := List.cons.inj opened
        refine more newer rest ?_
        rintro ⟨⟩
        exact follows.1 (by rw [rest]; simp)
    · refine more ((r,p) :: newer) (by rw [now,opened]; rfl) ?_
      rintro rfl
      exact ends
    · exact more newer (now ▸ opened) (quiet rule pos).1

/-- A match that was entered is still open, or it was ended before it was entered again. -/
theorem open_or_ended (chronicle : Chronicle (later ++ .entered rule pos :: earlier)) :
    ((rule,pos) ∈ openMatches (later ++ .entered rule pos :: earlier) ∧ .entered rule pos ∉ later) ∨
    ∃ after last inside, later = after ++ last :: inside ∧ last.Ends rule pos ∧ .entered rule pos ∉ inside := by
  induction later with
  | nil => exact .inl ⟨List.mem_cons_self,by simp⟩
  | cons e later ih =>
    rw [List.cons_append] at chronicle ⊢
    obtain ⟨follows,before⟩ := chronicle
    rcases ih before with ⟨opened,first⟩ | ⟨after,last,inside,rfl,ends,first⟩
    swap
    · exact .inr ⟨e :: after,last,inside,rfl,ends,first⟩
    rcases follows.openMatches_cases with ⟨r,p,rfl,now⟩ | ⟨r,p,ends,now⟩ | ⟨quiet,now⟩
    · rw [now]
      refine .inl ⟨List.mem_cons_of_mem _ opened,?_⟩
      simp only [List.mem_cons,not_or]
      refine ⟨?_,first⟩
      rintro ⟨⟩
      exact follows.1 opened
    · rw [now] at opened
      rcases List.mem_cons.mp opened with same | around
      · cases same
        exact .inr ⟨[],e,later,rfl,ends,first⟩
      · refine .inl ⟨around,?_⟩
        simp only [List.mem_cons,not_or]
        refine ⟨?_,first⟩
        rintro rfl
        exact ends
    · rw [now]
      exact .inl ⟨opened,by simp [(quiet rule pos).1.symm,first]⟩

/-- A match is entered a second time only after its outcome hung on a match around it. -/
theorem again (chronicle : Chronicle (.entered rule pos :: (between ++ .entered rule pos :: earlier))) :
    ∃ (after inside : List Event) (outcome seed : Option Matched) (r p : Nat),
      between = after ++ .settled rule pos outcome false :: inside ∧ .entered rule pos ∉ inside ∧
      .reentered r p seed ∈ inside ∧ (r,p) ∈ openMatches earlier := by
  obtain ⟨⟨shut,unkept,running⟩,before⟩ := chronicle
  rcases before.open_or_ended with ⟨opened,_⟩ | ⟨after,last,inside,rfl,ends,first⟩
  · exact absurd opened shut
  have past : Chronicle (last :: (inside ++ .entered rule pos :: earlier)) := by
    refine before.of_suffix ⟨after,?_⟩
    simp
  cases last with
  | settled r p outcome kept =>
    obtain ⟨rfl,rfl⟩ := ends
    cases kept with
    | true => exact absurd (by simp) (unkept outcome)
    | false =>
      obtain ⟨inside',earlier',r',p',seed,same,first',member,opened⟩ := past.1.2 rfl
      -- Both are what happened since the rule was last entered.
      obtain ⟨rfl,rfl⟩ : inside' = inside ∧ earlier' = earlier := by
        rcases List.append_eq_append_iff.mp same with ⟨more,eq,eq'⟩ | ⟨more,eq,eq'⟩
        · cases more with
          | nil => simp_all
          | cons e more =>
            obtain ⟨rfl,_⟩ := List.cons.inj eq'
            exact absurd (by rw [eq]; simp) first'
        · cases more with
          | nil => simp_all
          | cons e more =>
            obtain ⟨rfl,_⟩ := List.cons.inj eq'
            exact absurd (by rw [eq]; simp) first
      exact ⟨after,inside',outcome,seed,r',p',rfl,first,member,opened⟩
  | abandoned r p => exact absurd (by simp) (running r p)
  | _ => exact ends.elim

end Chronicle

/-- The innermost frame of the match, and the marks on all frames inside it. -/
theorem markInside_eq_some {stack : List Frame} (found : markInside rule pos stack = some (seed,marked)) :
    ∃ inner frame outer, stack = inner ++ frame :: outer ∧ frame.rule = rule ∧ frame.pos = pos ∧
      marked = inner.map Frame.marked ++ frame :: outer := by
  induction stack generalizing marked with
  | nil => cases found
  | cons frame outer ih =>
    simp only [markInside] at found
    split at found
    · rename_i same
      cases found
      exact ⟨[],frame,outer,rfl,same.1,same.2,rfl⟩
    · obtain ⟨⟨seed',outer'⟩,inside,eq⟩ := Option.map_eq_some_iff.mp found
      cases eq
      obtain ⟨inner,frame',outer'',rfl,sameRule,samePos,rfl⟩ := ih inside
      exact ⟨frame :: inner,frame',outer'',rfl,sameRule,samePos,rfl⟩

def Event.Aside : Event → Prop
  | entered .. | settled .. | abandoned .. => False
  | _ => True

namespace Event.Aside

variable {e : Event} (aside : e.Aside)

include aside

theorem ne_entered : e ≠ .entered rule pos := by
  rintro rfl
  exact aside

theorem ne_settled : e ≠ .settled rule pos outcome kept := by
  rintro rfl
  exact aside

theorem ne_abandoned : e ≠ .abandoned rule pos := by
  rintro rfl
  exact aside

theorem openMatches_eq (trace : List Event) : openMatches (e :: trace) = openMatches trace := by
  cases e with
  | entered | settled | abandoned => exact aside.elim
  | _ => rfl

end Event.Aside

theorem Event.Own.aside {e : Event} (own : e.Own rule pos) : e.Aside := by
  cases e with
  | entered | settled | abandoned => exact own.elim
  | _ => trivial

/-- What a rule notes is noted while it is the innermost one. -/
theorem Event.Own.follows {e : Event} (own : e.Own rule pos) (innermost : (openMatches past).head? = some (rule,pos)) :
    Follows past e := by
  cases e with
  | mismatched | defaulted => intro m member; cases member
  | invoked | rejected | grew =>
    obtain ⟨rfl,rfl⟩ := own
    intro m member
    cases member
    exact innermost
  | _ => exact own.elim

/-- The state tells what the trace tells: which matches are open, and which outcomes are kept. -/
structure Recorded (a : Option Abort) (s : State) : Prop where
  active : openMatches s.trace = s.active
  chronicle : Chronicle s.trace
  table : ∀ rule pos outcome, s.memo.get? rule pos = some outcome ↔ .settled rule pos outcome true ∈ s.trace
  leans : ∀ f ∈ s.stack, f.dependent = true → Leans s.trace f.rule f.pos
  running : a = none → ∀ rule pos, .abandoned rule pos ∉ s.trace

namespace Recorded

theorem start (context : Context) : Recorded none { context } where
  active := rfl
  chronicle := trivial
  table rule pos outcome := by simp [Memo.get?]
  leans _ member := nomatch member
  running _ _ _ member := nomatch member

theorem leans_cons (recorded : Recorded a s) (aside : e.Aside) (member : f ∈ s.stack) (dependent : f.dependent = true) :
    Leans (e :: s.trace) f.rule f.pos :=
  (recorded.leans f member dependent).cons aside.ne_entered

/-- One more event that neither begins nor ends a match. -/
theorem aside (recorded : Recorded none s) (follows : Follows s.trace e) (aside : e.Aside)
    (trace : u.trace = e :: s.trace) (active : u.active = s.active)
    (memo : ∀ rule pos, u.memo.get? rule pos = s.memo.get? rule pos)
    (leans : ∀ f ∈ u.stack, f.dependent = true → Leans (e :: s.trace) f.rule f.pos) : Recorded none u where
  active := by rw [trace,aside.openMatches_eq,active,recorded.active]
  chronicle := by rw [trace]; exact ⟨follows,recorded.chronicle⟩
  table rule pos outcome := by
    rw [memo,trace,recorded.table,List.mem_cons]
    simp [aside.ne_settled.symm]
  leans := by rw [trace]; exact leans
  running _ rule pos member := by
    rw [trace] at member
    rcases List.mem_cons.mp member with same | old
    · exact aside.ne_abandoned same.symm
    · exact recorded.running rfl rule pos old

theorem known {u : State} (recorded : Recorded a s) (recorded' : Recorded a' u) (suffix : s.trace <:+ u.trace)
    (known : s.memo.get? rule pos = some outcome) : u.memo.get? rule pos = some outcome :=
  (recorded'.table rule pos outcome).mpr (suffix.subset ((recorded.table rule pos outcome).mp known))

/-- An outcome is kept unless it hangs on a match around. While the match was open, nothing was kept
for it. -/
theorem table_settled (recorded : Recorded a s) (opened : (rule,pos) ∈ openMatches s.trace) (dependent : Bool)
    (r p : Nat) (o : Option Matched) :
    (if dependent then s.memo else s.memo.record rule pos outcome).get? r p = some o ↔
      .settled r p o true ∈ .settled rule pos outcome (!dependent) :: s.trace := by
  rw [List.mem_cons]
  cases dependent with
  | true => simpa using recorded.table r p o
  | false =>
    simp only [Bool.false_eq_true,if_false,get?_record]
    split
    · rename_i same
      cases same
      have fresh : .settled rule pos o true ∉ s.trace := fun old => recorded.chronicle.closed old opened
      simp [fresh,eq_comm]
    · rename_i differ
      have other : Event.settled r p o true ≠ .settled rule pos outcome !false := by
        rintro ⟨⟩
        exact differ rfl
      rw [recorded.table]
      simp only [other,false_or]

theorem leave {rule : Fin t.grammar.rules.length} (tried : Tried t Recorded levels rule pos s result u) :
    Recorded (fault result) (u.leave rule pos result) := by
  obtain ⟨frame,outer,stack,sameRule,samePos,ages⟩ := tried.grows.open_frame
  have recorded := tried.after.holds
  have innermost : openMatches u.trace = ((rule : Nat),pos) :: outer.map fun f => (f.rule,f.pos) := by
    rw [recorded.active,State.active,stack,List.map_cons,sameRule,samePos]
  have leans {f : Frame} (member : f ∈ outer) (dependent : f.dependent = true) : Leans u.trace f.rule f.pos :=
    recorded.leans f (by rw [stack]; exact List.mem_cons_of_mem _ member) dependent
  cases result with
  | error e =>
    rw [State.leave_error u rule pos e stack]
    have follows : Follows u.trace (.abandoned rule pos) := by
      intro m member
      cases member
      rw [innermost]
      rfl
    refine ⟨by simp [openMatches,innermost,State.active],⟨follows,recorded.chronicle⟩,?_,?_,by simp [fault]⟩
    · simpa using recorded.table
    · exact fun f member dependent => (leans member dependent).cons (by simp)
  | ok outcome =>
    rw [State.leave_ok u rule pos outcome stack]
    have follows : Follows u.trace (.settled rule pos outcome !frame.dependent) := by
      refine ⟨by rw [innermost]; rfl,fun unkept => ?_⟩
      rw [← sameRule,← samePos]
      exact recorded.leans frame (by rw [stack]; exact List.mem_cons_self) (by simpa using unkept)
    refine ⟨by simp [openMatches,innermost,State.active],⟨follows,recorded.chronicle⟩,?_,?_,?_⟩
    · exact recorded.table_settled (by rw [innermost]; exact List.mem_cons_self) frame.dependent
    · exact fun f member dependent => (leans member dependent).cons (by simp)
    · intro _ r p member
      rcases List.mem_cons.mp member with same | old
      · cases same
      · exact recorded.running rfl r p old

theorem setSeed (recorded : Recorded none s) (seed : Option Matched) : Recorded none (setSeed seed s).2 := by
  have trace : (Match.setSeed seed s).2.trace = s.trace := by rw [setSeed_state]
  refine ⟨?_,?_,?_,?_,?_⟩
  · rw [trace,setSeed_active,recorded.active]
  · rw [trace]
    exact recorded.chronicle
  · rw [trace,setSeed_memo]
    exact recorded.table
  · rw [trace]
    intro f member dependent
    unfold Match.setSeed at member
    split at member
    · exact recorded.leans f member dependent
    · rename_i frame outer stack
      rcases List.mem_cons.mp member with rfl | outside
      · exact recorded.leans frame (by rw [stack]; exact List.mem_cons_self) dependent
      · exact recorded.leans f (by rw [stack]; exact List.mem_cons_of_mem _ outside) dependent
  · rw [trace]
    exact recorded.running

/-- The match of a frame inside began when that of the frame was open already. -/
theorem leans_inside (recorded : Recorded a s) (stack : s.stack = inside ++ frame :: outer) (member : f ∈ inside)
    (seed : Option Matched) : Leans (.reentered frame.rule frame.pos seed :: s.trace) f.rule f.pos := by
  obtain ⟨before,after,rfl⟩ := List.append_of_mem member
  have place : openMatches s.trace = (before.map fun f => (f.rule,f.pos)) ++
      (f.rule,f.pos) :: (after ++ frame :: outer).map fun f => (f.rule,f.pos) := by
    rw [recorded.active,State.active,stack]
    simp
  obtain ⟨later,earlier,trace,first,around⟩ := recorded.chronicle.begun place
  refine ⟨.reentered frame.rule frame.pos seed :: later,earlier,frame.rule,frame.pos,seed,?_,?_,?_,?_⟩
  · rw [trace]
    rfl
  · simpa using first
  · exact List.mem_cons_self
  · rw [around]
    simp

theorem reenter (recorded : Recorded none s) (found : markInside rule pos s.stack = some (seed,stack)) :
    Recorded none { s with stack, trace := .reentered rule pos seed :: s.trace } := by
  have same := ages_pairs (markInside_ages found)
  obtain ⟨inside,frame,outer,frames,rfl,rfl,rfl⟩ := markInside_eq_some found
  have follows : Follows s.trace (.reentered frame.rule frame.pos seed) := by
    rw [Follows,recorded.active,State.active,frames]
    simp
  refine recorded.aside follows trivial rfl same (fun _ _ => rfl) fun f member dependent => ?_
  rcases List.mem_append.mp member with marked | outside
  · obtain ⟨g,unmarked,rfl⟩ := List.mem_map.mp marked
    exact recorded.leans_inside frames unmarked seed
  · exact recorded.leans_cons trivial (by rw [frames]; exact List.mem_append_right _ outside) dependent

theorem enter (recorded : Recorded none s) (unknown : s.memo.get? rule pos = none) (fresh : (rule,pos) ∉ s.active) :
    Recorded none (s.enter rule pos) := by
  have unkept : ∀ outcome, .settled rule pos outcome true ∉ s.trace := by
    intro outcome old
    have known := (recorded.table rule pos outcome).mpr old
    rw [unknown] at known
    cases known
  have shut : (rule,pos) ∉ openMatches s.trace := by
    rw [recorded.active]
    exact fresh
  refine ⟨?_,⟨⟨shut,unkept,recorded.running rfl⟩,recorded.chronicle⟩,?_,?_,?_⟩
  · simp [openMatches,recorded.active]
  · intro r p outcome
    rw [State.enter_trace,List.mem_cons]
    exact (recorded.table r p outcome).trans (by simp)
  · intro f member dependent
    rcases List.mem_cons.mp member with rfl | outside
    · cases dependent
    · refine (recorded.leans f outside dependent).cons ?_
      rintro ⟨⟩
      exact fresh (List.mem_map_of_mem (f := fun f : Frame => (f.rule,f.pos)) outside)
  · intro _ r p member
    rcases List.mem_cons.mp member with same | old
    · cases same
    · exact recorded.running rfl r p old

theorem upkeep (t : Task) (recalls : t.recalls = true) : Upkeep t Recorded where
  abort e recorded := ⟨recorded.active,recorded.chronicle,recorded.table,recorded.leans,by simp⟩
  blind := by
    intro s u recorded stack memo trace
    refine ⟨?_,?_,?_,?_,?_⟩
    · rw [trace,recorded.active,State.active,State.active,stack]
    · rw [trace]
      exact recorded.chronicle
    · rw [memo,trace]
      exact recorded.table
    · rw [stack,trace]
      exact recorded.leans
    · rw [trace]
      exact recorded.running
  own := by
    intro s e rule pos recorded inside own
    have innermost : (openMatches s.trace).head? = some (rule,pos) := by rw [recorded.active,inside]
    exact recorded.aside (own.follows innermost) own.aside rfl rfl (fun _ _ => rfl)
      fun _ member => recorded.leans_cons own.aside member
  seed seed recorded := recorded.setSeed seed
  recalled := by
    intro s rule pos outcome recorded _ known
    have follows : Follows s.trace (.recalled rule pos outcome) := (recorded.table rule pos outcome).mp known
    exact recorded.aside follows trivial rfl rfl (fun _ _ => rfl) fun _ member => recorded.leans_cons trivial member
  reentered recorded _ found := recorded.reenter found
  entered recorded missed fresh := recorded.enter (missed recalls) fresh
  left tried := leave tried

/-- What a call does to the table, and what it returns if the table tells. -/
theorem call {t : Task} (recalls : t.recalls = true) (levels : Nat) (rule : Fin t.grammar.rules.length)
    (pos : Nat) (within : pos ≤ t.lexemes.size) (s : State) (upheld : Upheld t Recorded none s) :
    let ran := matchRule t levels rule pos s
    Upheld t Recorded (fault ran.1) ran.2 ∧
    (∀ r p outcome, s.memo.get? r p = some outcome → ran.2.memo.get? r p = some outcome) ∧
    ∀ outcome, s.memo.get? rule pos = some outcome →
      ran.1 = .ok outcome ∧ ran.2.trace = .recalled rule pos outcome :: s.trace := by
  intro ran
  have after := (upkeep t recalls).matchRule_upheld levels rule pos within upheld
  have grown := matchRule_grows t levels rule pos s
  refine ⟨after,fun r p outcome known => upheld.holds.known after.holds grown.trace known,?_⟩
  intro outcome known
  have same : ran = _ := (congrFun (matchRule_eq t levels rule pos) s).trans (settle_known recalls known)
  rw [same]
  exact ⟨rfl,rfl⟩

end Recorded

end Match

namespace Grammar

open Match in
/-- The table of a parse is written once. An outcome that is kept stays, every later call of the rule
at the position returns it, and neither the alternatives of the rule nor their actions are tried
there again. So a match is made a second time only if each time before it hung on a match around it. -/
theorem parse_settlesOnce (g : Grammar) (lexemes : List Lexeme) (functions : Functions) (config : Config) :
    let t := g.task lexemes functions config
    (∀ levels rule pos s, pos ≤ lexemes.length → Upheld t Recorded none s →
      let ran := matchRule t levels rule pos s
      Upheld t Recorded (fault ran.1) ran.2 ∧
      (∀ r p outcome, s.memo.get? r p = some outcome → ran.2.memo.get? r p = some outcome) ∧
      ∀ outcome, s.memo.get? rule pos = some outcome →
        ran.1 = .ok outcome ∧ ran.2.trace = .recalled rule pos outcome :: s.trace) ∧
    ∀ context start,
      let trace := (matchRule t config.maxDepth start 0 { context }).2.trace
      let memo := (matchRule t config.maxDepth start 0 { context }).2.memo
      Upheld t Recorded none { context } ∧
      (∀ rule pos outcome, memo.get? rule pos = some outcome ↔ .settled rule pos outcome true ∈ trace) ∧
      (∀ rule pos outcome (later past : List Event), trace = later ++ .settled rule pos outcome true :: past →
        ∀ e ∈ later, e.match? = some (rule,pos) → e = .recalled rule pos outcome) ∧
      (∀ rule pos (later between earlier : List Event),
        trace = later ++ .entered rule pos :: (between ++ .entered rule pos :: earlier) →
        ∃ (after inside : List Event) (outcome seed : Option Matched) (r p : Nat),
          between = after ++ .settled rule pos outcome false :: inside ∧ .entered rule pos ∉ inside ∧
          .reentered r p seed ∈ inside ∧ (r,p) ∈ openMatches earlier) ∧
      (Calm trace → ∀ rule pos (later earlier : List Event),
        trace = later ++ .entered rule pos :: earlier → .entered rule pos ∉ earlier) := by
  intro t
  have size : t.lexemes.size = lexemes.length := List.size_toArray
  refine ⟨fun levels rule pos s within => Recorded.call rfl levels rule pos (by omega) s,?_⟩
  intro context start trace memo
  have first : Upheld t Recorded none { context } := .start (.start context)
  have recorded := (Recorded.call rfl config.maxDepth start 0 (Nat.zero_le _) _ first).1.holds
  have again (rule pos : Nat) (later between earlier : List Event)
      (split : trace = later ++ .entered rule pos :: (between ++ .entered rule pos :: earlier)) :=
    (recorded.chronicle.of_suffix ⟨later,split.symm⟩).again
  refine ⟨first,recorded.table,?_,again,?_⟩
  · intro rule pos outcome later past split e member about
    have chronicle : Chronicle trace := recorded.chronicle
    rw [split] at chronicle
    exact chronicle.once member about
  · intro calm rule pos later earlier split member
    obtain ⟨between,before,rfl⟩ := List.append_of_mem member
    obtain ⟨after,inside,outcome,seed,r,p,rfl,_,reentered,_⟩ := again rule pos later between before split
    exact calm r p seed (by rw [split]; simp [reentered])

end Grammar

namespace Match

def leaning : Grammar where
  tokens := [⟨"X","x",0,.pattern,none,none,.set (.ofChars ['x']),none,none⟩,
    ⟨"Y","y",0,.pattern,none,none,.set (.ofChars ['y']),none,none⟩]
  rules := [⟨"a",[⟨["b","X"],"",0,.none⟩,⟨["b"],"",0,.none⟩]⟩,
    ⟨"b",[⟨["a"],"",0,.none⟩,⟨["item"],"",0,.none⟩]⟩,⟨"item",[⟨["Y"],"",0,.none⟩]⟩]

def leaning.a : Fin leaning.rules.length := ⟨0,by decide⟩

def leaning.trace : List Event :=
  (matchRule (leaning.task [⟨"Y","y",0,1⟩] {} {}) ({} : Config).maxDepth leaning.a 0 {}).2.trace

def leaning.y : Option Matched := some ⟨.str "y",1⟩

def leaning.later : List Event :=
  [.settled 0 0 leaning.y true,.invoked 0 "" 0 1,.settled 1 0 leaning.y false,.invoked 1 "" 0 1,
    .recalled 2 0 leaning.y,.reentered 0 0 none]

def leaning.between : List Event :=
  [.mismatched 1 "X" 0,.settled 1 0 leaning.y false,.invoked 1 "" 0 1,.settled 2 0 leaning.y true,
    .invoked 2 "" 0 1,.entered 2 0,.reentered 0 0 none]

theorem leaning.trace_eq : leaning.trace =
    leaning.later ++ Event.entered 1 0 :: (leaning.between ++ Event.entered 1 0 :: [Event.entered 0 0]) := by rfl

def leaning.calm : List Event :=
  (matchRule (Grammar.listed.task [⟨"X","x",0,1⟩] {} {}) ({} : Config).maxDepth ⟨0,by decide⟩ 0 {}).2.trace

theorem parse_settlesOnce_leaning :
    (∃ later past : List Event, leaning.trace = later ++ .settled 2 0 leaning.y true :: past ∧
      .recalled 2 0 leaning.y ∈ later ∧ ∀ e ∈ later, e.match? = some (2,0) → e = .recalled 2 0 leaning.y) ∧
    (∃ later between earlier : List Event,
      leaning.trace = later ++ .entered 1 0 :: (between ++ .entered 1 0 :: earlier) ∧
      ∃ (after inside : List Event) (outcome seed : Option Matched) (r p : Nat),
        between = after ++ .settled 1 0 outcome false :: inside ∧ .entered 1 0 ∉ inside ∧
        .reentered r p seed ∈ inside ∧ (r,p) ∈ openMatches earlier) ∧
    Calm leaning.calm ∧
      ∀ later earlier : List Event, leaning.calm = later ++ .entered 0 0 :: earlier → .entered 0 0 ∉ earlier := by
  obtain ⟨past,kept⟩ : ∃ past, leaning.trace = (leaning.later ++ [.entered 1 0,.mismatched 1 "X" 0,
      .settled 1 0 leaning.y false,.invoked 1 "" 0 1]) ++ .settled 2 0 leaning.y true :: past :=
    ⟨_,by rw [leaning.trace_eq]; rfl⟩
  have calm : Calm leaning.calm := by decide +kernel
  obtain ⟨_,_,once,again,_⟩ := (Grammar.parse_settlesOnce leaning [⟨"Y","y",0,1⟩] {} {}).2 {} leaning.a
  obtain ⟨_,_,_,_,first⟩ := (Grammar.parse_settlesOnce Grammar.listed [⟨"X","x",0,1⟩] {} {}).2 {} ⟨0,by decide⟩
  refine ⟨⟨_,_,kept,by simp [leaning.later],once 2 0 _ _ _ kept⟩,⟨_,_,_,leaning.trace_eq,?_⟩,calm,first calm 0 0⟩
  exact again 1 0 _ _ _ leaning.trace_eq

end Match

end Packrat
