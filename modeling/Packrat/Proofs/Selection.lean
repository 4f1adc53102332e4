import Mathlib.Data.List.Induction
import Packrat.Proofs.Failing
import Packrat.Proofs.Nesting

/-! Which of its failures a parse reports. The furthest of the missing tokens and the furthest of the
refusals are kept along the way; main statement: the error of a parse that was not given up is the
one that all its failures together call for. -/
namespace Packrat

structure Mismatch where
  pos : Nat
  token : String
  rule : String

namespace Failure

def mismatch? : Failure → Option Mismatch
  | expected pos token rule => some ⟨pos,token,rule⟩
  | rejected _ => none

def rejection? : Failure → Option Rejection
  | expected .. => none
  | rejected r => some r

def mismatches (failures : List Failure) : List Mismatch := failures.filterMap mismatch?

def rejections (failures : List Failure) : List Rejection := failures.filterMap rejection?

end Failure

/-- The first of those that reach furthest. -/
def Foremost (reach : α → Nat) (items : List α) (x : α) : Prop :=
  ∃ earlier later, items = earlier ++ x :: later ∧ (∀ y ∈ earlier, reach y < reach x) ∧
    ∀ y ∈ later, reach y ≤ reach x

namespace Foremost

variable {reach : α → Nat} {items : List α} {x y : α}

theorem mem (foremost : Foremost reach items x) : x ∈ items := by
  obtain ⟨earlier,later,rfl,_,_⟩ := foremost
  simp

theorem bound (foremost : Foremost reach items x) (member : y ∈ items) : reach y ≤ reach x := by
  obtain ⟨earlier,later,rfl,before,after⟩ := foremost
  rcases List.mem_append.mp member with early | late
  · exact Nat.le_of_lt (before y early)
  · rcases List.mem_cons.mp late with rfl | late
    · exact Nat.le_refl _
    · exact after y late

theorem append (foremost : Foremost reach items x) (le : reach y ≤ reach x) : Foremost reach (items ++ [y]) x := by
  obtain ⟨earlier,later,rfl,before,after⟩ := foremost
  refine ⟨earlier,later ++ [y],by simp,before,fun z member => ?_⟩
  rcases List.mem_append.mp member with old | new
  · exact after z old
  · obtain rfl := List.mem_singleton.mp new
    exact le

theorem overtake (items : List α) (further : ∀ z ∈ items, reach z < reach y) : Foremost reach (items ++ [y]) y :=
  ⟨items,[],rfl,further,by simp⟩

/-- There is only one: of two, the later would not reach further than the earlier. -/
theorem unique (foremost : Foremost reach items x) (foremost' : Foremost reach items y) : x = y := by
  obtain ⟨earlier,later,rfl,before,after⟩ := foremost
  obtain ⟨earlier',later',same,before',after'⟩ := foremost'
  rcases List.append_eq_append_iff.mp same with ⟨more,rfl,rest⟩ | ⟨more,rfl,rest⟩
  · cases more with
    | nil => exact (List.cons.inj rest).1
    | cons z more =>
      obtain ⟨rfl,rfl⟩ := List.cons.inj rest
      have lt := before' x (by simp)
      have le := after y (by simp)
      omega
  · cases more with
    | nil => exact (List.cons.inj rest).1.symm
    | cons z more =>
      obtain ⟨rfl,rfl⟩ := List.cons.inj rest
      have lt := before y (by simp)
      have le := after' x (by simp)
      omega

end Foremost

/-- The tokens that were required at a position, each once, as they came up. -/
def requiredAt (missing : List Mismatch) (pos : Nat) : List String :=
  ((missing.filter fun m => m.pos = pos).map (·.token)).eraseDups

section Required

variable {missing : List Mismatch} {m : Mismatch} {pos : Nat}

theorem requiredAt_append_other (other : m.pos ≠ pos) : requiredAt (missing ++ [m]) pos = requiredAt missing pos := by
  simp [requiredAt,other]

theorem requiredAt_append (missing : List Mismatch) (m : Mismatch) : requiredAt (missing ++ [m]) m.pos =
    if m.token ∈ requiredAt missing m.pos then requiredAt missing m.pos
    else requiredAt missing m.pos ++ [m.token] := by
  simp only [requiredAt,List.filter_append,List.map_append,List.eraseDups_append,List.mem_eraseDups]
  by_cases known : m.token ∈ (missing.filter fun y => y.pos = m.pos).map (·.token)
  · simp [List.removeAll,known]
  · simp [List.removeAll,known,List.eraseDups_cons]

theorem requiredAt_overtake (further : ∀ y ∈ missing, y.pos < m.pos) : requiredAt (missing ++ [m]) m.pos = [m.token] := by
  have nothing : requiredAt missing m.pos = [] := by
    have before : missing.filter (fun y => y.pos = m.pos) = [] :=
      List.filter_eq_nil_iff.mpr fun y member => by simp [Nat.ne_of_lt (further y member)]
    simp [requiredAt,before]
  simp [requiredAt_append,nothing]

theorem token_mem_requiredAt (member : m ∈ missing) : m.token ∈ requiredAt missing m.pos :=
  List.mem_eraseDups.mpr (List.mem_map_of_mem (List.mem_filter.mpr ⟨member,by simp⟩))

end Required

namespace Furthest

structure Tells (f : Furthest) (missing : List Mismatch) (refused : List Rejection) : Prop where
  refused : match f.rejection with
    | none => refused = []
    | some r => Foremost (·.stop) refused r
  missing : match f.pos with
    | none => missing = []
    | some pos => ∃ first, Foremost (·.pos) missing first ∧ first.pos = pos ∧ f.rule = some first.rule ∧
        f.expected = requiredAt missing pos

variable {f : Furthest} {missing : List Mismatch} {refused : List Rejection}

theorem Tells.noteRejection (tells : f.Tells missing refused) (r : Rejection) :
    (f.noteRejection r).Tells missing (refused ++ [r]) := by
  have kept := tells.refused
  unfold Furthest.noteRejection
  cases known : f.rejection with
  | none =>
    rw [known] at kept
    subst kept
    exact ⟨.overtake [] (by simp),tells.missing⟩
  | some current =>
    rw [known] at kept
    by_cases further : current.stop < r.stop
    · rw [if_pos (by simpa using further)]
      exact ⟨.overtake refused fun y member => Nat.lt_of_le_of_lt (kept.bound member) further,tells.missing⟩
    · rw [if_neg (by simpa using further)]
      refine ⟨?_,tells.missing⟩
      rw [known]
      exact kept.append (Nat.not_lt.mp further)

theorem Tells.noteExpected (tells : f.Tells missing refused) (m : Mismatch) :
    (f.noteExpected m.pos m.token m.rule).Tells (missing ++ [m]) refused := by
  have kept := tells.missing
  unfold Furthest.noteExpected
  cases reached : f.pos with
  | none =>
    rw [reached] at kept
    subst kept
    exact ⟨tells.refused,m,.overtake [] (by simp),rfl,rfl,(requiredAt_overtake (by simp)).symm⟩
  | some furthest =>
    rw [reached] at kept
    obtain ⟨first,foremost,rfl,rule,expected⟩ := kept
    dsimp only
    rcases Nat.lt_trichotomy m.pos first.pos with before | same | after
    · rw [if_pos before]
      refine ⟨tells.refused,?_⟩
      rw [reached]
      refine ⟨first,foremost.append (Nat.le_of_lt before),rfl,rule,?_⟩
      rw [requiredAt_append_other (Nat.ne_of_lt before)]
      exact expected
    · rw [if_neg (by omega),if_pos same]
      have here : f.expected = requiredAt missing m.pos := by rw [expected,same]
      have kept' : Foremost (·.pos) (missing ++ [m]) first := foremost.append (Nat.le_of_eq same)
      by_cases known : m.token ∈ f.expected
      · rw [if_pos (by simpa using known)]
        refine ⟨tells.refused,?_⟩
        rw [reached]
        refine ⟨first,kept',rfl,rule,?_⟩
        rw [← same,requiredAt_append,← here,if_pos known]
      · rw [if_neg (by simpa using known)]
        refine ⟨tells.refused,first,kept',rfl,rule,?_⟩
        rw [← same,requiredAt_append,← here,if_neg known]
    · rw [if_neg (by omega),if_neg (by omega)]
      have further (y : Mismatch) (member : y ∈ missing) : y.pos < m.pos :=
        Nat.lt_of_le_of_lt (foremost.bound member) after
      exact ⟨tells.refused,m,.overtake missing further,rfl,rfl,(requiredAt_overtake further).symm⟩

theorem Tells.note (tells : f.Tells missing refused) (failure : Failure) :
    (f.note failure).Tells (missing ++ Failure.mismatches [failure]) (refused ++ Failure.rejections [failure]) := by
  cases failure with
  | expected pos token rule =>
    have others : refused ++ Failure.rejections [.expected pos token rule] = refused := List.append_nil _
    rw [others]
    exact tells.noteExpected ⟨pos,token,rule⟩
  | rejected r =>
    have others : missing ++ Failure.mismatches [.rejected r] = missing := List.append_nil _
    rw [others]
    exact tells.noteRejection r

theorem ofFailures_tells (failures : List Failure) :
    (ofFailures failures).Tells (Failure.mismatches failures) (Failure.rejections failures) := by
  unfold ofFailures
  induction failures using List.reverseRecOn with
  | nil => exact ⟨rfl,rfl⟩
  | append_singleton earlier last ih =>
    have noted := ih.note last
    rw [List.foldl_append]
    simpa [Failure.mismatches,Failure.rejections] using noted

end Furthest

section Selection

variable (lexemes : Array Lexeme) (input start : String) (missing : List Mismatch) (refused : List Rejection)

/-- The error that failures call for. A refusal counts if no token was missing further on, and of
these the first that ends furthest; otherwise what was required at the last position counts. -/
inductive Selects : ParseError → Prop where
  | action (r : Rejection) (foremost : Foremost (·.stop) refused r) (covers : ∀ m ∈ missing, m.pos ≤ r.stop) :
    Selects (Lexeme.errorAt lexemes input r.start (.action r.rule r.action)
      ("action '" ++ r.action ++ "' of rule '" ++ r.rule ++ "' failed: " ++ r.message))
  | nothing (missed : missing = []) (accepted : refused = []) :
    Selects (Lexeme.errorAt lexemes input 0 (.noAlternative start [])
      ("no alternative matched for rule '" ++ start ++ "'"))
  | expectedToken (first : Mismatch) (foremost : Foremost (·.pos) missing first)
      (further : ∀ r ∈ refused, r.stop < first.pos) (token : String)
      (required : requiredAt missing first.pos = [token]) :
    Selects (Lexeme.errorAt lexemes input first.pos (.expectedToken token (lexemes[first.pos]?.map (·.kind)))
      ("expected token " ++ token ++ ", got " ++ Lexeme.describe lexemes[first.pos]?))
  | noAlternative (first : Mismatch) (foremost : Foremost (·.pos) missing first)
      (further : ∀ r ∈ refused, r.stop < first.pos) (tokens : List String)
      (required : requiredAt missing first.pos = tokens) (several : 2 ≤ tokens.length) :
    Selects (Lexeme.errorAt lexemes input first.pos (.noAlternative first.rule tokens)
      ("no alternative matched for rule '" ++ first.rule ++ "': expected one of " ++
        ", ".intercalate tokens ++ ", got " ++ Lexeme.describe lexemes[first.pos]?))

inductive Reports : Option Matched → ParseError → Prop where
  | failed (selects : Selects lexemes input start missing refused e) : Reports none e
  | further (m : Matched) (part : m.stop < lexemes.size)
      (beyond : (∃ x ∈ missing, m.stop < x.pos) ∨ ∃ r ∈ refused, m.stop < r.stop)
      (selects : Selects lexemes input start missing refused e) : Reports (some m) e
  | trailing (m : Matched) (part : m.stop < lexemes.size) (reached : ∀ x ∈ missing, x.pos ≤ m.stop)
      (accepted : ∀ r ∈ refused, r.stop ≤ m.stop) :
    Reports (some m) (Lexeme.errorAt lexemes input m.stop .trailingInput
      ("unexpected " ++ Lexeme.describe lexemes[m.stop]? ++ " after the end of '" ++ start ++ "'"))

variable {lexemes input start missing refused}

theorem Selects.unique (selects : Selects lexemes input start missing refused e)
    (selects' : Selects lexemes input start missing refused e') : e = e' := by
  -- A refusal that covers all missing tokens does not end before one of them.
  have apart {r : Rejection} {first : Mismatch} (foremost : Foremost (·.stop) refused r)
      (covers : ∀ m ∈ missing, m.pos ≤ r.stop) (foremost' : Foremost (·.pos) missing first)
      (further : ∀ r ∈ refused, r.stop < first.pos) : False :=
    Nat.lt_irrefl _ (Nat.lt_of_lt_of_le (further r foremost.mem) (covers first foremost'.mem))
  cases selects with
  | action r foremost covers =>
    cases selects' with
    | action r' foremost' covers' =>
      obtain rfl := foremost.unique foremost'
      rfl
    | nothing missed accepted => simpa [accepted] using foremost.mem
    | expectedToken first foremost' further => exact (apart foremost covers foremost' further).elim
    | noAlternative first foremost' further => exact (apart foremost covers foremost' further).elim
  | nothing missed accepted =>
    cases selects' with
    | action r' foremost' covers' => simpa [accepted] using foremost'.mem
    | nothing => rfl
    | expectedToken first foremost' further => simpa [missed] using foremost'.mem
    | noAlternative first foremost' further => simpa [missed] using foremost'.mem
  | expectedToken first foremost further token required =>
    cases selects' with
    | action r' foremost' covers' => exact (apart foremost' covers' foremost further).elim
    | nothing missed accepted => simpa [missed] using foremost.mem
    | expectedToken first' foremost' further' token' required' =>
      obtain rfl := foremost.unique foremost'
      obtain rfl := List.singleton_inj.mp (required.symm.trans required')
      rfl
    | noAlternative first' foremost' further' tokens required' several =>
      obtain rfl := foremost.unique foremost'
      rw [← required',required] at several
      simp at several
  | noAlternative first foremost further tokens required several =>
    cases selects' with
    | action r' foremost' covers' => exact (apart foremost' covers' foremost further).elim
    | nothing missed accepted => simpa [missed] using foremost.mem
    | expectedToken first' foremost' further' token required' =>
      obtain rfl := foremost.unique foremost'
      rw [← required,required'] at several
      simp at several
    | noAlternative first' foremost' further' tokens' required' several' =>
      obtain rfl := foremost.unique foremost'
      obtain rfl := required.symm.trans required'
      rfl

theorem Reports.unique (reports : Reports lexemes input start missing refused outcome e)
    (reports' : Reports lexemes input start missing refused outcome e') : e = e' := by
  have apart {stop : Nat} (beyond : (∃ x ∈ missing, stop < x.pos) ∨ ∃ r ∈ refused, stop < r.stop)
      (reached : ∀ x ∈ missing, x.pos ≤ stop) (accepted : ∀ r ∈ refused, r.stop ≤ stop) : False := by
    rcases beyond with ⟨x,member,lt⟩ | ⟨r,member,lt⟩
    · exact Nat.not_le.mpr lt (reached x member)
    · exact Nat.not_le.mpr lt (accepted r member)
  cases reports with
  | failed selects =>
    cases reports' with
    | failed selects' => exact selects.unique selects'
  | further m part beyond selects =>
    cases reports' with
    | further _ _ _ selects' => exact selects.unique selects'
    | trailing _ _ reached accepted => exact (apart beyond reached accepted).elim
  | trailing m part reached accepted =>
    cases reports' with
    | further _ _ beyond _ => exact (apart beyond reached accepted).elim
    | trailing => rfl

namespace Furthest

variable {f : Furthest}

theorem expectedError_selects (first : Mismatch) (foremost : Foremost (·.pos) missing first)
    (rule : f.rule = some first.rule) (expected : f.expected = requiredAt missing first.pos)
    (further : ∀ r ∈ refused, r.stop < first.pos) :
    Selects lexemes input start missing refused (f.expectedError lexemes input start first.pos) := by
  have member := token_mem_requiredAt foremost.mem
  unfold expectedError
  rw [rule]
  dsimp only [Option.getD_some]
  split
  · rename_i token single
    exact .expectedToken first foremost further token (expected.symm.trans single)
  · rename_i several
    refine .noAlternative first foremost further _ expected.symm ?_
    rw [← expected] at member
    match listed : f.expected with
    | [] => rw [listed] at member; cases member
    | [token] => exact absurd listed (several token)
    | _ :: _ :: _ => simp

variable (tells : f.Tells missing refused)

include tells

theorem error_selects : Selects lexemes input start missing refused (f.error lexemes input start) := by
  have kept := tells.refused
  have told := tells.missing
  unfold error
  cases known : f.rejection with
  | none =>
    rw [known] at kept
    subst kept
    cases reached : f.pos with
    | none =>
      rw [reached] at told
      exact .nothing told rfl
    | some pos =>
      rw [reached] at told
      obtain ⟨first,foremost,rfl,rule,expected⟩ := told
      exact expectedError_selects first foremost rule expected (by simp)
  | some r =>
    rw [known] at kept
    cases reached : f.pos with
    | none =>
      rw [reached] at told
      exact .action r kept (by simp [told])
    | some pos =>
      rw [reached] at told
      obtain ⟨first,foremost,rfl,rule,expected⟩ := told
      dsimp only
      by_cases le : first.pos ≤ r.stop
      · rw [if_pos le]
        exact .action r kept fun m member => Nat.le_trans (foremost.bound member) le
      · rw [if_neg le]
        refine expectedError_selects first foremost rule expected fun r' member => ?_
        exact Nat.lt_of_le_of_lt (kept.bound member) (Nat.not_le.mp le)

/-- A failure lies beyond a position if the furthest of its kind does. -/
theorem beyond_iff (stop : Nat) : (f.pos.any (stop < ·) || f.rejection.any fun r => stop < r.stop) = true ↔
    (∃ x ∈ missing, stop < x.pos) ∨ ∃ r ∈ refused, stop < r.stop := by
  have kept := tells.refused
  have told := tells.missing
  have mismatch : f.pos.any (stop < ·) = true ↔ ∃ x ∈ missing, stop < x.pos := by
    cases reached : f.pos with
    | none =>
      rw [reached] at told
      simp [told]
    | some pos =>
      rw [reached] at told
      obtain ⟨first,foremost,rfl,_,_⟩ := told
      simp only [Option.any_some,decide_eq_true_eq]
      constructor
      · exact fun lt => ⟨first,foremost.mem,lt⟩
      · rintro ⟨x,member,lt⟩
        exact Nat.lt_of_lt_of_le lt (foremost.bound member)
  have rejection : (f.rejection.any fun r => stop < r.stop) = true ↔ ∃ r ∈ refused, stop < r.stop := by
    cases known : f.rejection with
    | none =>
      rw [known] at kept
      simp [kept]
    | some current =>
      rw [known] at kept
      simp only [Option.any_some,decide_eq_true_eq]
      constructor
      · exact fun lt => ⟨current,kept.mem,lt⟩
      · rintro ⟨r,member,lt⟩
        exact Nat.lt_of_lt_of_le lt (kept.bound member)
  rw [Bool.or_eq_true,mismatch,rejection]

theorem trailingError_reports (m : Matched) (part : m.stop < lexemes.size) :
    Reports lexemes input start missing refused (some m) (f.trailingError lexemes input start m.stop) := by
  unfold trailingError
  have beyond := beyond_iff tells m.stop
  by_cases further : (∃ x ∈ missing, m.stop < x.pos) ∨ ∃ r ∈ refused, m.stop < r.stop
  · rw [if_pos (beyond.mpr further)]
    exact .further m part further (error_selects tells)
  · rw [if_neg (mt beyond.mp further)]
    refine .trailing m part (fun x member => Nat.not_lt.mp fun lt => further (.inl ⟨x,member,lt⟩)) ?_
    exact fun r member => Nat.not_lt.mp fun lt => further (.inr ⟨r,member,lt⟩)

end Furthest

end Selection

namespace Grammar

open Match

/-- The error of a parse that was not given up is the only one that its failures call for: all the
tokens that were missing and all the actions that refused what was matched, in order. -/
theorem parseWith_reports (g : Grammar) (input : String) (lexemes : List Lexeme) (context : Context)
    (functions : Functions) (config : Config) (start : String) (i : Fin g.rules.length) (outcome : Option Matched)
    (u : State) (e : ParseError) (tokenized : g.tokenize input = .ok lexemes) (named : g.startRule? = some start)
    (resolved : g.resolve start = some (.rule i))
    (ran : matchRule (g.task lexemes functions config) config.maxDepth i 0 { context } = (.ok outcome,u))
    (failed : (g.parseWith input context functions config).result = .error e) :
    let failures := ruleFailures (g.task lexemes functions config) config.maxDepth i 0 { context }
    ∀ e', Reports lexemes.toArray input start (Failure.mismatches failures) (Failure.rejections failures) outcome e' ↔
      e' = e := by
  intro failures
  have noted : u.failures g = failures := by
    have notes := matchRule_notes (g.task lexemes functions config) config.maxDepth i 0 { context }
    rw [ran] at notes
    exact notes
  have tells := Furthest.ofFailures_tells failures
  rw [parseWith_of_ok context functions config tokenized] at failed
  have answered := parseLexemes_result (g.task lexemes functions config) named resolved ran input
  have result : answer g lexemes.toArray input start u outcome = .error e := answered.symm.trans failed
  have reports : Reports lexemes.toArray input start (Failure.mismatches failures) (Failure.rejections failures)
      outcome e := by
    cases outcome with
    | none =>
      rw [answer,noted] at result
      obtain rfl := Except.error.inj result
      exact .failed (Furthest.error_selects tells)
    | some m =>
      rw [answer,noted] at result
      have within : m.stop ≤ lexemes.length := by
        have room : ({ context } : State).active.length + config.maxDepth = config.maxDepth := Nat.zero_add _
        have within := (matchRule_orderly (t := g.task lexemes functions config) config.maxDepth room i 0
          (Nat.zero_le _) (.start context)).2.2
        rw [ran] at within
        simpa using within _ rfl m rfl
      by_cases whole : m.stop = lexemes.toArray.size
      · rw [if_pos whole] at result
        cases result
      · rw [if_neg whole] at result
        obtain rfl := Except.error.inj result
        rw [List.size_toArray] at whole
        exact Furthest.trailingError_reports tells m (by simp; omega)
  intro e'
  constructor
  · exact fun reports' => reports'.unique reports
  · rintro rfl
    exact reports

/-- Every action refuses; where the second token is an `X`, two of them do so at the end of the input. -/
def refusing : Grammar where
  tokens := [⟨"X","x",0,.pattern,none,none,.seq [.anchor .textStart,.set (.ofChars ['x'])],none,none⟩,
    ⟨"Y","y",0,.pattern,none,none,.seq [.anchor .textStart,.set (.ofChars ['y'])],none,none⟩]
  rules := [⟨"all",[⟨["X"],"one",0,.none⟩,⟨["X","X"],"two",0,.none⟩,⟨["X","X"],"both",0,.none⟩,
    ⟨["X","X","Y"],"",0,.none⟩,⟨["X","Y","Y"],"",0,.none⟩]⟩]
  actions := [("both",refuse),("one",refuse),("two",refuse)]
where
  refuse : UserAction := fun _ _ context => (.error ⟨"refused"⟩,context)

namespace refusing

def all : Fin refusing.rules.length := ⟨0,by decide⟩

def xx : List Lexeme := [⟨"X","x",0,1⟩,⟨"X","x",1,2⟩]

def xy : List Lexeme := [⟨"X","x",0,1⟩,⟨"Y","y",1,2⟩]

def refused : ParseError := ⟨.action "all" "two","action 'two' of rule 'all' failed: refused",1,1,0,"x","xx"⟩

def missed : ParseError := ⟨.expectedToken "Y" none,"expected token Y, got end of input",1,3,2,"","xy"⟩

end refusing

theorem parseWith_reports_refusing :
    refusing.tokenize "xx" = .ok refusing.xx ∧ refusing.tokenize "xy" = .ok refusing.xy ∧
    refusing.startRule? = some "all" ∧ refusing.resolve "all" = some (.rule refusing.all) ∧
    (matchRule (refusing.task refusing.xx {} {}) 200 refusing.all 0 {}).1 = .ok none ∧
    (matchRule (refusing.task refusing.xy {} {}) 200 refusing.all 0 {}).1 = .ok none ∧
    (refusing.parseWith "xx" {} {} {}).result = .error refusing.refused ∧
    (refusing.parseWith "xy" {} {} {}).result = .error refusing.missed ∧
    (∀ e, Reports refusing.xx.toArray "xx" "all" [⟨2,"Y","all"⟩,⟨1,"Y","all"⟩]
      [⟨"all","one","refused",0,1⟩,⟨"all","two","refused",0,2⟩,⟨"all","both","refused",0,2⟩] none e ↔
        e = refusing.refused) ∧
    ∀ e, Reports refusing.xy.toArray "xy" "all"
      [⟨1,"X","all"⟩,⟨1,"X","all"⟩,⟨1,"X","all"⟩,⟨2,"Y","all"⟩] [⟨"all","one","refused",0,1⟩] none e ↔
        e = refusing.missed := by
  have scanned : Lexeme.scan refusing.tokens "xx" = ⟨refusing.xx,none⟩ := by decide +kernel
  have scanned' : Lexeme.scan refusing.tokens "xy" = ⟨refusing.xy,none⟩ := by decide +kernel
  have tokenized : refusing.tokenize "xx" = .ok refusing.xx := by
    rw [tokenize,scanned]
    rfl
  have tokenized' : refusing.tokenize "xy" = .ok refusing.xy := by
    rw [tokenize,scanned']
    rfl
  have outcome : (matchRule (refusing.task refusing.xx {} {}) 200 refusing.all 0 {}).1 = .ok none := by rfl
  have outcome' : (matchRule (refusing.task refusing.xy {} {}) 200 refusing.all 0 {}).1 = .ok none := by rfl
  have failures : ruleFailures (refusing.task refusing.xx {} {}) 200 refusing.all 0 {} =
      [.rejected ⟨"all","one","refused",0,1⟩,.rejected ⟨"all","two","refused",0,2⟩,
        .rejected ⟨"all","both","refused",0,2⟩,.expected 2 "Y" "all",.expected 1 "Y" "all"] := by
    decide +kernel
  have failures' : ruleFailures (refusing.task refusing.xy {} {}) 200 refusing.all 0 {} =
      [.rejected ⟨"all","one","refused",0,1⟩,.expected 1 "X" "all",.expected 1 "X" "all",.expected 1 "X" "all",
        .expected 2 "Y" "all"] := by
    decide +kernel
  have result : (refusing.parseWith "xx" {} {} {}).result = .error refusing.refused := by
    rw [parseWith_of_ok {} {} {} tokenized]
    rfl
  have result' : (refusing.parseWith "xy" {} {} {}).result = .error refusing.missed := by
    rw [parseWith_of_ok {} {} {} tokenized']
    rfl
  have reports := parseWith_reports refusing "xx" _ {} {} {} "all" refusing.all none _ _ tokenized rfl rfl
    (Prod.ext outcome rfl) result
  have reports' := parseWith_reports refusing "xy" _ {} {} {} "all" refusing.all none _ _ tokenized' rfl rfl
    (Prod.ext outcome' rfl) result'
  dsimp only at reports reports'
  rw [failures] at reports
  rw [failures'] at reports'
  exact ⟨tokenized,tokenized',rfl,rfl,outcome,outcome',result,result',reports,reports'⟩

end Grammar

end Packrat
