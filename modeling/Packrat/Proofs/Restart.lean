import Packrat.Match.Parse

/-! What matching a rule does not look at: which rule is the start rule, and where in the input the
tokens stand. So two grammars with the same tokens, rules and actions parse alike as soon as they
start with the same rule, whether it was set or is the first one. -/
namespace Packrat

/-- What matching sees of a token: its name and its text. -/
def Lexeme.word (l : Lexeme) : String × String := (l.kind,l.text)

/-- Where one of two sequences of the same words ends, the other one does. -/
theorem Lexeme.word_cases {lexemes others : Array Lexeme} (same : others.map word = lexemes.map word) (pos : Nat) :
    (lexemes[pos]? = none ∧ others[pos]? = none) ∨
      ∃ l l', lexemes[pos]? = some l ∧ others[pos]? = some l' ∧ l'.kind = l.kind ∧ l'.text = l.text := by
  have here : others[pos]?.map word = lexemes[pos]?.map word := by
    rw [← Array.getElem?_map,same,Array.getElem?_map]
  cases found : lexemes[pos]? with
  | none =>
    rw [found,Option.map_none,Option.map_eq_none_iff] at here
    exact .inl ⟨rfl,here⟩
  | some l =>
    rw [found,Option.map_some,Option.map_eq_some_iff] at here
    obtain ⟨l',found',alike⟩ := here
    obtain ⟨kind,text⟩ := Prod.mk.inj alike
    exact .inr ⟨l,l',rfl,found',kind,text⟩

namespace Match

abbrev Task.moved (t : Task) (start : Option String) (lexemes : Array Lexeme) : Task :=
  { t with grammar := { t.grammar with start }, lexemes }

abbrev Task.restart (t : Task) (start : Option String) : Task := t.moved start t.lexemes

variable (t : Task) (start : Option String) {lexemes : Array Lexeme}

section Body

variable (same : lexemes.map Lexeme.word = t.lexemes.map Lexeme.word)
variable (call : Fin t.grammar.rules.length → Nat → Matching (Option Matched)) (rule : Fin t.grammar.rules.length)

include same

theorem matchSymbol_moved (symbol : String) (pos : Nat) :
    matchSymbol (t.moved start lexemes) call rule symbol pos = matchSymbol t call rule symbol pos := by
  -- Symbols of different grammars are of different types, so it is the lookups that are compared.
  have token : (t.moved start lexemes).grammar.tokenIndex? symbol = t.grammar.tokenIndex? symbol := rfl
  have named : (t.moved start lexemes).grammar.ruleIndex? symbol = t.grammar.ruleIndex? symbol := rfl
  unfold matchSymbol Grammar.resolve
  rw [token,named]
  cases t.grammar.tokenIndex? symbol with
  | none => cases t.grammar.ruleIndex? symbol <;> rfl
  | some i =>
    rcases Lexeme.word_cases same pos with ⟨ended,ended'⟩ | ⟨l,l',found,found',kind,text⟩
    · dsimp only
      rw [ended,ended']
    · dsimp only
      rw [found,found']
      dsimp only
      rw [kind,text]

theorem matchSequence_moved (symbols : List String) (pos : Nat) :
    matchSequence (t.moved start lexemes) call rule symbols pos = matchSequence t call rule symbols pos := by
  induction symbols generalizing pos with
  | nil => rfl
  | cons symbol rest ih => simp only [matchSequence,matchSymbol_moved t start same,ih]

theorem matchAlternatives_moved (pos : Nat) (alternatives : List Alternative) :
    matchAlternatives (t.moved start lexemes) call rule pos alternatives =
      matchAlternatives t call rule pos alternatives := by
  induction alternatives with
  | nil => rfl
  | cons a rest ih =>
    simp only [matchAlternatives,matchSequence_moved t start same,ih]
    rfl

theorem growOnce_moved (pos : Nat) (seed : Matched) (alternatives : List Alternative) (best : Option Matched) :
    growOnce (t.moved start lexemes) call rule pos seed alternatives best =
      growOnce t call rule pos seed alternatives best := by
  induction alternatives generalizing best with
  | nil => rfl
  | cons a rest ih =>
    simp only [growOnce,matchSequence_moved t start same,ih]
    rfl

theorem grow_moved (pos : Nat) (alternatives : List Alternative) (room rounds : Nat) (seed : Matched) :
    grow (t.moved start lexemes) call rule pos alternatives room rounds seed =
      grow t call rule pos alternatives room rounds seed := by
  induction room generalizing rounds seed with
  | zero => simp only [grow,growOnce_moved t start same]
  | succ room ih => simp only [grow,growOnce_moved t start same,ih]

theorem matchBody_moved (pos : Nat) :
    matchBody (t.moved start lexemes) call rule pos = matchBody t call rule pos := by
  have size : lexemes.size = t.lexemes.size := by simpa using congrArg Array.size same
  unfold matchBody growSeed
  simp only [matchAlternatives_moved t start same,grow_moved t start same,size]
  rfl

/-- Matching a rule depends neither on the start rule nor on the places of tokens. -/
theorem matchRule_moved (levels : Nat) (rule : Fin t.grammar.rules.length) (pos : Nat) :
    matchRule (t.moved start lexemes) levels rule pos = matchRule t levels rule pos := by
  induction levels generalizing rule pos with
  | zero => rfl
  | succ levels ih =>
    have call : matchRule (t.moved start lexemes) levels = matchRule t levels := funext fun rule => funext (ih rule)
    simp only [matchRule]
    rw [call,matchBody_moved t start same]
    rfl

end Body

theorem parseLexemes_restart (same : (t.restart start).grammar.startRule? = t.grammar.startRule?)
    (input : String) (context : Context) (limit : Nat) :
    parseLexemes (t.restart start) input context limit = parseLexemes t input context limit := by
  unfold parseLexemes
  simp only [same]
  cases t.grammar.startRule? with
  | none => rfl
  | some name =>
    have token : (t.restart start).grammar.tokenIndex? name = t.grammar.tokenIndex? name := rfl
    have named : (t.restart start).grammar.ruleIndex? name = t.grammar.ruleIndex? name := rfl
    unfold Grammar.resolve
    simp only [token,named]
    cases t.grammar.tokenIndex? name with
    | some i => rfl
    | none =>
      cases t.grammar.ruleIndex? name with
      | none => rfl
      | some i =>
        simp only [Option.map_some]
        rw [matchRule_moved t start rfl]
        rfl

end Match

namespace Grammar

/-- Grammars with the same tokens, rules and actions that start with the same rule parse alike. -/
theorem parseWith_restart (g : Grammar) (start : Option String)
    (same : { g with start }.startRule? = g.startRule?) (input : String) (context : Context)
    (functions : Functions) (config : Config) :
    { g with start }.parseWith input context functions config = g.parseWith input context functions config := by
  have matched := fun lexemes : List Lexeme => Match.parseLexemes_restart
    { grammar := g, lexemes := lexemes.toArray, functions, strictActions := config.strictActions } start same
    input context config.maxDepth
  unfold parseWith
  dsimp only
  cases (Lexeme.scan g.tokens input).result input with
  | error e => rfl
  | ok lexemes =>
    dsimp only
    rw [← matched]

end Grammar

end Packrat
