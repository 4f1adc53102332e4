import Packrat.Proofs.Depth
import Packrat.Proofs.Restart

/-! How an input is laid out does not matter. Inputs that are cut into the same words come to the
same value or to errors that tell the same, and leave the same context; only the place of an error
hangs on where the words stand. -/
namespace Packrat

/-- Errors that tell the same, be it of other places and sources. -/
structure ParseError.Retells (e e' : ParseError) : Prop where
  kind : e'.kind = e.kind
  message : e'.message = e.message
  token : e'.token = e.token

def Outcome.Retells (o o' : Outcome) : Prop :=
  (∃ value, o.result = .ok value ∧ o'.result = .ok value) ∨
    ∃ e e', o.result = .error e ∧ o'.result = .error e' ∧ e.Retells e'

section Errors

variable {lexemes others : Array Lexeme} (same : others.map Lexeme.word = lexemes.map Lexeme.word)
variable (input input' start : String) (pos : Nat)

include same

namespace Lexeme

theorem describe_retells : describe others[pos]? = describe lexemes[pos]? := by
  rcases word_cases same pos with ⟨ended,ended'⟩ | ⟨l,l',found,found',kind,text⟩
  · rw [ended,ended']
  · simp [found,found',describe,kind,text]

theorem kindAt_retells : others[pos]?.map (·.kind) = lexemes[pos]?.map (·.kind) := by
  rcases word_cases same pos with ⟨ended,ended'⟩ | ⟨l,l',found,found',kind,text⟩
  · rw [ended,ended']
  · simp [found,found',kind]

theorem errorAt_retells (kind : ParseError.Kind) (message : String) :
    (errorAt lexemes input pos kind message).Retells (errorAt others input' pos kind message) := by
  refine ⟨rfl,rfl,?_⟩
  change textAt others pos = textAt lexemes pos
  unfold textAt
  rcases word_cases same pos with ⟨ended,ended'⟩ | ⟨l,l',found,found',kind,text⟩
  · rw [ended,ended']
  · simp [found,found',text]

end Lexeme

namespace Furthest

variable (f : Furthest)

theorem expectedError_retells :
    (f.expectedError lexemes input start pos).Retells (f.expectedError others input' start pos) := by
  unfold expectedError
  dsimp only
  rw [Lexeme.describe_retells same,Lexeme.kindAt_retells same]
  split <;> exact Lexeme.errorAt_retells same input input' pos _ _

theorem error_retells : (f.error lexemes input start).Retells (f.error others input' start) := by
  unfold error
  split
  · exact Lexeme.errorAt_retells same input input' _ _ _
  · split
    · exact Lexeme.errorAt_retells same input input' _ _ _
    · exact expectedError_retells same input input' start _ f
  · exact expectedError_retells same input input' start _ f
  · exact Lexeme.errorAt_retells same input input' 0 _ _

theorem trailingError_retells (stop : Nat) :
    (f.trailingError lexemes input start stop).Retells (f.trailingError others input' start stop) := by
  unfold trailingError
  rw [Lexeme.describe_retells same]
  split
  · exact error_retells same input input' start f
  · exact Lexeme.errorAt_retells same input input' stop _ _

end Furthest

namespace Match

theorem Abort.error_retells (g : Grammar) (limit : Nat) (a : Abort) :
    (a.error g lexemes input limit).Retells (a.error g others input' limit) := by
  cases a with
  | tooDeep rule pos => exact Lexeme.errorAt_retells same input input' pos _ _
  | undefinedSymbol symbol rule pos => exact Lexeme.errorAt_retells same input input' pos _ _

/-- The two runs of the start rule are one and the same, so only the answers have to be compared. -/
theorem parseLexemes_retells (t : Task) (sized : t.lexemes = lexemes) (context : Context) (limit : Nat) :
    (parseLexemes t input context limit).Retells
        (parseLexemes { t with lexemes := others } input' context limit) ∧
      (parseLexemes { t with lexemes := others } input' context limit).context =
        (parseLexemes t input context limit).context := by
  subst sized
  have size : others.size = t.lexemes.size := by simpa using congrArg Array.size same
  unfold parseLexemes
  dsimp only
  cases t.grammar.startRule? with
  | none => exact ⟨.inr ⟨_,_,rfl,rfl,rfl,rfl,rfl⟩,rfl⟩
  | some start =>
    dsimp only
    cases t.grammar.resolve start with
    | none => exact ⟨.inr ⟨_,_,rfl,rfl,rfl,rfl,rfl⟩,rfl⟩
    | some symbol =>
      cases symbol with
      | token _ => exact ⟨.inr ⟨_,_,rfl,rfl,rfl,rfl,rfl⟩,rfl⟩
      | rule i =>
        dsimp only
        have run : matchRule { t with lexemes := others } limit i 0 = matchRule t limit i 0 :=
          matchRule_moved t t.grammar.start same limit i 0
        rw [run]
        cases matchRule t limit i 0 { context } with
        | mk result s =>
          cases result with
          | error e => exact ⟨.inr ⟨_,_,rfl,rfl,e.error_retells same input input' t.grammar limit⟩,rfl⟩
          | ok outcome =>
            refine ⟨?_,rfl⟩
            cases outcome with
            | none => exact .inr ⟨_,_,rfl,rfl,Furthest.error_retells same input input' start _⟩
            | some m =>
              by_cases whole : m.stop = t.lexemes.size
              · have whole' : m.stop = others.size := whole.trans size.symm
                exact .inl ⟨m.value,by simp [answer,whole],by simp [answer,whole']⟩
              · have part : m.stop ≠ others.size := by rwa [size]
                exact .inr ⟨_,_,if_neg whole,if_neg part,Furthest.trailingError_retells same input input' start _ m.stop⟩

end Match

end Errors

namespace Grammar

/-- A parse hangs on the words of its input only. On inputs that are cut into the same words it
comes to the same value, or to errors of the same kind, message and token, and leaves the same
context. -/
theorem parseWith_layout (g : Grammar) (input input' : String) (lexemes lexemes' : List Lexeme)
    (context : Context) (functions : Functions) (config : Config)
    (tokenized : g.tokenize input = .ok lexemes) (tokenized' : g.tokenize input' = .ok lexemes')
    (same : lexemes'.map Lexeme.word = lexemes.map Lexeme.word) :
    (g.parseWith input context functions config).Retells (g.parseWith input' context functions config) ∧
      (g.parseWith input' context functions config).context =
        (g.parseWith input context functions config).context := by
  have words : lexemes'.toArray.map Lexeme.word = lexemes.toArray.map Lexeme.word := by
    rw [List.map_toArray,List.map_toArray,same]
  rw [parseWith_of_ok context functions config tokenized,parseWith_of_ok context functions config tokenized']
  exact Match.parseLexemes_retells words input input'
    { grammar := g, lexemes := lexemes.toArray, functions, strictActions := config.strictActions }
    rfl context config.maxDepth

theorem parseWith_layout_bracketed :
    bracketed.tokenize "((x x" = .ok [⟨"OPEN","(",0,1⟩,⟨"OPEN","(",1,2⟩,⟨"X","x",2,3⟩,⟨"X","x",4,5⟩] ∧
    bracketed.tokenize "( (\nx x" = .ok [⟨"OPEN","(",0,1⟩,⟨"OPEN","(",2,3⟩,⟨"X","x",4,5⟩,⟨"X","x",6,7⟩] ∧
    (bracketed.parseWith "((x x" {} {} {}).Retells (bracketed.parseWith "( (\nx x" {} {} {}) ∧
    (bracketed.parseWith "( (\nx x" {} {} {}).context = (bracketed.parseWith "((x x" {} {} {}).context := by
  have scanned : Lexeme.scan bracketed.tokens "((x x" =
      ⟨[⟨"OPEN","(",0,1⟩,⟨"OPEN","(",1,2⟩,⟨"X","x",2,3⟩,⟨"X","x",4,5⟩],none⟩ := by decide +kernel
  have scanned' : Lexeme.scan bracketed.tokens "( (\nx x" =
      ⟨[⟨"OPEN","(",0,1⟩,⟨"OPEN","(",2,3⟩,⟨"X","x",4,5⟩,⟨"X","x",6,7⟩],none⟩ := by decide +kernel
  have tokenized : bracketed.tokenize "((x x" =
      .ok [⟨"OPEN","(",0,1⟩,⟨"OPEN","(",1,2⟩,⟨"X","x",2,3⟩,⟨"X","x",4,5⟩] := by
    rw [tokenize,scanned]
    rfl
  have tokenized' : bracketed.tokenize "( (\nx x" =
      .ok [⟨"OPEN","(",0,1⟩,⟨"OPEN","(",2,3⟩,⟨"X","x",4,5⟩,⟨"X","x",6,7⟩] := by
    rw [tokenize,scanned']
    rfl
  exact ⟨tokenized,tokenized',parseWith_layout bracketed "((x x" "( (\nx x" _ _ {} {} {} tokenized tokenized' rfl⟩

end Grammar

end Packrat
