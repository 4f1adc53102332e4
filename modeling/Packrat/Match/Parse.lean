import Packrat.Match.Step

/-! Parsing an input: cutting it into tokens and matching the start rule against all of them. -/
namespace Packrat

/-- What a parse leaves behind, whether it succeeds or not. Changes that actions made to the
context stay, also those of alternatives that were given up. -/
structure Outcome where
  result : Except ParseError Value
  context : Context
  log : List Log.Record

namespace Match

def State.failures (s : State) (g : Grammar) : List Failure :=
  s.trace.reverse.filterMap (Event.failure? g)

def State.records (s : State) (g : Grammar) : List Log.Record :=
  s.trace.reverse.filterMap (Event.record? g)

def Abort.error (g : Grammar) (lexemes : Array Lexeme) (input : String) (limit : Nat) :
    Abort → ParseError
  | tooDeep rule pos =>
    Lexeme.errorAt lexemes input pos (.recursionLimit limit)
      ("rule nesting exceeded " ++ toString limit ++ " levels in '" ++ g.ruleName rule ++ "'")
  | undefinedSymbol symbol rule pos =>
    Lexeme.errorAt lexemes input pos (.undefinedSymbol symbol (g.ruleName rule))
      ("rule '" ++ g.ruleName rule ++ "' references '" ++ symbol ++
        "', which is neither a token nor a rule")

/-- The answer of a run of the start rule that was not given up. -/
def answer (g : Grammar) (lexemes : Array Lexeme) (input start : String) (s : State) :
    Option Matched → Except ParseError Value
  | some m =>
    if m.stop = lexemes.size then .ok m.value
    else .error ((Furthest.ofFailures (s.failures g)).trailingError lexemes input start m.stop)
  | none => .error ((Furthest.ofFailures (s.failures g)).error lexemes input start)

def parseLexemes (task : Task) (input : String) (context : Context) (limit : Nat) : Outcome :=
  let g := task.grammar
  match g.startRule? with
  | none =>
    ⟨.error (.ofOffset .missingStartRule "grammar has no rules" input 0 ""), context, []⟩
  | some start =>
    match g.resolve start with
    | some (.rule i) =>
      match matchRule task limit i 0 { context } with
      | (.error e, s) => ⟨.error (e.error g task.lexemes input limit), s.context, s.records g⟩
      | (.ok outcome, s) =>
        let finished : Log.Record := ⟨.debug, .matching, "parse of '" ++ start ++ "' finished: " ++
          toString s.memo.size ++ " memo entries, " ++ toString s.memo.hits ++ " hits"⟩
        ⟨answer g task.lexemes input start s outcome, s.context, s.records g ++ [finished]⟩
    | _ =>
      ⟨.error (.ofOffset .missingStartRule ("start rule '" ++ start ++ "' is not defined") input 0 ""),
        context, []⟩

end Match

namespace Grammar

def parseWith (g : Grammar) (input : String) (context : Context) (functions : Functions)
    (config : Config) : Outcome :=
  let scan := Lexeme.scan g.tokens input
  let log := scan.records input
  match scan.result input with
  | .error e => ⟨.error e, context, log⟩
  | .ok lexemes =>
    let task : Match.Task :=
      { grammar := g, lexemes := lexemes.toArray, functions, strictActions := config.strictActions }
    let outcome := Match.parseLexemes task input context config.maxDepth
    { outcome with log := log ++ outcome.log }

def parse (g : Grammar) (input : String) : Outcome := g.parseWith input {} {} {}

end Grammar

end Packrat
