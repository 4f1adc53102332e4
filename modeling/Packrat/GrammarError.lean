/-! Why a token or rule cannot be registered. -/
namespace Packrat

inductive NameKind where
  | token | rule
  deriving DecidableEq, Repr

def NameKind.label : NameKind → String
  | token => "token"
  | rule => "rule"

inductive GrammarError where
  | invalidPattern (token message : String)
  | duplicateToken (name : String)
  /-- The name is already in use for the given kind of thing. -/
  | nameConflict (name : String) (taken : NameKind)
  | emptyName (kind : NameKind)
  | unknownRule (name : String)
  | missingLookaround (token : String)
  | keywordLookaround (token : String)
  deriving DecidableEq, Repr

def GrammarError.message : GrammarError → String
  | invalidPattern token message => "invalid pattern for token '" ++ token ++ "': " ++ message
  | duplicateToken name => "token '" ++ name ++ "' is already defined"
  | nameConflict name taken => "'" ++ name ++ "' is already defined as a " ++ taken.label
  | emptyName kind => "empty name for " ++ kind.label
  | unknownRule name => "unknown rule '" ++ name ++ "'"
  | missingLookaround token => "lookaround token '" ++ token ++ "' needs a lookahead or a lookbehind"
  | keywordLookaround token =>
    "keyword token '" ++ token ++ "' cannot have a lookahead or a lookbehind"

end Packrat
