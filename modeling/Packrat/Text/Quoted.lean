import Packrat.Text.Kind

/-! Quoted characters and texts, as messages show them: what a reader could not see or would take
for something else is escaped. -/
namespace Packrat.Text.Quoted

def codeEscape (c : Char) : String :=
  "\\u\x7b" ++ String.ofList (Nat.toDigits 16 c.toNat) ++ "\x7d"

/-- A character inside quotes of the given kind. Besides the quote itself, the backslash and the
common controls, characters that attach to their neighbour and invisible ones are escaped. -/
def escape (quote c : Char) : String :=
  if c == '\x00' then "\\0"
  else if c == '\t' then "\\t"
  else if c == '\r' then "\\r"
  else if c == '\n' then "\\n"
  else if c == '\\' || c == quote then "\\".push c
  else if (isGraphemeExtend c && !isHalfwidthSoundMark c) || !isPrintable c then codeEscape c
  else c.toString

def char (c : Char) : String := "\x27" ++ escape '\x27' c ++ "\x27"

def text (s : String) : String := "\"" ++ String.join (s.toList.map (escape '"')) ++ "\""

end Packrat.Text.Quoted
