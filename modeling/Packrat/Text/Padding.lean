/-! Columns of a fixed width, counted in characters. -/
namespace Packrat.Text

/-- Blanks after the text, up to the width; a longer text stays whole. -/
def padRight (width : Nat) (s : String) : String :=
  s ++ String.ofList (List.replicate (width - s.length) ' ')

def padLeft (width : Nat) (s : String) : String :=
  String.ofList (List.replicate (width - s.length) ' ') ++ s

end Packrat.Text
