/-!
# Occurrences of a text in another
-/

namespace DocCoverage.Text

/-- Whether a text occurs somewhere in another. -/
def occursIn (part : List Char) : List Char → Bool
  | [] => part.isEmpty
  | c :: rest => part.isPrefixOf (c :: rest) || occursIn part rest

end DocCoverage.Text
