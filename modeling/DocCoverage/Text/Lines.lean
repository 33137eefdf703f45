/-!
# Lines of written text

Lines are written with a line feed after each. A written text is read back into lines at its line
feeds; a carriage return before a line feed ends the line with it. A line that holds a line feed
itself is read back as several.
-/

namespace DocCoverage.Text

/-- The text of some lines. -/
def unlines (lines : List String) : String := String.join (lines.map fun line => line ++ "\n")

/-- The lines of a text that follows the characters of a line begun, the last of them first. -/
def linesAfter (begun : List Char) : List Char → List String
  | [] => if begun.isEmpty then [] else [String.ofList begun.reverse]
  | '\n' :: rest =>
    let line := if begun.head? = some '\r' then begun.tail else begun
    String.ofList line.reverse :: linesAfter [] rest
  | c :: rest => linesAfter (c :: begun) rest

/-- The lines of a text. -/
def lines (text : String) : List String := linesAfter [] text.toList

end DocCoverage.Text
