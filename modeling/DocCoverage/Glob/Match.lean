import DocCoverage.Glob.Pattern

/-!
# Paths that match a pattern

A path matches a pattern when its characters can be divided among the pieces. A dot at the start of a
component is matched only by a dot of the pattern, so hidden files are selected only by name; other
than that, pieces match slashes like all other characters.

Each piece is matched in front of a continuation, which says whether the rest of the pattern matches
the rest of the path. The flag `atStart` says that a component starts.
-/

namespace DocCoverage.Glob

/-- What the rest of a pattern says about the rest of a path. -/
abbrev Continuation := Bool → List Char → Bool

/-- Whether a character is a dot at the start of a component. -/
def isHiddenDot (atStart : Bool) (c : Char) : Bool := atStart && c == '.'

/-- One character that passes a test, in front of a continuation. -/
def oneChar (test : Bool → Char → Bool) (continuation : Continuation) : Continuation
  | _, [] => false
  | atStart, c :: rest => test atStart c && continuation (c == '/') rest

/-- Any number of characters, in front of a continuation. -/
def anySequence (continuation : Continuation) : Continuation
  | atStart, [] => continuation atStart []
  | atStart, c :: rest =>
    continuation atStart (c :: rest) ||
      (!isHiddenDot atStart c && anySequence continuation (c == '/') rest)

/-- Any number of whole components, in front of a continuation. The last component needs no slash
where the path ends. -/
def anyComponents (continuation : Continuation) : Continuation
  | atStart, [] => continuation atStart []
  | atStart, c :: rest =>
    (atStart && continuation atStart (c :: rest)) ||
      (!isHiddenDot atStart c && anyComponents continuation (c == '/') rest)

/-- One piece, in front of a continuation. -/
def Piece.before (continuation : Continuation) : Piece → Continuation
  | literal c => oneChar (fun _ found => found == c) continuation
  | anyChar => oneChar (fun atStart found => !isHiddenDot atStart found) continuation
  | oneOf ranges =>
    oneChar (fun atStart found => !isHiddenDot atStart found && ranges.any (·.holds found))
      continuation
  | noneOf ranges =>
    oneChar (fun atStart found => !isHiddenDot atStart found && !ranges.any (·.holds found))
      continuation
  | anySequence => Glob.anySequence continuation
  | anyComponents => Glob.anyComponents continuation

/-- Whether pieces match the rest of a path. -/
def matchPieces : List Piece → Continuation
  | [], _, path => path.isEmpty
  | piece :: pieces, atStart, path => piece.before (matchPieces pieces) atStart path

/-- Whether a path matches a pattern. -/
def Pattern.accepts (pattern : Pattern) (path : String) : Bool :=
  matchPieces pattern.pieces true path.toList

end DocCoverage.Glob
