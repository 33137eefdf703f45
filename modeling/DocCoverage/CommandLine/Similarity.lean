import DocCoverage.Number.Rounding

/-!
# Similar words

Two words are similar when many of their characters agree at near positions and in the same order.
The similarity is the mean of three shares: of the characters of each word that agree, and of the
agreeing characters that stand in order. Words above a threshold are suggested for a word that is
not known.
-/

namespace DocCoverage.CommandLine

/-- A character of a word and whether it already agrees with one of another word. -/
structure Marked where
  char : Char
  used : Bool
  deriving DecidableEq, Repr

/-- Mark the first unused occurrence of a character among the characters with indices from `low` up
to but without `high`, given the index of the first of them. -/
def markFirst (c : Char) (low high : Nat) : Nat → List Marked → Option (List Marked)
  | _, [] => none
  | index, m :: rest =>
    if low ≤ index && index < high && m.char == c && !m.used then some (⟨c, true⟩ :: rest)
    else (markFirst c low high (index + 1) rest).map (m :: ·)

/-- The characters of a word that agree with characters of another at most `range` positions away,
and the other word with those marked. -/
def agreeing (range : Nat) : Nat → List Char → List Marked → List Char × List Marked
  | _, [], other => ([], other)
  | index, c :: rest, other =>
    match markFirst c (index - range) (index + range + 1) 0 other with
    | some marked =>
      let found := agreeing range (index + 1) rest marked
      (c :: found.1, found.2)
    | none => agreeing range (index + 1) rest other

/-- The number of places in which two words differ. -/
def differences (a b : List Char) : Nat := (a.zip b).countP fun pair => pair.1 != pair.2

/-- The share of a count in another. -/
def share (part whole : Nat) : Ratio := (Ratio.ofNat part).div (Ratio.ofNat whole)

/-- The similarity of two words, between zero and one. -/
def similarity (a b : List Char) : Ratio :=
  if a.isEmpty && b.isEmpty then ⟨1, 1⟩
  else
    let range := max a.length b.length / 2 - 1
    let found := agreeing range 0 a (b.map fun c => ⟨c, false⟩)
    let count := found.1.length
    let matched := (found.2.filter Marked.used).map Marked.char
    let swaps := differences found.1 matched / 2
    if count = 0 then ⟨0, 1⟩
    else
      (((share count a.length).add (share count b.length)).add (share (count - swaps) count)).div
        ⟨3, 1⟩

/-- The similarity that suggested words exceed. -/
def threshold : Ratio := Ratio.round ⟨7, 10⟩

/-- A word with its similarity put in front of the first that is at least as similar. -/
def insertSuggestion (new : Ratio × String) : List (Ratio × String) → List (Ratio × String)
  | [] => [new]
  | old :: rest =>
    if old.1.lt new.1 then old :: insertSuggestion new rest else new :: old :: rest

/-- The known words that are similar to a word, the most similar last. -/
def suggestions (word : String) (known : List String) : List String :=
  let similar := known.filterMap fun other =>
    let found := similarity word.toList other.toList
    if threshold.lt found then some (found, other) else none
  (similar.foldl (fun sorted new => insertSuggestion new sorted) []).map Prod.snd

end DocCoverage.CommandLine
