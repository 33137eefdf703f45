import DocCoverage.DocComment.Content
import DocCoverage.DocComment.Tag

/-!
# Validation of documentation comments

The cells of a comment are read from the left. The seven characters with a meaning of their own
start a construct, which is checked and passed over as a whole; any other character is text. A
comment is valid when no construct of it has a problem.
-/

namespace DocCoverage.DocComment

open Text

/-- What one construct amounts to: its diagnostics and the number of cells after its first one that
belong to it. -/
structure Construct where
  diagnostics : List Diagnostic
  length : Nat
  deriving DecidableEq, Repr

/-- ASCII punctuation, which a backslash may precede. -/
def isPunctuation (c : Char) : Bool :=
  (33 ≤ c.toNat && c.toNat ≤ 47) || (58 ≤ c.toNat && c.toNat ≤ 64) ||
    (91 ≤ c.toNat && c.toNat ≤ 96) || (123 ≤ c.toNat && c.toNat ≤ 126)

/-- The characters of the cells from the front on for which a test holds. -/
def leading (test : Char → Bool) (cells : List Cell) : List Char :=
  (cells.map Cell.char).takeWhile test

/-- The character of the first cell. -/
def firstChar (cells : List Cell) : Option Char := (cells.head?).map Cell.char

/-- A tag name is a run of ASCII letters and digits that starts with a letter. -/
def isTagName : List Char → Bool
  | [] => false
  | c :: _ => c.isAlpha

/-- The line on which a construct that began in cell `start` reports a problem found before the
cells `rest`. -/
def lineAt (start : Cell) (rest : List Cell) : Nat :=
  match rest with
  | [] => start.line
  | cell :: _ => cell.line

/-- A backslash escapes the punctuation character after it. -/
def backslash (start : Cell) (rest : List Cell) : Construct :=
  if (firstChar rest).any isPunctuation then ⟨[], 1⟩
  else ⟨[⟨.unnecessaryBackslash, start.line⟩], 0⟩

/-- A code span runs to the next backtick of its line and is not empty. -/
def codeSpan (start : Cell) (rest : List Cell) : Construct :=
  let body := leading (fun c => c != '\x60' && c != '\n') rest
  if firstChar (rest.drop body.length) = some '\x60' then
    if body.isEmpty then ⟨[⟨.codeSpanEmpty, start.line⟩], 1⟩ else ⟨[], body.length + 1⟩
  else ⟨[⟨.codeSpanMissingDelimiter, start.line⟩], 0⟩

/-- The problem of an inline tag with a given name. -/
def inlineTagProblems (name : List Char) : List Problem :=
  match Tag.find? name with
  | none => [.undefinedTag (String.ofList name)]
  | some tag => if tag.syntaxKind = .inline then [] else [.tagShouldNotHaveBraces tag.name]

/-- An inline tag runs from its brace to the next right brace. -/
def inlineTag (start : Cell) (rest : List Cell) : Construct :=
  if firstChar rest = some '@' then
    let name := leading Char.isAlphanum (rest.drop 1)
    if isTagName name then
      let after := rest.drop (1 + name.length)
      let body := leading (· != '}') after
      if body.length = after.length then
        ⟨[⟨.inlineTagMissingRightBrace (String.ofList name), start.line⟩], rest.length⟩
      else
        let malformed :=
          if (firstChar after).any (fun c => c == '}' || isBlank c) then []
          else [Problem.inlineTagInvalidCharacter (String.ofList name)]
        ⟨(malformed ++ inlineTagProblems name).map (⟨·, start.line⟩),
          1 + name.length + body.length + 1⟩
    else ⟨[⟨.expectedInlineTagName, start.line⟩], 1⟩
  else ⟨[⟨.expectedInlineTag, start.line⟩], 0⟩

/-- The cells up to and including the first `close`, at most to the end of the line. -/
def lengthPast (close : Char) (cells : List Cell) : Nat :=
  let before := leading (fun c => c != close && c != '\n') cells
  if firstChar (cells.drop before.length) = some close then before.length + 1 else before.length

/-- The first character of an identifier in a parameter name. -/
def isNameStart (c : Char) : Bool := c.isAlpha || c == '_' || c == '$'

/-- A later character of an identifier in a parameter name. -/
def isNamePart (c : Char) : Bool := c.isAlphanum || c == '_' || c == '$'

/-- An identifier of a parameter name. -/
def isNameWord : List Char → Bool
  | [] => false
  | c :: rest => isNameStart c && rest.all isNamePart

/-- A parameter name is one identifier, or several joined by dots. -/
def isParamName (name : List Char) : Bool := (pieces '.' name).all isNameWord

/-- A space or a tab. -/
def isSpace (c : Char) : Bool := c == ' ' || c == '\t'

/-- What follows a parameter tag: a name and a hyphen, both after optional spaces. -/
def paramBlock (tag : String) (start : Cell) (rest : List Cell) : Construct :=
  let spaces := (leading isSpace rest).length
  let body := rest.drop spaces
  match firstChar body with
  | some '{' => ⟨[⟨.paramWithType tag, lineAt start body⟩], spaces + lengthPast '}' body⟩
  | some '[' => ⟨[⟨.paramWithOptionalName tag, lineAt start body⟩], spaces + lengthPast ']' body⟩
  | _ =>
    let name := leading (fun c => !isBlank c) body
    if name.isEmpty then ⟨[⟨.paramMissingName tag, lineAt start body⟩], spaces⟩
    else if isParamName name then
      let gap := (leading isSpace (body.drop name.length)).length
      let after := body.drop (name.length + gap)
      if firstChar after = some '-' then ⟨[], spaces + name.length + gap + 1⟩
      else ⟨[⟨.paramMissingHyphen tag, lineAt start after⟩], spaces + name.length + gap⟩
    else
      ⟨[⟨.paramInvalidName tag (String.ofList name), lineAt start body⟩], spaces + name.length⟩

/-- Whether a text has a character before its next block tag that is not blank. `free` says that a
tag may start at the front. -/
def hasMessage (free : Bool) : List Cell → Bool
  | [] => false
  | cell :: rest =>
    if cell.char = '@' ∧ free ∧ (firstChar rest).any Char.isAlpha then false
    else if isBlank cell.char then hasMessage true rest
    else true

/-- What follows a tag of the given canonical name. -/
def tagBlock (tag : String) (start : Cell) (rest : List Cell) : Construct :=
  if tag = "param" ∨ tag = "typeParam" then paramBlock tag start rest
  else if tag = "deprecated" ∧ !hasMessage false rest then
    ⟨[⟨.missingDeprecationMessage, lineAt start rest⟩], 0⟩
  else ⟨[], 0⟩

/-- A block or modifier tag follows a blank or starts the text, and a blank or the end follows. -/
def blockTag (previous : Option Char) (start : Cell) (rest : List Cell) : Construct :=
  if previous.any (fun c => !isBlank c) then ⟨[⟨.atSignInWord, start.line⟩], 0⟩
  else
    let name := leading Char.isAlphanum rest
    let after := rest.drop name.length
    if !isTagName name then ⟨[⟨.missingTag, start.line⟩], 0⟩
    else if (firstChar after).any (fun c => !isBlank c) then
      ⟨[⟨.charactersAfterTag (String.ofList name), start.line⟩],
        (leading (fun c => !isBlank c) rest).length⟩
    else
      match Tag.find? name with
      | none => ⟨[⟨.undefinedTag (String.ofList name), start.line⟩], name.length⟩
      | some tag =>
        if tag.syntaxKind = .inline then
          ⟨[⟨.tagShouldHaveBraces tag.name, start.line⟩], name.length⟩
        else
          let block := tagBlock tag.name start after
          ⟨block.diagnostics, name.length + block.length⟩

/-- The rest of an element tag after its name: the number of cells passed and whether the tag is
closed on its line. `quote` is the quotation mark that is open. -/
def attributes (quote : Option Char) : List Cell → Nat × Bool
  | [] => (0, false)
  | cell :: rest =>
    let c := cell.char
    if c = '>' ∧ quote = none then (1, true)
    else if c = '\x22' ∨ c = '\x27' then
      let after := attributes
        (if quote = some c then none else if quote = none then some c else quote) rest
      (after.1 + 1, after.2)
    else if c = '\n' ∨ (c = '<' ∧ quote = none) then (0, false)
    else
      let after := attributes quote rest
      (after.1 + 1, after.2)

/-- An element tag has a name and is closed on its line. -/
def htmlTag (start : Cell) (rest : List Cell) : Construct :=
  let slash := if firstChar rest = some '/' then 1 else 0
  let named := rest.drop slash
  if (firstChar named).any Char.isAlpha then
    let name := leading (fun c => c.isAlphanum || c == '-') named
    let after := attributes none (named.drop name.length)
    ⟨if after.2 then [] else [⟨.htmlTagMissingGreaterThan, start.line⟩],
      slash + name.length + after.1⟩
  else ⟨[⟨.malformedHtmlName, start.line⟩], 0⟩

/-- The construct that starts in a cell, given the character before it and the cells after it. -/
def construct (previous : Option Char) (start : Cell) (rest : List Cell) : Construct :=
  match start.char with
  | '\\' => backslash start rest
  | '\x60' => codeSpan start rest
  | '{' => inlineTag start rest
  | '}' => ⟨[⟨.escapeRightBrace, start.line⟩], 0⟩
  | '@' => blockTag previous start rest
  | '<' => htmlTag start rest
  | '>' => ⟨[⟨.escapeGreaterThan, start.line⟩], 0⟩
  | _ => ⟨[], 0⟩

/-- The diagnostics of cells, given the character before them. -/
def scan (previous : Option Char) : List Cell → List Diagnostic
  | [] => []
  | start :: rest =>
    let found := construct previous start rest
    let last := ((start :: rest.take found.length).getLast?).map Cell.char
    found.diagnostics ++ scan last (rest.drop found.length)
termination_by cells => cells.length
decreasing_by
  simp only [List.length_cons, List.length_drop]
  omega

/-- The diagnostics of a comment in the order in which they are found; a valid comment has none. -/
def validate (comment : List Char) : List Diagnostic :=
  match inner comment with
  | .error .missingClosingDelimiter =>
    [⟨.missingClosingDelimiter, (pieces '\n' comment).length⟩]
  | .error problem => [⟨problem, 1⟩]
  | .ok text =>
    let masked := maskFences none 1 (contentLines text)
    (masked.2.toList.map (⟨.codeFenceMissingDelimiter, ·⟩)) ++ scan none (flatten masked.1)

end DocCoverage.DocComment
