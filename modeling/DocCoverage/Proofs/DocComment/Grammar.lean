import DocCoverage.DocComment.Scanner
import DocCoverage.Proofs.DocComment.Fences

/-!
# The grammar of documentation comments

A well formed comment stands between its delimiters, closes its code fences, and its text outside
of fences is a sequence of units: characters without a meaning of their own, escapes, code spans,
inline tags, block and modifier tags with what they require, and element tags.

A block tag looks at its neighbours: it follows a blank or nothing, a blank or nothing follows it,
and a deprecation must be followed by a message. A unit is therefore judged between the character
before it and the text after it.
-/

namespace DocCoverage.DocComment

open Text

/-! ## Units of text -/

/-- The characters with a meaning of their own. -/
def specialChars : List Char := ['\\', '\x60', '{', '}', '@', '<', '>']

/-- A character without a meaning of its own. -/
def IsPlain (unit : List Char) : Prop := ∃ c, unit = [c] ∧ c ∉ specialChars

/-- A backslash and the punctuation character that it escapes. -/
def IsEscape (unit : List Char) : Prop := ∃ c, unit = ['\\', c] ∧ isPunctuation c = true

/-- A stretch of one line between backticks. -/
def IsCodeSpan (unit : List Char) : Prop :=
  ∃ body, unit = '\x60' :: (body ++ ['\x60']) ∧ body ≠ [] ∧ ∀ c ∈ body, c ≠ '\x60' ∧ c ≠ '\n'

/-- A letter followed by letters and digits. -/
def IsWord (name : List Char) : Prop :=
  ∃ c rest, name = c :: rest ∧ c.isAlpha = true ∧ ∀ d ∈ rest, d.isAlphanum = true

/-- A text that is empty or starts with a blank. -/
def StartsBlank (text : List Char) : Prop := ∀ c ∈ text.head?, isBlank c = true

/-- The name of an inline tag and its content between braces. -/
def IsInlineTag (unit : List Char) : Prop :=
  ∃ name body tag, unit = '{' :: '@' :: (name ++ body ++ ['}']) ∧ IsWord name ∧
    Tag.find? name = some tag ∧ tag.syntaxKind = .inline ∧ '}' ∉ body ∧ StartsBlank body

/-- An identifier of a parameter name. -/
def IsIdentifier (word : List Char) : Prop :=
  ∃ c rest, word = c :: rest ∧ isNameStart c = true ∧ ∀ d ∈ rest, isNamePart d = true

/-- Identifiers joined by dots. -/
def IsDottedName (name : List Char) : Prop :=
  ∃ words, words ≠ [] ∧ (∀ word ∈ words, IsIdentifier word) ∧ name = ['.'].intercalate words

/-- Spaces and tabs, at least one. -/
def IsSpacing (gap : List Char) : Prop := gap ≠ [] ∧ ∀ c ∈ gap, c = ' ' ∨ c = '\t'

/-- What continues a parameter tag: a name and a hyphen, each after spacing. -/
def IsParamBlock (block : List Char) : Prop :=
  ∃ before name between, block = before ++ (name ++ (between ++ ['-'])) ∧ IsSpacing before ∧
    IsDottedName name ∧ IsSpacing between

/-- A text whose first character after blanks is there and starts no tag. -/
def HasText (text : List Char) : Prop :=
  ∃ blanks c rest, text = blanks ++ c :: rest ∧ (∀ b ∈ blanks, isBlank b = true) ∧
    isBlank c = false ∧ ¬(c = '@' ∧ ∃ d ∈ rest.head?, d.isAlpha = true)

/-- What a tag requires of the characters that continue it and of the text after them. -/
def IsBlock (tag : String) (block rest : List Char) : Prop :=
  if tag = "param" ∨ tag = "typeParam" then IsParamBlock block
  else block = [] ∧ (tag = "deprecated" → HasText rest)

/-- A block or modifier tag between the character before it and the text after it. -/
def IsBlockTag (previous : Option Char) (unit rest : List Char) : Prop :=
  ∃ name block tag, unit = '@' :: (name ++ block) ∧ (∀ c ∈ previous, isBlank c = true) ∧
    IsWord name ∧ Tag.find? name = some tag ∧ tag.syntaxKind ≠ .inline ∧
    StartsBlank (block ++ rest) ∧ IsBlock tag.name block rest

/-- The name of an element. -/
def IsElementName (name : List Char) : Prop :=
  ∃ c rest, name = c :: rest ∧ c.isAlpha = true ∧ ∀ d ∈ rest, d.isAlphanum = true ∨ d = '-'

/-- A quotation mark of an attribute. -/
def IsQuote (c : Char) : Prop := c = '\x22' ∨ c = '\x27'

/-- The attributes of an element tag: a stretch of one line in which angle brackets stand in
quotation marks only. -/
inductive IsAttributes : List Char → Prop
  | nil : IsAttributes []
  | plain {c : Char} {rest : List Char} : ¬IsQuote c → c ∉ ['<', '>', '\n'] → IsAttributes rest →
      IsAttributes (c :: rest)
  | quoted {quote : Char} {body rest : List Char} : IsQuote quote →
      (∀ c ∈ body, c ≠ quote ∧ c ≠ '\n') → IsAttributes rest →
      IsAttributes (quote :: (body ++ quote :: rest))

/-- An opening or closing element tag. -/
def IsElementTag (unit : List Char) : Prop :=
  ∃ slash name attributes, unit = '<' :: (slash ++ (name ++ (attributes ++ ['>']))) ∧
    (slash = [] ∨ slash = ['/']) ∧ IsElementName name ∧ IsAttributes attributes

/-- A unit between the character before it and the text after it. -/
inductive IsTextUnit (previous : Option Char) (unit rest : List Char) : Prop
  | plain : IsPlain unit → IsTextUnit previous unit rest
  | escape : IsEscape unit → IsTextUnit previous unit rest
  | codeSpan : IsCodeSpan unit → IsTextUnit previous unit rest
  | inlineTag : IsInlineTag unit → IsTextUnit previous unit rest
  | blockTag : IsBlockTag previous unit rest → IsTextUnit previous unit rest
  | elementTag : IsElementTag unit → IsTextUnit previous unit rest

/-- A text that is a sequence of units, after a character. -/
inductive TextUnits : Option Char → List Char → Prop
  | nil (previous : Option Char) : TextUnits previous []
  | cons {previous : Option Char} {unit rest : List Char} : IsTextUnit previous unit rest →
      TextUnits unit.getLast? rest → TextUnits previous (unit ++ rest)

/-! ## Comments -/

/-- A comment between its delimiters, with its fences closed, whose text is a sequence of units. -/
def WellFormed (comment : List Char) : Prop :=
  ∃ text, comment = ['/', '*', '*'] ++ text ++ ['*', '/'] ∧ FencesClosed (contentLines text) ∧
    TextUnits none (['\n'].intercalate (outsideFences (contentLines text)))

end DocCoverage.DocComment
