import DocCoverage.Text.Trivia
import DocCoverage.TypeScript.Token

/-!
# Reading tokens

A lexeme is a token with its place: the indices of its first character and of the one after its
last, whether a line break stands before it, and the text from its start and from its end on. The
next lexeme is read from the text after the last one. Where the meaning of a character depends on
the grammar, the text at the start of a lexeme is read again: a slash may start a regular
expression, a right brace may close the hole of a template, and the text between tags follows rules
of its own. In a type every angle bracket is a token.
-/

namespace DocCoverage.TypeScript

open Text

/-- A token and its place. -/
structure Lexeme where
  token : Token
  /-- The index at which the token is said to start: that of its first character, or of a mark that
  stands before it. -/
  start : Nat
  /-- The index of the first character. -/
  index : Nat
  stop : Nat
  /-- Whether a line break stands between this token and the one before it. -/
  newlineBefore : Bool
  /-- The text from the first character of the token on. -/
  source : List Char
  /-- The text after the token. -/
  rest : List Char
  deriving DecidableEq, Repr

/-- A character that ends a line comment. -/
def isLineEnd (c : Char) : Bool := breaksLine c

/-- A blank between tokens. -/
def isTokenGap (c : Char) : Bool := isBlank c || c == '\ufeff'

/-! ## Gaps between tokens -/

/-- The marks that make a comment of the rest of their line where they stand first in it. -/
def lineMarks : List String := ["-->", "======="]

/-- The marks outside of types that make a comment of the rest of their line where they stand first
in it. -/
def lineBracketMarks : List String := ["<<<<<<< ", ">>>>>>> "]

/-- Whether a mark that makes a comment of the rest of its line starts a text. `first` says that
nothing else stands before it in its line. -/
def startsMark (inType first : Bool) (text : List Char) : Bool :=
  (!inType && "<!--".toList.isPrefixOf text) ||
    (first && lineMarks.any (·.toList.isPrefixOf text)) ||
    (first && !inType && lineBracketMarks.any (·.toList.isPrefixOf text))

/-- The text after blanks and comments. A token that follows a mark starts at the mark. -/
structure Gap where
  /-- The start of the token after the gap. -/
  start : Nat
  /-- The index of the first character of the token after the gap. -/
  index : Nat
  /-- Whether a line break was passed. -/
  newline : Bool
  rest : List Char
  deriving DecidableEq, Repr

/-- Pass over blanks and comments. A block comment that is never closed takes the rest of the text.
`marked` is the index of the first mark passed. -/
def skipGap (inType : Bool) (marked : Option Nat) (index : Nat) (newline : Bool) :
    List Char → Gap
  | '/' :: '/' :: rest =>
    skipGap inType marked (index + 2 + (rest.takeWhile fun c => !isLineEnd c).length) newline
      (rest.dropWhile fun c => !isLineEnd c)
  | '/' :: '*' :: rest =>
    skipGap inType marked (index + 2 + (splitBlock rest).1.length)
      (newline || (splitBlock rest).1.any isLineEnd) (splitBlock rest).2
  | c :: rest =>
    if isTokenGap c then skipGap inType marked (index + 1) (newline || isLineEnd c) rest
    else if startsMark inType newline (c :: rest) then
      skipGap inType (marked.or (some index))
        (index + 1 + (rest.takeWhile fun c => !isLineEnd c).length) newline
        (rest.dropWhile fun c => !isLineEnd c)
    else ⟨marked.getD index, index, newline, c :: rest⟩
  | [] => ⟨marked.getD index, index, newline, []⟩
termination_by text => text.length
decreasing_by
  · have := length_dropWhile_le_length (fun c => !isLineEnd c) rest
    simp only [List.length_cons]
    omega
  · have := splitBlock_length_le rest
    simp only [List.length_cons]
    omega
  · simp
  · have := length_dropWhile_le_length (fun c => !isLineEnd c) rest
    simp only [List.length_cons]
    omega

/-! ## Escape sequences -/

/-- The value of a hexadecimal digit. -/
def hexDigit? (c : Char) : Option Nat :=
  if c.isDigit then some (c.toNat - 48)
  else if 'a' ≤ c ∧ c ≤ 'f' then some (c.toNat - 87)
  else if 'A' ≤ c ∧ c ≤ 'F' then some (c.toNat - 55)
  else none

/-- At most so many hexadecimal digits at the start of a text, and the number of characters that
write them. Separators between them are passed over. -/
def hexDigits : Nat → List Char → List Nat × Nat
  | 0, _ => ([], 0)
  | _, [] => ([], 0)
  | limit + 1, c :: rest =>
    if c = '_' then
      let later := hexDigits (limit + 1) rest
      (later.1, later.2 + 1)
    else
      match hexDigit? c with
      | some digit =>
        let later := hexDigits limit rest
        (digit :: later.1, later.2 + 1)
      | none => ([], 0)

/-- The number that hexadecimal digits write. -/
def hexValue (digits : List Nat) : Nat := digits.foldl (fun n digit => 16 * n + digit) 0

/-- What an escape sequence stands for, and the number of characters that write it. -/
structure Escape (α : Type) where
  length : Nat
  meaning : Except Cause α

/-- The character with a code point; a half of a surrogate pair has none. -/
def character? (value : Nat) : Option Char :=
  if value.isValidChar then some (Char.ofNat value) else none

/-- The code point that an escape sequence names, given the text after its `u`. -/
def unicodeEscape : List Char → Escape Nat
  | '{' :: rest =>
    let digits := hexDigits rest.length rest
    let value := hexValue digits.1
    if digits.1.isEmpty ∨ 0x100000000 ≤ value then
      ⟨1 + digits.2, .error (.badEscape "1-6 hex characters")⟩
    else if 0x10FFFF < value then
      ⟨1 + digits.2, .error (.badEscape "1-6 hex characters in the range 0 to 10FFFF.")⟩
    else if (rest.drop digits.2).head? = some '}' then
      ⟨2 + digits.2, .ok value⟩
    else ⟨1 + digits.2, .error .invalidEscape⟩
  | text =>
    let digits := hexDigits 4 text
    if digits.1.length = 4 then ⟨digits.2, .ok (hexValue digits.1)⟩
    else ⟨digits.2, .error (.badEscape "4 hex characters")⟩

/-- A digit of a radix. -/
def isDigitOf (radix : Nat) (c : Char) : Bool := (hexDigit? c).any (· < radix)

/-- The letters that stand for a control character after a backslash. -/
def controlEscapes : List (Char × Char) :=
  [('n', '\n'), ('r', '\r'), ('t', '\t'), ('b', '\x08'), ('v', '\x0b'), ('f', '\x0c')]

/-- The escape sequence of a character by one to three octal digits. Only a zero alone may stand in
a template. -/
def octalEscape (inTemplate : Bool) (text : List Char) : Escape (List Char) :=
  let digits := (text.take 3).takeWhile (isDigitOf 8)
  if digits = ['0'] then ⟨1, .ok ['\x00']⟩
  else if inTemplate then ⟨1, .error .octalEscape⟩
  else
    let two := digits.take 2
    let value := fun (octal : List Char) => octal.foldl (fun n c => 8 * n + (c.toNat - 48)) 0
    if value digits < 256 then ⟨digits.length, .ok [Char.ofNat (value digits)]⟩
    else ⟨two.length, .ok [Char.ofNat (value two)]⟩

/-- The escape sequence in a string or template, given the text after its backslash. -/
def escapeAt (inTemplate : Bool) : List Char → Escape (List Char)
  | [] => ⟨0, .error .escapeAtEnd⟩
  | '\r' :: '\n' :: _ => ⟨2, .ok []⟩
  | 'x' :: rest =>
    let digits := hexDigits 2 rest
    if digits.1.length = 2 then ⟨1 + digits.2, .ok [Char.ofNat (hexValue digits.1)]⟩
    else ⟨1 + digits.2, .error (.badEscape "2 hex characters")⟩
  | 'u' :: rest =>
    let escape := unicodeEscape rest
    ⟨1 + escape.length, escape.meaning.map fun value => [(character? value).getD '\ufffd']⟩
  | c :: rest =>
    if breaksLine c then ⟨1, .ok []⟩
    else if isDigitOf 8 c then octalEscape inTemplate (c :: rest)
    else ⟨1, .ok [((controlEscapes.find? (·.1 = c)).map (·.2)).getD c]⟩

/-! ## Words, strings and templates -/

/-- Characters with escape sequences: the characters they stand for, the number of characters that
write them, and the first or last sequence that cannot be read with its distance from the start. -/
structure Written where
  text : List Char
  length : Nat
  fault : Option (Cause × Nat)

/-- Put a character that takes some characters to write in front. -/
def Written.push (written : Written) (text : List Char) (length : Nat) : Written :=
  ⟨text ++ written.text, written.length + length,
    written.fault.map fun fault => (fault.1, fault.2 + length)⟩

/-- The characters of a word. An escape sequence that cannot be read ends it. -/
def scanWord : List Char → Written
  | [] => ⟨[], 0, none⟩
  | '\\' :: 'u' :: rest =>
    let escape := unicodeEscape rest
    match escape.meaning with
    | .ok value =>
      let text := match character? value with
        | some c => [c]
        | none => '\\' :: 'u' :: rest.take escape.length
      (scanWord (rest.drop escape.length)).push text (escape.length + 2)
    | .error cause => ⟨[], escape.length + 2, some (cause, 0)⟩
  | '\\' :: _ => ⟨[], 1, some (.missingEscape, 0)⟩
  | c :: rest => if isIdentifierPart c then (scanWord rest).push [c] 1 else ⟨[], 0, none⟩
termination_by text => text.length
decreasing_by
  · simp only [List.length_drop, List.length_cons]
    omega
  · simp

/-- The characters of a string after its first quotation mark, up to and including its last. A line
end or the end of the text cuts it short, and so does an escape sequence that cannot be read. -/
def scanString (quote : Char) : List Char → Written
  | [] => ⟨[], 0, none⟩
  | c :: rest =>
    if c = '\\' then
      let escape := escapeAt false rest
      match escape.meaning with
      | .ok text => (scanString quote (rest.drop escape.length)).push text (escape.length + 1)
      | .error cause => ⟨[], escape.length + 1, some (cause, 0)⟩
    else if c = quote then ⟨[], 1, none⟩
    else if endsLine c then ⟨[], 0, none⟩
    else (scanString quote rest).push [c] 1
termination_by text => text.length
decreasing_by
  · simp only [List.length_drop, List.length_cons]
    omega
  · simp

/-- A stretch of the text of a template. -/
structure TemplatePart where
  /-- Whether it ends with the template, and not at a hole. -/
  complete : Bool
  /-- The number of characters, with those that end it. -/
  length : Nat
  /-- The last escape sequence that cannot be read, and its distance from the start. -/
  fault : Option (Cause × Nat)

/-- Put some characters in front, with the escape sequence that they may hold. -/
def TemplatePart.push (part : TemplatePart) (length : Nat) (fault : Option Cause) : TemplatePart :=
  ⟨part.complete, part.length + length,
    (part.fault.map fun later => (later.1, later.2 + length)).or (fault.map (·, 0))⟩

/-- The stretch of template text at the start of a text, if it has an end. -/
def templatePart? : List Char → Option TemplatePart
  | [] => none
  | '$' :: '{' :: _ => some ⟨false, 2, none⟩
  | c :: rest =>
    if c = '\\' then
      let escape := escapeAt true rest
      (templatePart? (rest.drop escape.length)).map (·.push (escape.length + 1) <|
        match escape.meaning with
        | .ok _ => none
        | .error cause => some cause)
    else if c = '\x60' then some ⟨true, 1, none⟩
    else (templatePart? rest).map (·.push 1 none)
termination_by text => text.length
decreasing_by
  · simp only [List.length_drop, List.length_cons]
    omega
  · simp

/-! ## Numbers -/

/-- The number of characters of digits with separators. -/
def digitsLength (radix : Nat) (text : List Char) : Nat :=
  (text.takeWhile fun c => isDigitOf radix c || c == '_').length

/-- A number that cannot be read: the cause, and the number of characters passed over. -/
abbrev NumberFault := Cause × Nat

/-- The number of characters of digits with separators after some characters, of which one must be a
digit. -/
def requireDigits (radix taken : Nat) (text : List Char) : Except NumberFault Nat :=
  let length := digitsLength radix (text.drop taken)
  if ((text.drop taken).take length).any (isDigitOf radix) then .ok (taken + length)
  else .error (.expectedDigit radix, taken + length)

/-- A number that takes some characters; no identifier may follow it directly. -/
def closedNumber (text : List Char) (length : Nat) : Except NumberFault (Token × Nat) :=
  if (text.drop length).head?.any isIdentifierStart then .error (.identifierAfterNumber, length)
  else .ok (.number, length)

/-- A number that has taken some characters, with the mark of a large integer or without. -/
def integerOr (text : List Char) (length : Nat)
    (otherwise : Except NumberFault (Token × Nat)) : Except NumberFault (Token × Nat) :=
  if (text.drop length).head? = some 'n' then .ok (.bigInt, length + 1) else otherwise

/-- A number with a radix mark. -/
def radixNumber (radix : Nat) (text : List Char) : Except NumberFault (Token × Nat) := do
  let length ← requireDigits radix 2 text
  integerOr text length (closedNumber text length)

/-- The number of characters of a number up to the end of its exponent, if there is one after those
taken. -/
def withExponent (text : List Char) (taken : Nat) : Except NumberFault Nat :=
  match text.drop taken with
  | c :: rest =>
    if c = 'e' ∨ c = 'E' then
      match rest with
      | [] => .error (.expectedExponent, taken + 1)
      | sign :: _ =>
        requireDigits 10 (if sign = '+' ∨ sign = '-' then taken + 2 else taken + 1) text
    else .ok taken
  | [] => .ok taken

/-- The rest of a decimal number after its whole part. -/
def decimalRest (text : List Char) (whole : Nat) : Except NumberFault (Token × Nat) := do
  let fraction :=
    if (text.drop whole).head? = some '.' then 1 + digitsLength 10 (text.drop (whole + 1)) else 0
  closedNumber text (← withExponent text (whole + fraction))

/-- A decimal number, or an octal one if it starts with a zero and has only octal digits. -/
def decimalNumber (text : List Char) : Except NumberFault (Token × Nat) :=
  let whole := digitsLength 10 text
  let digits := text.take whole
  let isOctal := text.head? = some '0' && 1 < whole && digits.all fun c => c != '8' && c != '9'
  if whole = 0 then decimalRest text 0
  else integerOr text whole <|
    if isOctal then closedNumber text whole else decimalRest text whole

/-- A number. -/
def scanNumber : List Char → Except NumberFault (Token × Nat)
  | '0' :: mark :: rest =>
    if mark = 'x' ∨ mark = 'X' then radixNumber 16 ('0' :: mark :: rest)
    else if mark = 'o' ∨ mark = 'O' then radixNumber 8 ('0' :: mark :: rest)
    else if mark = 'b' ∨ mark = 'B' then radixNumber 2 ('0' :: mark :: rest)
    else decimalNumber ('0' :: mark :: rest)
  | text => decimalNumber text

/-! ## Tokens -/

/-- The punctuators, longer ones before those they start with. -/
def symbols : List String :=
  [">>>=", "...", "===", "!==", "**=", "&&=", "||=", "??=", "<<=", ">>>", ">>=", "=>", "==", "!=",
    "**", "++", "--", "&&", "||", "??", "<<", "<=", ">>", ">=", "+=", "-=", "*=", "/=", "%=", "&=",
    "|=", "^=", leftBrace, rightBrace, "(", ")", "[", "]", ";", ",", "<", ">", "+", "-", "*", "/",
    "%", "&", "|", "^", "!", "~", "?", ":", "=", "@", "#", "."]

/-- The punctuator at the start of a text, if there is one. -/
def symbolAt? (inType : Bool) (text : List Char) : Option String :=
  if inType && text.head? = some '<' then some "<"
  else if inType && text.head? = some '>' then some ">"
  else symbols.find? (·.toList.isPrefixOf text)

/-- The token of a word. A reserved word is written without escape sequences. -/
def wordToken (text : List Char) (word : Written) : Token :=
  let name := String.ofList word.text
  match word.fault with
  | some (cause, distance) => .invalid cause distance
  | none =>
    if (text.take word.length).contains '\\' && !isReference name then
      .invalid (.escapedReservedWord name) 0
    else .word name

/-- The token of a stretch of template text after a first character. -/
def templateToken (text : List Char) : Token × Nat :=
  match templatePart? text with
  | some part =>
    (.template part.complete (part.fault.map fun fault => (fault.1, fault.2 + 1)), part.length + 1)
  | none => (.invalid .unterminatedTemplate 0, text.length + 1)

/-- The token at the start of a text and its number of characters. `first` says that nothing else
stands before it in its line. -/
def scanToken (inType first : Bool) : List Char → Token × Nat
  | [] => (.endOfFile, 0)
  | c :: rest =>
    if isIdentifierStart c ∨ c = '\\' then
      let word := scanWord (c :: rest)
      (wordToken (c :: rest) word, word.length)
    else if c.isDigit ∨ (c = '.' ∧ rest.head?.any Char.isDigit) then
      match scanNumber (c :: rest) with
      | .ok found => found
      | .error (cause, length) => (.invalid cause 0, length)
    else if c = '\x22' ∨ c = '\x27' then
      let body := scanString c rest
      match body.fault with
      | some (cause, distance) => (.invalid cause (distance + 1), body.length + 1)
      | none => (.string (String.ofList body.text), body.length + 1)
    else if c = '\x60' then templateToken rest
    else if first && "||||||| ".toList.isPrefixOf (c :: rest) then
      (.invalid .conflictMarker 0, 1 + (rest.takeWhile fun c => !isLineEnd c).length)
    else
      match symbolAt? inType (c :: rest) with
      | some text => (.symbol text, text.length)
      | none => (.invalid (.unexpectedCharacter c) 0, 1)

/-- The first lexeme of a text that starts at an index. `newline` says that the text starts a
line. -/
def Lexeme.read (inType newline : Bool) (index : Nat) (text : List Char) : Lexeme :=
  let gap := skipGap inType none index newline text
  let scanned := scanToken inType gap.newline gap.rest
  ⟨scanned.1, gap.start, gap.index, gap.index + scanned.2, gap.newline, gap.rest,
    gap.rest.drop scanned.2⟩

/-- The lexeme with its text read as another token of so many characters. -/
def Lexeme.retoken (lexeme : Lexeme) (token : Token) (length : Nat) : Lexeme :=
  { lexeme with token, stop := lexeme.index + length, rest := lexeme.source.drop length }

/-- An angle bracket with the signs that follow it taken into one operator. -/
def Lexeme.joinSigns (lexeme : Lexeme) : Lexeme :=
  if lexeme.token = .symbol "<" ∨ lexeme.token = .symbol ">" then
    match symbolAt? false lexeme.source with
    | some text => lexeme.retoken (.symbol text) text.length
    | none => lexeme
  else lexeme

/-- The number of characters of a regular expression after its first slash, with its closing slash.
`inClass` says that a character class is open, in which a slash closes nothing. -/
def regexLength (inClass : Bool) : List Char → Option Nat
  | [] => none
  | '\\' :: c :: rest =>
    if endsLine c then none else (regexLength inClass rest).map (· + 2)
  | c :: rest =>
    if endsLine c then none
    else if c = '/' ∧ !inClass then some 1
    else if c = '[' then (regexLength true rest).map (· + 1)
    else if c = ']' then (regexLength false rest).map (· + 1)
    else (regexLength inClass rest).map (· + 1)

/-- A lexeme that starts with a slash read as a regular expression. -/
def Lexeme.asRegex (lexeme : Lexeme) : Lexeme :=
  match regexLength false (lexeme.source.drop 1) with
  | some body =>
    let flags := lexeme.source.drop (1 + body)
    let length := if flags.head?.any isIdentifierStart then
      (flags.takeWhile isIdentifierPart).length else 0
    lexeme.retoken .regex (1 + body + length)
  | none => lexeme.retoken (.invalid .unterminatedRegex 0) 1

/-- A lexeme that starts with the right brace of a hole read as the text of the template after
it. -/
def Lexeme.asTemplatePart (lexeme : Lexeme) : Lexeme :=
  let scanned := templateToken (lexeme.source.drop 1)
  lexeme.retoken scanned.1 scanned.2

/-- A lexeme that starts with two less-than signs read as the second of them. -/
def Lexeme.secondSign (lexeme : Lexeme) : Lexeme :=
  { lexeme with
    token := .symbol "<"
    start := lexeme.start + 1
    index := lexeme.index + 1
    source := lexeme.source.drop 1 }

/-- The lexeme after another where text between tags is expected: the text up to the next brace or
tag, or the brace or tag itself. -/
def Lexeme.readMarkup (index : Nat) (text : List Char) : Lexeme :=
  let found : Token × Nat := match text with
    | [] => (.endOfFile, 0)
    | '{' :: _ => (.symbol leftBrace, 1)
    | '<' :: _ => (.symbol "<", 1)
    | _ => (.markupText, (text.takeWhile fun c => c != '{' && c != '<').length)
  ⟨found.1, index, index, index + found.2, false, text, text.drop found.2⟩

/-- A word with the hyphens that names of tags and attributes may hold. Escape sequences cannot
stand in it. -/
def Lexeme.asMarkupName (lexeme : Lexeme) : Lexeme :=
  match lexeme.token with
  | .word _ =>
    let name := lexeme.source.takeWhile fun c => isIdentifierPart c || c == '-'
    if (lexeme.source.drop name.length).head? = some '\\' then
      lexeme.retoken (.invalid .invalidEscape name.length) (name.length + 1)
    else lexeme.retoken (.word (String.ofList name)) name.length
  | _ => lexeme

/-- A string read as the value of an attribute, which runs to the next quotation mark of its kind or
to the end of the text and knows no escapes. -/
def Lexeme.asAttributeString (lexeme : Lexeme) : Lexeme :=
  match lexeme.source with
  | quote :: rest =>
    let body := rest.takeWhile (· != quote)
    let close := (rest.drop body.length).take 1
    lexeme.retoken (.string (String.ofList body)) (1 + body.length + close.length)
  | [] => lexeme

end DocCoverage.TypeScript
