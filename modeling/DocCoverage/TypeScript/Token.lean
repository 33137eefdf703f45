import DocCoverage.Text.IdentifierTable
import DocCoverage.TypeScript.SyntaxError

/-!
# Tokens

The tokens of a module and the classes of its words. Keywords are words: whether a word may name
something depends on where it stands.
-/

namespace DocCoverage.TypeScript

open Text

/-- A token of a module. -/
inductive Token where
  /-- An identifier or keyword, with its escape sequences decoded. -/
  | word (name : String)
  /-- A punctuator. -/
  | symbol (text : String)
  | string (value : String)
  | number
  | bigInt
  | regex
  /-- The text of a template up to its end, if `complete`, or else up to its first hole. A fault is an
  escape sequence that cannot be read, and its distance from the start of the token. -/
  | template (complete : Bool) (fault : Option (Cause × Nat))
  /-- The text between two tags. -/
  | markupText
  /-- Characters that form no token, and the distance from their start to what is wrong. -/
  | invalid (cause : Cause) (distance : Nat)
  | endOfFile
  deriving DecidableEq, Repr

/-- The left brace. -/
def leftBrace : String := "\x7b"

/-- The right brace. -/
def rightBrace : String := "\x7d"

/-- The words that a declaration cannot bind. -/
def keywords : List String :=
  ["break", "case", "catch", "class", "const", "continue", "debugger", "default", "delete", "do",
    "else", "export", "extends", "false", "finally", "for", "function", "if", "import", "in",
    "instanceof", "new", "null", "return", "super", "switch", "this", "throw", "true", "try",
    "typeof", "var", "void", "while", "with"]

/-- The words that a declaration may bind and that are no expressions in a module. -/
def moduleReservedWords : List String :=
  ["await", "enum", "implements", "interface", "let", "package", "private", "protected", "public",
    "static", "yield"]

/-- The words with a meaning in some places that are ordinary identifiers in all others. -/
def contextualWords : List String :=
  ["abstract", "accessor", "any", "as", "assert", "asserts", "async", "bigint", "boolean",
    "constructor", "declare", "from", "get", "global", "infer", "intrinsic", "is", "keyof", "meta",
    "namespace", "never", "number", "object", "of", "out", "override", "readonly", "require",
    "satisfies", "set", "string", "symbol", "target", "type", "undefined", "unique", "unknown",
    "using"]

/-- Whether a word cannot be bound. -/
def isKeyword (name : String) : Bool := keywords.contains name

/-- Whether a word may stand as an expression that names something. -/
def isReference (name : String) : Bool := !isKeyword name && !moduleReservedWords.contains name

/-- A word as error messages show it: words with a meaning by themselves, all others by their
kind. -/
def wordDisplay (kind name : String) : String :=
  if name == "typeof" then "typeOf"
  else if name == "instanceof" then "instanceOf"
  else if isKeyword name || moduleReservedWords.contains name || contextualWords.contains name then
    name
  else kind

/-- A token as error messages show it, with a name for the identifiers. -/
def Token.displayAs (identifier : String) : Token → String
  | word name => wordDisplay identifier name
  | symbol text => text
  | string _ => "string literal"
  | number => "numeric literal"
  | bigInt => "bigint literal"
  | regex => "regexp literal"
  | template true _ => "no substitution template literal"
  | template false _ => "template head"
  | markupText => "jsx text"
  | invalid _ _ => "<lexing error>"
  | endOfFile => "<eof>"

/-- A token as error messages show it. -/
def Token.display (token : Token) : String := token.displayAs "ident"

/-- A character that may start an identifier. -/
def isIdentifierStart (c : Char) : Bool :=
  c.isAlpha || c == '$' || c == '_' || (0x80 ≤ c.toNat && inRanges identifierStartRanges c)

/-- A character that may continue an identifier. -/
def isIdentifierPart (c : Char) : Bool :=
  c.isAlphanum || c == '$' || c == '_' || c == '\u200c' || c == '\u200d' ||
    (0x80 ≤ c.toNat && (inRanges identifierStartRanges c || inRanges identifierPartRanges c))

end DocCoverage.TypeScript
