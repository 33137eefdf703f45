/-!
# Diagnostics of documentation comments

A problem names what is wrong with a comment and carries the words its message quotes. Several
problems share an identifier; each has its own message.
-/

namespace DocCoverage.DocComment

/-- What is wrong with a comment. -/
inductive Problem where
  | missingOpeningDelimiter
  | missingClosingDelimiter
  | unnecessaryBackslash
  | codeSpanMissingDelimiter
  | codeSpanEmpty
  | codeFenceMissingDelimiter
  | atSignInWord
  | missingTag
  | charactersAfterTag (name : String)
  | undefinedTag (name : String)
  | tagShouldHaveBraces (name : String)
  | tagShouldNotHaveBraces (name : String)
  | expectedInlineTag
  | expectedInlineTagName
  | inlineTagInvalidCharacter (name : String)
  | inlineTagMissingRightBrace (name : String)
  | escapeRightBrace
  | paramWithType (tag : String)
  | paramWithOptionalName (tag : String)
  | paramMissingName (tag : String)
  | paramInvalidName (tag name : String)
  | paramMissingHyphen (tag : String)
  | missingDeprecationMessage
  | malformedHtmlName
  | htmlTagMissingGreaterThan
  | escapeGreaterThan
  deriving DecidableEq, Repr

namespace Problem

/-- The identifier under which a problem is reported. -/
def id : Problem → String
  | missingOpeningDelimiter => "tsdoc-comment-missing-opening-delimiter"
  | missingClosingDelimiter => "tsdoc-comment-missing-closing-delimiter"
  | unnecessaryBackslash => "tsdoc-unnecessary-backslash"
  | codeSpanMissingDelimiter => "tsdoc-code-span-missing-delimiter"
  | codeSpanEmpty => "tsdoc-code-span-empty"
  | codeFenceMissingDelimiter => "tsdoc-code-fence-missing-delimiter"
  | atSignInWord => "tsdoc-at-sign-in-word"
  | missingTag => "tsdoc-missing-tag"
  | charactersAfterTag _ => "tsdoc-characters-after-block-tag"
  | undefinedTag _ => "tsdoc-undefined-tag"
  | tagShouldHaveBraces _ => "tsdoc-tag-should-have-braces"
  | tagShouldNotHaveBraces _ => "tsdoc-tag-should-not-have-braces"
  | expectedInlineTag => "tsdoc-malformed-inline-tag"
  | expectedInlineTagName => "tsdoc-malformed-inline-tag"
  | inlineTagInvalidCharacter _ => "tsdoc-malformed-inline-tag"
  | inlineTagMissingRightBrace _ => "tsdoc-inline-tag-missing-right-brace"
  | escapeRightBrace => "tsdoc-escape-right-brace"
  | paramWithType _ => "tsdoc-param-tag-with-invalid-type"
  | paramWithOptionalName _ => "tsdoc-param-tag-with-invalid-optional-name"
  | paramMissingName _ => "tsdoc-param-tag-with-invalid-name"
  | paramInvalidName _ _ => "tsdoc-param-tag-with-invalid-name"
  | paramMissingHyphen _ => "tsdoc-param-tag-missing-hyphen"
  | missingDeprecationMessage => "tsdoc-missing-deprecation-message"
  | malformedHtmlName => "tsdoc-malformed-html-name"
  | htmlTagMissingGreaterThan => "tsdoc-html-tag-missing-greater-than"
  | escapeGreaterThan => "tsdoc-escape-greater-than"

/-- The message of a problem. -/
def text : Problem → String
  | missingOpeningDelimiter => "Expecting a \"/**\" comment"
  | missingClosingDelimiter => "Expecting closing delimiter \"*/\""
  | unnecessaryBackslash => "A backslash must precede a punctuation character"
  | codeSpanMissingDelimiter => "The code span is missing its closing backtick"
  | codeSpanEmpty => "A code span must contain at least one character"
  | codeFenceMissingDelimiter => "Error parsing code fence: missing closing delimiter"
  | atSignInWord =>
    "The \"@\" character looks like part of a TSDoc tag; use a backslash to escape it"
  | missingTag => "The \"@\" character must be escaped with a backslash when used as text"
  | charactersAfterTag name =>
    "The token \"@" ++ name ++ "\" looks like a TSDoc tag but contains an invalid character; " ++
      "if it is not a tag, use a backslash to escape the \"@\""
  | undefinedTag name =>
    "The TSDoc tag \"@" ++ name ++ "\" is not defined in this configuration"
  | tagShouldHaveBraces name =>
    "The TSDoc tag \"@" ++ name ++
      "\" is an inline tag; it must be enclosed in \"\x7b \x7d\" braces"
  | tagShouldNotHaveBraces name =>
    "The TSDoc tag \"@" ++ name ++
      "\" is not an inline tag; it must not be enclosed in \"\x7b \x7d\" braces"
  | expectedInlineTag => "Expecting a TSDoc tag starting with \"\x7b@\""
  | expectedInlineTagName => "Expecting a TSDoc inline tag name after \"\x7b@\""
  | inlineTagInvalidCharacter name =>
    "The TSDoc inline tag \"\x7b@" ++ name ++ "\" contains an invalid character"
  | inlineTagMissingRightBrace name =>
    "The TSDoc inline tag \"\x7b@" ++ name ++ "\" is missing its closing \"\x7d\""
  | escapeRightBrace =>
    "The \"\x7d\" character should be escaped using a backslash to avoid confusion with a " ++
      "TSDoc inline tag"
  | paramWithType tag =>
    "The @" ++ tag ++ " block should not include a JSDoc-style \"\x7btype\x7d\""
  | paramWithOptionalName tag =>
    "The @" ++ tag ++ " should not include a JSDoc-style optional name; it must not be " ++
      "enclosed in \"[ ]\" brackets"
  | paramMissingName tag => "The @" ++ tag ++ " block should be followed by a parameter name"
  | paramInvalidName tag name =>
    "The @" ++ tag ++ " block should be followed by a valid parameter name: \"" ++ name ++ "\""
  | paramMissingHyphen tag =>
    "The @" ++ tag ++ " block should be followed by a parameter name and then a hyphen"
  | missingDeprecationMessage =>
    "The @deprecated block must include a deprecation message, e.g. describing the " ++
      "recommended alternative"
  | malformedHtmlName =>
    "Invalid HTML element: an HTML name must be an ASCII letter followed by optional letters, " ++
      "numbers, or hyphens"
  | htmlTagMissingGreaterThan => "The HTML tag has invalid syntax: expecting \">\""
  | escapeGreaterThan =>
    "The \">\" character should be escaped using a backslash to avoid confusion with an HTML tag"

end Problem

/-- A problem and the line of the comment, counted from one, on which it is reported. -/
structure Diagnostic where
  problem : Problem
  line : Nat
  deriving DecidableEq, Repr

/-- The full text of a diagnostic. -/
def Diagnostic.display (diagnostic : Diagnostic) : String :=
  "(" ++ diagnostic.problem.id ++ ") line " ++ toString diagnostic.line ++ ": " ++
    diagnostic.problem.text

end DocCoverage.DocComment
