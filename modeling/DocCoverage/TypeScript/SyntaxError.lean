import DocCoverage.Text.Printable

/-!
# Syntax errors

The causes for which a module cannot be read, each with its message. A syntax error is a cause and
the index of the character at which it is reported.
-/

namespace DocCoverage.TypeScript

/-- Why a module cannot be read. -/
inductive Cause where
  /-- One token was required and another found. -/
  | expected (wanted found : String)
  /-- None of several things was found. -/
  | unexpected (found wanted : String)
  | expectedExpression
  | expectedIdentifier
  | expectedStatementEnd
  | expectedDigit (radix : Nat)
  | expectedExponent
  | identifierAfterNumber
  | unexpectedCharacter (c : Char)
  | unexpectedEnd
  | conflictMarker
  | unterminatedTemplate
  | unterminatedRegex
  /-- An escape sequence has not the digits that it needs. -/
  | badEscape (wanted : String)
  /-- An escape sequence is not closed, or stands in the name of a tag. -/
  | invalidEscape
  /-- A backslash stands in a word without the start of an escape sequence. -/
  | missingEscape
  /-- A backslash stands at the end of the text. -/
  | escapeAtEnd
  | octalEscape
  | escapedReservedWord (word : String)
  | mismatchedClosingTag (name : String)
  | invalidMarkupValue
  | invalidAssignmentTarget
  | notAPattern
  | patternWithoutInitializer
  | optionalPattern
  | parameterProperty
  | lineBreakAfterThrow
  | lineBreakBeforeArrow
  | arrowNotAllowed
  | emptyParentheses
  | spreadInParentheses
  /-- A unary expression is the base of a power. -/
  | unaryBase
  | awaitStar
  | awaitAsIdentifier
  | awaitLoop
  | yieldInParameters
  /-- A constructor is called on an optional chain. -/
  | chainConstructor
  /-- A word cannot be asserted to be present. -/
  | nonNullAssertion (word : String)
  | invalidSuper
  | invalidSuperCall
  | optionalSuperCall
  | importNotAllowed
  | importArguments
  | moduleItemInBlock
  | stringBinding (text : String)
  | multipleDefaults
  | labelledGenerator
  | constructorField
  | asyncConstructor
  | readonlyMethod
  | spaceAfterNumberSign
  | requiredAfterOptional
  | nestingTooDeep
  deriving DecidableEq, Repr

/-- The name of the digits of a radix. -/
def digitName (radix : Nat) : String :=
  if radix = 2 then "a binary digit"
  else if radix = 8 then "an octal digit"
  else if radix = 16 then "a hexadecimal digit"
  else "a decimal digit"

/-- The message of a cause. -/
def Cause.message : Cause → String
  | expected wanted found => "Expected '" ++ wanted ++ "', got '" ++ found ++ "'"
  | unexpected found wanted => "Unexpected token `" ++ found ++ "`. Expected " ++ wanted
  | expectedExpression => "Expression expected"
  | expectedIdentifier => "Expected ident"
  | expectedStatementEnd => "Expected ';', '\x7d' or <eof>"
  | expectedDigit radix => "Expected " ++ digitName radix
  | expectedExponent => "Expected +, - or decimal digit after e"
  | identifierAfterNumber => "Identifier cannot follow number"
  | unexpectedCharacter c => "Unexpected character '" ++ Text.charDisplay c ++ "'"
  | unexpectedEnd => "Unexpected eof"
  | conflictMarker => "Merge conflict marker encountered."
  | unterminatedTemplate => "Unterminated template"
  | unterminatedRegex => "Unterminated regexp literal"
  | badEscape wanted => "Bad character escape sequence, expected " ++ wanted
  | invalidEscape => "Invalid unicode escape"
  | missingEscape => "Expected unicode escape"
  | escapeAtEnd => "Invalid string escape"
  | octalEscape => "Legacy octal escape is not permitted in strict mode"
  | escapedReservedWord word => "Unexpected escape sequence in reserved word: " ++ word
  | mismatchedClosingTag name => "Expected corresponding JSX closing tag for <" ++ name ++ ">"
  | invalidMarkupValue => "JSX value should be either an expression or a quoted JSX text"
  | invalidAssignmentTarget => "Invalid assignment target"
  | notAPattern => "Not a pattern"
  | patternWithoutInitializer => "Destructuring bindings require initializers"
  | optionalPattern =>
    "A binding pattern parameter cannot be optional in an implementation signature."
  | parameterProperty =>
    "Typescript parameter property must be an identifier or assignment pattern"
  | lineBreakAfterThrow => "LineBreak cannot follow 'throw'"
  | lineBreakBeforeArrow => "Unexpected line break between arrow head and arrow"
  | arrowNotAllowed => "An arrow function is not allowed here"
  | emptyParentheses => "Parenthesized expression cannot be empty"
  | spreadInParentheses => "Parenthesized expression cannot contain spread operator"
  | unaryBase => "'**' cannot be applied to unary/await expression."
  | awaitStar =>
    "await* has been removed from the async functions proposal. Use Promise.all() instead."
  | awaitAsIdentifier => "`await` cannot be used as an identifier in an async context"
  | awaitLoop => "for await syntax is valid only for for-of statement"
  | yieldInParameters => "'yield' cannot be used as a parameter within generator"
  | chainConstructor => "Constructor in/after an optional chaining is not allowed."
  | nonNullAssertion word =>
    "Typescript non-null assertion operator is not allowed with '" ++ word ++ "'"
  | invalidSuper => "Invalid access to super"
  | invalidSuperCall => "Invalid `super()`"
  | optionalSuperCall => "Super call cannot be optional"
  | importNotAllowed => "Import is not allowed here"
  | importArguments => "`import()` requires exactly one or two arguments"
  | moduleItemInBlock => "'import', and 'export' cannot be used outside of module code"
  | stringBinding text =>
    "A string literal cannot be used as an imported binding.\n- Did you mean `import \x7b \"" ++
      text ++ "\" as foo \x7d`?"
  | multipleDefaults => "A switch block cannot have multiple defaults"
  | labelledGenerator => "Generator or async function cannot be labelled"
  | constructorField => "Classes may not have a non-static field named 'constructor'"
  | asyncConstructor => "Constructor can't be an async function"
  | readonlyMethod => "A method cannot be readonly"
  | spaceAfterNumberSign => "Unexpected space between # and identifier"
  | requiredAfterOptional => "A required element cannot follow an optional element."
  | nestingTooDeep => "Nesting too deep"

/-- A cause and the index of the character at which it is reported. -/
structure SyntaxError where
  cause : Cause
  index : Nat
  deriving DecidableEq, Repr

end DocCoverage.TypeScript
