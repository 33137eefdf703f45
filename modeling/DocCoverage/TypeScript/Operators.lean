import DocCoverage.TypeScript.Parse

/-!
# Operators

The classes of tokens that stand between and before operands, and the tokens with which operands
start.
-/

namespace DocCoverage.TypeScript

open Parse

/-- The operators between two operands, with the exception of words. -/
def binaryOperators : List String :=
  ["==", "!=", "===", "!==", "<", "<=", ">", ">=", "<<", ">>", ">>>", "+", "-", "*", "/", "%", "|",
    "^", "&", "||", "&&", "**", "??"]

/-- The operators between two operands that bind more loosely than an assertion of a type. -/
def looseOperators : List String := ["==", "!=", "===", "!==", "|", "^", "&", "||", "&&", "??"]

/-- The operators that assign. -/
def assignmentOperators : List String :=
  ["=", "+=", "-=", "*=", "/=", "%=", "<<=", ">>=", ">>>=", "|=", "^=", "&=", "**=", "&&=", "||=",
    "??="]

/-- The operators before an operand that do not change it. -/
def prefixOperators : List String := ["delete", "void", "typeof", "+", "-", "~", "!"]

/-- Whether the current token assigns. -/
def seesAssignment : Parse Bool := seesAny assignmentOperators

/-- Whether the current token is an operator between two operands that is no word. -/
def seesBinaryOperator : Parse Bool := seesAny binaryOperators

/-- Whether the current token is a word between two operands. -/
def seesBinaryWord : Parse Bool := do
  if ← sees "in" then return (← read).allowIn
  sees "instanceof"

/-- The keywords with which an operand may start. -/
def operandKeywords : List String :=
  ["class", "function", "new", "this", "super", "null", "true", "false", "typeof", "void", "delete"]

/-- Whether an operand may start at the current token, as far as the token alone shows. -/
def startsOperand : Parse Bool := do
  match ← token with
  | .word name => return !isKeyword name || (["import", "throw"] ++ operandKeywords).contains name
  | .string _ | .number | .bigInt | .template _ _ => return true
  | _ =>
    seesAny ["(", "[", leftBrace, "+", "-", "~", "!", "++", "--", "<", "*", "/", "/="]

/-- Whether an expression starts at the current token. -/
def startsExpression : Parse Bool := do
  match ← token with
  | .word "import" => peeksAny ["(", "<", "."]
  | .word name => return isReference name || (["await", "yield"] ++ operandKeywords).contains name
  | .string _ | .number | .bigInt | .template _ _ => return true
  | .symbol "#" => peeksWord
  | _ => seesAny ["(", "[", leftBrace, "+", "-", "~", "!", "++", "--", "<"]

end DocCoverage.TypeScript
