import DocCoverage.TypeScript.Types

/-!
# Elements between tags

The productions of elements: tags with attributes, and between an opening and a closing tag text,
expressions in braces and elements. Inside of an element text follows the rules of
`Lexeme.readMarkup`, and in a tag every angle bracket is a token. An element ends at its last
greater-than sign, which stays the current token, so that the reader of the element decides how to
go on.

What goes wrong between an opening and a closing tag is not reported there: reading stops, and the
closing tag is then missed.
-/

namespace DocCoverage.TypeScript

open Parse

/-- Go on with text between tags after the current token. -/
def enterMarkup : Parse Unit :=
  modify fun cursor =>
    ⟨Lexeme.readMarkup cursor.current.stop cursor.current.rest, cursor.current.stop⟩

/-- A word of the name of a tag or attribute. -/
def markupWord : Parse String := do
  retake Lexeme.asMarkupName
  requireToken
  if ← seesWord then identifierName else failUnexpected "jsx identifier"

/-- The name of a tag: words joined by dots, or two by a colon. -/
def tagName : Parse String := do
  let first ← markupWord
  if ← eat ":" then return first ++ ":" ++ (← markupWord)
  repeatWhile first fun name => do
    if ← eat "." then return (name ++ "." ++ (← markupWord), true)
    return (name, false)

/-- Whether the current token starts with a quotation mark. -/
def startsAttributeString : Parse Bool := do
  match (← current).source.head? with
  | some c => return c = '\x22' || c = '\x27'
  | none => return false

/-- The value of an attribute. -/
def attributeValue (g : Grammar) : Parse Unit := do
  if ← startsAttributeString then
    retake Lexeme.asAttributeString
    advance
  else if ← sees leftBrace then
    outsideTypes do
      advance
      if !(← sees rightBrace) then
        let _ ← expressionWithIn g
    expect rightBrace
  else if ← sees "<" then
    g .element
    advance
  else fail .invalidMarkupValue

/-- An attribute of a tag. -/
def tagAttribute (g : Grammar) : Parse Unit := do
  if ← sees leftBrace then
    outsideTypes do
      advance
      expect "..."
      let _ ← assignmentWithIn g
    expect rightBrace
  else
    let _ ← markupWord
    if ← eat ":" then
      let _ ← markupWord
    if ← eat "=" then attributeValue g

/-- An expression in braces between tags; its right brace stays the current token. -/
def markupExpression (g : Grammar) : Parse Unit := outsideTypes do
  expect leftBrace
  if ← eat "..." then
    let _ ← expressionWithIn g
  else if !(← sees rightBrace) then
    let _ ← expressionWithIn g
  if !(← sees rightBrace) then failExpected rightBrace

/-- Whether a closing tag starts at the current token. -/
def seesClosingTag : Parse Bool :=
  return (← sees "<") && (← current).rest.head? = some '/'

/-- One child of an element, if there is one; what follows it becomes the current token. -/
def child? (g : Grammar) : Parse Bool := do
  if (← token) = .markupText then
    enterMarkup
    return true
  else if ← sees leftBrace then
    markupExpression g
    enterMarkup
    return true
  else if (← sees "<") && !(← seesClosingTag) then
    g .element
    enterMarkup
    return true
  else return false

/-- The children of an element, up to the closing tag or to what cannot be read. -/
def children (g : Grammar) : Parse Unit := do
  enterMarkup
  loop do return (← recover (child? g)).getD false

/-- The start of a closing tag. -/
def closingTagStart : Parse Unit := do
  if ← seesClosingTag then
    advance
    advance
  else failExpected "</"

/-- The greater-than sign of a tag, which stays the current token. -/
def tagEnd : Parse Unit := do
  if !(← sees ">") then failExpected ">"

/-- The closing tag of an element with a name. A tag with another name is passed over before it is
refused. -/
def closingTag (name : String) : Parse Unit := do
  let start ← startIndex
  closingTagStart
  let found ← tagName
  tagEnd
  if found ≠ name then
    advance
    failAt start (.mismatchedClosingTag name)

/-- An element, from its less-than sign up to but without its last greater-than sign. -/
def elementRule (g : Grammar) : Parse Unit := inTypes do
  expect "<"
  if ← sees ">" then
    children g
    closingTagStart
  else
    let name ← tagName
    if ← sees "<" then
      let _ ← attempt do
        typeArguments g
        return some ()
    loop do
      if ← seesAny ["/", ">"] then return false
      tagAttribute g
      return true
    if ← eat "/" then pure ()
    else if ← sees ">" then
      children g
      closingTag name
  tagEnd

end DocCoverage.TypeScript
