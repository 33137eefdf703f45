import DocCoverage.TypeScript.Parse

/-!
# Names, patterns and templates

The productions that the phrases of all kinds share: identifiers, property names, binding patterns,
comma-separated lists and template literals.
-/

namespace DocCoverage.TypeScript

open Parse

/-- Any word, keywords included. -/
def identifierName : Parse String := do
  match wordOf? (← token) with
  | some name =>
    advance
    return name
  | none => fail .expectedIdentifier

/-- A word that may name something; `yields` says that the word `yield` may. -/
def identifier (yields : Bool) : Parse String := do
  let start ← startIndex
  let name ← identifierName
  let scope ← read
  if name == "await" && !scope.ambient then
    failAt start (if scope.inStaticBlock then .expectedIdentifier else .awaitAsIdentifier)
  if (isKeyword name && name != "this") || (name == "yield" && !yields) then
    failAt start .expectedIdentifier
  return name

/-- A word that a declaration may bind. -/
def bindingIdentifier : Parse String := identifier true

/-- A word that refers to what a declaration has bound. -/
def referenceIdentifier : Parse String := do identifier (!(← read).inGenerator)

/-- A name with a number sign directly in front. -/
def privateName : Parse String := do
  let start ← startIndex
  expect "#"
  if (← startIndex) ≠ (← lastStop) then failAt start .spaceAfterNumberSign
  identifierName

/-- A name with a number sign in front, or any word. -/
def memberName : Parse String := do
  if ← sees "#" then privateName else identifierName

/-- Expressions separated by commas. -/
def expression (g : Grammar) : Parse Expression := do
  let first ← g .assignment
  repeatWhile first fun seen => do
    if ← eat "," then
      let _ ← g .assignment
      return (⟨.other, first.start⟩, true)
    return (seen, false)

/-- An expression without commas in which the operator `in` may stand. -/
def assignmentWithIn (g : Grammar) : Parse Expression := allowingIn (g .assignment)

/-- Expressions separated by commas in which the operator `in` may stand. -/
def expressionWithIn (g : Grammar) : Parse Expression := allowingIn (expression g)

/-- The name of a property. -/
inductive PropertyKey where
  | word (name : String)
  | string (value : String)
  /-- A number or an expression. -/
  | other
  deriving DecidableEq, Repr

/-- Whether a property is a word that is spelled in a certain way. -/
def PropertyKey.isWord (key : PropertyKey) (name : String) : Bool := key = .word name

/-- Whether a property names the constructor of a class. -/
def PropertyKey.isConstructor (key : PropertyKey) : Bool :=
  key = .word "constructor" || key = .string "constructor"

/-- What is required where the name of a property should stand. -/
def propertyNames : String :=
  "identifier, string literal, numeric literal or [ for the computed key"

/-- The name of a property. -/
def propertyName (g : Grammar) : Parse PropertyKey := do
  match ← token with
  | .string value =>
    advance
    return .string value
  | .number | .bigInt =>
    advance
    return .other
  | .word name =>
    advance
    return .word name
  | _ =>
    if ← eat "[" then
      let _ ← expressionWithIn g
      expect "]"
      return .other
    else if ← eat "#" then return .word (← identifierName)
    else failUnexpected propertyNames

/-- A pattern with an optional default. -/
def bindingElement (g : Grammar) : Parse Unit := do
  let _ ← g (.pattern false)
  if ← eat "=" then
    let _ ← assignmentWithIn g

/-- A property of an object pattern. -/
def patternProperty (g : Grammar) : Parse Unit := do
  if ← eat "..." then
    let _ ← g (.pattern false)
  else
    let key ← propertyName g
    if ← eat ":" then bindingElement g
    else
      match key with
      | .word _ =>
        if ← eat "=" then
          let _ ← assignmentWithIn g
      | _ => failUnexpected "an identifier"

/-- The rest of a list in which commas separate elements, up to and including what closes it. -/
def commaList (close : String) (element : Parse Unit) : Parse Unit := do
  loop do
    if ← sees close then return false
    element
    if !(← sees close) then expect ","
    return true
  expect close

/-- An object pattern. -/
def objectPattern (g : Grammar) : Parse Unit := do
  expect leftBrace
  commaList rightBrace (patternProperty g)

/-- An array pattern. -/
def arrayPattern (g : Grammar) : Parse Unit := do
  expect "["
  loop do
    if ← sees "]" then return false
    if ← eat "," then return true
    if ← eat "..." then
      let _ ← g (.pattern false)
    else bindingElement g
    if !(← sees "]") then expect ","
    return true
  expect "]"

/-- A binding pattern; the answer is its name, if it is an identifier. -/
def patternRule (g : Grammar) (lexical : Bool) : Parse (Option String) := do
  if ← seesWord then
    if lexical && (← sees "let") then
      failUnexpected "let is reserved in const, let, class declaration"
    return some (← bindingIdentifier)
  else if ← sees "[" then
    arrayPattern g
    optionalMark
    return none
  else if ← sees leftBrace then
    objectPattern g
    optionalMark
    return none
  else
    requireToken
    failUnexpected ("yield, an identifier, [ or " ++ leftBrace)
where
  /-- The mark of an optional pattern in an ambient declaration. -/
  optionalMark : Parse Unit := do
    if (← read).ambient then
      let _ ← eat "?"

/-- A template with a parser for what stands in its holes. Only the escape sequences of a template
without a tag must be readable. -/
def template (tagged : Bool) (hole : Parse Unit) : Parse Unit :=
  loop do
    match ← token with
    | .template complete fault =>
      if let some (cause, distance) := fault then
        if !tagged then failAt ((← current).index + distance) cause
      advance
      if complete then return false
      hole
      if !(← sees rightBrace) then failUnexpected ("`" ++ rightBrace ++ "`")
      retake Lexeme.asTemplatePart
      return true
    | _ => fail .unterminatedTemplate

end DocCoverage.TypeScript
