import DocCoverage.TypeScript.Functions
import DocCoverage.TypeScript.Markup

/-!
# Expressions

The productions of expressions. Parentheses are read once, as expressions; what follows them shows
whether they held the parameters of an arrow function.
-/

namespace DocCoverage.TypeScript

open Parse

/-! ## Operators -/

/-- The scope of the first branch of a conditional expression. -/
def Scope.forFirstBranch (scope : Scope) : Scope :=
  { scope with inConditional := true, colonFollows := true, allowIn := true }

/-- The scope of the second branch of a conditional expression. -/
def Scope.forSecondBranch (scope : Scope) : Scope :=
  { scope with inConditional := true, colonFollows := false }

/-- The branches of a conditional expression after its question mark. -/
def branches (g : Grammar) : Parse Unit := do
  let _ ← within Scope.forFirstBranch (g .assignment)
  expect ":"
  let _ ← within Scope.forSecondBranch (g .assignment)

/-- The body of an arrow function; the answer tells whether it is a block. -/
def arrowBody (g : Grammar) (isAsync : Bool) : Parse Bool :=
  within (Scope.forFunction isAsync false) do
    if ← sees leftBrace then
      functionBlock g
      return true
    let _ ← g .assignment
    return false

/-- Operands and the operators between them, as far as they have been read. -/
structure Operands where
  /-- The form of the whole. -/
  form : ExpressionForm
  /-- The form of the last operand, with the assertions after it. -/
  last : ExpressionForm
  /-- Whether an operator binds more loosely than an assertion. -/
  isLoose : Bool
  deriving DecidableEq, Repr

/-- Operands with an assertion after them. One of a type takes all operands that loose operators do
not hold apart, and one of conformance only the last. -/
def Operands.asserted (operands : Operands) (ofType : Bool) : Operands :=
  let isInner := operands.form = .operation && (!ofType || operands.isLoose)
  ⟨if isInner then .operation else .place, .place, operands.isLoose⟩

/-- A type after a word that has not been passed. -/
def typeAfterWord (g : Grammar) : Parse Unit := inTypes do
  advance
  g .type

/-- The assertion after what has been read, if there is one. -/
def assertion? (g : Grammar) (operands : Operands) : Parse (Option Operands) := do
  if ← afterLineBreak then return none
  if ← sees "as" then
    if ← peeks "const" then
      advance
      advance
    else typeAfterWord g
    return some (operands.asserted true)
  if ← sees "satisfies" then
    typeAfterWord g
    return some (operands.asserted false)
  return none

/-- The operators and operands after a first operand. -/
def binaryRest (g : Grammar) (first : Expression) : Parse Expression := do
  let operands ← repeatWhile ⟨first.form, first.form, false⟩ fun (operands : Operands) => do
    if let some asserted ← assertion? g operands then return (asserted, true)
    retake Lexeme.joinSigns
    if (← seesBinaryWord) || (← seesBinaryOperator) then
      let isPower ← sees "**"
      let isLoose ← seesAny looseOperators
      advance
      if isPower && (operands.last = .unary || operands.last = .awaited) then fail .unaryBase
      let next ← g .unary
      return (⟨.operation, next.form, operands.isLoose || isLoose⟩, true)
    return (operands, false)
  return ⟨operands.form, first.start⟩

/-- Operands and operators between them. A missing first operand is passed over. -/
def binary (g : Grammar) : Parse Expression := do
  let start ← startIndex
  let first ← rescue (g .unary) (do return (← seesBinaryWord) || (← seesBinaryOperator))
    ⟨.place, start⟩
  if first.isArrow then return first
  binaryRest g first

/-- A conditional expression. -/
def conditional (g : Grammar) : Parse Expression := do
  let test ← binary g
  if test.isArrow then return test
  if ← eat "?" then
    branches g
    return ⟨.operation, test.start⟩
  return test

/-- Refuse an expression to which nothing can be assigned; `plain` says that the operator is the
plain equals sign, which takes patterns. -/
def checkTarget (plain : Bool) (target : Expression) : Parse Unit :=
  match target.form with
  | .identifier _ | .parenthesized | .place | .chain => return
  | .collection method =>
    if !plain then failAt target.start .invalidAssignmentTarget
    else
      match method with
      | some index => failAt index .notAPattern
      | none => return
  | _ => failAt target.start .invalidAssignmentTarget

/-- An assignment to what has been read. -/
def assignmentRest (g : Grammar) (target : Expression) : Parse Expression := do
  if ← seesAssignment then
    let plain ← sees "="
    checkTarget plain target
    advance
    let _ ← g .assignment
    return ⟨if plain then .assignment else .other, target.start⟩
  return target

/-- A `yield` with its operand. -/
def yieldExpression (g : Grammar) : Parse Expression := do
  let start ← startIndex
  expect "yield"
  if (← read).inParameters then failAt start .yieldInParameters
  if !(← atStatementEnd) && (← startsOperand) then
    let _ ← eat "*"
    let _ ← g .assignment
  return ⟨.other, start⟩

/-- Whether an arrow function with type parameters may start at a less-than sign. Where tags are
allowed, a comma, a default or a constraint must show that it is no tag. -/
def mayStartGenericArrow : Parse Bool := do
  if !(← sees "<") then return false
  if !(← read).markup then return (← peeksWord)
  ahead do
    advance
    let _ ← modifier? ["const"]
    if !(← seesWord) then return false
    advance
    if ← seesAny [",", "="] then return true
    if !(← eat "extends") then return false
    return !(← seesAny ["=", ">", "/"])

/-- Whether an arrow function may start at a token: at a left parenthesis or at a name. -/
def startsArrow : Token → Bool
  | .symbol text => text == "("
  | .word name => !isKeyword name && name != "let" && name != "await"
  | _ => false

/-- An expression without commas, once arrow functions with type parameters have been ruled out. -/
def ordinaryAssignment (g : Grammar) : Parse Expression := do
  if (← read).inGenerator && (← sees "yield") then yieldExpression g
  else
    requireToken
    let start ← startIndex
    let arrowStart := if startsArrow (← token) then some start else none
    let head ← within (fun scope => { scope with arrowStart }) (conditional g)
    if head.isArrow || head.form = .operation || head.form = .unary then return head
    assignmentRest g head

/-- An expression without commas. -/
def assignmentRule (g : Grammar) : Parse Expression := do
  let start ← startIndex
  if ← mayStartGenericArrow then
    let arrow ← within (fun scope => { scope with colonFollows := false }) <| attempt do
      typeParameters g
      let body ← ordinaryAssignment g
      return if body.isArrow then some () else none
    if arrow.isSome then return ⟨.arrow, start⟩
  ordinaryAssignment g

/-- The operand of an `await` that has been read; alone at the end of a phrase the word names
something. -/
def awaitRest (g : Grammar) (start : Nat) : Parse Expression := do
  if ← sees "*" then fail .awaitStar
  if !(← read).inAsync && ((← atStatementEnd) || (← seesAny [")", "]", ","])) then
    return ⟨.identifier "await", start⟩
  let _ ← g .unary
  return ⟨.awaited, start⟩

/-- An expression after a type in angle brackets. -/
def typeAssertion (g : Grammar) : Parse Unit := do
  advance
  if !(← eat "const") then inTypes (g .plainType)
  expect ">"
  let _ ← g .unary

/-- An expression with prefix and postfix operators. -/
def unaryRule (g : Grammar) : Parse Expression := do
  let start ← startIndex
  if (← sees "<") && !(← read).markup then
    typeAssertion g
    return ⟨.place, start⟩
  else if ← eatAny ["++", "--"] then
    let _ ← g .unary
    return ⟨.operation, start⟩
  else if ← eatAny prefixOperators then
    let _ ← recover (g .unary)
    return ⟨.unary, start⟩
  else if ← eat "await" then awaitRest g start
  else
    let operand ← g .leftHandSide
    if operand.isArrow then return operand
    if !(← afterLineBreak) && (← seesAny ["++", "--"]) then
      advance
      return ⟨.operation, start⟩
    return operand

/-! ## Arrays and objects -/

/-- An array. What is spread before the end of a pattern is not looked at. -/
def arrayLiteral (g : Grammar) : Parse Expression := do
  let start ← startIndex
  expect "["
  let found ← within (fun scope => { scope with colonFollows := false }) <|
    repeatWhile (none, none) fun (found : Option Nat × Option Nat) => do
      if ← sees "]" then return (found, false)
      if ← eat "," then return ((found.1, none), true)
      let isSpread ← sees "..."
      let element ← allowingIn (spreadable g)
      if !(← sees "]") then expect ","
      return (if isSpread then (found.1, element.method?) else (found.1.or element.method?, none),
        true)
  expect "]"
  return ⟨.collection (found.1.or found.2), start⟩

/-- Whether a property of an object goes on at a token. -/
def continuesProperty : Token → Bool
  | .word _ | .string _ | .number => true
  | .symbol text => ["(", "[", ":", ",", "?", "=", "*", "<"].contains text
  | _ => false

/-- The rest of a property of an object after its name; the answer is the index of the first
method. -/
def propertyRest (g : Grammar) (start : Nat) (key : PropertyKey) : Parse (Option Nat) := do
  if ← eat ":" then return (← assignmentWithIn g).method?
  if ← seesMethod then
    let _ ← functionRest g false false
    return some start
  match key with
  | .word name =>
    let _ ← eat "?"
    if ← eat "=" then
      let _ ← assignmentWithIn g
      return none
    if ← seesAny [",", rightBrace] then return none
    if name == "get" || name == "set" || name == "async" then
      let isAsync := name == "async"
      let isGenerator ← eatWhen isAsync "*"
      let _ ← propertyName g
      let _ ← functionRest g isAsync isGenerator
      return some start
    failUnexpected
      "... , *,  (, [, :, , ?, =, an identifier, public, protected, private, readonly, <."
  | _ => failUnexpected "identifier"

/-- A property of an object; the answer is the index of the first method. A name after which nothing
fits is a property by itself. -/
def objectProperty (g : Grammar) : Parse (Option Nat) := do
  let start ← startIndex
  if ← eat "..." then return (← g .assignment).method?
  if ← eat "*" then
    let _ ← propertyName g
    let _ ← functionRest g false true
    return some start
  parameterModifier
  let key ← propertyName g
  if continuesProperty (← token) then propertyRest g start key else return none

/-- The properties of an object up to its right brace, which is passed over; the answer is the index
of the first method. -/
def objectProperties (g : Grammar) : Parse (Option Nat) := do
  let method ← within (fun scope => { scope with colonFollows := false }) <|
    repeatWhile none fun (method : Option Nat) => do
      if ← sees rightBrace then return (method, false)
      let next ← objectProperty g
      if !(← sees rightBrace) then expect ","
      return (method.or next, true)
  expect rightBrace
  return method

/-- An object. -/
def objectLiteral (g : Grammar) : Parse Expression := do
  let start ← startIndex
  advance
  return ⟨.collection (← objectProperties g), start⟩

/-! ## Parentheses and arrow functions -/

/-- What stands between parentheses. -/
structure Enclosed where
  /-- Whether something can only be a parameter. -/
  hasParameter : Bool := false
  /-- Whether the first element is a name. -/
  firstIsName : Bool := false
  /-- The index of the first spread element. -/
  spread : Option Nat := none
  /-- The index of the first method, for which the elements are no parameters. -/
  method : Option Nat := none
  /-- The number of elements. -/
  count : Nat := 0
  deriving DecidableEq, Repr

/-- Refuse elements that are no parameters. -/
def Enclosed.checkParameters (items : Enclosed) : Parse Unit := do
  if let some index := items.method then failAt index .notAPattern

/-- The first part of an element between parentheses: an expression that leaves a question mark to
what follows, if it starts with a name. -/
def enclosedHead (g : Grammar) (start : Nat) (spreads : Bool) : Parse Expression := do
  if ← seesReference then
    let operand ← within (fun scope => { scope with arrowStart := some start }) (binary g)
    if !spreads && (← seesAssignment) then assignmentRest g operand else return operand
  else g .assignment

/-- Whether an expression can be read as a pattern that takes a type. -/
def Expression.takesType (expression : Expression) : Bool :=
  match expression.form with
  | .identifier _ | .collection _ | .assignment => true
  | _ => false

/-- The type and default of an element between parentheses that has turned out to be a parameter; the
answer tells whether it is a name alone. -/
def enclosedParameter (g : Grammar) (spreads : Bool) (head : Expression) : Parse Bool := do
  if let some index := head.method? then failAt index .notAPattern
  if spreads || head.takesType then typeAnnotation g
  if ← eat "=" then
    let _ ← g .assignment
    return false
  return head.isIdentifier && !spreads

/-- One element between parentheses: an expression, or a parameter with a type, a mark or a
default. -/
def enclosedElement (g : Grammar) (items : Enclosed) : Parse Enclosed := do
  let start ← startIndex
  parameterModifier
  let elementStart ← startIndex
  let spreads ← eat "..."
  let headStart ← startIndex
  let head ← enclosedHead g start spreads
  let isOptional := (← sees "?") && (← peeksAny [",", "=", ")", ":"])
  if isOptional then
    advance
    if !head.isIdentifier then failAt elementStart .optionalPattern
  let isChoice ← eatWhen (!isOptional && !spreads) "?"
  if isChoice then branches g
  let isParameter := isOptional || (← sees ":")
  let isName ←
    if isParameter then enclosedParameter g spreads head
    else pure (head.isIdentifier && !isChoice)
  let items : Enclosed :=
    { hasParameter := items.hasParameter || isParameter
      firstIsName := if items.count = 0 then isName else items.firstIsName
      spread := items.spread.or (if spreads then some headStart else none)
      method := items.method.or (if isParameter || isChoice then none else head.method?)
      count := items.count + 1 }
  if (← eat "=>") && items.firstIsName then
    items.checkParameters
    let _ ← arrowBody g false
    return { items with count := items.count + 1 }
  return items

/-- What stands between parentheses, with the parentheses. -/
def enclosed (g : Grammar) : Parse Enclosed :=
  within (fun scope => { scope with colonFollows := false, allowIn := true }) do
    expect "("
    let items ← repeatWhile {} fun items => do
      if ← sees ")" then return (items, false)
      let items ← enclosedElement g items
      if !(← sees ")") then expect ","
      return (items, true)
    expect ")"
    return items

/-- The arrow function whose parameters have been read, in a branch of a conditional expression
where a colon follows them. -/
def branchArrow? (g : Grammar) (items : Enclosed) (isAsync : Bool) : Parse Bool := do
  let found ← attempt do
    returnType g ":"
    expect "=>"
    items.checkParameters
    let _ ← arrowBody g isAsync
    if (← read).colonFollows && !(← sees ":") then return none
    return some ()
  return found.isSome

/-- The result type of an arrow function, if one stands here. -/
def arrowResult? (g : Grammar) : Parse Bool := do
  let found ← attempt do
    returnType g ":"
    return if ← sees "=>" then some () else none
  return found.isSome

/-- The rest of an arrow function whose parameters and result have been read. A binary operator after
a body in braces goes on with the expression. -/
def arrowRest (g : Grammar) (canBeArrow : Bool) (items : Enclosed) (start : Nat) (isAsync : Bool) :
    Parse Expression := do
  if ← afterLineBreak then failAt start .lineBreakBeforeArrow
  if !canBeArrow then failAt start .arrowNotAllowed
  expect "=>"
  items.checkParameters
  let isBlock ← arrowBody g isAsync
  if isBlock && (← seesBinaryOperator) then binaryRest g ⟨.other, start⟩
  else return ⟨.arrow, start⟩

/-- An expression in parentheses or an arrow function. `asyncStart` is the index of the word `async`
before the parentheses. -/
def parenthesized (g : Grammar) (canBeArrow : Bool) (asyncStart : Option Nat) :
    Parse Expression := do
  let start := asyncStart.getD (← startIndex)
  let isAsync := asyncStart.isSome
  let items ← enclosed g
  let scope ← read
  if scope.inConditional && (← sees ":") then
    if ← branchArrow? g items isAsync then return ⟨.arrow, start⟩
  let hasResult ← if !scope.colonFollows && (← sees ":") then arrowResult? g else pure false
  if items.hasParameter || hasResult || (← sees "=>") then
    arrowRest g canBeArrow items start isAsync
  else if isAsync then return ⟨.other, start⟩
  else if items.count = 0 then failAt start .emptyParentheses
  else
    match items.spread with
    | some index => failAt index .spreadInParentheses
    | none => return ⟨.parenthesized, start⟩

/-- An arrow function with type parameters after the word `async`, if one stands here. -/
def genericAsyncArrow? (g : Grammar) : Parse Bool := do
  let found ← attempt do
    advance
    typeParameters g
    expect "("
    let _ ← formalParameters g
    expect ")"
    if ← sees ":" then returnType g ":"
    expect "=>"
    let _ ← arrowBody g true
    return some ()
  return found.isSome

/-- A name, or an arrow function with one parameter. -/
def nameOrArrow (g : Grammar) (canBeArrow : Bool) : Parse Expression := do
  let start ← startIndex
  let name ← referenceIdentifier
  if canBeArrow && name == "async" && !(← afterLineBreak) && (← seesReference) then
    if (← read).inForHead && (← sees "of") && !(← peeks "=>") then
      return ⟨.identifier name, start⟩
    let parameter ← bindingIdentifier
    if parameter == "as" && !(← sees "=>") then
      typePhrase g
      return ⟨.place, start⟩
    expect "=>"
    let _ ← arrowBody g true
    return ⟨.arrow, start⟩
  else if ← eatWhen (canBeArrow && !(← afterLineBreak)) "=>" then
    let _ ← arrowBody g false
    return ⟨.arrow, start⟩
  else return ⟨.identifier name, start⟩

/-- An expression that starts with the word `async`, unless the word is a name. -/
def asyncExpression? (g : Grammar) (canBeArrow : Bool) : Parse (Option Expression) := do
  let start ← startIndex
  if (← peeks "function") && (← peeksSameLine) then
    advance
    functionExpression g true
    return some ⟨.function, start⟩
  if canBeArrow && (← peeks "<") then
    if ← genericAsyncArrow? g then return some ⟨.arrow, start⟩
  if canBeArrow && (← peeks "(") && (← peeksSameLine) then
    advance
    return some (← parenthesized g canBeArrow (some start))
  return none

/-! ## Operands -/

/-- A regular expression at a slash. -/
def regularExpression : Parse Unit := do
  retake Lexeme.asRegex
  if (← token) = .regex then advance else fail .expectedExpression

/-- An expression that starts with a word. -/
def primaryWord (g : Grammar) (canBeArrow : Bool) (name : String) : Parse Expression := do
  let start ← startIndex
  if ["this", "null", "true", "false"].contains name then
    advance
    return ⟨.other, start⟩
  else if name == "function" then
    functionExpression g false
    return ⟨.function, start⟩
  else if name == "class" then
    classRest g false
    return ⟨.other, start⟩
  else if name == "async" then
    match ← asyncExpression? g canBeArrow with
    | some found => return found
    | none => nameOrArrow g canBeArrow
  else if isReference name || name == "let" || name == "await" then nameOrArrow g canBeArrow
  else fail .expectedExpression

/-- An expression without operators. -/
def primary (g : Grammar) : Parse Expression := do
  let start ← startIndex
  let value : Expression := ⟨.other, start⟩
  let canBeArrow := (← read).arrowStart = some start
  match ← token with
  | .string _ | .number | .bigInt =>
    advance
    return value
  | .template _ _ =>
    template false (templateHole g)
    return value
  | .symbol "[" => arrayLiteral g
  | .symbol "(" => parenthesized g canBeArrow none
  | .symbol "/" | .symbol "/=" =>
    regularExpression
    return value
  | .symbol "#" =>
    let _ ← privateName
    return value
  | .word name => primaryWord g canBeArrow name
  | _ => if ← sees leftBrace then objectLiteral g else fail .expectedExpression

/-- The import of a module or its properties, whose keyword has been read. -/
def importExpression (g : Grammar) (calls : Bool) (start : Nat) : Parse Expression := do
  if ← eat "." then
    let name ← identifierName
    if name == "meta" then subscripts g calls true start (.value .other)
    else if name == "defer" || name == "source" then subscripts g calls true start .importer
    else failUnexpected "meta"
  else subscripts g calls true start .importer

/-- A constructor call, whose keyword has been read. -/
def newExpression (g : Grammar) (start : Nat) : Parse Expression := do
  if ← eat "." then
    if !(← eat "target") then failUnexpected "target"
    subscripts g false true start (.value .other)
  else
    let callee ← g .member
    if callee.isArrow then return callee
    if callee.form = .chain then failAt callee.start .chainConstructor
    if ← seesTypeArguments then
      let _ ← attempt do
        typeArguments g
        return if ← sees "(" then some () else none
    if ← sees "(" then
      let _ ← arguments g
      subscripts g false true start (.value .other)
    else return ⟨.newWithoutArguments, start⟩

/-- An expression with member accesses and constructor calls. -/
def memberRule (g : Grammar) : Parse Expression := do
  let start ← startIndex
  if ← eat "new" then newExpression g start
  else if ← eat "super" then subscripts g false true start .parent
  else if ← eat "import" then importExpression g false start
  else
    let object ← primary g
    if object.isArrow then return object
    let instantiated ← if ← seesTypeArguments then instantiation? g else pure false
    subscripts g false true start (.value (if instantiated then .place else object.form))

/-- Whether an element starts here. -/
def startsElement : Parse Bool := do
  if !(← read).markup then return false
  return (← sees "<") && ((← peeksWord) || (← peeks ">"))

/-- An expression with member accesses and calls. -/
def leftHandSideRule (g : Grammar) : Parse Expression := do
  let start ← startIndex
  if ← startsElement then
    g .element
    advance
    return ⟨.other, start⟩
  else if ← eat "super" then subscripts g true true start .parent
  else if ← eat "import" then importExpression g true start
  else
    let callee ← g .member
    if callee.isArrow || callee.form = .newWithoutArguments then return callee
    if ← seesTypeArguments then
      let _ ← attempt do
        typeArguments g
        return if ← sees "(" then some () else none
    if ← sees "(" then
      let _ ← arguments g
      subscripts g true true start ((Subject.value callee.form).called false)
    else return callee

end DocCoverage.TypeScript
