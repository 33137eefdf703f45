import DocCoverage.TypeScript.Subscripts

/-!
# Blocks, functions and classes

The productions of statement blocks, of the parameters and bodies of functions, and of classes.
-/

namespace DocCoverage.TypeScript

open Parse

/-! ## Blocks and functions -/

/-- Statements up to and including a right brace. The end of the text closes an open block. -/
def blockBody (g : Grammar) (moduleLevel : Bool) : Parse Unit := do
  loop do
    if (← atEnd) || (← sees rightBrace) then return false
    let _ ← g (.statement true moduleLevel)
    return true
  let _ ← eat rightBrace

/-- The scope inside of a block. -/
def Scope.forBlock (scope : Scope) : Scope :=
  { scope with
    inConditional := false
    colonFollows := false
    noConditionalType := false
    inForHead := false }

/-- A block of statements. -/
def block (g : Grammar) : Parse Unit := do
  expect leftBrace
  within Scope.forBlock (blockBody g false)

/-- A block of items of a namespace. -/
def moduleBlock (g : Grammar) : Parse Unit := do
  expect leftBrace
  within Scope.forBlock (blockBody g true)

/-- The scope inside of a function. -/
def Scope.forFunction (isAsync isGenerator : Bool) (scope : Scope) : Scope :=
  { scope with inAsync := isAsync, inGenerator := isGenerator, inStaticBlock := false }

/-- The block that is the body of a function. -/
def functionBlock (g : Grammar) : Parse Unit :=
  within (fun scope => { scope with allowIn := true, inParameters := false }) (block g)

/-- The body of a function, which a declaration may omit; the answer tells whether there is one. -/
def functionBody (g : Grammar) : Parse Bool := do
  if !(← sees leftBrace) then
    if ← eatStatementEnd then return false
  functionBlock g
  return true

/-- Type parameters, parameters, result and body of a function; the answer tells whether there is a
body. -/
def functionRest (g : Grammar) (isAsync isGenerator : Bool) : Parse Bool :=
  within (Scope.forFunction isAsync isGenerator) do
    optionalTypeParameters g
    expect "("
    let _ ← formalParameters g
    expect ")"
    if ← sees ":" then
      within (fun scope => { scope with noConditionalType := false }) (returnType g ":")
    functionBody g

/-- A name that may be left out. -/
def optionalName : Parse (Option String) := do
  if (← seesReference) || (← sees "this") then return some (← bindingIdentifier)
  return none

/-- A function declaration from its keyword on. -/
def functionDeclaration (g : Grammar) (isAsync : Bool) : Parse String := do
  expect "function"
  let isGenerator ← eat "*"
  let name ← bindingIdentifier
  let _ ← functionRest g isAsync isGenerator
  return name

/-- A function from its keyword on whose name may be left out, as it is exported by default. -/
def defaultFunction (g : Grammar) (isAsync : Bool) : Parse (Option String) := do
  expect "function"
  let isGenerator ← eat "*"
  let name ← optionalName
  let _ ← functionRest g isAsync isGenerator
  return name

/-- A function expression from its keyword on. It has a body. -/
def functionExpression (g : Grammar) (isAsync : Bool) : Parse Unit := do
  expect "function"
  let isGenerator ← eat "*"
  let _ ← within (Scope.forFunction isAsync isGenerator) optionalName
  if !(← functionRest g isAsync isGenerator) then failUnexpected leftBrace

/-! ## Classes -/

/-- Whether a method starts here, after its name. -/
def seesMethod : Parse Bool := seesAny ["(", "<"]

/-- Whether a property goes on or ends here, after its name. -/
def seesProperty (lineBreakEnds : Bool) : Parse Bool := do
  if ← seesAny ["!", ":", "=", rightBrace] then return true
  if lineBreakEnds then atStatementEnd else sees ";"

/-- The rest of a property of a class after its name. Nothing need divide it from what follows. -/
def classProperty (g : Grammar) (optional : Bool) : Parse Unit := do
  let _ ← eatWhen (!optional) "!"
  typeAnnotation g
  if ← eat "=" then
    let _ ← assignmentWithIn g
  let _ ← eatStatementEnd

/-- The rest of a class member whose name is a keyword that could also be a modifier; the answer
tells whether the keyword was a name. -/
def keywordMember (g : Grammar) (lineBreakEnds : Bool) : Parse Bool := do
  if ← seesMethod then
    let _ ← functionRest g false false
    return true
  if (← seesProperty lineBreakEnds) || (← sees "?") then
    let optional ← eat "?"
    classProperty g optional
    return true
  return false

/-- The name of a class member. -/
def classMemberName (g : Grammar) : Parse PropertyKey := do
  if ← sees "#" then
    let _ ← privateName
    return .other
  propertyName g

/-- The words that are taken for modifiers of access. -/
def accessModifiers : List String := ["public", "protected", "private", "in", "out"]

/-- The modifiers of access that are in effect. -/
def effectiveAccessModifiers : List String := ["public", "protected", "private"]

/-- A parameter of a constructor. One with a modifier also declares a property and binds a name. -/
def constructorParameter (g : Grammar) : Parse Unit := do
  let access ← modifier? accessModifiers
  let overrides ← modifier? ["override"]
  let readOnly ← modifier? ["readonly"]
  let start ← startIndex
  let form ← singleParameter g
  let declares := access.any effectiveAccessModifiers.contains || overrides.isSome || readOnly.isSome
  if declares && form = .pattern then failAt start .parameterProperty

/-- The parameters of a constructor up to the right parenthesis. -/
def constructorParameters (g : Grammar) : Parse Unit :=
  within Scope.forParameters <| loop do
    if ← sees ")" then return false
    if ← eat "..." then
      let _ ← g (.pattern false)
      typeAnnotation g
    else constructorParameter g
    if !(← sees ")") then expect ","
    return true

/-- The type parameters of a constructor, of which there may be none between the brackets. -/
def constructorTypeParameters (g : Grammar) : Parse Unit := do
  if (← sees "<") && (← peeks ">") then
    advance
    advance
  else optionalTypeParameters g

/-- The parameters of a constructor and its body. -/
def constructorRest (g : Grammar) : Parse Unit :=
  within (Scope.forFunction false false) do
    constructorTypeParameters g
    expect "("
    constructorParameters g
    expect ")"
    typeAnnotation g
    let _ ← functionBody g

/-- What stands before the name of a class member. -/
structure MemberModifiers where
  isStatic : Bool
  isReadonly : Bool := false
  /-- Whether the member is abstract or overrides another. -/
  isInherited : Bool := false
  deriving DecidableEq, Repr

/-- Add a modifier to those before it. -/
def MemberModifiers.add (modifiers : MemberModifiers) (word : String) : MemberModifiers :=
  if word == "static" then { modifiers with isStatic := true }
  else if word == "readonly" then { modifiers with isReadonly := true }
  else { modifiers with isInherited := true }

/-- Whether a static block starts at the current word. -/
def startsStaticBlock : Parse Bool := return (← sees "static") && (← peeks leftBrace)

/-- The modifiers of a class member after those of access. -/
def memberModifiers (isStatic : Bool) : Parse MemberModifiers :=
  repeatWhile { isStatic } fun found => do
    if ← startsStaticBlock then return (found, false)
    match ← modifier? ["abstract", "readonly", "override", "static"] with
    | some word => return (found.add word, true)
    | none => return (found, false)

/-- A method of a class after its name. `start` is the first index of the member. -/
def classMethod (g : Grammar) (start : Nat) (isReadonly : Bool) (key : PropertyKey) :
    Parse Unit := do
  if isReadonly then failAt start .readonlyMethod
  if key.isConstructor then constructorRest g
  else
    let _ ← functionRest g false false

/-- An asynchronous method of a class, after the word that says so. -/
def asyncMethod (g : Grammar) (optional : Bool) : Parse Unit := do
  let _ ← modifier? ["override"]
  let isGenerator ← eat "*"
  let start ← startIndex
  let key ← classMemberName g
  if key.isConstructor then failAt start .asyncConstructor
  let _ ← eatWhen (!optional) "?"
  let _ ← functionRest g true isGenerator

/-- A class member from its name on. `start` is the first index of the member. -/
def namedMember (g : Grammar) (start : Nat) (isReadonly : Bool) : Parse Unit := do
  if ← eat "*" then
    let _ ← classMemberName g
    let _ ← functionRest g false true
  else
    let keyStart ← startIndex
    let key ←
      if isReadonly && (← seesAny ["!", ":"]) then pure (.word "readonly")
      else classMemberName g
    let optional ← eat "?"
    let accessor := (key.isWord "get" || key.isWord "set") && !(← seesProperty false) &&
      !((← afterLineBreak) && (← sees "*"))
    if ← seesMethod then classMethod g start isReadonly key
    else if !accessor && (← seesProperty true) then
      if key.isConstructor then failAt keyStart .constructorField
      classProperty g optional
    else if key.isWord "async" && !(← afterLineBreak) then asyncMethod g optional
    else if accessor then
      let _ ← classMemberName g
      let _ ← functionRest g false false
    else failUnexpected "* for generator, private key, identifier or async"

/-- A static block, whose keyword has been read. -/
def staticBlock (g : Grammar) : Parse Unit :=
  within (fun scope => { scope.forFunction false false with inStaticBlock := true }) (block g)

/-- A class member after the modifiers that stand first in it. `start` is its first index, `accessor`
says that the word `accessor` has been read, and `hasAccess` that a modifier of access has. -/
def modifiedMember (g : Grammar) (start : Nat) (accessor hasAccess isStatic : Bool) :
    Parse Unit := do
  let modifiers ← memberModifiers isStatic
  if modifiers.isStatic && (← sees leftBrace) then staticBlock g
  else if ← startsStaticBlock then
    advance
    staticBlock g
  else
    if !modifiers.isInherited && !hasAccess then
      if ← indexSignature? g then return
    let _ ← eatWhen (!accessor) "accessor"
    namedMember g start modifiers.isReadonly

/-- A class member. -/
def classMember (g : Grammar) : Parse Unit := do
  let start ← startIndex
  let declaredFirst ← eat "declare"
  let access ← modifier? accessModifiers
  let declaredLater ← eatWhen (!declaredFirst) "declare"
  if declaredFirst || declaredLater then
    if ← keywordMember g true then return
  let accessor ← eat "accessor"
  if accessor then
    if ← keywordMember g true then return
  let isStatic ← eat "static"
  if isStatic then
    if ← keywordMember g false then return
  modifiedMember g start accessor (access.any effectiveAccessModifiers.contains) isStatic

/-- A name in the list of what a class or interface builds on. -/
def heritage (g : Grammar) : Parse Unit := do
  let start ← startIndex
  let name ← identifierName
  let _ ← subscripts g false false start (.value (.identifier name))
  if ← sees "<" then typeArguments g

/-- The names of what a class or interface builds on, up to what follows them. -/
def heritageList (g : Grammar) : Parse Unit :=
  typeList (seesAny [leftBrace, "implements", "extends"]) (heritage g)

/-- The class that a class extends. -/
def superclass (g : Grammar) : Parse Unit := do
  let _ ← g .leftHandSide
  if ← seesTypeArguments then typeArguments g

/-- The class that a class extends and the interfaces that it implements. Some repetitions are passed
over. -/
def classHeritage (g : Grammar) : Parse Unit := do
  if ← eat "extends" then
    superclass g
    if ← eat "," then heritageList g
  if ← eat "extends" then superclass g
  if ← eat "implements" then heritageList g
  if ← eat "implements" then heritageList g
  if ← eat "extends" then superclass g

/-- A class from its keyword on; a declaration needs a name. -/
def classRest (g : Grammar) (needsName : Bool) : Parse Unit := do
  advance
  if needsName then
    if ← sees "let" then failUnexpected "let is reserved in const, let, class declaration"
    let _ ← bindingIdentifier
  else
    let _ ← optionalName
  optionalTypeParameters g
  classHeritage g
  expect leftBrace
  within Scope.forBlock <| loop do
    if (← atEnd) || (← sees rightBrace) then return false
    if ← eat ";" then return true
    classMember g
    return true
  if !(← atEnd) then expect rightBrace

end DocCoverage.TypeScript
