import DocCoverage.TypeScript.Binding

/-!
# Types

The productions of types, of type parameters and arguments, and of the parameter lists of
signatures, which functions share.
-/

namespace DocCoverage.TypeScript

open Parse

/-- A type, read from outside of types. -/
def typePhrase (g : Grammar) : Parse Unit := inTypes (g .type)

/-- The rest of a list whose elements commas separate, up to but without what closes it. -/
def typeList (closes : Parse Bool) (element : Parse Unit) : Parse Unit :=
  loop do
    if ← closes then return false
    element
    if ← eat "," then return true
    if ← closes then return false
    failExpected ","

/-- Whether type arguments may start here. -/
def seesTypeArguments : Parse Bool := seesAny ["<", "<<"]

/-- Type arguments between angle brackets. -/
def typeArguments (g : Grammar) : Parse Unit := do
  inTypes do
    if ← sees "<<" then retake Lexeme.secondSign else expect "<"
    typeList (sees ">") (g .type)
  expect ">"

/-- Whether a token that may follow a modifier is the current one. A line break stands only before
names and literals. -/
def seesModified : Parse Bool := do
  match ← token with
  | .word _ | .string _ | .number | .bigInt => return true
  | _ => return !(← afterLineBreak) && (← seesAny ["[", leftBrace, "*", "...", "#"])

/-- One of some modifiers, if what follows shows that it is one. -/
def modifier? (allowed : List String) : Parse (Option String) := do
  match ← token with
  | .word name =>
    if allowed.contains name then
      attempt do
        advance
        if ← seesModified then return some name
        return none
    else return none
  | .endOfFile => failEnd
  | _ =>
    requireToken
    return none

/-- Any number of some modifiers. -/
def modifiers (allowed : List String) : Parse Unit :=
  loop do return (← modifier? allowed).isSome

/-- The words that are modifiers of type parameters, or are taken for them. -/
def typeParameterModifiers : List String :=
  ["public", "private", "protected", "readonly", "abstract", "const", "override", "in", "out"]

/-- A type parameter. -/
def typeParameter (g : Grammar) : Parse Unit := do
  modifiers typeParameterModifiers
  let _ ← identifierName
  if ← eat "extends" then g .type
  if ← eat "=" then g .type

/-- Type parameters between angle brackets. -/
def typeParameters (g : Grammar) : Parse Unit := inTypes do
  if !(← eat "<") then failUnexpected "< (jsx tag start)"
  typeList (sees ">") (typeParameter g)
  expect ">"

/-- Type parameters, if there are any. -/
def optionalTypeParameters (g : Grammar) : Parse Unit := do
  if ← sees "<" then typeParameters g

/-- A type after a colon, if there is one. -/
def typeAnnotation (g : Grammar) : Parse Unit := inTypes do
  if ← eat ":" then g .type

/-- Fail because a mark before a type was required. -/
def failTypeMark {α : Type} (cause : String → Cause) : Parse α := do
  fail (cause ((← token).displayAs "<identifier>"))

/-- A type or a type predicate after a mark. -/
def returnType (g : Grammar) (mark : String) : Parse Unit := inTypes do
  if !(← eat mark) then failTypeMark (.expected mark)
  let asserts := (← sees "asserts") && isReferenceToken (← peek).token
  if asserts then advance
  let predicate := (← seesReference) && (← peeks "is") && (← peeksSameLine)
  if asserts || predicate then
    let _ ← identifierName
    if predicate then
      advance
      g .type
  else g .type

/-- The modifiers of a parameter that also declares a property. -/
def propertyModifiers : List String := ["public", "protected", "private", "readonly"]

/-- The modifier of a parameter that also declares a property, if there is one. -/
def parameterModifier : Parse Unit := do
  if ← seesAny propertyModifiers then
    if (← peeksWord) || (← peeksAny [leftBrace, "["]) then
      let _ ← modifier? propertyModifiers

/-- The binding of a parameter, as far as its place in a signature needs to know. -/
inductive ParameterForm where
  | name
  | pattern
  /-- A binding with a default. -/
  | withDefault
  | rest
  deriving DecidableEq, Repr

/-- A parameter that takes all further arguments, after its dots. -/
def restParameter (g : Grammar) : Parse Unit := do
  let _ ← g (.pattern false)
  if ← eat "=" then
    let _ ← g .assignment
  typeAnnotation g
  let _ ← eat "?"

/-- A parameter that takes one argument. -/
def singleParameter (g : Grammar) : Parse ParameterForm := do
  parameterModifier
  let name ← g (.pattern false)
  let _ ← eat "?"
  typeAnnotation g
  if ← eat "=" then
    let _ ← g .assignment
    return .withDefault
  return if name.isSome then .name else .pattern

/-- A formal parameter. -/
def formalParameter (g : Grammar) : Parse ParameterForm := do
  if ← eat "..." then
    restParameter g
    return .rest
  singleParameter g

/-- The scope inside of a parameter list. -/
def Scope.forParameters (scope : Scope) : Scope :=
  { scope with inParameters := true, allowIn := true, colonFollows := false }

/-- Formal parameters up to the right parenthesis. -/
def formalParameters (g : Grammar) : Parse (List ParameterForm) :=
  within Scope.forParameters <| repeatWhile [] fun found => do
    if ← sees ")" then return (found, false)
    let next ← formalParameter g
    if !(← sees ")") then expect ","
    return (next :: found, true)

/-- What is required of a parameter of a signature. -/
def signatureParameters : String :=
  "an identifier, [ for an array pattern, " ++ leftBrace ++
    " for an object patter or ... for a rest pattern"

/-- The parameters of a signature in parentheses; none has a default. The answer is their number. -/
def parameterTypes (g : Grammar) : Parse Nat := do
  expect "("
  let found ← formalParameters g
  if found.contains .withDefault then failUnexpected signatureParameters
  expect ")"
  return found.length

/-- Pass over the start of a parameter. -/
def skipParameterStart (g : Grammar) : Parse Bool := do
  parameterModifier
  if ← seesWord then
    advance
    return true
  if ← seesAny [leftBrace, "["] then
    let _ ← g (.pattern false)
    return true
  return false

/-- Whether a function type starts at a left parenthesis. -/
def startsFunctionType (g : Grammar) : Parse Bool := ahead do
  expect "("
  if ← seesAny [")", "..."] then return true
  if ← skipParameterStart g then
    if ← seesAny [":", ",", "?", "="] then return true
    if ← eat ")" then return (← sees "=>")
  return false

/-- The rest of a function type: type parameters, parameters and result. -/
def functionType (g : Grammar) : Parse Unit := do
  optionalTypeParameters g
  let _ ← parameterTypes g
  returnType g "=>"

/-- A dotted name; `anyWord` says that keywords may stand after a dot. -/
def entityName (anyWord : Bool) : Parse Unit := do
  let _ ← identifierName
  loop do
    if ← eat "." then
      if (← seesWord) || (← sees "#") then
        let _ ← if anyWord then identifierName else identifier false
        return true
    return false

/-- Type arguments on the same line, if there are any. -/
def optionalTypeArguments (g : Grammar) : Parse Unit := do
  if !(← afterLineBreak) && (← seesTypeArguments) then typeArguments g

/-- A property of an object that holds only attributes. -/
def attributeProperty (g : Grammar) : Parse Unit := do
  let _ ← propertyName g
  if ← eat ":" then
    let _ ← assignmentWithIn g

/-- The attributes of an imported type. -/
def typeImportAttributes (g : Grammar) : Parse Unit := do
  expect leftBrace
  expect "with"
  expect ":"
  advance
  commaList rightBrace (attributeProperty g)
  let _ ← eat ","
  expect rightBrace

/-- The type of an imported module. -/
def importType (g : Grammar) : Parse Unit := do
  expect "import"
  expect "("
  advance
  if (← eat ",") && (← sees leftBrace) then typeImportAttributes g
  expect ")"
  if ← eat "." then entityName false
  if ← sees "<" then typeArguments g

/-- A type query. -/
def typeQuery (g : Grammar) : Parse Unit := do
  expect "typeof"
  if ← sees "import" then importType g else entityName true
  if !(← afterLineBreak) && (← sees "<") then typeArguments g

/-- Whether a mapped type starts at a left brace. -/
def startsMappedType : Parse Bool := ahead do
  expect leftBrace
  if ← eatAny ["+", "-"] then return (← sees "readonly")
  let _ ← eat "readonly"
  if !(← eat "[") then return false
  if !(← seesReference) then return false
  advance
  sees "in"

/-- A mapped type. -/
def mappedType (g : Grammar) : Parse Unit := do
  expect leftBrace
  if ← eatAny ["+", "-"] then expect "readonly"
  else
    let _ ← eat "readonly"
  expect "["
  let _ ← identifierName
  if !(← eat "in") then failTypeMark (.unexpected · "in")
  g .type
  if ← eat "as" then g .type
  expect "]"
  if ← eatAny ["+", "-"] then expect "?"
  else
    let _ ← eat "?"
  typeAnnotation g
  expectStatementEnd
  expect rightBrace

/-- The end of a member of a type. -/
def memberEnd : Parse Unit := do
  if !(← eat ",") then expectStatementEnd

/-- The rest of a signature: type parameters, parameters and an optional result. -/
def signature (g : Grammar) : Parse Unit := do
  optionalTypeParameters g
  let _ ← parameterTypes g
  if ← sees ":" then returnType g ":"

/-- Whether an index signature starts at a left bracket. -/
def startsIndexSignature : Parse Bool := ahead do
  expect "["
  if !(← seesReference) then return false
  advance
  seesAny [",", ":"]

/-- An index signature, if one starts here. -/
def indexSignature? (g : Grammar) : Parse Bool := do
  if !((← sees "[") && (← startsIndexSignature)) then return false
  advance
  let _ ← identifierName
  if !(← eat ",") then expect ":"
  typePhrase g
  expect "]"
  typeAnnotation g
  memberEnd
  return true

/-- The name of a member of a type. Accesses may follow a literal. -/
def typeMemberName (g : Grammar) : Parse Unit := do
  match ← token with
  | .string _ | .number =>
    let _ ← outsideTypes (g .member)
  | _ =>
    if ← eat "[" then
      let _ ← g .assignment
      expect "]"
    else
      let _ ← memberName

/-- An accessor of a type, if one starts here. One that takes a value has a parameter for it. -/
def typeAccessor? (g : Grammar) : Parse Bool := do
  let found ← attempt do
    let getter ← eat "get"
    if !getter then expect "set"
    typeMemberName g
    if getter then
      expect "("
      expect ")"
      typeAnnotation g
    else if (← parameterTypes g) = 0 then return none
    memberEnd
    return some ()
  return found.isSome

/-- A member of a type. -/
def typeMember (g : Grammar) : Parse Unit := do
  if ← seesAny ["(", "<"] then
    signature g
    memberEnd
  else if (← sees "new") && (← peeksAny ["(", "<"]) then
    advance
    signature g
    memberEnd
  else
    let readOnly := (← modifier? ["readonly"]).isSome
    if ← indexSignature? g then return
    if !readOnly && (← seesAny ["get", "set"]) then
      if ← typeAccessor? g then return
    typeMemberName g
    let _ ← eat "?"
    if ← seesAny ["(", "<"] then
      if readOnly then fail .readonlyMethod
      signature g
    else typeAnnotation g
    memberEnd

/-- The members of a type between braces. -/
def typeMembers (g : Grammar) : Parse Unit := inTypes do
  expect leftBrace
  loop do
    if ← sees rightBrace then return false
    typeMember g
    return true
  expect rightBrace

/-- The elements of a tuple type, as far as their order needs to know. -/
inductive TupleElement where
  | required
  | optional
  | rest
  deriving DecidableEq, Repr

/-- An element of a tuple type. -/
def tupleElement (g : Grammar) : Parse TupleElement := do
  let _ ← attempt do
    let _ ← eat "..."
    let _ ← identifierName
    let _ ← eat "?"
    expect ":"
    return some ()
  if ← eat "..." then
    g .type
    return .rest
  g .type
  return if ← eat "?" then .optional else .required

/-- Whether an optional element stands before a required one. -/
def TupleElement.disordered : List TupleElement → Bool
  | [] => false
  | .optional :: later => later.contains .required
  | _ :: later => TupleElement.disordered later

/-- A tuple type. -/
def tupleType (g : Grammar) : Parse Unit := do
  let start ← startIndex
  expect "["
  let found ← repeatWhile [] fun found => do
    if ← sees "]" then return (found, false)
    let next ← tupleElement g
    if ← eat "," then return (next :: found, true)
    if ← sees "]" then return (next :: found, false)
    failExpected ","
  expect "]"
  if TupleElement.disordered found.reverse then failAt start .requiredAfterOptional

/-- What is required where a type should stand. -/
def typeStarts : String :=
  "an identifier, void, yield, null, await, break, a string literal, a numeric literal, true, " ++
    "false, `, -, import, this, typeof, " ++ leftBrace ++ ", [, ("

/-- The keywords with which a type may start as with an identifier. -/
def typeKeywords : List String := ["void", "null", "break"]

/-- The words that are types by themselves. -/
def builtInTypes : List String :=
  ["void", "null", "any", "boolean", "bigint", "never", "number", "object", "string", "symbol",
    "unknown", "undefined", "intrinsic"]

/-- The rest of a predicate on the current object. -/
def thisPredicate (g : Grammar) : Parse Unit := do
  if ← eat "is" then g .type

/-- A type that starts with a word that may be its name. -/
def namedType (g : Grammar) : Parse Unit := do
  if (← sees "asserts") && (← peeks "this") then
    advance
    advance
    thisPredicate g
  else if (← seesAny builtInTypes) && !(← peeks ".") then advance
  else
    parameterModifier
    entityName true
    optionalTypeArguments g

/-- A type without operators around it. -/
def primaryType (g : Grammar) : Parse Unit := do
  match ← token with
  | .string _ | .number | .bigInt => advance
  | .word "this" =>
    advance
    if !(← afterLineBreak) then thisPredicate g
  | .word "true" | .word "false" => advance
  | .word "import" => importType g
  | .word "typeof" => typeQuery g
  | .word name =>
    if typeKeywords.contains name || !(isKeyword name || name == "let") then namedType g
    else failUnexpected typeStarts
  | .template _ _ => template false (g .type)
  | .symbol "-" =>
    advance
    match ← token with
    | .number | .bigInt => advance
    | _ => failUnexpected "numeric literal or bigint literal"
  | .symbol "[" => tupleType g
  | .symbol "(" =>
    advance
    g .type
    expect ")"
  | _ =>
    if ← sees leftBrace then
      if ← startsMappedType then mappedType g else typeMembers g
    else failUnexpected typeStarts

/-- A type with array and index brackets. -/
def arrayType (g : Grammar) : Parse Unit := do
  primaryType g
  loop do
    if ← eatSameLine "[" then
      if !(← eat "]") then
        g .type
        expect "]"
      return true
    return false

/-- An inferred type with an optional constraint. -/
def inferType (g : Grammar) : Parse Unit := do
  let _ ← identifierName
  let _ ← attempt do
    expect "extends"
    g .plainType
    if (← read).noConditionalType || !(← sees "?") then return some ()
    return none

/-- A type with the operators that stand before it. -/
def operatorType (g : Grammar) : Parse Unit := do
  loop (eatAny ["keyof", "unique", "readonly"])
  if ← eat "infer" then inferType g
  else if ← atEnd then failEnd
  else
    requireToken
    arrayType g

/-- Types joined by an operator, which may also stand before the first. -/
def joinedTypes (operator : String) (element : Parse Unit) : Parse Unit := do
  let _ ← eat operator
  element
  loop do
    if ← eat operator then
      element
      return true
    return false

/-- A type that is not conditional. -/
def plainTypeRule (g : Grammar) : Parse Unit := do
  if (← sees "<") || ((← sees "(") && (← startsFunctionType g)) then functionType g
  else if (← sees "new") || ((← sees "abstract") && (← peeks "new")) then
    let _ ← eat "abstract"
    expect "new"
    functionType g
  else joinedTypes "|" (joinedTypes "&" (operatorType g))

/-- A type. -/
def typeRule (g : Grammar) : Parse Unit :=
  within (fun scope => { scope with noConditionalType := false }) do
    plainTypeRule g
    if ← eatSameLine "extends" then
      within (fun scope => { scope with noConditionalType := true }) (plainTypeRule g)
      expect "?"
      g .type
      expect ":"
      g .type

end DocCoverage.TypeScript
