import DocCoverage.TypeScript.Expressions

/-!
# Statements and declarations

The productions of statements, of variable statements and of the declarations that only describe
types. A statement ends with a semicolon, or without one before a right brace, at a line break or at
the end of the text.
-/

namespace DocCoverage.TypeScript

open Parse

/-! ## Variables -/

/-- How far the bindings of a variable statement reach, and whether they may change. -/
inductive VariableKind where
  /-- Declared by `var`. -/
  | functionWide
  /-- Declared by `let`. -/
  | blockWide
  /-- Declared by `const`. -/
  | constant
  deriving DecidableEq, Repr

/-- Whether bindings are those of their block only. -/
def VariableKind.isLexical (kind : VariableKind) : Bool := kind ≠ .functionWide

/-- Whether a declaration starts at the word `let`. -/
def startsLet : Parse Bool := do
  if !(← sees "let") then return false
  return (wordOf? (← peek).token).any (!isKeyword ·) || (← peeksAny [leftBrace, "["])

/-- The kind of variable statement that the current token is the keyword of. -/
def variableKeyword? : Parse (Option VariableKind) := do
  if ← sees "var" then return some .functionWide
  if ← sees "const" then return some .constant
  if ← sees "let" then return some .blockWide
  return none

/-- The kind of variable statement that starts here, if one does. -/
def variableKind? : Parse (Option VariableKind) := do
  if (← sees "let") && !(← startsLet) then return none
  variableKeyword?

/-- The initializer of a declarator that starts at an index, if there is one. A pattern needs one. -/
def initializer (g : Grammar) (kind : VariableKind) (isName : Bool) (start : Nat) :
    Parse (Option ExpressionForm) := do
  if ← eat "=" then
    let value ← g .assignment
    return some value.form
  if !isName && kind ≠ .constant && !(← read).ambient then
    failAt start .patternWithoutInitializer
  return none

/-- One binding of a variable statement. `inHead` says that it stands in the head of a loop. -/
def declarator (g : Grammar) (kind : VariableKind) (inHead : Bool) : Parse Declarator := do
  let start ← startIndex
  let name ← g (.pattern kind.isLexical)
  if name.isSome then
    let _ ← eat "!"
  typeAnnotation g
  let value ←
    if inHead && (← seesAny ["in", "of"]) then pure none
    else initializer g kind name.isSome start
  return ⟨name, value, ⟨start, ← lastStop⟩⟩

/-- The bindings of a variable statement. A semicolon may stand where a binding should. -/
def declarators (g : Grammar) (kind : VariableKind) (inHead : Bool) : Parse (List Declarator) := do
  let found ← repeatWhile [] fun found => do
    if ← sees ";" then return (found, false)
    let next ← declarator g kind inHead
    return (next :: found, ← eat ",")
  return found.reverse

/-- Pass over what stands between a declaration and the end of its statement. -/
def skipToStatementEnd (g : Grammar) : Parse Unit := do
  let _ ← recover (expression g)
  loop do
    if ← eatStatementEnd then return false
    advance
    return (← cursor).fault?.isNone

/-- A variable statement of a kind from its keyword on. -/
def variableStatement (g : Grammar) (kind : VariableKind) : Parse (List Declarator) := do
  advance
  let found ← allowingIn (declarators g kind false)
  if !(← eatStatementEnd) then skipToStatementEnd g
  return found

/-- Whether a declaration of values that are disposed of starts at the word `using`. -/
def startsUsing : Parse Bool := do
  return (← sees "using") && isReferenceToken (← peek).token && (← peeksSameLine)

/-- A declaration whose values are disposed of at the end of their block, from its keyword on. -/
def usingDeclaration (g : Grammar) : Parse Unit := do
  advance
  let _ ← declarators g .functionWide false
  expectStatementEnd

/-- A statement that starts with the words `await using`: a declaration or an expression. -/
def awaitUsingStatement (g : Grammar) : Parse Unit := do
  let start ← startIndex
  advance
  if ← startsUsing then usingDeclaration g
  else
    let value ← awaitRest g start
    let _ ← allowingIn (binaryRest g value)
    let _ ← eatStatementEnd

/-! ## Declarations of types and namespaces -/

/-- A type with a name, after its keyword. -/
def typeAlias (g : Grammar) : Parse Unit := do
  let _ ← identifierName
  optionalTypeParameters g
  inTypes do
    if !(← eat "=") then failTypeMark (.unexpected · "=")
    g .type
  expectStatementEnd

/-- An interface after its keyword. What is extended a second time is passed over. -/
def interfaceDeclaration (g : Grammar) : Parse Unit := do
  let _ ← identifierName
  optionalTypeParameters g
  if ← eat "extends" then heritageList g
  if ← sees "extends" then
    loop do
      if (← atEnd) || (← sees leftBrace) then return false
      advance
      return true
  typeMembers g

/-- Pass over the current token, and take the one after it for a comma. -/
def replaceByComma : Parse Unit := do
  advance
  retake fun lexeme => { lexeme with token := .symbol "," }

/-- A member of an enumeration. What cannot follow its name is taken for a comma. -/
def enumMember (g : Grammar) : Parse Unit := do
  match ← token with
  | .string _ | .number => advance
  | _ =>
    if ← eat "[" then
      let _ ← expression g
      expect "]"
    else
      let _ ← identifierName
  if ← eat "=" then
    let _ ← g .assignment
  else if !(← seesAny [",", rightBrace]) then replaceByComma

/-- An enumeration after its keyword. Nothing need divide its members. -/
def enumDeclaration (g : Grammar) : Parse Unit := do
  let _ ← identifierName
  expect leftBrace
  loop do
    if ← sees rightBrace then return false
    enumMember g
    let _ ← eat ","
    return true
  expect rightBrace

/-- A namespace after its keyword. -/
def namespaceDeclaration (g : Grammar) : Parse Unit := do
  let _ ← identifierName
  loop do
    if ← eat "." then
      let _ ← identifierName
      return true
    return false
  moduleBlock g

/-- A description of a module or of the global names, from what it describes on. -/
def ambientModule (g : Grammar) : Parse Unit := do
  if (← sees "global") || (← seesString) then advance
  else failUnexpected "global or a string literal"
  if ← sees leftBrace then moduleBlock g else expectStatementEnd

/-- What a type declaration may start with: its keyword is the current token, or it has been
read. -/
inductive KeywordState where
  | isCurrent
  | isRead
  deriving DecidableEq, Repr

/-- Pass over the keyword of a declaration, unless it has been read. -/
def KeywordState.pass (state : KeywordState) : Parse Unit :=
  match state with
  | isCurrent => advance
  | isRead => return

/-- A declaration that starts with a word that is also an identifier, if it is one. -/
def wordDeclaration? (g : Grammar) (word : String) (state : KeywordState) : Parse Bool := do
  let certain := state = .isCurrent
  if word == "abstract" then
    if certain || ((← sees "class") && !(← afterLineBreak)) then
      state.pass
      classRest g true
      return true
  else if word == "enum" then
    if certain || (← seesReference) then
      state.pass
      enumDeclaration g
      return true
  else if word == "interface" then
    if certain || (← seesReference) then
      state.pass
      interfaceDeclaration g
      return true
  else if word == "module" then
    if !(← afterLineBreak) then
      state.pass
      if ← seesString then
        ambientModule g
        return true
      if certain || (← seesReference) then
        namespaceDeclaration g
        return true
  else if word == "namespace" then
    if certain || (← seesReference) then
      state.pass
      namespaceDeclaration g
      return true
  else if word == "type" then
    if certain || ((← seesReference) && !(← afterLineBreak)) then
      state.pass
      typeAlias g
      return true
  return false

/-- A constant enumeration from its first word on. -/
def constantEnum (g : Grammar) : Parse Unit := do
  advance
  advance
  enumDeclaration g

/-- Whether a constant enumeration starts here. -/
def startsConstantEnum : Parse Bool := return (← sees "const") && (← peeks "enum")

/-- A declaration after the word `declare`, if there is one. -/
def ambientDeclaration? (g : Grammar) : Parse (Option ItemKind) :=
  within (fun scope => { scope with ambient := true }) do
    if ← sees "function" then return some (.function (← functionDeclaration g false))
    if ← sees "class" then
      classRest g true
      return some .other
    if ← startsConstantEnum then
      constantEnum g
      return some .other
    match ← variableKeyword? with
    | some kind => return some (.variables (← variableStatement g kind))
    | none =>
      if ← sees "global" then
        ambientModule g
        return some .other
      match wordOf? (← token) with
      | some word => return if ← wordDeclaration? g word .isCurrent then some .other else none
      | none => return none

/-! ## Statements -/

/-- An asynchronous function from the word `async` on. -/
def asyncFunction (g : Grammar) : Parse String := do
  expect "async"
  functionDeclaration g true

/-- Whether an asynchronous function starts here. -/
def startsAsyncFunction : Parse Bool := do
  return (← sees "async") && (← peeks "function") && (← peeksSameLine)

/-- A statement in which no declaration may stand. -/
def substatement (g : Grammar) : Parse Unit := do
  let _ ← g (.statement false false)

/-- An expression in parentheses after a keyword. -/
def condition (g : Grammar) : Parse Unit := do
  expect "("
  let _ ← expressionWithIn g
  expect ")"

/-- How a loop takes its values. -/
inductive LoopKind where
  /-- From the values of a sequence. -/
  | each
  /-- From the keys of an object, or by counting. -/
  | other
  deriving DecidableEq, Repr

/-- The rest of the head of a loop from the word that binds its values on. -/
def eachHead (g : Grammar) : Parse LoopKind := do
  let isOf ← sees "of"
  advance
  if isOf then
    let _ ← assignmentWithIn g
    return .each
  else
    let _ ← expressionWithIn g
    return .other

/-- The rest of the head of a loop after its first semicolon; the second may be left out. -/
def countingHead (g : Grammar) : Parse LoopKind := do
  if !(← eat ";") then
    let _ ← expressionWithIn g
    let _ ← eat ";"
  if !(← sees ")") then
    let _ ← expressionWithIn g
  return .other

/-- The rest of the head of a loop after its first part. -/
def headRest (g : Grammar) : Parse LoopKind := do
  if ← seesAny ["of", "in"] then eachHead g
  else
    expect ";"
    countingHead g

/-- Whether the word that binds the values of a loop stands where a name should, which is then left
out. -/
def namesNothing (g : Grammar) : Parse Bool := do
  if !(← seesAny ["in", "of"]) then return false
  ahead do
    advance
    let _ ← g .assignment
    expect ")"
    return true

/-- The head of a loop that starts with a declaration, from its keyword on. -/
def declarationHead (g : Grammar) (kind : VariableKind) : Parse LoopKind := do
  advance
  if !(← namesNothing g) then
    let _ ← within (fun scope => { scope with allowIn := scope.allowIn || kind.isLexical })
      (declarators g kind true)
  headRest g

/-- The head of a loop that starts with an expression. A name may follow the word `using`. -/
def expressionHead (g : Grammar) : Parse LoopKind := do
  let awaited ← if (← sees "await") && (← peeks "using") then pure (some (← peek).stop)
    else pure none
  let first ← within (fun scope => { scope with allowIn := false }) (expression g)
  let isUsing := first.form = .identifier "using" ||
    (first.form = .awaited && awaited = some (← lastStop))
  if isUsing && !(← sees "of") && (← peeksAny ["of", "in"]) then
    let _ ← bindingIdentifier
    eachHead g
  else
    if ← seesAny ["of", "in"] then
      if let some index := first.method? then failAt index .notAPattern
    headRest g

/-- The head of a loop between its parentheses. -/
def forHead (g : Grammar) : Parse LoopKind := do
  match ← variableKind? with
  | some kind => declarationHead g kind
  | none => if ← eat ";" then countingHead g else expressionHead g

/-- A loop after its keyword. Only one that takes the values of a sequence may wait for them. -/
def forStatement (g : Grammar) : Parse Unit := do
  let awaitStart ← startIndex
  let awaits ← eat "await"
  expect "("
  let kind ← within (fun scope => { scope with inForHead := true }) (forHead g)
  expect ")"
  substatement g
  if awaits && kind = .other then failAt awaitStart .awaitLoop

/-- The statements of one case of a selection. -/
def caseBody (g : Grammar) : Parse Unit :=
  loop do
    if ← seesAny ["case", "default", rightBrace] then return false
    let _ ← g (.statement true false)
    return true

/-- A selection after its keyword. -/
def switchStatement (g : Grammar) : Parse Unit := do
  condition g
  expect leftBrace
  let _ ← within Scope.forBlock <| repeatWhile false fun hasDefault => do
    if ← eat "case" then
      let _ ← expressionWithIn g
      expect ":"
      caseBody g
      return (hasDefault, true)
    else if ← eat "default" then
      if hasDefault then fail .multipleDefaults
      expect ":"
      caseBody g
      return (true, true)
    else return (hasDefault, false)
  expect rightBrace

/-- The handler of a failing block, if there is one. -/
def catchClause (g : Grammar) : Parse Unit := do
  if ← eat "catch" then
    if ← eat "(" then
      let _ ← g (.pattern false)
      typeAnnotation g
      expect ")"
    block g

/-- The block that ends a failing block, if there is one. -/
def finallyClause (g : Grammar) : Parse Unit := do
  if ← eat "finally" then block g

/-- The end of a statement that is an expression. An operator goes on with the expression. -/
def expressionStatementEnd (g : Grammar) (value : Expression) : Parse Unit := do
  if ← eatStatementEnd then return
  if ← seesBinaryOperator then
    let _ ← binaryRest g value
  else fail .expectedStatementEnd

/-- The declaration that starts with a word, if it is one. -/
def namedDeclaration? (g : Grammar) (word : String) : Parse (Option ItemKind) := do
  if word == "declare" then ambientDeclaration? g
  else if word == "global" then
    if ← sees leftBrace then
      moduleBlock g
      return some .other
    return none
  else if ← wordDeclaration? g word .isRead then return some .other
  else if ← eatWhen (word == "abstract") "interface" then
    interfaceDeclaration g
    return some .other
  else return none

/-- A statement after its label. -/
def labelledStatement (g : Grammar) : Parse Unit := do
  if ← sees "function" then
    let start ← startIndex
    let isGenerator ← peeks "*"
    let _ ← functionDeclaration g false
    if isGenerator then failAt start .labelledGenerator
  else substatement g

/-- A statement that starts with an expression: the expression alone, a statement with a label, or
a declaration whose keyword is also an identifier. -/
def expressionStatement (g : Grammar) : Parse ItemKind := do
  let value ← expressionWithIn g
  match value.form with
  | .identifier name =>
    if ← eat ":" then
      labelledStatement g
      return .other
    match ← namedDeclaration? g name with
    | some kind => return kind
    | none => expressionStatementEnd g value
  | _ => expressionStatementEnd g value
  return .other

/-- Whether the current word stands before another one on its line. -/
def beforeWord : Parse Bool := return (← peeksWord) && (← peeksSameLine)

/-- The statements that start with a keyword of their own, if one starts here. -/
def keywordStatement? (g : Grammar) : Parse Bool := do
  if ← eatAny ["break", "continue"] then
    if !(← eatStatementEnd) then
      let _ ← referenceIdentifier
      expectStatementEnd
    return true
  if ← eat "debugger" then
    expectStatementEnd
    return true
  if ← eat "do" then
    substatement g
    expect "while"
    condition g
    let _ ← eatStatementEnd
    return true
  if ← eat "for" then
    forStatement g
    return true
  if ← eat "if" then
    condition g
    substatement g
    if ← eat "else" then substatement g
    return true
  if ← eat "return" then
    if !(← atStatementEnd) then
      let _ ← expressionWithIn g
    expectStatementEnd
    return true
  if ← eat "switch" then
    switchStatement g
    return true
  if ← eat "throw" then
    if ← afterLineBreak then fail .lineBreakAfterThrow
    let _ ← expressionWithIn g
    expectStatementEnd
    return true
  if ← eat "try" then
    block g
    catchClause g
    finallyClause g
    return true
  if ← eatAny ["with", "while"] then
    condition g
    substatement g
    return true
  if ← sees leftBrace then
    block g
    return true
  if ← eat ";" then return true
  return false

/-- The declarations that start with a keyword of their own, if one starts here. -/
def keywordDeclaration? (g : Grammar) (declarations : Bool) : Parse (Option ItemKind) := do
  if ← startsConstantEnum then
    constantEnum g
    return some .other
  if ← sees "function" then return some (.function (← functionDeclaration g false))
  if ← startsAsyncFunction then return some (.function (← asyncFunction g))
  if ← sees "class" then
    classRest g true
    return some .other
  if ← sees "var" then return some (.variables (← variableStatement g .functionWide))
  if declarations then
    if let some kind ← variableKind? then
      return some (.variables (← variableStatement g kind))
    if (← sees "await") && (← peeks "using") then
      awaitUsingStatement g
      return some .other
    if ← startsUsing then
      usingDeclaration g
      return some .other
  if (← seesAny ["interface", "type", "enum"]) && (← beforeWord) then
    match wordOf? (← token) with
    | some word =>
      let _ ← wordDeclaration? g word .isCurrent
      return some .other
    | none => return none
  return none

/-- A handler or end of a failing block without that block. What it holds is passed over, and the
statement is its keyword alone. -/
def strayHandler (g : Grammar) : Parse Item := do
  let keyword ← current
  let _ ← recover (catchClause g)
  let _ ← recover (finallyClause g)
  return ⟨.other, ⟨keyword.start, keyword.stop⟩⟩

/-- A statement that is no import or export. -/
def plainStatement (g : Grammar) (declarations : Bool) : Parse Item := do
  if ← seesAny ["catch", "finally"] then strayHandler g
  else
    let start ← startIndex
    let kind ← match ← keywordDeclaration? g declarations with
      | some kind => pure kind
      | none => if ← keywordStatement? g then pure .other else expressionStatement g
    return ⟨kind, ⟨start, ← lastStop⟩⟩

end DocCoverage.TypeScript
