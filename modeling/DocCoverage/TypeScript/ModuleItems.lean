import DocCoverage.TypeScript.Statements

/-!
# Imports and exports

The productions of imports and exports. An exported function or variable statement is read like one
without the word `export`, and marked as exported.
-/

namespace DocCoverage.TypeScript

open Parse

/-- The text that names a module. -/
def moduleSource : Parse Unit := do
  if ← seesString then advance else failUnexpected "a string literal"

/-- The attributes of an import, if there are any. The token after their word is taken for a left
brace. -/
def importAttributes (g : Grammar) : Parse Unit := do
  if !(← afterLineBreak) then
    if ← eatAny ["assert", "with"] then
      let _ ← objectLiteral g

/-- The module that an import or export refers to, and the end of the statement. -/
def fromClause (g : Grammar) : Parse Unit := do
  expect "from"
  moduleSource
  importAttributes g
  expectStatementEnd

/-- A name that a module exports. -/
inductive ExportedName where
  | word (name : String)
  | text (value : String)
  deriving DecidableEq, Repr

/-- Whether a name is a word that is spelled in a certain way. -/
def ExportedName.isWord (name : ExportedName) (word : String) : Bool := name = .word word

/-- A name that a module exports. -/
def exportedName : Parse ExportedName := do
  match ← token with
  | .string value =>
    advance
    return .text value
  | .word name =>
    advance
    return .word name
  | _ => failUnexpected "identifier or string"

/-- The names in a specifier, as far as they have been read. -/
inductive Specifier where
  /-- The specifier is complete. -/
  | done
  /-- A name that may get another one. -/
  | name (name : ExportedName)
  deriving DecidableEq, Repr

/-- The rest of a specifier after the words `type as`, with a parser for the names it binds. -/
def typeAsSpecifier (bound : Parse String) : Parse Unit := do
  if ← seesWord then
    let name ← bound
    if name == "as" && (← seesWord) then
      let _ ← bound

/-- The first names of a specifier: the word `type` may stand before the name. `bound` reads the
names that the specifier binds. -/
def specifierHead (bound : Parse String) : Parse Specifier := do
  let first ← exportedName
  if first.isWord "type" && ((← seesWord) || (← seesString)) then
    let name ← exportedName
    if name.isWord "as" then
      typeAsSpecifier bound
      return .done
    return .name name
  return .name first

/-- An imported name in braces. -/
def importSpecifier : Parse Unit := do
  let start ← startIndex
  match ← specifierHead bindingIdentifier with
  | .done => return
  | .name name =>
    if ← eat "as" then
      let _ ← bindingIdentifier
    else
      match name with
      | .word _ => return
      | .text value => failAt start (.stringBinding value)

/-- An exported name in braces. -/
def exportSpecifier : Parse Unit := do
  match ← specifierHead identifierName with
  | .done => return
  | .name _ =>
    if ← eat "as" then
      let _ ← exportedName

/-- An alias of an imported name from its equals sign on. -/
def importAlias : Parse Unit := do
  expect "="
  if (← sees "require") && (← peeks "(") then
    advance
    advance
    moduleSource
    expect ")"
  else entityName false
  expectStatementEnd

/-- What may follow the names that an import binds first. -/
inductive ImportRest where
  /-- The import is complete. -/
  | done
  /-- The module follows. -/
  | source
  /-- All names of the module, or some of them in braces. -/
  | names
  /-- All names of the module, which is evaluated later. -/
  | deferred
  deriving DecidableEq, Repr

/-- Whether a name that an import binds stands here, rather than the word `from`. -/
def seesImportedName : Parse Bool := do
  return (← seesReference) && (!(← sees "from") || (← peeks "from"))

/-- The words before a comma or before the braces of an import. -/
def importHead : Parse ImportRest := do
  if !(← seesReference) then return .names
  let first ← bindingIdentifier
  if first == "type" && (← seesAny [leftBrace, "*"]) then return .names
  let name ←
    if first == "type" && ((← seesImportedName) || ((← seesReference) && (← peeks "="))) then
      bindingIdentifier
    else pure first
  if ← sees "=" then
    importAlias
    return .done
  let phase : ImportRest :=
    if name == "defer" then .deferred else if name == "source" then .source else .names
  if phase ≠ .names && (← seesAny [leftBrace, "*"]) then return phase
  let isPhase := phase ≠ .names && (← seesImportedName)
  if isPhase then
    let _ ← bindingIdentifier
  if !(← sees "from") then expect ","
  return if isPhase then phase else .names

/-- An import. Nothing need end one that binds no names. -/
def importItem (g : Grammar) : Parse Unit := do
  expect "import"
  if ← seesString then
    advance
    importAttributes g
    let _ ← eatStatementEnd
  else
    let rest ← importHead
    if rest ≠ .done then
      if ← eatWhen (rest ≠ .source) "*" then
        expect "as"
        let _ ← bindingIdentifier
      else if ← eatWhen (rest = .names) leftBrace then commaList rightBrace importSpecifier
      fromClause g

/-- What is exported by default. -/
def defaultExport (g : Grammar) : Parse ItemKind := do
  if (← sees "abstract") && (← peeks "class") && (← peeksSameLine) then
    advance
    classRest g false
    return .other
  if (← sees "abstract") && (← peeks "interface") then advance
  if ← eat "interface" then
    interfaceDeclaration g
    return .other
  else if ← sees "class" then
    classRest g false
    return .other
  else if ← startsAsyncFunction then
    advance
    return .defaultFunction (← defaultFunction g true)
  else if ← sees "function" then
    return .defaultFunction (← defaultFunction g false)
  else
    let _ ← assignmentWithIn g
    expectStatementEnd
    return .other

/-- A declaration that is exported, if one starts here. -/
def exportedDeclaration? (g : Grammar) : Parse (Option ItemKind) := do
  if ← sees "class" then
    classRest g true
    return some .other
  if ← startsAsyncFunction then return some (.function (← asyncFunction g))
  if ← sees "function" then return some (.function (← functionDeclaration g false))
  if ← startsConstantEnum then
    constantEnum g
    return some .other
  match ← variableKind? with
  | some kind => return some (.variables (← variableStatement g kind))
  | none => return none

/-- Exported names in braces and the module they come from. -/
def exportedNames (g : Grammar) : Parse Unit := do
  expect leftBrace
  commaList rightBrace exportSpecifier
  if ← sees "from" then fromClause g
  else
    let _ ← eatStatementEnd

/-- An export after its keyword, once declarations of types have been ruled out. -/
def valueExport (g : Grammar) : Parse ItemKind := do
  let typesOnly ← eat "type"
  if !typesOnly then
    if ← eat "default" then return (← defaultExport g)
    if let some kind ← exportedDeclaration? g then return kind.exported
  if ← eat "*" then
    if ← eat "as" then
      let _ ← exportedName
    fromClause g
  else exportedNames g
  return .other

/-- A declaration of a type that is exported, if one starts here; one that cannot be read is no
declaration. -/
def exportedType? (g : Grammar) : Parse Bool := do
  match wordOf? (← token) with
  | some word =>
    let found ← attempt do
      return if ← wordDeclaration? g word .isCurrent then some () else none
    return found.isSome
  | none => return false

/-- An export. -/
def exportItem (g : Grammar) : Parse ItemKind := do
  expect "export"
  if ← atEnd then fail .unexpectedEnd
  if ← eat "declare" then
    if let some kind ← ambientDeclaration? g then return kind.exported
  if ← exportedType? g then return .other
  if ← eat "import" then
    if (← sees "type") && isReferenceToken (← peek).token then advance
    let _ ← identifierName
    importAlias
    return .other
  if ← eat "=" then
    let _ ← expression g
    expectStatementEnd
    return .other
  if ← eat "as" then
    expect "namespace"
    let _ ← identifier false
    expectStatementEnd
    return .other
  valueExport g

/-- Whether an expression starts at the word `import`. -/
def startsImportExpression : Parse Bool := do
  return (← sees "import") && (← peeksAny ["(", "."])

/-- An import, an export or an expression that starts with the word `import`. -/
def moduleItem (g : Grammar) (moduleLevel : Bool) : Parse ItemKind := do
  if ← startsImportExpression then
    let _ ← expression g
    let _ ← eatStatementEnd
    return .other
  else if !moduleLevel then fail .moduleItemInBlock
  else if ← sees "import" then
    importItem g
    return .other
  else exportItem g

/-- A statement, or an import or export where those may stand. -/
def statementRule (g : Grammar) (declarations moduleLevel : Bool) : Parse Item := do
  if ← seesAny ["import", "export"] then
    let start ← startIndex
    let kind ← moduleItem g moduleLevel
    return ⟨kind, ⟨start, ← lastStop⟩⟩
  else plainStatement g declarations

end DocCoverage.TypeScript
