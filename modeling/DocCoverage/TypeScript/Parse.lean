import DocCoverage.TypeScript.Lexer

/-!
# Parsers

A parser moves a cursor over the lexemes of a text and returns a result or a syntax error; where it
fails, the cursor stays where the failure was found. The scope tells it what surrounds the place
where it stands.

Phrases nest without bound. The productions of the grammar are therefore written over a `Grammar`,
which gives a parser for each nonterminal; the grammar of a text is tied together once, in
`DocCoverage.TypeScript.Module`.
-/

namespace DocCoverage.TypeScript

/-- What surrounds a phrase. -/
structure Scope where
  /-- A bound for the number of steps of a repetition. -/
  bound : Nat
  /-- Whether tags may stand in expressions. -/
  markup : Bool
  /-- Whether declarations describe what is defined elsewhere. -/
  ambient : Bool
  inAsync : Bool := false
  inGenerator : Bool := false
  /-- Whether a parameter list is read. -/
  inParameters : Bool := false
  /-- Whether a static block of a class is read. -/
  inStaticBlock : Bool := false
  /-- Whether the operator `in` may stand in expressions. -/
  allowIn : Bool := false
  /-- Whether a branch of a conditional expression is read. -/
  inConditional : Bool := false
  /-- Whether a colon closes the branch that is read. -/
  colonFollows : Bool := false
  /-- Whether a type or tag is read, in which every angle bracket is a token. -/
  inType : Bool := false
  /-- Whether conditional types are left to the surrounding type. -/
  noConditionalType : Bool := false
  inForHead : Bool := false
  /-- The index at which an arrow function may start. -/
  arrowStart : Option Nat := none
  deriving DecidableEq, Repr

/-- A place between two lexemes: the lexeme to be read next and the end of the last one read. -/
structure Cursor where
  current : Lexeme
  lastStop : Nat
  deriving DecidableEq, Repr

/-- The start of a text that begins at an index. -/
def Cursor.ofText (index : Nat) (text : List Char) : Cursor :=
  ⟨Lexeme.read false true index text, index⟩

/-- The place after the current lexeme. There is none after a regular expression without an end. -/
def Cursor.next (inType : Bool) (cursor : Cursor) : Cursor :=
  match cursor.current.token with
  | .invalid .unterminatedRegex _ => cursor
  | _ =>
    ⟨Lexeme.read inType false cursor.current.stop cursor.current.rest, cursor.current.stop⟩

/-- The index at which an error at a place is reported: the start of the next token, or the end of
the last one at the end of the text. -/
def Cursor.errorIndex (cursor : Cursor) : Nat :=
  if cursor.current.token = .endOfFile then cursor.lastStop else cursor.current.start

/-- What is wrong with the next characters, if they form no token. -/
def Cursor.fault? (cursor : Cursor) : Option SyntaxError :=
  match cursor.current.token with
  | .invalid cause distance => some ⟨cause, cursor.current.index + distance⟩
  | _ => none

/-- A parser of phrases. -/
abbrev Parse (α : Type) := ReaderT Scope (EStateM SyntaxError Cursor) α

namespace Parse

/-- The place of the parser. -/
def cursor : Parse Cursor := get

/-- The lexeme to be read next. -/
def current : Parse Lexeme := return (← cursor).current

/-- The token to be read next. -/
def token : Parse Token := return (← current).token

/-- The start of the token to be read next. -/
def startIndex : Parse Nat := return (← current).start

/-- The end of the last token read. -/
def lastStop : Parse Nat := return (← cursor).lastStop

/-- Pass over the current token. -/
def advance : Parse Unit := do
  let inType := (← read).inType
  modify (Cursor.next inType)

/-- Take the current token for another reading of the text at its start. -/
def retake (change : Lexeme → Lexeme) : Parse Unit :=
  modify fun cursor => { cursor with current := change cursor.current }

/-- Fail with an error. Characters that form no token are passed over where something fails before
them. -/
def failWith {α : Type} (error : SyntaxError) : Parse α := do
  if (← cursor).fault?.isSome then advance
  throw error

/-- Fail for a cause at an index. -/
def failAt {α : Type} (index : Nat) (cause : Cause) : Parse α := failWith ⟨cause, index⟩

/-- Fail if the next characters form no token. -/
def requireToken : Parse Unit := do
  if let some error := (← cursor).fault? then failWith error

/-- Fail for a cause at the current token. -/
def fail {α : Type} (cause : Cause) : Parse α := do failAt (← cursor).errorIndex cause

/-- Fail because the text ends. -/
def failEnd {α : Type} : Parse α := do failAt (← current).stop .unexpectedEnd

/-- Fail because the current token is none of the wanted ones. -/
def failUnexpected {α : Type} (wanted : String) : Parse α := do
  fail (.unexpected (← token).display wanted)

/-- Whether a token is spelled in a certain way, as a punctuator or a word. -/
def isSpelled (spelling : String) : Token → Bool
  | .symbol text => text == spelling
  | .word name => name == spelling
  | _ => false

/-- Whether the current token is spelled in a certain way. -/
def sees (spelling : String) : Parse Bool := return isSpelled spelling (← token)

/-- Whether the current token is spelled in one of some ways. -/
def seesAny (spellings : List String) : Parse Bool := do
  let found ← token
  return spellings.any (isSpelled · found)

/-- Whether the text ends here. -/
def atEnd : Parse Bool := return (← token) = .endOfFile

/-- The lexeme after the current one. -/
def peek : Parse Lexeme := do
  let inType := (← read).inType
  return ((← cursor).next inType).current

/-- Whether the token after the current one is spelled in a certain way. -/
def peeks (spelling : String) : Parse Bool := return isSpelled spelling (← peek).token

/-- Whether the token after the current one is spelled in one of some ways. -/
def peeksAny (spellings : List String) : Parse Bool := do
  let found := (← peek).token
  return spellings.any (isSpelled · found)

/-- Pass over a token spelled in a certain way, if it is the current one. -/
def eat (spelling : String) : Parse Bool := do
  if ← sees spelling then
    advance
    return true
  return false

/-- Pass over a token spelled in a certain way, if it is the current one and a condition holds. -/
def eatWhen (condition : Bool) (spelling : String) : Parse Bool :=
  if condition then eat spelling else return false

/-- Pass over a token spelled in one of some ways, if it is the current one. -/
def eatAny (spellings : List String) : Parse Bool := do
  if ← seesAny spellings then
    advance
    return true
  return false

/-- Fail because a certain token was required. -/
def failExpected {α : Type} (spelling : String) : Parse α := do
  fail (.expected spelling (← token).display)

/-- Pass over a token spelled in a certain way, or fail. -/
def expect (spelling : String) : Parse Unit := do
  if !(← eat spelling) then failExpected spelling

/-- The name of a token that is a word. -/
def wordOf? : Token → Option String
  | .word name => some name
  | _ => none

/-- Whether the current token is a word. -/
def seesWord : Parse Bool := return (wordOf? (← token)).isSome

/-- Whether the token after the current one is a word. -/
def peeksWord : Parse Bool := return (wordOf? (← peek).token).isSome

/-- Whether the current token is a string. -/
def seesString : Parse Bool := do
  match ← token with
  | .string _ => return true
  | _ => return false

/-- Whether the current token is the start of a template. -/
def seesTemplate : Parse Bool := do
  match ← token with
  | .template _ _ => return true
  | _ => return false

/-- Whether a token may stand as an expression that names something. -/
def isReferenceToken (token : Token) : Bool := (wordOf? token).any isReference

/-- Whether the current token names something. -/
def seesReference : Parse Bool := return isReferenceToken (← token)

/-- Whether a line break stands before the current token. -/
def afterLineBreak : Parse Bool := return (← current).newlineBefore

/-- Pass over a token spelled in a certain way, if it is the current one and no line break stands
before it. -/
def eatSameLine (spelling : String) : Parse Bool := do eatWhen (!(← afterLineBreak)) spelling

/-- Whether the token after the current one stands on the same line. -/
def peeksSameLine : Parse Bool := return !(← peek).newlineBefore

/-- Whether a statement may end here: before a semicolon, a right brace, the end of the text, or
after a line break. -/
def atStatementEnd : Parse Bool := do
  if ← seesAny [";", rightBrace] then return true
  return (← atEnd) || (← afterLineBreak)

/-- End a statement, passing over its semicolon, if it may end here. -/
def eatStatementEnd : Parse Bool := do
  if ← eat ";" then return true
  atStatementEnd

/-- End a statement, or fail. -/
def expectStatementEnd : Parse Unit := do
  if !(← eatStatementEnd) then failExpected ";"

/-- Run a parser in a changed scope. -/
def within {α : Type} (change : Scope → Scope) (parser : Parse α) : Parse α :=
  withReader change parser

/-- Run a parser where the operator `in` may stand in expressions. -/
def allowingIn {α : Type} (parser : Parse α) : Parse α :=
  within (fun scope => { scope with allowIn := true }) parser

/-- Run a parser of types. -/
def inTypes {α : Type} (parser : Parse α) : Parse α :=
  within (fun scope => { scope with inType := true }) parser

/-- Run a parser of what is no type. -/
def outsideTypes {α : Type} (parser : Parse α) : Parse α :=
  within (fun scope => { scope with inType := false }) parser

/-- Run a parser that may decline; where it declines or fails, the cursor stays. -/
def attempt {α : Type} (parser : Parse (Option α)) : Parse (Option α) := fun scope start =>
  match parser scope start with
  | .ok (some result) stop => .ok (some result) stop
  | _ => .ok none start

/-- Run a test ahead of the cursor; a test that fails does not hold. -/
def ahead (test : Parse Bool) : Parse Bool := fun scope start =>
  match test scope start with
  | .ok result _ => .ok result start
  | .error _ _ => .ok false start

/-- Run a parser, and go on from where it stopped even if it fails. -/
def recover {α : Type} (parser : Parse α) : Parse (Option α) := fun scope start =>
  match parser scope start with
  | .ok result stop => .ok (some result) stop
  | .error _ stop => .ok none stop

/-- Run a parser; where it fails before a certain place, go on there with a result of its own. -/
def rescue {α : Type} (parser : Parse α) (test : Parse Bool) (result : α) : Parse α :=
  tryCatch parser fun error => do
    requireToken
    if ← test then return result
    throw error

/-- Repeat a step at most so many times, until it says that it is done. -/
def repeatAtMost {α : Type} (step : α → Parse (α × Bool)) : Nat → α → Parse α
  | 0, state => return state
  | n + 1, state => do
    let (state, goOn) ← step state
    if goOn then repeatAtMost step n state else return state

/-- Repeat a step until it says that it is done. A step that goes on passes over a character, so
the bound of a text is its length with one more step. -/
def repeatWhile {α : Type} (state : α) (step : α → Parse (α × Bool)) : Parse α := do
  repeatAtMost step (← read).bound state

/-- Repeat a parser until it says that it is done. -/
def loop (step : Parse Bool) : Parse Unit := repeatWhile () fun _ => return ((), ← step)

end Parse

/-- What an expression is, as far as the phrases around it need to know. -/
inductive ExpressionForm where
  | identifier (name : String)
  | arrow
  | function
  | parenthesized
  /-- A member access or an assertion: anything else that may be assigned to. -/
  | place
  /-- An optional chain, which may be assigned to and not constructed. -/
  | chain
  /-- An object or array, with the index of its first method, for which it is no pattern. -/
  | collection (method : Option Nat)
  /-- An assignment; it is a pattern with a default inside of a collection. -/
  | assignment
  /-- A call of a constructor without arguments. -/
  | newWithoutArguments
  /-- An expression after a prefix operator that does not change it. -/
  | unary
  | awaited
  /-- A binary or conditional expression, or one that changes its operand. -/
  | operation
  | other
  deriving DecidableEq, Repr

/-- An expression and its first index. -/
structure Expression where
  form : ExpressionForm
  start : Nat
  deriving DecidableEq, Repr

/-- Whether an expression is an arrow function. -/
def Expression.isArrow (expression : Expression) : Bool := expression.form = .arrow

/-- Whether an expression is an identifier. -/
def Expression.isIdentifier (expression : Expression) : Bool :=
  match expression.form with
  | .identifier _ => true
  | _ => false

/-- The index of the first method in an expression, for which it is no pattern. -/
def Expression.method? (expression : Expression) : Option Nat :=
  match expression.form with
  | .collection method => method
  | _ => none

/-- A range of character indices, from `start` up to but without `stop`. -/
structure Span where
  start : Nat
  stop : Nat
  deriving DecidableEq, Repr

/-- One binding of a variable statement. -/
structure Declarator where
  /-- The name, if the binding is not a pattern. -/
  name : Option String
  /-- What the initializer is, if there is one. -/
  initializer : Option ExpressionForm
  span : Span
  deriving DecidableEq, Repr

/-- What a top-level item is: a declaration of a function or of variables, or anything else. -/
inductive ItemKind where
  | function (name : String)
  | variables (declarators : List Declarator)
  /-- A function declaration after the word `export`. -/
  | exportedFunction (name : String)
  /-- A variable statement after the word `export`. -/
  | exportedVariables (declarators : List Declarator)
  /-- A function that is exported by default, with its name if it has one. -/
  | defaultFunction (name : Option String)
  | other
  deriving DecidableEq, Repr

/-- What a declaration is after the word `export`. -/
def ItemKind.exported : ItemKind → ItemKind
  | .function name => .exportedFunction name
  | .variables declarators => .exportedVariables declarators
  | kind => kind

/-- A top-level item of a module. -/
structure Item where
  kind : ItemKind
  span : Span
  deriving DecidableEq, Repr

/-- The phrases that may stand inside of themselves. -/
inductive Nonterminal where
  /-- An expression without commas. -/
  | assignment
  /-- An expression with prefix operators. -/
  | unary
  /-- An expression with member accesses and constructor calls. -/
  | member
  /-- An expression with member accesses and calls. -/
  | leftHandSide
  /-- A binding pattern; `lexical` says that the name `let` is refused. -/
  | pattern (lexical : Bool)
  | type
  /-- A type that is not conditional. -/
  | plainType
  /-- A statement; `declarations` says that declarations may stand here, and `moduleLevel` that
  imports and exports may. -/
  | statement (declarations moduleLevel : Bool)
  /-- An element between tags. -/
  | element
  deriving DecidableEq, Repr

/-- What the parser of a nonterminal returns. -/
@[reducible]
def Nonterminal.Result : Nonterminal → Type
  | assignment | unary | member | leftHandSide => Expression
  | pattern _ => Option String
  | type | plainType => Unit
  | statement _ _ => Item
  | element => Unit

/-- A parser for each nonterminal. -/
abbrev Grammar := (n : Nonterminal) → Parse n.Result

end DocCoverage.TypeScript
