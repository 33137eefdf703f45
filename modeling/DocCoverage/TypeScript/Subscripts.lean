import DocCoverage.TypeScript.Operators
import DocCoverage.TypeScript.Types

/-!
# Member accesses and calls

The productions of what follows an operand: member accesses, calls, type arguments and templates. An
optional chain stays one through the accesses and calls that follow it.
-/

namespace DocCoverage.TypeScript

open Parse

/-- An expression, possibly spread. -/
def spreadable (g : Grammar) : Parse Expression := do
  let _ ← eat "..."
  g .assignment

/-- Arguments in parentheses; the answer is their number. -/
def arguments (g : Grammar) : Parse Nat :=
  within (fun scope => { scope with colonFollows := false }) do
    expect "("
    let count ← repeatWhile 0 fun count => do
      if ← sees ")" then return (count, false)
      let _ ← allowingIn (spreadable g)
      if !(← sees ")") then expect ","
      return (count + 1, true)
    expect ")"
    return count

/-- What stands in a hole of a template. -/
def templateHole (g : Grammar) : Parse Unit := do
  let _ ← expressionWithIn g

/-- What is accessed or called. -/
inductive Subject where
  | value (form : ExpressionForm)
  /-- The superclass. -/
  | parent
  /-- The import of a module. -/
  | importer
  deriving DecidableEq, Repr

/-- Whether a subject is an expression by itself. -/
def Subject.isValue : Subject → Bool
  | value _ => true
  | _ => false

/-- Whether a subject is an optional chain. -/
def Subject.isChain (subject : Subject) : Bool := subject = value .chain

/-- The result of an access to a subject. -/
def Subject.accessed (subject : Subject) (optional : Bool) : Subject :=
  value (if optional || subject.isChain then .chain else .place)

/-- The result of a call of a subject. -/
def Subject.called (subject : Subject) (optional : Bool) : Subject :=
  value (if optional || subject.isChain then .chain else .other)

/-- Type arguments before a call or a template, with it, if they stand here. `calls` says that calls
are read here. -/
def typedCall? (g : Grammar) (calls : Bool) (subject : Subject) : Parse (Option Subject) :=
  attempt do
    typeArguments g
    if calls && (← sees "(") then
      let _ ← arguments g
      return some (subject.called false)
    if ← seesTemplate then
      template true (templateHole g)
      return some (.value .other)
    return none

/-- Type arguments that stand alone after an expression, if they do. -/
def instantiation? (g : Grammar) : Parse Bool := do
  let found ← attempt do
    typeArguments g
    if (← seesAny ["<", ">", "+", "-", "("]) || (← seesTemplate) then return none
    if (← afterLineBreak) || (← seesBinaryOperator) || (← seesAny ["as", "satisfies"]) then
      return some ()
    return if ← startsExpression then none else some ()
  return found.isSome

/-- Refuse an access to the superclass or to an import that is no such access. -/
def checkAccess (calls optional : Bool) (start : Nat) (subject : Subject) : Parse Unit := do
  if subject = .importer then failUnexpected "meta"
  if optional && subject = .parent then
    failAt start (if calls then .invalidSuper else .invalidSuperCall)

/-- An access by an expression in brackets, from the left bracket on. -/
def indexAccess (g : Grammar) (calls optional : Bool) (start : Nat) (subject : Subject) :
    Parse Subject := do
  expect "["
  let _ ← expressionWithIn g
  expect "]"
  checkAccess calls optional start subject
  return subject.accessed optional

/-- A call, from its type arguments or left parenthesis on. -/
def call (g : Grammar) (optional : Bool) (subject : Subject) : Parse Subject := do
  if ← sees "<" then typeArguments g
  let start ← startIndex
  let count ← arguments g
  if subject = .importer && (count = 0 || 2 < count) then failAt start .importArguments
  if optional && !subject.isValue then fail .optionalSuperCall
  return subject.called optional

/-- An access by a name, after its dot. -/
def namedAccess (calls optional : Bool) (start : Nat) (subject : Subject) : Parse Subject := do
  let isPrivate ← sees "#"
  let _ ← memberName
  checkAccess calls optional start subject
  if isPrivate && subject = .parent then fail .invalidSuperCall
  return subject.accessed optional

/-- A mark that what stands before it is present. -/
def presenceMark (subject : Subject) : Parse Subject :=
  match subject with
  | .value _ => return subject.accessed false
  | .parent => fail (.nonNullAssertion "super")
  | .importer => fail (.nonNullAssertion "import")

/-- A template after what has been read, if there is one. -/
def taggedTemplate (g : Grammar) (calls : Bool) (subject : Subject) : Parse (Subject × Bool) := do
  match subject with
  | .value _ =>
    if ← seesTemplate then
      template true (templateHole g)
      return (.value .other, true)
    return (subject, false)
  | .parent => fail (if calls then .invalidSuper else .invalidSuperCall)
  | .importer => fail .importNotAllowed

/-- An access or call after optional type arguments have been read, if there is one. -/
def untypedSubscript (g : Grammar) (calls indexes : Bool) (start : Nat) (subject : Subject) :
    Parse (Subject × Bool) := do
  if (← sees "?") && (← peeks ".") then
    advance
    if indexes && (← peeks "[") then
      advance
      return (← indexAccess g calls true start subject, true)
    if ← peeksAny ["(", "<"] then
      advance
      return (← call g true subject, true)
    advance
    return (← namedAccess calls true start subject, true)
  if indexes && (← sees "[") then return (← indexAccess g calls false start subject, true)
  if calls && (← sees "(") then return (← call g false subject, true)
  if ← eat "." then return (← namedAccess calls false start subject, true)
  taggedTemplate g calls subject

/-- One access or call, if there is one. `calls` says that calls are read here, and `indexes` that
accesses in brackets are. -/
def subscript (g : Grammar) (calls indexes : Bool) (start : Nat) (subject : Subject) :
    Parse (Subject × Bool) := do
  if ← eatSameLine "!" then return (← presenceMark subject, true)
  if subject.isValue && (← seesTypeArguments) then
    if let some next ← typedCall? g calls subject then return (next, true)
    if ← instantiation? g then return (← untypedSubscript g calls indexes start (.value .place))
  untypedSubscript g calls indexes start subject

/-- The accesses and calls after what starts at an index. -/
def subscripts (g : Grammar) (calls indexes : Bool) (start : Nat) (subject : Subject) :
    Parse Expression := do
  match ← repeatWhile subject (subscript g calls indexes start) with
  | .value form => return ⟨form, start⟩
  | _ => return ⟨.other, start⟩

end DocCoverage.TypeScript
