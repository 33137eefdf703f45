import DocCoverage.Coverage.Tally
import DocCoverage.TypeScript.Module

/-!
# The declarations of a module

The declarations that should be documented are the functions of a module and the variables that
hold one, at the top level. The comments of a declaration stand between the item before it and its
own item, so they are sought from the end of the item before it on.
-/

namespace DocCoverage.Coverage

open Text TypeScript

/-- The lines of a span of bytes. -/
def linesOf (index : LineIndex) (span : Span) : LineRange :=
  ⟨index.lineOf span.start, index.lineOf span.stop⟩

/-- The declaration of a function by an item. -/
def functionDeclared (index : LineIndex) (commentOffset : Nat) (name : String) (span : Span) :
    Declaration :=
  ⟨name, .function, commentOffset, linesOf index span⟩

/-- The declaration of a variable by a declarator. -/
def variableDeclared (index : LineIndex) (commentOffset : Nat) (declarator : Declarator) :
    Declaration :=
  ⟨declarator.name.getD "<pattern>", .variable, commentOffset, linesOf index declarator.span⟩

/-- Whether a declarator binds a function: its initializer is an arrow function or a function
expression, with nothing around it. -/
def bindsFunction (declarator : Declarator) : Bool :=
  declarator.initializer = some .arrow || declarator.initializer = some .function

/-- The declarations of an item whose leading comments are sought from an offset on. -/
def declarationsOfItem (index : LineIndex) (commentOffset : Nat) (item : Item) :
    List Declaration :=
  match item.kind with
  | .function name | .exportedFunction name =>
    [functionDeclared index commentOffset name item.span]
  | .defaultFunction name =>
    [functionDeclared index commentOffset (name.getD "default") item.span]
  | .variables declarators | .exportedVariables declarators =>
    (declarators.filter bindsFunction).map (variableDeclared index commentOffset)
  | .other => []

/-- The declarations of consecutive items, the first of which follows an offset. -/
def declarationsFrom (index : LineIndex) : Nat → List Item → List Declaration
  | _, [] => []
  | offset, item :: rest =>
    declarationsOfItem index offset item ++ declarationsFrom index item.span.stop rest

/-- Whether a declaration may stand before another one: functions stand before variables. -/
def sortsBefore (first second : Declaration) : Bool :=
  first.kind = .function || second.kind = .variable

/-- The declarations of the items of a module, sorted by kind. The sort is stable: declarations of one
kind stay in the order of the file. -/
def declarationsOf (index : LineIndex) (items : List Item) : List Declaration :=
  (declarationsFrom index 0 items).mergeSort sortsBefore

/-- The unit of the file with a path and a text. -/
def SourceUnit.read (path : String) (text : List Char) : Except ModuleError SourceUnit :=
  match readModule (.ofPath path) text with
  | .ok items => .ok ⟨path, text, declarationsOf (.ofText text) items⟩
  | .error error => .error error

end DocCoverage.Coverage
