/-!
# The tags of documentation comments

The standard tags, each with the way it is written: as the start of a block, as a modifier that
stands alone, or inline between braces. Names are looked up without regard to ASCII letter case.
-/

namespace DocCoverage.DocComment

/-- The way in which a tag is written. -/
inductive TagSyntax where
  /-- Starts a block that runs to the next block tag. -/
  | block
  /-- Stands alone. -/
  | modifier
  /-- Stands between braces. -/
  | inline
  deriving DecidableEq, Repr

/-- The word for a way of writing a tag. -/
def TagSyntax.label : TagSyntax → String
  | .block => "block"
  | .modifier => "modifier"
  | .inline => "inline"

/-- A tag under its canonical name. -/
structure Tag where
  name : String
  syntaxKind : TagSyntax
  deriving DecidableEq, Repr

namespace Tag

/-- The standard tags, by name. -/
def standard : List Tag :=
  [⟨"alpha", .modifier⟩, ⟨"beta", .modifier⟩, ⟨"decorator", .block⟩, ⟨"defaultValue", .block⟩,
    ⟨"deprecated", .block⟩, ⟨"eventProperty", .modifier⟩, ⟨"example", .block⟩,
    ⟨"experimental", .modifier⟩, ⟨"inheritDoc", .inline⟩, ⟨"internal", .modifier⟩,
    ⟨"label", .inline⟩, ⟨"link", .inline⟩, ⟨"override", .modifier⟩,
    ⟨"packageDocumentation", .modifier⟩, ⟨"param", .block⟩, ⟨"privateRemarks", .block⟩,
    ⟨"public", .modifier⟩, ⟨"readonly", .modifier⟩, ⟨"remarks", .block⟩, ⟨"returns", .block⟩,
    ⟨"sealed", .modifier⟩, ⟨"see", .block⟩, ⟨"throws", .block⟩, ⟨"typeParam", .block⟩,
    ⟨"virtual", .modifier⟩]

/-- A word with its ASCII letters in lower case. -/
def foldCase (word : List Char) : List Char := word.map Char.toLower

/-- The standard tag of a name, in any ASCII letter case. -/
def find? (name : List Char) : Option Tag :=
  standard.find? fun tag => foldCase tag.name.toList == foldCase name

end Tag

end DocCoverage.DocComment
