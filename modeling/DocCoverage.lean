import DocCoverage.Check
import DocCoverage.CommandLine.Arguments
import DocCoverage.CommandLine.Color
import DocCoverage.CommandLine.Outcome
import DocCoverage.CommandLine.Similarity
import DocCoverage.Coverage.Declarations
import DocCoverage.Coverage.Percentage
import DocCoverage.Coverage.Record
import DocCoverage.Coverage.Table
import DocCoverage.Coverage.Tally
import DocCoverage.DocComment.Content
import DocCoverage.DocComment.Diagnostic
import DocCoverage.DocComment.Scanner
import DocCoverage.DocComment.Tag
import DocCoverage.FileTree.Edit
import DocCoverage.FileTree.Node
import DocCoverage.FileTree.Resolve
import DocCoverage.Glob.Match
import DocCoverage.Glob.Pattern
import DocCoverage.Main
import DocCoverage.Number.Rounding
import DocCoverage.Proofs.DocComment.Fences
import DocCoverage.Proofs.DocComment.Grammar
import DocCoverage.Proofs.Text.Cuts
import DocCoverage.Selection.Scan
import DocCoverage.Selection.Settings
import DocCoverage.Text.Blank
import DocCoverage.Text.ColumnTable
import DocCoverage.Text.Columns
import DocCoverage.Text.EmojiTable
import DocCoverage.Text.IdentifierTable
import DocCoverage.Text.LineIndex
import DocCoverage.Text.Lines
import DocCoverage.Text.Occurrence
import DocCoverage.Text.Opening
import DocCoverage.Text.Printable
import DocCoverage.Text.Ranges
import DocCoverage.Text.Trivia
import DocCoverage.Text.Utf8
import DocCoverage.TypeScript.Binding
import DocCoverage.TypeScript.Expressions
import DocCoverage.TypeScript.Functions
import DocCoverage.TypeScript.Lexer
import DocCoverage.TypeScript.Markup
import DocCoverage.TypeScript.Module
import DocCoverage.TypeScript.ModuleItems
import DocCoverage.TypeScript.Operators
import DocCoverage.TypeScript.Parse
import DocCoverage.TypeScript.Statements
import DocCoverage.TypeScript.Subscripts
import DocCoverage.TypeScript.SyntaxError
import DocCoverage.TypeScript.Token
import DocCoverage.TypeScript.Types
import DocCoverage.Proofs.DocComment.Recognition
import DocCoverage.Proofs.Coverage.Collection
import DocCoverage.Proofs.Coverage.Findings
import DocCoverage.Proofs.Coverage.LoadedOffsets
import DocCoverage.Proofs.Coverage.CommentOwnership
import DocCoverage.Proofs.Coverage.LineEndings
import DocCoverage.Proofs.Coverage.Accounting
import DocCoverage.Proofs.Number.Rounding
import DocCoverage.Proofs.Coverage.PercentageOrder
import DocCoverage.Proofs.Text.ByteOrder
import DocCoverage.Proofs.FileTree.View
import DocCoverage.Proofs.FileTree.Resolution
import DocCoverage.Proofs.Selection.Walk
import DocCoverage.Proofs.FileTree.Changes
import DocCoverage.Proofs.Selection.Paths
import DocCoverage.Proofs.Selection.SelectedFiles
import DocCoverage.Proofs.Check.Reports
import DocCoverage.Proofs.Selection.OpenedFiles
import DocCoverage.Proofs.Check.AddedFile
import DocCoverage.Proofs.Text.TriviaTokens
import DocCoverage.Proofs.Text.Encoding
import DocCoverage.Proofs.Text.ByteCursor
import DocCoverage.Proofs.Text.CommentRanges
import DocCoverage.Proofs.Text.WrittenText
import DocCoverage.Proofs.Coverage.TableReading
import DocCoverage.Proofs.Check.AllOrNothing
import DocCoverage.Proofs.Text.LineComments
import DocCoverage.Proofs.DocComment.Framing
import DocCoverage.Proofs.Coverage.CommentDelimiters
import DocCoverage.Proofs.DocComment.FencedCode
import DocCoverage.Proofs.Coverage.ReturnLineEnds
import DocCoverage.Proofs.DocComment.Escapes
import DocCoverage.Proofs.DocComment.LetterCase
import DocCoverage.Proofs.Coverage.LetterCase
import DocCoverage.Proofs.DocComment.ReportedLines
import DocCoverage.Proofs.DocComment.LineSetting
import DocCoverage.Proofs.DocComment.DiagnosticOrder
import DocCoverage.Proofs.DocComment.LineFront
import DocCoverage.Proofs.DocComment.BlankLines
import DocCoverage.Proofs.Coverage.CollectedDeclarations
import DocCoverage.Proofs.Text.LineTerminators
import DocCoverage.Proofs.Coverage.LineRanges
import DocCoverage.Proofs.Coverage.PercentageRounding
import DocCoverage.Proofs.Text.Columns
import DocCoverage.Proofs.Coverage.TableLayout
import DocCoverage.Proofs.Glob.Wildcards
import DocCoverage.Proofs.Selection.SourceFiles
import DocCoverage.Proofs.DocComment.Cursor
import DocCoverage.Proofs.DocComment.Progress
import DocCoverage.Proofs.FileTree.EmptiedTrees
import DocCoverage.Proofs.Selection.UnlistableDirectories
