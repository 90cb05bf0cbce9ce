import ModuleDocs.Alias.Expansion
import ModuleDocs.Command.Arguments
import ModuleDocs.Command.Basic
import ModuleDocs.Comments
import ModuleDocs.Console.Lines
import ModuleDocs.Console.Markup
import ModuleDocs.Console.Printer
import ModuleDocs.Console.Style
import ModuleDocs.Console.Table
import ModuleDocs.Docstring
import ModuleDocs.Extract
import ModuleDocs.Failure.Basic
import ModuleDocs.Failure.Cause
import ModuleDocs.Failure.Halt
import ModuleDocs.Glob
import ModuleDocs.Interface.Basic
import ModuleDocs.Interface.Check
import ModuleDocs.Interface.Checker
import ModuleDocs.Interface.Declarations
import ModuleDocs.Interface.Inference
import ModuleDocs.Interface.Signature
import ModuleDocs.Log
import ModuleDocs.Main
import ModuleDocs.Naming
import ModuleDocs.Number.Binary64
import ModuleDocs.Number.Shortest
import ModuleDocs.Page
import ModuleDocs.Path
import ModuleDocs.Record
import ModuleDocs.Run
import ModuleDocs.Settings.Basic
import ModuleDocs.Settings.Load
import ModuleDocs.Settings.VariableFile
import ModuleDocs.Source.Expr
import ModuleDocs.Source.Expr.Printer
import ModuleDocs.Source.Grammar.Display
import ModuleDocs.Source.Grammar.Expression
import ModuleDocs.Source.Grammar.Parameters
import ModuleDocs.Source.Grammar.Pattern
import ModuleDocs.Source.Grammar.Primary
import ModuleDocs.Source.Grammar.Reading
import ModuleDocs.Source.Grammar.Rule
import ModuleDocs.Source.Grammar.Statement
import ModuleDocs.Source.Grammar.Strings
import ModuleDocs.Source.Literal
import ModuleDocs.Source.Module
import ModuleDocs.Source.Stmt
import ModuleDocs.Source.Token
import ModuleDocs.Source.Token.Lexer
import ModuleDocs.Source.Token.Numeral
import ModuleDocs.Storage.Disk
import ModuleDocs.Storage.Source
import ModuleDocs.Storage.Target
import ModuleDocs.Template.Basic
import ModuleDocs.Template.Reader
import ModuleDocs.Template.Token
import ModuleDocs.Text.Basic
import ModuleDocs.Text.Blank
import ModuleDocs.Text.CodeTable
import ModuleDocs.Text.Compatibility
import ModuleDocs.Text.Identifier
import ModuleDocs.Text.Printable
import ModuleDocs.Text.Quoted
import ModuleDocs.Text.Uppercase
import ModuleDocs.Text.Utf8
import ModuleDocs.Text.Width
import ModuleDocs.Value.Basic
import ModuleDocs.Value.Json
import ModuleDocs.Walk
import ModuleDocs.Yaml.Cursor
import ModuleDocs.Yaml.Document
import ModuleDocs.Yaml.Scalar
import ModuleDocs.Yaml.Token
import ModuleDocs.Proofs.Command.Inspect
import ModuleDocs.Proofs.Console.Laws
import ModuleDocs.Proofs.Console.Layout
import ModuleDocs.Proofs.Console.Literal
import ModuleDocs.Proofs.Console.Wrap
import ModuleDocs.Proofs.Entries
import ModuleDocs.Proofs.Storage.Resolution
import ModuleDocs.Proofs.Storage.Growth
import ModuleDocs.Proofs.Storage.FailedWrite
import ModuleDocs.Proofs.TextOrder
import ModuleDocs.Proofs.Walk.Trail
import ModuleDocs.Proofs.Run.Document
import ModuleDocs.Proofs.Storage.LinkFree
import ModuleDocs.Proofs.Storage.Shape
import ModuleDocs.Proofs.Walk.Exact
import ModuleDocs.Proofs.Run.FailFast
import ModuleDocs.Proofs.Run.Logged
import ModuleDocs.Proofs.Walk.Replay
import ModuleDocs.Proofs.Run.Undisturbed
import ModuleDocs.Proofs.Run.Rerun
import ModuleDocs.Proofs.Page.Decode
import ModuleDocs.Proofs.Run.Mirror
import ModuleDocs.Proofs.Faults
import ModuleDocs.Proofs.Interface.Declared
import ModuleDocs.Proofs.Source.Flaw
import ModuleDocs.Proofs.Alias.References
import ModuleDocs.Proofs.Alias.Expands
import ModuleDocs.Proofs.Alias.Cycles
import ModuleDocs.Proofs.Alias.Termination
import ModuleDocs.Proofs.Alias.Reachable
import ModuleDocs.Proofs.Interface.Acceptance
import ModuleDocs.Proofs.Interface.Exported
import ModuleDocs.Proofs.Interface.Aliases
import ModuleDocs.Proofs.Interface.Assignment
import ModuleDocs.Proofs.Interface.Bindings
import ModuleDocs.Proofs.Interface.Unpacking
import ModuleDocs.Proofs.Interface.ExportList
import ModuleDocs.Proofs.Interface.Documented
import ModuleDocs.Proofs.Walk.Halts
import ModuleDocs.Proofs.Page.Encoding
import ModuleDocs.Proofs.Run.Located
import ModuleDocs.Proofs.Settings.PageSuffix
import ModuleDocs.Proofs.Log.Contexts
import ModuleDocs.Proofs.Text.Utf8
import ModuleDocs.Proofs.Storage.SourceText
import ModuleDocs.Proofs.Extract
import ModuleDocs.Proofs.Settings.Sources
import ModuleDocs.Proofs.Settings.Accepted
import ModuleDocs.Proofs.Settings.Precedence
import ModuleDocs.Proofs.Source.Lexing
import ModuleDocs.Proofs.Source.Bounded
import ModuleDocs.Proofs.Source.Measured
import ModuleDocs.Proofs.Source.StringSize
import ModuleDocs.Proofs.Source.Words
import ModuleDocs.Proofs.Source.Parameters
import ModuleDocs.Proofs.Interface.Signature
import ModuleDocs.Proofs.Failure.Context
import ModuleDocs.Proofs.Comments
