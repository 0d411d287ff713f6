import SourceLens.CommandLine
import SourceLens.Failure
import SourceLens.FileSystem
import SourceLens.Glob
import SourceLens.Grammar.EcmaScript
import SourceLens.Grammar.Python
import SourceLens.Language
import SourceLens.Main
import SourceLens.Outline.Merge
import SourceLens.Pattern
import SourceLens.Read
import SourceLens.Read.Request
import SourceLens.Search
import SourceLens.Search.Request
import SourceLens.Text.Identifiers
import SourceLens.Value.Layout
import SourceLens.Proofs.Reading
import SourceLens.Proofs.Tree.Decodable
import SourceLens.Proofs.Grammar.Totality
import SourceLens.Proofs.EcmaScript.Totality
import SourceLens.Proofs.Grammar.Survey
import SourceLens.Proofs.EcmaScript.Contribution
import SourceLens.Proofs.EcmaScript.Targets
import SourceLens.Proofs.Python.Totality
import SourceLens.Proofs.Python.Contribution
import SourceLens.Proofs.Python.Targets
import SourceLens.Proofs.FunctionTargets
import SourceLens.Proofs.Outline.Merge
import SourceLens.Proofs.Qualifier
import SourceLens.Proofs.Fields
import SourceLens.Proofs.Read.Extraction
import SourceLens.Proofs.EntityTargets
import SourceLens.Proofs.EcmaScript.Symbols
import SourceLens.Proofs.Python.Symbols
import SourceLens.Proofs.SymbolAgreement
import SourceLens.Proofs.Python.Exports
import SourceLens.Proofs.MemberTargets
import SourceLens.Proofs.Read.Breakage
import SourceLens.Proofs.Text.Lines
import SourceLens.Proofs.Tree.WellFormed
import SourceLens.Proofs.Window
import SourceLens.Proofs.TargetExactness
import SourceLens.Proofs.Path
import SourceLens.Proofs.FileSystem
import SourceLens.Proofs.Search.Discovery
import SourceLens.Proofs.Search.Concatenation
import SourceLens.Proofs.Text.ByteLines
import SourceLens.Proofs.Read.Errors
import SourceLens.Proofs.Read.Bytes
import SourceLens.Proofs.Search.Views
import SourceLens.Proofs.Outline.Separation
import SourceLens.Proofs.Outline.Coverage
import SourceLens.Proofs.Outline.Precedence
import SourceLens.Proofs.Window.Contiguity
import SourceLens.Proofs.Window.Agreement
import SourceLens.Proofs.Request
import SourceLens.Proofs.Read.Rejection
import SourceLens.Proofs.Settings
import SourceLens.Proofs.CommandLine
import SourceLens.Proofs.Text.Case
import SourceLens.Proofs.Tree.Breakage
import SourceLens.Proofs.Search.Filters
import SourceLens.Proofs.Search.Reach
import SourceLens.Proofs.Text.Lenient
import SourceLens.Proofs.Column
import SourceLens.Proofs.Tree.Ancestry
import SourceLens.Proofs.Tree.Nesting
import SourceLens.Proofs.ClassFunctions
import SourceLens.Proofs.TargetHints
import SourceLens.Proofs.Python.ClassBody
import SourceLens.Proofs.Python.Methods
import SourceLens.Proofs.Check
import SourceLens.Proofs.Read.Validation
import SourceLens.Proofs.Settings.Sections
import SourceLens.Proofs.Qualifier.RoundTrip
import SourceLens.Proofs.Tree.Flat
import SourceLens.Proofs.Tree.Order
import SourceLens.Proofs.Scope
import SourceLens.Proofs.Tree.Replacement
import SourceLens.Proofs.Python.Literals
import SourceLens.Proofs.EcmaScript.Patterns
