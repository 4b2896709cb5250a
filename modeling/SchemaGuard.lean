import SchemaGuard.Number.Shortest
import SchemaGuard.Table
import SchemaGuard.Number.Numeral
import SchemaGuard.Unicode.Case
import SchemaGuard.Text.Quoted
import SchemaGuard.Text.Search
import SchemaGuard.Value.Equality
import SchemaGuard.Value.Text
import SchemaGuard.Value.Kind
import SchemaGuard.Unicode.Script
import SchemaGuard.Pattern.Reader
import SchemaGuard.Pattern.Search
import SchemaGuard.Pattern.Compiled
import SchemaGuard.Expr.ParseError
import SchemaGuard.Expr.Lexer
import SchemaGuard.Expr.Parser
import SchemaGuard.Function.Library
import SchemaGuard.Engine
import SchemaGuard.Model.Schema
import SchemaGuard.Catalog
import SchemaGuard.Proofs.Outcome
import SchemaGuard.Proofs.Program.Failure
import SchemaGuard.Proofs.Program.Uses
import SchemaGuard.Proofs.Program.Refusal
import SchemaGuard.Proofs.Program.Coupling
import SchemaGuard.Proofs.Program.Guarding
import SchemaGuard.Proofs.Validator.Screening
import SchemaGuard.Proofs.Model.Validators
import SchemaGuard.Proofs.Model.Totality
import SchemaGuard.Proofs.Model.Unrestricted
import SchemaGuard.Proofs.Program.Frame
import SchemaGuard.Proofs.Table
import SchemaGuard.Proofs.Validator.Overlay
import SchemaGuard.Proofs.Program.Calls
import SchemaGuard.Proofs.Program.Shadowing
import SchemaGuard.Proofs.Source.Reading
import SchemaGuard.Proofs.Source.Scanning
import SchemaGuard.Proofs.Source.Sequence
import SchemaGuard.Proofs.Validator.ItemCheck
import SchemaGuard.Proofs.Validator.ItemLoop
import SchemaGuard.Proofs.Model.Attribution
import SchemaGuard.Proofs.Model.Collections
import SchemaGuard.Proofs.Model.UnknownEntries
import SchemaGuard.Proofs.Model.Rebuilding
import SchemaGuard.Proofs.Source.Limits
import SchemaGuard.Proofs.Program.Limits
import SchemaGuard.Proofs.Source.Nesting
import SchemaGuard.Proofs.Program.Nesting
import SchemaGuard.Proofs.Model.Mirror
import SchemaGuard.Proofs.Model.Joining
import SchemaGuard.Proofs.Model.Defects
import SchemaGuard.Proofs.Model.Faults
import SchemaGuard.Proofs.Model.RecordNames
import SchemaGuard.Proofs.Catalog
import SchemaGuard.Proofs.NameOrder
import SchemaGuard.Proofs.Catalog.History
import SchemaGuard.Proofs.Datum
import SchemaGuard.Proofs.Document
import SchemaGuard.Proofs.Source.Dedent
import SchemaGuard.Proofs.Source.Layout
import SchemaGuard.Proofs.Source.Productions
import SchemaGuard.Proofs.Source.PrintedTokens
import SchemaGuard.Proofs.Source.Spelling
import SchemaGuard.Proofs.Source.PrintedText
import SchemaGuard.Proofs.Number
import SchemaGuard.Proofs.Program.Arithmetic
import SchemaGuard.Proofs.Files
import SchemaGuard.Proofs.Discovery
import SchemaGuard.Proofs.Equality
import SchemaGuard.Proofs.Model.Sets
import SchemaGuard.Proofs.Blanks
import SchemaGuard.Proofs.Source.Relining
import SchemaGuard.Proofs.Source.Pieces
import SchemaGuard.Proofs.Source.Remarks
import SchemaGuard.Proofs.Source.FirstLine
import SchemaGuard.Proofs.Source.Insertion
import SchemaGuard.Proofs.Rounding
import SchemaGuard.Proofs.Constraint.Bounds
import SchemaGuard.Proofs.Equivalence
import SchemaGuard.Proofs.Model.Sizes
import SchemaGuard.Proofs.SetAlgebra
import SchemaGuard.Proofs.Sorting
import SchemaGuard.Proofs.IntegerFunctions
import SchemaGuard.Proofs.Widths
import SchemaGuard.Proofs.FunctionWidths
import SchemaGuard.Proofs.Validator.Bindings
import SchemaGuard.Proofs.Program.Occurrence
import SchemaGuard.Proofs.Program.Factors
import SchemaGuard.Proofs.Program.Growth
import SchemaGuard.Proofs.Program.Chains
import SchemaGuard.Proofs.Program.Counter
import SchemaGuard.Proofs.Program.Sequences
import SchemaGuard.Proofs.Constraint.Applicability
import SchemaGuard.Proofs.Substitution
import SchemaGuard.Proofs.Source.Blocks
import SchemaGuard.Proofs.Source.Progress
