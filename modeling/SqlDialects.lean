import SqlDialects.Probe.ColumnTypes
import SqlDialects.Statement.Row
import SqlDialects.Translation
import SqlDialects.Error.Class
import SqlDialects.Proofs.Lexing.Identifier
import SqlDialects.Proofs.Lexing.Lexer
import SqlDialects.Proofs.Lexing.Scan
import SqlDialects.Proofs.Steps
import SqlDialects.Proofs.Lists
import SqlDialects.Proofs.Traced
import SqlDialects.Proofs.Vocabulary
import SqlDialects.Proofs.Lexing.Rendering
import SqlDialects.Proofs.Binding
import SqlDialects.Proofs.Confinement.Basic
import SqlDialects.Proofs.Confinement.Binding
import SqlDialects.Proofs.Confinement.Shapes
import SqlDialects.Proofs.Confinement.Tables
import SqlDialects.Proofs.Confinement.Translation
import SqlDialects.Proofs.Grouping.Parser
import SqlDialects.Proofs.Grouping.Operation
import SqlDialects.Proofs.Grouping.Unique
import SqlDialects.Proofs.Grouping.Lexer
import SqlDialects.Proofs.Grouping.Rendering
import SqlDialects.Proofs.Grouping.Translation
import SqlDialects.Proofs.Registry.Consistency
import SqlDialects.Proofs.Registry.Freezing
import SqlDialects.Proofs.Resolution.Tables
import SqlDialects.Proofs.Resolution.Contexts
import SqlDialects.Proofs.Resolution.Failures
import SqlDialects.Proofs.Resolution.Order
import SqlDialects.Proofs.Fixed.Showing
import SqlDialects.Proofs.Fixed.Arguments
import SqlDialects.Proofs.Fixed.Rules
import SqlDialects.Proofs.Fixed.Places
import SqlDialects.Proofs.Fixed.Misplaced
import SqlDialects.Proofs.Layout.Indentation
import SqlDialects.Proofs.Statement.Capabilities
import SqlDialects.Proofs.Statement.Verbatim
import SqlDialects.Proofs.Statement.Columns
import SqlDialects.Proofs.Windows.Rules
import SqlDialects.Proofs.Windows.Naming
import SqlDialects.Proofs.Probe.ColumnTypes
import SqlDialects.Proofs.Writing.Lengths
import SqlDialects.Proofs.Writing.Arguments
import SqlDialects.Proofs.Writing.Rules
import SqlDialects.Proofs.Writing.Slots
import SqlDialects.Proofs.Writing.Translation
import SqlDialects.Proofs.Probe.Trace
import SqlDialects.Proofs.Matching.Like
import SqlDialects.Proofs.Matching.Meaning
import SqlDialects.Proofs.Matching.Affixes
import SqlDialects.Proofs.Matching.Constants
import SqlDialects.Proofs.Matching.Folding
import SqlDialects.Proofs.Chains.Syntax
import SqlDialects.Proofs.Chains.Parser
import SqlDialects.Proofs.Chains.Lexer
import SqlDialects.Proofs.Chains.Rendering
import SqlDialects.Proofs.Numbers.Order
import SqlDialects.Proofs.Shapes
import SqlDialects.Proofs.Validation.Outcomes
import SqlDialects.Proofs.Validation.Runs
import SqlDialects.Proofs.Validation.Bounds
import SqlDialects.Proofs.Validation.Comparing
import SqlDialects.Proofs.Validation.Candidates
import SqlDialects.Proofs.Validation.Rejections
import SqlDialects.Proofs.Passing.Walk
import SqlDialects.Proofs.Passing.Arity
import SqlDialects.Proofs.Passing.Spelling
import SqlDialects.Proofs.Passing.Calls
import SqlDialects.Proofs.Passing.Rules
import SqlDialects.Proofs.Statement.Refusals
import SqlDialects.Proofs.Options.Environment
import SqlDialects.Proofs.Readers.Basic
import SqlDialects.Proofs.Readers.Calendar
import SqlDialects.Proofs.Options.Rules
import SqlDialects.Proofs.Options.WeekStart
import SqlDialects.Proofs.Layout.OneLine
import SqlDialects.Proofs.Readers.Names
import SqlDialects.Proofs.Readers.Rows
import SqlDialects.Proofs.Statement.Indented
import SqlDialects.Proofs.Readers.Upserts
import SqlDialects.Proofs.Statement.Agreement
import SqlDialects.Proofs.Lexing.Tables
import SqlDialects.Proofs.Readers.Written
import SqlDialects.Proofs.Readers.LiteralRows
import SqlDialects.Proofs.Readers.Windows
import SqlDialects.Proofs.Conditions
import SqlDialects.Proofs.Conjunctions
