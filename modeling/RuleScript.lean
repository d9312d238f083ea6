import RuleScript.Bounds
import RuleScript.Calendar.Date
import RuleScript.Calendar.Instant
import RuleScript.Calendar.Iso
import RuleScript.Command.Arguments
import RuleScript.Command.Check
import RuleScript.Command.Invocation
import RuleScript.Command.Report
import RuleScript.Decimal.Arithmetic
import RuleScript.Decimal.Basic
import RuleScript.Decimal.Double
import RuleScript.Decimal.Printer
import RuleScript.Decimal.Reader
import RuleScript.Decimal.Rounding
import RuleScript.Double.Nearest
import RuleScript.Double.Shortest
import RuleScript.Json.Basic
import RuleScript.Json.Exchange
import RuleScript.Json.Printer
import RuleScript.Json.Reader
import RuleScript.Main
import RuleScript.Namespace.Basic
import RuleScript.Namespace.Store
import RuleScript.Proofs.Script.Acceptance
import RuleScript.Proofs.Script.Completeness
import RuleScript.Proofs.Script.Grammar
import RuleScript.Proofs.Script.Soundness
import RuleScript.Proofs.Script.Steps
import RuleScript.Registry
import RuleScript.Rounding
import RuleScript.Run.Builtins
import RuleScript.Run.Comparison
import RuleScript.Run.Dates
import RuleScript.Run.Error
import RuleScript.Run.Machine
import RuleScript.Run.Operators
import RuleScript.Run.Trace
import RuleScript.Scope.Basic
import RuleScript.Scope.Signature
import RuleScript.Script.Builtin
import RuleScript.Script.ParseError
import RuleScript.Script.Parser
import RuleScript.Script.Printer
import RuleScript.Script.References
import RuleScript.Script.Tree
import RuleScript.Settings
import RuleScript.Text.Blank
import RuleScript.Text.Folding
import RuleScript.Text.Hidden
import RuleScript.Text.Letter
import RuleScript.Text.Numeral
import RuleScript.Text.Quoted
import RuleScript.Text.Ranges
import RuleScript.Token.Basic
import RuleScript.Token.Lexeme
import RuleScript.Token.Stream
import RuleScript.Value
import RuleScript.Value.Element
import RuleScript.Proofs.Run.Relation
import RuleScript.Proofs.Run.Fuel
import RuleScript.Proofs.Run.Tracing
import RuleScript.Proofs.Run.Effects
import RuleScript.Proofs.Run.Lexical
import RuleScript.Proofs.Text.Lowercase
import RuleScript.Proofs.Namespace.Keys
import RuleScript.Proofs.Run.Footprint
import RuleScript.Proofs.Script.Likeness
import RuleScript.Proofs.Namespace.Lookup
import RuleScript.Proofs.Run.Simulation
import RuleScript.Proofs.Script.Calls
import RuleScript.Proofs.Run.Inputs
import RuleScript.Proofs.Run.Spelling
import RuleScript.Proofs.Decimal.Numeral
import RuleScript.Proofs.Token.Scanning
import RuleScript.Proofs.Script.Readable
import RuleScript.Proofs.Script.Spells
import RuleScript.Proofs.Script.RoundTrip
import RuleScript.Proofs.Token.Segmentation
import RuleScript.Proofs.Script.ErrorPlaces
import RuleScript.Proofs.Namespace.Tidy
import RuleScript.Proofs.Namespace.Stack
import RuleScript.Proofs.Calendar.Range
import RuleScript.Proofs.Run.Errors
import RuleScript.Proofs.Run.Safety
import RuleScript.Proofs.Nesting
import RuleScript.Proofs.Scope.Registration
import RuleScript.Proofs.Script.ErrorOrder
import RuleScript.Proofs.Json.Reload
import RuleScript.Proofs.Namespace.Writing
import RuleScript.Proofs.Namespace.Listing
import RuleScript.Proofs.Run.Assignment
import RuleScript.Proofs.Run.Unsplit
import RuleScript.Proofs.Value.Order
import RuleScript.Proofs.Value.Removal
import RuleScript.Proofs.Value.Extreme
import RuleScript.Proofs.Run.Reading
import RuleScript.Proofs.Decimal.Rational
import RuleScript.Proofs.Decimal.Sum
import RuleScript.Proofs.Value.Exactness
import RuleScript.Proofs.Token.Literal
import RuleScript.Proofs.Decimal.Written
import RuleScript.Proofs.Calendar.Counting
import RuleScript.Proofs.Calendar.Months
import RuleScript.Proofs.Value.Rendering
import RuleScript.Proofs.Run.DateForms
import RuleScript.Proofs.Json.Flattening
import RuleScript.Proofs.Scope.Signatures
import RuleScript.Proofs.Namespace.Elements
import RuleScript.Proofs.Script.Pull
import RuleScript.Proofs.Script.Tracking
import RuleScript.Proofs.Script.Termination
