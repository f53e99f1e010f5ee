import QueryLint.Annotation
import QueryLint.Document.Basic
import QueryLint.Document.Snippet
import QueryLint.Engine.Basic
import QueryLint.Engine.Scan
import QueryLint.Engine.Selection
import QueryLint.Fault
import QueryLint.Finding.Basic
import QueryLint.Json.Printer
import QueryLint.Json.Reader
import QueryLint.Limits
import QueryLint.LineTable
import QueryLint.Literal
import QueryLint.Log
import QueryLint.NameSet
import QueryLint.Proofs.Annotation.Grammar
import QueryLint.Proofs.Annotation.RoundTrip
import QueryLint.Proofs.Document.Linking
import QueryLint.Proofs.Document.Links
import QueryLint.Proofs.Document.Snippet
import QueryLint.Proofs.Engine.Choice
import QueryLint.Proofs.Engine.Contribution
import QueryLint.Proofs.Engine.Settled
import QueryLint.Proofs.Engine.Sharing
import QueryLint.Proofs.Json.RoundTrip
import QueryLint.Proofs.Json.Scalars
import QueryLint.Proofs.Limits
import QueryLint.Proofs.Literal.Keywords
import QueryLint.Proofs.Parallel.Completion
import QueryLint.Proofs.Parallel.Invariant
import QueryLint.Proofs.Parallel.Machine
import QueryLint.Proofs.Parallel.Report
import QueryLint.Proofs.Reference.Budget
import QueryLint.Proofs.Reference.Grammar
import QueryLint.Proofs.Reference.Leftmost
import QueryLint.Proofs.Reference.Letters
import QueryLint.Proofs.Reference.Listing
import QueryLint.Proofs.Reference.Longest
import QueryLint.Proofs.Reference.Loss
import QueryLint.Proofs.Reference.Pieces
import QueryLint.Proofs.Reference.Seams
import QueryLint.Proofs.Reference.Spacing
import QueryLint.Proofs.Registry.Caching
import QueryLint.Proofs.Registry.Renewal
import QueryLint.Proofs.Registry.Run
import QueryLint.Proofs.Registry.Standing
import QueryLint.Proofs.Report.Decoding
import QueryLint.Proofs.Report.Order
import QueryLint.Proofs.Report.Sorting
import QueryLint.Proofs.SafeVariables
import QueryLint.Proofs.SafeVariables.Frozen
import QueryLint.Proofs.Session.Basis
import QueryLint.Proofs.Session.Frame
import QueryLint.Proofs.Session.Isolation
import QueryLint.Proofs.Session.Repetition
import QueryLint.Proofs.Settings.Nearest
import QueryLint.Proofs.Settings.Precedence
import QueryLint.Proofs.Settings.RoundTrip
import QueryLint.Proofs.Statement.Chain
import QueryLint.Proofs.Statement.Halting
import QueryLint.Proofs.Statement.Locality
import QueryLint.Proofs.Statement.Origins
import QueryLint.Proofs.Statement.Reading
import QueryLint.Proofs.Statement.Surroundings
import QueryLint.Proofs.Suppression.Comment
import QueryLint.Proofs.Suppression.Insertion
import QueryLint.Proofs.Suppression.Table
import QueryLint.Proofs.Text.Lines
import QueryLint.Proofs.Text.Quoted
import QueryLint.Proofs.Text.Readers
import QueryLint.Proofs.Value.Display
import QueryLint.Proofs.Whitelisting
import QueryLint.Reference.Extract
import QueryLint.Reference.Word
import QueryLint.Registry
import QueryLint.Rule.Basic
import QueryLint.Rule.Injection
import QueryLint.Rule.Scripted
import QueryLint.SafeVariables
import QueryLint.ScanReport
import QueryLint.Session
import QueryLint.Settings.Basic
import QueryLint.Settings.FileTree
import QueryLint.Settings.Files
import QueryLint.Severity
import QueryLint.Statement
import QueryLint.Suppression
import QueryLint.Text.Blank
import QueryLint.Text.Case
import QueryLint.Text.CaseRanges
import QueryLint.Text.Digits
import QueryLint.Text.Erase
import QueryLint.Text.Letter
import QueryLint.Text.LetterRanges
import QueryLint.Text.Lines
import QueryLint.Text.PrintableRanges
import QueryLint.Text.Quoted
import QueryLint.Text.Units
import QueryLint.Text.Word
import QueryLint.Token
import QueryLint.Value.Basic
import QueryLint.Value.Decimal
import QueryLint.Value.Display
import QueryLint.Value.Floating
import QueryLint.Value.Key
import QueryLint.Value.Shortest
import QueryLint.Yaml.Cursor
import QueryLint.Yaml.Reader
import QueryLint.Yaml.Scalar
import QueryLint.Yaml.Text
import QueryLint.Yaml.Token
import QueryLint.Yaml.Tree
