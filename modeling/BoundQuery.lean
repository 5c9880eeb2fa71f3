import BoundQuery.Str
import BoundQuery.Chars.Blank
import BoundQuery.Chars.Case
import BoundQuery.Chars.Digit
import BoundQuery.Chars.Printable
import BoundQuery.Chars.Quoted
import BoundQuery.Number.Binary64
import BoundQuery.Number.Shortest
import BoundQuery.Number.Decimal
import BoundQuery.Number.Literal
import BoundQuery.Vocabulary
import BoundQuery.Value.Basic
import BoundQuery.Value.Display
import BoundQuery.Value.Access
import BoundQuery.Error.Basic
import BoundQuery.Error.Report
import BoundQuery.Chars.Split
import BoundQuery.Name
import BoundQuery.Template
import BoundQuery.Marker
import BoundQuery.Parameters.Positional
import BoundQuery.Parameters.Named
import BoundQuery.Parameters.Fragment
import BoundQuery.Parameters.Store
import BoundQuery.Condition.Basic
import BoundQuery.Condition.Filter
import BoundQuery.Condition.Render
import BoundQuery.Value.Integer
import BoundQuery.Config.Basic
import BoundQuery.Config.Mapping
import BoundQuery.Call
import BoundQuery.Validation
import BoundQuery.Statement.Query
import BoundQuery.Statement.Restriction
import BoundQuery.Statement.Select
import BoundQuery.Statement.Insert
import BoundQuery.Statement.Modify
import BoundQuery.GraphQuery.Pattern
import BoundQuery.GraphQuery.Basic
import BoundQuery.GraphQuery.Build
import BoundQuery.GraphQuery.Shortcut
import BoundQuery.Value.Order
import BoundQuery.Json.Basic
import BoundQuery.Json.Text
import BoundQuery.Json.Read
import BoundQuery.Digest.Sha256
import BoundQuery.Document.Section
import BoundQuery.Document.Relational
import BoundQuery.Document.Graph
import BoundQuery.Document.Registry
import BoundQuery.Document.Emit
import BoundQuery.CommandLine.Files
import BoundQuery.CommandLine.World
import BoundQuery.CommandLine.Load
import BoundQuery.CommandLine.Arguments
import BoundQuery.CommandLine.Run
import BoundQuery.Main
import BoundQuery.Proofs.Placeholder.Inscription
import BoundQuery.Proofs.Placeholder.Template
import BoundQuery.Proofs.Name.Characters
import BoundQuery.Proofs.Name.Gates
import BoundQuery.Proofs.Result
import BoundQuery.Proofs.Call
import BoundQuery.Proofs.Condition.Clean
import BoundQuery.Proofs.Condition.Named
import BoundQuery.Proofs.Statement.Reached
import BoundQuery.Proofs.Statement.Clean
import BoundQuery.Proofs.Statement.Numbering
import BoundQuery.Proofs.Condition.Direct
import BoundQuery.Proofs.Statement.Direct
import BoundQuery.Proofs.Statement.Binding
import BoundQuery.Proofs.Placeholder.Bindings
import BoundQuery.Proofs.Placeholder.Renumber
import BoundQuery.Proofs.GraphQuery.Shown
import BoundQuery.Proofs.GraphQuery.Sketch
import BoundQuery.Proofs.GraphQuery.Making
import BoundQuery.Proofs.Condition.Values
import BoundQuery.Proofs.GraphQuery.Draft
import BoundQuery.Proofs.GraphQuery.Session
import BoundQuery.Proofs.GraphQuery.Event
import BoundQuery.Proofs.GraphQuery.Assembly
import BoundQuery.Proofs.GraphQuery.Origin
import BoundQuery.Proofs.GraphQuery.Label
import BoundQuery.Proofs.GraphQuery.Reordering
import BoundQuery.Proofs.GraphQuery.Atomic
import BoundQuery.Proofs.Run
import BoundQuery.Proofs.Statement.Reordering
import BoundQuery.Proofs.TurnedDown
import BoundQuery.Proofs.Alphabet.Basic
import BoundQuery.Proofs.Alphabet.Statement
import BoundQuery.Proofs.Alphabet.GraphQuery
import BoundQuery.Proofs.Condition.Membership
import BoundQuery.Proofs.Condition.Reading
import BoundQuery.Proofs.Alike.Template
import BoundQuery.Proofs.Alike.Condition
import BoundQuery.Proofs.Alike.Statement
import BoundQuery.Proofs.Alike.Pattern
import BoundQuery.Proofs.Alike.GraphQuery
import BoundQuery.Proofs.Alike.Session
import BoundQuery.Proofs.Json.Canonical
import BoundQuery.Proofs.Json.Reading
import BoundQuery.Proofs.Json.Tree
import BoundQuery.Proofs.Document.Fingerprint
import BoundQuery.Proofs.Statement.Count
import BoundQuery.Proofs.Statement.Rows
import BoundQuery.Proofs.Answer
import BoundQuery.Proofs.Condition.Answers
import BoundQuery.Proofs.Document.Shape
import BoundQuery.Proofs.Document.Relational
import BoundQuery.Proofs.GraphQuery.Data
import BoundQuery.Proofs.Document.Graph
import BoundQuery.Proofs.Document.WellShaped
import BoundQuery.Proofs.Config.Marker
import BoundQuery.Proofs.Marker.Decomposition
import BoundQuery.Proofs.Statement.RawFragment
import BoundQuery.Proofs.Parameters.Rewriting
import BoundQuery.Proofs.Parameters.Stem
import BoundQuery.Proofs.Parameters.Family
import BoundQuery.Proofs.Restricting
import BoundQuery.Proofs.Filters
import BoundQuery.Proofs.Shorthand
import BoundQuery.Proofs.Building
import BoundQuery.Proofs.Condition.Miscount
import BoundQuery.Proofs.Statement.Cells
import BoundQuery.Proofs.Statement.Stored
import BoundQuery.Proofs.Condition.Idle
import BoundQuery.Proofs.Condition.Acceptance
import BoundQuery.Proofs.Statement.Clauses
import BoundQuery.Proofs.Statement.OneStore
import BoundQuery.Proofs.Idle
import BoundQuery.Proofs.GraphQuery.Union
import BoundQuery.Proofs.Document.Reordered
import BoundQuery.Proofs.Document.KeyOrder
import BoundQuery.Proofs.GraphQuery.Element
import BoundQuery.Proofs.GraphQuery.Counter
import BoundQuery.Proofs.GraphQuery.ReadBack
import BoundQuery.Proofs.Config.PageSize
import BoundQuery.Proofs.Statement.Tiling
import BoundQuery.Proofs.Placeholder.Separator
import BoundQuery.Proofs.GraphQuery.Separator
import BoundQuery.Proofs.Document.Section
import BoundQuery.Proofs.Document.Shortcut
import BoundQuery.Proofs.Document.LoneName
import BoundQuery.Proofs.Name.Language
import BoundQuery.Proofs.Parameters.Binding
import BoundQuery.Proofs.Chars.Case
import BoundQuery.Proofs.Config.Normal
import BoundQuery.Proofs.Json.Written
import BoundQuery.Proofs.Json.Data
import BoundQuery.Proofs.Number.Decimal
import BoundQuery.Proofs.Json.Grammar
import BoundQuery.Proofs.Reported.Basic
import BoundQuery.Proofs.Reported.Condition
import BoundQuery.Proofs.Reported.Statement
import BoundQuery.Proofs.Reported.Relational
import BoundQuery.Proofs.Reported.GraphQuery
import BoundQuery.Proofs.Reported.Graph
import BoundQuery.Proofs.Reported.Document
import BoundQuery.Proofs.CommandLine.Files
import BoundQuery.Proofs.CommandLine.World
import BoundQuery.Proofs.CommandLine.Printed
import BoundQuery.Proofs.CommandLine.Outcome
import BoundQuery.Proofs.Condition.Composition
