import NamedSql.Binding
import NamedSql.Cache
import NamedSql.Cache.Machine
import NamedSql.Context
import NamedSql.Dict
import NamedSql.Draft
import NamedSql.Error
import NamedSql.Event
import NamedSql.Expansion
import NamedSql.Layout
import NamedSql.Lazy
import NamedSql.Lazy.Machine
import NamedSql.Occurrence
import NamedSql.OnceCell
import NamedSql.Plan
import NamedSql.Prepared
import NamedSql.Proofs.Agreement
import NamedSql.Proofs.Callers
import NamedSql.Proofs.Cell
import NamedSql.Proofs.Consistency
import NamedSql.Proofs.Counting
import NamedSql.Proofs.Delivery
import NamedSql.Proofs.Expansion
import NamedSql.Proofs.Field
import NamedSql.Proofs.Filling
import NamedSql.Proofs.FixedPoint
import NamedSql.Proofs.Ownership
import NamedSql.Proofs.Progress
import NamedSql.Proofs.QuestionMarks
import NamedSql.Proofs.Rendering
import NamedSql.Proofs.Scan
import NamedSql.Proofs.Seam
import NamedSql.Proofs.Sharing
import NamedSql.Proofs.Splices
import NamedSql.Proofs.Steps
import NamedSql.Proofs.TwoPass
import NamedSql.Proofs.Uses
import NamedSql.Query
import NamedSql.Reference
import NamedSql.Settings
import NamedSql.Statement
import NamedSql.Template
import NamedSql.Text.Alphabetic
import NamedSql.Text.Basic
import NamedSql.Text.Blank
import NamedSql.Text.CharClass
import NamedSql.Text.Connector
import NamedSql.Text.Extender
import NamedSql.Text.Ignorable
import NamedSql.Text.Mark
import NamedSql.Text.Number
import NamedSql.Text.Quoted
import NamedSql.Text.RangeTable
import NamedSql.Text.Recent
import NamedSql.Text.Unprintable
import NamedSql.Value.Basic
import NamedSql.Value.Binary64
import NamedSql.Value.ToValue
import NamedSql.Proofs.Acceptance
import NamedSql.Proofs.Grammar
import NamedSql.Proofs.Joined
import NamedSql.Proofs.Parenthesis
import NamedSql.Proofs.Choices
import NamedSql.Proofs.Composition
import NamedSql.Proofs.Requests
import NamedSql.Proofs.Binding
import NamedSql.Proofs.Spans
import NamedSql.Proofs.Coverage
import NamedSql.Proofs.Padding
import NamedSql.Proofs.Markers
import NamedSql.Proofs.Nesting
import NamedSql.Proofs.Assignment
import NamedSql.Proofs.Decoding
import NamedSql.Buffer
import NamedSql.Proofs.Offsets
import NamedSql.Proofs.Capacities
import NamedSql.Proofs.Relabelling
import NamedSql.Proofs.Renaming
import NamedSql.Store
import NamedSql.Proofs.ValueEquality
import NamedSql.Proofs.Histories
import NamedSql.Token
import NamedSql.Proofs.Crossing
import NamedSql.Proofs.Elements
import NamedSql.Proofs.Equivalence
import NamedSql.Proofs.FloatingPoint
import NamedSql.Proofs.Search
import NamedSql.Proofs.Registry
import NamedSql.Registry
